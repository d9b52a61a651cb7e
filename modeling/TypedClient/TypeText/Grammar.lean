import TypedClient.TypeText

namespace TypedClient.TypeText

open Text

variable (config : Config) (classes : String → Option ClassId) (resource : String)

/-- A text denotes a type. Blanks around any part do not count. -/
inductive Denotes : List Char → ValueType → Prop
  | scalar {text : List Char} {s : Scalar} (h : trim text = s.keyword.toList) :
    Denotes text (.scalar s)
  | dynamicMap {text : List Char} (h : trim text = "object".toList) : Denotes text .dynamicMap
  | list {text inner : List Char} {container : String} {element : ValueType}
    (hc : container = "List" ∨ container = "Set")
    (h : trim text = container.toList ++ '[' :: inner ++ [']'])
    (he : Denotes inner element) : Denotes text (.list element)
  | map {text left right : List Char} {key element : ValueType}
    (h : trim text = "Map[".toList ++ left ++ ',' :: right ++ [']'])
    (hk : Denotes left key) (he : Denotes right element) : Denotes text (.map key element)
  | name {text : List Char} {c : ClassId} (hn : trim text ≠ [])
    (hb : ∀ x ∈ trim text, x ≠ '[' ∧ x ≠ ']' ∧ x ≠ ',')
    (hs : ∀ s : Scalar, trim text ≠ s.keyword.toList) (ho : trim text ≠ "object".toList)
    (hc : classes (Naming.className config resource (String.ofList (trim text))) = some c) :
    Denotes text (.pointer (.reference c))

end TypedClient.TypeText
