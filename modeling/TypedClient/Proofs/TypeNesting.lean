import TypedClient.Proofs.Text.Trimming
import TypedClient.Proofs.TypeGrammar

namespace TypedClient.TypeText

open Text

section

variable (config : Config) (classes : String → Option ClassId) (resource : String)

/-- A text is built around a part that stands for a type: with blanks, as the element of a list or as one
side of a map. -/
inductive Within (part : List Char) (t : ValueType) : List Char → ValueType → Prop
  | alone : Within part t part t
  | blanks {before text after : List Char} {u : ValueType} (hbefore : ∀ x ∈ before, isBlank x)
    (hafter : ∀ x ∈ after, isBlank x) (h : Within part t text u) :
    Within part t (before ++ text ++ after) u
  | list {container : String} {text : List Char} {u : ValueType}
    (hc : container = "List" ∨ container = "Set") (h : Within part t text u) :
    Within part t (container.toList ++ '[' :: text ++ [']']) (.list u)
  | key {text right : List Char} {u element : ValueType} (h : Within part t text u)
    (he : resolve config classes resource right = .ok element) :
    Within part t ("Map[".toList ++ text ++ ',' :: right ++ [']']) (.map u element)
  | element {left text : List Char} {key u : ValueType}
    (hk : resolve config classes resource left = .ok key) (h : Within part t text u) :
    Within part t ("Map[".toList ++ left ++ ',' :: text ++ [']']) (.map key u)

end

variable {config : Config} {classes : String → Option ClassId} {resource : String}

theorem Denotes.of_trim_eq {text text' : List Char} {t : ValueType}
    (h : Denotes config classes resource text t) (htrim : trim text' = trim text) :
    Denotes config classes resource text' t := by
  cases h with
  | scalar h => exact .scalar (htrim.trans h)
  | dynamicMap h => exact .dynamicMap (htrim.trans h)
  | list hc h he => exact .list hc (htrim.trans h) he
  | map h hk he => exact .map (htrim.trans h) hk he
  | name hn hb hs ho hc =>
    rw [← htrim] at hn hb hs ho hc
    exact .name hn hb hs ho hc

theorem trim_bracketed {container : String} (hc : container = "List" ∨ container = "Set" ∨ container = "Map")
    (inner : List Char) :
    trim (container.toList ++ '[' :: inner ++ [']']) = container.toList ++ '[' :: inner ++ [']'] := by
  apply trim_eq_self
  constructor
  · intro c h
    have hfirst : c = 'L' ∨ c = 'S' ∨ c = 'M' := by
      obtain rfl | rfl | rfl := hc <;> simp at h <;> simp [← h]
    obtain rfl | rfl | rfl := hfirst <;> decide
  · intro c h
    rw [List.getLast?_concat, Option.some.injEq] at h
    rw [← h]
    decide

/-- If the part is read as its type, then so is the whole text. -/
theorem Within.resolve_eq {part text : List Char} {t u : ValueType}
    (hpart : resolve config classes resource part = .ok t)
    (h : Within config classes resource part t text u) :
    resolve config classes resource text = .ok u := by
  apply resolve_of_denotes
  induction h with
  | alone => exact denotes_of_resolve hpart
  | blanks hbefore hafter _ ih => exact ih.of_trim_eq (trim_blanks hbefore hafter _)
  | list hc _ ih =>
    apply Denotes.list hc _ ih
    exact trim_bracketed (hc.imp_right .inl) _
  | @key text right _ _ _ he ih =>
    apply Denotes.map _ ih (denotes_of_resolve he)
    simpa using trim_bracketed (.inr (.inr rfl)) (text ++ ',' :: right)
  | @element left text _ _ hk _ ih =>
    apply Denotes.map _ (denotes_of_resolve hk) ih
    simpa using trim_bracketed (.inr (.inr rfl)) (left ++ ',' :: text)

end TypedClient.TypeText
