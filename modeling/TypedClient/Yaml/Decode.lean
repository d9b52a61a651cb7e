import TypedClient.Serialized
import TypedClient.Yaml.Node

namespace TypedClient.Yaml

structure Value where
  node : Node
  nodes : List (Nat × Node)

namespace Value

variable (v : Value)

def target : Node :=
  match v.node with
  | .alias slot => (v.nodes.lookup slot).getD .void
  | n => n

def child (n : Node) : Value := ⟨n, v.nodes⟩

def isNullWord (text : List Char) : Bool :=
  ["null", "Null", "NULL", "~"].contains (String.ofList text)

def nullTag : List Char := "tag:yaml.org,2002:null".toList

def boolTag : List Char := "tag:yaml.org,2002:bool".toList

def text? : Option String :=
  match v.target with
  | .scalar _ _ text => some (String.ofList text)
  | _ => none

def boolOf? (text : List Char) : Option Bool :=
  if ["true", "True", "TRUE"].contains (String.ofList text) then some true
  else if ["false", "False", "FALSE"].contains (String.ofList text) then some false
  else none

def bool? : Option Bool :=
  match v.target with
  | .scalar .plain _ text => boolOf? text
  | .scalar .literal tag text => if tag = some boolTag then boolOf? text else none
  | _ => none

/-- A plain null is the absent value; what is tagged as null has to be one. -/
def optional? : Option (Option Value) :=
  match v.target with
  | .void => some none
  | .scalar .plain tag text =>
    if tag = some nullTag then (if isNullWord text then some none else none)
    else if tag.isNone && (text.isEmpty || isNullWord text) then some none
    else some (some v)
  | _ => some (some v)

def variant? : Option String :=
  match v.target with
  | .scalar style (some ('!' :: name)) text =>
    if style = .plain && (text.isEmpty || isNullWord text) then some (String.ofList name) else none
  | _ => v.text?

def list? : Option (List Value) :=
  match v.target with
  | .list elements => some (elements.map v.child)
  | .scalar .plain _ [] | .void => some []
  | _ => none

def entries? : Option (List (String × Value)) :=
  match v.target with
  | .map entries => entries.mapM fun p => (v.child p.1).text?.map (·, v.child p.2)
  | .scalar .plain _ [] | .void => some []
  | _ => none

instance : Serialized Value where
  text? := text?
  bool? := bool?
  optional? := optional?
  variant? := variant?
  list? := list?
  entries? := entries?
  record? v := v.entries?.map .named
  maxDepth := 128

end Value

def readValue? (cs : List Char) : Option Value :=
  (read? cs).map fun d => ⟨d.root, d.nodes⟩

end TypedClient.Yaml
