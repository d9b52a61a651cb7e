import TypedClient.Text.Basic
import TypedClient.Wire.Value

namespace TypedClient.Wire

structure SpellRange where
  isSelf : Bool := false
  ranges : List Int := []
deriving DecidableEq, Repr

namespace SpellRange

def selfTargeted : SpellRange := { isSelf := true }

def memberName : String := "Ranges"

def ranges? : Json → Option (List Int)
  | .array elements => elements.mapM (wholeNumber? 32)
  | _ => none

def ofJson? : Json → Option SpellRange
  | .string (some s) => if s = "self" then some selfTargeted else none
  | .array elements => (ranges? (.array elements)).map fun rs => { ranges := rs }
  | .object members =>
    match members.filter (·.1 = some memberName) with
    | [] => some {}
    | [(_, list)] => (ranges? list).map fun rs => { ranges := rs }
    | _ => none
  | _ => none

instance : Readable SpellRange where
  read? j := do
    let _ ← Value.ofJson? maxDepth j
    ofJson? j

def encode (r : SpellRange) : String :=
  if r.isSelf then "\"self\"" else "[" ++ Text.joinWith "," (r.ranges.map toString) ++ "]"

end SpellRange

end TypedClient.Wire
