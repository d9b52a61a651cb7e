namespace TypedClient

inductive Record (V : Type)
  | named (fields : List (String × V))
  | positional (values : List V)

/-- A value of a serial format. Each view is `none` for values of another shape. -/
class Serialized (V : Type) where
  text? : V → Option String
  bool? : V → Option Bool
  optional? : V → Option (Option V)
  variant? : V → Option String
  list? : V → Option (List V)
  entries? : V → Option (List (String × V))
  record? : V → Option (Record V)
  maxDepth : Nat

namespace Serialized

variable {V α : Type} [Serialized V]

/-- The only field of a name, if there is one; two are refused. -/
def onlyField? (fields : List (String × V)) (name : String) : Option (Option V) :=
  match fields.filter (·.1 = name) with
  | [] => some none
  | [(_, v)] => some (some v)
  | _ => none

/-- The values of the named fields in order. Fields of other names are passed over; positions beyond
the last name are refused. -/
def fields? (names : List String) (v : V) : Option (List (Option V)) := do
  match ← record? v with
  | .named fields => names.mapM (onlyField? fields)
  | .positional values =>
    if names.length < values.length then none
    else return values.map some ++ List.replicate (names.length - values.length) none

def orElse (default : α) (read : V → Option α) : Option V → Option α
  | none => some default
  | some v => read v

def listOf? (read : V → Option α) (v : V) : Option (List α) := do (← list? v).mapM read

def entriesOf? (read : V → Option α) (v : V) : Option (List (String × α)) := do
  (← entries? v).mapM fun p => (read p.2).map (p.1, ·)

end Serialized

end TypedClient
