import TypedClient.Failure
import TypedClient.Text.Basic

namespace TypedClient

inductive DocumentFormat
  | json | yaml
deriving DecidableEq, Repr

namespace DocumentFormat

def ofName (name : String) : Except Failure DocumentFormat :=
  let lower := Text.onChars (·.map Char.toLower) name
  if lower = "json" then .ok json
  else if lower = "yaml" ∨ lower = "yml" then .ok yaml
  else .error (.input (.unknownFormat lower))

/-- The format that a file extension stands for, JSON for all others. -/
def ofExtension : Option String → DocumentFormat
  | some "yaml" | some "yml" => yaml
  | _ => json

end DocumentFormat

end TypedClient
