import TypedClient.Wire.Error
import TypedClient.Wire.Whole

namespace TypedClient.Wire

class MapKey (κ : Type) where
  parse : String → Except KeyFault κ

def parseKey (bits : Nat) (s : String) : Except KeyFault Int :=
  (Text.parseInt bits s.toList).mapError .number

instance : MapKey String := ⟨.ok⟩

instance : MapKey Bool where
  parse
    | "true" => .ok true
    | "false" => .ok false
    | _ => .error .notBool

instance {bits : Nat} : MapKey (Whole bits) := ⟨fun s => (parseKey bits s).map .mk⟩

variable {κ α : Type}

def bindKey [DecidableEq κ] (key : κ) (value : α) : List (κ × α) → List (κ × α)
  | [] => [(key, value)]
  | (k, v) :: ps => if k = key then (key, value) :: ps else (k, v) :: bindKey key value ps

def readKey [MapKey κ] (s : String) : Except CallError κ :=
  (MapKey.parse s).mapError fun fault => .invalidMapKey s fault.describe

/-- The map with its keys read. Of texts for the same key the last one binds it. -/
def rekey [MapKey κ] [DecidableEq κ] (ps : List (String × α)) : Except CallError (List (κ × α)) :=
  ps.foldlM (fun read p => do return bindKey (← readKey p.1) p.2 read) []

end TypedClient.Wire
