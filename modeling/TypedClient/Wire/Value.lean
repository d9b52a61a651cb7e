import TypedClient.Json.Reader
import TypedClient.Table
import TypedClient.Text.Utf8
import TypedClient.Wire.Error
import TypedClient.Wire.Whole

namespace TypedClient.Wire

/-- A value of any shape. Of the members of one name an object keeps the last. -/
inductive Value
  | null
  | bool (b : Bool)
  | number (n : JsonNumber)
  | string (s : String)
  | array (elements : List Value)
  | object (members : List (String × Value))

def maxDepth : Nat := 127

def member? {α : Type} (read? : Json → Option α) (p : Option String × Json) :
    Option (String × α) := do
  return (← p.1, ← read? p.2)

namespace Value

def ofJson? : Nat → Json → Option Value
  | _, .null => some .null
  | _, .bool b => some (.bool b)
  | _, .number n => if n.overflows then none else some (.number n)
  | _, .string s => s.map .string
  | 0, .array _ | 0, .object _ => none
  | depth + 1, .array elements => (elements.mapM (ofJson? depth)).map .array
  | depth + 1, .object members =>
    (members.mapM (member? (ofJson? depth))).map fun ps => .object (Table.ofList ps)

end Value

class Readable (α : Type) where
  read? : Json → Option α

def wholeNumber? (bits : Nat) : Json → Option Int
  | .number n => n.toInt?.filter (Whole.fits bits)
  | _ => none

instance : Readable Value := ⟨Value.ofJson? maxDepth⟩

instance : Readable String where
  read?
    | .string s => s
    | _ => none

instance : Readable Bool where
  read?
    | .bool b => some b
    | _ => none

instance {bits : Nat} : Readable (Whole bits) := ⟨fun j => (wholeNumber? bits j).map .mk⟩

instance {α : Type} [Readable α] : Readable (List α) where
  read?
    | .array elements => elements.mapM Readable.read?
    | _ => none

structure Members (α : Type) where
  table : Table α

instance {α : Type} [Readable α] : Readable (Members α) where
  read?
    | .object members =>
      (members.mapM (member? Readable.read?)).map fun ps => ⟨Table.ofList ps⟩
    | _ => none

def decode (α : Type) [Readable α] (body : List UInt8) : Except CallError α :=
  match ((Text.Utf8.decode? body).bind Json.read?).bind Readable.read? with
  | some a => .ok a
  | none => .error .decode

end TypedClient.Wire
