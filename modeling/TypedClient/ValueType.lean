namespace TypedClient

abbrev ClassId := Nat

inductive Scalar
  | bool | int32 | int64 | float32 | float64 | string
deriving DecidableEq, Repr

inductive ValueType
  | scalar (s : Scalar)
  | dynamicMap
  | list (element : ValueType)
  | map (key element : ValueType)
  | reference (c : ClassId)
  | pointer (t : ValueType)
  | external (name : String)
deriving DecidableEq, Repr

namespace Scalar

/-- The keyword of a scalar in the reference. An int has 32 bits and a long has 64. -/
def keyword : Scalar → String
  | bool => "boolean"
  | int32 => "int"
  | int64 => "long"
  | float32 => "float"
  | float64 => "double"
  | string => "string"

def ofKeyword? : String → Option Scalar
  | "boolean" => some bool
  | "int" => some int32
  | "long" => some int64
  | "float" => some float32
  | "double" => some float64
  | "string" => some string
  | _ => none

def name : Scalar → String
  | bool => "bool"
  | int32 => "int32"
  | int64 => "int64"
  | float32 => "float32"
  | float64 => "float64"
  | string => "string"

def ofName? : String → Option Scalar
  | "bool" => some bool
  | "int32" => some int32
  | "int64" => some int64
  | "float32" => some float32
  | "float64" => some float64
  | "string" => some string
  | _ => none

/-- Floating point keys have no reliable equality. -/
def canBeKey : Scalar → Bool
  | float32 | float64 => false
  | _ => true

theorem ofKeyword?_keyword (s : Scalar) : ofKeyword? s.keyword = some s := by cases s <;> rfl

theorem ofKeyword?_eq_some_iff {text : String} {s : Scalar} :
    ofKeyword? text = some s ↔ text = s.keyword := by
  constructor
  · intro h
    unfold ofKeyword? at h
    split at h <;> cases h <;> rfl
  · rintro rfl
    exact ofKeyword?_keyword s

end Scalar

namespace ValueType

def isMap : ValueType → Bool
  | map .. => true
  | _ => false

def withKey? (s : Scalar) : ValueType → Option ValueType
  | map _ element => some (map (scalar s) element)
  | _ => none

def class? : ValueType → Option ClassId
  | reference c => some c
  | pointer t => t.class?
  | _ => none

def describe (className : ClassId → String) : ValueType → String
  | scalar s => s.keyword
  | dynamicMap => "object"
  | list element => "List[" ++ element.describe className ++ "]"
  | map key element =>
    "Map[" ++ key.describe className ++ ", " ++ element.describe className ++ "]"
  | reference c => className c
  | pointer t => "*" ++ t.describe className
  | external name => name

end ValueType

end TypedClient
