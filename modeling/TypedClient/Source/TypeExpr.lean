import TypedClient.Failure
import TypedClient.Registry.Basic

namespace TypedClient.Source

inductive TypeExpr
  | path (name : String)
  | one (head : String) (argument : TypeExpr)
  | two (head : String) (first second : TypeExpr)
deriving DecidableEq, Repr

namespace TypeExpr

def text : TypeExpr → String
  | path name => name
  | one head argument => head ++ "<" ++ argument.text ++ ">"
  | two head first second => head ++ "<" ++ first.text ++ ", " ++ second.text ++ ">"

def optional (t : TypeExpr) : TypeExpr := one "Option" t

def list (t : TypeExpr) : TypeExpr := one "Vec" t

def map (key element : TypeExpr) : TypeExpr := two "HashMap" key element

def result (t : TypeExpr) : TypeExpr := two "Result" t (path "rt::Error")

end TypeExpr

def scalarName : Scalar → String
  | .bool => "bool"
  | .int32 => "i32"
  | .int64 => "i64"
  | .float32 => "f32"
  | .float64 => "f64"
  | .string => "String"

variable (r : Registry)

def keyExpr (t : ValueType) : Except Failure TypeExpr :=
  match t with
  | .scalar s =>
    if s.canBeKey then .ok (.path (scalarName s))
    else .error (.generation (.unhashableKey (t.describe r.className)))
  | _ => .error (.generation (.unhashableKey (t.describe r.className)))

/-- The type of a value. Values are owned, so a pointer is what it points to. -/
def typeExpr : ValueType → Except Failure TypeExpr
  | .scalar s => .ok (.path (scalarName s))
  | .dynamicMap => .ok (.map (.path "String") (.path "rt::serde_json::Value"))
  | .list element => do return .list (← typeExpr element)
  | .map key element => do return .map (← keyExpr r key) (← typeExpr element)
  | .reference c => .ok (.path (r.className c))
  | .pointer t => typeExpr t
  | .external name => .ok (.path ("rt::" ++ name))

/-- The type of a field. It is always optional, and a class in it is boxed, so that classes may
contain themselves. -/
def fieldExpr (t : ValueType) : Except Failure TypeExpr := do
  match t with
  | .pointer (.reference c) => return .optional (.one "Box" (.path (r.className c)))
  | _ => return .optional (← typeExpr r t)

def isSendable : ValueType → Bool
  | .scalar _ | .list (.scalar _) => true
  | _ => false

def parameterExpr (rawName : String) (t : ValueType) : Except Failure TypeExpr :=
  if isSendable t then typeExpr r t
  else .error (.generation (.unsendableParameter rawName (t.describe r.className)))

end TypedClient.Source
