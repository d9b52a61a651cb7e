import TypedClient.Wire.Value

namespace TypedClient.Wire

structure Response where
  status : Nat
  body : List UInt8
deriving DecidableEq, Repr

def Response.isSuccess (r : Response) : Bool := 200 ≤ r.status && r.status < 300

abbrev Transport := String → String → Except CallError Response

def verify (r : Response) : Except CallError Response :=
  if r.isSuccess then .ok r else .error (.ofStatus r.status r.body)

def call (α : Type) [Readable α] (transport : Transport) (method url : String) :
    Except CallError α := do
  decode α (← verify (← transport method url)).body

end TypedClient.Wire
