import TypedClient.Text.Number
import TypedClient.Text.Utf8

namespace TypedClient.Wire

inductive KeyFault
  | number (fault : Text.NumberFault)
  | notBool
deriving DecidableEq, Repr

def KeyFault.describe : KeyFault → String
  | number fault => fault.describe
  | notBool => "provided string was not \x60true\x60 or \x60false\x60"

inductive TemplateFault
  | unclosed
  | empty
  | unsupported (name : String)
  | unmatched
deriving DecidableEq, Repr

def TemplateFault.describe : TemplateFault → String
  | unclosed => "unclosed expression"
  | empty => "empty expression"
  | unsupported name => "unsupported expression \x7b" ++ name ++ "\x7d"
  | unmatched => "unmatched '\x7d'"

inductive CallError
  | keyRequired
  | rateLimited
  | unavailable
  | api (status : Nat) (body : String)
  | unsupportedRegion (name : String)
  | invalidArgument (text : String)
  | invalidMapKey (key reason : String)
  | badTemplate (template reason : String)
  | transport (text : String)
  | decode
deriving DecidableEq, Repr

namespace CallError

def message : CallError → String
  | keyRequired => "An api key is required (HTTP 401)"
  | rateLimited => "Rate limit exceeded (HTTP 429)"
  | unavailable => "Service unavailable (HTTP 503)"
  | api status body => s!"Api returned HTTP {status}: {body}"
  | unsupportedRegion name => s!"Region {name} is not supported by this operation"
  | invalidArgument text => s!"Invalid argument: {text}"
  | invalidMapKey key reason => s!"Invalid map key \"{key}\": {reason}"
  | badTemplate template reason => s!"Invalid uri template \"{template}\": {reason}"
  | transport text => s!"Transport error: {text}"
  | decode => "Decode error"

/-- The error that a status stands for. The body is read leniently. -/
def ofStatus (status : Nat) (body : List UInt8) : CallError :=
  match status with
  | 401 => keyRequired
  | 429 => rateLimited
  | 503 => unavailable
  | _ => api status (String.ofList (Text.Utf8.decodeLossy body))

def status? : CallError → Option Nat
  | keyRequired => some 401
  | rateLimited => some 429
  | unavailable => some 503
  | api status _ => some status
  | _ => none

end CallError

end TypedClient.Wire
