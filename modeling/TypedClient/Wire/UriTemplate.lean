import TypedClient.Wire.Error
import TypedClient.Wire.Percent

namespace TypedClient.Wire.UriTemplate

def isUnreserved (c : Char) : Bool := c.isAlphanum || ['-', '.', '_', '~'].contains c

def encodeOctet (b : UInt8) : List Char :=
  if isUnreserved (asciiChar b) then [asciiChar b] else percent b

def isNameChar (c : Char) : Bool := c.isAlphanum || c == '_' || c == '.'

def nameFault? (name : List Char) : Option TemplateFault :=
  if name.isEmpty then some .empty
  else if name.all isNameChar then none
  else some (.unsupported (String.ofList name))

/-- Where an expansion stands: in a literal, and whether a brace was closed in it; or in an
expression, and its name so far. -/
inductive Position
  | literal (closed : Bool)
  | name (read : List Char)

variable (lookup : String → Option String)

def value (name : List Char) : List Char :=
  (lookup (String.ofList name)).elim [] fun v => percentEncode encodeOctet v.toList

/-- Expands the rest of a template. A closing brace in a literal is only refused if no expression
follows it. -/
def expandFrom : Position → List Char → Except TemplateFault (List Char)
  | .literal closed, [] => if closed then .error .unmatched else .ok []
  | .name _, [] => .error .unclosed
  | .literal closed, c :: cs =>
    if c = '{' then expandFrom (.name []) cs
    else (expandFrom (.literal (closed || c == '}')) cs).map (c :: ·)
  | .name read, c :: cs =>
    if c = '}' then
      match nameFault? read with
      | some fault => .error fault
      | none => (expandFrom (.literal false) cs).map (value lookup read ++ ·)
    else expandFrom (.name (read ++ [c])) cs

def expand (template : String) : Except CallError String :=
  match expandFrom lookup (.literal false) template.toList with
  | .ok cs => .ok (String.ofList cs)
  | .error fault => .error (.badTemplate template fault.describe)

end TypedClient.Wire.UriTemplate
