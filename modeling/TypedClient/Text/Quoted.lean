import TypedClient.Text.Basic
import TypedClient.Text.Printable

namespace TypedClient.Text.Quoted

def escape (c : Char) : List Char :=
  match c with
  | '\x00' => ['\\', '0']
  | '\t' => ['\\', 't']
  | '\r' => ['\\', 'r']
  | '\n' => ['\\', 'n']
  | '"' => ['\\', '"']
  | '\\' => ['\\', '\\']
  | _ =>
    if isPrintable c then [c]
    else ['\\', 'u', '{'] ++ Nat.toDigits 16 c.toNat ++ ['}']

def quote (cs : List Char) : List Char := '"' :: cs.flatMap escape ++ ['"']

def escaped? : Char → Option Char
  | '0' => some '\x00'
  | 't' => some '\t'
  | 'r' => some '\r'
  | 'n' => some '\n'
  | '"' => some '"'
  | '\'' => some '\''
  | '\\' => some '\\'
  | _ => none

/-- The text of a literal after its opening quote. Within the braces of an escape, `code` is how
many digits are read and their value. -/
def unquoteFrom? (code : Option (Nat × Nat)) : List Char → Option (List Char)
  | [] => none
  | c :: cs =>
    match code with
    | some (count, value) =>
      if c = '}' then
        if 0 < count ∧ count ≤ 6 ∧ value.isValidChar then
          (unquoteFrom? none cs).map (Char.ofNat value :: ·)
        else none
      else do unquoteFrom? (some (count + 1, 16 * value + (← hexDigit? c))) cs
    | none =>
      if c = '"' then (if cs.isEmpty then some [] else none)
      else if c = '\\' then
        match cs with
        | 'u' :: '{' :: cs => unquoteFrom? (some (0, 0)) cs
        | e :: cs => do return (← escaped? e) :: (← unquoteFrom? none cs)
        | [] => none
      else (unquoteFrom? none cs).map (c :: ·)

def unquote? : List Char → Option (List Char)
  | '"' :: cs => unquoteFrom? none cs
  | _ => none

end TypedClient.Text.Quoted

namespace TypedClient

def quoted (s : String) : String := String.ofList (Text.Quoted.quote s.toList)

def quotedList (ss : List String) : String :=
  "[" ++ Text.joinWith ", " (ss.map quoted) ++ "]"

end TypedClient
