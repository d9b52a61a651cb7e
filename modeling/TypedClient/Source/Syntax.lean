import TypedClient.Layout.Basic
import TypedClient.Source.TypeExpr
import TypedClient.Text.Basic
import TypedClient.Text.Quoted

namespace TypedClient.Source

open Layout

def name (s : String) : Doc := word (Text.onChars Text.trim s)

def literal (s : String) : Doc := word (quoted s)

def docLines (text : String) : List (List Char) :=
  match Text.trim text.toList with
  | [] => []
  | cs => (Text.splitAt '\n' cs).map Text.trimEnd

def comment (line : List Char) : String :=
  if line.isEmpty then "///" else "/// " ++ String.ofList line

def docs (text : String) : List String := (docLines text).map comment

def arguments (ds : List Doc) : Doc := word "<" ++ list 4 ds ++ word ">"

def typeDoc : TypeExpr → Doc
  | .path s => name s
  | .one head t => name head ++ arguments [typeDoc t]
  | .two head t u => name head ++ arguments [typeDoc t, typeDoc u]

def parameters (ds : List Doc) : Doc := word "<" ++ list 0 ds ++ word ">"

def passed (ds : List Doc) : Doc := word "(" ++ list 4 ds ++ word ")"

/-- A call whose only argument keeps to the parentheses. -/
def passedClose (d : Doc) : Doc := word "(" ++ d ++ word ")"

def call (function : String) (ds : List Doc) : Doc := word function ++ passed ds

def tuple (ds : List Doc) : Doc := passed ds

def field (s : String) : Doc := word "." ++ name s

def method (s : String) (ds : List Doc) : Doc := word ("." ++ s) ++ box 0 (passed ds)

def methodClose (s : String) (d : Doc) : Doc := word ("." ++ s) ++ box 0 (passedClose d)

/-- A receiver and the steps after it, which break all or none. A short receiver at the start of its
line keeps the first step. -/
def chain (startsLine : Bool) (receiver : String) (steps : List Doc) : Doc :=
  let spread := steps.flatMap (zero ++ ·)
  box 4 (word receiver ++ if startsLine && receiver.length ≤ 4 then spread.tail else spread)

def ownField (s : String) : Doc := chain false "self" [field s]

def reference (d : Doc) : Doc := word "&" ++ d

def statement (d : Doc) : Doc := flow 0 (d ++ word ";")

def value (d : Doc) : Doc := flow 0 d

def letStatement (pattern : Doc) (d : Doc) : Doc :=
  flow 0 (word "let " ++ pattern ++ word " = " ++ never ++ d) ++ word ";"

def assignment (target d : Doc) : Doc :=
  statement (flow 0 (target ++ word " = " ++ never ++ d))

def ifStatement (condition : Doc) (body : List Doc) : Doc :=
  flow 0 (braces (word "if " ++ box (-4) (box 0 (condition ++ space))) body)

def ifPlain (condition : String) (body : List Doc) : Doc :=
  flow 0 (braces (word ("if " ++ condition ++ " ")) body)

/-- An arm of a match. On lines of its own the result is a block. -/
def arm (pattern result : Doc) : Doc :=
  flow 0 (pattern ++ word " => " ++ never ++ box 4
    (brk { before := "\x7b" } ++ result ++ brk { offset := -4, after := "\x7d", closed := "," }))

/-- A closure over one name. A result that does not fit becomes a block. -/
def closure (parameter : String) (result : Doc) : Doc :=
  flow 0 (word ("|" ++ parameter ++ "| ") ++ never ++ box 4
    (brk { before := "\x7b" } ++ result ++ brk { offset := -4, after := "\x7d" }))

def matchClosure (parameter : String) (arms : List Doc) : Doc :=
  flow 0 (word ("|" ++ parameter ++ "| ") ++ never
    ++ flow 0 (braces (word ("match " ++ parameter ++ " ")) arms))

def array (ds : List Doc) : Doc := word "[" ++ list 4 ds ++ word "]"

def constant (head : Doc) (d : Doc) : Doc :=
  box 0 (word "const " ++ head ++ word " = " ++ never ++ d ++ word ";")

def publicConstant (head : Doc) (d : Doc) : Doc :=
  box 0 (word "pub const " ++ head ++ word " = " ++ never ++ d ++ word ";")

def recordWidth : Nat := 34

def record (s : String) (fields : List Doc) : Doc :=
  boxWithin recordWidth 4 (name s ++ word " \x7b" ++
    (if fields.isEmpty then [] else
      space ++ commaSeparated { blanks := 1, offset := -4 } fields)) ++ word "\x7d"

def given (s : String) (d : Doc) : Doc := name s ++ word ": " ++ flow 0 d

def declared (s : String) (t : Doc) : Doc := name s ++ word ": " ++ t

def implementation (parameterDocs : List Doc) (target : Doc) (members : List Doc) : Doc :=
  braces (flow (-4) (box 4 (word "impl" ++
    if parameterDocs.isEmpty then [] else parameters parameterDocs)
    ++ word " " ++ target) ++ word " ") members

def function (s : Doc) (inputs : List Doc) (output : Doc) (body : List Doc) : Doc :=
  braces (word "pub fn " ++ s ++ word "(" ++ never ++ list 0 inputs ++ word ")"
    ++ box (-4) (word " -> " ++ output) ++ word " ") body

end TypedClient.Source
