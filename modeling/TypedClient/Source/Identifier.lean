import TypedClient.Text.Basic

namespace TypedClient.Source

open Text

def keywords : List String :=
  ["abstract", "as", "async", "await", "become", "box", "break", "const", "continue", "crate",
   "do", "dyn", "else", "enum", "extern", "false", "final", "fn", "for", "gen", "if", "impl",
   "in", "let", "loop", "macro", "match", "mod", "move", "mut", "override", "priv", "pub", "ref",
   "return", "self", "Self", "static", "struct", "super", "trait", "true", "try", "type",
   "typeof", "unsafe", "unsized", "use", "virtual", "where", "while", "yield"]

/-- The keywords that stay keywords after a raw mark. -/
def firmKeywords : List String := ["crate", "self", "Self", "super"]

def reservedTypes : List String :=
  ["Box", "Client", "HashMap", "Option", "Region", "RegionInfo", "Result", "String", "SystemTime",
   "Vec"]

def builderMembers : List String := ["client", "region", "send", "url"]

def clientMembers : List String := ["new", "transport"]

/-- Whether the last capital of an acronym is followed by a plural s. -/
def isPlural : List Char → Bool
  | 's' :: after => !after.head?.any Char.isLower
  | _ => false

def beginsWord (before : Char) (after : List Char) : Bool :=
  before.isLower || before.isDigit
    || (before.isUpper && after.head?.any Char.isLower && !isPlural after)

def snakeAfter (before : Option Char) : List Char → List Char
  | [] => []
  | c :: cs =>
    (if c.isUpper && before.any (beginsWord · cs) then ['_'] else []) ++ toLower c
      ++ snakeAfter (some c) cs

/-- The snake case of a name. Acronyms stay together, with their plural. -/
def snakeCase : String → String := onChars (snakeAfter none)

/-- The name as an identifier: keywords get a raw mark, or an underscore where that does not help,
and a leading digit an underscore before it. -/
def escapeIdentifier (name : String) : String :=
  if firmKeywords.contains name then name ++ "_"
  else if keywords.contains name then "r#" ++ name
  else if name.toList.head?.any Char.isDigit then "_" ++ name
  else name

def memberIdentifier (name : String) : String := escapeIdentifier (snakeCase name)

def dropRawMarks : List Char → List Char
  | 'r' :: '#' :: cs => dropRawMarks cs
  | cs => cs

def numbered (identifier : String) (n : Nat) : String :=
  onChars dropRawMarks identifier ++ "_" ++ toString n

/-- The first numbered identifier from `n` on that is not in use. The bound only ends the search:
among more identifiers than are in use, one is free. -/
def freeFrom (used : List String) (identifier : String) : Nat → Nat → String
  | 0, n => numbered identifier n
  | bound + 1, n =>
    if used.contains (numbered identifier n) then freeFrom used identifier bound (n + 1)
    else numbered identifier n

def free (used : List String) (identifier : String) : String :=
  if used.contains identifier then freeFrom used identifier used.length 2 else identifier

def avoid (reserved : List String) (ending identifier : String) : String :=
  if reserved.contains identifier then identifier ++ "_" ++ ending else identifier

end TypedClient.Source
