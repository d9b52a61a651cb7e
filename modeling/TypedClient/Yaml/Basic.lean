import TypedClient.Text.Basic

namespace TypedClient.Yaml

structure Glyph where
  char : Char
  index : Nat
  line : Nat
  column : Nat
deriving DecidableEq, Repr

def isSpace (c : Char) : Bool := c == ' ' || c == '\t'

def isBreak (c : Char) : Bool := c == '\n' || c == '\u2028' || c == '\u2029'

def isGap (c : Char) : Bool := isSpace c || isBreak c

def isWord (c : Char) : Bool := c.isAlphanum || c == '_' || c == '-'

def isFlowIndicator (c : Char) : Bool := [',', '[', ']', '{', '}'].contains c

def isAllowed (c : Char) : Bool :=
  Text.inRuns [(0x9, 0xA), (0xD, 0xD), (0x20, 0x7E), (0x85, 0x85), (0xA0, 0xFFFD),
    (0x10000, 0x10FFFF)] c.toNat

/-- The characters in their places. Carriage returns and next-line characters become line feeds, a
carriage return with its line feed becomes one. -/
def place (index line column : Nat) : List Char → List Glyph
  | [] => []
  | '\r' :: '\n' :: cs => ⟨'\n', index, line, column⟩ :: place (index + 2) (line + 1) 0 cs
  | c :: cs =>
    if c == '\n' || c == '\r' || c == '\x85' then
      ⟨'\n', index, line, column⟩ :: place (index + 1) (line + 1) 0 cs
    else if isBreak c then ⟨c, index, line, column⟩ :: place (index + 1) (line + 1) 0 cs
    else ⟨c, index, line, column⟩ :: place (index + 1) line (column + 1) cs

/-- The characters of a stream. A byte order mark is not one of them, but it takes up a column. -/
def glyphs : List Char → List Glyph
  | '\uFEFF' :: cs => place 1 0 1 cs
  | cs => place 0 0 0 cs

def atGap : List Glyph → Bool
  | [] => true
  | g :: _ => isGap g.char

def atOneOf (cs : List Char) : List Glyph → Bool
  | [] => false
  | g :: _ => cs.contains g.char

def atMarker (mark : Char) : List Glyph → Bool
  | a :: b :: c :: rest =>
    a.column == 0 && a.char == mark && b.char == mark && c.char == mark && atGap rest
  | _ => false

def atDocumentMarker (gs : List Glyph) : Bool := atMarker '-' gs || atMarker '.' gs

def takeText (p : Char → Bool) (gs : List Glyph) : List Char × List Glyph :=
  ((gs.takeWhile fun g => p g.char).map (·.char), gs.dropWhile fun g => p g.char)

inductive Style
  | plain | quoted | literal | folded
deriving DecidableEq, Repr

inductive Token
  | version (major minor : Nat)
  | handle (name tagStart : List Char)
  | documentStart
  | documentEnd
  | blockList
  | blockMap
  | blockEnd
  | flowList
  | flowListEnd
  | flowMap
  | flowMapEnd
  | entry
  | comma
  | key
  | value
  | alias (name : List Char)
  | anchor (name : List Char)
  | tag (handle suffix : List Char)
  | scalar (style : Style) (text : List Char)
deriving DecidableEq, Repr

end TypedClient.Yaml
