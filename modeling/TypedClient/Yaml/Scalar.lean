import TypedClient.Yaml.Basic

namespace TypedClient.Yaml

/-- What lies between two parts of a scalar: blanks within a line, or line breaks. The first break
is missing where it is escaped. -/
inductive Gap
  | blanks (cs : List Char)
  | breaks (first : Option Char) (others : List Char)

namespace Gap

def none : Gap := blanks []

def isEmpty : Gap → Bool
  | blanks [] => true
  | _ => false

def hasBreak : Gap → Bool
  | blanks _ => false
  | breaks .. => true

/-- A gap with one more blank; blanks around line breaks do not count. -/
def addSpace (c : Char) : Gap → Gap
  | blanks cs => blanks (cs ++ [c])
  | gap => gap

def addBreak (c : Char) : Gap → Gap
  | blanks _ => breaks (some c) []
  | breaks first others => breaks first (others ++ [c])

/-- The text that a gap stands for: a single line feed is a blank, and one of several goes away. -/
def text : Gap → List Char
  | blanks cs => cs
  | breaks (some '\n') [] => [' ']
  | breaks (some '\n') others => others
  | breaks first others => first.toList ++ others

end Gap

/-- A plain scalar after a gap, and whether line breaks come after it. In a block it ends at a line
that begins before column `indent`. -/
def plain (flow : Bool) (indent : Nat) (gap : Gap) :
    List Glyph → Option (List Char × Bool × List Glyph)
  | [] => some ([], gap.hasBreak, [])
  | g :: rest =>
    if isSpace g.char then
      if g.char == '\t' && gap.hasBreak && g.column < indent then none
      else plain flow indent (gap.addSpace g.char) rest
    else if isBreak g.char then plain flow indent (gap.addBreak g.char) rest
    else if !gap.isEmpty && ((!flow && g.column < indent) || g.char == '#'
        || atDocumentMarker (g :: rest)) then
      some ([], gap.hasBreak, g :: rest)
    else if flow && g.char == ':' && atOneOf [',', '?', '[', ']', '{', '}'] rest then none
    else if (g.char == ':' && atGap rest) || (flow && isFlowIndicator g.char) then
      some ([], gap.hasBreak, g :: rest)
    else (plain flow indent .none rest).map fun r => (gap.text ++ g.char :: r.1, r.2)

def singleQuoted (gap : Gap) : List Glyph → Option (List Char × List Glyph)
  | [] => none
  | g :: rest =>
    if isSpace g.char then singleQuoted (gap.addSpace g.char) rest
    else if isBreak g.char then singleQuoted (gap.addBreak g.char) rest
    else if atDocumentMarker (g :: rest) then none
    else if g.char == '\'' then
      match rest with
      | [] => some (gap.text, [])
      | h :: rest =>
        if h.char == '\'' then (singleQuoted .none rest).map fun r => (gap.text ++ '\'' :: r.1, r.2)
        else some (gap.text, h :: rest)
    else (singleQuoted .none rest).map fun r => (gap.text ++ g.char :: r.1, r.2)

inductive Escape
  | char (c : Char)
  | digits (n : Nat)

def escapeOf? : Char → Option Escape
  | '0' => some (.char '\x00')
  | 'a' => some (.char '\x07')
  | 'b' => some (.char '\x08')
  | 't' | '\t' => some (.char '\t')
  | 'n' => some (.char '\n')
  | 'v' => some (.char '\x0b')
  | 'f' => some (.char '\x0c')
  | 'r' => some (.char '\r')
  | 'e' => some (.char '\x1b')
  | ' ' => some (.char ' ')
  | '"' => some (.char '"')
  | '/' => some (.char '/')
  | '\\' => some (.char '\\')
  | 'N' => some (.char '\x85')
  | '_' => some (.char '\xa0')
  | 'L' => some (.char '\u2028')
  | 'P' => some (.char '\u2029')
  | 'x' => some (.digits 2)
  | 'u' => some (.digits 4)
  | 'U' => some (.digits 8)
  | _ => none

/-- A scalar in double quotes after its opening quote. While the digits of an escape are being
read, `code` is how many are left and their value so far. -/
def doubleQuoted (code : Option (Nat × Nat)) (gap : Gap) :
    List Glyph → Option (List Char × List Glyph)
  | [] => none
  | g :: rest =>
    match code with
    | some (left, value) => do
      let value := 16 * value + (← Text.hexDigit? g.char)
      if left > 1 then doubleQuoted (some (left - 1, value)) .none rest
      else if value.isValidChar then
        (doubleQuoted none .none rest).map fun r => (Char.ofNat value :: r.1, r.2)
      else none
    | none =>
      if isSpace g.char then doubleQuoted none (gap.addSpace g.char) rest
      else if isBreak g.char then doubleQuoted none (gap.addBreak g.char) rest
      else if atDocumentMarker (g :: rest) then none
      else if g.char == '"' then some (gap.text, rest)
      else if g.char == '\\' then
        match rest with
        | [] => none
        | h :: rest =>
          if isBreak h.char then
            (doubleQuoted none (.breaks none []) rest).map fun r => (gap.text ++ r.1, r.2)
          else match escapeOf? h.char with
            | some (.char c) =>
              (doubleQuoted none .none rest).map fun r => (gap.text ++ c :: r.1, r.2)
            | some (.digits n) =>
              (doubleQuoted (some (n, 0)) .none rest).map fun r => (gap.text ++ r.1, r.2)
            | none => none
      else (doubleQuoted none .none rest).map fun r => (gap.text ++ g.char :: r.1, r.2)

/-- The line breaks of blank lines, the greatest column that their spaces reach, and what follows.
Spaces from column `indent` on belong to the text; zero means that it is still unknown. -/
def blankLines (indent : Nat) : List Glyph → Option (List Char × Nat × List Glyph)
  | [] => some ([], 0, [])
  | g :: rest =>
    let isIndentation := indent == 0 || g.column < indent
    if isIndentation && g.char == ' ' then blankLines indent rest
    else if isIndentation && g.char == '\t' then none
    else if isBreak g.char then
      (blankLines indent rest).map fun r => (g.char :: r.1, max g.column r.2.1, r.2.2)
    else some ([], g.column, g :: rest)

inductive Chomping
  | strip | clip | keep
deriving DecidableEq, Repr

/-- The lines of a block that begin in column `indent`. The break of the last line and the blank
lines after it are still to be written; in a folded block the first of them joins two lines that
do not begin with blanks. The bound only ends the recursion. -/
def blockLines (folded : Bool) (chomping : Chomping) (indent : Nat) :
    Nat → Bool → List Char → List Char → List Glyph → Option (List Char × List Glyph)
  | 0, _, _, _, _ => none
  | bound + 1, afterBlank, lineBreak, blankBreaks, gs =>
    match gs with
    | g :: _ =>
      if g.column = indent then do
        let joint :=
          if folded && lineBreak == ['\n'] && !afterBlank && !isSpace g.char then
            if blankBreaks.isEmpty then [' '] else blankBreaks
          else lineBreak ++ blankBreaks
        let (line, rest) := takeText (fun c => !isBreak c) gs
        let (more, _, next) ← blankLines indent rest.tail
        let (text, after) ← blockLines folded chomping indent bound (isSpace g.char)
          (rest.head?.map (·.char)).toList more next
        return (joint ++ line ++ text, after)
      else some (finish lineBreak blankBreaks, gs)
    | [] => some (finish lineBreak blankBreaks, [])
where
  finish (lineBreak blankBreaks : List Char) : List Char :=
    match chomping with
    | .strip => []
    | .clip => lineBreak
    | .keep => lineBreak ++ blankBreaks

def blockDepth? : List Glyph → Option (Nat × List Glyph)
  | [] => some (0, [])
  | g :: rest =>
    if g.char == '0' then none
    else if g.char.isDigit then some (g.char.toNat - '0'.toNat, rest)
    else some (0, g :: rest)

def chompingMark? : List Glyph → Option (Chomping × List Glyph)
  | [] => none
  | g :: rest =>
    if g.char == '+' then some (.keep, rest)
    else if g.char == '-' then some (.strip, rest)
    else none

def blockSigns (gs : List Glyph) : Option (Chomping × Nat × List Glyph) := do
  match chompingMark? gs with
  | some (chomping, gs) =>
    let (depth, gs) ← blockDepth? gs
    return (chomping, depth, gs)
  | none =>
    let (depth, gs) ← blockDepth? gs
    match chompingMark? gs with
    | some (chomping, gs) => return (chomping, depth, gs)
    | none => return (.clip, depth, gs)

def restOfLine? (gs : List Glyph) : Option (List Glyph) :=
  let rest := gs.dropWhile fun g => isSpace g.char
  let rest := if atOneOf ['#'] rest then rest.dropWhile fun g => !isBreak g.char else rest
  match rest with
  | [] => some []
  | g :: rest => if isBreak g.char then some rest else none

def block (folded : Bool) (parent : Option Nat) (gs : List Glyph) :
    Option (List Char × List Glyph) := do
  let (chomping, depth, gs) ← blockSigns gs
  let gs ← restOfLine? gs
  let base := parent.elim 0 (· + 1)
  let known := if depth = 0 then 0 else parent.getD 0 + depth
  let (breaks, width, rest) ← blankLines known gs
  let indent := if known = 0 then max width (max base 1) else known
  blockLines folded chomping indent (gs.length + 1) false [] breaks rest

end TypedClient.Yaml
