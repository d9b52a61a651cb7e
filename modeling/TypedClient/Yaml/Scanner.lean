import TypedClient.Text.Utf8
import TypedClient.Yaml.Scalar

namespace TypedClient.Yaml

/-- A token that a colon may still make a key. -/
structure KeyCandidate where
  isRequired : Bool
  position : Nat
  start : Glyph
deriving Repr

structure Scanner where
  rest : List Glyph
  tokens : List Token := []
  count : Nat := 0
  columns : List Nat := []
  candidate : Option KeyCandidate := none
  /-- The candidates outside of each open bracket. -/
  outer : List (Option KeyCandidate) := []
  keyAllowed : Bool := true

namespace Scanner

variable (s : Scanner)

def inFlow : Bool := !s.outer.isEmpty

def indent : Nat := s.columns.head?.elim 0 (· + 1)

def push (t : Token) : Scanner := { s with tokens := t :: s.tokens, count := s.count + 1 }

def insert (position : Nat) (t : Token) : Scanner :=
  let (after, before) := s.tokens.splitAt (s.count - position)
  { s with tokens := after ++ t :: before, count := s.count + 1 }

def openBlock (column position : Nat) (t : Token) : Scanner :=
  if s.inFlow || !(s.columns.head?.all (· < column)) then s
  else { s.insert position t with columns := column :: s.columns }

def closeFrom (column : Option Nat) (s : Scanner) : List Nat → Scanner
  | [] => { s with columns := [] }
  | c :: cs =>
    if column.all (· < c) then closeFrom column (s.push .blockEnd) cs
    else { s with columns := c :: cs }

def closeBlocks (column : Option Nat) : Scanner :=
  if s.inFlow then s else closeFrom column s s.columns

def dropCandidate : Option Scanner :=
  if s.candidate.any (·.isRequired) then none else some { s with candidate := none }

def saveCandidate (g : Glyph) : Option Scanner := do
  if s.keyAllowed then
    let s ← s.dropCandidate
    let isRequired := !s.inFlow && s.columns.head? == some g.column
    return { s with candidate := some ⟨isRequired, s.count, g⟩ }
  else return s

/-- Whether a candidate is on an earlier line, or over a thousand characters before. -/
def isStale (now : Glyph) (k : KeyCandidate) : Bool :=
  k.start.line < now.line || k.start.index + 1024 < now.index

def dropStale (now : Glyph) : Option Scanner :=
  if (s.candidate :: s.outer).any fun k => k.any fun k => isStale now k && k.isRequired then none
  else
    let fresh := Option.filter fun k => !isStale now k
    some { s with candidate := fresh s.candidate, outer := s.outer.map fresh }

/-- Whether keys may begin after blanks, comments and line breaks, and what follows these. Tabs
count as blanks where no key may begin. -/
def skipGaps (flow : Bool) (inComment keyAllowed : Bool) : List Glyph → Bool × List Glyph
  | [] => (keyAllowed, [])
  | g :: rest =>
    if isBreak g.char then skipGaps flow false (keyAllowed || !flow) rest
    else if inComment then skipGaps flow true keyAllowed rest
    else if g.char == ' ' || (g.char == '\t' && (flow || !keyAllowed)) then
      skipGaps flow false keyAllowed rest
    else if g.char == '#' then skipGaps flow true keyAllowed rest
    else (keyAllowed, g :: rest)

def documentMarker (t : Token) : Option Scanner := do
  let s ← (s.closeBlocks none).dropCandidate
  return { s.push t with keyAllowed := false, rest := s.rest.drop 3 }

def addressBytes (listed : Bool) : List Glyph → Option (List UInt8 × List Glyph)
  | [] => some ([], [])
  | g :: rest =>
    if g.char == '%' then
      match rest with
      | a :: b :: rest => do
        let (bytes, after) ← addressBytes listed rest
        return (UInt8.ofNat (16 * (← Text.hexDigit? a.char) + (← Text.hexDigit? b.char)) :: bytes,
          after)
      | _ => none
    else if isWord g.char || ";/?:@&=+$.!~*'()".contains g.char
        || (listed && [',', '[', ']'].contains g.char) then
      (addressBytes listed rest).map fun r => (UInt8.ofNat g.char.toNat :: r.1, r.2)
    else some ([], g :: rest)

def address (listed : Bool) (gs : List Glyph) : Option (List Char × List Glyph) := do
  let (bytes, rest) ← addressBytes listed gs
  return (← Text.Utf8.decode? bytes, rest)

def tagParts : List Glyph → Option (List Char × List Char × List Glyph)
  | [] => some ([], ['!'], [])
  | g :: rest => do
    if g.char == '<' then
      let (suffix, rest) ← address true rest
      if suffix.isEmpty || !atOneOf ['>'] rest then none else return ([], suffix, rest.tail)
    else
      let (name, after) := takeText isWord (g :: rest)
      if atOneOf ['!'] after then
        let (suffix, rest) ← address false after.tail
        if suffix.isEmpty then none else return ('!' :: name ++ ['!'], suffix, rest)
      else
        let (suffix, rest) ← address false after
        let suffix := name ++ suffix
        return if suffix.isEmpty then ([], ['!'], rest) else (['!'], suffix, rest)

def versionPart (gs : List Glyph) : Option (Nat × List Glyph) :=
  let (digits, rest) := takeText Char.isDigit gs
  if digits.isEmpty || 9 < digits.length then none
  else some (digits.foldl (fun n c => 10 * n + (c.toNat - '0'.toNat)) 0, rest)

def dropSpaces (gs : List Glyph) : List Glyph := gs.dropWhile fun g => isSpace g.char

def directiveToken (gs : List Glyph) : Option (Token × List Glyph) := do
  let (name, rest) := takeText isWord gs
  if !atGap rest then none
  if name = "YAML".toList then
    let (major, rest) ← versionPart (dropSpaces rest)
    if !atOneOf ['.'] rest then none
    let (minor, rest) ← versionPart rest.tail
    return (.version major minor, ← restOfLine? rest)
  else if name = "TAG".toList then
    match dropSpaces rest with
    | [] => none
    | g :: rest =>
      let (name, rest) := takeText isWord rest
      if g.char != '!' || (!name.isEmpty && !atOneOf ['!'] rest) then none
      let handle := if atOneOf ['!'] rest then '!' :: name ++ ['!'] else ['!']
      let rest := if atOneOf ['!'] rest then rest.tail else rest
      if !rest.head?.any (fun g => isSpace g.char) then none
      let (start, rest) ← address true (dropSpaces rest)
      if start.isEmpty || !atGap rest then none
      return (.handle handle start, ← restOfLine? rest)
  else none

def directive (rest : List Glyph) : Option Scanner := do
  let s ← (s.closeBlocks none).dropCandidate
  let (t, rest) ← directiveToken rest
  return { s.push t with keyAllowed := false, rest }

def flowStart (t : Token) (g : Glyph) (rest : List Glyph) : Option Scanner := do
  let s ← s.saveCandidate g
  return { s.push t with
    candidate := none, outer := s.candidate :: s.outer, keyAllowed := true, rest }

def flowEnd (t : Token) (rest : List Glyph) : Option Scanner := do
  let s ← s.dropCandidate
  return { s.push t with
    candidate := s.outer.head?.join, outer := s.outer.tail, keyAllowed := false, rest }

def comma (rest : List Glyph) : Option Scanner := do
  let s ← s.dropCandidate
  return { s.push .comma with keyAllowed := true, rest }

def entry (g : Glyph) (rest : List Glyph) : Option Scanner := do
  if !s.inFlow && !s.keyAllowed then none
  let s ← (s.openBlock g.column s.count .blockList).dropCandidate
  return { s.push .entry with keyAllowed := true, rest }

def explicitKey (g : Glyph) (rest : List Glyph) : Option Scanner := do
  if !s.inFlow && !s.keyAllowed then none
  let s ← (s.openBlock g.column s.count .blockMap).dropCandidate
  return { s.push .key with keyAllowed := !s.inFlow, rest }

def value (g : Glyph) (rest : List Glyph) : Option Scanner :=
  match s.candidate with
  | some k =>
    let s := (s.insert k.position .key).openBlock k.start.column k.position .blockMap
    some { s.push .value with candidate := none, keyAllowed := false, rest }
  | none =>
    if !s.inFlow && !s.keyAllowed then none
    else
      let s := s.openBlock g.column s.count .blockMap
      some { s.push .value with keyAllowed := !s.inFlow, rest }

def reference (t : List Char → Token) (g : Glyph) (rest : List Glyph) : Option Scanner := do
  let s ← s.saveCandidate g
  let (name, rest) := takeText isWord rest
  if name.isEmpty || !(atGap rest || atOneOf ['?', ':', ',', ']', '}', '%', '@', '\x60'] rest) then
    none
  return { s.push (t name) with keyAllowed := false, rest }

def tag (g : Glyph) (rest : List Glyph) : Option Scanner := do
  let s ← s.saveCandidate g
  let (handle, suffix, rest) ← tagParts rest
  if !(atGap rest || (s.inFlow && atOneOf [','] rest)) then none
  return { s.push (.tag handle suffix) with keyAllowed := false, rest }

def blockScalar (folded : Bool) (rest : List Glyph) : Option Scanner := do
  let s ← s.dropCandidate
  let (text, rest) ← block folded s.columns.head? rest
  return { s.push (.scalar (if folded then .folded else .literal) text) with
    keyAllowed := true, rest }

def quotedScalar (read : List Glyph → Option (List Char × List Glyph)) (g : Glyph)
    (rest : List Glyph) : Option Scanner := do
  let s ← s.saveCandidate g
  let (text, rest) ← read rest
  return { s.push (.scalar .quoted text) with keyAllowed := false, rest }

def plainScalar (g : Glyph) (rest : List Glyph) : Option Scanner := do
  let s ← s.saveCandidate g
  let (text, brokenOff, rest) ← plain s.inFlow s.indent .none (g :: rest)
  return { s.push (.scalar .plain text) with keyAllowed := brokenOff, rest }

def startsPlain (g : Glyph) (rest : List Glyph) : Bool :=
  if g.char == '-' then !rest.head?.any fun h => isSpace h.char
  else if g.char == '?' || g.char == ':' then !s.inFlow && !atGap rest
  else !(isGap g.char || isFlowIndicator g.char
    || ['#', '&', '*', '!', '|', '>', '\'', '"', '%', '@', '\x60'].contains g.char)

def fetch (g : Glyph) (rest : List Glyph) : Option Scanner :=
  if g.column == 0 && g.char == '%' then s.directive rest
  else if atMarker '-' s.rest then s.documentMarker .documentStart
  else if atMarker '.' s.rest then s.documentMarker .documentEnd
  else if g.char == '[' then s.flowStart .flowList g rest
  else if g.char == '{' then s.flowStart .flowMap g rest
  else if g.char == ']' then s.flowEnd .flowListEnd rest
  else if g.char == '}' then s.flowEnd .flowMapEnd rest
  else if g.char == ',' then s.comma rest
  else if g.char == '-' && atGap rest then s.entry g rest
  else if g.char == '?' && (s.inFlow || atGap rest) then s.explicitKey g rest
  else if g.char == ':' && (s.inFlow || atGap rest) then s.value g rest
  else if g.char == '*' then s.reference .alias g rest
  else if g.char == '&' then s.reference .anchor g rest
  else if g.char == '!' then s.tag g rest
  else if g.char == '|' && !s.inFlow then s.blockScalar false rest
  else if g.char == '>' && !s.inFlow then s.blockScalar true rest
  else if g.char == '\'' then s.quotedScalar (singleQuoted .none) g rest
  else if g.char == '"' then s.quotedScalar (doubleQuoted none .none) g rest
  else if s.startsPlain g rest then s.plainScalar g rest
  else none

/-- Reads tokens to the end of the stream. The bound only ends the recursion: every token uses up a
character. -/
def run : Nat → Scanner → Option (List Token)
  | 0, _ => none
  | bound + 1, s => do
    let (keyAllowed, rest) := skipGaps s.inFlow false s.keyAllowed s.rest
    match rest with
    | [] =>
      let s ← (s.closeBlocks none).dropCandidate
      return s.tokens.reverse
    | g :: rest =>
      let s ← { s with keyAllowed, rest := g :: rest }.dropStale g
      run bound (← (s.closeBlocks (some g.column)).fetch g rest)

end Scanner

def tokens? (cs : List Char) : Option (List Token) :=
  if cs.all isAllowed then Scanner.run (cs.length + 1) { rest := glyphs cs } else none

end TypedClient.Yaml
