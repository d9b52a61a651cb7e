import TypedClient.Json.Basic
import TypedClient.Text.Basic

namespace TypedClient.Json

open Text (hexDigit?)

def isSpace (c : Char) : Bool := c == ' ' || c == '\n' || c == '\t' || c == '\r'

def skipSpace (cs : List Char) : List Char := cs.dropWhile isSpace

inductive Piece
  | char (c : Char)
  | unit (n : Nat)

/-- The text of the pieces. Escaped surrogates have to come in pairs. -/
def joinPieces : List Piece → Option (List Char)
  | [] => some []
  | .char c :: ps => (joinPieces ps).map (c :: ·)
  | .unit n :: ps =>
    if 0xD800 ≤ n ∧ n < 0xDC00 then
      match ps with
      | .unit m :: ps =>
        if 0xDC00 ≤ m ∧ m < 0xE000 then
          (joinPieces ps).map (Char.ofNat (0x10000 + (n - 0xD800) * 0x400 + (m - 0xDC00)) :: ·)
        else none
      | _ => none
    else if 0xDC00 ≤ n ∧ n < 0xE000 then none
    else (joinPieces ps).map (Char.ofNat n :: ·)

def escapeOf? : Char → Option Char
  | '"' => some '"'
  | '\\' => some '\\'
  | '/' => some '/'
  | 'b' => some '\x08'
  | 'f' => some '\x0c'
  | 'n' => some '\n'
  | 'r' => some '\r'
  | 't' => some '\t'
  | _ => none

def literalPieces : List Char → Option (List Piece × List Char)
  | [] => none
  | '"' :: rest => some ([], rest)
  | '\\' :: 'u' :: a :: b :: c :: d :: rest =>
    match hexDigit? a, hexDigit? b, hexDigit? c, hexDigit? d with
    | some a, some b, some c, some d =>
      (literalPieces rest).map fun r => (.unit (((a * 16 + b) * 16 + c) * 16 + d) :: r.1, r.2)
    | _, _, _, _ => none
  | '\\' :: e :: rest =>
    match escapeOf? e with
    | some c => (literalPieces rest).map fun r => (.char c :: r.1, r.2)
    | none => none
  | c :: rest =>
    if c == '\\' || c.toNat < 0x20 then none
    else (literalPieces rest).map fun r => (.char c :: r.1, r.2)

def literal? (cs : List Char) : Option (Option String × List Char) :=
  (literalPieces cs).map fun r => ((joinPieces r.1).map String.ofList, r.2)

def digitValues (cs : List Char) : List Nat := cs.map fun c => c.toNat - '0'.toNat

def digits? (cs : List Char) : Option (List Nat × List Char) :=
  match cs.span Char.isDigit with
  | ([], _) => none
  | (ds, rest) => some (digitValues ds, rest)

def fraction? : List Char → Option (Option (List Nat) × List Char)
  | '.' :: cs => (digits? cs).map fun r => (some r.1, r.2)
  | cs => some (none, cs)

def signed? : List Char → Option (Int × List Char)
  | '-' :: cs => (digits? cs).map fun r => (-(JsonNumber.digitsValue r.1 : Int), r.2)
  | '+' :: cs => (digits? cs).map fun r => ((JsonNumber.digitsValue r.1 : Int), r.2)
  | cs => (digits? cs).map fun r => ((JsonNumber.digitsValue r.1 : Int), r.2)

def exponent? : List Char → Option (Option Int × List Char)
  | 'e' :: cs | 'E' :: cs => (signed? cs).map fun r => (some r.1, r.2)
  | cs => some (none, cs)

/-- A number without its sign. A leading zero stands alone. -/
def unsigned? (negative : Bool) (cs : List Char) : Option (Json × List Char) := do
  let (whole, rest) ← match cs with
    | '0' :: rest => some ([0], rest)
    | _ => digits? cs
  if rest.head?.any Char.isDigit then none
  let (fraction, rest) ← fraction? rest
  let (exponent, rest) ← exponent? rest
  return (.number ⟨negative, whole, fraction, exponent⟩, rest)

mutual

/-- A value and what follows it. The bound only ends the recursion: each step uses up a character
or stands between two that do. -/
def readValue? : Nat → List Char → Option (Json × List Char)
  | 0, _ => none
  | bound + 1, cs =>
    match skipSpace cs with
    | 'n' :: 'u' :: 'l' :: 'l' :: rest => some (.null, rest)
    | 't' :: 'r' :: 'u' :: 'e' :: rest => some (.bool true, rest)
    | 'f' :: 'a' :: 'l' :: 's' :: 'e' :: rest => some (.bool false, rest)
    | '"' :: rest => (literal? rest).map fun r => (.string r.1, r.2)
    | '[' :: rest =>
      match skipSpace rest with
      | ']' :: rest => some (.array [], rest)
      | rest => (readElements? bound rest).map fun r => (.array r.1, r.2)
    | '{' :: rest =>
      match skipSpace rest with
      | '}' :: rest => some (.object [], rest)
      | rest => (readMembers? bound rest).map fun r => (.object r.1, r.2)
    | '-' :: rest => unsigned? true rest
    | rest => unsigned? false rest

def readElements? : Nat → List Char → Option (List Json × List Char)
  | 0, _ => none
  | bound + 1, cs => do
    let (first, rest) ← readValue? bound cs
    match skipSpace rest with
    | ',' :: rest => (readElements? bound rest).map fun r => (first :: r.1, r.2)
    | ']' :: rest => some ([first], rest)
    | _ => none

def readMembers? : Nat → List Char → Option (List (Option String × Json) × List Char)
  | 0, _ => none
  | bound + 1, cs =>
    match skipSpace cs with
    | '"' :: rest => do
      let (key, rest) ← literal? rest
      match skipSpace rest with
      | ':' :: rest =>
        let (first, rest) ← readValue? bound rest
        match skipSpace rest with
        | ',' :: rest => (readMembers? bound rest).map fun r => ((key, first) :: r.1, r.2)
        | '}' :: rest => some ([(key, first)], rest)
        | _ => none
      | _ => none
    | _ => none

end

def read? (cs : List Char) : Option Json :=
  match readValue? (2 * cs.length + 2) cs with
  | some (v, rest) => if (skipSpace rest).isEmpty then some v else none
  | none => none

end TypedClient.Json
