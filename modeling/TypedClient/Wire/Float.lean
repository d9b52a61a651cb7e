namespace TypedClient.Wire

structure FloatFormat where
  fractionBits : Nat
  exponentBits : Nat
deriving DecidableEq, Repr

namespace FloatFormat

def single : FloatFormat := ⟨23, 8⟩

def double : FloatFormat := ⟨52, 11⟩

end FloatFormat

structure BinaryFloat where
  format : FloatFormat
  bits : Nat
deriving DecidableEq, Repr

/-- A positive number as a fraction, with the distances to the ends of the range that reads back as
it, and whether these ends do too. All of them are multiples of the inverse of `scale`. -/
structure Span where
  value : Nat
  below : Nat
  above : Nat
  scale : Nat
  inclusive : Bool
deriving DecidableEq, Repr

namespace Span

variable (s : Span)

def reachesOne : Bool :=
  if s.inclusive then s.scale ≤ s.value + s.above else s.scale < s.value + s.above

def scaleDown : Nat → Int → Span → Int × Span
  | 0, place, s => (place, s)
  | bound + 1, place, s =>
    if s.reachesOne then scaleDown bound (place + 1) { s with scale := 10 * s.scale }
    else (place, s)

def tenfold : Span :=
  { s with value := 10 * s.value, below := 10 * s.below, above := 10 * s.above }

def scaleUp : Nat → Int → Span → Int × Span
  | 0, place, s => (place, s)
  | bound + 1, place, s =>
    if s.tenfold.reachesOne then (place, s) else scaleUp bound (place - 1) s.tenfold

/-- The digits of a number below one. They end with the first digit after which nothing, or one
more at this digit, still reads back; of both the closer one is taken. The bound only ends the
recursion. -/
def digits : Nat → Span → List Nat
  | 0, _ => []
  | bound + 1, s =>
    let t := s.tenfold
    let digit := t.value / t.scale
    let rest := { t with value := t.value % t.scale }
    let isDown := if s.inclusive then rest.value ≤ rest.below else rest.value < rest.below
    let isUp := rest.reachesOne
    if isUp && (!isDown || rest.scale ≤ 2 * rest.value) then [digit + 1]
    else if isDown then [digit]
    else digit :: digits bound rest

end Span

def carry : List Nat → Nat × List Nat
  | [] => (0, [])
  | d :: ds =>
    let (c, ds) := carry ds
    if d + c < 10 then (0, (d + c) :: (if c = 0 then ds else []))
    else (1, [0])

namespace BinaryFloat

variable (f : BinaryFloat)

def fraction : Nat := f.bits % Nat.pow 2 f.format.fractionBits

def exponent : Nat :=
  f.bits / Nat.pow 2 f.format.fractionBits % Nat.pow 2 f.format.exponentBits

def isNegative : Bool :=
  f.bits / Nat.pow 2 (f.format.fractionBits + f.format.exponentBits) % 2 == 1

def isSpecial : Bool := f.exponent + 1 == Nat.pow 2 f.format.exponentBits

def mantissa : Nat :=
  if f.exponent = 0 then f.fraction else f.fraction + Nat.pow 2 f.format.fractionBits

def power : Int :=
  max f.exponent 1 - (Nat.pow 2 (f.format.exponentBits - 1) - 1 : Nat) - f.format.fractionBits

/-- The absolute value with the range that reads back as it. Just above a power of two the range
below is half as wide. -/
def span : Span :=
  let isPower := f.fraction = 0 ∧ 0 < f.exponent
  let up := Nat.pow 2 f.power.toNat
  ⟨4 * f.mantissa * up, if isPower then up else 2 * up, 2 * up, 4 * Nat.pow 2 (-f.power).toNat,
    f.mantissa % 2 == 0⟩

/-- More powers of ten than lie between a number and one. -/
def places : Nat := Nat.pow 2 f.format.exponentBits

def decimal : Int × List Nat :=
  let (place, s) := Span.scaleDown f.places 0 f.span
  let (place, s) := Span.scaleUp f.places place s
  let (c, ds) := carry (s.digits (f.format.fractionBits + 1))
  if c = 1 then (place + 1, [1]) else (place, ds)

def digitChars (ds : List Nat) : List Char := ds.map Nat.digitChar

def placed (place : Int) (ds : List Char) : List Char :=
  if place ≤ 0 then ['0', '.'] ++ List.replicate (-place).toNat '0' ++ ds
  else if ds.length ≤ place.toNat then ds ++ List.replicate (place.toNat - ds.length) '0'
  else ds.take place.toNat ++ '.' :: ds.drop place.toNat

def magnitude : List Char :=
  if f.isSpecial then ['i', 'n', 'f']
  else if f.mantissa = 0 then ['0']
  else placed f.decimal.1 (digitChars f.decimal.2)

def text : String :=
  if f.isSpecial && f.fraction != 0 then "NaN"
  else String.ofList ((if f.isNegative then ['-'] else []) ++ f.magnitude)

end BinaryFloat

end TypedClient.Wire
