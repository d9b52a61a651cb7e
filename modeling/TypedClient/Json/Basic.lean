namespace TypedClient

structure JsonNumber where
  negative : Bool
  whole : List Nat
  fraction : Option (List Nat)
  exponent : Option Int
deriving DecidableEq, Repr

/-- A string is `none` if one of its escapes is half of a surrogate pair. -/
inductive Json
  | null
  | bool (b : Bool)
  | number (n : JsonNumber)
  | string (s : Option String)
  | array (elements : List Json)
  | object (members : List (Option String × Json))
deriving Repr

namespace JsonNumber

def digitsValue (ds : List Nat) : Nat := ds.foldl (fun n d => 10 * n + d) 0

/-- The whole number that is written without fraction, exponent or negative zero. -/
def toInt? (n : JsonNumber) : Option Int :=
  match n.fraction, n.exponent with
  | none, none =>
    let value : Int := digitsValue n.whole
    if n.negative then (if value = 0 then none else some (-value)) else some value
  | _, _ => none

/-- The number that the digits continue as long as it fits in 64 bits, and the digits that are left. -/
def takeDigits (value : Nat) : List Nat → Nat × List Nat
  | [] => (value, [])
  | d :: ds =>
    let next := 10 * value + d
    if next < Nat.pow 2 64 then takeDigits next ds else (value, d :: ds)

/-- The double next to a number, whatever its size, and the even one of two that are equally near. -/
def nearest (n : Nat) : Nat :=
  let unit := Nat.pow 2 (Nat.log2 n - 52)
  let below := n / unit
  let rest := n % unit
  if unit < 2 * rest || (unit == 2 * rest && below % 2 == 1) then (below + 1) * unit else below * unit

def parts (n : JsonNumber) : Nat × Int :=
  let fraction := n.fraction.getD []
  let (whole, dropped) := takeDigits 0 n.whole
  let (significand, unread) := takeDigits whole fraction
  (significand, n.exponent.getD 0 + dropped.length - (fraction.length - unread.length))

/-- Whether the product of the parts is infinite. The parts are made doubles before they are multiplied, so that
also a few numbers below the greatest double are refused. -/
def overflows (n : JsonNumber) : Bool :=
  let (significand, exponent) := n.parts
  if significand = 0 || exponent < 0 then false
  else if 308 < exponent then true
  else
    let limit := Nat.pow 2 1024 - Nat.pow 2 970
    limit ≤ nearest significand * nearest (Nat.pow 10 exponent.toNat)

end JsonNumber

end TypedClient
