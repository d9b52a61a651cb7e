namespace TypedClient.Text

inductive NumberFault
  | empty | badDigit | tooLarge | tooSmall
deriving DecidableEq, Repr

namespace NumberFault

def describe : NumberFault → String
  | empty => "cannot parse integer from empty string"
  | badDigit => "invalid digit found in string"
  | tooLarge => "number too large to fit in target type"
  | tooSmall => "number too small to fit in target type"

end NumberFault

/-- Digits after a value that is already read. Reading stops at the first character that is no
digit or takes the value beyond the limit. -/
def digitsFrom (limit : Nat) (overflow : NumberFault) (value : Nat) :
    List Char → Except NumberFault Nat
  | [] => .ok value
  | c :: cs =>
    if !c.isDigit then .error .badDigit
    else
      let next := 10 * value + (c.toNat - '0'.toNat)
      if limit < next then .error overflow else digitsFrom limit overflow next cs

def magnitude (limit : Nat) (overflow : NumberFault) : List Char → Except NumberFault Nat
  | [] => .error .badDigit
  | cs => digitsFrom limit overflow 0 cs

def parseNat (high : Nat) : List Char → Except NumberFault Nat
  | [] => .error .empty
  | '+' :: cs => magnitude high .tooLarge cs
  | cs => magnitude high .tooLarge cs

def parseInt (bits : Nat) : List Char → Except NumberFault Int
  | [] => .error .empty
  | '-' :: cs => (magnitude (Nat.pow 2 (bits - 1)) .tooSmall cs).map fun n => -(n : Int)
  | '+' :: cs => (magnitude (Nat.pow 2 (bits - 1) - 1) .tooLarge cs).map fun n => (n : Int)
  | cs => (magnitude (Nat.pow 2 (bits - 1) - 1) .tooLarge cs).map fun n => (n : Int)

end TypedClient.Text
