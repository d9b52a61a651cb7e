namespace TypedClient.Text.Utf8

/-- How many bytes follow a leading byte, and the range of the first of them. -/
def shape (b : UInt8) : Option (Nat × UInt8 × UInt8) :=
  if b < 0x80 then some (0, 0x80, 0xBF)
  else if b < 0xC2 then none
  else if b < 0xE0 then some (1, 0x80, 0xBF)
  else if b = 0xE0 then some (2, 0xA0, 0xBF)
  else if b = 0xED then some (2, 0x80, 0x9F)
  else if b < 0xF0 then some (2, 0x80, 0xBF)
  else if b = 0xF0 then some (3, 0x90, 0xBF)
  else if b < 0xF4 then some (3, 0x80, 0xBF)
  else if b = 0xF4 then some (3, 0x80, 0x8F)
  else none

def leadBits (n : Nat) (b : UInt8) : Nat :=
  match n with
  | 0 => b.toNat
  | 1 => b.toNat % 0x20
  | 2 => b.toNat % 0x10
  | _ => b.toNat % 0x08

/-- Continues a character by `n` bytes, the first of them in the given range: its code point and
the rest, or no code point and the rest at the byte that does not fit. -/
def follow : Nat → UInt8 → UInt8 → Nat → List UInt8 → Option Nat × List UInt8
  | 0, _, _, code, bs => (some code, bs)
  | _ + 1, _, _, _, [] => (none, [])
  | n + 1, low, high, code, b :: bs =>
    if low ≤ b && b ≤ high then follow n 0x80 0xBF (code * 0x40 + b.toNat % 0x40) bs
    else (none, b :: bs)

theorem length_follow_le (n : Nat) (low high : UInt8) (code : Nat) (bs : List UInt8) :
    (follow n low high code bs).2.length ≤ bs.length := by
  induction n generalizing low high code bs with
  | zero => simp [follow]
  | succ n ih =>
    cases bs with
    | nil => simp [follow]
    | cons b bs =>
      unfold follow
      split
      · exact Nat.le_succ_of_le (ih ..)
      · simp

/-- The characters of a byte sequence, each error as `none`. -/
def scan : List UInt8 → List (Option Char)
  | [] => []
  | b :: bs =>
    match shape b with
    | none => none :: scan bs
    | some (n, low, high) =>
      let read := follow n low high (leadBits n b) bs
      read.1.map Char.ofNat :: scan read.2
termination_by bs => bs.length
decreasing_by
  · simp
  · exact Nat.lt_succ_of_le (length_follow_le ..)

def decode? (bs : List UInt8) : Option (List Char) := (scan bs).mapM id

def decodeLossy (bs : List UInt8) : List Char := (scan bs).map (·.getD '\uFFFD')

def encode (cs : List Char) : List UInt8 := cs.flatMap String.utf8EncodeChar

end TypedClient.Text.Utf8
