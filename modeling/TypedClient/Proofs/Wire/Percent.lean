import Mathlib.Logic.Function.Basic
import TypedClient.Wire.Percent

namespace TypedClient

theorem Text.Utf8.encode_injective : Function.Injective Text.Utf8.encode := by
  intro cs ds h
  have hbytes : cs.utf8Encode = ds.utf8Encode := congrArg List.toByteArray h
  have hread := congrArg ByteArray.utf8Decode? hbytes
  simpa using hread

namespace Wire

theorem hexDigit?_hexDigit : ∀ n < 16, Text.hexDigit? (hexDigit n) = some n := by decide

/-- The digits that are written. -/
def upperHexDigits : List Char := "0123456789ABCDEF".toList

theorem hexDigit_mem_upperHexDigits : ∀ n < 16, hexDigit n ∈ upperHexDigits := by decide

/-- An octet that is written in some way is read back. -/
def Restores (octet : UInt8 → List Char) : Prop :=
  ∀ b rest, percentDecode? (octet b ++ rest) = (percentDecode? rest).map (b :: ·)

theorem percentDecode?_percent (b : UInt8) (rest : List Char) :
    percentDecode? (percent b ++ rest) = (percentDecode? rest).map (b :: ·) := by
  have hlt : b.toNat < 256 := b.toNat_lt
  have hvalue : UInt8.ofNat (16 * (b.toNat / 16) + b.toNat % 16) = b := by
    rw [Nat.div_add_mod, UInt8.ofNat_toNat]
  rw [percent, List.cons_append, List.cons_append, List.singleton_append, percentDecode?, if_pos rfl]
  dsimp only
  rw [hexDigit?_hexDigit _ (by omega), hexDigit?_hexDigit _ (by omega), Option.bind_eq_bind,
    Option.bind_some, Option.bind_eq_bind, Option.bind_some, hvalue]
  cases percentDecode? rest <;> rfl

theorem percentDecode?_plain {c : Char} {b : UInt8} (hc : c ≠ '%') (hb : String.utf8EncodeChar c = [b])
    (rest : List Char) : percentDecode? (c :: rest) = (percentDecode? rest).map (b :: ·) := by
  rw [percentDecode?.eq_def]
  simp only [if_neg hc, hb, List.singleton_append]

theorem percentDecode?_flatMap {octet : UInt8 → List Char} (h : Restores octet) (bs : List UInt8) :
    percentDecode? (bs.flatMap octet) = some bs := by
  induction bs with
  | nil => rfl
  | cons b bs ih => rw [List.flatMap_cons, h b, ih, Option.map_some]

theorem percentDecode?_percentEncode {octet : UInt8 → List Char} (h : Restores octet)
    (cs : List Char) : percentDecode? (percentEncode octet cs) = some (Text.Utf8.encode cs) :=
  percentDecode?_flatMap h _

theorem percentEncode_injective {octet : UInt8 → List Char} (h : Restores octet) :
    Function.Injective (percentEncode octet) := by
  intro cs ds heq
  have hread := congrArg percentDecode? heq
  rw [percentDecode?_percentEncode h, percentDecode?_percentEncode h, Option.some.injEq] at hread
  exact Text.Utf8.encode_injective hread

end Wire

end TypedClient
