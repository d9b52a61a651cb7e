import TypedClient.Text.Basic
import TypedClient.Text.Utf8

namespace TypedClient.Wire

def hexDigit (n : Nat) : Char := (Nat.digitChar n).toUpper

def percent (b : UInt8) : List Char := ['%', hexDigit (b.toNat / 16), hexDigit (b.toNat % 16)]

def asciiChar (b : UInt8) : Char := Char.ofNat b.toNat

def percentEncode (octet : UInt8 → List Char) (cs : List Char) : List Char :=
  (Text.Utf8.encode cs).flatMap octet

def percentDecode? : List Char → Option (List UInt8)
  | [] => some []
  | c :: cs =>
    if c = '%' then
      match cs with
      | a :: b :: cs => do
        let octet := UInt8.ofNat (16 * (← Text.hexDigit? a) + (← Text.hexDigit? b))
        return octet :: (← percentDecode? cs)
      | _ => none
    else (percentDecode? cs).map (String.utf8EncodeChar c ++ ·)

end TypedClient.Wire
