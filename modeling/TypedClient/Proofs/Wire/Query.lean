import Mathlib.Data.List.TakeDrop
import TypedClient.Proofs.Outcome
import TypedClient.Proofs.Text.Decimal
import TypedClient.Proofs.Text.Pieces
import TypedClient.Proofs.Text.Utf8
import TypedClient.Proofs.Wire.Percent
import TypedClient.Wire.Query
import TypedClient.Wire.Sendable
import TypedClient.Wire.Whole

namespace TypedClient.Wire

namespace Query

open Outcome (mapM_eq_some_iff)
open Text (splitAt)

/-- A character of a part of a query as it is read: a plus sign is a blank. -/
def unplussed (c : Char) : Char := if c = '+' then ' ' else c

theorem octets_checked : ∀ n < 256, '&' ∉ encodeOctet (UInt8.ofNat n) ∧ '=' ∉ encodeOctet (UInt8.ofNat n) := by
  decide +kernel

theorem plainOctets_checked : ∀ n < 256, isPlain (Char.ofNat n) = true →
    Char.ofNat n ≠ '%' ∧ Char.ofNat n ≠ '+' ∧ String.utf8EncodeChar (Char.ofNat n) = [UInt8.ofNat n] := by
  decide +kernel

theorem unplussed_hexDigit : ∀ n < 16, unplussed (hexDigit n) = hexDigit n := by decide

theorem map_unplussed_percent (b : UInt8) : (percent b).map unplussed = percent b := by
  have hb : b.toNat < 256 := b.toNat_lt
  rw [percent, List.map_cons, List.map_cons, List.map_singleton, unplussed_hexDigit _ (by omega),
    unplussed_hexDigit _ (by omega)]
  rfl

theorem restores_unplussed : Restores fun b => (encodeOctet b).map unplussed := by
  intro b rest
  dsimp only
  unfold encodeOctet
  by_cases hblank : b = 0x20
  · rw [if_pos hblank, hblank]
    exact percentDecode?_plain (by decide) (by decide) rest
  · rw [if_neg hblank]
    by_cases hplain : isPlain (asciiChar b)
    · obtain ⟨hpercent, hplus, hbytes⟩ := plainOctets_checked b.toNat b.toNat_lt hplain
      rw [UInt8.ofNat_toNat] at hbytes
      rw [if_pos hplain, List.map_singleton, unplussed, asciiChar, if_neg hplus, List.singleton_append]
      exact percentDecode?_plain hpercent hbytes rest
    · rw [if_neg hplain, map_unplussed_percent]
      exact percentDecode?_percent b rest

theorem decodeText?_encodeText (s : String) : decodeText? (encodeText s) = some s := by
  have hoctets : percentDecode? ((encodeText s).map fun c => if c = '+' then ' ' else c) =
      some (Text.Utf8.encode s.toList) := by
    rw [encodeText, percentEncode, List.map_flatMap]
    exact percentDecode?_flatMap restores_unplussed _
  unfold decodeText?
  rw [hoctets, Option.bind_eq_bind, Option.bind_some, Text.Utf8.decode?_encode]
  exact congrArg some String.ofList_toList

theorem separator_not_mem_encodeText (s : String) : '&' ∉ encodeText s ∧ '=' ∉ encodeText s := by
  have hoctet : ∀ b : UInt8, '&' ∉ encodeOctet b ∧ '=' ∉ encodeOctet b := by
    intro b
    have hchecked := octets_checked b.toNat b.toNat_lt
    rwa [UInt8.ofNat_toNat] at hchecked
  simp only [encodeText, percentEncode, List.mem_flatMap, not_exists, not_and]
  exact ⟨fun b _ => (hoctet b).1, fun b _ => (hoctet b).2⟩

theorem decodePair?_encodePair (p : String × String) : decodePair? (encodePair p) = some p := by
  have hkey : ∀ c ∈ encodeText p.1, decide (c ≠ '=') = true := by
    intro c hc
    rw [decide_eq_true_iff]
    rintro rfl
    exact (separator_not_mem_encodeText p.1).2 hc
  have hspan : (encodePair p).span (· ≠ '=') = (encodeText p.1, '=' :: encodeText p.2) := by
    rw [encodePair, List.span_eq_takeWhile_dropWhile, List.takeWhile_append_of_pos hkey,
      List.dropWhile_append_of_pos hkey]
    simp
  unfold decodePair?
  rw [hspan]
  simp only [List.tail_cons, decodeText?_encodeText]
  rfl

theorem ampersand_not_mem_encodePair (p : String × String) : '&' ∉ encodePair p := by
  rw [encodePair, List.mem_append, List.mem_cons, not_or, not_or]
  exact ⟨(separator_not_mem_encodeText p.1).1, by decide, (separator_not_mem_encodeText p.2).1⟩

/-- Of no pairs there is an empty query, and every pair has at least its equals sign. -/
theorem encode_eq_empty_iff {pairs : List (String × String)} : encode pairs = "" ↔ pairs = [] := by
  rw [encode, Text.ofList_eq_iff]
  constructor
  · intro h
    cases pairs with
    | nil => rfl
    | cons p pairs =>
      cases pairs with
      | nil => simp [encodePair] at h
      | cons q pairs => simp [List.intercalate_cons_cons, encodePair] at h
  · rintro rfl
    rfl

theorem decode?_encode (pairs : List (String × String)) : decode? (encode pairs) = some pairs := by
  unfold decode?
  by_cases hpairs : pairs = []
  · rw [hpairs]
    rfl
  · have hnonempty : ¬ (encode pairs).isEmpty = true := by
      rwa [String.isEmpty_iff, encode_eq_empty_iff]
    have hparts : ∀ part ∈ pairs.map encodePair, '&' ∉ part := by
      rw [List.forall_mem_map]
      exact fun p _ => ampersand_not_mem_encodePair p
    have hsplit : splitAt '&' (encode pairs).toList = pairs.map encodePair := by
      rw [encode, String.toList_ofList]
      exact Text.splitAt_intercalate (by simpa using hpairs) hparts
    rw [if_neg hnonempty, hsplit, mapM_eq_some_iff, List.forall₂_map_left_iff]
    exact List.forall₂_same.2 fun p _ => decodePair?_encodePair p

end Query

open Outcome (mapM_eq_some_iff)
open Query (decode? encode)

/-- The numbers of so many bits in the text of a list. An empty text holds none. -/
def wholes? (bits : Nat) (text : String) : Option (List Int) :=
  if text.isEmpty then some []
  else (Text.splitAt ',' text.toList).mapM fun piece => (Text.parseInt bits piece).toOption

theorem parseInt_of_fits {bits : Nat} {i : Int} (h : Whole.fits bits i) :
    Text.parseInt bits (toString i).toList = .ok i := by
  unfold Whole.fits at h
  rw [Bool.and_eq_true, decide_eq_true_iff, decide_eq_true_iff] at h
  exact Text.parseInt_toString h.1 h.2

theorem toList_text (is : List Int) :
    (Sendable.text is).toList = [','].intercalate (is.map fun i => (toString i).toList) := by
  have htext : Sendable.text is = Text.joinWith "," (is.map toString) := rfl
  rw [htext, Text.joinWith, String.toList_intercalate, List.map_map]
  rfl

theorem wholes?_text {bits : Nat} {is : List Int} (h : ∀ i ∈ is, Whole.fits bits i) :
    wholes? bits (Sendable.text is) = some is := by
  unfold wholes?
  cases is with
  | nil => rfl
  | cons i is =>
    have hcomma : ∀ piece ∈ (i :: is).map fun i => (toString i).toList, ',' ∉ piece := by
      rw [List.forall_mem_map]
      intro k _ hmem
      rcases Text.mem_toString hmem with hminus | hdigit
      · exact absurd hminus (by decide)
      · exact absurd hdigit (by decide)
    have hsplit : Text.splitAt ',' (Sendable.text (i :: is)).toList =
        (i :: is).map fun i => (toString i).toList := by
      rw [toList_text]
      exact Text.splitAt_intercalate (List.cons_ne_nil _ _) hcomma
    have hnonempty : ¬ (Sendable.text (i :: is)).isEmpty = true := by
      rw [String.isEmpty_iff]
      intro hempty
      rw [hempty] at hsplit
      obtain ⟨c, cs, htext, -⟩ := Text.toList_toString_cons i
      rw [List.map_cons, htext] at hsplit
      cases hsplit
    rw [if_neg hnonempty, hsplit, mapM_eq_some_iff, List.forall₂_map_left_iff]
    refine List.forall₂_same.2 fun k hk => ?_
    rw [parseInt_of_fits (h k hk)]
    rfl

/-- A query gives back the pairs that went into it, in their order, and the text of a list the numbers in it.
So the lists of numbers that are sent under some names are told by the address. -/
theorem query_read_back :
    (∀ pairs, decode? (encode pairs) = some pairs) ∧ encode [] = "" ∧
    (∀ (bits : Nat) (is : List Int), (∀ i ∈ is, Whole.fits bits i) →
      wholes? bits (Sendable.text is) = some is) ∧
    Sendable.text ([] : List Int) = "" ∧
    ∀ (bits : Nat) (sent : List (String × List Int)), (∀ p ∈ sent, ∀ i ∈ p.2, Whole.fits bits i) →
      (decode? (encode (sent.map fun p => (p.1, Sendable.text p.2)))).bind
        (·.mapM fun p => (wholes? bits p.2).map (p.1, ·)) = some sent := by
  refine ⟨Query.decode?_encode, rfl, fun bits is h => wholes?_text h, rfl, fun bits sent h => ?_⟩
  rw [Query.decode?_encode, Option.bind_some, mapM_eq_some_iff, List.forall₂_map_left_iff]
  refine List.forall₂_same.2 fun p hp => ?_
  rw [wholes?_text (h p hp)]
  rfl

theorem query_read_back_ids :
    decode? (encode [("", ""), ("a&b=", "c d+%é")]) = some [("", ""), ("a&b=", "c d+%é")] ∧
    (∀ i ∈ [0, -2147483648, 2147483647], Whole.fits 32 i) ∧
    wholes? 32 (Sendable.text ([0, -2147483648, 2147483647] : List Int)) =
      some [0, -2147483648, 2147483647] := by
  have hfits : ∀ i ∈ [0, -2147483648, 2147483647], Whole.fits 32 i := by decide
  exact ⟨query_read_back.1 _, hfits, query_read_back.2.2.1 32 _ hfits⟩

end TypedClient.Wire
