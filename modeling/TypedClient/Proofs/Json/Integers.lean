import Mathlib.Data.List.Forall2
import Mathlib.Data.List.TakeDrop
import Mathlib.Tactic.IntervalCases
import Mathlib.Tactic.Ring
import TypedClient.Json.Reader
import TypedClient.Proofs.Text.Decimal

namespace TypedClient.Json

open JsonNumber (digitsValue)
open Text (isDigit_of_mem_toDigits joinWith toList_toString_cons toList_toString_natCast
  toList_toString_negSucc)

/-- An integer as JSON writes it: it has no fraction and no exponent, and it is no negative zero. -/
inductive IsInteger : Json → Int → Prop
  | natural (ds : List Nat) : IsInteger (.number ⟨false, ds, none, none⟩) (digitsValue ds)
  | negative (ds : List Nat) (h : digitsValue ds ≠ 0) :
      IsInteger (.number ⟨true, ds, none, none⟩) (-(digitsValue ds : Int))

theorem isInteger_iff {n : JsonNumber} {i : Int} : IsInteger (.number n) i ↔ n.toInt? = some i := by
  constructor
  · intro h
    cases h with
    | natural ds => rfl
    | negative ds h => simp [JsonNumber.toInt?, h]
  · intro h
    obtain ⟨negative, whole, fraction, exponent⟩ := n
    unfold JsonNumber.toInt? at h
    split at h
    · rename_i hfraction hexponent
      cases hfraction
      cases hexponent
      cases negative with
      | false =>
        cases h
        exact .natural whole
      | true =>
        by_cases hzero : digitsValue whole = 0
        · simp [hzero] at h
        · simp [hzero] at h
          exact h ▸ .negative whole hzero
    · cases h

variable {ds rest : List Char}

/-- What may follow an element of an array. -/
def EndsElement (rest : List Char) : Prop := ∃ c cs, rest = c :: cs ∧ (c = ',' ∨ c = ']')

theorem EndsElement.not_isDigit (h : EndsElement rest) : rest.head?.any Char.isDigit = false := by
  obtain ⟨c, cs, rfl, rfl | rfl⟩ := h <;> rfl

theorem EndsElement.fraction? (h : EndsElement rest) : Json.fraction? rest = some (none, rest) := by
  obtain ⟨c, cs, rfl, rfl | rfl⟩ := h <;> rfl

theorem EndsElement.exponent? (h : EndsElement rest) : Json.exponent? rest = some (none, rest) := by
  obtain ⟨c, cs, rfl, rfl | rfl⟩ := h <;> rfl

theorem digits?_append (hne : ds ≠ []) (hds : ∀ c ∈ ds, c.isDigit)
    (hrest : rest.head?.any Char.isDigit = false) : digits? (ds ++ rest) = some (digitValues ds, rest) := by
  have hspan : (ds ++ rest).span Char.isDigit = (ds, rest) := by
    rw [List.span_eq_takeWhile_dropWhile, List.takeWhile_append_of_pos hds,
      List.dropWhile_append_of_pos hds]
    cases rest with
    | nil => simp
    | cons c cs => simp_all
  unfold digits?
  rw [hspan]
  cases ds with
  | nil => exact absurd rfl hne
  | cons d ds => rfl

/-- Only zero begins with a zero. -/
theorem head?_toDigits {n : Nat} (h : 0 < n) : (Nat.toDigits 10 n).head? ≠ some '0' := by
  induction n using Nat.strongRecOn with
  | ind n ih =>
    rw [Nat.toDigits_eq_if (by decide)]
    split
    · rename_i hsmall
      interval_cases n <;> decide
    · rename_i hlarge
      have hshorter := ih (n / 10) (by omega) (by omega)
      rw [List.head?_append_of_ne_nil _ Nat.toDigits_ne_nil]
      exact hshorter

theorem digitsValue_toDigits (n : Nat) : digitsValue (digitValues (Nat.toDigits 10 n)) = n := by
  have hvalue := @Nat.ofDigitChars_ten_toDigits n
  rw [digitsValue, digitValues, List.foldl_map]
  exact hvalue

theorem unsigned?_toDigits (negative : Bool) (n : Nat) (h : EndsElement rest) :
    unsigned? negative (Nat.toDigits 10 n ++ rest) =
      some (.number ⟨negative, digitValues (Nat.toDigits 10 n), none, none⟩, rest) := by
  have hdigits := digits?_append Nat.toDigits_ne_nil (isDigit_of_mem_toDigits n) h.not_isDigit
  rcases Nat.eq_zero_or_pos n with rfl | hpos
  · simp [unsigned?, Nat.toDigits_zero, h.not_isDigit, h.fraction?, h.exponent?, digitValues]
  · have hhead := head?_toDigits hpos
    unfold unsigned?
    split
    · rename_i hzero
      rw [← List.head?_append_of_ne_nil _ Nat.toDigits_ne_nil, hzero] at hhead
      exact absurd rfl hhead
    · rw [hdigits]
      simp [h.not_isDigit, h.fraction?, h.exponent?]

theorem not_isSpace_of_isDigit {c : Char} (h : c.isDigit) : isSpace c = false := by
  have hne : c ≠ ' ' ∧ c ≠ '\n' ∧ c ≠ '\t' ∧ c ≠ '\r' := by
    refine ⟨?_, ?_, ?_, ?_⟩ <;> (rintro rfl; revert h; decide)
  simp [isSpace, hne]

/-- A value that begins with a digit is a number. -/
theorem readValue?_digit (bound : Nat) {d : Char} {cs : List Char} (h : d.isDigit) :
    readValue? (bound + 1) (d :: cs) = unsigned? false (d :: cs) := by
  have hspace : skipSpace (d :: cs) = d :: cs := by
    rw [skipSpace, List.dropWhile_cons_of_neg (by simp [not_isSpace_of_isDigit h])]
  have hne : d ≠ 'n' ∧ d ≠ 't' ∧ d ≠ 'f' ∧ d ≠ '"' ∧ d ≠ '[' ∧ d ≠ '\x7b' ∧ d ≠ '-' := by
    refine ⟨?_, ?_, ?_, ?_, ?_, ?_, ?_⟩ <;> (rintro rfl; revert h; decide)
  obtain ⟨hn, ht, hf, hquote, hbracket, hbrace, hminus⟩ := hne
  rw [readValue?, hspace]
  simp [hn, ht, hf, hquote, hbracket, hbrace, hminus]

theorem readValue?_natCast (bound n : Nat) (h : EndsElement rest) :
    ∃ j, IsInteger j n ∧ readValue? (bound + 1) ((toString (n : Int)).toList ++ rest) = some (j, rest) := by
  have hvalue := IsInteger.natural (digitValues (Nat.toDigits 10 n))
  rw [digitsValue_toDigits] at hvalue
  refine ⟨_, hvalue, ?_⟩
  rw [toList_toString_natCast, ← unsigned?_toDigits false n h]
  obtain ⟨d, ds, hdigits⟩ := List.exists_cons_of_ne_nil (Nat.toDigits_ne_nil (n := n) (b := 10))
  have hd := isDigit_of_mem_toDigits n d (by simp [hdigits])
  rw [hdigits, List.cons_append]
  exact readValue?_digit bound hd

theorem readValue?_negSucc (bound n : Nat) (h : EndsElement rest) : ∃ j, IsInteger j (Int.negSucc n) ∧
    readValue? (bound + 1) ((toString (Int.negSucc n)).toList ++ rest) = some (j, rest) := by
  have hvalue := IsInteger.negative (digitValues (Nat.toDigits 10 (n + 1)))
  rw [digitsValue_toDigits] at hvalue
  refine ⟨_, hvalue (Nat.succ_ne_zero n), ?_⟩
  rw [toList_toString_negSucc, ← unsigned?_toDigits true (n + 1) h]
  rfl

theorem readValue?_integer (bound : Nat) (i : Int) (h : EndsElement rest) :
    ∃ j, IsInteger j i ∧ readValue? (bound + 1) ((toString i).toList ++ rest) = some (j, rest) := by
  cases i with
  | ofNat n => exact readValue?_natCast bound n h
  | negSucc n => exact readValue?_negSucc bound n h

/-- The decimal texts of the integers, with commas between them. -/
def written (is : List Int) : List Char := [','].intercalate (is.map fun i => (toString i).toList)

theorem written_cons_cons (i k : Int) (is : List Int) :
    written (i :: k :: is) = (toString i).toList ++ ',' :: written (k :: is) := by
  simp [written, List.intercalate_cons_cons]

theorem written_cons (i : Int) (is : List Int) :
    ∃ c cs, written (i :: is) = c :: cs ∧ (c = '-' ∨ c.isDigit) := by
  obtain ⟨c, cs, htext, hc⟩ := toList_toString_cons i
  cases is with
  | nil => exact ⟨c, cs, by simp [written, ← htext], hc⟩
  | cons k is => exact ⟨c, _, by rw [written_cons_cons, htext, List.cons_append], hc⟩

theorem length_le_written (is : List Int) : is.length ≤ (written is).length := by
  induction is with
  | nil => exact Nat.zero_le _
  | cons i is ih =>
    cases is with
    | nil =>
      obtain ⟨c, cs, hwritten, -⟩ := written_cons i []
      simp [hwritten]
    | cons k is =>
      obtain ⟨c, cs, htext, -⟩ := toList_toString_cons i
      simp only [written_cons_cons, htext, List.length_append, List.length_cons] at ih ⊢
      omega

/-- The bound counts the elements that are left, and one more for the value of the last. -/
theorem readElements?_written {bound : Nat} {i : Int} {is : List Int} (h : is.length + 2 ≤ bound) :
    ∃ js, List.Forall₂ IsInteger js (i :: is) ∧
      readElements? bound (written (i :: is) ++ ']' :: rest) = some (js, rest) := by
  induction is generalizing bound i with
  | nil =>
    obtain ⟨bound, rfl⟩ : ∃ m, bound = m + 2 := Nat.exists_eq_add_of_le' h
    obtain ⟨j, hj, hread⟩ := readValue?_integer bound i ⟨']', rest, rfl, .inr rfl⟩
    have hwritten : written [i] = (toString i).toList := by simp [written]
    refine ⟨[j], .cons hj .nil, ?_⟩
    rw [hwritten, readElements?, hread]
    rfl
  | cons k is ih =>
    obtain ⟨bound, rfl⟩ : ∃ m, bound = m + 2 := Nat.exists_eq_add_of_le' (Nat.le_of_add_left_le h)
    rw [List.length_cons] at h
    obtain ⟨js, hjs, hrest⟩ := @ih (bound + 1) k (by omega)
    obtain ⟨j, hj, hread⟩ := readValue?_integer bound i
      ⟨',', written (k :: is) ++ ']' :: rest, rfl, .inl rfl⟩
    refine ⟨j :: js, .cons hj hjs, ?_⟩
    rw [written_cons_cons, List.append_assoc, List.cons_append, readElements?, hread]
    have hcomma : skipSpace (',' :: (written (k :: is) ++ ']' :: rest)) =
        ',' :: (written (k :: is) ++ ']' :: rest) := rfl
    simp [hcomma, hrest]

theorem toList_written (is : List Int) :
    ("[" ++ joinWith "," (is.map toString) ++ "]").toList = '[' :: written is ++ [']'] := by
  simp [joinWith, String.toList_intercalate, written, Function.comp_def]

theorem readValue?_bracket (bound : Nat) {c : Char} {cs : List Char} (hc : isSpace c = false) (hne : c ≠ ']') :
    readValue? (bound + 1) ('[' :: c :: cs) =
      (readElements? bound (c :: cs)).map fun r => (.array r.1, r.2) := by
  have hspace : skipSpace ('[' :: c :: cs) = '[' :: c :: cs := rfl
  have hskip : skipSpace (c :: cs) = c :: cs := by
    rw [skipSpace, List.dropWhile_cons_of_neg (by simp [hc])]
  rw [readValue?, hspace]
  simp [hskip, hne]

/-- A list of integers in brackets is read as an array of these integers. -/
theorem read?_written (is : List Int) : ∃ js, List.Forall₂ IsInteger js is ∧
    read? ('[' :: written is ++ [']']) = some (.array js) := by
  cases is with
  | nil => exact ⟨[], .nil, rfl⟩
  | cons i is =>
    have hlength := length_le_written (i :: is)
    have hbound : is.length + 2 ≤ 2 * ('[' :: written (i :: is) ++ [']']).length + 1 := by
      simp only [List.length_cons, List.length_append] at hlength ⊢
      omega
    obtain ⟨js, hjs, hread⟩ := @readElements?_written [] _ i is hbound
    obtain ⟨c, cs, hwritten, hc⟩ := written_cons i is
    have hspace : isSpace c = false := by
      rcases hc with rfl | hc
      · rfl
      · exact not_isSpace_of_isDigit hc
    have hclosing : c ≠ ']' := by
      rintro rfl
      exact absurd hc (by decide)
    refine ⟨js, hjs, ?_⟩
    rw [hwritten] at hread ⊢
    simp only [List.cons_append] at hread ⊢
    rw [read?, readValue?_bracket _ hspace hclosing, hread]
    rfl

theorem le_foldl_digits (start : Nat) (ds : List Nat) : start ≤ ds.foldl (fun n d => 10 * n + d) start := by
  induction ds generalizing start with
  | nil => exact Nat.le_refl _
  | cons d ds ih =>
    calc start ≤ 10 * start + d := by omega
      _ ≤ ds.foldl (fun n d => 10 * n + d) (10 * start + d) := ih _

theorem takeDigits_of_lt {start : Nat} {ds : List Nat}
    (h : ds.foldl (fun n d => 10 * n + d) start < Nat.pow 2 64) :
    JsonNumber.takeDigits start ds = (ds.foldl (fun n d => 10 * n + d) start, []) := by
  induction ds generalizing start with
  | nil => rfl
  | cons d ds ih =>
    have hnext : 10 * start + d < Nat.pow 2 64 := Nat.lt_of_le_of_lt (le_foldl_digits _ ds) h
    rw [JsonNumber.takeDigits, if_pos hnext, ih h, List.foldl_cons]

/-- Numbers of 53 bits are doubles. -/
theorem nearest_of_lt {n : Nat} (h : n < Nat.pow 2 53) : JsonNumber.nearest n = n := by
  have hunit : Nat.log2 n - 52 = 0 := by
    rcases Nat.eq_zero_or_pos n with rfl | hpos
    · rfl
    · have hlog : Nat.log2 n < 53 := (Nat.log2_lt hpos.ne').2 h
      omega
  simp [JsonNumber.nearest, hunit, Nat.mod_one]

theorem parts_of_lt {negative : Bool} {whole : List Nat} (h : digitsValue whole < Nat.pow 2 64) :
    (JsonNumber.mk negative whole none none).parts = (digitsValue whole, 0) := by
  simp [JsonNumber.parts, takeDigits_of_lt h, JsonNumber.takeDigits, digitsValue]

theorem overflows_eq_false {negative : Bool} {whole : List Nat} (h : digitsValue whole < Nat.pow 2 53) :
    (JsonNumber.mk negative whole none none).overflows = false := by
  have hbits : Nat.pow 2 53 < Nat.pow 2 64 := by decide
  have hlimit : Nat.pow 2 53 < Nat.pow 2 1024 - Nat.pow 2 970 := by decide +kernel
  have hten : Nat.pow 10 (Int.toNat 0) = 1 := rfl
  have hone : JsonNumber.nearest 1 = 1 := nearest_of_lt (by decide)
  unfold JsonNumber.overflows
  rw [parts_of_lt (h.trans hbits)]
  simp only [hten, nearest_of_lt h, hone, Nat.mul_one]
  split
  · rfl
  · rw [if_neg (by decide), decide_eq_false (by omega)]

-- A number below the greatest double, which is refused since its parts are rounded before they are multiplied.
example : (JsonNumber.mk false [1, 7, 9, 7, 6, 9, 3, 1, 3, 4, 8, 6, 2, 3, 1, 5, 7, 0, 8] none
    (some 290)).overflows = true := by decide +kernel

end TypedClient.Json
