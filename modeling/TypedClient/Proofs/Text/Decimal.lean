import TypedClient.Text.Number

namespace TypedClient.Text

theorem isDigit_of_mem_toDigits (n : Nat) : ∀ c ∈ Nat.toDigits 10 n, c.isDigit := fun _ hc =>
  Nat.isDigit_of_mem_toDigits (by decide) (by decide) hc

theorem toList_toString_natCast (n : Nat) : (toString (n : Int)).toList = Nat.toDigits 10 n := by
  have htext : toString (n : Int) = toString n := rfl
  rw [htext, Nat.toString_eq_ofList_toDigits, String.toList_ofList]

theorem toList_toString_negSucc (n : Nat) :
    (toString (Int.negSucc n)).toList = '-' :: Nat.toDigits 10 (n + 1) := by
  have htext : toString (Int.negSucc n) = "-" ++ toString (n + 1) := rfl
  rw [htext, Nat.toString_eq_ofList_toDigits, String.toList_append, String.toList_ofList,
    String.toList_ofList, List.singleton_append]

theorem toList_toString_cons (i : Int) : ∃ c cs, (toString i).toList = c :: cs ∧ (c = '-' ∨ c.isDigit) := by
  cases i with
  | ofNat n =>
    obtain ⟨c, cs, hdigits⟩ := List.exists_cons_of_ne_nil (Nat.toDigits_ne_nil (n := n) (b := 10))
    refine ⟨c, cs, (toList_toString_natCast n).trans hdigits, .inr ?_⟩
    exact isDigit_of_mem_toDigits n c (by simp [hdigits])
  | negSucc n => exact ⟨'-', _, toList_toString_negSucc n, .inl rfl⟩

theorem mem_toString {i : Int} {c : Char} (h : c ∈ (toString i).toList) : c = '-' ∨ c.isDigit := by
  cases i with
  | ofNat n =>
    rw [Int.ofNat_eq_natCast, toList_toString_natCast] at h
    exact .inr (isDigit_of_mem_toDigits n c h)
  | negSucc n =>
    rw [toList_toString_negSucc, List.mem_cons] at h
    exact h.imp_right (isDigit_of_mem_toDigits (n + 1) c)

variable {limit value : Nat} {overflow : NumberFault} {cs : List Char}

theorem le_ofDigitChars (value : Nat) (cs : List Char) : value ≤ Nat.ofDigitChars 10 cs value := by
  induction cs generalizing value with
  | nil => exact Nat.le_refl value
  | cons c cs ih =>
    rw [Nat.ofDigitChars_cons]
    have hrest := ih (10 * value + (c.toNat - '0'.toNat))
    omega

/-- Numbers only grow digit by digit, so that none on the way is too large if the last is not. -/
theorem digitsFrom_eq_ok (hcs : ∀ c ∈ cs, c.isDigit) (h : Nat.ofDigitChars 10 cs value ≤ limit) :
    digitsFrom limit overflow value cs = .ok (Nat.ofDigitChars 10 cs value) := by
  induction cs generalizing value with
  | nil => rfl
  | cons c cs ih =>
    obtain ⟨hc, hcs⟩ := List.forall_mem_cons.1 hcs
    rw [Nat.ofDigitChars_cons] at h ⊢
    have hnext := Nat.le_trans (le_ofDigitChars _ cs) h
    rw [digitsFrom, hc, if_neg (by decide)]
    dsimp only
    rw [if_neg (Nat.not_lt.2 hnext)]
    exact ih hcs h

theorem magnitude_toDigits {n : Nat} (h : n ≤ limit) :
    magnitude limit overflow (Nat.toDigits 10 n) = .ok n := by
  have hread : digitsFrom limit overflow 0 (Nat.toDigits 10 n) = .ok n := by
    rw [digitsFrom_eq_ok (isDigit_of_mem_toDigits n) (by rwa [Nat.ofDigitChars_ten_toDigits]),
      Nat.ofDigitChars_ten_toDigits]
  obtain ⟨c, cs, hdigits⟩ := List.exists_cons_of_ne_nil (Nat.toDigits_ne_nil (n := n) (b := 10))
  rw [hdigits] at hread ⊢
  exact hread

theorem parseInt_digit {bits : Nat} {c : Char} (h : c.isDigit) :
    parseInt bits (c :: cs) =
      (magnitude (Nat.pow 2 (bits - 1) - 1) .tooLarge (c :: cs)).map fun n => (n : Int) := by
  have hminus : c ≠ '-' := by
    rintro rfl
    cases h
  have hplus : c ≠ '+' := by
    rintro rfl
    cases h
  unfold parseInt
  split
  · contradiction
  · rename_i heq
    exact absurd (List.cons.inj heq).1 hminus
  · rename_i heq
    exact absurd (List.cons.inj heq).1 hplus
  · rfl

/-- A number of so many bits is read back from its decimal text. -/
theorem parseInt_toString {bits : Nat} {i : Int} (hhigh : i < Nat.pow 2 (bits - 1))
    (hlow : -Nat.pow 2 (bits - 1) ≤ i) : parseInt bits (toString i).toList = .ok i := by
  cases i with
  | ofNat n =>
    have hn : n ≤ Nat.pow 2 (bits - 1) - 1 := Nat.le_sub_one_of_lt (Int.ofNat_lt.1 hhigh)
    rw [Int.ofNat_eq_natCast, toList_toString_natCast]
    obtain ⟨c, cs, hdigits⟩ := List.exists_cons_of_ne_nil (Nat.toDigits_ne_nil (n := n) (b := 10))
    have hc := isDigit_of_mem_toDigits n c (by simp [hdigits])
    rw [hdigits, parseInt_digit hc, ← hdigits, magnitude_toDigits hn]
    rfl
  | negSucc n =>
    have hn : n + 1 ≤ Nat.pow 2 (bits - 1) := by
      rw [Int.negSucc_eq] at hlow
      omega
    rw [toList_toString_negSucc, parseInt, magnitude_toDigits hn]
    rfl

end TypedClient.Text
