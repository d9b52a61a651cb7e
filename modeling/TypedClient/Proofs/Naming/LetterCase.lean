import Mathlib.Algebra.Group.Nat.Defs
import TypedClient.Proofs.Text.CodeMasks
import TypedClient.Text.LetterCase
import TypedClient.Text.Lowercase
import TypedClient.Text.Numeric

namespace TypedClient.Text

def lowercaseMask : Nat :=
  mask ((0x61, 0x7A) :: lowercaseRuns) ||| alternatingMask alternatingLowercaseRuns

def numericMask : Nat := mask ((0x30, 0x39) :: numericRuns)

def titlecase : List Char := ['ǅ', 'ǈ', 'ǋ', 'ǲ']

/-- What the uppercase keeps of a character. -/
def Keeps (c : Char) (upper : List Char) : Prop :=
  upper ≠ [] ∧
  numericMask.testBit (upper.head?.getD c).toNat = numericMask.testBit c.toNat ∧
  (upper.head?.getD c = '_' → c = '_') ∧
  (upper.head?.getD c = 'ß' → c = 'ß') ∧
  (lowercaseMask.testBit c.toNat = false →
    ((toLower c).head? = some c → upper.head?.getD c = c) ∧
    (upper.length = 1 → upper.all (·.toNat < 0x80) → upper = [c]))

instance (c : Char) (upper : List Char) : Decidable (Keeps c upper) :=
  inferInstanceAs (Decidable (_ ∧ _ ∧ _ ∧ _ ∧ _))

section Runs

variable {runs : List (Nat × Nat × Nat × Nat)} {n m : Nat}

theorem mapRun?_eq_some (h : mapRun? runs n = some m) :
    ∃ first last step image, (first, last, step, image) ∈ runs ∧
      ∃ k, first + k ≤ last ∧ k % step = 0 ∧ n = first + k ∧ m = image + k := by
  obtain ⟨⟨first, last, step, image⟩, hrun, himage⟩ := List.exists_of_findSome?_eq_some h
  obtain ⟨⟨⟨hfirst, hlast⟩, hstep⟩, rfl⟩ : ((first ≤ n ∧ n ≤ last) ∧ (n - first) % step = 0) ∧
      image + (n - first) = m := by
    simpa using himage
  exact ⟨first, last, step, image, hrun, n - first, by omega, hstep, by omega, rfl⟩

/-- The code points that the runs map. -/
def mappedMask (runs : List (Nat × Nat × Nat × Nat)) : Nat :=
  mask (runs.filterMap fun (first, last, step, _) =>
    if step = 2 then none else some (first, last)) |||
  alternatingMask (runs.filterMap fun (first, last, step, _) =>
    if step = 2 then some (first, last) else none)

theorem testBit_mappedMask (h : mapRun? runs n = some m) : (mappedMask runs).testBit n := by
  obtain ⟨first, last, step, image, hrun, k, hlast, hstep, rfl, rfl⟩ := mapRun?_eq_some h
  rw [mappedMask, Nat.testBit_or, testBit_mask, testBit_alternatingMask, Bool.or_eq_true]
  by_cases htwo : step = 2
  · refine .inr (List.any_eq_true.2 ⟨(first, last), List.mem_filterMap.2 ⟨_, hrun, by simp [htwo]⟩, ?_⟩)
    subst htwo
    simp [hlast, hstep]
  · refine .inl (List.any_eq_true.2 ⟨(first, last), List.mem_filterMap.2 ⟨_, hrun, by simp [htwo]⟩, ?_⟩)
    simp [hlast]

end Runs

/-- What the tables are checked for, entry by entry. -/
structure TablesChecked : Prop where
  lowercase_ascii : ∀ n < 0x80, (Char.ofNat n).isLower = lowercaseMask.testBit n
  numeric_ascii : ∀ n < 0x80, (Char.ofNat n).isDigit = numericMask.testBit n
  uppercase_ascii : ∀ n < 0x80, Keeps (Char.ofNat n) [(Char.ofNat n).toUpper]
  uppercase_expansion : ∀ e ∈ uppercaseExpansions, Keeps (Char.ofNat e.1) (e.2.map Char.ofNat)
  uppercase_lowercase : mappedMask uppercaseRuns &&&
      (lowercaseMask ||| mask (titlecase.map fun c => (c.toNat, c.toNat))) =
    mappedMask uppercaseRuns
  uppercase_image : uppercaseRuns.all fun (first, last, _, image) =>
    (numericMask >>> image) % 2 ^ (last - first + 1) =
        (numericMask >>> first) % 2 ^ (last - first + 1) ∧
      (image + (last - first) < 0xD800 ∨ 0xDFFF < image ∧ image + (last - first) < 0x110000) ∧
      (image + (last - first) < '_'.toNat ∨ '_'.toNat < image) ∧
      (image + (last - first) < 'ß'.toNat ∨ 'ß'.toNat < image)
  uppercase_titlecase : titlecase.all fun c =>
    (toLower c).head? ≠ some c ∧ (toUpper c).all (·.toNat < 0x80) = false
  lower_ascii : ∀ n < 0x80, (Char.ofNat n).isLower → (Char.ofNat n).toLower = Char.ofNat n
  lower_lowercase : mappedMask lowercaseMapRuns &&& lowercaseMask = 0
  lower_dotted : isLowercase 'İ' = false
  sharp : isLowercase 'ß' ∧ toUpper 'ß' = ['S', 'S']
  sigma : isLowercase 'Σ' = false

theorem tables_checked : TablesChecked := by
  constructor <;> decide +kernel

theorem isLowercase_eq_testBit (c : Char) : isLowercase c = lowercaseMask.testBit c.toNat := by
  unfold isLowercase
  split
  · rename_i h
    simpa using tables_checked.lowercase_ascii c.toNat h
  · rename_i h
    have hletters : decide (c.toNat ≤ 0x7A) = false := by simpa using by omega
    rw [lowercaseMask, Nat.testBit_or, testBit_mask, testBit_alternatingMask]
    simp [inRuns, hletters]

theorem isNumeric_eq_testBit (c : Char) : isNumeric c = numericMask.testBit c.toNat := by
  unfold isNumeric
  split
  · rename_i h
    simpa using tables_checked.numeric_ascii c.toNat h
  · rename_i h
    have hdigits : decide (c.toNat ≤ 0x39) = false := by simpa using by omega
    rw [numericMask, testBit_mask]
    simp [inRuns, hdigits]

theorem isLowercase_of_uppercaseRuns {c : Char} {m : Nat}
    (h : mapRun? uppercaseRuns c.toNat = some m) : isLowercase c ∨ c ∈ titlecase := by
  have hbit := testBit_mappedMask h
  rw [← tables_checked.uppercase_lowercase, Nat.testBit_and, Nat.testBit_or, testBit_mask,
    Bool.and_eq_true, Bool.or_eq_true, ← isLowercase_eq_testBit] at hbit
  refine hbit.2.imp_right fun htitle => ?_
  obtain ⟨run, hrun, hcode⟩ := List.any_eq_true.1 htitle
  obtain ⟨d, hd, rfl⟩ := List.mem_map.1 hrun
  have hcd : c.toNat = d.toNat := by simp at hcode; omega
  exact Char.toNat_inj.1 hcd ▸ hd

theorem isLowercase_of_lowercaseMapRuns {c : Char} {m : Nat}
    (h : mapRun? lowercaseMapRuns c.toNat = some m) : isLowercase c = false := by
  have hbit := Nat.testBit_and (mappedMask lowercaseMapRuns) lowercaseMask c.toNat
  rw [tables_checked.lower_lowercase, testBit_mappedMask h, Nat.zero_testBit, Bool.true_and] at hbit
  rw [isLowercase_eq_testBit, ← hbit]

theorem toNat_ofNat_of_isValidChar {n : Nat} (h : n.isValidChar) : (Char.ofNat n).toNat = n := by
  rw [Char.ofNat, dif_pos h]
  rfl

/-- A single uppercase beyond ASCII has the number property of the letter, and is no underscore or
sharp s. -/
theorem image_of_uppercaseRuns {c : Char} {m : Nat}
    (h : mapRun? uppercaseRuns c.toNat = some m) :
    (Char.ofNat m).toNat = m ∧ numericMask.testBit m = numericMask.testBit c.toNat ∧
      m ≠ '_'.toNat ∧ m ≠ 'ß'.toNat := by
  obtain ⟨first, last, step, image, hrun, k, hlast, -, hc, rfl⟩ := mapRun?_eq_some h
  have hcheck := of_decide_eq_true (List.all_eq_true.1 tables_checked.uppercase_image _ hrun)
  dsimp only at hcheck
  obtain ⟨hnumeric, hvalid, hunderscore, hsharp⟩ := hcheck
  have hk : k < last - first + 1 := by omega
  have hbit (a : Nat) : (numericMask >>> a % 2 ^ (last - first + 1)).testBit k =
      numericMask.testBit (a + k) := by
    rw [Nat.testBit_mod_two_pow, Nat.testBit_shiftRight, decide_eq_true hk, Bool.true_and]
  refine ⟨toNat_ofNat_of_isValidChar ?_, ?_, ?_, ?_⟩
  · unfold Nat.isValidChar
    omega
  · rw [hc, ← hbit, ← hbit, hnumeric]
  · omega
  · omega

/-- What holds of ASCII, of the table entries and of every character that is its own uppercase holds
of every character and its uppercase. -/
theorem toUpper_cases {P : Char → List Char → Prop}
    (ascii : ∀ n < 0x80, P (Char.ofNat n) [(Char.ofNat n).toUpper])
    (expansion : ∀ e ∈ uppercaseExpansions, P (Char.ofNat e.1) (e.2.map Char.ofNat))
    (run : ∀ c m, mapRun? uppercaseRuns c.toNat = some m → toUpper c = [Char.ofNat m] →
      P c [Char.ofNat m])
    (same : ∀ c, P c [c]) (c : Char) : P c (toUpper c) := by
  by_cases hascii : c.toNat < 0x80
  · rw [toUpper, if_pos hascii]
    simpa using ascii c.toNat hascii
  · cases hcodes : uppercaseExpansions.lookup c.toNat with
    | some codes =>
      obtain ⟨before, after, htable, -⟩ := List.lookup_eq_some_iff.1 hcodes
      have hupper : toUpper c = codes.map Char.ofNat := by rw [toUpper, if_neg hascii, hcodes]
      rw [hupper]
      simpa using expansion (c.toNat, codes) (by simp [htable])
    | none =>
      cases hrun : mapRun? uppercaseRuns c.toNat with
      | some m =>
        have hupper : toUpper c = [Char.ofNat m] := by
          rw [toUpper, if_neg hascii, hcodes]
          simp only [hrun]
        exact hupper ▸ run c m hrun hupper
      | none =>
        have hupper : toUpper c = [c] := by
          rw [toUpper, if_neg hascii, hcodes]
          simp only [hrun]
        exact hupper ▸ same c

theorem keeps_of_uppercaseRuns {c : Char} {m : Nat} (h : mapRun? uppercaseRuns c.toNat = some m)
    (hupper : toUpper c = [Char.ofNat m]) : Keeps c [Char.ofNat m] := by
  obtain ⟨hcode, hnumeric, hunderscore, hsharp⟩ := image_of_uppercaseRuns h
  refine ⟨List.cons_ne_nil _ _, hcode.symm ▸ hnumeric,
    fun hm => absurd (hcode.symm.trans (congrArg Char.toNat hm)) hunderscore,
    fun hm => absurd (hcode.symm.trans (congrArg Char.toNat hm)) hsharp, fun hcase => ?_⟩
  rw [← isLowercase_eq_testBit] at hcase
  rcases isLowercase_of_uppercaseRuns h with hlowercase | htitle
  · rw [hcase] at hlowercase
    cases hlowercase
  · obtain ⟨hlower, hascii⟩ : (toLower c).head? ≠ some c ∧
        (toUpper c).all (·.toNat < 0x80) = false := by
      simpa using List.all_eq_true.1 tables_checked.uppercase_titlecase c htitle
    rw [hupper] at hascii
    exact ⟨fun hsame => absurd hsame hlower, fun _ hall => absurd hall (by rw [hascii]; decide)⟩

theorem keeps_toUpper (c : Char) : Keeps c (toUpper c) :=
  toUpper_cases tables_checked.uppercase_ascii tables_checked.uppercase_expansion
    (fun _ _ => keeps_of_uppercaseRuns) (fun c => by simp [Keeps]) c

theorem toUpper_ne_nil (c : Char) : toUpper c ≠ [] := (keeps_toUpper c).1

def capital (c : Char) : Char := (toUpper c).head?.getD c

theorem isNumeric_capital (c : Char) : isNumeric (capital c) = isNumeric c := by
  rw [isNumeric_eq_testBit, isNumeric_eq_testBit]
  exact (keeps_toUpper c).2.1

/-- No other letter becomes an underscore or a sharp s. -/
theorem eq_of_capital_eq {c x : Char} (hx : x = '_' ∨ x = 'ß') (h : capital c = x) : c = x := by
  obtain ⟨-, -, hunderscore, hsharp, -⟩ := keeps_toUpper c
  rcases hx with rfl | rfl
  · exact hunderscore h
  · exact hsharp h

theorem capital_of_toLower {c : Char} (h : isLowercase c = false)
    (hlower : (toLower c).head? = some c) : capital c = c := by
  rw [isLowercase_eq_testBit] at h
  obtain ⟨-, -, -, -, hcase⟩ := keeps_toUpper c
  exact (hcase h).1 hlower

theorem eq_of_toUpper_eq {c x : Char} (h : isLowercase c = false) (hupper : toUpper c = [x])
    (hx : x.toNat < 0x80) : c = x := by
  rw [isLowercase_eq_testBit] at h
  obtain ⟨-, -, -, -, hcase⟩ := keeps_toUpper c
  have hsame := (hcase h).2 (by simp [hupper]) (by simp [hupper, hx])
  simpa [hupper, eq_comm] using hsame

theorem toLower_ne_nil (c : Char) : toLower c ≠ [] := by
  unfold toLower
  split
  · simp
  · split
    · simp
    · split <;> simp

theorem toLower_of_isLowercase {c : Char} (h : isLowercase c) : toLower c = [c] := by
  unfold toLower
  split
  · rename_i hascii
    rw [isLowercase, if_pos hascii] at h
    simpa using tables_checked.lower_ascii c.toNat hascii (by simpa using h)
  · split
    · rename_i hdotted
      obtain rfl : c = 'İ' := Char.toNat_inj.1 (by simpa using hdotted)
      rw [tables_checked.lower_dotted] at h
      cases h
    · split
      · rename_i hrun
        rw [isLowercase_of_lowercaseMapRuns hrun] at h
        cases h
      · rfl

end TypedClient.Text
