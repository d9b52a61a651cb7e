import Mathlib.Algebra.Group.Nat.Defs
import TypedClient.Text.CodeRanges

namespace TypedClient.Text

/-- The code points of the runs. -/
def mask (runs : List (Nat × Nat)) : Nat :=
  runs.foldr (fun run bits => ((2 ^ (run.2 + 1 - run.1) - 1) <<< run.1) ||| bits) 0

/-- Every second code point of the runs, from their first. -/
def alternatingMask (runs : List (Nat × Nat)) : Nat :=
  runs.foldr (fun run bits => (((4 ^ ((run.2 + 2 - run.1) / 2) - 1) / 3) <<< run.1) ||| bits) 0

theorem testBit_mask (runs : List (Nat × Nat)) (n : Nat) :
    (mask runs).testBit n = inRuns runs n := by
  induction runs with
  | nil => simp [mask, inRuns]
  | cons run runs ih =>
    have hrun : ((2 ^ (run.2 + 1 - run.1) - 1) <<< run.1).testBit n =
        (run.1 ≤ n && n ≤ run.2) := by
      rw [Nat.testBit_shiftLeft, Nat.testBit_two_pow_sub_one, Bool.eq_iff_iff]
      simp only [Bool.and_eq_true, decide_eq_true_eq]
      omega
    simp only [mask, inRuns, List.any_cons, List.foldr_cons, Nat.testBit_or, hrun] at ih ⊢
    rw [ih]

theorem testBit_alternate (k i : Nat) :
    ((4 ^ k - 1) / 3).testBit i = (i < 2 * k && i % 2 == 0) := by
  induction k generalizing i with
  | zero => simp
  | succ k ih =>
    have hmod : 4 ^ k % 3 = 1 := by simp [Nat.pow_mod]
    have hstep : (4 ^ (k + 1) - 1) / 3 = 4 * ((4 ^ k - 1) / 3) + 1 := by
      rw [Nat.pow_succ]
      omega
    have htwo (m : Nat) : (4 * m + 1) / 2 / 2 = m := by omega
    have hone (m : Nat) : (4 * m + 1) / 2 % 2 = 0 := by omega
    rw [hstep]
    match i with
    | 0 => simp [Nat.testBit_zero]; omega
    | 1 => simp [Nat.testBit_succ, Nat.testBit_zero, hone]
    | i + 2 =>
      rw [Nat.testBit_succ, Nat.testBit_succ, htwo, ih, Nat.add_mod_right]
      simp only [Nat.mul_succ, Nat.add_lt_add_iff_right]

theorem testBit_alternatingMask (runs : List (Nat × Nat)) (n : Nat) :
    (alternatingMask runs).testBit n = inAlternating runs n := by
  induction runs with
  | nil => simp [alternatingMask, inAlternating]
  | cons run runs ih =>
    have hrun : (((4 ^ ((run.2 + 2 - run.1) / 2) - 1) / 3) <<< run.1).testBit n =
        (run.1 ≤ n && n ≤ run.2 && (n - run.1) % 2 == 0) := by
      rw [Nat.testBit_shiftLeft, testBit_alternate, Bool.eq_iff_iff]
      simp only [Bool.and_eq_true, decide_eq_true_eq, beq_iff_eq]
      omega
    simp only [alternatingMask, inAlternating, List.any_cons, List.foldr_cons, Nat.testBit_or,
      hrun] at ih ⊢
    rw [ih]

end TypedClient.Text
