import Mathlib.Tactic.SplitIfs
import TypedClient.Region

namespace TypedClient

namespace Date

/-- Whether a day comes before another. -/
def Before (a b : Date) : Prop :=
  a.year < b.year ∨ a.year = b.year ∧ (a.month < b.month ∨ a.month = b.month ∧ a.day < b.day)

variable {a b : Date}

theorem compare_eq (a b : Date) :
    compare a b = compareLex (compareOn year) (compareLex (compareOn month) (compareOn day)) a b := by
  change (compareOn year a b).then
    ((compareOn month a b).then ((compareOn day a b).then .eq)) = _
  rw [Ordering.then_eq]
  rfl

theorem compare_eq_lt : compare a b = .lt ↔ a.Before b := by
  rw [compare_eq, Before]
  simp only [compareLex, compareOn, Ordering.then_eq_lt, Nat.compare_eq_lt, Nat.compare_eq_eq,
    Int.compare_eq_lt, Int.compare_eq_eq]

instance : Std.TransOrd Date := by
  have hcompare : (compare : Date → Date → Ordering) =
      compareLex (compareOn year) (compareLex (compareOn month) (compareOn day)) := by
    ext a b
    rw [compare_eq]
  rw [Std.TransOrd, hcompare]
  infer_instance

instance : Std.LawfulEqOrd Date where
  eq_of_compare {a b} h := by
    cases a
    cases b
    simpa [compare_eq, compareLex, compareOn] using h

end Date

namespace Region

/-- An unknown launch comes before a known one. -/
def LaunchedBefore : Option Date → Option Date → Prop
  | none, some _ => True
  | some a, some b => a.Before b
  | _, none => False

def Precedes (a b : Region) : Prop :=
  LaunchedBefore a.launched b.launched ∨ a.launched = b.launched ∧ a.name < b.name

variable {a b : Region}

theorem compare_launched_eq_lt {a b : Option Date} : compare a b = .lt ↔ LaunchedBefore a b := by
  cases a with
  | none =>
    cases b with
    | none => exact iff_of_false nofun id
    | some b => exact iff_of_true rfl trivial
  | some a =>
    cases b with
    | none => exact iff_of_false nofun id
    | some b => exact Date.compare_eq_lt

theorem order_eq_compareLex :
    order = compareLex (compareOn rank) (compareLex (compareOn launched) (compareOn name)) := rfl

instance : Std.TransCmp order := by
  rw [order_eq_compareLex]
  infer_instance

theorem name_eq_of_order (h : order a b = .eq) : a.name = b.name := by
  simp only [order, Ordering.then_eq_eq, Std.LawfulEqOrd.compare_eq_iff_eq] at h
  exact h.2.2

theorem rank_le_of_order (h : (order a b).isLE) : a.rank ≤ b.rank := by
  rw [order, Ordering.isLE_then_iff_and] at h
  exact Nat.isLE_compare.1 h.1

theorem precedes_of_order (hrank : a.rank = b.rank) (h : order a b = .lt) : Precedes a b := by
  have hname : compare a.name b.name = .lt ↔ a.name < b.name := compareOfLessAndEq_eq_lt
  rw [order, hrank, Nat.compare_eq_eq.2 rfl, Ordering.eq_then, Ordering.then_eq_lt,
    compare_launched_eq_lt, Std.LawfulEqOrd.compare_eq_iff_eq, hname] at h
  exact h

theorem rank_eq_zero_iff (r : Region) : r.rank = 0 ↔ r.isGlobal := by
  simp only [rank, isGlobal]
  split_ifs <;> simp_all

theorem rank_le_one_iff (r : Region) : r.rank ≤ 1 ↔ r.isSpecial := by
  simp only [rank, isSpecial]
  split_ifs <;> simp_all

theorem isGlobal_of_order (h : (order a b).isLE) (hb : b.isGlobal) : a.isGlobal := by
  have hrank := rank_le_of_order h
  rw [(rank_eq_zero_iff b).2 hb] at hrank
  exact (rank_eq_zero_iff a).1 (Nat.le_zero.1 hrank)

theorem isSpecial_of_order (h : (order a b).isLE) (hb : b.isSpecial) : a.isSpecial :=
  (rank_le_one_iff a).1 (Nat.le_trans (rank_le_of_order h) ((rank_le_one_iff b).2 hb))

theorem rank_eq_two (r : Region) (h : r.isSpecial = false) : r.rank = 2 := by
  simp only [isSpecial, Bool.or_eq_false_iff, beq_eq_false_iff_ne] at h
  rw [rank, if_neg h.1, if_neg h.2]

end Region

end TypedClient
