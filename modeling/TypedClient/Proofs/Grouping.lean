import Mathlib.Data.List.Induction
import Mathlib.Data.List.Forall2
import Mathlib.Data.List.Perm.Basic

namespace TypedClient

variable {α : Type}

theorem map_getElem?_range (xs : List α) :
    (List.range xs.length).map (xs[·]?) = xs.map some := by
  refine List.ext_getElem (by simp) fun i hi _ => ?_
  have hlt : i < xs.length := by simpa using hi
  simp [hlt]

theorem flatMap_range {β : Type} (xs : List α) (f : α → List β) :
    (List.range xs.length).flatMap (fun i => xs[i]?.elim [] f) = xs.flatMap f := by
  have h := congrArg (List.flatMap (Option.elim · [] f)) (map_getElem?_range xs)
  rwa [List.flatMap_map, List.flatMap_map] at h

theorem map_snd_filter_zipIdx (p : α → Bool) (xs : List α) (first : Nat) :
    ((xs.zipIdx first).filter fun x => p x.1).map (·.2) = xs.findIdxs p first := by
  induction xs generalizing first with
  | nil => rfl
  | cons x xs ih => by_cases hx : p x <;> simp [hx, ih]

theorem filterMap_findIdxs (p : α → Bool) (xs : List α) :
    (xs.findIdxs p).filterMap (xs[·]?) = xs.filter p := by
  induction xs using List.reverseRecOn with
  | nil => rfl
  | append_singleton xs x ih =>
    have hold : (xs.findIdxs p).filterMap ((xs ++ [x])[·]?) = xs.filter p := by
      rw [← ih]
      apply List.filterMap_congr
      intro i hi
      have hlt := List.lt_add_of_mem_findIdxs i hi
      simpa using List.getElem?_append_left (by simpa using hlt)
    by_cases hx : p x <;> simp [hx, hold]

variable (key : α → Nat) (xs : List α)

theorem filter_lt_succ_perm (n : Nat) :
    (xs.filter (key · < n) ++ xs.filter (key · = n)).Perm (xs.filter (key · < n + 1)) := by
  have hlt : xs.filter (key · < n) = (xs.filter (key · < n + 1)).filter (key · < n) := by
    rw [List.filter_filter]
    apply List.filter_congr
    intro x _
    by_cases hx : key x < n
    · simp [hx, Nat.lt_succ_of_lt hx]
    · simp [hx]
  have heq : xs.filter (key · = n) = (xs.filter (key · < n + 1)).filter (fun x => !decide (key x < n)) := by
    rw [List.filter_filter]
    apply List.filter_congr
    intro x _
    by_cases hx : key x = n
    · simp [hx]
    · simp [hx]
      omega
  rw [hlt, heq]
  exact List.filter_append_perm _ _

theorem flatMap_filter_perm (n : Nat) :
    ((List.range n).flatMap fun i => xs.filter (key · = i)).Perm (xs.filter (key · < n)) := by
  induction n with
  | zero => simp
  | succ n ih =>
    rw [List.range_succ, List.flatMap_append, List.flatMap_singleton]
    exact (ih.append_right _).trans (filter_lt_succ_perm key xs n)

theorem forall₂_filter_findIdxs (p : α → Bool) (xs : List α) :
    List.Forall₂ (fun x i => xs[i]? = some x) (xs.filter p) (xs.findIdxs p) := by
  induction xs using List.reverseRecOn with
  | nil => exact List.Forall₂.nil
  | append_singleton xs x ih =>
    have hold : List.Forall₂ (fun y i => (xs ++ [x])[i]? = some y) (xs.filter p) (xs.findIdxs p) := by
      apply ih.imp
      intro y i hi
      rw [List.getElem?_append_left (List.getElem?_eq_some_iff.1 hi).1, hi]
    by_cases hx : p x
    · simpa [hx] using List.rel_append hold (.cons (by simp) .nil)
    · simpa [hx] using hold

theorem filter_flatMap_zipIdx {β : Type} (f : α × Nat → List β) {xs : List α} {i : Nat} {x : α}
    (hi : xs[i]? = some x) :
    (xs.zipIdx.flatMap fun p => (f p).map (p, ·)).filter (·.1.2 = i) = (f (x, i)).map ((x, i), ·) := by
  suffices h : ∀ first, (xs.zipIdx first).flatMap (fun p => ((f p).map (p, ·)).filter (·.1.2 = first + i)) =
      (f (x, first + i)).map ((x, first + i), ·) by
    simpa [List.filter_flatMap] using h 0
  have hgroup : ∀ p : α × Nat, ∀ n, ((f p).map (p, ·)).filter (·.1.2 = n) =
      if p.2 = n then (f p).map (p, ·) else [] := by
    intro p n
    by_cases hp : p.2 = n <;> simp [List.filter_map, Function.comp_def, hp]
  intro first
  induction xs generalizing i first with
  | nil => cases hi
  | cons y xs ih =>
    rw [List.zipIdx_cons, List.flatMap_cons, hgroup]
    cases i with
    | zero =>
      obtain rfl : y = x := by simpa using hi
      have hrest : (xs.zipIdx (first + 1)).flatMap
          (fun p => ((f p).map (p, ·)).filter (·.1.2 = first + 0)) = [] := by
        apply List.flatMap_eq_nil_iff.2
        intro p hp
        have hne : p.2 ≠ first := Nat.ne_of_gt (List.le_snd_of_mem_zipIdx hp)
        simp [hgroup, hne]
      rw [hrest]
      simp
    | succ i =>
      have hrest := ih (by simpa using hi) (first + 1)
      rw [Nat.add_assoc, Nat.add_comm 1] at hrest
      rw [hrest]
      simp

end TypedClient
