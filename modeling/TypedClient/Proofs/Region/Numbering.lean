import Mathlib.Data.List.Nodup
import Mathlib.Data.List.Perm.Lattice
import TypedClient.Proofs.Region
import TypedClient.Proofs.Region.Order

namespace TypedClient.Region

/-- A list in which no element of a kind follows one of another is that kind before the rest. -/
theorem eq_filter_append_filter {α : Type} {p : α → Bool} {xs : List α}
    (h : xs.Pairwise fun x y => p y → p x) : xs = xs.filter p ++ xs.filter (!p ·) := by
  induction xs with
  | nil => rfl
  | cons x xs ih =>
    obtain ⟨hx, hxs⟩ := List.pairwise_cons.1 h
    by_cases hp : p x
    · rw [List.filter_cons_of_pos hp, List.filter_cons_of_neg (by simpa using hp), List.cons_append, ← ih hxs]
    · have hnone : xs.filter p = [] := List.filter_eq_nil_iff.2 fun y hy hpy => hp (hx y hy hpy)
      have hall : xs.filter (!p ·) = xs :=
        List.filter_eq_self.2 fun y hy => by simpa using mt (hx y hy) hp
      rw [List.filter_cons_of_neg hp, List.filter_cons_of_pos (by simpa using hp), hnone, hall,
        List.nil_append]

/-- Two lists with the same elements, which a key tells apart, agree if all their keys do. -/
theorem perm_eq_of_same_key {α κ : Type} {key : α → κ} {xs ys : List α} (h : xs.Perm ys)
    (hnodup : (xs.map key).Nodup) {k : κ} (hkey : ∀ x ∈ xs, key x = k) : xs = ys := by
  have htrue (zs : List α) : zs.Pairwise fun _ _ => True := List.pairwise_of_forall fun _ _ => trivial
  refine h.eq_of_pairwise (fun x y hx hy _ _ => ?_) (htrue xs) (htrue ys)
  have hy := h.symm.subset hy
  exact List.inj_on_of_nodup_map hnodup hx hy ((hkey x hx).trans (hkey y hy).symm)

section Numbers

variable {rs specials : List Region} {next : Int}

theorem numberFrom_append_of_special (h : ∀ r ∈ specials, r.isSpecial) :
    numberFrom next (specials ++ rs) = specials ++ numberFrom next rs := by
  induction specials with
  | nil => rfl
  | cons r specials ih =>
    obtain ⟨hr, hspecials⟩ := List.forall_mem_cons.1 h
    rw [List.cons_append, numberFrom, if_pos hr, ih hspecials, List.cons_append]

theorem map_number_numberFrom (next : Int) (h : ∀ r ∈ rs, r.isSpecial = false) :
    (numberFrom next rs).map (·.number) = (List.range rs.length).map fun i : Nat => next + (i : Int) := by
  induction rs generalizing next with
  | nil => rfl
  | cons r rs ih =>
    obtain ⟨hr, hrs⟩ := List.forall_mem_cons.1 h
    rw [numberFrom, if_neg (by simp [hr]), List.map_cons, ih _ hrs, List.length_cons,
      List.range_succ_eq_map, List.map_cons, List.map_map]
    congr 1
    · simp
    · refine List.map_congr_left fun i _ => ?_
      simp only [Function.comp_apply, Nat.succ_eq_add_one]
      omega

theorem numberFrom_numberFrom (next : Int) (rs : List Region) :
    numberFrom next (numberFrom next rs) = numberFrom next rs := by
  induction rs generalizing next with
  | nil => rfl
  | cons r rs ih =>
    by_cases hr : r.isSpecial
    · rw [numberFrom, if_pos hr, numberFrom, if_pos hr, ih]
    · have hnumbered : ¬ ({ r with number := next } : Region).isSpecial := hr
      rw [numberFrom, if_neg hr, numberFrom, if_neg hnumbered, ih]

/-- What holds of regions whatever their numbers, numbering keeps. -/
theorem pairwise_numberFrom {R : Region → Region → Prop}
    (hR : ∀ a b, R a b ↔ R (unnumbered a) (unnumbered b)) :
    (numberFrom next rs).Pairwise R ↔ rs.Pairwise R := by
  have hmap : ∀ l : List Region, l.Pairwise R ↔ (l.map unnumbered).Pairwise R := fun l => by
    rw [List.pairwise_map]
    simp only [← hR]
  rw [hmap, map_unnumbered_numberFrom, ← hmap]

theorem forall_mem_numberFrom {P : Region → Prop} (hP : ∀ r, P r ↔ P (unnumbered r)) :
    (∀ r ∈ numberFrom next rs, P r) ↔ ∀ r ∈ rs, P r := by
  have hmap : ∀ l : List Region, (∀ r ∈ l, P r) ↔ ∀ r ∈ l.map unnumbered, P r := fun l => by
    rw [List.forall_mem_map]
    simp only [← hP]
  rw [hmap, map_unnumbered_numberFrom, ← hmap]

end Numbers

section Order

/-- The regions in canonical order. -/
def inOrder (rs : List Region) : List Region := rs.mergeSort fun a b => (order a b).isLE

variable {rs rs' : List Region}

theorem inOrder_perm (rs : List Region) : (inOrder rs).Perm rs := List.mergeSort_perm rs _

theorem pairwise_inOrder (rs : List Region) : (inOrder rs).Pairwise fun a b => (order a b).isLE := by
  apply List.pairwise_mergeSort
  · exact fun a b c => Std.TransCmp.isLE_trans
  · intro a b
    have hswap : order b a = (order a b).swap := Std.OrientedCmp.eq_swap
    rw [hswap, Bool.or_eq_true, Ordering.isLE_swap]
    cases order a b <;> decide

/-- Regions that a list tells apart by name are never of one place in the order. -/
theorem order_ne_eq (hnodup : (rs.map (·.name)).Nodup) : rs.Pairwise fun a b => order a b ≠ .eq :=
  (List.pairwise_map.1 hnodup).imp fun hne heq => hne (name_eq_of_order heq)

theorem inOrder_eq_of_perm (hnodup : (rs.map (·.name)).Nodup) (h : rs.Perm rs') :
    inOrder rs = inOrder rs' := by
  have hperm : (inOrder rs).Perm (inOrder rs') :=
    ((inOrder_perm rs).trans h).trans (inOrder_perm rs').symm
  refine hperm.eq_of_pairwise (fun a b ha hb hab hba => ?_) (pairwise_inOrder rs) (pairwise_inOrder rs')
  have hmem := (inOrder_perm rs).subset
  apply List.inj_on_of_nodup_map hnodup (hmem ha) (hmem (hperm.symm.subset hb))
  apply name_eq_of_order
  exact Std.OrientedCmp.isLE_antisymm hab hba

theorem inOrder_of_pairwise (h : rs.Pairwise fun a b => (order a b).isLE) : inOrder rs = rs :=
  List.mergeSort_of_pairwise h

theorem inOrder_eq_append (rs : List Region) : inOrder rs =
    (inOrder rs).filter (·.isSpecial) ++ (inOrder rs).filter (!·.isSpecial) :=
  eq_filter_append_filter ((pairwise_inOrder rs).imp isSpecial_of_order)

theorem filter_name_inOrder (hnodup : (rs.map (·.name)).Nodup) {p : Region → Bool} {name : String}
    (hp : ∀ r, p r = decide (r.name = name)) :
    (inOrder rs).filter p = rs.filter (·.name = name) := by
  rw [funext hp]
  have hperm := (inOrder_perm rs).filter fun r => decide (r.name = name)
  refine perm_eq_of_same_key hperm ?_ (k := name) fun r hr => by simpa using (List.mem_filter.1 hr).2
  exact (((inOrder_perm rs).map _).nodup_iff.2 hnodup).sublist (List.filter_sublist.map _)

/-- The special regions of a list in order: the global one and the test region. -/
theorem filter_isSpecial_inOrder (hnodup : (rs.map (·.name)).Nodup) :
    (inOrder rs).filter (·.isSpecial) =
      rs.filter (·.name = globalName) ++ rs.filter (·.name = testName) := by
  have hpairwise := ((pairwise_inOrder rs).filter (·.isSpecial)).imp isGlobal_of_order
  have hglobal (r : Region) : (r.isGlobal && r.isSpecial) = decide (r.name = globalName) := by
    by_cases h : r.name = globalName <;> simp [isGlobal, isSpecial, h]
  have htest (r : Region) : (!r.isGlobal && r.isSpecial) = decide (r.name = testName) := by
    have hne : globalName ≠ testName := by decide
    rw [Bool.eq_iff_iff]
    simp only [isGlobal, isSpecial, Bool.and_eq_true, Bool.or_eq_true, Bool.not_eq_true', beq_iff_eq,
      beq_eq_false_iff_ne, decide_eq_true_eq]
    constructor
    · rintro ⟨hr, h⟩
      exact h.resolve_left hr
    · intro h
      exact ⟨h ▸ hne.symm, .inr h⟩
  rw [eq_filter_append_filter hpairwise, List.filter_filter, List.filter_filter,
    filter_name_inOrder hnodup hglobal, filter_name_inOrder hnodup htest]

theorem pairwise_precedes_inOrder (hnodup : (rs.map (·.name)).Nodup) :
    ((inOrder rs).filter (!·.isSpecial)).Pairwise Precedes := by
  have hne := order_ne_eq (((inOrder_perm rs).map _).nodup_iff.2 hnodup)
  have hlt : (inOrder rs).Pairwise fun a b => order a b = .lt := by
    refine ((pairwise_inOrder rs).and hne).imp fun {a b} ⟨hle, hne⟩ => ?_
    cases h : order a b with
    | lt => rfl
    | eq => exact absurd h hne
    | gt => rw [h] at hle; cases hle
  rw [List.pairwise_filter]
  refine hlt.imp fun {a b} hlt ha hb => precedes_of_order ?_ hlt
  rw [rank_eq_two a (by simpa using ha), rank_eq_two b (by simpa using hb)]

end Order

theorem numberAll_eq_append (rs : List Region) : numberAll rs =
    (inOrder rs).filter (·.isSpecial) ++ numberFrom firstRegular ((inOrder rs).filter (!·.isSpecial)) := by
  have happend := congrArg (numberFrom firstRegular) (inOrder_eq_append rs)
  rw [numberFrom_append_of_special fun r hr => (List.mem_filter.1 hr).2] at happend
  exact happend

theorem numberAll_numberAll (rs : List Region) : numberAll (numberAll rs) = numberAll rs := by
  have hsorted : (numberAll rs).Pairwise fun a b => (order a b).isLE :=
    (pairwise_numberFrom fun _ _ => Iff.rfl).2 (pairwise_inOrder rs)
  have hsame : inOrder (numberAll rs) = numberAll rs := inOrder_of_pairwise hsorted
  calc numberAll (numberAll rs)
      = numberFrom firstRegular (inOrder (numberAll rs)) := rfl
    _ = numberFrom firstRegular (numberFrom firstRegular (inOrder rs)) := by rw [hsame]; rfl
    _ = numberFrom firstRegular (inOrder rs) := numberFrom_numberFrom firstRegular (inOrder rs)

/-- The canonical numbering of regions with different names. The special regions come first and keep their
numbers; the others follow by launch and name, with the numbers from ten on. The order in which the regions are
given does not matter, and numbered regions stay as they are. -/
theorem numberAll_canonical {rs : List Region} (hnodup : (rs.map (·.name)).Nodup) :
    ((numberAll rs).map unnumbered).Perm (rs.map unnumbered) ∧
    (∃ others, numberAll rs = rs.filter (·.name = globalName) ++ rs.filter (·.name = testName) ++ others ∧
      (∀ r ∈ others, r.name ≠ globalName ∧ r.name ≠ testName) ∧ others.Pairwise Precedes ∧
      others.map (·.number) = (List.range others.length).map fun i : Nat => 10 + (i : Int)) ∧
    (((rs.filter (·.isSpecial)).map (·.number)).Nodup → (∀ r ∈ rs, r.isSpecial → r.number < 10) →
      ((numberAll rs).map (·.number)).Nodup) ∧
    (∀ rs', rs.Perm rs' → numberAll rs' = numberAll rs) ∧
    numberAll (numberAll rs) = numberAll rs := by
  have hothers : ∀ r ∈ (inOrder rs).filter (!·.isSpecial), r.isSpecial = false := fun r hr => by
    simpa using (List.mem_filter.1 hr).2
  have hnumbers := map_number_numberFrom firstRegular hothers
  refine ⟨map_unnumbered_numberAll rs, ⟨numberFrom firstRegular ((inOrder rs).filter (!·.isSpecial)),
    ?_, ?_, ?_, ?_⟩, fun hspecial hlow => ?_, fun rs' h => ?_, numberAll_numberAll rs⟩
  · rw [numberAll_eq_append, filter_isSpecial_inOrder hnodup]
  · have hplain : ∀ r ∈ (inOrder rs).filter (!·.isSpecial), r.name ≠ globalName ∧ r.name ≠ testName :=
      fun r hr => by simpa [isSpecial] using hothers r hr
    exact (forall_mem_numberFrom fun _ => Iff.rfl).2 hplain
  · exact (pairwise_numberFrom fun _ _ => Iff.rfl).2 (pairwise_precedes_inOrder hnodup)
  · have hlength := congrArg List.length hnumbers
    rw [List.length_map, List.length_map, List.length_range] at hlength
    rw [hnumbers, hlength]
    rfl
  · rw [numberAll_eq_append, List.map_append, hnumbers, List.nodup_append]
    refine ⟨?_, ?_, ?_⟩
    · exact (((inOrder_perm rs).filter _).map _).nodup_iff.2 hspecial
    · refine List.nodup_range.map fun i j hij => ?_
      omega
    · intro a ha b hb
      obtain ⟨r, hr, rfl⟩ := List.mem_map.1 ha
      obtain ⟨i, -, rfl⟩ := List.mem_map.1 hb
      obtain ⟨hr, hspecial⟩ := List.mem_filter.1 hr
      have hlt := hlow r ((inOrder_perm rs).subset hr) hspecial
      rw [firstRegular]
      omega
  · rw [numberAll, numberAll]
    exact congrArg (numberFrom firstRegular) (inOrder_eq_of_perm hnodup h).symm

theorem numberAll_canonical_announced :
    (announced.map (·.name)).Nodup ∧ (all.map (·.number)).Nodup ∧ numberAll announced.reverse = all := by
  have hnodup : (announced.map (·.name)).Nodup := by decide
  obtain ⟨-, -, hnumbers, hperm, -⟩ := numberAll_canonical hnodup
  exact ⟨hnodup, hnumbers (by decide) (by decide), hperm _ announced.reverse_perm.symm⟩

end TypedClient.Region
