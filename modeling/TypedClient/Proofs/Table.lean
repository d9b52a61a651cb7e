import Mathlib.Data.List.Nodup
import TypedClient.Table

namespace TypedClient.Table

theorem lookup_cons_eq_ite {κ β : Type} [BEq κ] [LawfulBEq κ] [DecidableEq κ] (key other : κ) (value : β)
    (pairs : List (κ × β)) :
    ((key, value) :: pairs).lookup other = if other = key then some value else pairs.lookup other := by
  by_cases h : other = key
  · rw [if_pos h, h, List.lookup_cons_self]
  · rw [if_neg h, List.lookup_cons, beq_false_of_ne h]

theorem isSome_lookup_iff {κ β : Type} [BEq κ] [LawfulBEq κ] {key : κ} {pairs : List (κ × β)} :
    (pairs.lookup key).isSome ↔ key ∈ pairs.map Prod.fst := by
  rw [List.lookup_isSome_iff, List.mem_map]
  refine exists_congr fun p => and_congr_right fun _ => ?_
  rw [beq_iff_eq, eq_comm]

variable {α : Type} {t u : Table α} {key k : String} {value v : α} {p : String × α}

/-- In strictly increasing order of the keys. -/
def Sorted (t : Table α) : Prop := t.Pairwise fun p q => p.1 < q.1

theorem mem_insert (h : p ∈ t.insert key value) : p = (key, value) ∨ p ∈ t := by
  induction t with
  | nil => exact .inl (List.mem_singleton.1 h)
  | cons q t ih =>
    simp only [insert] at h
    split at h
    · exact List.mem_cons.1 h
    · exact (List.mem_cons.1 h).imp_right (List.mem_cons_of_mem q)
    · rcases List.mem_cons.1 h with rfl | h
      · exact .inr List.mem_cons_self
      · exact (ih h).imp_right (List.mem_cons_of_mem q)

theorem mem_of_mem_merge (h : p ∈ t.merge u) : p ∈ t ∨ p ∈ u := by
  induction u generalizing t with
  | nil => exact .inl h
  | cons q u ih =>
    rcases ih h with hp | hp
    · rcases mem_insert hp with rfl | hp
      · exact .inr List.mem_cons_self
      · exact .inl hp
    · exact .inr (List.mem_cons_of_mem q hp)

theorem mem_of_mem_ofList {pairs : List (String × α)} (h : p ∈ ofList pairs) : p ∈ pairs :=
  (mem_of_mem_merge (t := []) h).resolve_left List.not_mem_nil

theorem compare_eq_lt : compare key k = .lt ↔ key < k := compareOfLessAndEq_eq_lt

theorem sorted_insert (h : Sorted t) : Sorted (t.insert key value) := by
  induction t with
  | nil => exact List.pairwise_singleton _ _
  | cons q t ih =>
    obtain ⟨hq, ht⟩ := List.pairwise_cons.1 h
    rw [insert]
    split
    · rename_i hlt
      refine List.pairwise_cons.2 ⟨fun p hp => ?_, h⟩
      rcases List.mem_cons.1 hp with rfl | hp
      · exact compare_eq_lt.1 hlt
      · exact String.lt_trans (compare_eq_lt.1 hlt) (hq p hp)
    · rename_i heq
      obtain rfl := Std.LawfulEqOrd.eq_of_compare heq
      exact List.pairwise_cons.2 ⟨hq, ht⟩
    · rename_i hgt
      refine List.pairwise_cons.2 ⟨fun p hp => ?_, ih ht⟩
      rcases mem_insert hp with rfl | hp
      · exact compare_eq_lt.1 (Std.OrientedCmp.gt_iff_lt.1 hgt)
      · exact hq p hp

theorem sorted_merge (h : Sorted t) : Sorted (t.merge u) := by
  induction u generalizing t with
  | nil => exact h
  | cons q u ih => exact ih (sorted_insert h)

theorem sorted_ofList (pairs : List (String × α)) : Sorted (ofList pairs) :=
  sorted_merge (t := []) List.Pairwise.nil

theorem get?_insert : (t.insert key value).get? k = if k = key then some value else t.get? k := by
  induction t with
  | nil => exact lookup_cons_eq_ite key k value []
  | cons q t ih =>
    obtain ⟨name, old⟩ := q
    simp only [get?] at ih ⊢
    rw [insert]
    split
    · exact lookup_cons_eq_ite key k value _
    · rename_i heq
      obtain rfl := Std.LawfulEqOrd.eq_of_compare heq
      rw [lookup_cons_eq_ite, lookup_cons_eq_ite]
      by_cases h : k = key <;> simp [h]
    · rename_i hgt
      rw [lookup_cons_eq_ite, lookup_cons_eq_ite, ih]
      by_cases h : k = name
      · subst h
        have hne : k ≠ key := by
          rintro rfl
          rw [Std.ReflOrd.compare_self] at hgt
          cases hgt
        simp [hne]
      · simp [h]

/-- Of pairs with one key the last counts. -/
theorem get?_merge : (t.merge u).get? k = (u.reverse.lookup k).or (t.get? k) := by
  induction u generalizing t with
  | nil => rfl
  | cons q u ih =>
    have hcons : t.merge (q :: u) = (t.insert q.1 q.2).merge u := rfl
    rw [hcons, ih, get?_insert, List.reverse_cons, List.lookup_append, lookup_cons_eq_ite, Option.or_assoc]
    by_cases h : k = q.1 <;> simp [h]

theorem get?_ofList (pairs : List (String × α)) : (ofList pairs).get? k = pairs.reverse.lookup k :=
  (get?_merge (t := [])).trans (Option.or_none)

theorem lookup_reverse_of_nodup {pairs : List (String × α)} (h : (pairs.map Prod.fst).Nodup) :
    pairs.reverse.lookup k = pairs.lookup k := by
  induction pairs with
  | nil => rfl
  | cons q pairs ih =>
    obtain ⟨hq, hpairs⟩ := List.nodup_cons.1 h
    rw [List.reverse_cons, List.lookup_append, ih hpairs, lookup_cons_eq_ite, lookup_cons_eq_ite]
    by_cases hk : k = q.1
    · subst hk
      have hnone : pairs.lookup q.1 = none := by
        refine List.lookup_eq_none_iff.2 fun p hp => bne_iff_ne.2 fun heq => hq ?_
        rw [heq]
        exact List.mem_map_of_mem hp
      simp [hnone]
    · simp [hk]

theorem lookup_reverse_insert (hne : k ≠ key) :
    (t.insert key value).reverse.lookup k = t.reverse.lookup k := by
  have hnone : ([(key, value)] : Table α).lookup k = none := by
    rw [lookup_cons_eq_ite, if_neg hne, List.lookup_nil]
  induction t with
  | nil => exact hnone
  | cons q t ih =>
    rw [insert]
    split
    · rw [List.reverse_cons, List.lookup_append, hnone, Option.or_none]
    · rename_i heq
      obtain rfl := Std.LawfulEqOrd.eq_of_compare heq
      rw [List.reverse_cons, List.reverse_cons, List.lookup_append, List.lookup_append, hnone,
        lookup_cons_eq_ite, if_neg hne, List.lookup_nil]
    · rw [List.reverse_cons, List.reverse_cons, List.lookup_append, List.lookup_append, ih]

theorem nodup_keys (h : Sorted t) : (t.map Prod.fst).Nodup :=
  List.pairwise_map.2 (h.imp fun hlt => String.ne_of_lt hlt)

theorem get?_eq_some_iff (h : Sorted t) : t.get? k = some v ↔ (k, v) ∈ t := by
  constructor
  · intro hget
    obtain ⟨before, after, rfl, -⟩ := List.lookup_eq_some_iff.1 hget
    exact List.mem_append_right _ List.mem_cons_self
  · intro hmem
    have hsome : (t.get? k).isSome := isSome_lookup_iff.2 (List.mem_map_of_mem hmem)
    obtain ⟨w, hw⟩ := Option.isSome_iff_exists.1 hsome
    obtain ⟨before, after, ht, -⟩ := List.lookup_eq_some_iff.1 hw
    have hmem' : (k, w) ∈ t := ht ▸ List.mem_append_right _ List.mem_cons_self
    cases List.inj_on_of_nodup_map (nodup_keys h) hmem hmem' rfl
    exact hw

theorem ext_of_mem (ht : Sorted t) (hu : Sorted u) (h : ∀ p, p ∈ t ↔ p ∈ u) : t = u := by
  have hnodup {w : Table α} (hw : Sorted w) : w.Nodup := List.Nodup.of_map _ (nodup_keys hw)
  have hperm : t.Perm u := (List.perm_ext_iff_of_nodup (hnodup ht) (hnodup hu)).2 h
  refine hperm.eq_of_pairwise (fun p q _ _ hpq hqp => ?_) ht hu
  exact absurd (String.lt_trans hpq hqp) (String.lt_irrefl _)

end TypedClient.Table
