import Mathlib.Data.List.Nodup
import Mathlib.Data.List.Perm.Basic

namespace TypedClient

variable {α κ : Type} [DecidableEq κ]

def firstsBy (key : α → κ) : List α → List α
  | [] => []
  | a :: as => a :: (firstsBy key as).filter (key · ≠ key a)

variable {key : α → κ} {as : List α} {a : α}

theorem firstsBy_sublist : (firstsBy key as).Sublist as := by
  induction as with
  | nil => exact List.Sublist.refl []
  | cons b bs ih => exact List.Sublist.cons_cons b (List.filter_sublist.trans ih)

theorem mem_of_mem_firstsBy (h : a ∈ firstsBy key as) : a ∈ as := firstsBy_sublist.subset h

/-- Every key occurs among the first occurrences. -/
theorem exists_mem_firstsBy (h : a ∈ as) : ∃ b ∈ firstsBy key as, key b = key a := by
  induction as with
  | nil => simp at h
  | cons c cs ih =>
    by_cases hc : key c = key a
    · exact ⟨c, by simp [firstsBy], hc⟩
    · have hm : a ∈ cs := (List.mem_cons.1 h).resolve_left fun he => hc (he ▸ rfl)
      obtain ⟨b, hb, hk⟩ := ih hm
      have hne : key b ≠ key c := fun he => hc (he.symm.trans hk)
      exact ⟨b, List.mem_cons_of_mem c (List.mem_filter.2 ⟨hb, by simpa using hne⟩), hk⟩

theorem nodup_map_firstsBy : ((firstsBy key as).map key).Nodup := by
  induction as with
  | nil => simp [firstsBy]
  | cons b bs ih =>
    rw [firstsBy, List.map_cons, List.nodup_cons]
    refine ⟨?_, ih.sublist (List.filter_sublist.map key)⟩
    rw [List.mem_map]
    rintro ⟨c, hc, he⟩
    have hne := (List.mem_filter.1 hc).2
    simp [he] at hne

/-- One more element at the end is a first occurrence if its key is new. -/
theorem firstsBy_append_singleton :
    firstsBy key (as ++ [a]) = firstsBy key as ++ if key a ∈ as.map key then [] else [a] := by
  induction as with
  | nil => simp [firstsBy]
  | cons b bs ih =>
    rw [List.cons_append, firstsBy, ih, List.filter_append, firstsBy, List.cons_append]
    congr 2
    by_cases hb : key a = key b
    · by_cases hm : key a ∈ bs.map key <;> simp_all
    · by_cases hm : key a ∈ bs.map key <;> simp_all

theorem mem_firstsBy_iff : a ∈ firstsBy key as ↔ as.find? (key · = key a) = some a := by
  induction as with
  | nil => simp [firstsBy]
  | cons b bs ih =>
    rw [firstsBy, List.mem_cons, List.mem_filter, ih, List.find?_cons]
    by_cases hb : key b = key a
    · simp [hb, eq_comm]
    · have hne : a ≠ b := fun he => hb (he ▸ rfl)
      have hkey : key a ≠ key b := fun he => hb he.symm
      simp [hb, hne, hkey]

/-- The first occurrences are the same in any order that keeps the first element of each key. -/
theorem firstsBy_perm {bs : List α}
    (h : ∀ k, bs.find? (key · = k) = as.find? (key · = k)) :
    (firstsBy key as).Perm (firstsBy key bs) := by
  refine (List.perm_ext_iff_of_nodup ?_ ?_).2 fun a => ?_
  · exact List.Nodup.of_map key nodup_map_firstsBy
  · exact List.Nodup.of_map key nodup_map_firstsBy
  · rw [mem_firstsBy_iff, mem_firstsBy_iff, h]

theorem firstsBy_map {β : Type} (key : α → κ) (f : β → α) (bs : List β) :
    firstsBy key (bs.map f) = (firstsBy (fun b => key (f b)) bs).map f := by
  induction bs with
  | nil => rfl
  | cons b bs ih =>
    rw [List.map_cons, firstsBy, firstsBy, List.map_cons, ih, List.filter_map]
    rfl

end TypedClient
