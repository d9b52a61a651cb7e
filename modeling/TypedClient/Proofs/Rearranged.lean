import Mathlib.Data.List.Nodup
import Mathlib.Data.List.Perm.Basic

namespace TypedClient

variable {α β γ δ κ : Type} {R : α → β → Prop} {xs : List α} {ys : List β}

theorem forall₂_zipIdx {α : Type} {R : α → α → Prop} {xs ys : List α} (h : List.Forall₂ R xs ys)
    (k : Nat) :
    List.Forall₂ (fun p q => R p.1 q.1 ∧ q.2 = p.2) (xs.zipIdx k) (ys.zipIdx k) := by
  induction h generalizing k with
  | nil => exact List.Forall₂.nil
  | cons hx _ ih => exact List.Forall₂.cons ⟨hx, rfl⟩ (ih (k + 1))

def Rearranged (R : α → β → Prop) (xs : List α) (ys : List β) : Prop :=
  ∃ zs, List.Forall₂ R xs zs ∧ zs.Perm ys

namespace Rearranged

theorem of_forall₂ (h : List.Forall₂ R xs ys) : Rearranged R xs ys := ⟨ys, h, List.Perm.refl ys⟩

theorem perm_right (h : Rearranged R xs ys) {ys' : List β} (hys : ys.Perm ys') :
    Rearranged R xs ys' := by
  obtain ⟨zs, hzs, hperm⟩ := h
  exact ⟨zs, hzs, hperm.trans hys⟩

theorem perm_left (h : Rearranged R xs ys) {xs' : List α} (hxs : xs'.Perm xs) :
    Rearranged R xs' ys := by
  obtain ⟨zs, hzs, hperm⟩ := h
  obtain ⟨zs', hzs', hperm'⟩ := List.perm_comp_forall₂ hxs hzs
  exact ⟨zs', hzs', hperm'.trans hperm⟩

theorem filter {p : α → Bool} {q : β → Bool} (hpq : ∀ x y, R x y → q y = p x)
    (h : Rearranged R xs ys) : Rearranged R (xs.filter p) (ys.filter q) := by
  obtain ⟨zs, hzs, hperm⟩ := h
  refine ⟨zs.filter q, ?_, hperm.filter q⟩
  clear hperm
  induction hzs with
  | nil => exact List.Forall₂.nil
  | @cons x y _ _ hxy _ ih =>
    have hsame := hpq x y hxy
    by_cases hx : p x = true
    · rw [List.filter_cons_of_pos hx, List.filter_cons_of_pos (hsame.trans hx)]
      exact List.Forall₂.cons hxy ih
    · rwa [List.filter_cons_of_neg hx, List.filter_cons_of_neg (hsame ▸ hx)]

theorem read {F : α → γ → Prop} {G : β → δ → Prop} {S : γ → δ → Prop}
    (hread : ∀ x y, R x y → ∀ a, F x a → ∃ b, G y b ∧ S a b) (h : Rearranged R xs ys)
    {as : List γ} (has : List.Forall₂ F xs as) :
    ∃ bs, List.Forall₂ G ys bs ∧ Rearranged S as bs := by
  obtain ⟨zs, hzs, hperm⟩ := h
  have hall : ∃ bs, List.Forall₂ G zs bs ∧ List.Forall₂ S as bs := by
    clear hperm
    induction hzs generalizing as with
    | nil =>
      cases has
      exact ⟨[], List.Forall₂.nil, List.Forall₂.nil⟩
    | @cons x y _ _ hxy _ ih =>
      obtain ⟨a, rest, ha, hrest, rfl⟩ := List.forall₂_cons_left_iff.1 has
      obtain ⟨b, hb, hab⟩ := hread x y hxy a ha
      obtain ⟨bs, hbs, hall⟩ := ih hrest
      exact ⟨b :: bs, List.Forall₂.cons hb hbs, List.Forall₂.cons hab hall⟩
  obtain ⟨bs, hbs, hS⟩ := hall
  obtain ⟨bs', hbs', hperm'⟩ := List.perm_comp_forall₂ hperm.symm hbs
  exact ⟨bs', hbs', ⟨bs, hS, hperm'.symm⟩⟩

theorem map_eq_of_forall₂ {f : α → κ} {g : β → κ} (hfg : ∀ x y, R x y → g y = f x)
    (h : List.Forall₂ R xs ys) : ys.map g = xs.map f := by
  induction h with
  | nil => rfl
  | cons hxy _ ih => rw [List.map_cons, List.map_cons, hfg _ _ hxy, ih]

/-- Lists of related elements are the same if those of good elements are. -/
theorem flatMap_eq_of_forall₂ {f : α → List γ} {g : β → List γ} {P : γ → Prop}
    (hfg : ∀ x y, R x y → (∀ c ∈ f x, P c) → g y = f x) (h : List.Forall₂ R xs ys)
    (hP : ∀ c ∈ xs.flatMap f, P c) : ys.flatMap g = xs.flatMap f := by
  induction h with
  | nil => rfl
  | cons hxy _ ih =>
    rw [List.flatMap_cons, List.forall_mem_append] at hP
    rw [List.flatMap_cons, List.flatMap_cons, hfg _ _ hxy hP.1, ih hP.2]

theorem map_perm {f : α → κ} {g : β → κ} (hfg : ∀ x y, R x y → g y = f x)
    (h : Rearranged R xs ys) : (xs.map f).Perm (ys.map g) := by
  obtain ⟨zs, hzs, hperm⟩ := h
  rw [← map_eq_of_forall₂ hfg hzs]
  exact hperm.map g

/-- If keys tell elements apart, then lists with the same keys in the same order are related in this
order. -/
theorem forall₂_of_map_eq {f : α → κ} {g : β → κ} (hfg : ∀ x y, R x y → g y = f x)
    (h : Rearranged R xs ys) (hkeys : (ys.map g).Nodup) (hsame : ys.map g = xs.map f) :
    List.Forall₂ R xs ys := by
  obtain ⟨zs, hzs, hperm⟩ := h
  have hmap : zs.map g = ys.map g := (map_eq_of_forall₂ hfg hzs).trans hsame.symm
  have hzy : zs = ys := by
    refine List.ext_getElem (by simpa using congrArg List.length hmap) fun i hi hi' => ?_
    have hkey : g zs[i] = g ys[i] := by
      have hget := congrArg (·[i]?) hmap
      simpa [hi, hi'] using hget
    exact List.inj_on_of_nodup_map hkeys (hperm.subset (List.getElem_mem hi)) (List.getElem_mem hi') hkey
  exact hzy ▸ hzs

end Rearranged

/-- If only the lists of one key hold an element, then the same one comes first in any order. -/
theorem find?_flatMap_of_perm {key : α → κ} {f : α → List β} {p : β → Bool} {k : κ} {as bs : List α}
    (h : as.Perm bs) (hkeys : (as.map key).Nodup) (hp : ∀ a, key a ≠ k → (f a).find? p = none) :
    (bs.flatMap f).find? p = (as.flatMap f).find? p := by
  induction h with
  | nil => rfl
  | cons a _ ih =>
    rw [List.map_cons, List.nodup_cons] at hkeys
    rw [List.flatMap_cons, List.flatMap_cons, List.find?_append, List.find?_append, ih hkeys.2]
  | swap a b as =>
    have hne : key b ≠ key a := by
      simp only [List.map_cons, List.nodup_cons, List.mem_cons, not_or] at hkeys
      exact hkeys.1.1
    simp only [List.flatMap_cons, List.find?_append]
    by_cases ha : key a = k
    · rw [hp b fun hb => hne (hb.trans ha.symm), Option.none_or, Option.none_or]
    · rw [hp a ha, Option.none_or, Option.none_or]
  | trans h₁ _ ih₁ ih₂ => exact (ih₂ ((h₁.map key).nodup_iff.1 hkeys)).trans (ih₁ hkeys)

end TypedClient
