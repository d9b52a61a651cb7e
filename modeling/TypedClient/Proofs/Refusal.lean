import TypedClient.Proofs.Outcome

namespace TypedClient.Outcome

variable {ε α β : Type}

/-- A run refuses what is wrong: it fails with something that is, and succeeds only if nothing is. -/
def Refuses (x : Except ε α) (wrong : ε → Prop) : Prop :=
  match x with
  | .ok _ => ∀ e, ¬ wrong e
  | .error e => wrong e

namespace Refuses

variable {x : Except ε α} {f : α → Except ε β} {wrong wrong' : ε → Prop}

theorem isOk_iff (h : Refuses x wrong) : (∃ a, x = .ok a) ↔ ∀ e, ¬ wrong e := by
  cases x with
  | ok a => exact iff_of_true ⟨a, rfl⟩ h
  | error e => exact iff_of_false nofun fun hnone => hnone e h

theorem of_error (h : Refuses x wrong) {e : ε} (he : x = .error e) : wrong e := by
  rw [he] at h
  exact h

/-- The same is wrong if it is described in another way, or if more is wrong but never alone. -/
theorem widen (h : Refuses x wrong) (hsub : ∀ e, wrong e → wrong' e)
    (hnone : (∀ e, ¬ wrong e) → ∀ e, ¬ wrong' e) : Refuses x wrong' := by
  cases x with
  | ok a => exact hnone h
  | error e => exact hsub e h

theorem congr (h : Refuses x wrong) (hiff : ∀ e, wrong e ↔ wrong' e) : Refuses x wrong' :=
  h.widen (fun e => (hiff e).1) fun hnone e he => hnone e ((hiff e).2 he)

theorem bind (hx : Refuses x wrong) (hf : ∀ a, x = .ok a → Refuses (f a) wrong') :
    Refuses (x >>= f) fun e => wrong e ∨ wrong' e := by
  cases x with
  | error e => exact .inl hx
  | ok a =>
    refine (hf a rfl).widen (fun e => .inr) fun hnone e he => ?_
    exact he.elim (hx e) (hnone e)

theorem bind_pure (hx : Refuses x wrong) (g : α → β) : Refuses (x >>= fun a => pure (g a)) wrong := by
  cases x with
  | error e => exact hx
  | ok a => exact hx

theorem ite_error {p : Prop} [Decidable p] {a : α} {e : ε} :
    Refuses (if p then .error e else .ok a) fun e' => p ∧ e' = e := by
  by_cases hp : p
  · rw [if_pos hp]
    exact ⟨hp, rfl⟩
  · rw [if_neg hp]
    exact fun e' he' => hp he'.1

theorem mapM {γ : Type} {g : γ → Except ε α} {wrong : γ → ε → Prop} {xs : List γ}
    (h : ∀ x ∈ xs, Refuses (g x) (wrong x)) : Refuses (xs.mapM g) fun e => ∃ x ∈ xs, wrong x e := by
  induction xs with
  | nil => exact fun e ⟨x, hx, _⟩ => List.not_mem_nil hx
  | cons x xs ih =>
    rw [List.mapM_cons]
    have hrest := ih fun y hy => h y (List.mem_cons_of_mem x hy)
    refine ((h x List.mem_cons_self).bind fun a _ => hrest.bind_pure (a :: ·)).congr fun e => ?_
    simp only [List.mem_cons, exists_eq_or_imp]

theorem forM {γ : Type} {check : γ → Except ε Unit} {wrong : γ → ε → Prop} {xs : List γ}
    (h : ∀ x ∈ xs, Refuses (check x) (wrong x)) :
    Refuses (xs.forM check) fun e => ∃ x ∈ xs, wrong x e := by
  induction xs with
  | nil => exact fun e ⟨x, hx, _⟩ => List.not_mem_nil hx
  | cons x xs ih =>
    have hrest := ih fun y hy => h y (List.mem_cons_of_mem x hy)
    refine ((h x List.mem_cons_self).bind fun _ _ => hrest).congr fun e => ?_
    simp only [List.mem_cons, exists_eq_or_imp]

end Refuses

end TypedClient.Outcome
