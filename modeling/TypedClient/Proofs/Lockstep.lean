import TypedClient.Proofs.Outcome

namespace TypedClient

variable {ε ε' α β γ δ σ τ : Type}

inductive Lockstep (E : ε → ε' → Prop) (R : α → β → Prop) : Except ε α → Except ε' β → Prop
  | ok {a : α} {b : β} (h : R a b) : Lockstep E R (.ok a) (.ok b)
  | error {e : ε} {f : ε'} (h : E e f) : Lockstep E R (.error e) (.error f)

namespace Lockstep

variable {E : ε → ε' → Prop} {R : α → β → Prop} {S : γ → δ → Prop}

theorem refl {E : ε → ε → Prop} {R : α → α → Prop} (hE : ∀ e, E e e) (hR : ∀ a, R a a)
    (x : Except ε α) : Lockstep E R x x := by
  cases x with
  | ok a => exact .ok (hR a)
  | error e => exact .error (hE e)

theorem of_map {x : Except ε α} {y : Except ε β} {f : α → β} (h : y = x.map f) :
    Lockstep Eq (fun a b => b = f a ∧ x = .ok a) x y := by
  rw [h]
  cases x with
  | ok a => exact .ok ⟨rfl, rfl⟩
  | error e => exact .error rfl

theorem mono {R' : α → β → Prop} {x : Except ε α} {y : Except ε' β} (h : Lockstep E R x y)
    (hR : ∀ a b, R a b → R' a b) : Lockstep E R' x y := by
  cases h with
  | ok h => exact .ok (hR _ _ h)
  | error h => exact .error h

theorem results {x : Except ε α} {y : Except ε' β} (h : Lockstep E R x y) :
    Lockstep E (fun a b => R a b ∧ x = .ok a ∧ y = .ok b) x y := by
  cases h with
  | ok h => exact .ok ⟨h, rfl, rfl⟩
  | error h => exact .error h

theorem bind {x : Except ε α} {y : Except ε' β} {f : α → Except ε γ} {g : β → Except ε' δ}
    (h : Lockstep E R x y) (hfg : ∀ a b, R a b → Lockstep E S (f a) (g b)) :
    Lockstep E S (x >>= f) (y >>= g) := by
  cases h with
  | ok h => exact hfg _ _ h
  | error h => exact .error h

theorem mapError_eq {x : Except ε α} {y : Except ε' α} {f : ε → γ} {g : ε' → γ} (h : Lockstep E Eq x y)
    (hfg : ∀ e e', E e e' → f e = g e') : x.mapError f = y.mapError g := by
  cases h with
  | ok h => rw [h]; rfl
  | error h => exact congrArg Except.error (hfg _ _ h)

theorem foldlM {Q : σ → τ → Prop} {f : σ → α → Except ε σ} {g : τ → β → Except ε' τ}
    (hstep : ∀ s t a b, Q s t → R a b → Lockstep E Q (f s a) (g t b)) {as : List α} {bs : List β}
    (h : List.Forall₂ R as bs) {s : σ} {t : τ} (hs : Q s t) :
    Lockstep E Q (as.foldlM f s) (bs.foldlM g t) := by
  induction h generalizing s t with
  | nil => exact .ok hs
  | cons hab _ ih =>
    rw [List.foldlM_cons, List.foldlM_cons]
    exact (hstep s t _ _ hs hab).bind fun s' t' hs' => ih hs'

theorem mapM {f : α → Except ε γ} {g : β → Except ε' δ}
    (hstep : ∀ a b, R a b → Lockstep E S (f a) (g b)) {as : List α} {bs : List β}
    (h : List.Forall₂ R as bs) : Lockstep E (List.Forall₂ S) (as.mapM f) (bs.mapM g) := by
  induction h with
  | nil => exact .ok .nil
  | cons hab _ ih =>
    rw [List.mapM_cons, List.mapM_cons]
    apply (hstep _ _ hab).bind
    intro c d hcd
    apply ih.bind
    intro cs ds hcds
    exact .ok (.cons hcd hcds)

theorem mapM_map {u : α → β} {f : α → Except ε γ} {g : β → Except ε' δ} {as : List α}
    (hstep : ∀ a ∈ as, Lockstep E S (f a) (g (u a))) :
    Lockstep E (List.Forall₂ S) (as.mapM f) ((as.map u).mapM g) := by
  refine mapM (fun a b (hb : a ∈ as ∧ b = u a) => ?_)
    (List.forall₂_map_right_iff.2 (List.forall₂_same.2 fun a ha => ⟨ha, rfl⟩))
  rw [hb.2]
  exact hstep a hb.1

end Lockstep

end TypedClient
