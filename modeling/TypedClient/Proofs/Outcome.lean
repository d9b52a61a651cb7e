import Mathlib.Data.List.Forall2

namespace TypedClient.Outcome

variable {ε α β σ : Type}

theorem ok_bind (a : α) (f : α → Except ε β) : (Except.ok a >>= f) = f a := rfl

theorem error_bind (e : ε) (f : α → Except ε β) : (Except.error e >>= f) = .error e := rfl

theorem bind_eq_ok {x : Except ε α} {f : α → Except ε β} {b : β} :
    (x >>= f) = .ok b ↔ ∃ a, x = .ok a ∧ f a = .ok b := by
  cases x with
  | error e => simp [error_bind]
  | ok a => simp [ok_bind]

theorem map_eq_ok {x : Except ε α} {f : α → β} {b : β} :
    x.map f = .ok b ↔ ∃ a, x = .ok a ∧ f a = b := by
  cases x with
  | error e => simp [Except.map]
  | ok a => simp [Except.map]

theorem pure_eq_ok {a b : α} : (pure a : Except ε α) = .ok b ↔ a = b := by
  simp [pure, Except.pure]

theorem isOk_iff {x : Except ε α} : x.isOk ↔ ∃ a, x = .ok a := by
  cases x with
  | error e => exact iff_of_false (fun h => by cases h) fun ⟨a, ha⟩ => by cases ha
  | ok a => exact iff_of_true rfl ⟨a, rfl⟩

theorem eq_ok_getD {x : Except ε α} (a : α) (h : x.isOk = true) : x = .ok (x.toOption.getD a) := by
  cases x with
  | error e => cases h
  | ok b => rfl

theorem toOption_eq_some {x : Except ε α} {a : α} : x.toOption = some a ↔ x = .ok a := by
  cases x with
  | error e => exact iff_of_false nofun nofun
  | ok b => simp [Except.toOption]

theorem exists_ok_of_map_toOption {x : Except ε α} {f : α → β} {b : β}
    (h : x.toOption.map f = some b) : ∃ a, x = .ok a ∧ f a = b := by
  simpa only [toOption_eq_some] using Option.map_eq_some_iff.1 h

/-- What every step carries from the elements before it on to its own, holds of all of them in the end. -/
theorem foldlM_carries {step : σ → α → Except ε σ} (P : List α → σ → Prop) {xs : List α}
    (hstep : ∀ x ∈ xs, ∀ done s s', P done s → step s x = .ok s' → P (done ++ [x]) s') {s s' : σ}
    (done : List α) (hs : P done s) (h : xs.foldlM step s = .ok s') : P (done ++ xs) s' := by
  induction xs generalizing s done with
  | nil =>
    rw [List.foldlM_nil, pure_eq_ok] at h
    rw [List.append_nil]
    exact h ▸ hs
  | cons x xs ih =>
    rw [List.foldlM_cons, bind_eq_ok] at h
    obtain ⟨next, hx, hrest⟩ := h
    rw [List.append_cons]
    exact ih (fun y hy => hstep y (by simp [hy])) _ (hstep x (by simp) done s next hs hx) hrest

/-- What every step keeps, a run keeps. -/
theorem foldlM_keeps {step : σ → α → Except ε σ} (P : σ → Prop) {xs : List α}
    (hstep : ∀ x ∈ xs, ∀ s s', P s → step s x = .ok s' → P s') {s s' : σ} (hs : P s)
    (h : xs.foldlM step s = .ok s') : P s' :=
  foldlM_carries (fun _ => P) (fun x hx _ => hstep x hx) [] hs h

theorem forM_eq_ok {check : α → Except ε Unit} {xs : List α} :
    xs.forM check = .ok () ↔ ∀ x ∈ xs, check x = .ok () := by
  induction xs with
  | nil => exact iff_of_true rfl fun x hx => absurd hx List.not_mem_nil
  | cons x xs ih =>
    have hcons : (x :: xs).forM check = (check x >>= fun _ => xs.forM check) := rfl
    rw [hcons, bind_eq_ok, List.forall_mem_cons, ← ih]
    constructor
    · rintro ⟨_, hx, hxs⟩
      exact ⟨hx, hxs⟩
    · rintro ⟨hx, hxs⟩
      exact ⟨(), hx, hxs⟩

theorem mapM_eq_ok {f : α → Except ε β} {xs : List α} {ys : List β} :
    xs.mapM f = .ok ys ↔ List.Forall₂ (fun x y => f x = .ok y) xs ys := by
  induction xs generalizing ys with
  | nil => rw [List.mapM_nil, pure_eq_ok, List.forall₂_nil_left_iff, eq_comm]
  | cons x xs ih =>
    rw [List.mapM_cons, bind_eq_ok, List.forall₂_cons_left_iff]
    constructor
    · rintro ⟨y, hy, h⟩
      rw [bind_eq_ok] at h
      obtain ⟨ys', hys, h⟩ := h
      exact ⟨y, ys', hy, ih.1 hys, (pure_eq_ok.1 h).symm⟩
    · rintro ⟨y, ys', hy, hys, rfl⟩
      refine ⟨y, hy, bind_eq_ok.2 ⟨ys', ih.2 hys, rfl⟩⟩

theorem mapM_eq_some_iff {f : α → Option β} {xs : List α} {ys : List β} :
    xs.mapM f = some ys ↔ List.Forall₂ (fun x y => f x = some y) xs ys := by
  induction xs generalizing ys with
  | nil => simp [List.forall₂_nil_left_iff, eq_comm]
  | cons x xs ih =>
    rw [List.mapM_cons, List.forall₂_cons_left_iff, Option.bind_eq_bind, Option.bind_eq_some_iff]
    constructor
    · rintro ⟨y, hy, h⟩
      obtain ⟨ys', hys, h⟩ := Option.bind_eq_some_iff.1 h
      exact ⟨y, ys', hy, ih.1 hys, (Option.some.inj h).symm⟩
    · rintro ⟨y, ys', hy, hys, rfl⟩
      exact ⟨y, hy, Option.bind_eq_some_iff.2 ⟨ys', ih.2 hys, rfl⟩⟩

theorem exists_mem_of_forall₂ {R : α → β → Prop} {xs : List α} {ys : List β}
    (h : List.Forall₂ R xs ys) {x : α} (hx : x ∈ xs) : ∃ y ∈ ys, R x y := by
  induction h with
  | nil => cases hx
  | cons hxy _ ih =>
    rcases List.mem_cons.1 hx with rfl | hx
    · exact ⟨_, List.mem_cons_self, hxy⟩
    · obtain ⟨y, hy, hR⟩ := ih hx
      exact ⟨y, List.mem_cons_of_mem _ hy, hR⟩

theorem exists_of_mem_mapM {f : α → Except ε β} {xs : List α} {ys : List β} {y : β}
    (h : xs.mapM f = .ok ys) (hy : y ∈ ys) : ∃ x ∈ xs, f x = .ok y := by
  rw [mapM_eq_ok] at h
  induction h with
  | nil => cases hy
  | cons hx _ ih =>
    rcases List.mem_cons.1 hy with rfl | hy
    · exact ⟨_, List.mem_cons_self, hx⟩
    · obtain ⟨x, hmem, hx⟩ := ih hy
      exact ⟨x, List.mem_cons_of_mem _ hmem, hx⟩

/-- A run follows another one if each of its steps does. -/
theorem foldlM_follows {τ γ : Type} {f : σ → α → Except ε σ} {g : τ → γ → Except ε τ}
    {R : σ → τ → Prop} {S : α → γ → Prop}
    (hstep : ∀ x y s t, S x y → R s t → ∀ s', f s x = .ok s' → ∃ t', g t y = .ok t' ∧ R s' t')
    {xs : List α} {ys : List γ} (hxs : List.Forall₂ S xs ys) {s s' : σ} {t : τ} (hs : R s t)
    (h : xs.foldlM f s = .ok s') : ∃ t', ys.foldlM g t = .ok t' ∧ R s' t' := by
  induction hxs generalizing s t with
  | nil =>
    rw [List.foldlM_nil, pure_eq_ok] at h
    exact ⟨t, rfl, h ▸ hs⟩
  | cons hxy _ ih =>
    rw [List.foldlM_cons, bind_eq_ok] at h
    obtain ⟨next, hx, hrest⟩ := h
    obtain ⟨next', hy, hnext⟩ := hstep _ _ s t hxy hs next hx
    obtain ⟨t', ht', hR⟩ := ih hnext hrest
    exact ⟨t', by rw [List.foldlM_cons, hy, ok_bind, ht'], hR⟩

/-- What is read from a list follows what is read from its elements. -/
theorem mapM_follows {γ δ : Type} {f : α → Except ε β} {g : γ → Except ε δ} {ρ : β → δ}
    {S : α → γ → Prop} (hstep : ∀ x y, S x y → ∀ b, f x = .ok b → g y = .ok (ρ b))
    {xs : List α} {ys : List γ} (hxs : List.Forall₂ S xs ys) {bs : List β}
    (h : xs.mapM f = .ok bs) : ys.mapM g = .ok (bs.map ρ) := by
  induction hxs generalizing bs with
  | nil =>
    rw [List.mapM_nil, pure_eq_ok] at h
    rw [← h]
    rfl
  | cons hxy _ ih =>
    rw [List.mapM_cons, bind_eq_ok] at h
    obtain ⟨b, hb, h⟩ := h
    obtain ⟨bs', hbs, h⟩ := bind_eq_ok.1 h
    rw [← pure_eq_ok.1 h, List.mapM_cons, hstep _ _ hxy b hb, ok_bind, ih hbs]
    rfl

/-- What is read from a list changes with what is read from its elements. -/
theorem mapM_map {γ : Type} {f : α → Except ε β} {ρ : β → γ} (xs : List α) :
    xs.mapM (fun x => (f x).map ρ) = (xs.mapM f).map (List.map ρ) := by
  induction xs with
  | nil => rfl
  | cons x xs ih =>
    rw [List.mapM_cons, List.mapM_cons, ih]
    cases f x with
    | error e => rfl
    | ok b => cases xs.mapM f <;> rfl

/-- A run from a changed state is the run with its result changed, if each of its steps is. -/
theorem foldlM_commutes {f g : σ → α → Except ε σ} {ρ : σ → σ} (P : σ → Prop) {xs : List α}
    (hkeeps : ∀ x ∈ xs, ∀ s s', P s → f s x = .ok s' → P s')
    (hstep : ∀ x ∈ xs, ∀ s, P s → g (ρ s) x = (f s x).map ρ) {s : σ} (hs : P s) :
    xs.foldlM g (ρ s) = (xs.foldlM f s).map ρ := by
  induction xs generalizing s with
  | nil => rfl
  | cons x xs ih =>
    rw [List.foldlM_cons, List.foldlM_cons, hstep x List.mem_cons_self s hs]
    cases hx : f s x with
    | error e => rfl
    | ok next =>
      have hnext := hkeeps x List.mem_cons_self s next hs hx
      exact ih (fun y hy => hkeeps y (List.mem_cons_of_mem x hy))
        (fun y hy => hstep y (List.mem_cons_of_mem x hy)) hnext

end TypedClient.Outcome
