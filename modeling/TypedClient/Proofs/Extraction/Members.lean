import Mathlib.Data.List.Forall2
import TypedClient.Extraction.Extract
import TypedClient.Proofs.Outcome

namespace TypedClient.Extraction

/-- The class with its fields and the methods that they give it. -/
def withMembers (c : ResponseClass) (fields : List Field) : ResponseClass :=
  { c with fields, methods := fields.filterMap timeMethod? }

theorem modify_length_append {α : Type} (f : α → α) (xs : List α) (y : α) (ys : List α) :
    (xs ++ y :: ys).modify xs.length f = xs ++ f y :: ys := by
  induction xs with
  | nil => rfl
  | cons x xs ih => simp [ih]

variable {config : Config} {types : String → Option ClassId}

theorem readMembers_eq_ok {registry r : Registry} {c : PendingClass} :
    readMembers config types registry c = .ok r ↔ ∃ fields, readFields config types c = .ok fields ∧
      r = registry.setMembers c.id fields (fields.filterMap timeMethod?) := by
  unfold readMembers
  rw [Outcome.bind_eq_ok]
  simp only [Outcome.pure_eq_ok, eq_comm (b := r)]

theorem readMembers_run {pending : List PendingClass} {registry r : Registry}
    (done : List ResponseClass) {rest : List ResponseClass} (hclasses : registry.classes = done ++ rest)
    (hids : pending.map (·.id) = List.range' done.length rest.length) :
    pending.foldlM (readMembers config types) registry = .ok r ↔
      ∃ fields, List.Forall₂ (fun c fs => readFields config types c = .ok fs) pending fields ∧
        r = { registry with classes := done ++ List.zipWith withMembers rest fields } := by
  -- The next class to read stands right after those that are done.
  induction pending generalizing registry done rest with
  | nil =>
    have hrest : rest = [] := by
      rw [List.map_nil, eq_comm, List.range'_eq_nil_iff] at hids
      exact List.length_eq_zero_iff.1 hids
    subst hrest
    rw [List.foldlM_nil, Outcome.pure_eq_ok]
    simp only [List.forall₂_nil_left_iff, exists_eq_left, List.zipWith_nil_left, ← hclasses]
    exact eq_comm
  | cons c pending ih =>
    cases rest with
    | nil => simp at hids
    | cons cls rest =>
      rw [List.length_cons, List.range'_succ, List.map_cons, List.cons.injEq] at hids
      obtain ⟨hid, hids⟩ := hids
      rw [List.foldlM_cons, Outcome.bind_eq_ok]
      have hset : ∀ fs, (registry.setMembers c.id fs (fs.filterMap timeMethod?)).classes =
          done ++ [withMembers cls fs] ++ rest := by
        intro fs
        simp [Registry.setMembers, hclasses, hid, modify_length_append, withMembers]
      have hlength : ∀ fs, (done ++ [withMembers cls fs]).length = done.length + 1 := by simp
      have hrest := fun fs => ih _ (hset fs) (by rw [hlength]; exact hids)
      constructor
      · rintro ⟨next, hnext, hrun⟩
        obtain ⟨fs, hfs, rfl⟩ := readMembers_eq_ok.1 hnext
        obtain ⟨fields, hfields, rfl⟩ := (hrest fs).1 hrun
        exact ⟨fs :: fields, List.Forall₂.cons hfs hfields, by simp [Registry.setMembers]⟩
      · rintro ⟨all, hall, rfl⟩
        obtain ⟨fs, fields, hfs, hfields, rfl⟩ := List.forall₂_cons_left_iff.1 hall
        refine ⟨_, readMembers_eq_ok.2 ⟨fs, hfs, rfl⟩, (hrest fs).2 ⟨fields, hfields, ?_⟩⟩
        simp [Registry.setMembers]

end TypedClient.Extraction
