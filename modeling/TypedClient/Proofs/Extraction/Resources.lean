import Mathlib.Data.List.Perm.Basic
import TypedClient.Extraction.Resources
import TypedClient.Proofs.Outcome

namespace TypedClient.Extraction

open Node Text

variable {config : Config}

theorem orFault_eq_ok {α : Type} {place : Place} {fault : StructuralFault} {o : Option α} {a : α} :
    orFault place fault o = .ok a ↔ o = some a := by
  cases o <;> simp [orFault]

theorem requiredAttr_eq_ok {place : Place} {n : Document} {name : String} {cs : List Char} :
    requiredAttr place n name = .ok cs ↔ ∃ value, n.attr? name = some value ∧ trim value.toList = cs := by
  unfold requiredAttr
  cases n.attr? name <;> simp

theorem node_of_readResource {n : Document} {entry : ResourceEntry}
    (h : readResource n = .ok entry) : entry.node = n := by
  obtain ⟨_, -, h⟩ := Outcome.bind_eq_ok.1 h
  obtain ⟨_, -, h⟩ := Outcome.bind_eq_ok.1 h
  obtain ⟨_, -, h⟩ := Outcome.bind_eq_ok.1 h
  obtain ⟨_, -, h⟩ := Outcome.bind_eq_ok.1 h
  obtain ⟨_, -, h⟩ := Outcome.bind_eq_ok.1 h
  obtain ⟨_, -, h⟩ := Outcome.bind_eq_ok.1 h
  cases h
  rfl

/-- The id of a resource with such attributes. -/
def idIn? (attrs : Table String) : Option String :=
  ((attrs.get? "data-version").bind fun value => splitVersion? (trim value.toList)).map (·.1)

theorem idIn?_of_readResource {n : Document} {entry : ResourceEntry}
    (h : readResource n = .ok entry) : idIn? n.attrs = some entry.id := by
  obtain ⟨text, htext, h⟩ := Outcome.bind_eq_ok.1 h
  obtain ⟨⟨id, version⟩, hversion, h⟩ := Outcome.bind_eq_ok.1 h
  obtain ⟨_, -, h⟩ := Outcome.bind_eq_ok.1 h
  obtain ⟨_, -, h⟩ := Outcome.bind_eq_ok.1 h
  obtain ⟨_, -, h⟩ := Outcome.bind_eq_ok.1 h
  obtain ⟨_, -, h⟩ := Outcome.bind_eq_ok.1 h
  cases h
  obtain ⟨value, hvalue, rfl⟩ := requiredAttr_eq_ok.1 htext
  rw [attr?] at hvalue
  rw [idIn?, hvalue, Option.bind_some, orFault_eq_ok.1 hversion]
  rfl

theorem nodup_map_append_singleton {before : List ResourceEntry} {entry : ResourceEntry} :
    ((before ++ [entry]).map (·.id)).Nodup ↔
      (before.map (·.id)).Nodup ∧ ¬ before.any (·.id = entry.id) = true := by
  rw [List.map_append, List.map_singleton, List.nodup_append]
  simp

/-- Reading resources succeeds exactly if each can be read and no two that are kept have one id. -/
theorem readResources_eq_ok {ns : List Document} {before entries : List ResourceEntry}
    (hbefore : (before.map (·.id)).Nodup) : readResources config before ns = .ok entries ↔
      ∃ read, List.Forall₂ (fun n entry => readResource n = .ok entry) ns read ∧
        entries = before ++ read.filter (!config.isSkipped ·.id) ∧ (entries.map (·.id)).Nodup := by
  -- Each resource is checked against those before it, which therefore vary along the induction.
  induction ns generalizing before with
  | nil =>
    simp only [readResources, List.forall₂_nil_left_iff, exists_eq_left, List.filter_nil,
      List.append_nil, Except.ok.injEq]
    constructor
    · rintro rfl
      exact ⟨rfl, hbefore⟩
    · exact fun h => h.1.symm
  | cons n ns ih =>
    rw [readResources, Outcome.bind_eq_ok]
    simp only [List.forall₂_cons_left_iff]
    constructor
    · rintro ⟨entry, hentry, h⟩
      by_cases hskip : config.isSkipped entry.id = true
      · rw [if_pos hskip] at h
        obtain ⟨read, hread, rfl, hnodup⟩ := (ih hbefore).1 h
        exact ⟨entry :: read, ⟨entry, read, hentry, hread, rfl⟩, by simp [hskip], hnodup⟩
      · rw [if_neg hskip] at h
        split at h
        · cases h
        · rename_i hnew
          have hnext := nodup_map_append_singleton.2 ⟨hbefore, hnew⟩
          obtain ⟨read, hread, rfl, hnodup⟩ := (ih hnext).1 h
          exact ⟨entry :: read, ⟨entry, read, hentry, hread, rfl⟩, by simp [hskip], hnodup⟩
    · rintro ⟨_, ⟨entry, read, hentry, hread, rfl⟩, hentries, hnodup⟩
      refine ⟨entry, hentry, ?_⟩
      by_cases hskip : config.isSkipped entry.id = true
      · rw [if_pos hskip]
        exact (ih hbefore).2 ⟨read, hread, by simpa [hskip] using hentries, hnodup⟩
      · rw [List.filter_cons_of_pos (by simpa using hskip), List.append_cons] at hentries
        have hnext : ((before ++ [entry]).map (·.id)).Nodup := by
          rw [hentries] at hnodup
          exact hnodup.sublist ((List.sublist_append_left (before ++ [entry]) _).map _)
        rw [if_neg hskip, if_neg (nodup_map_append_singleton.1 hnext).2]
        exact (ih hnext).2 ⟨read, hread, hentries, hnodup⟩

theorem toFront_perm {α : Type} (p : α → Bool) (xs : List α) : (toFront p xs).Perm xs := by
  unfold toFront
  cases h : xs.find? p with
  | none => exact List.Perm.refl xs
  | some x =>
    obtain ⟨hx, as, bs, rfl, has⟩ := List.find?_eq_some_iff_append.1 h
    have hskip : ∀ a ∈ as, ¬ p a = true := fun a ha => by simpa using has a ha
    rw [List.eraseP_append_right _ hskip, List.eraseP_cons_of_pos hx]
    exact List.perm_middle.symm

/-- The resources that are kept, in the order that they are taken in. -/
def inOrder (config : Config) (read : List ResourceEntry) : List ResourceEntry :=
  let kept := read.filter (!config.isSkipped ·.id)
  match config.firstResource with
  | some first => toFront (·.id = first) kept
  | none => kept

theorem inOrder_perm (config : Config) (read : List ResourceEntry) :
    (inOrder config read).Perm (read.filter (!config.isSkipped ·.id)) := by
  unfold inOrder
  cases config.firstResource with
  | none => exact List.Perm.refl _
  | some first => exact toFront_perm _ _

theorem resources_eq_ok {doc : Document} {entries : List ResourceEntry} :
    resources config doc = .ok entries ↔
      ∃ read, List.Forall₂ (fun n entry => readResource n = .ok entry)
        (doc.descendantsOfKind "resource") read ∧
        entries = inOrder config read ∧ (entries.map (·.id)).Nodup := by
  unfold resources
  rw [Outcome.bind_eq_ok]
  have hids : (([] : List ResourceEntry).map (·.id)).Nodup := List.nodup_nil
  constructor
  · rintro ⟨kept, hkept, h⟩
    obtain ⟨read, hread, rfl, hnodup⟩ := (readResources_eq_ok hids).1 hkept
    rw [← Outcome.pure_eq_ok.1 h]
    exact ⟨read, hread, rfl, ((inOrder_perm config read).map _).nodup_iff.2 hnodup⟩
  · rintro ⟨read, hread, rfl, hnodup⟩
    refine ⟨_, (readResources_eq_ok hids).2 ⟨read, hread, rfl, ?_⟩, rfl⟩
    exact ((inOrder_perm config read).map _).nodup_iff.1 hnodup

theorem nodup_resources {doc : Document} {entries : List ResourceEntry}
    (h : resources config doc = .ok entries) : (entries.map (·.id)).Nodup := by
  obtain ⟨_, -, -, hnodup⟩ := resources_eq_ok.1 h
  exact hnodup

end TypedClient.Extraction
