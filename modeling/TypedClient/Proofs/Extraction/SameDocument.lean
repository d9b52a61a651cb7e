import TypedClient.Proofs.Extraction.ClassTable
import TypedClient.Proofs.Extraction.SameDeclarations

namespace TypedClient.Extraction

open Node

variable {config : Config}

/-- Resource nodes that are the same up to the order of what they declare. -/
structure SameNode (n n' : RawNode) : Prop where
  under : Under (Under (Under Interchangeable)) n n'
  bodies : SameFirst (n.descendantsOfKind "response_body") (n'.descendantsOfKind "response_body")

theorem readRegions_of_place {place place' : Place} {cs : List Char} {regions : List Region}
    (h : readRegions place cs = .ok regions) : readRegions place' cs = .ok regions := by
  unfold readRegions at h ⊢
  dsimp only at h ⊢
  split at h
  · rename_i hall
    rwa [if_pos hall]
  · rename_i hlist
    have hstep : ∀ name name' : List Char, name = name' → ∀ region, readRegion place name = .ok region →
        readRegion place' name' = .ok (id region) := by
      rintro name _ rfl region hregion
      exact orFault_eq_ok.2 (orFault_eq_ok.1 hregion)
    have hread := Outcome.mapM_follows hstep (List.forall₂_refl _) h
    rw [List.map_id] at hread
    rwa [if_neg hlist]

theorem readResource_rename {n n' : Document} (h : Both SameNode n n') {entry : ResourceEntry}
    (hn : readResource n = .ok entry) :
    ∃ entry', readResource n' = .ok entry' ∧ SameResource entry entry' := by
  have hattrs : n'.attrs = n.attrs := by rw [← attrs_bare, h.bare.under.attrs, attrs_bare]
  obtain ⟨versionText, hversionText, hn⟩ := Outcome.bind_eq_ok.1 hn
  obtain ⟨⟨id, version⟩, hversion, hn⟩ := Outcome.bind_eq_ok.1 hn
  obtain ⟨numberText, hnumberText, hn⟩ := Outcome.bind_eq_ok.1 hn
  obtain ⟨number, hnumber, hn⟩ := Outcome.bind_eq_ok.1 hn
  obtain ⟨regionsText, hregionsText, hn⟩ := Outcome.bind_eq_ok.1 hn
  obtain ⟨regions, hregions, hn⟩ := Outcome.bind_eq_ok.1 hn
  cases hn
  refine ⟨⟨n', id, version, number, regions⟩, ?_, rfl, rfl, ⟨h.bare.under, h.left, h.right⟩,
    h.bare.bodies⟩
  unfold readResource
  refine Outcome.bind_eq_ok.2 ⟨versionText, requiredAttr_of_attrs_eq hattrs hversionText, ?_⟩
  refine Outcome.bind_eq_ok.2 ⟨(id, version), orFault_eq_ok.2 (orFault_eq_ok.1 hversion), ?_⟩
  refine Outcome.bind_eq_ok.2 ⟨numberText, requiredAttr_of_attrs_eq hattrs hnumberText, ?_⟩
  refine Outcome.bind_eq_ok.2 ⟨number, orFault_eq_ok.2 (orFault_eq_ok.1 hnumber), ?_⟩
  refine Outcome.bind_eq_ok.2 ⟨regionsText, requiredAttr_of_attrs_eq hattrs hregionsText, ?_⟩
  exact Outcome.bind_eq_ok.2 ⟨regions, readRegions_of_place hregions, rfl⟩

variable {doc doc' : Document} {entries entries' : List ResourceEntry}

theorem resources_rearranged (h : Rearranged (Both SameNode) (doc.descendantsOfKind "resource")
      (doc'.descendantsOfKind "resource")) (hdoc : resources config doc = .ok entries) :
    ∃ entries', resources config doc' = .ok entries' ∧ Rearranged SameResource entries entries' := by
  obtain ⟨read, hread, rfl, hnodup⟩ := resources_eq_ok.1 hdoc
  have hstep : ∀ n n' : Document, Both SameNode n n' → ∀ entry, readResource n = .ok entry →
      ∃ entry', readResource n' = .ok entry' ∧ SameResource entry entry' :=
    fun _ _ hn _ he => readResource_rename hn he
  obtain ⟨read', hread', hsame⟩ := h.read hstep hread
  have hkept : Rearranged SameResource (read.filter (!config.isSkipped ·.id))
      (read'.filter (!config.isSkipped ·.id)) := hsame.filter fun _ _ he => by rw [he.id]
  have horder : Rearranged SameResource (inOrder config read) (inOrder config read') :=
    (hkept.perm_left (inOrder_perm config read)).perm_right (inOrder_perm config read').symm
  have hids := horder.map_perm fun _ _ he => he.id
  exact ⟨_, resources_eq_ok.2 ⟨read', hread', rfl, hids.nodup_iff.1 hnodup⟩, horder⟩

theorem map_toFront {α β : Type} (f : α → β) (p : β → Bool) (xs : List α) :
    (toFront (fun x => p (f x)) xs).map f = toFront p (xs.map f) := by
  have hfind : (xs.map f).find? p = (xs.find? fun x => p (f x)).map f := List.find?_map
  unfold toFront
  rw [hfind]
  cases xs.find? fun x => p (f x) with
  | none => rfl
  | some x =>
    rw [Option.map_some, List.map_cons, List.eraseP_map]
    rfl

/-- The ids of resources in order depend on the ids that are read. -/
theorem map_id_inOrder {read read' : List ResourceEntry} (h : read'.map (·.id) = read.map (·.id)) :
    (inOrder config read').map (·.id) = (inOrder config read).map (·.id) := by
  have hkept : ∀ es : List ResourceEntry, (es.filter (!config.isSkipped ·.id)).map (·.id) =
      (es.map (·.id)).filter (!config.isSkipped ·) := fun es => by
    rw [List.filter_map]
    rfl
  unfold inOrder
  cases config.firstResource with
  | none => exact (hkept read').trans (h ▸ (hkept read).symm)
  | some first =>
    have hfront : ∀ kept : List ResourceEntry, (toFront (·.id = first) kept).map (·.id) =
        toFront (· = first) (kept.map (·.id)) :=
      fun kept => map_toFront ResourceEntry.id (fun id => decide (id = first)) kept
    dsimp only
    rw [hfront, hfront, hkept, hkept, h]

theorem map_id_resources (h : (doc'.descendantsOfKind "resource").map (·.attrs) =
      (doc.descendantsOfKind "resource").map (·.attrs))
    (hentries : resources config doc = .ok entries)
    (hentries' : resources config doc' = .ok entries') :
    entries'.map (·.id) = entries.map (·.id) := by
  have hids : ∀ (ns : List Document) (read : List ResourceEntry),
      List.Forall₂ (fun n entry => readResource n = .ok entry) ns read →
      (read.map (·.id)).map some = (ns.map (·.attrs)).map idIn? := by
    intro ns read hread
    rw [List.map_map, List.map_map]
    exact Rearranged.map_eq_of_forall₂ (fun _ _ he => (idIn?_of_readResource he).symm) hread
  obtain ⟨read, hread, rfl, -⟩ := resources_eq_ok.1 hentries
  obtain ⟨read', hread', rfl, -⟩ := resources_eq_ok.1 hentries'
  refine map_id_inOrder (List.map_injective_iff.2 (Option.some_injective String) ?_)
  rw [hids _ _ hread, hids _ _ hread', h]

/-- Whether a document can be extracted does not depend on the order of its resources. -/
theorem extract_rearranged (h : Rearranged (Both SameNode) (doc.descendantsOfKind "resource")
      (doc'.descendantsOfKind "resource")) {r : Registry} (hr : extract config doc = .ok r) :
    ∃ r', extract config doc' = .ok r' := by
  obtain ⟨entries, -, hentries, -⟩ := extract_eq_ok.1 hr
  obtain ⟨entries', hentries', he⟩ := resources_rearranged h hentries
  exact extract_succeeds_of_rearranged hentries hentries' he hr

/-- The registries are the same up to the positions of classes exactly if they list the resources in the
same order. -/
theorem renames_iff (h : Rearranged (Both SameNode) (doc.descendantsOfKind "resource")
      (doc'.descendantsOfKind "resource")) {r r' : Registry} (hr : extract config doc = .ok r)
    (hr' : extract config doc' = .ok r') :
    (∃ σ : Equiv.Perm ClassId, r.Renames σ r') ↔
      r'.resources.map (·.id) = r.resources.map (·.id) := by
  constructor
  · rintro ⟨σ, hσ⟩
    rw [hσ.resources]
  · intro hsame
    obtain ⟨entries, -, hentries, -⟩ := extract_eq_ok.1 hr
    obtain ⟨entries', hentries', he⟩ := resources_rearranged h hentries
    rw [ids_of_extract hentries hr, ids_of_extract hentries' hr'] at hsame
    have hforall := he.forall₂_of_map_eq (fun _ _ h => h.id) (nodup_resources hentries') hsame
    obtain ⟨_, hrun, hσ⟩ := extract_rename hentries hentries' hforall hr
    rw [hr'] at hrun
    cases hrun
    exact hσ

end TypedClient.Extraction
