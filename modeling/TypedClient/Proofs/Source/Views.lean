import TypedClient.Proofs.Extraction.ClassTable
import TypedClient.Proofs.Source.Identifiers
import TypedClient.Source.Generate

namespace TypedClient.Source

variable {r : Registry}

/-- What a view shows of a field, besides its identifier. -/
structure ShownAs (r : Registry) (f : Field) (v : FieldView) : Prop where
  rawName : v.rawName = f.rawName
  type : fieldExpr r f.type = .ok v.type
  docs : v.docs = f.description

/-- The views stand for the fields one by one. Their identifiers are new, and different from each
other. -/
theorem fieldViews_eq_ok {used : List String} {fs : List Field} {vs : List FieldView}
    (h : fieldViews r used fs = .ok vs) :
    List.Forall₂ (ShownAs r) fs vs ∧ (∀ v ∈ vs, v.identifier ∉ used) ∧
      (vs.map (·.identifier)).Nodup := by
  induction fs generalizing used vs with
  | nil =>
    cases h
    exact ⟨List.Forall₂.nil, fun _ hv => absurd hv List.not_mem_nil, List.nodup_nil⟩
  | cons f fs ih =>
    obtain ⟨type, htype, h⟩ := Outcome.bind_eq_ok.1 h
    obtain ⟨rest, hrest, h⟩ := Outcome.bind_eq_ok.1 h
    rw [← Outcome.pure_eq_ok.1 h]
    obtain ⟨hshown, hnew, hnodup⟩ := ih hrest
    refine ⟨List.Forall₂.cons ⟨rfl, htype, rfl⟩ hshown, ?_, ?_⟩
    · intro v hv
      rcases List.mem_cons.1 hv with rfl | hv
      · exact free_not_mem used _
      · exact fun hused => hnew v hv (List.mem_cons_of_mem _ hused)
    · rw [List.map_cons, List.nodup_cons]
      refine ⟨fun hmem => ?_, hnodup⟩
      obtain ⟨v, hv, hsame⟩ := List.mem_map.1 hmem
      exact hnew v hv (hsame ▸ List.mem_cons_self)

theorem classView_eq_ok {c : ResponseClass} {v : ClassView} (h : classView r c = .ok v) :
    c.name ∉ reservedTypes ∧ v.name = c.name ∧ fieldViews r [] c.fields = .ok v.fields ∧
      c.methods.mapM (methodView c v.fields) = .ok v.methods := by
  unfold classView at h
  by_cases hreserved : reservedTypes.contains c.name
  · rw [if_pos hreserved] at h
    cases h
  · rw [if_neg hreserved] at h
    obtain ⟨fields, hfields, h⟩ := Outcome.bind_eq_ok.1 h
    obtain ⟨methods, hmethods, h⟩ := Outcome.bind_eq_ok.1 h
    rw [← Outcome.pure_eq_ok.1 h]
    exact ⟨by simpa using hreserved, rfl, hfields, hmethods⟩

/-- The identifier of the client's method for an operation of some name. -/
def clientIdentifier (name : String) : String :=
  avoid clientMembers "call" (memberIdentifier name)

theorem operationView_eq_ok {op : Operation} {v : OperationView} (h : operationView r op = .ok v) :
    v.builder = op.builderName ∧ v.identifier = clientIdentifier op.name ∧
      rawExpr r op = .ok v.rawType ∧ typeExpr r op.resultType = .ok v.resultType := by
  obtain ⟨path, -, h⟩ := Outcome.bind_eq_ok.1 h
  obtain ⟨query, -, h⟩ := Outcome.bind_eq_ok.1 h
  obtain ⟨raw, hraw, h⟩ := Outcome.bind_eq_ok.1 h
  obtain ⟨result, hresult, h⟩ := Outcome.bind_eq_ok.1 h
  rw [← Outcome.pure_eq_ok.1 h]
  exact ⟨rfl, rfl, hraw, hresult⟩

theorem checkBuilder_eq_ok {op : Operation} : checkBuilder r op = .ok () ↔
    (∀ c ∈ r.classes, c.name ≠ op.builderName) ∧ op.builderName ∉ reservedTypes := by
  have hclass : (r.classNamed? op.builderName).isSome = false ↔
      ∀ c ∈ r.classes, c.name ≠ op.builderName := by
    simp [Registry.classNamed?, List.findIdx?_isSome]
  have hreserved : reservedTypes.contains op.builderName = false ↔
      op.builderName ∉ reservedTypes := by
    simp
  rw [← hclass, ← hreserved, checkBuilder]
  cases (r.classNamed? op.builderName).isSome <;>
    cases reservedTypes.contains op.builderName <;> simp

/-- The views stand for the classes and the operations of the registry, one by one. -/
theorem ofRegistry_eq_ok {config : Config} {m : Model} (h : Model.ofRegistry config r = .ok m) :
    (∀ op ∈ r.orderedOperations, checkBuilder r op = .ok ()) ∧
      List.Forall₂ (fun c v => classView r c = .ok v) r.classes m.classes ∧
      List.Forall₂ (fun op v => operationView r op = .ok v) r.orderedOperations m.operations := by
  obtain ⟨_, hcheck, h⟩ := Outcome.bind_eq_ok.1 h
  obtain ⟨classes, hclasses, h⟩ := Outcome.bind_eq_ok.1 h
  obtain ⟨operations, hoperations, h⟩ := Outcome.bind_eq_ok.1 h
  rw [← Outcome.pure_eq_ok.1 h]
  refine ⟨Outcome.forM_eq_ok.1 hcheck, Outcome.mapM_eq_ok.1 hclasses, ?_⟩
  exact Outcome.mapM_eq_ok.1 hoperations

theorem ofRegistry_redeclared :
    ∃ r m, extract {} Extraction.redeclared.number = .ok r ∧ Model.ofRegistry {} r = .ok m ∧
      r.operations.map (·.mapKey) = [some .int64, none] := by
  have hrun : (extract {} Extraction.redeclared.number).toOption.map (fun r =>
      ((Model.ofRegistry {} r).isOk, r.operations.map (·.mapKey))) =
        some (true, [some .int64, none]) := by
    decide +kernel
  obtain ⟨r, hr, hmodel⟩ := Outcome.exists_ok_of_map_toOption hrun
  rw [Prod.mk.injEq] at hmodel
  obtain ⟨m, hm⟩ := Outcome.isOk_iff.1 hmodel.1
  exact ⟨r, m, hr, hm, hmodel.2⟩

end TypedClient.Source
