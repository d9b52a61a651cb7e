import TypedClient.Proofs.Lockstep
import TypedClient.Proofs.Source.Arguments
import TypedClient.Proofs.Source.Documentation
import TypedClient.Proofs.Source.Readable

namespace TypedClient

def Parameter.undocumented (p : Parameter) : Parameter := { p with description := "", legalValues := [] }

def Parameter.documentation (p : Parameter) : List String := p.description :: p.legalValues

def Operation.undocumented (op : Operation) : Operation :=
  { op with
    description := ""
    path := { op.path with parameters := op.path.parameters.map Parameter.undocumented }
    query := op.query.map Parameter.undocumented
    implementationNotes := ""
    rateLimitNotes := ""
    errors := op.errors.map fun e => { e with description := "" } }

def Operation.documentation (op : Operation) : List String :=
  [op.description, op.implementationNotes, op.rateLimitNotes] ++ op.errors.map (·.description)
    ++ (op.path.parameters ++ op.query).flatMap Parameter.documentation

def Field.undocumented (f : Field) : Field := { f with description := "" }

def ResponseClass.undocumented (c : ResponseClass) : ResponseClass :=
  { c with description := "", fields := c.fields.map Field.undocumented }

def ResponseClass.documentation (c : ResponseClass) : List String :=
  c.description :: c.fields.map (·.description)

/-- The registry without anything that only documents it: descriptions, notes and legal values. -/
def Registry.undocumented (r : Registry) : Registry :=
  { r with
    operations := r.operations.map Operation.undocumented
    classes := r.classes.map ResponseClass.undocumented }

/-- The descriptions, notes and legal values of the registry. -/
def Registry.documentation (r : Registry) : List String :=
  r.operations.flatMap Operation.documentation ++ r.classes.flatMap ResponseClass.documentation

namespace Registry

variable (r : Registry)

theorem className_undocumented : r.undocumented.className = r.className := by
  funext c
  simp only [className, undocumented, List.getElem?_map, Option.elim_map]
  rfl

theorem orderedOperations_undocumented :
    r.undocumented.orderedOperations = r.orderedOperations.map Operation.undocumented := by
  have hoperations : r.undocumented.operationsOf =
      fun e => (r.operationsOf e).map Operation.undocumented := by
    funext e
    simp [operationsOf, undocumented, List.map_filterMap]
  rw [orderedOperations, hoperations]
  simp [orderedOperations, List.map_flatMap, undocumented]

theorem mem_operations_of_mem_ordered {op : Operation} (h : op ∈ r.orderedOperations) :
    op ∈ r.operations := by
  obtain ⟨resource, -, h⟩ := List.mem_flatMap.1 h
  obtain ⟨e, -, h⟩ := List.mem_flatMap.1 h
  obtain ⟨i, -, h⟩ := List.mem_filterMap.1 h
  exact List.mem_of_getElem? h

theorem classNamed?_undocumented (name : String) :
    r.undocumented.classNamed? name = r.classNamed? name := by
  rw [classNamed?, undocumented, List.findIdx?_map]
  rfl

theorem needsRegion_undocumented (op : Operation) :
    r.undocumented.needsRegion op.undocumented = r.needsRegion op := by
  have hpath : op.undocumented.path.hasRegion = op.path.hasRegion := by
    rw [PathTemplate.hasRegion, Operation.undocumented, List.any_map]
    rfl
  rw [needsRegion, needsRegion, hpath]
  rfl

end Registry

namespace Source

open Text

variable {r : Registry}

theorem keyExpr_undocumented (t : ValueType) : keyExpr r.undocumented t = keyExpr r t := by
  simp only [keyExpr, Registry.className_undocumented]

theorem typeExpr_undocumented (t : ValueType) : typeExpr r.undocumented t = typeExpr r t := by
  induction t with
  | scalar | dynamicMap | external => rfl
  | reference => rw [typeExpr, typeExpr, Registry.className_undocumented]
  | pointer t ih => rw [typeExpr, typeExpr, ih]
  | list t ih => rw [typeExpr, typeExpr, ih]
  | map key element _ ih => rw [typeExpr, typeExpr, keyExpr_undocumented, ih]

theorem fieldExpr_undocumented (t : ValueType) : fieldExpr r.undocumented t = fieldExpr r t := by
  simp only [fieldExpr, typeExpr_undocumented, Registry.className_undocumented]

theorem parameterExpr_undocumented (rawName : String) (t : ValueType) :
    parameterExpr r.undocumented rawName t = parameterExpr r rawName t := by
  simp only [parameterExpr, typeExpr_undocumented, Registry.className_undocumented]

def FieldView.undocumented (v : FieldView) : FieldView := { v with docs := "" }

def ParameterView.undocumented (v : ParameterView) : ParameterView := { v with docs := "" }

def ClassView.undocumented (v : ClassView) : ClassView :=
  { v with
    docs := ""
    fields := v.fields.map FieldView.undocumented
    methods := v.methods.map fun m => { m with docs := "" } }

def OperationView.undocumented (v : OperationView) : OperationView :=
  { v with
    docs := ""
    pathParameters := v.pathParameters.map ParameterView.undocumented
    query := v.query.map ParameterView.undocumented }

def Model.undocumented (m : Model) : Model :=
  { m with
    classes := m.classes.map ClassView.undocumented
    operations := m.operations.map OperationView.undocumented }

theorem fieldViews_undocumented (used : List String) (fs : List Field) :
    fieldViews r.undocumented used (fs.map Field.undocumented) =
      (fieldViews r used fs).map (List.map FieldView.undocumented) := by
  induction fs generalizing used with
  | nil => rfl
  | cons f fs ih =>
    have hname : f.undocumented.name = f.name := rfl
    have htype : f.undocumented.type = f.type := rfl
    rw [List.map_cons, fieldViews, fieldViews, hname, htype, fieldExpr_undocumented, ih]
    cases fieldExpr r f.type with
    | error e => rfl
    | ok type => cases fieldViews r (free used (memberIdentifier f.name) :: used) fs <;> rfl

theorem parameterViews_undocumented (used : List String) (ps : List Parameter) :
    parameterViews r.undocumented used (ps.map Parameter.undocumented) =
      (parameterViews r used ps).map (Prod.map (List.map ParameterView.undocumented) id) := by
  induction ps generalizing used with
  | nil => rfl
  | cons p ps ih =>
    have hregion : p.undocumented.isRegion = p.isRegion := rfl
    have hname : p.undocumented.name = p.name := rfl
    have htype : parameterExpr r.undocumented p.undocumented.rawName p.undocumented.type =
        parameterExpr r p.rawName p.type := parameterExpr_undocumented _ _
    rw [List.map_cons, parameterViews, parameterViews, hregion, hname, htype]
    cases p.isRegion with
    | true => exact ih used
    | false =>
      simp only [ih, if_neg Bool.false_ne_true]
      cases parameterExpr r p.rawName p.type with
      | error e => rfl
      | ok type =>
        cases parameterViews r
          (free used (avoid builderMembers "param" (memberIdentifier p.name)) :: used) ps <;> rfl

theorem methodView_undocumented (c : ResponseClass) (vs : List FieldView) :
    methodView c.undocumented (vs.map FieldView.undocumented) = methodView c vs := by
  have hidentifiers : identifierOf? (c.undocumented.fields.zip (vs.map FieldView.undocumented)) =
      identifierOf? (c.fields.zip vs) := by
    funext name
    rw [identifierOf?, identifierOf?, ResponseClass.undocumented, List.zip_map, ← List.map_reverse,
      List.find?_map, Option.map_map]
    rfl
  funext m
  rw [methodView, methodView, hidentifiers]
  rfl

theorem isComment_argumentSection_undocumented {vs : List ParameterView}
    (h : ∀ v ∈ vs, FreeOfReturns v.docs) :
    isComment ("# Arguments\n" ++ joinWith "\n" (vs.map argumentLine)) ↔
      isComment ("# Arguments\n" ++
        joinWith "\n" ((vs.map ParameterView.undocumented).map argumentLine)) := by
  rw [isComment_argumentSection, isComment_argumentSection, List.map_map, List.forall_mem_map,
    List.forall_mem_map]
  refine forall₂_congr fun v hv => not_congr ?_
  have hempty : FreeOfReturns "" := by decide
  exact (strayReturn_argumentLine (h v hv)).trans (strayReturn_argumentLine (p := v.undocumented) hempty).symm

theorem freeOfReturns_parameterDocs {p : Parameter} (h : ∀ s ∈ p.documentation, FreeOfReturns s) :
    FreeOfReturns (parameterDocs p) := by
  obtain ⟨hdescription, hvalues⟩ := List.forall_mem_cons.1 h
  unfold parameterDocs
  split
  · exact hdescription
  · rw [freeOfReturns_append, freeOfReturns_append]
    exact ⟨⟨hdescription, by decide⟩, freeOfReturns_joinWith (by decide) hvalues⟩

variable {op : Operation} {c : ResponseClass}

theorem isComment_operationDocs (h : ∀ s ∈ op.documentation, FreeOfReturns s) (baseUrl : Option String)
    {vs : List ParameterView} (hvs : ∀ v ∈ vs, FreeOfReturns v.docs) :
    isComment (operationDocs r op baseUrl vs) =
      isComment (operationDocs r.undocumented op.undocumented baseUrl
        (vs.map ParameterView.undocumented)) := by
  obtain ⟨htexts, -⟩ := List.forall_mem_append.1 h
  obtain ⟨htexts, herrors⟩ := List.forall_mem_append.1 htexts
  obtain ⟨hdescription, hnotes, hlimit⟩ : FreeOfReturns op.description ∧
      FreeOfReturns op.implementationNotes ∧ FreeOfReturns op.rateLimitNotes := by
    simpa using htexts
  have hempty : FreeOfReturns "" := by decide
  have herrors' : ∀ s ∈ op.undocumented.errors.map (·.description), FreeOfReturns s := by
    rw [Operation.undocumented, List.map_map]
    exact List.forall_mem_map.2 fun _ _ => hempty
  have harguments : isComment (sectionUnless vs.isEmpty
        ("# Arguments\n" ++ joinWith "\n" (vs.map argumentLine))) ↔
      isComment (sectionUnless (vs.map ParameterView.undocumented).isEmpty ("# Arguments\n" ++
        joinWith "\n" ((vs.map ParameterView.undocumented).map argumentLine))) := by
    rw [List.isEmpty_map]
    cases vs.isEmpty with
    | true => exact Iff.rfl
    | false => exact isComment_argumentSection_undocumented hvs
  rw [Bool.eq_iff_iff, operationDocs, operationDocs, isComment_joinDocs, isComment_joinDocs]
  simp only [List.forall_mem_cons]
  refine and_congr ?_ (and_congr Iff.rfl (and_congr harguments (and_congr ?_ (and_congr ?_
    (and_congr ?_ Iff.rfl)))))
  · exact iff_of_true (isComment_of_freeOfReturns hdescription) (isComment_of_freeOfReturns hempty)
  · exact iff_of_true (isComment_section (by decide) hnotes) (isComment_section (by decide) hempty)
  · exact iff_of_true (isComment_section (by decide) hlimit) (isComment_section (by decide) hempty)
  · exact iff_of_true (isComment_section (by decide) (freeOfReturns_errors herrors))
      (isComment_section (by decide) (freeOfReturns_errors herrors'))

theorem isComment_classDocs (h : FreeOfReturns c.description) :
    isComment (classDocs r c) = isComment (classDocs r.undocumented c.undocumented) := by
  have hempty : FreeOfReturns "" := by decide
  rw [Bool.eq_iff_iff, classDocs, classDocs, isComment_joinDocs, isComment_joinDocs]
  simp only [List.forall_mem_cons]
  refine and_congr ?_ Iff.rfl
  exact iff_of_true (isComment_of_freeOfReturns h) (isComment_of_freeOfReturns hempty)

theorem freeOfReturns_fieldViews {fs : List Field} {used : List String} {vs : List FieldView}
    (hfs : ∀ s ∈ fs.map (·.description), FreeOfReturns s) (h : fieldViews r used fs = .ok vs) :
    ∀ v ∈ vs, FreeOfReturns v.docs := by
  intro v hv
  obtain ⟨f, hf, hshown⟩ := Outcome.exists_mem_of_forall₂ (fieldViews_eq_ok h).1.flip hv
  rw [hshown.docs]
  exact hfs _ (List.mem_map_of_mem hf)

theorem freeOfReturns_parameterViews {ps : List Parameter} {used used' : List String}
    {vs : List ParameterView} (hps : ∀ p ∈ ps, ∀ s ∈ p.documentation, FreeOfReturns s)
    (h : parameterViews r used ps = .ok (vs, used')) : ∀ v ∈ vs, FreeOfReturns v.docs := by
  intro v hv
  obtain ⟨p, hp, hpassed⟩ := Outcome.exists_mem_of_forall₂ (parameterViews_eq_ok h).1.flip hv
  rw [hpassed.docs]
  exact freeOfReturns_parameterDocs (hps p (List.mem_of_mem_filter hp))

theorem all_isComment_erased {α : Type} (docs : α → String) (erase : α → α) {vs : List α}
    (h : ∀ v ∈ vs, FreeOfReturns (docs v)) (herase : ∀ v, docs (erase v) = "") :
    (vs.map docs).all isComment = ((vs.map erase).map docs).all isComment := by
  have hempty : isComment "" := by decide
  rw [List.all_map, List.all_map, List.all_map, Bool.eq_iff_iff, List.all_eq_true, List.all_eq_true]
  refine forall₂_congr fun v hv => iff_of_true (isComment_of_freeOfReturns (h v hv)) ?_
  simp only [Function.comp_apply, herase, hempty]

theorem classView_undocumented (h : ∀ s ∈ c.documentation, FreeOfReturns s) :
    Lockstep Eq (fun v w => v.undocumented = w.undocumented ∧
        v.documentation.all isComment = w.documentation.all isComment)
      (classView r c) (classView r.undocumented c.undocumented) := by
  obtain ⟨hdescription, hfields⟩ := List.forall_mem_cons.1 h
  have hname : c.undocumented.name = c.name := rfl
  unfold classView
  rw [hname]
  by_cases hreserved : reservedTypes.contains c.name
  · rw [if_pos hreserved, if_pos hreserved]
    exact .error rfl
  rw [if_neg hreserved, if_neg hreserved]
  refine (Lockstep.of_map (fieldViews_undocumented [] c.fields)).bind ?_
  rintro vs _ ⟨rfl, hvs⟩
  rw [methodView_undocumented]
  refine (Lockstep.refl (fun _ => rfl) (fun _ => rfl) _).bind ?_
  rintro ms _ rfl
  refine .ok ⟨?_, ?_⟩
  · simp [ClassView.undocumented, FieldView.undocumented, Function.comp_def]
  · have hdocs := all_isComment_erased (·.docs) FieldView.undocumented
      (freeOfReturns_fieldViews hfields hvs) fun _ => rfl
    simp only [ClassView.documentation, List.all_cons, List.all_append, hdocs,
      isComment_classDocs (r := r) hdescription]

theorem resultType_undocumented : op.undocumented.resultType = op.resultType := rfl

theorem rawExpr_undocumented : rawExpr r.undocumented op.undocumented = rawExpr r op := by
  have hresult := @resultType_undocumented op
  have hkey : op.undocumented.mapKey = op.mapKey := rfl
  simp only [rawExpr, hresult, hkey, typeExpr_undocumented]

theorem regionArguments_undocumented (ps : List Parameter) :
    regionArguments (ps.map Parameter.undocumented) = regionArguments ps := by
  rw [regionArguments, List.filter_map, List.map_map]
  rfl

theorem ParameterView.map_undocumented (vs : List ParameterView) :
    (vs.map ParameterView.undocumented).map ParameterView.undocumented = vs.map ParameterView.undocumented := by
  rw [List.map_map]
  rfl

theorem operationView_undocumented (h : ∀ s ∈ op.documentation, FreeOfReturns s) :
    Lockstep Eq (fun v w => v.undocumented = w.undocumented ∧
        v.documentation.all isComment = w.documentation.all isComment)
      (operationView r op) (operationView r.undocumented op.undocumented) := by
  obtain ⟨-, hparameters⟩ := List.forall_mem_append.1 h
  rw [List.forall_mem_flatMap, List.forall_mem_append] at hparameters
  obtain ⟨hpath, hquery⟩ := hparameters
  unfold operationView
  refine (Lockstep.of_map (parameterViews_undocumented _ _)).bind ?_
  rintro ⟨vs, used⟩ _ ⟨rfl, hvs⟩
  refine (Lockstep.of_map (parameterViews_undocumented used op.query)).bind ?_
  rintro ⟨qs, used'⟩ _ ⟨rfl, hqs⟩
  rw [rawExpr_undocumented]
  refine (Lockstep.refl (fun _ => rfl) (fun _ => rfl) _).bind ?_
  rintro raw _ rfl
  rw [typeExpr_undocumented]
  refine (Lockstep.refl (fun _ => rfl) (fun _ => rfl) _).bind ?_
  rintro result _ rfl
  have hregion : op.undocumented.query.any (·.isRegion) = op.query.any (·.isRegion) := by
    rw [Operation.undocumented, List.any_map]
    rfl
  refine .ok ⟨?_, ?_⟩
  · have hpathRegions : regionArguments op.undocumented.path.parameters = regionArguments op.path.parameters :=
      regionArguments_undocumented _
    have hqueryRegions : regionArguments op.undocumented.query = regionArguments op.query :=
      regionArguments_undocumented _
    simp only [OperationView.undocumented, ParameterView.map_undocumented, List.isEmpty_map, hpathRegions,
      hqueryRegions, Registry.needsRegion_undocumented, hregion]
    rfl
  · have hdocs := isComment_operationDocs (r := r) h ((r.resourceOf? op).bind (·.baseUrl))
      (freeOfReturns_parameterViews hpath hvs)
    have hqueryDocs := all_isComment_erased (·.docs) ParameterView.undocumented
      (freeOfReturns_parameterViews hquery hqs) fun _ => rfl
    simp only [OperationView.documentation, List.all_cons, hqueryDocs]
    exact congrArg (· && _) hdocs

theorem checkBuilder_undocumented (op : Operation) :
    checkBuilder r.undocumented op.undocumented = checkBuilder r op := by
  have hbuilder : op.undocumented.builderName = op.builderName := rfl
  have hname : op.undocumented.name = op.name := rfl
  rw [checkBuilder, checkBuilder, hbuilder, hname, Registry.classNamed?_undocumented]

theorem checkBuilders_undocumented : checkBuilders r.undocumented = checkBuilders r := by
  have hcheck : checkBuilder r.undocumented ∘ Operation.undocumented = checkBuilder r :=
    funext checkBuilder_undocumented
  rw [checkBuilders, checkBuilders, Registry.orderedOperations_undocumented, List.forM_eq_forM,
    List.forM_map]
  exact congrArg (forM r.orderedOperations) hcheck

theorem forall₂_documentation {α β γ : Type} {f : α → β} {docs : α → List γ} {p : γ → Bool} {xs ys : List α}
    (h : List.Forall₂ (fun x y => f x = f y ∧ (docs x).all p = (docs y).all p) xs ys) :
    xs.map f = ys.map f ∧ (xs.flatMap docs).all p = (ys.flatMap docs).all p := by
  induction h with
  | nil => exact ⟨rfl, rfl⟩
  | cons hxy _ ih =>
    rw [List.map_cons, List.map_cons, List.flatMap_cons, List.flatMap_cons, List.all_append, List.all_append,
      hxy.1, hxy.2, ih.1, ih.2]
    exact ⟨rfl, rfl⟩

/-- Without its documentation, a registry is refused for the same reason, or else its source differs in the
documentation only. Where that has no carriage returns, comments that cannot be read are due to names. -/
theorem ofRegistry_undocumented (config : Config) (h : ∀ s ∈ r.documentation, FreeOfReturns s) :
    Lockstep Eq (fun m w => m.undocumented = w.undocumented ∧
        m.documentation.all isComment = w.documentation.all isComment)
      (Model.ofRegistry config r) (Model.ofRegistry config r.undocumented) := by
  obtain ⟨hoperations, hclasses⟩ := List.forall_mem_append.1 h
  rw [List.forall_mem_flatMap] at hoperations hclasses
  unfold Model.ofRegistry
  rw [checkBuilders_undocumented, Registry.orderedOperations_undocumented]
  refine (Lockstep.refl (fun _ => rfl) (fun _ => rfl) _).bind ?_
  rintro _ _ rfl
  have hclassViews := Lockstep.mapM_map fun c hc => classView_undocumented (r := r) (hclasses c hc)
  have hoperationViews := Lockstep.mapM_map fun op hop =>
    operationView_undocumented (r := r) (hoperations op (r.mem_operations_of_mem_ordered hop))
  refine hclassViews.bind fun vs vs' hvs => hoperationViews.bind fun ops ops' hops => ?_
  obtain ⟨hclassNames, hclassDocs⟩ := forall₂_documentation hvs
  obtain ⟨hoperationNames, hoperationDocs⟩ := forall₂_documentation hops
  refine .ok ⟨?_, ?_⟩
  · simp only [Model.undocumented, hclassNames, hoperationNames]
    rfl
  · simp only [Model.documentation, List.all_append, hclassDocs, hoperationDocs]

end Source

end TypedClient
