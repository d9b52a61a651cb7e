import TypedClient.Proofs.Extraction.Names
import TypedClient.Proofs.Extraction.Origins
import TypedClient.Proofs.Source.TypeExpr
import TypedClient.Proofs.Source.Views

namespace TypedClient.Source

open Outcome (Refuses)

variable {r : Registry}

theorem fieldViews_refuses (used : List String) (fs : List Field) :
    Refuses (fieldViews r used fs) fun e => ∃ f ∈ fs, UnhashableIn r f.type e := by
  -- The identifiers in use grow along the way; what is refused does not depend on them.
  induction fs generalizing used with
  | nil => exact fun e ⟨f, hf, _⟩ => List.not_mem_nil hf
  | cons f fs ih =>
    refine ((fieldExpr_refuses f.type).bind fun t _ => (ih _).bind_pure _).congr fun e => ?_
    simp only [List.mem_cons, exists_eq_or_imp]

theorem isSome_identifierOf? {fs : List Field} {vs : List FieldView} (hlength : vs.length = fs.length)
    {f : Field} (hf : f ∈ fs) : (identifierOf? (fs.zip vs) f.name).isSome := by
  have hfst : (fs.zip vs).map Prod.fst = fs := List.map_fst_zip (Nat.le_of_eq hlength.symm)
  rw [← hfst] at hf
  obtain ⟨p, hp, rfl⟩ := List.mem_map.1 hf
  rw [identifierOf?, Option.isSome_map, List.find?_isSome]
  exact ⟨p, List.mem_reverse.2 hp, by simp⟩

/-- A method that a field gives its class refers to that field, so that it has a view. -/
theorem methodView_isOk {c : ResponseClass} {vs : List FieldView} (hlength : vs.length = c.fields.length)
    (hmethods : c.methods = c.fields.filterMap Extraction.timeMethod?) {m : TimeMethod} (hm : m ∈ c.methods) :
    ∃ v, methodView c vs m = .ok v := by
  rw [hmethods] at hm
  obtain ⟨f, hf, hfm⟩ := List.mem_filterMap.1 hm
  have hfield : m.field = f.name := by
    unfold Extraction.timeMethod? at hfm
    split at hfm
    · cases hfm
      rfl
    · cases hfm
  obtain ⟨identifier, hidentifier⟩ := Option.isSome_iff_exists.1 (isSome_identifierOf? hlength hf)
  rw [methodView, hfield, hidentifier]
  exact ⟨_, rfl⟩

theorem methodViews_refuses {c : ResponseClass} {vs : List FieldView}
    (hlength : vs.length = c.fields.length)
    (hmethods : c.methods = c.fields.filterMap Extraction.timeMethod?) :
    Refuses (c.methods.mapM (methodView c vs)) fun _ => False := by
  have hview : ∀ m ∈ c.methods, Refuses (methodView c vs m) fun _ => False := by
    intro m hm
    obtain ⟨v, hv⟩ := methodView_isOk hlength hmethods hm
    rw [hv]
    exact fun _ => id
  exact (Refuses.mapM hview).congr fun e => by simp

theorem classView_refuses {c : ResponseClass}
    (hmethods : c.methods = c.fields.filterMap Extraction.timeMethod?) :
    Refuses (classView r c) fun e =>
      (c.name ∈ reservedTypes ∧ e = .generation (.reservedClass c.name c.rawName)) ∨
        ∃ f ∈ c.fields, UnhashableIn r f.type e := by
  unfold classView
  by_cases hreserved : reservedTypes.contains c.name
  · rw [if_pos hreserved]
    exact .inl ⟨by simpa using hreserved, rfl⟩
  · rw [if_neg hreserved]
    have hname : c.name ∉ reservedTypes := by simpa using hreserved
    -- Once the fields have views, nothing is left to refuse.
    refine ((fieldViews_refuses [] c.fields).bind fun vs hvs =>
      (methodViews_refuses (fieldViews_eq_ok hvs).1.length_eq.symm hmethods).bind_pure _).congr fun e => ?_
    simp [hname]

/-- A parameter that cannot be sent and that no region fills in. -/
def Unsendable (p : Parameter) : Prop := p.isRegion = false ∧ ¬ isSendable p.type

theorem parameterViews_refuses (used : List String) (ps : List Parameter) :
    Refuses (parameterViews r used ps) fun e => ∃ p ∈ ps, Unsendable p ∧
      e = .generation (.unsendableParameter p.rawName (p.type.describe r.className)) := by
  induction ps generalizing used with
  | nil => exact fun e ⟨p, hp, _⟩ => List.not_mem_nil hp
  | cons p ps ih =>
    unfold parameterViews
    by_cases hregion : p.isRegion
    · rw [if_pos hregion]
      refine (ih used).congr fun e => ?_
      simp [Unsendable, hregion]
    · rw [if_neg hregion]
      have hp : Unsendable p ↔ ¬ isSendable p.type := by simp [Unsendable, hregion]
      refine ((parameterExpr_refuses p.rawName p.type).bind fun t _ => (ih _).bind_pure _).congr
        fun e => ?_
      simp only [List.mem_cons, exists_eq_or_imp, hp]

theorem rawExpr_refuses (op : Operation) : Refuses (rawExpr r op) fun e =>
    op.mapKey.isSome ∧ ∃ key element, op.resultType = .map key element ∧ UnhashableIn r element e := by
  unfold rawExpr
  split
  · rename_i key element hkey hresult
    refine ((typeExpr_refuses element).bind_pure _).congr fun e => ?_
    simp [hkey, hresult]
  · rename_i hnone
    rintro e ⟨hkey, key, element, hresult, -⟩
    obtain ⟨k, hk⟩ := Option.isSome_iff_exists.1 hkey
    exact hnone k key element hk hresult

theorem operationView_refuses (op : Operation) : Refuses (operationView r op) fun e =>
    (∃ p ∈ op.path.parameters ++ op.query, Unsendable p ∧
      e = .generation (.unsendableParameter p.rawName (p.type.describe r.className))) ∨
    UnhashableIn r op.resultType e := by
  refine ((parameterViews_refuses _ op.path.parameters).bind fun path _ =>
    (parameterViews_refuses _ op.query).bind fun query _ => (rawExpr_refuses op).bind fun raw _ =>
      (typeExpr_refuses op.resultType).bind_pure _).congr fun e => ?_
  -- What is decoded is part of the result, so that its keys are nothing more to refuse.
  have hraw : (op.mapKey.isSome ∧ ∃ key element, op.resultType = .map key element ∧
      UnhashableIn r element e) → UnhashableIn r op.resultType e := by
    rintro ⟨-, key, element, hresult, k, hk, hkey⟩
    rw [hresult]
    exact ⟨k, List.mem_cons_of_mem _ (List.mem_append_right _ hk), hkey⟩
  rw [or_iff_right_of_imp hraw]
  simp only [List.mem_append, or_and_right, exists_or, or_assoc]

theorem checkBuilder_refuses (op : Operation) : Refuses (checkBuilder r op) fun e =>
    ((∃ c ∈ r.classes, c.name = op.builderName) ∨ op.builderName ∈ reservedTypes) ∧
      e = .generation (.builderClash op.builderName op.name) := by
  refine Refuses.ite_error.congr fun e => ?_
  simp [Registry.classNamed?, List.findIdx?_isSome]

/-- What a registry has to be like for a source to be made from it. -/
structure Renderable (r : Registry) : Prop where
  builders : ∀ op ∈ r.operations,
    (∀ c ∈ r.classes, c.name ≠ op.builderName) ∧ op.builderName ∉ reservedTypes
  classNames : ∀ c ∈ r.classes, c.name ∉ reservedTypes
  fieldKeys : ∀ c ∈ r.classes, ∀ f ∈ c.fields, ∀ key ∈ f.type.mapKeys, key ∈ keyTypes
  resultKeys : ∀ op ∈ r.operations, ∀ key ∈ op.resultType.mapKeys, key ∈ keyTypes
  parameters : ∀ op ∈ r.operations, ∀ p ∈ op.path.parameters ++ op.query, p.isRegion = false →
    ∃ s, p.type = .scalar s ∨ p.type = .list (.scalar s)

/-- The faults that are reported, each with what it is reported for. -/
inductive Objection (r : Registry) : GenerationFault → Prop
  | builder {op : Operation} (hop : op ∈ r.operations)
    (h : (∃ c ∈ r.classes, c.name = op.builderName) ∨ op.builderName ∈ reservedTypes) :
    Objection r (.builderClash op.builderName op.name)
  | className {c : ResponseClass} (hc : c ∈ r.classes) (h : c.name ∈ reservedTypes) :
    Objection r (.reservedClass c.name c.rawName)
  | fieldKey {c : ResponseClass} {f : Field} {key : ValueType} (hc : c ∈ r.classes)
    (hf : f ∈ c.fields) (hkey : key ∈ f.type.mapKeys) (h : key ∉ keyTypes) :
    Objection r (.unhashableKey (key.describe r.className))
  | resultKey {op : Operation} {key : ValueType} (hop : op ∈ r.operations)
    (hkey : key ∈ op.resultType.mapKeys) (h : key ∉ keyTypes) :
    Objection r (.unhashableKey (key.describe r.className))
  | parameter {op : Operation} {p : Parameter} (hop : op ∈ r.operations)
    (hp : p ∈ op.path.parameters ++ op.query) (h : Unsendable p) :
    Objection r (.unsendableParameter p.rawName (p.type.describe r.className))

theorem renderable_iff : Renderable r ↔ ∀ fault, ¬ Objection r fault := by
  constructor
  · intro h fault hfault
    cases hfault with
    | builder hop hclash =>
      obtain ⟨hclass, hreserved⟩ := h.builders _ hop
      exact hclash.elim (fun ⟨c, hc, hname⟩ => hclass c hc hname) hreserved
    | className hc hname => exact h.classNames _ hc hname
    | fieldKey hc hf hkey hnot => exact hnot (h.fieldKeys _ hc _ hf _ hkey)
    | resultKey hop hkey hnot => exact hnot (h.resultKeys _ hop _ hkey)
    | parameter hop hp hnot => exact hnot.2 (isSendable_iff.2 (h.parameters _ hop _ hp hnot.1))
  · intro h
    refine ⟨fun op hop => ?_, fun c hc hname => h _ (.className hc hname), fun c hc f hf key hkey => ?_,
      fun op hop key hkey => ?_, fun op hop p hp hregion => ?_⟩
    · exact ⟨fun c hc hname => h _ (.builder hop (.inl ⟨c, hc, hname⟩)),
        fun hreserved => h _ (.builder hop (.inr hreserved))⟩
    · exact not_not.1 fun hnot => h _ (.fieldKey hc hf hkey hnot)
    · exact not_not.1 fun hnot => h _ (.resultKey hop hkey hnot)
    · exact isSendable_iff.1 (not_not.1 fun hnot => h _ (.parameter hop hp ⟨hregion, hnot⟩))

variable {config : Config} {doc : Document}

theorem ofRegistry_refuses (h : extract config doc = .ok r) :
    Refuses (Model.ofRegistry config r) fun e => ∃ fault, e = .generation fault ∧ Objection r fault := by
  have hops : ∀ op, op ∈ r.orderedOperations ↔ op ∈ r.operations :=
    fun op => (Extraction.orderedOperations_perm h).mem_iff
  have hmethods : ∀ c ∈ r.classes, c.methods = c.fields.filterMap Extraction.timeMethod? := by
    intro c hc
    obtain ⟨-, -, hmethods⟩ := Extraction.exists_readFields h hc
    exact hmethods
  have hclasses := Refuses.mapM fun c hc => classView_refuses (r := r) (hmethods c hc)
  have hoperations := Refuses.mapM fun op (_ : op ∈ r.orderedOperations) =>
    operationView_refuses (r := r) op
  refine ((Refuses.forM fun op _ => checkBuilder_refuses op).bind fun _ _ => hclasses.bind fun _ _ =>
    hoperations.bind_pure _).congr fun e => ?_
  simp only [hops]
  constructor
  · rintro (⟨op, hop, hclash, rfl⟩ | ⟨c, hc, ⟨hname, rfl⟩ | ⟨f, hf, key, hkey, hnot, rfl⟩⟩ |
      ⟨op, hop, ⟨p, hp, hsend, rfl⟩ | ⟨key, hkey, hnot, rfl⟩⟩)
    · exact ⟨_, rfl, .builder hop hclash⟩
    · exact ⟨_, rfl, .className hc hname⟩
    · exact ⟨_, rfl, .fieldKey hc hf hkey hnot⟩
    · exact ⟨_, rfl, .parameter hop hp hsend⟩
    · exact ⟨_, rfl, .resultKey hop hkey hnot⟩
  · rintro ⟨fault, rfl, hfault⟩
    cases hfault with
    | builder hop hclash => exact .inl ⟨_, hop, hclash, rfl⟩
    | className hc hname => exact .inr (.inl ⟨_, hc, .inl ⟨hname, rfl⟩⟩)
    | fieldKey hc hf hkey hnot => exact .inr (.inl ⟨_, hc, .inr ⟨_, hf, _, hkey, hnot, rfl⟩⟩)
    | resultKey hop hkey hnot => exact .inr (.inr ⟨_, hop, .inr ⟨_, hkey, hnot, rfl⟩⟩)
    | parameter hop hp hsend => exact .inr (.inr ⟨_, hop, .inl ⟨_, hp, hsend, rfl⟩⟩)

/-- A source is made from an extracted registry exactly if no name is taken, all keys of maps are
rendered and all parameters can be sent. Otherwise one of these is reported, and never a method without
its field. -/
theorem ofRegistry_isOk_iff (h : extract config doc = .ok r) :
    ((∃ m, Model.ofRegistry config r = .ok m) ↔ Renderable r) ∧
    (∀ e, Model.ofRegistry config r = .error e →
      ∃ fault, e = .generation fault ∧ Objection r fault) ∧
    ∀ method className field, Model.ofRegistry config r ≠
      .error (.generation (.unknownField method className field)) := by
  have hrefuses := ofRegistry_refuses h
  refine ⟨?_, fun e he => hrefuses.of_error he, fun method className field he => ?_⟩
  · rw [hrefuses.isOk_iff, renderable_iff]
    constructor
    · exact fun hnone fault hfault => hnone _ ⟨fault, rfl, hfault⟩
    · rintro hnone e ⟨fault, -, hfault⟩
      exact hnone fault hfault
  · obtain ⟨fault, heq, hfault⟩ := hrefuses.of_error he
    cases heq
    cases hfault

theorem ofRegistry_isOk_redeclared :
    ∃ r, extract {} Extraction.redeclared.number = .ok r ∧ Renderable r := by
  obtain ⟨r, m, hr, hm, -⟩ := ofRegistry_redeclared
  exact ⟨r, hr, (ofRegistry_isOk_iff hr).1.1 ⟨m, hm⟩⟩

end TypedClient.Source
