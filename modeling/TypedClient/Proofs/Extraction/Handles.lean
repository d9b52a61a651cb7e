import TypedClient.Proofs.Extraction.ClassTable
import TypedClient.Proofs.Extraction.FieldTypes
import TypedClient.Proofs.Registry.StrictReads

namespace TypedClient.Extraction

variable {config : Config} {types : String → Option ClassId}

/-- Whether a type refers to known classes only. -/
def Known (types : String → Option ClassId) (t : ValueType) : Prop :=
  ∀ c ∈ t.classes, ∃ name, types name = some c

theorem known_of_classes_eq_nil {t : ValueType} (h : t.classes = []) : Known types t :=
  fun _ hc => absurd (h ▸ hc) List.not_mem_nil

theorem known_of_denotes {resource : String} {text : List Char} {t : ValueType}
    (h : TypeText.Denotes config types resource text t) : Known types t := by
  induction h with
  | scalar _ => exact known_of_classes_eq_nil rfl
  | dynamicMap _ => exact known_of_classes_eq_nil rfl
  | list _ _ _ ih => exact ih
  | map _ _ _ ihk ihe => exact fun c hc => (List.mem_append.1 hc).elim (ihk c) (ihe c)
  | name _ _ _ _ hc =>
    intro c hmem
    rw [List.mem_singleton.1 hmem]
    exact ⟨_, hc⟩

theorem ofFieldTypes_known : OfFieldTypes config types (Known types) where
  denoted := known_of_denotes
  effect := known_of_classes_eq_nil rfl
  range := known_of_classes_eq_nil rfl
  narrow := known_of_classes_eq_nil rfl

theorem Known.parameterType {name : String} {t : ValueType} (h : Known types t) :
    Known types (Corrections.parameterType name t) := by
  unfold Corrections.parameterType
  split
  · split
    · exact known_of_classes_eq_nil rfl
    · exact known_of_classes_eq_nil rfl
    · exact known_of_classes_eq_nil rfl
    · exact h
  · exact h

variable {ctx : Context}

theorem known_readParameter {row : Document} {p : Parameter}
    (h : readParameter ctx row = .ok p) : Known ctx.types p.type := by
  unfold readParameter at h
  split at h
  · obtain ⟨t, ht, h⟩ := Outcome.bind_eq_ok.1 h
    cases h
    exact (ofFieldTypes_known.resolve ht).parameterType
  · cases h

theorem known_readParameters {table : Document} {ps : List Parameter}
    (h : readParameters ctx table = .ok ps) : ∀ p ∈ ps, Known ctx.types p.type := by
  intro p hp
  obtain ⟨row, -, hrow⟩ := Outcome.exists_of_mem_mapM h hp
  exact known_readParameter hrow

theorem known_readReturnType {block : Document} {t : ValueType}
    (h : readReturnType ctx block = .ok t) : Known ctx.types t := by
  obtain ⟨body, -, h⟩ := Outcome.bind_eq_ok.1 h
  dsimp only at h
  split at h
  · cases h
  · exact ofFieldTypes_known.resolve h

/-- Whether the types that the blocks of an operation have told so far are known. -/
structure Details.Known (types : String → Option ClassId) (d : Details) : Prop where
  path : ∀ p ∈ d.pathParameters, Extraction.Known types p.type
  query : ∀ p ∈ d.query, Extraction.Known types p.type
  result : ∀ t, d.returnType = some t → Extraction.Known types t

theorem Details.Known.empty : Details.Known types {} where
  path := fun _ hp => absurd hp List.not_mem_nil
  query := fun _ hp => absurd hp List.not_mem_nil
  result := fun _ ht => by cases ht

theorem Details.Known.readPathBlock {d d' : Details} {block : Document} (hd : d.Known ctx.types)
    (h : readPathBlock ctx d block = .ok d') : d'.Known ctx.types := by
  obtain ⟨first, -, h⟩ := Outcome.bind_eq_ok.1 h
  obtain ⟨path, hpath, h⟩ := Outcome.bind_eq_ok.1 h
  have hpath := known_readParameters hpath
  split at h
  · cases h
    exact ⟨hpath, hd.query, hd.result⟩
  · dsimp only at h
    split at h
    · obtain ⟨second, -, h⟩ := Outcome.bind_eq_ok.1 h
      obtain ⟨query, hquery, h⟩ := Outcome.bind_eq_ok.1 h
      cases h
      exact ⟨hpath, known_readParameters hquery, hd.result⟩
    · split at h
      · cases h
        exact ⟨hpath, hd.query, hd.result⟩
      · cases h

theorem Details.Known.readBlock {d d' : Details} {block : Document} (hd : d.Known ctx.types)
    (h : readBlock ctx d block = .ok d') : d'.Known ctx.types := by
  unfold Extraction.readBlock at h
  split at h
  · cases h
    exact hd
  · obtain ⟨title, -, h⟩ := Outcome.bind_eq_ok.1 h
    split at h
    · cases h
      exact ⟨hd.path, hd.query, hd.result⟩
    · cases h
      exact ⟨hd.path, hd.query, hd.result⟩
    · obtain ⟨t, ht, h⟩ := Outcome.bind_eq_ok.1 h
      cases h
      refine ⟨hd.path, hd.query, fun t' ht' => ?_⟩
      cases ht'
      exact known_readReturnType ht
    · obtain ⟨errors, -, h⟩ := Outcome.bind_eq_ok.1 h
      cases h
      exact ⟨hd.path, hd.query, hd.result⟩
    · exact hd.readPathBlock h
    · obtain ⟨table, -, h⟩ := Outcome.bind_eq_ok.1 h
      obtain ⟨query, hquery, h⟩ := Outcome.bind_eq_ok.1 h
      cases h
      exact ⟨hd.path, known_readParameters hquery, hd.result⟩
    · cases h
      exact hd
    · cases h

theorem OperationAt.known {resource : String} {n : Document} {op : Operation}
    (h : OperationAt config types resource n op) : ∀ t ∈ op.types, Known types t := by
  have hknown : Details.Known types _ :=
    Outcome.foldlM_keeps (Details.Known types) (fun _ _ _ _ hd hb => hd.readBlock hb)
      Details.Known.empty h.blocks
  have hresult : Known types op.returnType := hknown.result op.returnType rfl
  intro t ht
  rcases List.mem_append.1 ht with ht | ht
  · obtain ⟨p, hp, rfl⟩ := List.mem_map.1 ht
    rcases List.mem_append.1 hp with hp | hp
    · exact hknown.path p hp
    · exact hknown.query p hp
  · rcases List.mem_cons.1 ht with rfl | ht
    · exact hresult
    · rw [List.mem_singleton.1 ht]
      exact fun c hc => hresult c (Operation.classes_resultType _ c hc)

theorem lt_of_typesOf {entries : List ResourceEntry} {name : String} {c : ClassId}
    (h : typesOf config entries name = some c) : c < (firstDeclarations entries).length := by
  have hlt := (List.findIdx?_eq_some_iff_findIdx_eq.1 h).1
  simpa [firstPass, registered] using hlt

theorem consistent_secondPass {entries : List ResourceEntry} {fields : List (List Field)}
    (h : FieldsOf config entries fields) : (secondPass config entries fields).Consistent := by
  have hcount := length_classes_secondPass h
  have hget : ∀ (c : ClassId) cls, (secondPass config entries fields).classes[c]? = some cls →
      ∃ d ∈ firstDeclarations entries, cls.resource = d.owner ∧
        ∀ f ∈ cls.fields, f.owner = c ∧ Known (typesOf config entries) f.type := by
    intro c cls hcls
    have hlt : c < (firstDeclarations entries).length := hcount ▸ (List.getElem?_eq_some_iff.1 hcls).1
    obtain ⟨fs, hfs, hclass⟩ := getElem?_secondPass h (List.getElem?_eq_getElem hlt)
    rw [hcls] at hclass
    cases hclass
    exact ⟨_, List.getElem_mem hlt, rfl, ofFieldTypes_known.readFields hfs⟩
  refine ⟨?_, ?_, ?_, ?_, ?_, ?_, ?_⟩
  · intro t ht c hc
    rw [Registry.types, show (secondPass config entries fields).operations = [] from rfl,
      List.flatMap_nil, List.append_nil] at ht
    obtain ⟨cls, hcls, ht⟩ := List.mem_flatMap.1 ht
    obtain ⟨f, hf, rfl⟩ := List.mem_map.1 ht
    obtain ⟨i, hi⟩ := List.mem_iff_getElem?.1 hcls
    obtain ⟨-, -, -, hfields⟩ := hget i cls hi
    obtain ⟨name, hname⟩ := (hfields f hf).2 c hc
    rw [hcount]
    exact lt_of_typesOf hname
  · intro c cls hcls f hf
    obtain ⟨-, -, -, hfields⟩ := hget c cls hcls
    exact (hfields f hf).1
  · intro cls hcls
    obtain ⟨i, hi⟩ := List.mem_iff_getElem?.1 hcls
    obtain ⟨d, hd, howner, -⟩ := hget i cls hi
    have hlt : d.owner < entries.length := by
      obtain ⟨entry, hentry, -⟩ :=
        Option.map_eq_some_iff.1 (owned_declarations (mem_of_mem_firstsBy hd))
      exact (List.getElem?_eq_some_iff.1 hentry).1
    rw [howner]
    simpa [secondPass, firstPass, registered] using hlt
  · exact fun e he => absurd he List.not_mem_nil
  · exact fun op hop => absurd hop List.not_mem_nil
  · intro i resource hi e
    rw [secondPass, firstPass, registered, List.getElem?_map] at hi
    obtain ⟨entry, -, rfl⟩ := Option.map_eq_some_iff.1 hi
    rfl
  · intro e endpoint he
    cases he

theorem consistent_addEndpoints {entries : List ResourceEntry} {fields : List (List Field)}
    {r : Registry} (h : FieldsOf config entries fields)
    (hr : entries.zipIdx.foldlM (addEndpoints config (typesOf config entries))
      (secondPass config entries fields) = .ok r) : r.Consistent := by
  let P (s : Registry) : Prop := s.Consistent ∧ s.resources.length = entries.length ∧
    s.classes.length = (firstDeclarations entries).length
  have hstart : P (secondPass config entries fields) :=
    ⟨consistent_secondPass h, by simp [secondPass, firstPass, registered], length_classes_secondPass h⟩
  refine (addEndpoints_keeps (P := P) ?_ ?_ hstart hr).1
  · rintro ⟨entry, i⟩ hp s ⟨hs, hlength, hclasses⟩
    have hi : i < s.resources.length := by
      rw [hlength]
      exact (List.getElem?_eq_some_iff.1 (List.mk_mem_zipIdx_iff_getElem?.1 hp)).1
    exact ⟨hs.addEndpoint hi, by simpa [Registry.addEndpoint] using hlength, hclasses⟩
  · rintro p - s e n op ⟨hs, hlength, hclasses⟩ he hop -
    obtain ⟨rfl, hat⟩ := readOperation_eq_ok.1 hop
    have hlt : op.endpoint < s.endpoints.length := by
      simpa using (List.getElem?_eq_some_iff.1 he).1
    refine ⟨hs.addOperation hlt fun t ht c hc => ?_, hlength, hclasses⟩
    obtain ⟨name, hname⟩ := hat.known t ht c hc
    rw [hclasses]
    exact lt_of_typesOf hname

/-- No handle of an extracted registry dangles, and so its readings never come to nothing. -/
theorem extract_consistent {doc : Document} {r : Registry} (h : extract config doc = .ok r) :
    r.Consistent ∧
    (∀ t ∈ r.types, t.describe? r.className? = some (t.describe r.className) ∧
      Source.typeExpr? r t = some (Source.typeExpr r t)) ∧
    r.summary? = some r.summary ∧
    ∀ op ∈ r.operations, (r.resourceOf? op).isSome ∧ r.needsRegion? op = some (r.needsRegion op) := by
  obtain ⟨entries, fields, -, -, -, hfields, hr⟩ := extract_eq_ok.1 h
  have hc := consistent_addEndpoints hfields hr
  refine ⟨hc, fun t ht => ⟨hc.describe?_eq ht, ?_⟩, hc.summary?_eq,
    fun op hop => ⟨hc.resourceOf?_isSome hop, hc.needsRegion?_eq hop⟩⟩
  exact Source.typeExpr?_eq (hc.typed t ht)

theorem extract_consistent_redeclared :
    ∃ r, extract {} redeclared.number = .ok r ∧ r.Consistent ∧ r.summary? = some r.summary := by
  have hr := Outcome.eq_ok_getD {} redeclared_isOk
  have h := extract_consistent hr
  exact ⟨_, hr, h.1, h.2.2.1⟩

end TypedClient.Extraction
