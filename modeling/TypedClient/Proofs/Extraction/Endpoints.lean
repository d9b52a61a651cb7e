import TypedClient.Extraction.Operations
import TypedClient.Proofs.Extraction.Resources
import TypedClient.Proofs.Registry.Handles

namespace TypedClient.Extraction

variable {config : Config} {types : String → Option ClassId}

theorem addOperation_eq_ok {registry r : Registry} {op : Operation} :
    addOperation registry op = .ok r ↔
      (∀ o ∈ registry.operations, o.name ≠ op.name) ∧ r = registry.addOperation op := by
  unfold addOperation
  cases hfind : registry.operations.find? (·.name = op.name) with
  | none =>
    have hnew : ∀ o ∈ registry.operations, o.name ≠ op.name := by simpa using hfind
    rw [Except.ok.injEq, eq_comm]
    exact ⟨fun h => ⟨hnew, h⟩, fun h => h.2⟩
  | some first =>
    constructor
    · intro h
      cases h
    · rintro ⟨hnew, -⟩
      exact absurd (by simpa using List.find?_some hfind) (hnew first (List.mem_of_find?_eq_some hfind))

/-- What a new endpoint keeps and a new operation keeps, the pass keeps. An operation is read as one of
the resource that its endpoint belongs to. -/
theorem addEndpoints_keeps {P : Registry → Prop} {entries : List (ResourceEntry × ResourceId)}
    (hendpoint : ∀ p ∈ entries, ∀ r, P r → P (r.addEndpoint p.2))
    (hoperation : ∀ p ∈ entries, ∀ r e n op, P r → (r.endpoints.map (·.resource))[e]? = some p.2 →
      readOperation config types p.1.id e n = .ok op →
      (∀ o ∈ r.operations, o.name ≠ op.name) → P (r.addOperation op))
    {r r' : Registry} (hr : P r)
    (h : entries.foldlM (addEndpoints config types) r = .ok r') : P r' := by
  refine Outcome.foldlM_keeps P (fun p hp s s' hs hrun => ?_) hr h
  refine Outcome.foldlM_keeps P (fun node _ t t' ht hnode => ?_) hs hrun
  -- While the operations of a node are added, its endpoint keeps its place and its resource.
  let Q (u : Registry) : Prop :=
    P u ∧ (u.endpoints.map (·.resource))[t.endpoints.length]? = some p.2
  have hstart : Q (t.addEndpoint p.2) := ⟨hendpoint p hp t ht, by simp [Registry.addEndpoint]⟩
  refine (Outcome.foldlM_keeps Q (fun child _ u u' hu hchild => ?_) hstart hnode).1
  obtain ⟨op, hop, hadd⟩ := Outcome.bind_eq_ok.1 hchild
  obtain ⟨hnew, rfl⟩ := addOperation_eq_ok.1 hadd
  exact ⟨hoperation p hp u _ child op hu.1 hu.2 hop hnew, by rw [Registry.map_resource_addOperation, hu.2]⟩

theorem classes_of_addEndpoints {entries : List (ResourceEntry × ResourceId)} {r r' : Registry}
    (h : entries.foldlM (addEndpoints config types) r = .ok r') : r'.classes = r.classes :=
  addEndpoints_keeps (P := fun s => s.classes = r.classes) (fun _ _ _ hs => hs)
    (fun _ _ _ _ _ _ hs _ _ _ => hs) rfl h

theorem ids_of_addEndpoints {entries : List (ResourceEntry × ResourceId)} {r r' : Registry}
    (h : entries.foldlM (addEndpoints config types) r = .ok r') :
    r'.resources.map (·.id) = r.resources.map (·.id) :=
  addEndpoints_keeps (P := fun s => s.resources.map (·.id) = r.resources.map (·.id))
    (fun p _ s hs => (s.map_id_addEndpoint p.2).trans hs) (fun _ _ _ _ _ _ hs _ _ _ => hs) rfl h

/-- What a node has to say for an operation to be read from it. -/
structure OperationAt (config : Config) (types : String → Option ClassId) (resource : String)
    (n : Document) (op : Operation) : Prop where
  number : ∃ id, requiredAttr (.operationNode n.label resource) n "id" = .ok id ∧
    operationNumber? id = some op.number
  method : requiredAttr (.operationNode n.label resource) n "method" = .ok op.method.toList
  path : requiredAttr (.operationNode n.label resource) n "path" = .ok op.path.template.toList
  rule : OperationTable.lookup config resource op.path.template = .ok ⟨op.name, op.mapKey⟩
  blocks : (n.childrenOfKind "block").foldlM
    (readBlock ⟨config, types, resource, .operation op.path.template resource⟩) {} = .ok
      ⟨op.path.parameters, op.query, some op.returnType, op.implementationNotes, op.rateLimitNotes,
        op.errors⟩
  mapKey : checkMapKey ⟨op.name, op.mapKey⟩ op.returnType = .ok ()
  description : op.description = operationDescription n

theorem readOperation_eq_ok {resource : String} {e : EndpointId} {n : Document} {op : Operation} :
    readOperation config types resource e n = .ok op ↔
      op.endpoint = e ∧ OperationAt config types resource n op := by
  constructor
  · intro h
    obtain ⟨id, hid, h⟩ := Outcome.bind_eq_ok.1 h
    obtain ⟨number, hnumber, h⟩ := Outcome.bind_eq_ok.1 h
    obtain ⟨method, hmethod, h⟩ := Outcome.bind_eq_ok.1 h
    obtain ⟨path, hpath, h⟩ := Outcome.bind_eq_ok.1 h
    obtain ⟨rule, hrule, h⟩ := Outcome.bind_eq_ok.1 h
    obtain ⟨details, hdetails, h⟩ := Outcome.bind_eq_ok.1 h
    obtain ⟨returnType, hreturn, h⟩ := Outcome.bind_eq_ok.1 h
    obtain ⟨_, hkey, h⟩ := Outcome.bind_eq_ok.1 h
    obtain rfl := Outcome.pure_eq_ok.1 h
    have hblocks : details = { details with returnType := some returnType } := by
      rw [← orFault_eq_ok.1 hreturn]
    rw [hblocks] at hdetails
    refine ⟨rfl, ⟨id, hid, orFault_eq_ok.1 hnumber⟩, ?_, ?_, hrule, hdetails, hkey, rfl⟩
    · rw [hmethod, String.toList_ofList]
    · rw [hpath, String.toList_ofList]
  · rintro ⟨rfl, ⟨id, hid, hnumber⟩, hmethod, hpath, hrule, hdetails, hkey, hdescription⟩
    unfold readOperation
    refine Outcome.bind_eq_ok.2 ⟨id, hid, ?_⟩
    refine Outcome.bind_eq_ok.2 ⟨_, orFault_eq_ok.2 hnumber, ?_⟩
    refine Outcome.bind_eq_ok.2 ⟨_, hmethod, ?_⟩
    refine Outcome.bind_eq_ok.2 ⟨_, hpath, ?_⟩
    rw [String.ofList_toList, String.ofList_toList]
    refine Outcome.bind_eq_ok.2 ⟨_, hrule, ?_⟩
    refine Outcome.bind_eq_ok.2 ⟨_, hdetails, ?_⟩
    refine Outcome.bind_eq_ok.2 ⟨_, orFault_eq_ok.2 rfl, ?_⟩
    refine Outcome.bind_eq_ok.2 ⟨(), hkey, ?_⟩
    rw [← hdescription]
    rfl

theorem readOperation_of_endpoint {resource : String} {e e' : EndpointId} {n : Document}
    {op : Operation} (h : readOperation config types resource e n = .ok op) :
    readOperation config types resource e' n = .ok { op with endpoint := e' } := by
  obtain ⟨-, hop⟩ := readOperation_eq_ok.1 h
  exact readOperation_eq_ok.2 ⟨rfl, { hop with }⟩

/-- The name of the operation at a node, if it can be read. -/
def operationName? (config : Config) (types : String → Option ClassId) (resource : String)
    (n : Document) : Option String :=
  (readOperation config types resource 0 n).toOption.map (·.name)

theorem operationName?_eq_some {resource name : String} {n : Document} (e : EndpointId) :
    operationName? config types resource n = some name ↔
      ∃ op, readOperation config types resource e n = .ok op ∧ op.name = name := by
  unfold operationName?
  constructor
  · intro h
    obtain ⟨op, hop, rfl⟩ := Outcome.exists_ok_of_map_toOption h
    exact ⟨_, readOperation_of_endpoint hop, rfl⟩
  · rintro ⟨op, hop, rfl⟩
    rw [readOperation_of_endpoint hop]
    rfl

def operationNames (r : Registry) : List (Option String) := r.operations.map fun op => some op.name

/-- Whether a run adds operations of given names, and fails only if one of these is missing or taken. -/
structure AddsNames (run : Registry → Except Failure Registry) (names : List (Option String)) :
    Prop where
  adds : ∀ r r', (operationNames r).Nodup → run r = .ok r' →
    operationNames r' = operationNames r ++ names ∧ (operationNames r').Nodup
  succeeds : ∀ r, (∀ name ∈ names, name.isSome) → (operationNames r ++ names).Nodup →
    ∃ r', run r = .ok r'

theorem AddsNames.foldlM {α : Type} {step : Registry → α → Except Failure Registry} {xs : List α}
    {names : α → List (Option String)} (h : ∀ x ∈ xs, AddsNames (step · x) (names x)) :
    AddsNames (fun r => xs.foldlM step r) (xs.flatMap names) := by
  induction xs with
  | nil =>
    refine ⟨fun r r' hr h => ?_, fun r _ _ => ⟨r, rfl⟩⟩
    cases h
    exact ⟨by simp, hr⟩
  | cons x xs ih =>
    have hx := h x List.mem_cons_self
    have hxs := ih fun y hy => h y (List.mem_cons_of_mem x hy)
    refine ⟨fun r r' hr hrun => ?_, fun r hsome hnodup => ?_⟩
    · rw [List.foldlM_cons] at hrun
      obtain ⟨next, hnext, hrun⟩ := Outcome.bind_eq_ok.1 hrun
      obtain ⟨hnames, hdistinct⟩ := hx.adds r next hr hnext
      obtain ⟨hnames', hdistinct'⟩ := hxs.adds next r' hdistinct hrun
      rw [hnames', hnames, List.flatMap_cons, List.append_assoc]
      rw [hnames', hnames] at hdistinct'
      exact ⟨rfl, by simpa using hdistinct'⟩
    · rw [List.flatMap_cons, ← List.append_assoc] at hnodup
      rw [List.flatMap_cons] at hsome
      have hr := hnodup.sublist ((List.sublist_append_left _ _).trans (List.sublist_append_left _ _))
      obtain ⟨next, hnext⟩ := hx.succeeds r (fun name hn => hsome name (List.mem_append_left _ hn))
        (hnodup.sublist (List.sublist_append_left _ _))
      obtain ⟨hnames, -⟩ := hx.adds r next hr hnext
      obtain ⟨r', hrun⟩ := hxs.succeeds next (fun name hn => hsome name (List.mem_append_right _ hn))
        (hnames ▸ hnodup)
      exact ⟨r', by rw [List.foldlM_cons, hnext, Outcome.ok_bind, hrun]⟩

theorem operationNames_addOperation (r : Registry) (op : Operation) :
    operationNames (r.addOperation op) = operationNames r ++ [some op.name] := by
  simp [operationNames, Registry.addOperation]

theorem mem_operationNames {r : Registry} {name : String} :
    some name ∈ operationNames r ↔ ∃ o ∈ r.operations, o.name = name := by
  simp [operationNames]

theorem addsNames_operation (resource : String) (e : EndpointId) (n : Document) :
    AddsNames (fun r => do addOperation r (← readOperation config types resource e n))
      [operationName? config types resource n] where
  adds r r' hr h := by
    obtain ⟨op, hop, hadd⟩ := Outcome.bind_eq_ok.1 h
    obtain ⟨hnew, rfl⟩ := addOperation_eq_ok.1 hadd
    rw [operationNames_addOperation, (operationName?_eq_some e).2 ⟨op, hop, rfl⟩]
    refine ⟨rfl, List.nodup_append.2 ⟨hr, by simp, ?_⟩⟩
    rintro a ha b hb rfl
    rw [List.mem_singleton.1 hb, mem_operationNames] at ha
    obtain ⟨o, ho, hname⟩ := ha
    exact hnew o ho hname
  succeeds r hsome hnodup := by
    obtain ⟨name, hname⟩ := Option.isSome_iff_exists.1 (hsome _ List.mem_cons_self)
    obtain ⟨op, hop, rfl⟩ := (operationName?_eq_some e).1 hname
    have hnew : ∀ o ∈ r.operations, o.name ≠ op.name := by
      intro o ho heq
      rw [hname] at hnodup
      have hmem : some op.name ∈ operationNames r := mem_operationNames.2 ⟨o, ho, heq⟩
      exact (List.nodup_append.1 hnodup).2.2 _ hmem _ List.mem_cons_self rfl
    exact ⟨_, Outcome.bind_eq_ok.2 ⟨op, hop, addOperation_eq_ok.2 ⟨hnew, rfl⟩⟩⟩

theorem addsNames_endpoint (resource : String) (owner : ResourceId) (n : Document) :
    AddsNames (addEndpoint config types resource owner · n)
      ((n.childrenOfKind "operation").map (operationName? config types resource)) := by
  have hrun (e : EndpointId) : AddsNames (fun r => (n.childrenOfKind "operation").foldlM
      (fun r child => do addOperation r (← readOperation config types resource e child)) r)
      ((n.childrenOfKind "operation").map (operationName? config types resource)) := by
    rw [List.map_eq_flatMap]
    exact AddsNames.foldlM fun child _ => addsNames_operation resource e child
  exact ⟨fun r r' hr h => (hrun r.endpoints.length).adds (r.addEndpoint owner) r' hr h,
    fun r hsome hnodup => (hrun r.endpoints.length).succeeds (r.addEndpoint owner) hsome hnodup⟩

/-- The names of all operations of a resource, in order. -/
def namesIn (config : Config) (types : String → Option ClassId) (entry : ResourceEntry) :
    List (Option String) :=
  (entry.node.childrenOfKind "endpoint").flatMap fun n =>
    (n.childrenOfKind "operation").map (operationName? config types entry.id)

theorem addsNames_resource (p : ResourceEntry × ResourceId) :
    AddsNames (addEndpoints config types · p) (namesIn config types p.1) :=
  AddsNames.foldlM fun n _ => addsNames_endpoint p.1.id p.2 n

theorem thirdPass_succeeds_iff {entries : List ResourceEntry} {r : Registry}
    (hr : r.operations = []) :
    (∃ r', entries.zipIdx.foldlM (addEndpoints config types) r = .ok r') ↔
      (∀ name ∈ entries.flatMap (namesIn config types), name.isSome) ∧
        (entries.flatMap (namesIn config types)).Nodup := by
  have hadds : AddsNames (fun r => entries.zipIdx.foldlM (addEndpoints config types) r)
      (entries.zipIdx.flatMap fun p => namesIn config types p.1) :=
    AddsNames.foldlM fun p _ => addsNames_resource p
  have hnames : (entries.zipIdx.flatMap fun p => namesIn config types p.1) =
      entries.flatMap (namesIn config types) := by
    rw [← List.flatMap_map, List.zipIdx_map_fst]
  rw [hnames] at hadds
  have hstart : operationNames r = [] := by rw [operationNames, hr, List.map_nil]
  constructor
  · rintro ⟨r', h⟩
    obtain ⟨hadded, hnodup⟩ := hadds.adds r r' (by simp [hstart]) h
    rw [hstart, List.nil_append] at hadded
    rw [← hadded]
    refine ⟨fun name hn => ?_, hnodup⟩
    obtain ⟨op, -, rfl⟩ := List.mem_map.1 hn
    rfl
  · rintro ⟨hsome, hnodup⟩
    exact hadds.succeeds r hsome (by rwa [hstart, List.nil_append])

end TypedClient.Extraction
