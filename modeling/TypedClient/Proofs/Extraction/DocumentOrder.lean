import TypedClient.Proofs.Document.Search
import TypedClient.Proofs.Extraction.ClassTable
import TypedClient.Proofs.Rearranged
import TypedClient.Proofs.Registry.Listed

namespace TypedClient.Extraction

open Node Text

variable {config : Config} {types : String → Option ClassId} {doc : Document} {r r' : Registry}

def isKept (config : Config) (n : Document) : Bool := !(idIn? n.attrs).any config.isSkipped

def isFirst (config : Config) (n : Document) : Bool :=
  config.firstResource.any fun first => idIn? n.attrs = some first

/-- The resource nodes below the root that are not skipped, in document order. -/
def keptNodes (config : Config) (doc : Document) : List Document :=
  (doc.descendants.filter (·.kind = "resource")).filter (isKept config)

def resourceNodes (config : Config) (doc : Document) : List Document :=
  (keptNodes config doc).filter (isFirst config) ++ (keptNodes config doc).filter (!isFirst config ·)

def operationNodes (n : Document) : List Document :=
  (n.childrenOfKind "endpoint").flatMap (·.childrenOfKind "operation")

theorem toFront_eq_filter {α : Type} {p : α → Bool} {xs : List α}
    (h : xs.Pairwise fun x y => ¬ (p x = true ∧ p y = true)) :
    toFront p xs = xs.filter p ++ xs.filter (!p ·) := by
  unfold toFront
  cases hfind : xs.find? p with
  | none =>
    have hnone : ∀ x ∈ xs, p x = false := by simpa using hfind
    have hempty : xs.filter p = [] := by simpa using hnone
    have hall : xs.filter (!p ·) = xs := by simpa using hnone
    simp [hempty, hall]
  | some x =>
    obtain ⟨hx, as, bs, rfl, has⟩ := List.find?_eq_some_iff_append.1 hfind
    have hbehind : ∀ b ∈ bs, p b = false := by
      intro b hb
      have hrel := (List.pairwise_cons.1 (List.pairwise_append.1 h).2.1).1 b hb
      simpa [hx] using hrel
    have hbefore : ∀ a ∈ as, ¬ p a = true := fun a ha => by simpa using has a ha
    have hothers : (as ++ x :: bs).filter (!p ·) = as ++ bs := by
      rw [List.filter_append, List.filter_cons_of_neg (by simp [hx])]
      rw [List.filter_eq_self.2 has, List.filter_eq_self.2 fun b hb => by simp [hbehind b hb]]
    have hfirst : (as ++ x :: bs).filter p = [x] := by
      rw [List.filter_append, List.filter_cons_of_pos hx, List.filter_eq_nil_iff.2 hbefore,
        List.filter_eq_nil_iff.2 fun b hb => by simp [hbehind b hb]]
      rfl
    rw [hothers, hfirst, List.eraseP_append_right _ hbefore, List.eraseP_cons_of_pos hx]
    rfl

theorem inOrder_eq_filter {read : List ResourceEntry}
    (h : ((read.filter (!config.isSkipped ·.id)).map (·.id)).Nodup) : inOrder config read =
      (read.filter (!config.isSkipped ·.id)).filter (fun e => config.firstResource.any (e.id = ·)) ++
        (read.filter (!config.isSkipped ·.id)).filter (fun e => !config.firstResource.any (e.id = ·)) := by
  unfold inOrder
  cases config.firstResource with
  | none => simp
  | some first =>
    apply toFront_eq_filter
    apply (List.pairwise_map.1 h).imp
    intro x y hne hboth
    simp only [decide_eq_true_eq] at hboth
    exact hne (hboth.1.trans hboth.2.symm)

/-- The entries of resources are read from the nodes that are kept. -/
theorem forall₂_resourceNodes {entries : List ResourceEntry} (h : resources config doc = .ok entries) :
    List.Forall₂ (fun n entry => readResource n = .ok entry) (resourceNodes config doc) entries := by
  obtain ⟨read, hread, rfl, hnodup⟩ := resources_eq_ok.1 h
  have hids := ((inOrder_perm config read).map (·.id)).nodup_iff.1 hnodup
  have hkept : List.Forall₂ (fun n entry => readResource n = .ok entry) (keptNodes config doc)
      (read.filter (!config.isSkipped ·.id)) := by
    rw [keptNodes, ← descendantsOfKind_eq_filter]
    apply List.rel_filter _ hread
    intro n entry hentry
    simp [isKept, idIn?_of_readResource hentry]
  rw [inOrder_eq_filter hids, resourceNodes]
  apply List.rel_append
  · apply List.rel_filter _ hkept
    intro n entry hentry
    simp [isFirst, idIn?_of_readResource hentry]
  · apply List.rel_filter _ hkept
    intro n entry hentry
    simp [isFirst, idIn?_of_readResource hentry]

/-- The operations of a new endpoint have been added from some of its nodes. -/
structure Added (config : Config) (types : String → Option ClassId) (p : ResourceEntry × ResourceId)
    (before : Registry) (done : List Document) (r : Registry) : Prop where
  listed : r.Listed
  resources : r.resources.length = before.resources.length
  owners : r.endpoints.map (·.resource) = before.endpoints.map (·.resource) ++ [p.2]
  old : ∀ e < before.endpoints.length, r.operationsOf e = before.operationsOf e
  new : List.Forall₂ (OperationAt config types p.1.id) done (r.operationsOf before.endpoints.length)

variable {p : ResourceEntry × ResourceId}

theorem Added.start (h : r.Listed) (hp : p.2 < r.resources.length) :
    Added config types p r [] (r.addEndpoint p.2) where
  listed := h.addEndpoint hp
  resources := by simp [Registry.addEndpoint]
  owners := by simp [Registry.addEndpoint]
  old e _ := Registry.operationsOf_addEndpoint r p.2 e
  new := by
    rw [Registry.operationsOf_addEndpoint]
    simp [Registry.operationsOf]

theorem Added.operation {before : Registry} {done : List Document} {n : Document} {op : Operation}
    (h : Added config types p before done r)
    (hop : readOperation config types p.1.id before.endpoints.length n = .ok op) :
    Added config types p before (done ++ [n]) (r.addOperation op) := by
  obtain ⟨hendpoint, hat⟩ := readOperation_eq_ok.1 hop
  have hlength : r.endpoints.length = before.endpoints.length + 1 := by
    simpa using congrArg List.length h.owners
  have hplace : op.endpoint < r.endpoints.length := by
    rw [hendpoint, hlength]
    exact Nat.lt_succ_self _
  constructor
  · exact h.listed.addOperation hplace
  · exact h.resources
  · rw [Registry.map_resource_addOperation, h.owners]
  · intro e he
    have hne : op.endpoint ≠ e := hendpoint ▸ Nat.ne_of_gt he
    rw [h.listed.operationsOf_addOperation hplace (hlength ▸ Nat.lt_succ_of_lt he), h.old e he, if_neg hne,
      List.append_nil]
  · rw [h.listed.operationsOf_addOperation hplace (hlength ▸ Nat.lt_succ_self _), if_pos hendpoint]
    exact List.rel_append h.new (.cons hat .nil)

/-- The endpoints of a registry are those of some nodes, each with its operations. -/
structure Mirrors (config : Config) (types : String → Option ClassId) (total : Nat)
    (nodes : List ((ResourceEntry × ResourceId) × Document)) (r : Registry) : Prop where
  listed : r.Listed
  resources : r.resources.length = total
  owners : r.endpoints.map (·.resource) = nodes.map (·.1.2)
  operations : ∀ (e : EndpointId) x, nodes[e]? = some x →
    List.Forall₂ (OperationAt config types x.1.1.id) (x.2.childrenOfKind "operation") (r.operationsOf e)

variable {nodes : List ((ResourceEntry × ResourceId) × Document)} {total : Nat}

theorem Mirrors.addEndpoint {n : Document} (h : Mirrors config types total nodes r)
    (hp : p.2 < total) (hrun : addEndpoint config types p.1.id p.2 r n = .ok r') :
    Mirrors config types total (nodes ++ [(p, n)]) r' := by
  have hadded : Added config types p r ([] ++ n.childrenOfKind "operation") r' := by
    refine Outcome.foldlM_carries (Added config types p r) (fun child _ done s s' hs hstep => ?_) []
      (Added.start h.listed (h.resources ▸ hp)) hrun
    obtain ⟨op, hop, hadd⟩ := Outcome.bind_eq_ok.1 hstep
    obtain ⟨-, rfl⟩ := addOperation_eq_ok.1 hadd
    exact hs.operation hop
  have hlength : r.endpoints.length = nodes.length := by
    simpa using congrArg List.length h.owners
  constructor
  · exact hadded.listed
  · exact hadded.resources.trans h.resources
  · rw [hadded.owners, h.owners]
    simp
  · intro e x hx
    obtain hx | ⟨rfl, rfl⟩ := Registry.getElem?_concat_cases hx
    · have he : e < r.endpoints.length := hlength ▸ (List.getElem?_eq_some_iff.1 hx).1
      rw [hadded.old e he]
      exact h.operations e x hx
    · rw [← hlength]
      exact hadded.new

def endpointNodes (entries : List (ResourceEntry × ResourceId)) :
    List ((ResourceEntry × ResourceId) × Document) :=
  entries.flatMap fun p => (p.1.node.childrenOfKind "endpoint").map (p, ·)

theorem mirrors_addEndpoints {entries : List (ResourceEntry × ResourceId)}
    (h : Mirrors config types total [] r) (hentries : ∀ p ∈ entries, p.2 < total)
    (hrun : entries.foldlM (addEndpoints config types) r = .ok r') :
    Mirrors config types total (endpointNodes entries) r' := by
  refine Outcome.foldlM_carries (fun done => Mirrors config types total (endpointNodes done))
    (fun p hp done s s' hs hstep => ?_) [] h hrun
  have hinner := Outcome.foldlM_carries
    (fun ns => Mirrors config types total (endpointNodes done ++ ns.map (p, ·)))
    (fun n _ ns t t' ht hnode => ?_) [] (by simpa using hs) hstep
  · simpa [endpointNodes] using hinner
  · have hnext := ht.addEndpoint (hentries p hp) hnode
    simpa using hnext

theorem mirrors_of_extract {entries : List ResourceEntry} (hentries : resources config doc = .ok entries)
    (h : extract config doc = .ok r) :
    Mirrors config (typesOf config entries) entries.length (endpointNodes entries.zipIdx) r := by
  obtain ⟨es, fields, hes, -, -, -, hrun⟩ := extract_eq_ok.1 h
  obtain rfl : entries = es := Except.ok.inj (hentries.symm.trans hes)
  have hstart : Mirrors config (typesOf config entries) entries.length []
      (secondPass config entries fields) := by
    constructor
    · apply Registry.listed_of_childless _ rfl rfl
      intro x hx
      obtain ⟨entry, -, rfl⟩ := List.mem_map.1 hx
      rfl
    · simp [secondPass, firstPass, registered]
    · rfl
    · simp
  exact mirrors_addEndpoints hstart (fun p hp => by simpa using List.snd_lt_of_mem_zipIdx hp) hrun

theorem resources_of_extract {entries : List ResourceEntry} (hentries : resources config doc = .ok entries)
    (h : extract config doc = .ok r) : r.resources.map (·.childless) = entries.map (·.toResource) := by
  obtain ⟨es, fields, hes, -, -, -, hrun⟩ := extract_eq_ok.1 h
  obtain rfl : entries = es := Except.ok.inj (hentries.symm.trans hes)
  have hkept := addEndpoints_keeps
    (P := fun s => s.resources.map (·.childless) = (secondPass config entries fields).resources.map (·.childless))
    (fun p _ s hs => (s.map_childless_addEndpoint p.2).trans hs) (fun _ _ _ _ _ _ hs _ _ _ => hs) rfl hrun
  rw [hkept, secondPass, firstPass, registered, List.map_map]
  rfl

/-- The operations of a resource are read from the nodes below that of the resource. -/
theorem Mirrors.operationsAt {entries : List ResourceEntry} {i : ResourceId} {entry : ResourceEntry}
    {resource : Resource} (h : Mirrors config types total (endpointNodes entries.zipIdx) r)
    (hentry : entries[i]? = some entry) (hresource : r.resources[i]? = some resource) :
    List.Forall₂ (fun node e => List.Forall₂ (OperationAt config types entry.id)
      (node.childrenOfKind "operation") (r.operationsOf e))
      (entry.node.childrenOfKind "endpoint") resource.endpoints := by
  -- A resource lists its endpoints by owner, and their owners are those of the nodes.
  have hplaces : resource.endpoints = (endpointNodes entries.zipIdx).findIdxs (·.1.2 = i) := by
    have howners := congrArg (List.findIdxs (· = i)) h.owners
    rw [List.findIdxs_map, List.findIdxs_map] at howners
    exact (h.listed.endpoints i resource hresource).trans howners
  have hnodes : (endpointNodes entries.zipIdx).filter (·.1.2 = i) =
      (entry.node.childrenOfKind "endpoint").map ((entry, i), ·) :=
    filter_flatMap_zipIdx (fun p => p.1.node.childrenOfKind "endpoint") hentry
  have hpairs := forall₂_filter_findIdxs (·.1.2 = i) (endpointNodes entries.zipIdx)
  rw [hnodes, ← hplaces, List.forall₂_map_left_iff] at hpairs
  exact hpairs.imp fun node e hnode => h.operations e _ hnode

theorem resourceNodes_eq_map {entries : List ResourceEntry} (h : resources config doc = .ok entries) :
    resourceNodes config doc = entries.map (·.node) := by
  have hnodes := forall₂_resourceNodes h
  simpa using (Rearranged.map_eq_of_forall₂ (f := id) (fun _ _ he => node_of_readResource he) hnodes).symm

/-- What relates each entry to the resource in its place relates the nodes to the resources. -/
theorem forall₂_resources {R : Document → Resource → Prop} {entries : List ResourceEntry}
    (hentries : resources config doc = .ok entries) (h : extract config doc = .ok r)
    (hR : ∀ (i : Nat) entry resource, entries[i]? = some entry → r.resources[i]? = some resource →
      R entry.node resource) : List.Forall₂ R (resourceNodes config doc) r.resources := by
  have hlength : r.resources.length = entries.length := by
    simpa using congrArg List.length (resources_of_extract hentries h)
  rw [resourceNodes_eq_map hentries, List.forall₂_map_left_iff, List.forall₂_iff_get]
  refine ⟨hlength.symm, fun i hentry hresource => ?_⟩
  exact hR i _ _ (List.getElem?_eq_getElem hentry) (List.getElem?_eq_getElem hresource)

/-- The operations of a registry are read from the operation nodes of the document, in order. -/
theorem forall₂_operationAt (h : extract config doc = .ok r) :
    List.Forall₂ (fun n op => ∃ resource, OperationAt config r.classNamed? resource n op)
      ((resourceNodes config doc).flatMap operationNodes) r.orderedOperations := by
  obtain ⟨entries, fields, hentries, -, -, hfields, hrun⟩ := extract_eq_ok.1 h
  have hmirrors := mirrors_of_extract hentries h
  rw [← classNamed?_of_addEndpoints hfields hrun] at hmirrors
  have hresources : List.Forall₂ (fun n resource => ∃ id, List.Forall₂ (fun node e =>
      List.Forall₂ (OperationAt config r.classNamed? id) (node.childrenOfKind "operation")
        (r.operationsOf e)) (n.childrenOfKind "endpoint") resource.endpoints)
      (resourceNodes config doc) r.resources :=
    forall₂_resources hentries h fun i entry resource hentry hresource =>
      ⟨entry.id, hmirrors.operationsAt hentry hresource⟩
  apply List.rel_flatMap hresources
  intro n resource ⟨id, hn⟩
  apply List.rel_flatMap hn
  intro node e hnode
  exact hnode.imp fun _ _ hat => ⟨id, hat⟩

end TypedClient.Extraction
