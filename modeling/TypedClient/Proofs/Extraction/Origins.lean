import TypedClient.Proofs.Extraction.ClassTable

namespace TypedClient.Extraction

variable {config : Config} {doc : Document} {r : Registry}

theorem exists_readFields (h : extract config doc = .ok r) {c : ResponseClass} (hc : c ∈ r.classes) :
    ∃ pending, readFields config r.classNamed? pending = .ok c.fields ∧
      c.methods = c.fields.filterMap timeMethod? := by
  obtain ⟨entries, -, hentries, -⟩ := extract_eq_ok.1 h
  obtain ⟨hlength, hclasses⟩ := classes_of_extract hentries h
  obtain ⟨i, hi, rfl⟩ := List.mem_iff_getElem.1 hc
  obtain ⟨fields, hfields, hget⟩ := hclasses i _ (List.getElem?_eq_getElem (hlength ▸ hi))
  rw [List.getElem?_eq_getElem hi, Option.some.injEq] at hget
  rw [hget]
  exact ⟨_, hfields, rfl⟩

/-- Each operation was read as one of a resource, and its endpoint belongs to that resource. -/
def ReadUnder (config : Config) (types : String → Option ClassId)
    (entries : List (ResourceEntry × ResourceId)) (r : Registry) : Prop :=
  ∀ op ∈ r.operations, ∃ p ∈ entries, (r.endpoints.map (·.resource))[op.endpoint]? = some p.2 ∧
    ∃ n, OperationAt config types p.1.id n op

variable {types : String → Option ClassId} {entries : List (ResourceEntry × ResourceId)}

theorem ReadUnder.addEndpoint (h : ReadUnder config types entries r) (i : ResourceId) :
    ReadUnder config types entries (r.addEndpoint i) := by
  intro op hop
  obtain ⟨p, hp, hresource, hread⟩ := h op hop
  refine ⟨p, hp, ?_, hread⟩
  rw [Registry.addEndpoint, List.map_append,
    List.getElem?_append_left (List.getElem?_eq_some_iff.1 hresource).1, hresource]

theorem ReadUnder.addOperation {p : ResourceEntry × ResourceId} {n : Document} {op : Operation}
    (h : ReadUnder config types entries r) (hp : p ∈ entries)
    (hresource : (r.endpoints.map (·.resource))[op.endpoint]? = some p.2)
    (hop : OperationAt config types p.1.id n op) :
    ReadUnder config types entries (r.addOperation op) := by
  intro o ho
  rw [Registry.map_resource_addOperation]
  rcases List.mem_append.1 ho with ho | ho
  · exact h o ho
  · rw [List.mem_singleton.1 ho]
    exact ⟨p, hp, hresource, n, hop⟩

theorem readUnder_addEndpoints (hr : r.operations = []) {r' : Registry}
    (h : entries.foldlM (addEndpoints config types) r = .ok r') :
    ReadUnder config types entries r' := by
  refine addEndpoints_keeps (P := ReadUnder config types entries)
    (fun p _ s hs => hs.addEndpoint p.2) (fun p hp s e n op hs he hop _ => ?_) (fun op hop => ?_) h
  · obtain ⟨rfl, hat⟩ := readOperation_eq_ok.1 hop
    exact hs.addOperation hp he hat
  · rw [hr] at hop
    cases hop

theorem exists_operationAt (h : extract config doc = .ok r) {op : Operation} (hop : op ∈ r.operations) :
    ∃ resource n, r.resourceOf? op = some resource ∧
      OperationAt config r.classNamed? resource.id n op := by
  obtain ⟨entries, fields, hentries, -, -, hfields, hrun⟩ := extract_eq_ok.1 h
  obtain ⟨⟨entry, i⟩, hentry, hresource, n, hat⟩ := readUnder_addEndpoints rfl hrun op hop
  -- Resources stay in the order in which they were entered, so that a position tells which one it is.
  have hget : (r.resources.map (·.id))[i]? = some entry.id := by
    rw [ids_of_extract hentries h, List.getElem?_map, List.mk_mem_zipIdx_iff_getElem?.1 hentry]
    rfl
  rw [List.getElem?_map, Option.map_eq_some_iff] at hresource hget
  obtain ⟨endpoint, hendpoint, rfl⟩ := hresource
  obtain ⟨resource, hresource, hid⟩ := hget
  refine ⟨resource, n, ?_, ?_⟩
  · rw [Registry.resourceOf?, hendpoint, Option.bind_some, hresource]
  · rw [classNamed?_of_addEndpoints hfields hrun, hid]
    exact hat

end TypedClient.Extraction
