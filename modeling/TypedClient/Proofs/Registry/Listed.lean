import TypedClient.Proofs.Grouping
import TypedClient.Proofs.Registry.Handles

namespace TypedClient

/-- A resource as it is before it gets its endpoints. -/
def Resource.childless (x : Resource) : Resource := { x with endpoints := [] }

namespace Registry

theorem map_childless_addEndpoint (r : Registry) (i : ResourceId) :
    (r.addEndpoint i).resources.map (·.childless) = r.resources.map (·.childless) := by
  apply map_modify_eq
  intro x
  rfl

structure Listed (r : Registry) : Prop where
  endpoints : ∀ (i : ResourceId) x, r.resources[i]? = some x →
    x.endpoints = r.endpoints.findIdxs (·.resource = i)
  operations : ∀ (e : EndpointId) x, r.endpoints[e]? = some x →
    x.operations = r.operations.findIdxs (·.endpoint = e)
  placed : ∀ e ∈ r.endpoints, e.resource < r.resources.length
  answered : ∀ op ∈ r.operations, op.endpoint < r.endpoints.length

variable {r : Registry}

theorem listed_of_childless (hresources : ∀ x ∈ r.resources, x.endpoints = []) (hendpoints : r.endpoints = [])
    (hoperations : r.operations = []) : r.Listed where
  endpoints i x h := by simpa [hendpoints] using hresources x (List.mem_of_getElem? h)
  operations e x h := by simp [hendpoints] at h
  placed e h := by simp [hendpoints] at h
  answered op h := by simp [hoperations] at h

theorem findIdxs_eq_nil_of_lt {α : Type} {parent : α → Nat} {xs : List α} {n : Nat}
    (h : ∀ x ∈ xs, parent x < n) : xs.findIdxs (parent · = n) = [] := by
  rw [List.findIdxs_eq_nil_iff]
  intro x hx
  have hne : parent x ≠ n := Nat.ne_of_lt (h x hx)
  simpa using hne

theorem getElem?_concat_cases {α : Type} {xs : List α} {x y : α} {i : Nat}
    (h : (xs ++ [x])[i]? = some y) : xs[i]? = some y ∨ i = xs.length ∧ y = x := by
  obtain hlt | rfl | hgt := Nat.lt_trichotomy i xs.length
  · rw [List.getElem?_append_left hlt] at h
    exact .inl h
  · simp at h
    exact .inr ⟨rfl, h.symm⟩
  · rw [List.getElem?_eq_none (by simp; omega)] at h
    cases h

theorem operationsOf_addEndpoint (r : Registry) (i : ResourceId) (e : EndpointId) :
    (r.addEndpoint i).operationsOf e = r.operationsOf e := by
  have hsame : (r.addEndpoint i).endpoints[e]?.elim [] (·.operations) =
      r.endpoints[e]?.elim [] (·.operations) := by
    obtain hlt | rfl | hgt := Nat.lt_trichotomy e r.endpoints.length
    · rw [Registry.addEndpoint, List.getElem?_append_left hlt]
    · simp [Registry.addEndpoint]
    · have hafter : (r.addEndpoint i).endpoints.length ≤ e := by
        rw [Registry.addEndpoint, List.length_append]
        exact hgt
      rw [List.getElem?_eq_none hafter, List.getElem?_eq_none (Nat.le_of_lt hgt)]
  rw [operationsOf, hsame]
  rfl

namespace Listed

theorem addResource {x : Resource} (h : r.Listed) (hx : x.endpoints = []) :
    (r.addResource x).Listed where
  endpoints i y hy := by
    obtain hy | ⟨rfl, rfl⟩ := getElem?_concat_cases hy
    · exact h.endpoints i y hy
    · exact hx.trans (findIdxs_eq_nil_of_lt h.placed).symm
  operations := h.operations
  placed e he := by
    have hlt := Nat.lt_succ_of_lt (h.placed e he)
    simpa [Registry.addResource] using hlt
  answered := h.answered

theorem addEndpoint {i : ResourceId} (h : r.Listed) (hi : i < r.resources.length) :
    (r.addEndpoint i).Listed where
  endpoints j y hy := by
    rw [Registry.addEndpoint, List.getElem?_modify] at hy
    obtain ⟨x, hx, rfl⟩ := Option.map_eq_some_iff.1 hy
    have hold := h.endpoints j x hx
    by_cases hij : i = j <;> simp [Registry.addEndpoint, hij, hold]
  operations e y hy := by
    obtain hy | ⟨rfl, rfl⟩ := getElem?_concat_cases hy
    · exact h.operations e y hy
    · exact (findIdxs_eq_nil_of_lt h.answered).symm
  placed e he := by
    rw [Registry.addEndpoint, List.length_modify]
    obtain he | he := List.mem_append.1 he
    · exact h.placed e he
    · rw [List.mem_singleton.1 he]
      exact hi
  answered op hop := by
    have hlt := Nat.lt_succ_of_lt (h.answered op hop)
    simpa [Registry.addEndpoint] using hlt

theorem addOperation {op : Operation} (h : r.Listed) (hop : op.endpoint < r.endpoints.length) :
    (r.addOperation op).Listed where
  endpoints i x hx := by
    have hold := h.endpoints i x hx
    have howners := r.map_resource_addOperation op
    have hcongr := congrArg (List.findIdxs (· = i)) howners
    rw [List.findIdxs_map, List.findIdxs_map] at hcongr
    exact hold.trans hcongr.symm
  operations e y hy := by
    rw [Registry.addOperation, List.getElem?_modify] at hy
    obtain ⟨x, hx, rfl⟩ := Option.map_eq_some_iff.1 hy
    have hold := h.operations e x hx
    by_cases he : op.endpoint = e <;> simp [Registry.addOperation, he, hold]
  placed e he := by
    have howners := r.map_resource_addOperation op
    have hmem : e.resource ∈ r.endpoints.map (·.resource) := howners ▸ List.mem_map_of_mem he
    obtain ⟨old, hold, heq⟩ := List.mem_map.1 hmem
    exact heq ▸ h.placed old hold
  answered o ho := by
    rw [Registry.addOperation, List.length_modify]
    obtain ho | ho := List.mem_append.1 ho
    · exact h.answered o ho
    · rw [List.mem_singleton.1 ho]
      exact hop

theorem of_classes (h : r.Listed) (classes : List ResponseClass) : Listed { r with classes } where
  endpoints := h.endpoints
  operations := h.operations
  placed := h.placed
  answered := h.answered

theorem operationsOf_eq (h : r.Listed) {e : EndpointId} (he : e < r.endpoints.length) :
    r.operationsOf e = r.operations.filter (·.endpoint = e) := by
  have hget := List.getElem?_eq_getElem he
  rw [operationsOf, hget, Option.elim_some, h.operations e _ hget, filterMap_findIdxs]

theorem operationsOf_addOperation {op : Operation} (h : r.Listed)
    (hop : op.endpoint < r.endpoints.length) {e : EndpointId} (he : e < r.endpoints.length) :
    (r.addOperation op).operationsOf e = r.operationsOf e ++ if op.endpoint = e then [op] else [] := by
  have he' : e < (r.addOperation op).endpoints.length := by simpa [Registry.addOperation] using he
  rw [(h.addOperation hop).operationsOf_eq he', h.operationsOf_eq he]
  by_cases heq : op.endpoint = e <;> simp [Registry.addOperation, heq]

/-- The operations stand by resource and endpoint, each group in the order in which it was added. -/
theorem orderedOperations_eq (h : r.Listed) : r.orderedOperations =
    (List.range r.resources.length).flatMap fun i =>
      (r.endpoints.findIdxs (·.resource = i)).flatMap fun e => r.operations.filter (·.endpoint = e) := by
  rw [orderedOperations, ← flatMap_range]
  apply List.flatMap_congr
  intro i hi
  have hget := List.getElem?_eq_getElem (List.mem_range.1 hi)
  rw [hget, Option.elim_some, h.endpoints i _ hget]
  apply List.flatMap_congr
  intro e he
  have hlt := List.lt_add_of_mem_findIdxs e he
  exact h.operationsOf_eq (by simpa using hlt)

/-- Every endpoint is listed by one resource and once. -/
theorem endpoints_perm (h : r.Listed) :
    ((List.range r.resources.length).flatMap fun i => r.endpoints.findIdxs (·.resource = i)).Perm
      (List.range r.endpoints.length) := by
  have hpairs := (flatMap_filter_perm (fun p : Endpoint × Nat => p.1.resource)
    r.endpoints.zipIdx r.resources.length).map (·.2)
  have hall : r.endpoints.zipIdx.filter (fun p => p.1.resource < r.resources.length) =
      r.endpoints.zipIdx := by
    apply List.filter_eq_self.2
    intro p hp
    simpa using h.placed p.1 (List.fst_mem_of_mem_zipIdx hp)
  have hindex : ∀ i, (r.endpoints.zipIdx.filter fun p => p.1.resource = i).map (·.2) =
      r.endpoints.findIdxs (·.resource = i) :=
    fun i => map_snd_filter_zipIdx (fun e : Endpoint => e.resource = i) r.endpoints 0
  rw [List.map_flatMap, hall, List.zipIdx_map_snd] at hpairs
  simpa only [hindex, List.range_eq_range'] using hpairs

/-- No operation is left out, and none comes twice. -/
theorem orderedOperations_perm (h : r.Listed) : r.orderedOperations.Perm r.operations := by
  have hall : r.operations.filter (fun op => op.endpoint < r.endpoints.length) = r.operations := by
    apply List.filter_eq_self.2
    intro op hop
    simpa using h.answered op hop
  have hgroups := flatMap_filter_perm (·.endpoint) r.operations r.endpoints.length
  rw [hall] at hgroups
  rw [h.orderedOperations_eq, ← List.flatMap_assoc]
  exact (h.endpoints_perm.flatMap_right _).trans hgroups

end Listed

end Registry

end TypedClient
