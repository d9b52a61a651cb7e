import Mathlib.Data.List.Count
import TypedClient.Registry.Build

namespace TypedClient

namespace ValueType

/-- The classes that a type refers to, at any depth. -/
def classes : ValueType → List ClassId
  | scalar _ | dynamicMap | external _ => []
  | list element => element.classes
  | map key element => key.classes ++ element.classes
  | reference c => [c]
  | pointer t => t.classes

theorem classes_of_withKey? {s : Scalar} {t t' : ValueType} (h : t.withKey? s = some t') :
    ∀ c ∈ t'.classes, c ∈ t.classes := by
  cases t with
  | map key element =>
    cases h
    intro c hc
    exact List.mem_append_right key.classes hc
  | _ => cases h

end ValueType

/-- The types of an operation: of its parameters, and of its result with and without its true key. -/
def Operation.types (op : Operation) : List ValueType :=
  (op.path.parameters ++ op.query).map (·.type) ++ [op.returnType, op.resultType]

theorem Operation.classes_resultType (op : Operation) :
    ∀ c ∈ op.resultType.classes, c ∈ op.returnType.classes := by
  intro c hc
  unfold Operation.resultType at hc
  cases hkey : op.mapKey.bind fun key => op.returnType.withKey? key with
  | none => simpa [hkey] using hc
  | some t =>
    obtain ⟨key, -, ht⟩ := Option.bind_eq_some_iff.1 hkey
    rw [hkey] at hc
    exact ValueType.classes_of_withKey? ht c hc

namespace Registry

/-- Every type that occurs in a registry. -/
def types (r : Registry) : List ValueType :=
  r.classes.flatMap (fun cls => cls.fields.map (·.type)) ++ r.operations.flatMap Operation.types

/-- No handle dangles, and all back references agree. -/
structure Consistent (r : Registry) : Prop where
  typed : ∀ t ∈ r.types, ∀ c ∈ t.classes, c < r.classes.length
  owned : ∀ (c : ClassId) cls, r.classes[c]? = some cls → ∀ f ∈ cls.fields, f.owner = c
  declared : ∀ cls ∈ r.classes, cls.resource < r.resources.length
  placed : ∀ e ∈ r.endpoints, e.resource < r.resources.length
  answered : ∀ op ∈ r.operations, op.endpoint < r.endpoints.length
  /-- An endpoint is listed once by its resource and not at all by others. -/
  endpoints : ∀ (i : ResourceId) resource, r.resources[i]? = some resource → ∀ e : EndpointId,
    resource.endpoints.count e = if r.endpoints[e]?.map (·.resource) = some i then 1 else 0
  /-- An operation is listed once by its endpoint and not at all by others. -/
  operations : ∀ (e : EndpointId) endpoint, r.endpoints[e]? = some endpoint → ∀ o : OperationId,
    endpoint.operations.count o = if r.operations[o]?.map (·.endpoint) = some e then 1 else 0

theorem map_modify_eq {α β : Type} {f : α → α} {g : α → β} (h : ∀ x, g (f x) = g x) (xs : List α)
    (i : Nat) : (xs.modify i f).map g = xs.map g := by
  refine List.ext_getElem? fun j => ?_
  rw [List.getElem?_map, List.getElem?_map, List.getElem?_modify]
  cases xs[j]? with
  | none => rfl
  | some x => by_cases hij : i = j <;> simp [hij, h]

theorem map_resource_addOperation (r : Registry) (op : Operation) :
    (r.addOperation op).endpoints.map (·.resource) = r.endpoints.map (·.resource) := by
  refine map_modify_eq (fun endpoint => ?_) r.endpoints op.endpoint
  rfl

theorem map_id_addEndpoint (r : Registry) (i : ResourceId) :
    (r.addEndpoint i).resources.map (·.id) = r.resources.map (·.id) := by
  refine map_modify_eq (fun resource => ?_) r.resources i
  rfl

variable {r : Registry}

theorem count_append_singleton {α : Type} {xs : List α} {x : α} {parent : α → Nat} {p : Nat}
    {listed : List Nat}
    (h : ∀ o, listed.count o = if xs[o]?.map parent = some p then 1 else 0) (o : Nat) :
    (if parent x = p then listed ++ [xs.length] else listed).count o =
      if (xs ++ [x])[o]?.map parent = some p then 1 else 0 := by
  have hend : listed.count xs.length = 0 := by simp [h]
  rcases Nat.lt_trichotomy o xs.length with hlt | rfl | hgt
  · have hne : xs.length ≠ o := Nat.ne_of_gt hlt
    rw [List.getElem?_append_left hlt, ← h o]
    by_cases hp : parent x = p <;> simp [hp, List.count_append, hne]
  · by_cases hp : parent x = p <;> simp [hp, List.count_append, hend]
  · have hne : xs.length ≠ o := Nat.ne_of_lt hgt
    have hold := h o
    rw [List.getElem?_eq_none (Nat.le_of_lt hgt)] at hold
    rw [List.getElem?_eq_none (by rw [List.length_append]; exact hgt)]
    by_cases hp : parent x = p <;> simpa [hp, List.count_append, hne] using hold

theorem Consistent.addEndpoint {i : ResourceId} (h : r.Consistent) (hi : i < r.resources.length) :
    (r.addEndpoint i).Consistent where
  typed := h.typed
  owned := h.owned
  declared := by
    intro cls hcls
    rw [Registry.addEndpoint, List.length_modify]
    exact h.declared cls hcls
  placed := by
    intro e he
    rw [Registry.addEndpoint, List.length_modify]
    rcases List.mem_append.1 he with he | he
    · exact h.placed e he
    · rw [List.mem_singleton.1 he]
      exact hi
  answered := by
    intro op hop
    have hop' := h.answered op hop
    rw [Registry.addEndpoint, List.length_append]
    exact Nat.lt_add_right 1 hop'
  endpoints := by
    intro j resource hj e
    rw [Registry.addEndpoint, List.getElem?_modify] at hj
    obtain ⟨old, hold, rfl⟩ := Option.map_eq_some_iff.1 hj
    have hcount := count_append_singleton (x := { resource := i : Endpoint }) (h.endpoints j old hold) e
    rw [Registry.addEndpoint, ← hcount]
    by_cases hij : i = j <;> simp [hij]
  operations := by
    intro e endpoint he o
    rw [Registry.addEndpoint] at he ⊢
    rcases Nat.lt_or_ge e r.endpoints.length with hlt | hge
    · rw [List.getElem?_append_left hlt] at he
      exact h.operations e endpoint he o
    · rw [List.getElem?_append_right hge] at he
      obtain rfl : endpoint = { resource := i } := by
        have hm := List.mem_of_getElem? he
        exact List.mem_singleton.1 hm
      -- The new endpoint lists nothing, and all operations belong to endpoints that were there.
      have hnot : r.operations[o]?.map (·.endpoint) ≠ some e := by
        intro ho
        obtain ⟨op, hop, rfl⟩ := Option.map_eq_some_iff.1 ho
        exact absurd (h.answered op (List.mem_of_getElem? hop)) (Nat.not_lt.2 hge)
      rw [if_neg hnot]
      rfl

theorem mem_types_addOperation {op : Operation} {t : ValueType}
    (h : t ∈ (r.addOperation op).types) : t ∈ r.types ∨ t ∈ op.types := by
  simpa [types, Registry.addOperation, or_assoc] using h

theorem Consistent.addOperation {op : Operation} (h : r.Consistent)
    (hop : op.endpoint < r.endpoints.length)
    (htypes : ∀ t ∈ op.types, ∀ c ∈ t.classes, c < r.classes.length) :
    (r.addOperation op).Consistent where
  typed := by
    intro t ht
    rcases mem_types_addOperation ht with ht | ht
    · exact h.typed t ht
    · exact htypes t ht
  owned := h.owned
  declared := h.declared
  placed := by
    intro e he
    obtain ⟨j, hj⟩ := List.mem_iff_getElem?.1 he
    rw [Registry.addOperation, List.getElem?_modify] at hj
    obtain ⟨old, hold, rfl⟩ := Option.map_eq_some_iff.1 hj
    have hplaced := h.placed old (List.mem_of_getElem? hold)
    by_cases hij : op.endpoint = j <;> simpa [hij, Registry.addOperation] using hplaced
  answered := by
    intro o ho
    rw [Registry.addOperation, List.length_modify]
    rcases List.mem_append.1 ho with ho | ho
    · exact h.answered o ho
    · rw [List.mem_singleton.1 ho]
      exact hop
  endpoints := by
    intro i resource hi e
    rw [← List.getElem?_map, map_resource_addOperation, List.getElem?_map]
    exact h.endpoints i resource hi e
  operations := by
    intro e endpoint he o
    rw [Registry.addOperation, List.getElem?_modify] at he
    obtain ⟨old, hold, rfl⟩ := Option.map_eq_some_iff.1 he
    have hcount := count_append_singleton (x := op) (h.operations e old hold) o
    rw [Registry.addOperation, ← hcount]
    by_cases hoe : op.endpoint = e <;> simp [hoe]

end Registry

end TypedClient
