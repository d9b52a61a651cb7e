import TypedClient.Proofs.Registry.Handles
import TypedClient.Registry.Summary
import TypedClient.Source.TypeExpr

namespace TypedClient

theorem mapM_eq_some {α β : Type} {f : α → Option β} {g : α → β} {xs : List α}
    (h : ∀ x ∈ xs, f x = some (g x)) : xs.mapM f = some (xs.map g) := by
  induction xs with
  | nil => rfl
  | cons x xs ih =>
    have hxs : xs.mapM f = some (xs.map g) := ih fun y hy => h y (List.mem_cons_of_mem x hy)
    rw [List.mapM_cons, h x (by simp), hxs]
    rfl

def ValueType.describe? (className? : ClassId → Option String) : ValueType → Option String
  | scalar s => some s.keyword
  | dynamicMap => some "object"
  | list element => (element.describe? className?).map fun text => "List[" ++ text ++ "]"
  | map key element => do
    let key ← key.describe? className?
    let element ← element.describe? className?
    return "Map[" ++ key ++ ", " ++ element ++ "]"
  | reference c => className? c
  | pointer t => (t.describe? className?).map fun text => "*" ++ text
  | external name => some name

theorem ValueType.describe?_eq {className? : ClassId → Option String} {className : ClassId → String}
    {t : ValueType} (h : ∀ c ∈ t.classes, className? c = some (className c)) :
    t.describe? className? = some (t.describe className) := by
  induction t with
  | list element ih => rw [describe?, ih h, describe, Option.map_some]
  | map key element ihk ihe =>
    have hk := ihk fun c hc => h c (List.mem_append_left element.classes hc)
    have he := ihe fun c hc => h c (List.mem_append_right key.classes hc)
    rw [describe?, hk, he]
    rfl
  | reference c => exact h c (by simp [classes])
  | pointer t ih => rw [describe?, ih h, describe, Option.map_some]
  | _ => rfl

namespace Registry

variable (r : Registry)

def className? (c : ClassId) : Option String := r.classes[c]?.map (·.name)

def needsRegion? (op : Operation) : Option Bool :=
  (r.resourceOf? op).map fun resource => resource.baseUrl.isNone || op.path.hasRegion

def operationLines? (op : Operation) : Option (List String) :=
  (op.resultType.describe? r.className?).map (outlineOf op)

def endpointLines? (e : EndpointId) : Option (List String) := do
  let endpoint ← r.endpoints[e]?
  let lines ← endpoint.operations.mapM fun o => r.operations[o]?.bind r.operationLines?
  return "|+-- Endpoint" :: lines.flatten

def resourceLines? (resource : Resource) : Option (List String) :=
  (resource.endpoints.mapM r.endpointLines?).map fun lines => headingOf resource :: lines.flatten

def classLine? (c : ResponseClass) : Option String :=
  r.resources[c.resource]?.map fun resource => classLineOf c resource.id

def summary? : Option (List String) := do
  let resources ← r.resources.mapM r.resourceLines?
  let classes ← r.classes.mapM r.classLine?
  return resources.flatten ++ classes

variable {r}

theorem className?_eq {c : ClassId} (h : c < r.classes.length) :
    r.className? c = some (r.className c) := by
  rw [className?, className, List.getElem?_eq_getElem h]
  rfl

theorem Consistent.describe?_eq {t : ValueType} (h : r.Consistent) (ht : t ∈ r.types) :
    t.describe? r.className? = some (t.describe r.className) :=
  ValueType.describe?_eq fun c hc => className?_eq (h.typed t ht c hc)

theorem mem_types {op : Operation} {t : ValueType} (hop : op ∈ r.operations) (ht : t ∈ op.types) :
    t ∈ r.types :=
  List.mem_append_right _ (List.mem_flatMap.2 ⟨op, hop, ht⟩)

theorem Consistent.operationLines?_eq {op : Operation} (h : r.Consistent) (hop : op ∈ r.operations) :
    r.operationLines? op = some (r.operationLines op) := by
  have ht : op.resultType ∈ r.types := mem_types hop (by simp [Operation.types])
  rw [operationLines?, h.describe?_eq ht]
  rfl

theorem Consistent.lt_of_mem_endpoints {resource : Resource} {e : EndpointId} (h : r.Consistent)
    (hr : resource ∈ r.resources) (he : e ∈ resource.endpoints) : e < r.endpoints.length := by
  obtain ⟨i, hi⟩ := List.mem_iff_getElem?.1 hr
  have hpos := List.count_pos_iff.2 he
  rw [h.endpoints i resource hi e] at hpos
  by_contra hge
  rw [List.getElem?_eq_none (Nat.not_lt.1 hge)] at hpos
  simp at hpos

theorem Consistent.lt_of_mem_operations {endpoint : Endpoint} {o : OperationId} (h : r.Consistent)
    (he : endpoint ∈ r.endpoints) (ho : o ∈ endpoint.operations) : o < r.operations.length := by
  obtain ⟨e, he⟩ := List.mem_iff_getElem?.1 he
  have hpos := List.count_pos_iff.2 ho
  rw [h.operations e endpoint he o] at hpos
  by_contra hge
  rw [List.getElem?_eq_none (Nat.not_lt.1 hge)] at hpos
  simp at hpos

theorem Consistent.endpointLines?_eq {e : EndpointId} (h : r.Consistent)
    (he : e < r.endpoints.length) : r.endpointLines? e =
      some ("|+-- Endpoint" :: (r.operationsOf e).flatMap r.operationLines) := by
  have hget := List.getElem?_eq_getElem he
  have hops : r.operationsOf e =
      r.endpoints[e].operations.filterMap fun o => r.operations[o]? := by
    rw [operationsOf, hget]
    rfl
  have hlines : r.endpoints[e].operations.mapM (fun o => r.operations[o]?.bind r.operationLines?) =
      some (r.endpoints[e].operations.map fun o => (r.operations[o]?.elim [] r.operationLines)) := by
    refine mapM_eq_some fun o ho => ?_
    have hlt := h.lt_of_mem_operations (List.getElem_mem he) ho
    rw [List.getElem?_eq_getElem hlt]
    exact h.operationLines?_eq (List.getElem_mem hlt)
  have hflat : ∀ os : List OperationId, (os.map fun o =>
      (r.operations[o]?.elim [] r.operationLines)).flatten =
      (os.filterMap fun o => r.operations[o]?).flatMap r.operationLines := by
    intro os
    induction os with
    | nil => rfl
    | cons o os ih =>
      rw [List.map_cons, List.flatten_cons, ih, List.filterMap_cons]
      cases r.operations[o]? <;> rfl
  rw [endpointLines?, hget, hops, ← hflat]
  simp only [Option.bind_eq_bind, Option.bind_some, hlines]
  rfl

theorem Consistent.resourceLines?_eq {resource : Resource} (h : r.Consistent)
    (hr : resource ∈ r.resources) :
    r.resourceLines? resource = some (r.resourceLines resource) := by
  have hlines := mapM_eq_some fun e he => h.endpointLines?_eq (h.lt_of_mem_endpoints hr he)
  rw [resourceLines?, hlines, Option.map_some, resourceLines, ← List.flatMap_def]

theorem Consistent.classLine?_eq {c : ResponseClass} (h : r.Consistent) (hc : c ∈ r.classes) :
    r.classLine? c = some (r.classLine c) := by
  have hget := List.getElem?_eq_getElem (h.declared c hc)
  rw [classLine?, classLine, resourceName, hget]
  rfl

theorem Consistent.summary?_eq (h : r.Consistent) : r.summary? = some r.summary := by
  have hresources := mapM_eq_some fun resource hr => h.resourceLines?_eq hr
  have hclasses := mapM_eq_some fun c hc => h.classLine?_eq hc
  rw [summary?, hresources, hclasses, summary, List.flatMap_def]
  rfl

theorem Consistent.resourceOf?_isSome {op : Operation} (h : r.Consistent) (hop : op ∈ r.operations) :
    (r.resourceOf? op).isSome := by
  have he := h.answered op hop
  have hr := h.placed r.endpoints[op.endpoint] (List.getElem_mem he)
  rw [resourceOf?, List.getElem?_eq_getElem he, Option.bind_some, List.getElem?_eq_getElem hr]
  rfl

theorem Consistent.needsRegion?_eq {op : Operation} (h : r.Consistent) (hop : op ∈ r.operations) :
    r.needsRegion? op = some (r.needsRegion op) := by
  obtain ⟨resource, hresource⟩ := Option.isSome_iff_exists.1 (h.resourceOf?_isSome hop)
  rw [needsRegion?, needsRegion, hresource]
  rfl

end Registry

namespace Source

variable (r : Registry)

def unhashableKey (text : String) : Except Failure TypeExpr :=
  .error (.generation (.unhashableKey text))

def keyExpr? (t : ValueType) : Option (Except Failure TypeExpr) :=
  match t with
  | .scalar s =>
    if s.canBeKey then some (.ok (.path (scalarName s)))
    else (t.describe? r.className?).map unhashableKey
  | _ => (t.describe? r.className?).map unhashableKey

def typeExpr? : ValueType → Option (Except Failure TypeExpr)
  | .scalar s => some (.ok (.path (scalarName s)))
  | .dynamicMap => some (.ok (.map (.path "String") (.path "rt::serde_json::Value")))
  | .list element => (typeExpr? element).map fun x => x.map .list
  | .map key element => do
    match ← keyExpr? r key with
    | .error f => return .error f
    | .ok k => (typeExpr? element).map fun x => x.map (.map k)
  | .reference c => (r.className? c).map fun name => .ok (.path name)
  | .pointer t => typeExpr? t
  | .external name => some (.ok (.path ("rt::" ++ name)))

variable {r}

theorem keyExpr?_eq {t : ValueType} (h : ∀ c ∈ t.classes, c < r.classes.length) :
    keyExpr? r t = some (keyExpr r t) := by
  have ht : t.describe? r.className? = some (t.describe r.className) :=
    ValueType.describe?_eq fun c hc => Registry.className?_eq (h c hc)
  cases t with
  | scalar s =>
    by_cases hs : s.canBeKey = true
    · rw [keyExpr?, keyExpr, if_pos hs, if_pos hs]
    · rw [keyExpr?, keyExpr, if_neg hs, if_neg hs, ht, Option.map_some, unhashableKey]
  | _ => exact congrArg (Option.map unhashableKey) ht

theorem typeExpr?_eq {t : ValueType} (h : ∀ c ∈ t.classes, c < r.classes.length) :
    typeExpr? r t = some (typeExpr r t) := by
  induction t with
  | list element ih =>
    rw [typeExpr?, ih h, typeExpr, Option.map_some]
    cases typeExpr r element <;> rfl
  | map key element _ ih =>
    have hk := keyExpr?_eq fun c hc => h c (List.mem_append_left element.classes hc)
    have he := ih fun c hc => h c (List.mem_append_right key.classes hc)
    rw [typeExpr?, hk, he, typeExpr]
    cases keyExpr r key with
    | error f => rfl
    | ok k => cases typeExpr r element <;> rfl
  | reference c =>
    rw [typeExpr?, Registry.className?_eq (h c (by simp [ValueType.classes]))]
    rfl
  | pointer t ih => rw [typeExpr?, ih h, typeExpr]
  | _ => rfl

end Source

end TypedClient
