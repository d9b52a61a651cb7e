import TypedClient.Proofs.Document.Relabel
import TypedClient.Proofs.Extraction.Members
import TypedClient.Proofs.Outcome
import TypedClient.Proofs.TypeGrammar

namespace TypedClient

namespace ValueType

variable (σ : ClassId → ClassId)

def rename : ValueType → ValueType
  | scalar s => scalar s
  | dynamicMap => dynamicMap
  | list element => list element.rename
  | map key element => map key.rename element.rename
  | reference c => reference (σ c)
  | pointer t => pointer t.rename
  | external name => external name

theorem rename_eq_scalar_iff {t : ValueType} {s : Scalar} :
    t.rename σ = scalar s ↔ t = scalar s := by
  cases t <;> simp [rename]

theorem isMap_rename (t : ValueType) : (t.rename σ).isMap = t.isMap := by
  cases t <;> rfl

end ValueType

def Parameter.rename (σ : ClassId → ClassId) (p : Parameter) : Parameter :=
  { p with type := p.type.rename σ }

def Operation.rename (σ : ClassId → ClassId) (op : Operation) : Operation :=
  { op with
    path := ⟨op.path.template, op.path.parameters.map (·.rename σ)⟩
    query := op.query.map (·.rename σ)
    returnType := op.returnType.rename σ }

def Field.rename (σ : ClassId → ClassId) (f : Field) : Field :=
  { f with owner := σ f.owner, type := f.type.rename σ }

def ResponseClass.rename (σ : ClassId → ClassId) (c : ResponseClass) : ResponseClass :=
  { c with fields := c.fields.map (·.rename σ) }

/-- A registry with its classes at other positions. -/
structure Registry.Renames (σ : ClassId → ClassId) (r r' : Registry) : Prop where
  regions : r'.regions = r.regions
  resources : r'.resources = r.resources
  endpoints : r'.endpoints = r.endpoints
  operations : r'.operations = r.operations.map (·.rename σ)
  classes : ∀ c : ClassId, r'.classes[σ c]? = r.classes[c]?.map (·.rename σ)

/-- A table of classes with other positions. -/
def renamed (σ : ClassId → ClassId) (types : String → Option ClassId) (name : String) :
    Option ClassId := (types name).map σ

variable {σ : ClassId → ClassId} {config : Config} {types : String → Option ClassId}

namespace Registry

variable {r r' : Registry}

theorem Renames.addEndpoint (h : Renames σ r r') (i : ResourceId) :
    Renames σ (r.addEndpoint i) (r'.addEndpoint i) where
  regions := h.regions
  resources := by simp [Registry.addEndpoint, h.resources, h.endpoints]
  endpoints := by simp [Registry.addEndpoint, h.endpoints]
  operations := h.operations
  classes := h.classes

theorem Renames.addOperation (h : Renames σ r r') (op : Operation) :
    Renames σ (r.addOperation op) (r'.addOperation (op.rename σ)) where
  regions := h.regions
  resources := h.resources
  endpoints := by simp [Registry.addOperation, h.endpoints, h.operations, Operation.rename]
  operations := by simp [Registry.addOperation, h.operations]
  classes := h.classes

end Registry

namespace TypeText

theorem denotes_rename {resource : String} {text : List Char} {t : ValueType}
    (h : Denotes config types resource text t) :
    Denotes config (renamed σ types) resource text (t.rename σ) := by
  induction h with
  | scalar h => exact .scalar h
  | dynamicMap h => exact .dynamicMap h
  | list hc h _ ih => exact .list hc h ih
  | map h _ _ ihk ihe => exact .map h ihk ihe
  | name hn hb hs ho hc => exact .name hn hb hs ho (by rw [renamed, hc, Option.map_some])

theorem resolve_rename {resource : String} {text : List Char} {t : ValueType}
    (h : resolve config types resource text = .ok t) :
    resolve config (renamed σ types) resource text = .ok (t.rename σ) := by
  have hfits := fits_resolve config types resource text
  rw [h] at hfits
  exact resolve_of_denotes (denotes_rename hfits)

end TypeText

namespace Corrections

theorem rename_of_fieldType? {rawClass rawField : String} {t : ValueType}
    (h : fieldType? rawClass rawField = some t) : t.rename σ = t := by
  unfold fieldType? at h
  split at h
  · split at h <;> cases h <;> rfl
  · cases h

theorem rename_mendIdWidth (resource rawClass rawField : String) (t : ValueType) :
    (mendIdWidth config resource rawClass rawField t).rename σ =
      mendIdWidth config resource rawClass rawField (t.rename σ) := by
  unfold mendIdWidth
  simp only [ValueType.rename_eq_scalar_iff]
  split <;> rfl

theorem rename_parameterType (name : String) (t : ValueType) :
    (parameterType name t).rename σ = parameterType name (t.rename σ) := by
  unfold parameterType
  simp only [ValueType.rename_eq_scalar_iff]
  split
  · split <;> rfl
  · rfl

end Corrections

namespace Extraction

open Node

theorem forall₂_of_map_eq {α β : Type} {f : α → β} {xs ys : List α} (h : xs.map f = ys.map f) :
    List.Forall₂ (fun x y => f x = f y) xs ys := by
  rwa [← List.forall₂_map_left_iff (f := f) (R := fun b y => b = f y),
    ← List.forall₂_map_right_iff (f := f) (R := Eq), List.forall₂_eq_eq_eq]

theorem cells_bare (row : Document) :
    cells row = (row.bare.childrenOfKind "cell").map (·.flatText) := by
  rw [childrenOfKind_bare, List.map_map, cells]
  exact List.map_congr_left fun c _ => (flatText_bare c).symm

theorem map_bare_tableRows (n : Document) : (tableRows n).map bare =
    (n.bare.childOfKind? "table").elim [] (·.childrenOfKind "row") := by
  rw [childOfKind?_bare, tableRows]
  cases n.childOfKind? "table" with
  | none => rfl
  | some table => exact (childrenOfKind_bare table "row").symm

theorem timeMethod?_rename (f : Field) : timeMethod? (f.rename σ) = timeMethod? f := by
  unfold timeMethod?
  simp only [Field.rename, ValueType.rename_eq_scalar_iff]

/-- The same class at another position, read from a tree with other numbers. -/
structure SameClass (σ : ClassId → ClassId) (c c' : PendingClass) : Prop where
  id : c'.id = σ c.id
  resource : c'.resource = c.resource
  rawName : c'.rawName = c.rawName
  body : c'.body.bare = c.body.bare

variable {c c' : PendingClass}

theorem fieldType_rename (hc : SameClass σ c c') {rawName typeText : String} {t : ValueType}
    (h : fieldType config types c rawName typeText = .ok t) :
    fieldType config (renamed σ types) c' rawName typeText = .ok (t.rename σ) := by
  unfold fieldType at h ⊢
  rw [hc.rawName, hc.resource]
  cases hfixed : Corrections.fieldType? c.rawName rawName with
  | some fixed =>
    rw [hfixed] at h
    cases h
    rw [Corrections.rename_of_fieldType? hfixed]
  | none =>
    rw [hfixed] at h
    obtain ⟨read, hread, rfl⟩ := Outcome.map_eq_ok.1 h
    rw [TypeText.resolve_rename hread, Corrections.rename_mendIdWidth]
    rfl

theorem readField_rename (hc : SameClass σ c c') {row row' : Document} (hrow : row.bare = row'.bare)
    {f : Option Field} (h : readField config types c row = .ok f) :
    readField config (renamed σ types) c' row' = .ok (f.map (·.rename σ)) := by
  have hcells : cells row' = cells row := by rw [cells_bare, cells_bare, hrow]
  unfold readField at h ⊢
  rw [hcells, hc.resource, hc.rawName]
  generalize cells row = cs at h ⊢
  rcases cs with _ | ⟨rawName, _ | ⟨typeText, more⟩⟩
  · cases h
  · cases h
  · dsimp only at h ⊢
    cases hname : Naming.fieldName? config c.resource c.rawName rawName with
    | none =>
      rw [hname] at h
      cases h
      rfl
    | some name =>
      rw [hname] at h
      obtain ⟨t, ht, rfl⟩ := Outcome.map_eq_ok.1 h
      rw [fieldType_rename hc ht, hc.id]
      rfl

theorem readFields_rename (hc : SameClass σ c c') {fields : List Field}
    (h : readFields config types c = .ok fields) :
    readFields config (renamed σ types) c' = .ok (fields.map (·.rename σ)) := by
  obtain ⟨read, hread, rfl⟩ := Outcome.map_eq_ok.1 h
  have hrows : List.Forall₂ (fun row row' => row.bare = row'.bare) (tableRows c.body)
      (tableRows c'.body) :=
    forall₂_of_map_eq (by rw [map_bare_tableRows, map_bare_tableRows, hc.body])
  have hstep : ∀ row row' : Document, row.bare = row'.bare → ∀ f,
      readField config types c row = .ok f →
      readField config (renamed σ types) c' row' = .ok (f.map (·.rename σ)) :=
    fun _ _ hrow _ hf => readField_rename hc hrow hf
  rw [readFields, Outcome.mapM_follows hstep hrows hread]
  have hsome : ∀ fs : List (Option Field), (fs.map (Option.map (·.rename σ))).filterMap id =
      (fs.filterMap id).map (·.rename σ) := by
    intro fs
    rw [List.filterMap_map, List.map_filterMap]
    rfl
  rw [← hsome]
  rfl

theorem withMembers_rename {cls : ResponseClass} {fields : List Field} :
    withMembers cls (fields.map (·.rename σ)) = (withMembers cls fields).rename σ := by
  have hmethods : (fields.map (·.rename σ)).filterMap timeMethod? = fields.filterMap timeMethod? := by
    rw [List.filterMap_map]
    congr 1
    funext f
    exact timeMethod?_rename f
  rw [withMembers, hmethods]
  rfl

end Extraction

end TypedClient
