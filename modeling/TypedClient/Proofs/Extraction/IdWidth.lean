import TypedClient.Proofs.Extraction.Origins
import TypedClient.Proofs.Extraction.Settings
import TypedClient.Proofs.Lockstep

namespace TypedClient

open Extraction (timeMethod? withMembers)

/-- Whether a field of a class is an id that is documented too wide. -/
def Field.isTooWide (resource rawClass : String) (f : Field) : Bool :=
  f.type = .scalar .int64 && Corrections.isNarrowId resource rawClass f.rawName

/-- The field with its width mended if it is such an id. -/
def Field.mended (resource rawClass : String) (f : Field) : Field :=
  if f.isTooWide resource rawClass then { f with type := .scalar .int32 } else f

def ResponseClass.mended (resource : String) (c : ResponseClass) : ResponseClass :=
  withMembers c (c.fields.map (·.mended resource c.rawName))

/-- The registry with the widths of its ids mended. -/
def Registry.mended (r : Registry) : Registry :=
  { r with classes := r.classes.map fun c => c.mended (r.resourceName c.resource) }

/-- Two classes of a resource that differ in the width of ids, and in the methods that mended ids do not
give. -/
structure ResponseClass.MendedTo (resource : String) (c c' : ResponseClass) : Prop where
  rest : c' = { c with fields := c'.fields, methods := c'.methods }
  fields : c'.fields = c.fields.map (·.mended resource c.rawName)
  methods : c.methods = c.fields.filterMap timeMethod?
  methods' : c'.methods = (c.fields.filter (!·.isTooWide resource c.rawName)).filterMap timeMethod?

/-- Two registries whose classes differ in the width of ids, and which are the same in all else. -/
structure Registry.MendedTo (r r' : Registry) : Prop where
  rest : r' = { r with classes := r'.classes }
  classes : List.Forall₂ (fun c c' => c.MendedTo (r.resourceName c.resource) c') r.classes r'.classes

/-- The configuration with one way or the other with the width of ids. -/
def Config.keepingIds (config : Config) (keep : Bool) : Config := { config with keepIdWidth := keep }

variable {config : Config}

theorem Config.keepingIds_eq {keep : Bool} :
    config.keepingIds keep = config.withSettings config.runtimePath keep := rfl

theorem Registry.resourceName_eq (r : Registry) (i : ResourceId) :
    r.resourceName i = ((r.resources.map (·.id))[i]?).getD "" := by
  rw [resourceName, List.getElem?_map]
  cases r.resources[i]? <;> rfl

section Members

variable {resource rawClass : String}

theorem Field.mended_eq (config : Config) (f : Field) : f.mended resource rawClass =
    { f with type := Corrections.mendIdWidth (config.keepingIds false) resource rawClass f.rawName f.type } := by
  have hcondition : (!(config.keepingIds false).keepIdWidth && decide (f.type = .scalar .int64) &&
      Corrections.isNarrowId resource rawClass f.rawName) = f.isTooWide resource rawClass := rfl
  unfold mended Corrections.mendIdWidth
  rw [hcondition]
  split
  · rfl
  · rfl

theorem timeMethod?_mended (f : Field) : timeMethod? (f.mended resource rawClass) =
    if f.isTooWide resource rawClass then none else timeMethod? f := by
  unfold Field.mended
  split
  · rfl
  · rfl

theorem filterMap_mended (fs : List Field) :
    (fs.map (·.mended resource rawClass)).filterMap timeMethod? =
      (fs.filter (!·.isTooWide resource rawClass)).filterMap timeMethod? := by
  induction fs with
  | nil => rfl
  | cons f fs ih =>
    rw [List.map_cons, List.filterMap_cons, ih, timeMethod?_mended]
    by_cases h : f.isTooWide resource rawClass
    · rw [if_pos h, List.filter_cons_of_neg (by simp [h])]
    · rw [if_neg h, List.filter_cons_of_pos (by simp [h]), List.filterMap_cons]

theorem ResponseClass.mendedTo_mended {c : ResponseClass} (h : c.methods = c.fields.filterMap timeMethod?) :
    c.MendedTo resource (c.mended resource) where
  rest := rfl
  fields := rfl
  methods := h
  methods' := filterMap_mended c.fields

end Members

namespace Extraction

/-- No field is known to have a wide id for its true type. -/
theorem mendIdWidth_fieldType? {config : Config} {resource rawClass rawField : String} {t : ValueType}
    (h : Corrections.fieldType? rawClass rawField = some t) :
    Corrections.mendIdWidth config resource rawClass rawField t = t := by
  have hne : t ≠ .scalar .int64 := by
    rintro rfl
    unfold Corrections.fieldType? at h
    split at h
    · split at h <;> cases h
    · cases h
  unfold Corrections.mendIdWidth
  rw [if_neg (by simp [hne])]

variable {types : String → Option ClassId}

theorem fieldType_keepingIds (c : PendingClass) (rawName typeText : String) :
    fieldType (config.keepingIds false) types c rawName typeText =
      (fieldType (config.keepingIds true) types c rawName typeText).map
        (Corrections.mendIdWidth (config.keepingIds false) c.resource c.rawName rawName) := by
  unfold fieldType
  cases hfixed : Corrections.fieldType? c.rawName rawName with
  | some t => exact congrArg Except.ok (mendIdWidth_fieldType? hfixed).symm
  | none =>
    dsimp only
    rw [Config.keepingIds_eq, Config.keepingIds_eq, TypeText.resolve_withSettings,
      TypeText.resolve_withSettings]
    cases TypeText.resolve config types c.resource typeText.toList <;> rfl

theorem readField_keepingIds (c : PendingClass) (row : Document) :
    readField (config.keepingIds false) types c row =
      (readField (config.keepingIds true) types c row).map
        (Option.map (·.mended c.resource c.rawName)) := by
  unfold readField
  split
  · rename_i rawName typeText more hcells
    have hname : ∀ keep, Naming.fieldName? (config.keepingIds keep) c.resource c.rawName rawName =
        Naming.fieldName? config c.resource c.rawName rawName := fun _ => rfl
    rw [hname, hname]
    cases Naming.fieldName? config c.resource c.rawName rawName with
    | none => rfl
    | some name =>
      dsimp only
      rw [fieldType_keepingIds]
      cases fieldType (config.keepingIds true) types c rawName typeText with
      | error f => rfl
      | ok t =>
        simp only [Except.map, Option.map_some, Field.mended_eq config]
  · rfl

theorem readFields_keepingIds (c : PendingClass) :
    readFields (config.keepingIds false) types c =
      (readFields (config.keepingIds true) types c).map (List.map (·.mended c.resource c.rawName)) := by
  unfold readFields
  rw [funext (readField_keepingIds c), Outcome.mapM_map]
  cases (tableRows c.body).mapM (readField (config.keepingIds true) types c) with
  | error f => rfl
  | ok read => simp [Except.map, List.map_filterMap, List.filterMap_map]

/-- Whether a class stands in a registry as it was declared. -/
def PendingClass.StandsIn (c : PendingClass) (r : Registry) : Prop :=
  (r.classes.map r.identity)[c.id]? = some ⟨c.resource, c.rawName⟩

theorem PendingClass.StandsIn.setMembers {c : PendingClass} {r : Registry} (h : c.StandsIn r) (i : ClassId)
    (fields : List Field) (methods : List TimeMethod) : c.StandsIn (r.setMembers i fields methods) := by
  have hsame : (r.setMembers i fields methods).classes.map r.identity = r.classes.map r.identity := by
    refine Registry.map_modify_eq (fun cls => ?_) r.classes i
    rfl
  exact (congrArg (·[c.id]?) hsame).trans h

theorem mended_setMembers {c : PendingClass} {r : Registry} (h : c.StandsIn r) (fields : List Field) :
    (r.setMembers c.id fields (fields.filterMap timeMethod?)).mended =
      r.mended.setMembers c.id (fields.map (·.mended c.resource c.rawName))
        ((fields.map (·.mended c.resource c.rawName)).filterMap timeMethod?) := by
  have hclasses : (r.setMembers c.id fields (fields.filterMap timeMethod?)).mended.classes =
      (r.mended.setMembers c.id (fields.map (·.mended c.resource c.rawName))
        ((fields.map (·.mended c.resource c.rawName)).filterMap timeMethod?)).classes := by
    refine List.ext_getElem? fun i => ?_
    simp only [Registry.mended, Registry.setMembers, List.getElem?_map, List.getElem?_modify]
    cases hi : r.classes[i]? with
    | none => rfl
    | some cls =>
      by_cases hci : c.id = i
      · -- The class that gets its members is the one that the pending class names.
        subst hci
        rw [PendingClass.StandsIn, List.getElem?_map, hi, Option.map_some, Option.some.injEq,
          Registry.identity, ClassIdentity.mk.injEq] at h
        obtain ⟨hresource, hraw⟩ := h
        simp only [Option.map_some, if_true, ResponseClass.mended, ← hresource, ← hraw]
        rfl
      · simp only [Option.map_some, if_neg hci]
        rfl
  exact congrArg (fun classes => { r with classes }) hclasses

theorem readMembers_keepingIds {c : PendingClass} {r : Registry} (h : c.StandsIn r) :
    readMembers (config.keepingIds false) types r.mended c =
      (readMembers (config.keepingIds true) types r c).map Registry.mended := by
  unfold readMembers
  rw [readFields_keepingIds]
  cases readFields (config.keepingIds true) types c with
  | error f => rfl
  | ok fields => exact congrArg Except.ok (mended_setMembers h fields).symm

theorem standsIn_firstPass {entries : List ResourceEntry} :
    ∀ c ∈ (firstPass config entries).2, c.StandsIn (firstPass config entries).1 := by
  intro c hc
  obtain ⟨i, hi⟩ := List.mem_iff_getElem?.1 hc
  obtain ⟨d, hd, rfl⟩ : ∃ d, (firstDeclarations entries)[i]? = some d ∧ d.toPending i = c := by
    simpa [firstPass, registered] using hi
  have howned := owned_declarations (mem_of_mem_firstsBy (List.mem_of_getElem? hd))
  have hclass : (firstPass config entries).1.classes[(d.toPending i).id]? = some (d.toClass config) := by
    simp [firstPass, registered, Declaration.toPending, hd]
  rw [PendingClass.StandsIn, List.getElem?_map, hclass, Option.map_some]
  exact congrArg some (identity_registered howned)

/-- Classes have nothing to mend before their fields are read. -/
theorem mended_firstPass (entries : List ResourceEntry) :
    (firstPass config entries).1.mended = (firstPass config entries).1 := by
  have hclasses : (firstPass config entries).1.mended.classes = (firstPass config entries).1.classes := by
    simp [Registry.mended, firstPass, registered, ResponseClass.mended, withMembers, Declaration.toClass]
  exact congrArg (fun classes => { (firstPass config entries).1 with classes }) hclasses

theorem readAll_keepingIds {entries : List ResourceEntry} :
    (firstPass config entries).2.foldlM (readMembers (config.keepingIds false) types)
        (firstPass config entries).1 =
      ((firstPass config entries).2.foldlM (readMembers (config.keepingIds true) types)
        (firstPass config entries).1).map Registry.mended := by
  have hcommutes := Outcome.foldlM_commutes (g := readMembers (config.keepingIds false) types)
    (f := readMembers (config.keepingIds true) types) (ρ := Registry.mended)
    (fun r => ∀ c ∈ (firstPass config entries).2, c.StandsIn r) (fun c hc r r' hr h => ?_)
    (fun c hc r hr => readMembers_keepingIds (hr c hc)) standsIn_firstPass
  · rwa [mended_firstPass] at hcommutes
  · obtain ⟨fields, -, rfl⟩ := readMembers_eq_ok.1 h
    exact fun d hd => (hr d hd).setMembers c.id fields _

section Operations

variable {r : Registry}

theorem mended_addEndpoint (i : ResourceId) : (r.addEndpoint i).mended = r.mended.addEndpoint i := by
  have hname : (r.addEndpoint i).resourceName = r.resourceName := by
    funext j
    rw [Registry.resourceName_eq, r.map_id_addEndpoint, ← Registry.resourceName_eq]
  simp only [Registry.mended, hname]
  rfl

theorem addOperation_mended (op : Operation) :
    addOperation r.mended op = (addOperation r op).map Registry.mended := by
  unfold addOperation
  have hops : r.mended.operations = r.operations := rfl
  rw [hops]
  cases r.operations.find? (·.name = op.name) <;> rfl

theorem addEndpoint_mended (resource : String) (owner : ResourceId) (n : Document) :
    addEndpoint config types resource owner r.mended n =
      (addEndpoint config types resource owner r n).map Registry.mended := by
  unfold addEndpoint
  rw [← mended_addEndpoint]
  refine Outcome.foldlM_commutes (fun _ => True) (fun _ _ _ _ _ _ => trivial) (fun child _ s _ => ?_) trivial
  have hlength : r.mended.endpoints.length = r.endpoints.length := rfl
  rw [hlength]
  cases readOperation config types resource r.endpoints.length child with
  | error f => rfl
  | ok op => exact addOperation_mended op

theorem addEndpoints_mended (entry : ResourceEntry × ResourceId) :
    addEndpoints config types r.mended entry =
      (addEndpoints config types r entry).map Registry.mended :=
  Outcome.foldlM_commutes (fun _ => True) (fun _ _ _ _ _ _ => trivial)
    (fun n _ _ _ => addEndpoint_mended entry.1.id entry.2 n) trivial

end Operations

end Extraction

open Extraction

theorem mended_extract (config : Config) (doc : Document) :
    extract (config.keepingIds false) doc = (extract (config.keepingIds true) doc).map Registry.mended := by
  unfold extract
  have hresources : ∀ keep, resources (config.keepingIds keep) doc = resources config doc :=
    fun _ => resources_withSettings doc
  have hdeclare : ∀ keep, declareAll (config.keepingIds keep) = declareAll config :=
    fun _ => declareAll_withSettings
  have hendpoints : ∀ keep types, addEndpoints (config.keepingIds keep) types = addEndpoints config types :=
    fun _ _ => addEndpoints_withSettings _
  simp only [hresources, hdeclare, hendpoints]
  cases hentries : resources config doc with
  | error f => rfl
  | ok entries =>
    simp only [Outcome.ok_bind]
    cases hdeclared : declareAll config entries with
    | error f => rfl
    | ok state =>
      obtain ⟨-, -, rfl⟩ := (declareAll_eq_ok config (nodup_resources hentries)).1 hdeclared
      simp only [Outcome.ok_bind, readAll_keepingIds]
      cases (firstPass config entries).2.foldlM
        (readMembers (config.keepingIds true) (firstPass config entries).1.classNamed?)
        (firstPass config entries).1 with
      | error f => rfl
      | ok r =>
        exact Outcome.foldlM_commutes (fun _ => True) (fun _ _ _ _ _ _ => trivial)
          (fun entry _ _ _ => addEndpoints_mended entry) trivial

/-- Whether ids keep their documented width decides nothing but the widths of ids, and the methods of those
that are mended. With either setting, an extraction succeeds or fails in the same way. -/
theorem extract_keepingIds (config : Config) (doc : Document) :
    Lockstep Eq Registry.MendedTo (extract (config.keepingIds true) doc)
      (extract (config.keepingIds false) doc) := by
  refine (Lockstep.of_map (mended_extract config doc)).mono ?_
  rintro r r' ⟨rfl, hr⟩
  refine ⟨rfl, List.forall₂_map_right_iff.2 (List.forall₂_same.2 fun c hc => ?_)⟩
  obtain ⟨pending, -, hmethods⟩ := exists_readFields hr hc
  exact ResponseClass.mendedTo_mended hmethods

open RawNode in
/-- A class with a wide id and a number of another kind, both described as points in time. -/
def wideId : RawNode :=
  branch "document" [] [resource "resource_1" "champion-v1.2" [operation "/champion" [responseClasses [
    returnValue "ChampionDto", responseBody "ChampionDto" [
      ["championId", "long", "Epoch milliseconds."], ["created", "long", "Epoch milliseconds."]]]]]]

/-- The types of the fields of each class, and the fields that its methods read. -/
def membersOf (keep : Bool) : Option (List (List ValueType × List String)) :=
  (extract (({} : Config).keepingIds keep) wideId.number).toOption.map fun r =>
    r.classes.map fun c => (c.fields.map (·.type), c.methods.map (·.field))

example : membersOf true = some [([.scalar .int64, .scalar .int64], ["ChampionID", "Created"])] := by
  decide +kernel

example : membersOf false = some [([.scalar .int32, .scalar .int64], ["Created"])] := by
  decide +kernel

end TypedClient
