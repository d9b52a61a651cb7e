import Mathlib.Data.List.Nodup
import Mathlib.Data.Nat.SuccPred
import TypedClient.Proofs.Registry.Calls
import TypedClient.Proofs.Registry.Declare
import TypedClient.Proofs.Registry.Listed

namespace TypedClient.Registry

@[simp] def Gives (log : Log) : Handle → Prop
  | .resource i => i < (addedResources log).length
  | .endpoint e => e < (addedOwners log).length
  | .operation o => o < (addedOperations log).length
  | .ofClass c => c < (addedClasses log).length

/-- The handles of all that was added, each given out once. -/
structure Issued (log : Log) : Prop where
  mem_iff : ∀ h, h ∈ handles log ↔ Gives log h
  nodup : (handles log).Nodup

/-- Whether an answer belongs to what was added. -/
def Answered (log : Log) : Call × Answer → Prop
  | (.resource x, .added (.resource i)) => (addedResources log)[i]? = some x
  | (.endpoint owner, .added (.endpoint e)) => (addedOwners log)[e]? = some owner
  | (.operation op, .added (.operation o)) => (addedOperations log)[o]? = some op
  | (.declare cls, .added (.ofClass c)) => (addedClasses log)[c]? = some cls
  | (.declare cls, .known c) => ∃ old, (addedClasses log)[c]? = some old ∧
      old.name = cls.name ∧ old.resource = cls.resource ∧ old.rawName = cls.rawName
  | (.declare _, .refused _) => True
  | (.members _ _ _, .done) => True
  | _ => False

/-- The handle of an answer leads to what was added, together with the children that it was given. That of a
known class was given out before. -/
def Holds (log : Log) (r : Registry) : Call × Answer → Prop
  | (.resource x, .added (.resource i)) =>
      r.resources[i]? = some { x with endpoints := (addedOwners log).findIdxs (· = i) }
  | (.endpoint owner, .added (.endpoint e)) =>
      r.endpoints[e]? = some ⟨owner, (addedOperations log).findIdxs (·.endpoint = e)⟩
  | (.operation op, .added (.operation o)) => r.operations[o]? = some op
  | (.declare cls, .added (.ofClass c)) => r.classes[c]? = some
      { cls with fields := (lastMembers log c).1, methods := (lastMembers log c).2 }
  | (.declare cls, .known c) => .ofClass c ∈ handles log ∧ ∃ old, r.classes[c]? = some old ∧
      old.name = cls.name ∧ old.resource = cls.resource ∧ old.rawName = cls.rawName
  | (.declare _, .refused _) => True
  | (.members _ _ _, .done) => True
  | _ => False

/-- The registry holds what was added, in the order in which it was added. -/
structure Recorded (log : Log) (r : Registry) : Prop where
  resources : r.resources.map (·.childless) = addedResources log
  owners : r.endpoints.map (·.resource) = addedOwners log
  operations : r.operations = addedOperations log
  classes : r.classes = (addedClasses log).mapIdx fun c cls =>
    { cls with fields := (lastMembers log c).1, methods := (lastMembers log c).2 }
  names : (r.classes.map (·.name)).Nodup
  table : nameTable log = r.classNamed?
  issued : Issued log
  answered : ∀ a ∈ log, Answered log a

variable {regions : List Region} {log : Log} {r : Registry}

theorem getElem?_append_of_eq_some {α : Type} {xs : List α} {i : Nat} {x : α} (h : xs[i]? = some x)
    (ys : List α) : (xs ++ ys)[i]? = some x := by
  obtain ⟨hi, -⟩ := List.getElem?_eq_some_iff.1 h
  rw [List.getElem?_append_left hi, h]

theorem Answered.concat {a : Call × Answer} (h : Answered log a) (b : Call × Answer) :
    Answered (log ++ [b]) a := by
  unfold Answered at h ⊢
  split at h
  · simpa using getElem?_append_of_eq_some h _
  · simpa using getElem?_append_of_eq_some h _
  · simpa using getElem?_append_of_eq_some h _
  · simpa using getElem?_append_of_eq_some h _
  · obtain ⟨old, hold, hsame⟩ := h
    exact ⟨old, by simpa using getElem?_append_of_eq_some hold _, hsame⟩
  · trivial
  · trivial
  · exact h.elim

theorem Issued.concat {a : Call × Answer} {new : Handle} (h : Issued log) (ha : handle? a = some new)
    (hnew : ¬ Gives log new) (hgives : ∀ old, Gives (log ++ [a]) old ↔ Gives log old ∨ old = new) :
    Issued (log ++ [a]) where
  mem_iff old := by
    rw [handles_concat, ha, List.mem_append, h.mem_iff, hgives, Option.toList_some, List.mem_singleton]
  nodup := by
    rw [handles_concat, ha, Option.toList_some, List.nodup_append_comm, List.singleton_append,
      List.nodup_cons, h.mem_iff]
    exact ⟨hnew, h.nodup⟩

theorem Issued.concat_of_none {a : Call × Answer} (h : Issued log) (ha : handle? a = none)
    (hgives : ∀ old, Gives (log ++ [a]) old ↔ Gives log old) : Issued (log ++ [a]) where
  mem_iff old := by rw [handles_concat, ha, Option.toList_none, List.append_nil, h.mem_iff, hgives]
  nodup := by
    rw [handles_concat, ha, Option.toList_none, List.append_nil]
    exact h.nodup

theorem classNamed?_concat {cls : ResponseClass} (hnew : ∀ old ∈ r.classes, old.name ≠ cls.name) :
    classNamed? { r with classes := r.classes ++ [cls] } =
      Function.update r.classNamed? cls.name (some r.classes.length) := by
  funext name
  rw [classNamed?, List.findIdx?_append]
  by_cases hname : name = cls.name
  · subst hname
    have hnone : r.classes.findIdx? (·.name = cls.name) = none := by simpa using hnew
    simp [hnone]
  · have hother : cls.name ≠ name := Ne.symm hname
    simp [hname, hother, classNamed?]

namespace Recorded

theorem start : Recorded [] { regions } where
  resources := rfl
  owners := rfl
  operations := rfl
  classes := rfl
  names := List.nodup_nil
  table := rfl
  issued :=
    { mem_iff := by
        intro h
        cases h <;> simp [handles, addedResources, addedOwners, addedOperations, addedClasses]
      nodup := List.nodup_nil }
  answered _ h := by cases h

theorem lt_resources (h : Recorded log r) {i : ResourceId} (hi : .resource i ∈ handles log) :
    i < r.resources.length := by
  have hlt : i < (addedResources log).length := (h.issued.mem_iff _).1 hi
  simpa [← h.resources] using hlt

theorem lt_endpoints (h : Recorded log r) {e : EndpointId} (he : .endpoint e ∈ handles log) :
    e < r.endpoints.length := by
  have hlt : e < (addedOwners log).length := (h.issued.mem_iff _).1 he
  simpa [← h.owners] using hlt

theorem length_resources (h : Recorded log r) : r.resources.length = (addedResources log).length := by
  simp [← h.resources]

theorem length_endpoints (h : Recorded log r) : r.endpoints.length = (addedOwners log).length := by
  simp [← h.owners]

theorem length_classes (h : Recorded log r) : r.classes.length = (addedClasses log).length := by
  simp [h.classes]

theorem answered_concat (h : Recorded log r) {a : Call × Answer} (ha : Answered (log ++ [a]) a) :
    ∀ b ∈ log ++ [a], Answered (log ++ [a]) b := by
  intro b hb
  obtain hb | hb := List.mem_append.1 hb
  · exact (h.answered b hb).concat a
  · rwa [List.mem_singleton.1 hb]

theorem addResource (h : Recorded log r) {x : Resource} (hx : x.endpoints = []) :
    Recorded (log ++ [(.resource x, .added (.resource r.resources.length))]) (r.addResource x) where
  resources := by
    have hsame : x.childless = x := by rw [Resource.childless, ← hx]
    simp [Registry.addResource, h.resources, hsame]
  owners := by simpa [Registry.addResource] using h.owners
  operations := by simpa [Registry.addResource] using h.operations
  classes := by simpa [Registry.addResource] using h.classes
  names := h.names
  table := (nameTable_concat _ _).trans h.table
  issued := by
    apply h.issued.concat rfl
    · simp [h.length_resources]
    · intro old
      cases old <;> simp [h.length_resources, le_iff_lt_or_eq]
  answered := h.answered_concat (by simp [Answered, h.length_resources])

theorem addEndpoint (h : Recorded log r) (i : ResourceId) :
    Recorded (log ++ [(.endpoint i, .added (.endpoint r.endpoints.length))]) (r.addEndpoint i) where
  resources := by
    rw [map_childless_addEndpoint]
    simpa using h.resources
  owners := by simp [Registry.addEndpoint, h.owners]
  operations := by simpa [Registry.addEndpoint] using h.operations
  classes := by simpa [Registry.addEndpoint] using h.classes
  names := h.names
  table := (nameTable_concat _ _).trans h.table
  issued := by
    apply h.issued.concat rfl
    · simp [h.length_endpoints]
    · intro old
      cases old <;> simp [h.length_endpoints, le_iff_lt_or_eq]
  answered := h.answered_concat (by simp [Answered, h.length_endpoints])

theorem addOperation (h : Recorded log r) (op : Operation) :
    Recorded (log ++ [(.operation op, .added (.operation r.operations.length))]) (r.addOperation op) where
  resources := by simpa [Registry.addOperation] using h.resources
  owners := by simpa [map_resource_addOperation] using h.owners
  operations := by simp [Registry.addOperation, h.operations]
  classes := by simpa [Registry.addOperation] using h.classes
  names := h.names
  table := (nameTable_concat _ _).trans h.table
  issued := by
    apply h.issued.concat rfl
    · simp [h.operations]
    · intro old
      cases old <;> simp [h.operations, le_iff_lt_or_eq]
  answered := h.answered_concat (by simp [Answered, h.operations])

theorem addClass (h : Recorded log r) {cls : ResponseClass} (hnew : ∀ old ∈ r.classes, old.name ≠ cls.name) :
    Recorded (log ++ [(.declare cls, .added (.ofClass r.classes.length))])
      { r with classes := r.classes ++ [cls] } where
  resources := by simpa using h.resources
  owners := by simpa using h.owners
  operations := by simpa using h.operations
  classes := by
    have hold : r.classes = (addedClasses log).mapIdx fun c old =>
        let members := Function.update (lastMembers log) r.classes.length (cls.fields, cls.methods) c
        { old with fields := members.1, methods := members.2 } := by
      rw [h.classes]
      apply List.mapIdx_eq_mapIdx_iff.2
      intro c hc
      -- The members of the new class are entered at a position that no other class has.
      have hne : c ≠ (addedClasses log).length := Nat.ne_of_lt hc
      simp [hne]
    simp [List.mapIdx_append, ← h.length_classes]
    exact hold
  names := by simpa [List.nodup_append, h.names] using hnew
  table := by
    rw [nameTable_concat, takeName, h.table, classNamed?_concat hnew]
  issued := by
    apply h.issued.concat rfl
    · simp [h.length_classes]
    · intro old
      cases old <;> simp [h.length_classes, le_iff_lt_or_eq]
  answered := h.answered_concat (by simp [Answered, h.length_classes])

theorem setMembers (h : Recorded log r) (c : ClassId) (fields : List Field) (methods : List TimeMethod) :
    Recorded (log ++ [(.members c fields methods, .done)]) (r.setMembers c fields methods) where
  resources := by simpa [Registry.setMembers] using h.resources
  owners := by simpa [Registry.setMembers] using h.owners
  operations := by simpa [Registry.setMembers] using h.operations
  classes := by
    ext i : 1
    rw [Registry.setMembers, List.getElem?_modify, h.classes]
    by_cases hi : c = i
    · simp [hi, Function.comp_def]
    · simp [hi, Ne.symm hi]
  names := by
    rw [Registry.setMembers, map_modify_eq]
    · exact h.names
    · intro x
      rfl
  table := by
    apply (nameTable_concat _ _).trans
    rw [takeName, h.table, classNamed?_eq, classNamed?_eq, Registry.setMembers, map_modify_eq]
    · intro x
      rfl
    · nofun
  issued := by
    apply h.issued.concat_of_none rfl
    intro old
    cases old <;> simp
  answered := h.answered_concat trivial

theorem unchanged (h : Recorded log r) {cls : ResponseClass} {answer : Answer}
    (ha : Answered (log ++ [(.declare cls, answer)]) (.declare cls, answer))
    (hnone : handle? (.declare cls, answer) = none) :
    Recorded (log ++ [(.declare cls, answer)]) r := by
  cases answer with
  | added new => cases hnone
  | _ =>
    constructor
    · simpa using h.resources
    · simpa using h.owners
    · simpa using h.operations
    · simpa using h.classes
    · exact h.names
    · rw [nameTable_concat, takeName, h.table]
      simp
    · apply h.issued.concat_of_none rfl
      intro old
      cases old <;> simp
    · exact h.answered_concat ha

/-- Every call writes down what it does. -/
theorem perform (h : Recorded log r) {call : Call} (hcall : call.Allowed log) :
    Recorded (log ++ [(call, (r.perform call).2)]) (r.perform call).1 := by
  cases call with
  | resource x => exact h.addResource hcall
  | endpoint owner => exact h.addEndpoint owner
  | operation op => exact h.addOperation op
  | declare cls =>
    obtain ⟨hnew, hadded⟩ | ⟨old, c, hold, hname, ⟨hresource, hraw, hknown⟩ | ⟨-, hrefused⟩⟩ :=
      r.declare_cases cls
    · simpa [Registry.perform, hadded] using h.addClass hnew
    · rw [h.classes, List.getElem?_mapIdx] at hold
      obtain ⟨first, hfirst, rfl⟩ := Option.map_eq_some_iff.1 hold
      have hanswer : Answered (log ++ [(.declare cls, .known c)]) (.declare cls, .known c) :=
        ⟨first, by simpa using hfirst, hname, hresource, hraw⟩
      simpa [Registry.perform, hknown] using h.unchanged hanswer rfl
    · have hanswer : Answered log (.declare cls, .refused (.classNameCollision cls.name
          (r.identity old) (r.identity cls))) := trivial
      simpa [Registry.perform, hrefused] using h.unchanged (hanswer.concat _) rfl
  | members c fields methods => exact h.setMembers c fields methods

theorem classNamed?_eq_some_iff (h : Recorded log r) (name : String) (c : ClassId) :
    r.classNamed? name = some c ↔ r.classes[c]?.map (·.name) = some name := by
  rw [classNamed?, List.findIdx?_eq_some_iff_getElem]
  constructor
  · rintro ⟨hc, hname, -⟩
    simpa [hc] using hname
  · intro hget
    obtain ⟨cls, hcls, hname⟩ := Option.map_eq_some_iff.1 hget
    obtain ⟨hc, rfl⟩ := List.getElem?_eq_some_iff.1 hcls
    refine ⟨hc, by simpa using hname, fun j hj => ?_⟩
    have hne := List.pairwise_iff_getElem.1 h.names j c (by simp; omega) (by simpa using hc) hj
    simpa [hname] using hne

theorem holds (h : Recorded log r) (hlisted : r.Listed) {a : Call × Answer} (ha : Answered log a) :
    Holds log r a := by
  unfold Answered at ha
  unfold Holds
  split at ha
  · rw [← h.resources, List.getElem?_map] at ha
    obtain ⟨x, hx, rfl⟩ := Option.map_eq_some_iff.1 ha
    have hchildren := hlisted.endpoints _ x hx
    rw [hx, ← h.owners, List.findIdxs_map]
    simp [← hchildren, Function.comp_def, Resource.childless]
  · rw [← h.owners, List.getElem?_map] at ha
    obtain ⟨e, he, rfl⟩ := Option.map_eq_some_iff.1 ha
    have hchildren := hlisted.operations _ e he
    simp [he, ← h.operations, ← hchildren]
  · rwa [h.operations]
  · simp [h.classes, ha]
  · obtain ⟨old, hold, hsame⟩ := ha
    obtain ⟨hgiven, -⟩ := List.getElem?_eq_some_iff.1 hold
    refine ⟨(h.issued.mem_iff (.ofClass _)).2 hgiven, ?_⟩
    rw [h.classes, List.getElem?_mapIdx, hold]
    exact ⟨_, rfl, hsame⟩
  · trivial
  · trivial
  · exact ha.elim

end Recorded

namespace Run

theorem recorded (h : Run regions log r) : Recorded log r := by
  induction h with
  | start => exact Recorded.start
  | step _ call hcall ih => exact ih.perform hcall

theorem listed (h : Run regions log r) : r.Listed := by
  induction h with
  | start => exact listed_of_childless (by simp) rfl rfl
  | @step log r hrun call hcall ih =>
    cases call with
    | resource x => exact ih.addResource hcall
    | endpoint owner => exact ih.addEndpoint (hrun.recorded.lt_resources hcall)
    | operation op => exact ih.addOperation (hrun.recorded.lt_endpoints hcall)
    | declare cls =>
      obtain ⟨-, hnew⟩ | ⟨old, c, -, -, ⟨-, -, hnew⟩ | ⟨-, hnew⟩⟩ := r.declare_cases cls
      · simpa [perform, hnew] using ih.of_classes _
      · simpa [perform, hnew] using ih
      · simpa [perform, hnew] using ih
    | members c fields methods => exact ih.of_classes _

end Run

/-- A registry that was built call by call, and one more declaration of a class: the table of names and
the classes agree, every operation comes once and in the order of resources and endpoints, all handles
lead to what they were given for, and a declaration that adds nothing leaves everything as it was. -/
theorem run_consistent (h : Run regions log r) (cls : ResponseClass) :
    nameTable log = r.classNamed? ∧
    (∀ name c, r.classNamed? name = some c ↔ r.classes[c]?.map (·.name) = some name) ∧
    (r.classes.map (·.name)).Nodup ∧
    r.orderedOperations = ((List.range (addedResources log).length).flatMap fun i =>
      ((addedOwners log).findIdxs (· = i)).flatMap fun e =>
        (addedOperations log).filter (·.endpoint = e)) ∧
    r.orderedOperations.Perm (addedOperations log) ∧
    (handles log).Nodup ∧
    (∀ a ∈ log, Holds log r a) ∧
    ∀ r' answer, r.perform (.declare cls) = (r', answer) →
      (answer = .added (.ofClass r.classes.length) ∧ r' = { r with classes := r.classes ++ [cls] } ∧
        r.classNamed? cls.name = none) ∨
      ∃ c old, r' = r ∧ r.classes[c]? = some old ∧ old.name = cls.name ∧
        answer = if old.resource = cls.resource ∧ old.rawName = cls.rawName then .known c
          else .refused (.classNameCollision cls.name (r.identity old) (r.identity cls)) := by
  have hrecorded := h.recorded
  have hlisted := h.listed
  refine ⟨hrecorded.table, hrecorded.classNamed?_eq_some_iff, hrecorded.names, ?_, ?_, hrecorded.issued.nodup,
    fun a ha => hrecorded.holds hlisted (hrecorded.answered a ha), fun r' answer hdeclare => ?_⟩
  · rw [hlisted.orderedOperations_eq, hrecorded.length_resources, hrecorded.operations,
      ← hrecorded.owners]
    simp [List.findIdxs_map, Function.comp_def]
  · rw [← hrecorded.operations]
    exact hlisted.orderedOperations_perm
  · obtain ⟨hnew, hadded⟩ | ⟨old, c, hold, hname, ⟨hresource, hraw, hknown⟩ | ⟨hother, hrefused⟩⟩ :=
      r.declare_cases cls
    · have hfree : r.classNamed? cls.name = none := by simpa [classNamed?] using hnew
      simp only [perform, hadded, Prod.mk.injEq] at hdeclare
      exact .inl ⟨hdeclare.2.symm, hdeclare.1.symm, hfree⟩
    · simp only [perform, hknown, Prod.mk.injEq] at hdeclare
      exact .inr ⟨c, old, hdeclare.1.symm, hold, hname, by simp [hresource, hraw, ← hdeclare.2]⟩
    · simp only [perform, hrefused, Prod.mk.injEq] at hdeclare
      exact .inr ⟨c, old, hdeclare.1.symm, hold, hname, by rw [if_neg hother, ← hdeclare.2]⟩

def plainResource (id : String) : Resource where
  id
  version := "v1"
  number := 1
  regions := []
  baseUrl := none
  needsKey := true

def plainOperation (endpoint : EndpointId) (name : String) : Operation where
  endpoint
  name
  description := ""
  method := "GET"
  number := 1
  path := { template := "/" ++ name }
  query := []
  returnType := .dynamicMap
  mapKey := none
  implementationNotes := ""
  rateLimitNotes := ""
  errors := []

def plainClass (resource : ResourceId) (rawName : String) : ResponseClass where
  resource
  rawName
  name := "Summoner"
  description := ""

/-- Two resources whose endpoints and operations are added crosswise. A class is declared, declared again
and then claimed by the other resource. -/
theorem run_consistent_crosswise :
    ∃ log r, Run [] log r ∧ r.operations.map (·.name) = ["free", "byName", "byId"] ∧
      r.orderedOperations.map (·.name) = ["byName", "byId", "free"] ∧
      r.classNamed? "Summoner" = some 0 ∧
      (∀ a ∈ log, Holds log r a) ∧
      r.perform (.declare (plainClass 0 "SummonerDto")) = (r, .known 0) ∧
      r.perform (.declare (plainClass 1 "SummonerDto")) = (r, .refused (.classNameCollision "Summoner"
        ⟨"summoner", "SummonerDto"⟩ ⟨"champion", "SummonerDto"⟩)) := by
  have hstart : Run [] [] {} := .start
  have hresources := (hstart.step (.resource (plainResource "summoner")) rfl).step
    (.resource (plainResource "champion")) rfl
  have hendpoints := (hresources.step (.endpoint 1) (by decide)).step (.endpoint 0) (by decide)
  have hoperations := ((hendpoints.step (.operation (plainOperation 0 "free")) (by decide)).step
    (.operation (plainOperation 1 "byName")) (by decide)).step
    (.operation (plainOperation 1 "byId")) (by decide)
  have hrun := (hoperations.step (.declare (plainClass 0 "SummonerDto")) (by decide)).step
    (.declare (plainClass 0 "SummonerDto")) (by decide)
  obtain ⟨-, hnames, -, hordered, -, -, hholds, -⟩ := run_consistent hrun (plainClass 0 "SummonerDto")
  refine ⟨_, _, hrun, by decide, ?_, ?_, hholds, rfl, rfl⟩
  · rw [hordered]
    decide
  · rw [hnames]
    decide

end TypedClient.Registry
