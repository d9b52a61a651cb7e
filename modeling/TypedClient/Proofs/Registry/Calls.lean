import Mathlib.Logic.Function.Basic
import TypedClient.Registry.Build

namespace TypedClient.Registry

inductive Handle
  | resource (i : ResourceId)
  | endpoint (e : EndpointId)
  | operation (o : OperationId)
  | ofClass (c : ClassId)
deriving DecidableEq

inductive Call
  | resource (x : Resource)
  | endpoint (owner : ResourceId)
  | operation (op : Operation)
  | declare (cls : ResponseClass)
  | members (c : ClassId) (fields : List Field) (methods : List TimeMethod)

inductive Answer
  | added (h : Handle)
  | known (c : ClassId)
  | refused (f : Failure)
  | done

def perform (r : Registry) : Call → Registry × Answer
  | .resource x => (r.addResource x, .added (.resource r.resources.length))
  | .endpoint owner => (r.addEndpoint owner, .added (.endpoint r.endpoints.length))
  | .operation op => (r.addOperation op, .added (.operation r.operations.length))
  | .declare cls =>
    match r.declare cls with
    | .ok (r', .added c) => (r', .added (.ofClass c))
    | .ok (r', .known c) => (r', .known c)
    | .error f => (r, .refused f)
  | .members c fields methods => (r.setMembers c fields methods, .done)

/-- Calls with their answers, the latest one last. -/
abbrev Log := List (Call × Answer)

@[simp] def handle? : Call × Answer → Option Handle
  | (_, .added h) => some h
  | _ => none

/-- The handles that were given out. -/
def handles (log : Log) : List Handle := log.filterMap handle?

/-- Whether the handles that a call uses were given out before. A resource comes without endpoints. -/
def Call.Allowed (log : Log) : Call → Prop
  | .resource x => x.endpoints = []
  | .endpoint owner => .resource owner ∈ handles log
  | .operation op => .endpoint op.endpoint ∈ handles log
  | .declare cls => .resource cls.resource ∈ handles log
  | .members c _ _ => .ofClass c ∈ handles log

instance (log : Log) : DecidablePred (Call.Allowed log)
  | .resource x => inferInstanceAs (Decidable (x.endpoints = []))
  | .endpoint owner => inferInstanceAs (Decidable (.resource owner ∈ handles log))
  | .operation op => inferInstanceAs (Decidable (.endpoint op.endpoint ∈ handles log))
  | .declare cls => inferInstanceAs (Decidable (.resource cls.resource ∈ handles log))
  | .members c _ _ => inferInstanceAs (Decidable (.ofClass c ∈ handles log))

inductive Run (regions : List Region) : Log → Registry → Prop
  | start : Run regions [] { regions }
  | step {log : Log} {r : Registry} (h : Run regions log r) (call : Call) (hcall : call.Allowed log) :
    Run regions (log ++ [(call, (r.perform call).2)]) (r.perform call).1

@[simp] def addedResource? : Call × Answer → Option Resource
  | (.resource x, _) => some x
  | _ => none

@[simp] def addedOwner? : Call × Answer → Option ResourceId
  | (.endpoint owner, _) => some owner
  | _ => none

@[simp] def addedOperation? : Call × Answer → Option Operation
  | (.operation op, _) => some op
  | _ => none

@[simp] def addedClass? : Call × Answer → Option ResponseClass
  | (.declare cls, .added _) => some cls
  | _ => none

def addedResources (log : Log) : List Resource := log.filterMap addedResource?

/-- The resources that endpoints were added to, endpoint by endpoint. -/
def addedOwners (log : Log) : List ResourceId := log.filterMap addedOwner?

def addedOperations (log : Log) : List Operation := log.filterMap addedOperation?

def addedClasses (log : Log) : List ResponseClass := log.filterMap addedClass?

@[simp] def takeMembers (members : ClassId → List Field × List TimeMethod) :
    Call × Answer → ClassId → List Field × List TimeMethod
  | (.declare cls, .added (.ofClass c)) => Function.update members c (cls.fields, cls.methods)
  | (.members c fields methods, _) => Function.update members c (fields, methods)
  | _ => members

/-- The members that a class was given last. -/
def lastMembers (log : Log) : ClassId → List Field × List TimeMethod :=
  log.foldl takeMembers fun _ => ([], [])

@[simp] def takeName (names : String → Option ClassId) : Call × Answer → String → Option ClassId
  | (.declare cls, .added (.ofClass c)) => Function.update names cls.name (some c)
  | _ => names

/-- The table of names that every new class is entered into. -/
def nameTable (log : Log) : String → Option ClassId := log.foldl takeName fun _ => none

section Concat

theorem filterMap_concat {α β : Type} (f : α → Option β) (xs : List α) (x : α) :
    (xs ++ [x]).filterMap f = xs.filterMap f ++ (f x).toList := by
  cases h : f x <;> simp [h]

variable (log : Log) (a : Call × Answer)

@[simp] theorem handles_concat : handles (log ++ [a]) = handles log ++ (handle? a).toList :=
  filterMap_concat _ _ _

@[simp] theorem addedResources_concat :
    addedResources (log ++ [a]) = addedResources log ++ (addedResource? a).toList :=
  filterMap_concat _ _ _

@[simp] theorem addedOwners_concat :
    addedOwners (log ++ [a]) = addedOwners log ++ (addedOwner? a).toList :=
  filterMap_concat _ _ _

@[simp] theorem addedOperations_concat :
    addedOperations (log ++ [a]) = addedOperations log ++ (addedOperation? a).toList :=
  filterMap_concat _ _ _

@[simp] theorem addedClasses_concat :
    addedClasses (log ++ [a]) = addedClasses log ++ (addedClass? a).toList :=
  filterMap_concat _ _ _

@[simp] theorem lastMembers_concat : lastMembers (log ++ [a]) = takeMembers (lastMembers log) a := by
  simp [lastMembers]

@[simp] theorem nameTable_concat : nameTable (log ++ [a]) = takeName (nameTable log) a := by
  simp [nameTable]

end Concat

end TypedClient.Registry
