import TypedClient.Failure
import TypedClient.Registry.Basic

namespace TypedClient.Registry

def addResource (r : Registry) (resource : Resource) : Registry :=
  { r with resources := r.resources ++ [resource] }

def addEndpoint (r : Registry) (i : ResourceId) : Registry :=
  { r with
    endpoints := r.endpoints ++ [{ resource := i }]
    resources := r.resources.modify i fun resource =>
      { resource with endpoints := resource.endpoints ++ [r.endpoints.length] } }

def addOperation (r : Registry) (op : Operation) : Registry :=
  { r with
    operations := r.operations ++ [op]
    endpoints := r.endpoints.modify op.endpoint fun e =>
      { e with operations := e.operations ++ [r.operations.length] } }

inductive Declared
  | added (c : ClassId)
  | known (c : ClassId)
deriving DecidableEq, Repr

def identity (r : Registry) (c : ResponseClass) : ClassIdentity :=
  ⟨r.resourceName c.resource, c.rawName⟩

/-- Declares a class. A class of the same resource and raw name is the same class; another one of
the same name is refused. -/
def declare (r : Registry) (c : ResponseClass) : Except Failure (Registry × Declared) :=
  match r.classes.zipIdx.find? (·.1.name = c.name) with
  | none => .ok ({ r with classes := r.classes ++ [c] }, .added r.classes.length)
  | some (old, i) =>
    if old.resource = c.resource ∧ old.rawName = c.rawName then .ok (r, .known i)
    else .error (.classNameCollision c.name (r.identity old) (r.identity c))

def setMembers (r : Registry) (c : ClassId) (fields : List Field) (methods : List TimeMethod) :
    Registry :=
  { r with classes := r.classes.modify c fun cls => { cls with fields, methods } }

end TypedClient.Registry
