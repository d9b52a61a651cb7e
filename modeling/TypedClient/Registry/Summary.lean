import TypedClient.Registry.Basic
import TypedClient.Text.Basic

namespace TypedClient.Registry

open Text (joinWith)

def noteLine (title text : String) : List String :=
  if text.isEmpty then [] else [s!"        {title}: {text}"]

def outlineOf (op : Operation) (result : String) : List String :=
  [s!"|+---- Operation {op.name} {op.method}: {op.path.template} -> " ++ result]
  ++ noteLine "Description" op.description
  ++ (if op.query.isEmpty then []
    else ["        Query parameters: " ++ joinWith ", " (op.query.map (·.name))])
  ++ noteLine "Rate limit notes" op.rateLimitNotes
  ++ noteLine "Notes" op.implementationNotes
  ++ (if op.errors.isEmpty then []
    else ["        Errors: "
      ++ joinWith " " (op.errors.map fun e => s!"{e.code}({e.description})")])

def operationLines (r : Registry) (op : Operation) : List String :=
  outlineOf op (op.resultType.describe r.className)

def headingOf (resource : Resource) : String :=
  let regions := joinWith "," (resource.regions.map (·.name))
  s!"|+ Resource {resource.id} {resource.version} [{regions}]"

def resourceLines (r : Registry) (resource : Resource) : List String :=
  headingOf resource :: resource.endpoints.flatMap fun e =>
    "|+-- Endpoint" :: (r.operationsOf e).flatMap r.operationLines

def classLineOf (c : ResponseClass) (resource : String) : String :=
  s!"class {c.name} (raw: {c.rawName}, resource: {resource}, {c.fields.length} fields)"

def classLine (r : Registry) (c : ResponseClass) : String :=
  classLineOf c (r.resourceName c.resource)

def summary (r : Registry) : List String :=
  r.resources.flatMap r.resourceLines ++ r.classes.map r.classLine

end TypedClient.Registry
