import TypedClient.Corrections
import TypedClient.Extraction.Resources
import TypedClient.Naming
import TypedClient.Registry.Build
import TypedClient.TypeText

namespace TypedClient.Extraction

open Text

/-- The title of a response body that is no class but the type of a result. -/
def returnValueTitle : String := "Return Value:"

structure PendingClass where
  id : ClassId
  resource : String
  rawName : String
  body : Document

def bodyDescription (title body : Document) : String :=
  let apart := title.label :: (body.childOfKind? "table").toList.map (·.label)
  body.textExcluding (apart.contains ·) |> onChars fun cs => trim ((dropStart? ['-'] cs).getD cs)

def declareBody (config : Config) (owner : ResourceId) (resource : String)
    (state : Registry × List PendingClass) (body : Document) :
    Except Failure (Registry × List PendingClass) := do
  let title ← orFault (.resource resource) .untitledBody (body.childOfKind? "title")
  let rawName := title.flatText
  if rawName = returnValueTitle then return state
  let (registry, declared) ← state.1.declare {
    resource := owner
    rawName
    name := Naming.className config resource rawName
    description := bodyDescription title body }
  match declared with
  | .added c => return (registry, state.2 ++ [⟨c, resource, rawName, body⟩])
  | .known _ => return (registry, state.2)

def ResourceEntry.toResource (entry : ResourceEntry) : Resource where
  id := entry.id
  version := entry.version
  number := entry.number
  regions := entry.regions
  baseUrl := Corrections.baseUrl? entry.id
  needsKey := Corrections.needsKey entry.id

def declareResource (config : Config) (state : Registry × List PendingClass)
    (entry : ResourceEntry) : Except Failure (Registry × List PendingClass) :=
  (entry.node.descendantsOfKind "response_body").foldlM
    (declareBody config state.1.resources.length entry.id)
    (state.1.addResource entry.toResource, state.2)

def cells (row : Document) : List String := (row.childrenOfKind "cell").map (·.flatText)

def isEpochMillis (description : String) : Bool :=
  (after? "epoch milliseconds".toList (lowercase description.toList)).isSome

def fieldType (config : Config) (types : String → Option ClassId) (c : PendingClass)
    (rawName typeText : String) : Except Failure ValueType :=
  match Corrections.fieldType? c.rawName rawName with
  | some type => .ok type
  | none => (TypeText.resolve config types c.resource typeText.toList).map
      (Corrections.mendIdWidth config c.resource c.rawName rawName)

def readField (config : Config) (types : String → Option ClassId) (c : PendingClass)
    (row : Document) : Except Failure (Option Field) :=
  match cells row with
  | rawName :: typeText :: more =>
    match Naming.fieldName? config c.resource c.rawName rawName with
    | none => .ok none
    | some name => (fieldType config types c rawName typeText).map fun type =>
      some ⟨c.id, rawName, name, type, more.head?.getD ""⟩
  | few => .error (.structural (.classOf c.rawName c.resource) (.shortFieldRow few.length))

/-- The method that a field gives its class: a 64-bit count of milliseconds can be read as a point
in time. -/
def timeMethod? (f : Field) : Option TimeMethod :=
  if f.type = .scalar .int64 ∧ isEpochMillis f.description then some ⟨f.name, f.name ++ "Time"⟩
  else none

def tableRows (n : Document) : List Document :=
  (n.childOfKind? "table").elim [] (·.childrenOfKind "row")

def readFields (config : Config) (types : String → Option ClassId) (c : PendingClass) :
    Except Failure (List Field) :=
  ((tableRows c.body).mapM (readField config types c)).map (·.filterMap id)

def readMembers (config : Config) (types : String → Option ClassId) (registry : Registry)
    (c : PendingClass) : Except Failure Registry := do
  let fields ← readFields config types c
  return registry.setMembers c.id fields (fields.filterMap timeMethod?)

end TypedClient.Extraction
