import TypedClient.Extraction.Classes
import TypedClient.OperationTable

namespace TypedClient.Extraction

open Text

structure Details where
  pathParameters : List Parameter := []
  query : List Parameter := []
  returnType : Option ValueType := none
  implementationNotes : String := ""
  rateLimitNotes : String := ""
  errors : List ResponseError := []

structure Context where
  config : Config
  types : String → Option ClassId
  resource : String
  place : Place

/-- The value of a piece in a list of legal values; the last piece may be followed by closing
parentheses. -/
def legalValue (isLast : Bool) (piece : List Char) : List Char :=
  if isLast then trim (dropEnd ')' (trim piece)) else trim piece

def legalPieces : List (List Char) → List (List Char)
  | [] => []
  | [piece] => [legalValue true piece]
  | piece :: pieces => legalValue false piece :: legalPieces pieces

def legalValues (description : String) : List String :=
  match after? "Legal values:".toList description.toList with
  | none => []
  | some values =>
    ((legalPieces (splitAt ',' (trim values))).filter (· ≠ [])).map String.ofList

variable (ctx : Context)

def Context.fault {α : Type} (fault : StructuralFault) : Except Failure α :=
  .error (.structural ctx.place fault)

def readParameter (row : Document) : Except Failure Parameter := do
  match cells row with
  | rawName :: required :: typeText :: more =>
    let name := Naming.parameterName rawName
    let type ← TypeText.resolve ctx.config ctx.types ctx.resource typeText.toList
    let description := more.head?.getD ""
    return {
      rawName
      name
      description
      type := Corrections.parameterType name type
      isRequired := required == "true"
      legalValues := legalValues description }
  | few => ctx.fault (.shortParameterRow few.length)

def readParameters (table : Document) : Except Failure (List Parameter) :=
  (table.childrenOfKind "row").mapM (readParameter ctx)

def readError (row : Document) : Except Failure ResponseError := do
  match cells row with
  | [] => ctx.fault .noStatusCode
  | code :: description =>
    match parseNat (Nat.pow 2 16 - 1) code.toList with
    | .ok code => return ⟨code, joinWith " " description⟩
    | .error _ => ctx.fault .noStatusCode

def readReturnType (block : Document) : Except Failure ValueType := do
  let body ← orFault ctx.place .noResponseBody (block.descendantsOfKind "response_body").head?
  let title := body.childOfKind? "title"
  let heading := title.elim "" (·.flatText)
  if heading ≠ returnValueTitle then ctx.fault (.noReturnValue heading)
  let text := body.textExcluding fun l => title.any (·.label == l)
  TypeText.resolve ctx.config ctx.types ctx.resource text.toList

/-- The parameters of the path, and those of the query where a heading within the block announces
them. -/
def readPathBlock (details : Details) (block : Document) : Except Failure Details := do
  let tables := block.childrenOfKind "table"
  let first ← orFault ctx.place .noPathTable tables.head?
  let details := { details with pathParameters := ← readParameters ctx first }
  match block.childOfKind? "title" with
  | none => return details
  | some title =>
    let heading := title.flatText
    if heading = "Query Parameters" then
      let second ← orFault ctx.place .noQueryTable tables.tail.head?
      return { details with query := ← readParameters ctx second }
    else if heading = "" then return details
    else ctx.fault (.unknownHeading heading)

/-- Takes in a block of an operation, by its title. Blank blocks tell nothing; of two blocks with
one title the later counts. -/
def readBlock (details : Details) (block : Document) : Except Failure Details := do
  if block.isBlank then return details
  let title ← orFault ctx.place .untitledBlock (block.attr? "title")
  match onChars trim title with
  | "Implementation Notes" => return { details with implementationNotes := block.flatText }
  | "Rate Limit Notes" => return { details with rateLimitNotes := block.flatText }
  | "Response Classes" => return { details with returnType := some (← readReturnType ctx block) }
  | "Response Errors" =>
    return { details with errors := ← (block.descendantsOfKind "row").mapM (readError ctx) }
  | "Path Parameters" => readPathBlock ctx details block
  | "Query Parameters" =>
    let table ← orFault ctx.place .noQueryTable (block.childOfKind? "table")
    return { details with query := ← readParameters ctx table }
  | "Select Region to Execute Against" => return details
  | other => ctx.fault (.unknownBlock other)

def operationNumber? (cs : List Char) : Option Nat :=
  (parseNat maxNumber ((splitAtLast '_' cs).elim cs (·.2))).toOption

def operationDescription (n : Document) : String :=
  (n.childOfKind? "description").elim "" (·.flatText)
    |> onChars fun cs => trim ((dropStop? "(REST)".toList cs).getD cs)

/-- A key may only replace the key of a map, and only if it can be told equal. -/
def checkMapKey (rule : OperationRule) (returnType : ValueType) : Except Failure Unit :=
  match rule.mapKey with
  | none => .ok ()
  | some key =>
    if !returnType.isMap then .error (.invalidMapKey rule.name .notAMap)
    else if !key.canBeKey then .error (.invalidMapKey rule.name .floatingPoint)
    else .ok ()

def readOperation (config : Config) (types : String → Option ClassId) (resource : String)
    (endpoint : EndpointId) (n : Document) : Except Failure Operation := do
  let place := Place.operationNode n.label resource
  let number ← orFault place .malformedOperationId (operationNumber? (← requiredAttr place n "id"))
  let method := String.ofList (← requiredAttr place n "method")
  let path := String.ofList (← requiredAttr place n "path")
  let ctx : Context := ⟨config, types, resource, .operation path resource⟩
  let rule ← OperationTable.lookup config resource path
  let details ← (n.childrenOfKind "block").foldlM (readBlock ctx) {}
  let returnType ← orFault ctx.place .noResponseClasses details.returnType
  checkMapKey rule returnType
  return {
    endpoint
    name := rule.name
    description := operationDescription n
    method
    number
    path := ⟨path, details.pathParameters⟩
    query := details.query
    returnType
    mapKey := rule.mapKey
    implementationNotes := details.implementationNotes
    rateLimitNotes := details.rateLimitNotes
    errors := details.errors }

def addOperation (registry : Registry) (op : Operation) : Except Failure Registry :=
  match registry.operations.find? (·.name = op.name) with
  | some first =>
    .error (.duplicateOperation op.name first.path.template op.path.template)
  | none => .ok (registry.addOperation op)

def addEndpoint (config : Config) (types : String → Option ClassId) (resource : String)
    (owner : ResourceId) (registry : Registry) (n : Document) : Except Failure Registry :=
  (n.childrenOfKind "operation").foldlM
    (fun r child => do
      addOperation r (← readOperation config types resource registry.endpoints.length child))
    (registry.addEndpoint owner)

def addEndpoints (config : Config) (types : String → Option ClassId) (registry : Registry)
    (entry : ResourceEntry × ResourceId) : Except Failure Registry :=
  (entry.1.node.childrenOfKind "endpoint").foldlM
    (addEndpoint config types entry.1.id entry.2) registry

end TypedClient.Extraction
