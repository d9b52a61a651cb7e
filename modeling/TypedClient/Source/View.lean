import TypedClient.Source.Identifier
import TypedClient.Source.TypeExpr

namespace TypedClient.Source

open Text

structure FieldView where
  identifier : String
  rawName : String
  type : TypeExpr
  docs : String
deriving DecidableEq, Repr

structure MethodView where
  identifier : String
  field : String
  docs : String
deriving DecidableEq, Repr

structure ClassView where
  name : String
  docs : String
  fields : List FieldView
  methods : List MethodView
deriving DecidableEq, Repr

structure ParameterView where
  identifier : String
  rawName : String
  type : TypeExpr
  docs : String
deriving DecidableEq, Repr

structure RegionArgument where
  rawName : String
  isPlatform : Bool
deriving DecidableEq, Repr

def RegionArgument.value (a : RegionArgument) : String :=
  if a.isPlatform then "self.region.platform_id().to_string()" else "self.region.code()"

structure OperationView where
  name : String
  builder : String
  identifier : String
  docs : String
  method : String
  path : String
  needsRegion : Bool
  regions : List String
  baseUrl : Option String
  needsKey : Bool
  pathParameters : List ParameterView
  pathRegions : List RegionArgument
  query : List ParameterView
  queryRegions : List RegionArgument
  hasQuery : Bool
  resultType : TypeExpr
  rawType : Option TypeExpr
deriving DecidableEq, Repr

def joinDocs (sections : List String) : String :=
  joinWith "\n\n" ((sections.map (onChars trim)).filter (· ≠ ""))

variable (r : Registry)

def fieldViews (used : List String) : List Field → Except Failure (List FieldView)
  | [] => .ok []
  | f :: fs => do
    let identifier := free used (memberIdentifier f.name)
    let type ← fieldExpr r f.type
    return ⟨identifier, f.rawName, type, f.description⟩ :: (← fieldViews (identifier :: used) fs)

/-- The identifier of the last field of a name. -/
def identifierOf? (fields : List (Field × FieldView)) (name : String) : Option String :=
  (fields.reverse.find? (·.1.name = name)).map (·.2.identifier)

def methodView (c : ResponseClass) (fields : List FieldView) (m : TimeMethod) :
    Except Failure MethodView :=
  match identifierOf? (c.fields.zip fields) m.field with
  | some field =>
    .ok ⟨memberIdentifier m.name, field, "\x60" ++ field ++ "\x60 as a point in time"⟩
  | none => .error (.generation (.unknownField m.name c.name m.field))

def classDocs (c : ResponseClass) : String :=
  joinDocs [c.description,
    "Declared as \x60" ++ c.rawName ++ "\x60 by the " ++ r.resourceName c.resource ++ " api."]

def classView (c : ResponseClass) : Except Failure ClassView := do
  if reservedTypes.contains c.name then
    .error (.generation (.reservedClass c.name c.rawName))
  let fields ← fieldViews r [] c.fields
  let methods ← c.methods.mapM (methodView c fields)
  return ⟨c.name, classDocs r c, fields, methods⟩

def parameterDocs (p : Parameter) : String :=
  if p.legalValues.isEmpty then p.description
  else p.description ++ "\n\nLegal values: " ++ joinWith ", " p.legalValues

/-- The parameters that a caller passes, after those whose identifiers are in use, and the
identifiers in use after them. -/
def parameterViews (used : List String) :
    List Parameter → Except Failure (List ParameterView × List String)
  | [] => .ok ([], used)
  | p :: ps => do
    if p.isRegion then parameterViews used ps
    else
      let identifier := free used (avoid builderMembers "param" (memberIdentifier p.name))
      let type ← parameterExpr r p.rawName p.type
      let (more, used) ← parameterViews (identifier :: used) ps
      return (⟨identifier, p.rawName, type, parameterDocs p⟩ :: more, used)

def regionArguments (ps : List Parameter) : List RegionArgument :=
  (ps.filter (·.isRegion)).map fun p => ⟨p.rawName, p.name == "platformID"⟩

/-- The text with a blank in place of each empty line. -/
def joinParagraphs : List Char → List Char
  | [] => []
  | '\n' :: '\n' :: cs => ' ' :: joinParagraphs cs
  | c :: cs => c :: joinParagraphs cs

def sectionUnless (isEmpty : Bool) (text : String) : String := if isEmpty then "" else text

def operationDocs (op : Operation) (baseUrl : Option String) (arguments : List ParameterView) :
    String :=
  let url := baseUrl.getD "https://\x7bregion\x7d.api.pvp.net" ++ op.path.template
  let argumentLines := arguments.map fun p =>
    "* \x60" ++ p.identifier ++ "\x60 - " ++ onChars joinParagraphs p.docs
  let errors := op.errors.map fun e => toString e.code ++ "(" ++ e.description ++ ")"
  joinDocs [
    op.description,
    "\x60" ++ op.method ++ " " ++ url ++ "\x60",
    sectionUnless arguments.isEmpty ("# Arguments\n" ++ joinWith "\n" argumentLines),
    sectionUnless op.implementationNotes.isEmpty
      ("Implementation notes: " ++ op.implementationNotes),
    sectionUnless op.rateLimitNotes.isEmpty ("Rate limit notes: " ++ op.rateLimitNotes),
    sectionUnless errors.isEmpty ("Errors: " ++ joinWith ", " errors),
    "Reference: <" ++ r.pageOf op ++ ">"]

/-- The type as it is sent: the map that is decoded before its keys are replaced. -/
def rawExpr (op : Operation) : Except Failure (Option TypeExpr) := do
  match op.mapKey, op.resultType with
  | some _, .map _ element => return some (.map (.path "String") (← typeExpr r element))
  | _, _ => return none

def operationView (op : Operation) : Except Failure OperationView := do
  let resource := r.resourceOf? op
  let (pathParameters, used) ← parameterViews r builderMembers op.path.parameters
  let (query, _) ← parameterViews r used op.query
  let queryRegions := regionArguments op.query
  let rawType ← rawExpr r op
  let baseUrl := resource.bind (·.baseUrl)
  let needsKey := resource.all (·.needsKey)
  return {
    name := op.name
    builder := op.builderName
    identifier := avoid clientMembers "call" (memberIdentifier op.name)
    docs := operationDocs r op baseUrl pathParameters
    method := op.method
    path := op.path.template
    needsRegion := r.needsRegion op || op.query.any (·.isRegion)
    regions := (resource.elim [] (·.regions)).map (·.constant)
    baseUrl
    needsKey
    pathParameters
    pathRegions := regionArguments op.path.parameters
    query
    queryRegions
    hasQuery := needsKey || !query.isEmpty || !queryRegions.isEmpty
    resultType := ← typeExpr r op.resultType
    rawType }

/-- Refuses builders that are named like a class or like something of the generated source. -/
def checkBuilder (op : Operation) : Except Failure Unit :=
  if (r.classNamed? op.builderName).isSome || reservedTypes.contains op.builderName then
    .error (.generation (.builderClash op.builderName op.name))
  else .ok ()

def checkBuilders : Except Failure Unit := r.orderedOperations.forM (checkBuilder r)

end TypedClient.Source
