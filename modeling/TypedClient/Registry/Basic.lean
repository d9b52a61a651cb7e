import TypedClient.Region
import TypedClient.ValueType

namespace TypedClient

abbrev ResourceId := Nat

abbrev EndpointId := Nat

abbrev OperationId := Nat

structure Resource where
  id : String
  version : String
  number : Nat
  regions : List Region
  baseUrl : Option String
  needsKey : Bool
  endpoints : List EndpointId := []
deriving DecidableEq, Repr

structure Endpoint where
  resource : ResourceId
  operations : List OperationId := []
deriving DecidableEq, Repr

structure ResponseError where
  code : Nat
  description : String
deriving DecidableEq, Repr

structure Parameter where
  rawName : String
  name : String
  description : String
  type : ValueType
  isRequired : Bool
  legalValues : List String
deriving DecidableEq, Repr

def Parameter.isRegion (p : Parameter) : Bool := p.name == "region" || p.name == "platformID"

structure PathTemplate where
  template : String
  parameters : List Parameter := []
deriving DecidableEq, Repr

namespace PathTemplate

variable (p : PathTemplate)

def has (rawName : String) : Bool := p.parameters.any (·.rawName == rawName)

def hasRegion : Bool := p.parameters.any (·.isRegion)

end PathTemplate

structure Operation where
  endpoint : EndpointId
  name : String
  description : String
  method : String
  number : Nat
  path : PathTemplate
  query : List Parameter
  returnType : ValueType
  /-- The kind of key that the result map really has. -/
  mapKey : Option Scalar
  implementationNotes : String
  rateLimitNotes : String
  errors : List ResponseError
deriving DecidableEq, Repr

namespace Operation

variable (op : Operation)

def resultType : ValueType :=
  (op.mapKey.bind fun key => op.returnType.withKey? key).getD op.returnType

def builderName : String := op.name ++ "Call"

end Operation

structure TimeMethod where
  field : String
  name : String
deriving DecidableEq, Repr

structure Field where
  owner : ClassId
  rawName : String
  name : String
  type : ValueType
  description : String
deriving DecidableEq, Repr

structure ResponseClass where
  resource : ResourceId
  rawName : String
  name : String
  description : String
  fields : List Field := []
  methods : List TimeMethod := []
deriving DecidableEq, Repr

namespace ResponseClass

variable (c : ResponseClass)

def field? (name : String) : Option Field := c.fields.find? (·.name = name)

def fieldByRawName? (rawName : String) : Option Field := c.fields.find? (·.rawName = rawName)

end ResponseClass

structure Registry where
  regions : List Region := []
  resources : List Resource := []
  endpoints : List Endpoint := []
  operations : List Operation := []
  classes : List ResponseClass := []
deriving DecidableEq, Repr

namespace Registry

variable (r : Registry)

def className (c : ClassId) : String := r.classes[c]?.elim "" (·.name)

def classNamed? (name : String) : Option ClassId := r.classes.findIdx? (·.name = name)

def resourceName (i : ResourceId) : String := r.resources[i]?.elim "" (·.id)

def resourceOf? (op : Operation) : Option Resource :=
  r.endpoints[op.endpoint]?.bind fun e => r.resources[e.resource]?

def operationsOf (e : EndpointId) : List Operation :=
  (r.endpoints[e]?.elim [] (·.operations)).filterMap (r.operations[·]?)

def orderedOperations : List Operation :=
  r.resources.flatMap fun resource => resource.endpoints.flatMap r.operationsOf

/-- Whether a caller has to name a region: the resource has no place of its own, or the path asks
for one. -/
def needsRegion (op : Operation) : Bool :=
  (r.resourceOf? op).all (·.baseUrl.isNone) || op.path.hasRegion

def pageOf (op : Operation) : String :=
  let resource := (r.resourceOf? op).elim 0 (·.number)
  s!"https://developer.riotgames.com/api/methods#!/{resource}/{op.number}"

end Registry

end TypedClient
