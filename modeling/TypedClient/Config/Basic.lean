import TypedClient.Table
import TypedClient.ValueType

namespace TypedClient

structure ClassNameRule where
  resource : String
  raw : String
  name : String
deriving DecidableEq, Repr

/-- A name for a field of a class. The name `-` leaves the field out. -/
structure FieldNameRule where
  resource : String
  className : String
  field : String
  name : String
deriving DecidableEq, Repr

structure OperationRule where
  name : String
  mapKey : Option Scalar := none
deriving DecidableEq, Repr

structure Config where
  runtimePath : String := "lolgen_runtime"
  keepIdWidth : Bool := false
  firstResource : Option String := some "lol-static-data"
  skippedResources : List String := ["tournament-provider"]
  classNames : List ClassNameRule := []
  fieldNames : List FieldNameRule := []
  /-- For each resource, rules by path suffix. -/
  operations : Table (Table OperationRule) := []
deriving DecidableEq, Repr

namespace Config

variable (config : Config)

/-- The name of the first rule for the class, unless it is empty. -/
def className? (resource raw : String) : Option String :=
  ((config.classNames.find? fun r => r.resource = resource ∧ r.raw = raw).map (·.name)).filter
    (· ≠ "")

def fieldName? (resource className field : String) : Option String :=
  ((config.fieldNames.find? fun r =>
    r.resource = resource ∧ r.className = className ∧ r.field = field).map (·.name)).filter (· ≠ "")

def isSkipped (resource : String) : Bool := config.skippedResources.contains resource

def operationsOf (resource : String) : Table OperationRule :=
  (config.operations.get? resource).getD []

end Config

end TypedClient
