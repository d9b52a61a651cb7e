import TypedClient.Text.Quoted
import TypedClient.ValueType

namespace TypedClient

inductive Place
  | resourceNode (id : Nat)
  | resource (id : String)
  | classOf (raw resource : String)
  | operationNode (id : Nat) (resource : String)
  | operation (path resource : String)
deriving DecidableEq, Repr

inductive StructuralFault
  | missingAttribute (name : String)
  | malformedVersion
  | malformedResourceId
  | unknownRegion (name : String)
  | declaredTwice
  | untitledBody
  | shortFieldRow (cells : Nat)
  | malformedOperationId
  | untitledBlock
  | noPathTable
  | noQueryTable
  | unknownHeading (heading : String)
  | unknownBlock (title : String)
  | noResponseClasses
  | noResponseBody
  | noReturnValue (heading : String)
  | shortParameterRow (cells : Nat)
  | noStatusCode
deriving DecidableEq, Repr

inductive KeyFault
  | notAMap
  | floatingPoint
deriving DecidableEq, Repr

inductive GenerationFault
  | unhashableKey (type : String)
  | unsendableParameter (raw type : String)
  | reservedClass (name raw : String)
  | unknownField (method className field : String)
  | builderClash (builder operation : String)
  | invalidSource
  | noOutputDirectory (detail : String)
  /-- The output file cannot be written. The detail is empty where only the system knows it. -/
  | notWritten (path detail : String)
deriving DecidableEq, Repr

structure ClassIdentity where
  resource : String
  raw : String
deriving DecidableEq, Repr

inductive InputFault
  | unknownFormat (name : String)
  | unreadableDocument (path detail : String)
  | malformedDocument (path detail : String)
  | unreadableConfig (path detail : String)
  | malformedConfig (path detail : String)
deriving DecidableEq, Repr

inductive Failure
  | structural (place : Place) (fault : StructuralFault)
  | unknownType (resource text : String)
  | unknownOperation (resource path : String)
  | ambiguousOperation (resource path : String) (suffixes : List String)
  | classNameCollision (name : String) (first second : ClassIdentity)
  | duplicateOperation (name first second : String)
  | invalidMapKey (operation : String) (fault : KeyFault)
  | input (fault : InputFault)
  | generation (fault : GenerationFault)
  | json
  | yaml
deriving DecidableEq, Repr

namespace Place

def describe : Place → String
  | resourceNode id => s!"resource node #{id}"
  | resource id => s!"resource '{id}'"
  | classOf raw owner => s!"class '{raw}' of resource '{owner}'"
  | operationNode id owner => s!"operation node #{id} of resource '{owner}'"
  | operation path owner => s!"operation {path} of resource '{owner}'"

end Place

namespace StructuralFault

def describe : StructuralFault → String
  | missingAttribute name => s!"missing attribute {name}"
  | malformedVersion => "malformed data-version"
  | malformedResourceId => "malformed resource id"
  | unknownRegion name => s!"unknown region '{name}'"
  | declaredTwice => "declared more than once"
  | untitledBody => "response body without a title"
  | shortFieldRow n => s!"field row has {n} cells, expected name, type and description"
  | malformedOperationId => "malformed operation id"
  | untitledBlock => "block without a title"
  | noPathTable => "path parameters without a table"
  | noQueryTable => "query parameters without a table"
  | unknownHeading heading => s!"unknown parameter heading '{heading}'"
  | unknownBlock title => s!"unknown block '{title}'"
  | noResponseClasses => "no response classes block"
  | noResponseBody => "response classes without a body"
  | noReturnValue heading => s!"expected a return value, got '{heading}'"
  | shortParameterRow n =>
    s!"parameter row has {n} cells, expected name, required, type and description"
  | noStatusCode => "response error without a status code"

end StructuralFault

namespace KeyFault

def describe : KeyFault → String
  | notAMap => "the return type is not a mapping"
  | floatingPoint => "floating point keys can't be hashed"

end KeyFault

namespace GenerationFault

def describe : GenerationFault → String
  | unhashableKey type => s!"map key type {type} can't be hashed"
  | unsendableParameter raw type => s!"parameter {raw} has type {type}, which can't be sent"
  | reservedClass name raw =>
    s!"class {name} (raw {raw}) clashes with a generated type; rename it in the config"
  | unknownField method className field =>
    s!"method {method} of class {className} refers to unknown field {field}"
  | builderClash builder operation =>
    s!"builder {builder} of operation {operation} clashes with a class"
  | invalidSource => "Generated code is invalid"
  | noOutputDirectory detail => s!"Failed to create output directory{detail}"
  | notWritten path detail => s!"Failed to write {path}{detail}"

end GenerationFault

namespace ClassIdentity

def describe (c : ClassIdentity) : String := s!"'{c.raw}' (resource '{c.resource}')"

end ClassIdentity

namespace InputFault

def describe : InputFault → String
  | unknownFormat name => s!"Unknown document format '{name}'"
  | unreadableDocument path detail => s!"Failed to read document {quoted path}{detail}"
  | malformedDocument path detail => s!"Failed to parse document {quoted path}: {detail}"
  | unreadableConfig path detail => s!"Failed to read config file {quoted path}{detail}"
  | malformedConfig path detail => s!"Failed to parse config YAML from {quoted path}: {detail}"

end InputFault

namespace Failure

def message : Failure → String
  | structural place fault => s!"Structural error in {place.describe}: {fault.describe}"
  | unknownType resource text => s!"Unknown type \"{text}\" in resource \"{resource}\""
  | unknownOperation resource path => s!"Unknown operation {path} in resource \"{resource}\""
  | ambiguousOperation resource path suffixes =>
    s!"Ambiguous operation {path} in resource \"{resource}\": "
      ++ s!"suffixes {quotedList suffixes} all match"
  | classNameCollision name first second =>
    s!"Class name collision on {name}: {first.describe} and {second.describe}"
  | duplicateOperation name first second =>
    s!"Duplicate operation name {name}: {first} and {second}"
  | invalidMapKey operation fault =>
    s!"Invalid map key override on operation {operation}: {fault.describe}"
  | input fault => s!"Parse error: {fault.describe}"
  | generation fault => s!"Generation error: {fault.describe}"
  | json => "JSON error"
  | yaml => "YAML error"

end Failure

end TypedClient
