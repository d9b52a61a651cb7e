import TypedClient.Json.Basic
import TypedClient.Serialized

namespace TypedClient.Json

def string? : Json → Option String
  | .string s => s
  | _ => none

def members? : Json → Option (List (String × Json))
  | .object members => members.mapM fun p => p.1.map (·, p.2)
  | _ => none

instance : Serialized Json where
  text? := string?
  bool?
    | .bool b => some b
    | _ => none
  optional?
    | .null => some none
    | v => some (some v)
  variant?
    | .string s => s
    | .object [(some name, .null)] => some name
    | _ => none
  list?
    | .array elements => some elements
    | _ => none
  entries? := members?
  record?
    | .array elements => some (.positional elements)
    | v => v.members?.map .named
  maxDepth := 127

end TypedClient.Json
