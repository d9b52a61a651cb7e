import TypedClient.Config.Decode
import TypedClient.Document.Decode
import TypedClient.Document.Format
import TypedClient.Json.Decode
import TypedClient.Json.Reader
import TypedClient.Yaml.Decode

namespace TypedClient

def Config.ofText (text : String) : Except Failure Config :=
  if Text.isBlankText text then .ok {}
  else match (Yaml.readValue? text.toList).bind Config.read? with
    | some config => .ok config
    | none => .error .yaml

def RawNode.ofText (format : DocumentFormat) (text : String) : Except Failure RawNode :=
  match format with
  | .json =>
    match (Json.read? text.toList).bind RawNode.read? with
    | some n => .ok n
    | none => .error .json
  | .yaml =>
    match (Yaml.readValue? text.toList).bind RawNode.read? with
    | some n => .ok n
    | none => .error .yaml

def Document.ofText (format : DocumentFormat) (text : String) : Except Failure Document :=
  (RawNode.ofText format text).map Node.number

end TypedClient
