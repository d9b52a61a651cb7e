import TypedClient.Config.Basic
import TypedClient.Serialized

namespace TypedClient

open Serialized

variable {V : Type} [Serialized V]

def ClassNameRule.read? (v : V) : Option ClassNameRule := do
  match ← fields? ["resource", "raw", "name"] v with
  | [some resource, some raw, some name] => return ⟨← text? resource, ← text? raw, ← text? name⟩
  | _ => none

def FieldNameRule.read? (v : V) : Option FieldNameRule := do
  match ← fields? ["resource", "class", "field", "name"] v with
  | [some resource, some className, some field, some name] =>
    return ⟨← text? resource, ← text? className, ← text? field, ← text? name⟩
  | _ => none

def readMapKey? (v : V) : Option (Option Scalar) := do
  match ← optional? v with
  | none => return none
  | some v => (Scalar.ofName? (← variant? v)).map some

def OperationRule.read? (v : V) : Option OperationRule := do
  match ← fields? ["name", "map_key"] v with
  | [some name, mapKey] => return ⟨← text? name, ← orElse none readMapKey? mapKey⟩
  | _ => none

def readOperations? (v : V) : Option (Table OperationRule) :=
  (entriesOf? OperationRule.read? v).map Table.ofList

def readOptionalText? (v : V) : Option (Option String) := do
  match ← optional? v with
  | none => return none
  | some v => (text? v).map some

def Config.read? (v : V) : Option Config := do
  match ← fields? ["runtime_crate", "dont_fix_id_type", "first_resource", "skip_resources",
      "class_names", "field_names", "operations"] v with
  | [runtimePath, keepIdWidth, firstResource, skipped, classNames, fieldNames, operations] =>
    let default : Config := {}
    return {
      runtimePath := ← orElse default.runtimePath text? runtimePath
      keepIdWidth := ← orElse default.keepIdWidth bool? keepIdWidth
      firstResource := ← orElse default.firstResource readOptionalText? firstResource
      skippedResources := ← orElse default.skippedResources (listOf? text?) skipped
      classNames := ← orElse default.classNames (listOf? ClassNameRule.read?) classNames
      fieldNames := ← orElse default.fieldNames (listOf? FieldNameRule.read?) fieldNames
      operations := ← orElse default.operations
        (fun v => (entriesOf? readOperations? v).map Table.ofList) operations }
  | _ => none

end TypedClient
