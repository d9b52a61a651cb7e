import TypedClient.Document.Node
import TypedClient.Serialized

namespace TypedClient.RawNode

open Serialized

variable {V : Type} [Serialized V]

def readWithin? : Nat → V → Option RawNode
  | 0, _ => none
  | 1, v => do
    match ← fields? ["kind", "attrs", "text", "children"] v with
    | [kind, none, text, none] =>
      return .mk () (← orElse "" text? kind) [] (← orElse "" text? text) []
    | _ => none
  | depth + 2, v => do
    match ← fields? ["kind", "attrs", "text", "children"] v with
    | [kind, attrs, text, children] =>
      return .mk () (← orElse "" text? kind)
        (Table.ofList (← orElse [] (entriesOf? text?) attrs))
        (← orElse "" text? text)
        (← orElse [] (listOf? (readWithin? depth)) children)
    | _ => none

def read? (v : V) : Option RawNode := readWithin? (maxDepth V) v

end TypedClient.RawNode
