import TypedClient.Document.Node

namespace TypedClient.RawNode

def leaf (kind text : String) : RawNode := .mk () kind [] text []

def branch (kind : String) (attrs : Table String) (children : List RawNode) : RawNode :=
  .mk () kind attrs "" children

def row (cells : List String) : RawNode := branch "row" [] (cells.map (leaf "cell"))

/-- A class with the rows of its fields. -/
def responseBody (title : String) (rows : List (List String)) : RawNode :=
  branch "response_body" [] [leaf "title" title, branch "table" [] (rows.map row)]

def returnValue (type : String) : RawNode :=
  branch "response_body" [] [leaf "title" "Return Value:", leaf "text" type]

def responseClasses (bodies : List RawNode) : RawNode :=
  branch "block" [("title", "Response Classes")] bodies

def operation (path : String) (blocks : List RawNode) : RawNode :=
  branch "operation" [("id", "op_1"), ("method", "GET"), ("path", path)] blocks

/-- A resource that no region serves, with one endpoint. -/
def resource (id version : String) (operations : List RawNode) : RawNode :=
  branch "resource" [("data-regions", "[]"), ("data-version", version), ("id", id)]
    [branch "endpoint" [] operations]

end TypedClient.RawNode
