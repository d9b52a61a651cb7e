import TypedClient.Text.Basic

namespace TypedClient

inductive Component
  | root
  | here
  | up
  | name (s : String)
deriving DecidableEq, Repr

structure Path where
  text : String
deriving DecidableEq, Repr

namespace Path

open Text

/-- A piece between slashes; empty pieces and dots lead nowhere. -/
def component? (piece : List Char) : Option Component :=
  if piece = [] ∨ piece = ['.'] then none
  else if piece = ['.', '.'] then some .up
  else some (.name (String.ofList piece))

/-- The pieces of a path. A dot counts only at the start. -/
def components (p : Path) : List Component :=
  match splitAt '/' p.text.toList with
  | [] => []
  | first :: more =>
    (if first = ['.'] then [.here]
      else if first = [] then (if more.isEmpty then [] else [.root])
      else (component? first).toList) ++ more.filterMap component?

/-- Whether the path can only mean a directory: it ends with a slash, or with a dot after one. -/
def endsInDirectory (p : Path) : Bool :=
  match (splitAt '/' p.text.toList).reverse with
  | last :: _ :: _ => last == [] || last == ['.']
  | _ => false

def fileName? (p : Path) : Option (List Char) :=
  match p.components.getLast? with
  | some (.name s) => some s.toList
  | _ => none

/-- The name at the end, in front of its last dot. A dot at its start does not count. -/
def stem? (p : Path) : Option String :=
  p.fileName?.map fun name => String.ofList <|
    match splitAtLast '.' name with
    | some ([], _) | none => name
    | some (stem, _) => stem

def extension? (p : Path) : Option String :=
  p.fileName?.bind fun name =>
    match splitAtLast '.' name with
    | some ([], _) | none => none
    | some (_, ending) => some (String.ofList ending)

def parent? (p : Path) : Option (List Component) :=
  match p.components with
  | [] | [.root] => none
  | cs => if cs.dropLast.isEmpty then none else some cs.dropLast

def holdsNul (p : Path) : Bool := p.text.toList.contains '\x00'

end Path

end TypedClient
