import TypedClient.Document.Node

namespace TypedClient

structure Slot where
  kind : String
  attrs : Table String
  text : String
  children : List Nat

abbrev Arena := List Slot

namespace Arena

variable {α : Type}

mutual

/-- Puts a tree at the end of an arena. The node takes its slot first, without children; these
follow, and their handles are then written into the slot. -/
def insert (arena : Arena) : Node α → Arena × Nat
  | .mk _ kind attrs text cs =>
    let (grown, handles) := insertAll (arena ++ [⟨kind, attrs, text, []⟩]) cs
    (grown.modify arena.length fun slot => { slot with children := handles }, arena.length)

def insertAll (arena : Arena) : List (Node α) → Arena × List Nat
  | [] => (arena, [])
  | c :: cs =>
    let (grown, handle) := insert arena c
    let (full, handles) := insertAll grown cs
    (full, handle :: handles)

end

def ofNode (n : Node α) : Arena := (insert [] n).1

def readWithin? (arena : Arena) : Nat → Nat → Option RawNode
  | 0, _ => none
  | depth + 1, handle => do
    let slot ← arena[handle]?
    let children ← slot.children.mapM fun child => readWithin? arena depth child
    return .mk () slot.kind slot.attrs slot.text children

/-- The tree that is read from a handle on; none if a handle dangles or a node is below itself, as it
is in a tree that is deeper than there are slots. -/
def read? (arena : Arena) (handle : Nat) : Option RawNode := arena.readWithin? arena.length handle

/-- A turn of a search: what it goes on with, or what it has found. The stack has its top at its end:
the last handle is taken off, and its children are put on from the last one to the first. The search
fails if a handle dangles. -/
def searchTurn? (arena : Arena) (kind : String) :
    List Nat × List Nat → Option ((List Nat × List Nat) ⊕ List Nat)
  | (stack, found) =>
    match stack.getLast? with
    | none => some (.inr found)
    | some handle => do
      let slot ← arena[handle]?
      return .inl (stack.dropLast ++ slot.children.reverse,
        if slot.kind = kind then found ++ [handle] else found)

def searchFrom? (arena : Arena) (kind : String) (stack found : List Nat) : Option (List Nat) :=
  repeatM (arena.searchTurn? kind) (stack, found)

def descendantsOfKind? (arena : Arena) (handle : Nat) (kind : String) : Option (List Nat) := do
  let slot ← arena[handle]?
  searchFrom? arena kind slot.children.reverse []

end Arena

end TypedClient
