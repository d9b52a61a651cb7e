import TypedClient.Table
import TypedClient.Text.Basic

namespace TypedClient

inductive Node (α : Type)
  | mk (label : α) (kind : String) (attrs : Table String) (text : String)
    (children : List (Node α))

abbrev RawNode := Node Unit

/-- A tree whose nodes carry their positions in document order, from zero at the root. -/
abbrev Document := Node Nat

namespace Node

variable {α β : Type}

def label : Node α → α
  | mk l _ _ _ _ => l

def kind : Node α → String
  | mk _ k _ _ _ => k

def attrs : Node α → Table String
  | mk _ _ a _ _ => a

def ownText : Node α → String
  | mk _ _ _ t _ => t

def children : Node α → List (Node α)
  | mk _ _ _ _ cs => cs

instance [Inhabited α] : Inhabited (Node α) := ⟨mk default "" [] "" []⟩

def attr? (n : Node α) (name : String) : Option String := n.attrs.get? name

mutual

def size : Node α → Nat
  | mk _ _ _ _ cs => 1 + sizeAll cs

def sizeAll : List (Node α) → Nat
  | [] => 0
  | c :: cs => c.size + sizeAll cs

end

mutual

def preorder : Node α → List (Node α)
  | mk l k a t cs => mk l k a t cs :: preorderAll cs

def preorderAll : List (Node α) → List (Node α)
  | [] => []
  | c :: cs => c.preorder ++ preorderAll cs

end

mutual

def map (f : α → β) : Node α → Node β
  | mk l k a t cs => mk (f l) k a t (mapAll f cs)

def mapAll (f : α → β) : List (Node α) → List (Node β)
  | [] => []
  | c :: cs => c.map f :: mapAll f cs

end

mutual

def numberFrom (next : Nat) : Node α → Document
  | mk _ k a t cs => mk next k a t (numberAllFrom (next + 1) cs)

def numberAllFrom (next : Nat) : List (Node α) → List Document
  | [] => []
  | c :: cs => c.numberFrom next :: numberAllFrom (next + c.size) cs

end

def number (n : Node α) : Document := n.numberFrom 0

def childrenOfKind (n : Node α) (kind : String) : List (Node α) :=
  n.children.filter (·.kind = kind)

def childOfKind? (n : Node α) (kind : String) : Option (Node α) :=
  n.children.find? (·.kind = kind)

/-- The nodes of a kind in the trees of a stack and below them, in document order. Each step takes
the top node off and puts its children in its place. -/
def searchKind (kind : String) : List (Node α) → List (Node α)
  | [] => []
  | mk l k a t cs :: stack =>
    if k = kind then mk l k a t cs :: searchKind kind (cs ++ stack)
    else searchKind kind (cs ++ stack)
termination_by stack => sizeAll stack
decreasing_by
  all_goals
    simp only [sizeAll, size]
    have h : ∀ xs ys : List (Node α), sizeAll (xs ++ ys) = sizeAll xs + sizeAll ys := by
      intro xs ys
      induction xs with
      | nil => simp [sizeAll]
      | cons x xs ih => simp [sizeAll, ih, Nat.add_assoc]
    rw [h]
    omega

def descendantsOfKind (n : Node α) (kind : String) : List (Node α) := searchKind kind n.children

mutual

/-- The texts of the nodes of a tree that are not blank, trimmed and in document order; a consumed
node is left out with everything below it. -/
def texts (consumed : α → Bool) : Node α → List (List Char)
  | mk l _ _ t cs =>
    if consumed l then []
    else (if Text.trim t.toList = [] then [] else [Text.trim t.toList]) ++ textsAll consumed cs

def textsAll (consumed : α → Bool) : List (Node α) → List (List Char)
  | [] => []
  | c :: cs => c.texts consumed ++ textsAll consumed cs

end

def textExcluding (consumed : α → Bool) (n : Node α) : String :=
  String.ofList ([' '].intercalate (n.texts consumed))

def flatText (n : Node α) : String := n.textExcluding fun _ => false

def isBlank (n : Node α) : Bool := n.children.isEmpty && n.ownText.toList.all Text.isBlank

end Node

end TypedClient
