import Mathlib.Data.List.Perm.Basic
import TypedClient.Document.Node

namespace TypedClient

namespace Node

variable {α : Type}

theorem searchKind_append (kind : String) (ns ms : List (Node α)) :
    searchKind kind (ns ++ ms) = searchKind kind ns ++ searchKind kind ms := by
  fun_induction searchKind kind ns with
  | case1 => rfl
  | case2 l a t cs stack ih =>
    rw [List.append_assoc] at ih
    rw [List.cons_append, searchKind, if_pos rfl, ih, List.cons_append]
  | case3 l k a t cs stack hk ih =>
    rw [List.append_assoc] at ih
    rw [List.cons_append, searchKind, if_neg hk, ih]

/-- The nodes of a kind in a tree. -/
def ofKind (kind : String) (n : Node α) : List (Node α) :=
  (if n.kind = kind then [n] else []) ++ n.descendantsOfKind kind

theorem searchKind_cons (kind : String) (n : Node α) (ns : List (Node α)) :
    searchKind kind (n :: ns) = n.ofKind kind ++ searchKind kind ns := by
  cases n with
  | mk l k a t cs =>
    rw [searchKind, searchKind_append]
    by_cases hk : k = kind
    · rw [if_pos hk, ofKind, Node.kind, if_pos hk]
      rfl
    · rw [if_neg hk, ofKind, Node.kind, if_neg hk]
      rfl

theorem searchKind_eq_flatMap (kind : String) (ns : List (Node α)) :
    searchKind kind ns = ns.flatMap (ofKind kind) := by
  induction ns with
  | nil => rw [searchKind, List.flatMap_nil]
  | cons n ns ih => rw [searchKind_cons, ih, List.flatMap_cons]

theorem preorderAll_append (ns ms : List (Node α)) :
    preorderAll (ns ++ ms) = preorderAll ns ++ preorderAll ms := by
  induction ns with
  | nil => simp [preorderAll]
  | cons n ns ih => simp [preorderAll, ih]

theorem searchKind_eq_filter (kind : String) (ns : List (Node α)) :
    searchKind kind ns = (preorderAll ns).filter (·.kind = kind) := by
  fun_induction searchKind kind ns with
  | case1 => rfl
  | case2 l a t cs stack ih => simp [ih, preorderAll_append, preorderAll, preorder, Node.kind]
  | case3 l k a t cs stack hk ih => simp [ih, preorderAll_append, preorderAll, preorder, Node.kind, hk]

/-- The nodes below a node, in document order. -/
def descendants (n : Node α) : List (Node α) := n.preorder.tail

theorem descendantsOfKind_eq_filter (n : Node α) (kind : String) :
    n.descendantsOfKind kind = n.descendants.filter (·.kind = kind) := by
  cases n
  exact searchKind_eq_filter kind _

theorem searchKind_perm (kind : String) {ns ms : List (Node α)} (h : ns.Perm ms) :
    (searchKind kind ns).Perm (searchKind kind ms) := by
  rw [searchKind_eq_flatMap, searchKind_eq_flatMap]
  exact h.flatMap_right _

end Node

/-- What surrounds a child of a node. -/
structure Frame where
  attrs : Table String
  text : String
  before : List RawNode
  after : List RawNode

namespace Frame

open Node

variable (f : Frame) (kind : String)

/-- The node of a kind that has a child within the frame. -/
def fill (n : RawNode) : RawNode := .mk () kind f.attrs f.text (f.before ++ n :: f.after)

theorem descendantsOfKind_fill (n : RawNode) (k : String) :
    (f.fill kind n).descendantsOfKind k =
      searchKind k f.before ++ n.ofKind k ++ searchKind k f.after := by
  rw [descendantsOfKind, fill, children, searchKind_append, searchKind_cons, List.append_assoc]

theorem ofKind_fill {k : String} (hk : kind ≠ k) (n : RawNode) :
    (f.fill kind n).ofKind k = searchKind k f.before ++ n.ofKind k ++ searchKind k f.after := by
  rw [ofKind, ← descendantsOfKind_fill f kind, fill, Node.kind, if_neg hk, List.nil_append]

end Frame

end TypedClient
