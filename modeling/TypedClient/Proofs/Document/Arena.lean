import Mathlib.Logic.Relation
import TypedClient.Document.Arena
import TypedClient.Proofs.Document.Numbering

namespace TypedClient

/-- A node as its arena holds it. -/
def Node.toSlot (d : Document) : Slot := ⟨d.kind, d.attrs, d.ownText, d.children.map Node.label⟩

namespace Arena

open Node

variable {α : Type} {arena : Arena}

section Insertion

mutual

theorem insert_eq (arena : Arena) : ∀ n : Node α,
    arena.insert n = (arena ++ (n.numberFrom arena.length).preorder.map toSlot, arena.length)
  | .mk l kind attrs text cs => by
    rw [Arena.insert, insertAll_eq _ cs]
    simp only [List.length_append, List.length_singleton, List.append_assoc, List.singleton_append]
    simp [List.modify_eq_set_getElem?, numberFrom, preorder, toSlot, Node.kind, Node.attrs, ownText,
      Node.children]

theorem insertAll_eq (arena : Arena) : ∀ cs : List (Node α),
    arena.insertAll cs = (arena ++ (preorderAll (numberAllFrom arena.length cs)).map toSlot,
      (numberAllFrom arena.length cs).map label)
  | [] => by simp [insertAll, numberAllFrom, preorderAll]
  | c :: cs => by
    rw [insertAll, insert_eq arena c]
    dsimp only
    rw [insertAll_eq _ cs]
    have hlength : (arena ++ (c.numberFrom arena.length).preorder.map toSlot).length =
        arena.length + c.size := by
      rw [List.length_append, List.length_map, ← List.length_map label,
        map_label_preorder_numberFrom, List.length_range']
    rw [hlength, numberAllFrom, preorderAll, List.map_append, List.map_cons, label_numberFrom,
      List.append_assoc]

end

theorem ofNode_eq (n : Node α) : ofNode n = n.number.preorder.map toSlot := by
  rw [ofNode, insert_eq, List.nil_append]
  rfl

end Insertion

/-- The arena holds the nodes of a tree, each at the handle that it is labelled with. -/
def Holds (arena : Arena) (ds : List Document) : Prop :=
  ∀ d ∈ preorderAll ds, arena[d.label]? = some d.toSlot

theorem holds_cons {d : Document} {ds : List Document} :
    arena.Holds (d :: ds) ↔
      arena[d.label]? = some d.toSlot ∧ arena.Holds d.children ∧ arena.Holds ds := by
  rw [Holds, preorderAll, List.forall_mem_append, preorder_eq_cons, List.forall_mem_cons,
    descendants_eq_preorderAll, and_assoc]
  rfl

theorem holds_append {ds es : List Document} :
    arena.Holds (ds ++ es) ↔ arena.Holds ds ∧ arena.Holds es := by
  rw [Holds, preorderAll_append, List.forall_mem_append]
  rfl

theorem readWithin?_of_getElem? {depth handle : Nat} (h : arena[handle]? = none) :
    arena.readWithin? depth handle = none := by
  cases depth with
  | zero => rfl
  | succ depth =>
    rw [readWithin?, h]
    rfl

mutual

theorem readWithin?_eq : ∀ (depth : Nat) (d : Document), arena.Holds [d] → d.size ≤ depth →
    arena.readWithin? depth d.label = some d.bare
  | 0, .mk l kind attrs text cs => by
    intro h hdepth
    rw [size] at hdepth
    omega
  | depth + 1, .mk l kind attrs text cs => by
    intro h hdepth
    obtain ⟨hslot, hcs, -⟩ := holds_cons.1 h
    rw [size] at hdepth
    have hchildren := mapM_readWithin?_eq depth cs hcs (by omega)
    rw [readWithin?, hslot]
    simp [toSlot, Node.children, hchildren, Node.kind, Node.attrs, Node.ownText, bare, map,
      mapAll_eq_map]

theorem mapM_readWithin?_eq : ∀ (depth : Nat) (ds : List Document), arena.Holds ds →
    sizeAll ds ≤ depth → (ds.map label).mapM (arena.readWithin? depth) = some (ds.map bare)
  | _, [] => fun _ _ => rfl
  | depth, d :: ds => by
    intro h hdepth
    obtain ⟨hslot, hcs, hds⟩ := holds_cons.1 h
    rw [sizeAll] at hdepth
    rw [List.map_cons, List.mapM_cons,
      readWithin?_eq depth d (holds_cons.2 ⟨hslot, hcs, nofun⟩) (by omega),
      mapM_readWithin?_eq depth ds hds (by omega)]
    rfl

end

/-- A turn of the search puts the children of the next node in its place. -/
theorem searchFrom?_cons {d : Document} (kind : String) (hslot : arena[d.label]? = some d.toSlot)
    (ds : List Document) (found : List Nat) :
    arena.searchFrom? kind ((d :: ds).map label).reverse found =
      arena.searchFrom? kind ((d.children ++ ds).map label).reverse
        (if d.kind = kind then found ++ [d.label] else found) := by
  rw [searchFrom?, repeatM_eq_of_monadTail, repeatM.body, searchTurn?, List.map_cons,
    List.reverse_cons, List.getLast?_concat, List.dropLast_concat]
  simp [hslot, toSlot, searchFrom?]

/-- The stack of a search holds the trees that are still to be searched, the next one at its end. -/
theorem searchFrom?_eq {ds : List Document} (kind : String) (h : arena.Holds ds)
    (found : List Nat) :
    arena.searchFrom? kind (ds.map label).reverse found =
      some (found ++ (searchKind kind ds).map label) := by
  fun_induction searchKind kind ds generalizing found with
  | case1 =>
    rw [searchFrom?, repeatM_eq_of_monadTail, repeatM.body]
    simp [searchTurn?]
  | case2 l a t cs stack ih =>
    obtain ⟨hslot, hcs, hstack⟩ := holds_cons.1 h
    rw [searchFrom?_cons kind hslot, Node.children, ih (holds_append.2 ⟨hcs, hstack⟩)]
    simp [Node.kind, label]
  | case3 l k a t cs stack hk ih =>
    obtain ⟨hslot, hcs, hstack⟩ := holds_cons.1 h
    rw [searchFrom?_cons kind hslot, Node.children, ih (holds_append.2 ⟨hcs, hstack⟩)]
    simp [Node.kind, hk]

theorem descendantsOfKind?_eq {d : Document} (h : arena.Holds [d]) (kind : String) :
    arena.descendantsOfKind? d.label kind = some ((d.descendantsOfKind kind).map label) := by
  obtain ⟨hslot, hcs, -⟩ := holds_cons.1 h
  rw [descendantsOfKind?, hslot]
  exact searchFrom?_eq kind hcs []

section Below

/-- A node and one of its children. -/
def HasChild (arena : Arena) (parent child : Nat) : Prop :=
  ∃ slot, arena[parent]? = some slot ∧ child ∈ slot.children

/-- A node is in the subtree of another one, or is that node. -/
def Below (arena : Arena) : Nat → Nat → Prop := Relation.ReflTransGen arena.HasChild

variable {raw : RawNode} {d : Document} {i : Nat}

theorem getElem?_ofNode (h : d ∈ raw.number.preorder) : (ofNode raw)[d.label]? = some d.toSlot := by
  rw [ofNode_eq, List.getElem?_map, getElem?_label h, Option.map_some]

theorem exists_of_getElem?_ofNode {slot : Slot} (h : (ofNode raw)[i]? = some slot) :
    ∃ d ∈ raw.number.preorder, d.label = i ∧ d.toSlot = slot := by
  rw [ofNode_eq, List.getElem?_map, Option.map_eq_some_iff] at h
  obtain ⟨d, hd, hslot⟩ := h
  exact ⟨d, List.mem_of_getElem? hd, label_of_getElem? hd, hslot⟩

theorem holds_ofNode (h : d ∈ raw.number.preorder) : (ofNode raw).Holds [d] := by
  intro e he
  rw [preorderAll, preorderAll, List.append_nil] at he
  exact getElem?_ofNode (preorder_subset h he)

/-- A tree is no larger than the arena that it stands in. -/
theorem size_le_length_ofNode (h : d ∈ raw.number.preorder) : d.size ≤ (ofNode raw).length := by
  have hlabels := (numbered_of_mem_preorder h).map_label_preorder
  rw [ofNode_eq, List.length_map, length_preorder, size_number]
  by_contra hlarger
  have hlast : d.label + raw.size ∈ d.preorder.map label := by
    rw [hlabels, List.mem_range'_1]
    omega
  have hmem := (List.map_subset label (preorder_subset h)) hlast
  rw [map_label_preorder_number, List.mem_range] at hmem
  omega

theorem read?_eq (h : d ∈ raw.number.preorder) : (ofNode raw).read? d.label = some d.bare :=
  readWithin?_eq _ d (holds_ofNode h) (size_le_length_ofNode h)

theorem hasChild_ofNode (h : d ∈ raw.number.preorder) {child : Nat} :
    (ofNode raw).HasChild d.label child ↔ ∃ c ∈ d.children, c.label = child := by
  unfold HasChild
  rw [getElem?_ofNode h]
  simp [toSlot]

theorem lt_of_mem_children {c : Document} (h : d.Numbered) (hc : c ∈ d.children) :
    d.label < c.label := by
  have hmem : c.label ∈ d.descendants.map label := by
    rw [descendants_eq_preorderAll]
    exact List.mem_map_of_mem (mem_preorderAll.2 ⟨c, hc, mem_preorder_self c⟩)
  rw [h.map_label_descendants, List.mem_range'_1] at hmem
  omega

theorem below_ofNode_iff (h : d ∈ raw.number.preorder) {j : Nat} :
    (ofNode raw).Below d.label j ↔ j ∈ d.preorder.map label := by
  rw [List.mem_map]
  constructor
  · intro hbelow
    induction hbelow with
    | refl => exact ⟨d, mem_preorder_self d, rfl⟩
    | tail _ hchild ih =>
      obtain ⟨e, he, rfl⟩ := ih
      obtain ⟨c, hc, rfl⟩ := (hasChild_ofNode (preorder_subset h he)).1 hchild
      exact ⟨c, children_subset_preorder d e he hc, rfl⟩
  · rintro ⟨e, he, rfl⟩
    have hstep : ∀ n : Document, (n ∈ raw.number.preorder ∧ (ofNode raw).Below d.label n.label) →
        ∀ c ∈ n.children, c ∈ raw.number.preorder ∧ (ofNode raw).Below d.label c.label :=
      fun n hn c hc => ⟨children_subset_preorder _ n hn.1 hc,
        hn.2.tail ((hasChild_ofNode hn.1).2 ⟨c, hc, rfl⟩)⟩
    exact (forall_mem_preorder hstep d ⟨h, .refl⟩ e he).2

end Below

/-- What it means that an arena is a tree in document order. -/
structure Mirrors (arena : Arena) (raw : RawNode) : Prop where
  /-- The slots are the nodes of the numbered tree, each at its number. -/
  slots : arena = raw.number.preorder.map toSlot
  labels : raw.number.preorder.map label = List.range raw.size
  /-- From a handle on, the node at that place in document order is read back. -/
  read : ∀ handle, arena.read? handle = raw.preorder[handle]?
  root : arena.read? 0 = some raw
  /-- The handles of a subtree follow each other without a gap. -/
  below : ∀ handle n, raw.preorder[handle]? = some n →
    ∀ j, arena.Below handle j ↔ handle ≤ j ∧ j < handle + n.size
  /-- Every handle but that of the root stands once among the children of the nodes. -/
  parents : (arena.flatMap Slot.children).Perm (List.range' 1 (raw.size - 1))
  rising : ∀ parent child, arena.HasChild parent child → parent < child
  /-- A search comes to an end. It finds all nodes of the kind below a node in increasing order, and
  these are the nodes of the kind that the recursion on the tree lists below it. -/
  search : ∀ handle n, raw.preorder[handle]? = some n → ∀ kind, ∃ found,
    arena.descendantsOfKind? handle kind = some found ∧ found.Pairwise (· < ·) ∧
    (∀ j, j ∈ found ↔ j ≠ handle ∧ arena.Below handle j ∧
      ∃ slot, arena[j]? = some slot ∧ slot.kind = kind) ∧
    found.map arena.read? = (n.descendants.filter (·.kind = kind)).map some
  /-- The search of the numbered tree finds the same nodes. -/
  numbered : ∀ d ∈ raw.number.preorder, ∀ kind,
    arena.descendantsOfKind? d.label kind = some ((d.descendantsOfKind kind).map label)

section Mirrors

variable {raw : RawNode} {d : Document}

theorem read?_ofNode (raw : RawNode) (handle : Nat) :
    (ofNode raw).read? handle = raw.preorder[handle]? := by
  cases hn : raw.preorder[handle]? with
  | some n =>
    obtain ⟨d, hd, rfl, rfl⟩ := exists_of_getElem?_preorder hn
    exact read?_eq hd
  | none =>
    have hslot : (ofNode raw)[handle]? = none := by
      rw [ofNode_eq, List.getElem?_map, Option.map_eq_none_iff, List.getElem?_eq_none_iff,
        length_preorder, size_number, ← length_preorder, ← List.getElem?_eq_none_iff]
      exact hn
    exact readWithin?_of_getElem? hslot

theorem children_ofNode_perm (raw : RawNode) :
    ((ofNode raw).flatMap Slot.children).Perm (List.range' 1 (raw.size - 1)) := by
  have hlabels := (numbered_numberFrom 0 raw).map_label_descendants
  rw [label_numberFrom, ← number, size_number, Nat.zero_add] at hlabels
  rw [ofNode_eq, List.flatMap_map, ← hlabels]
  exact (List.map_flatMap ▸ (children_perm_descendants raw.number).map label : _)

theorem pairwise_descendantsOfKind (h : d.Numbered) (kind : String) :
    ((d.descendantsOfKind kind).map label).Pairwise (· < ·) := by
  have hsub : ((d.descendantsOfKind kind).map label).Sublist (d.descendants.map label) := by
    rw [descendantsOfKind_eq_filter]
    exact List.filter_sublist.map label
  rw [h.map_label_descendants] at hsub
  exact (List.pairwise_lt_range' 1).sublist hsub

theorem mem_preorder_of_mem_descendants {e : Document} (h : e ∈ d.descendants) : e ∈ d.preorder :=
  preorder_eq_cons d ▸ List.mem_cons_of_mem d h

theorem mem_descendantsOfKind_iff (h : d ∈ raw.number.preorder) (kind : String) (j : Nat) :
    j ∈ (d.descendantsOfKind kind).map label ↔ j ≠ d.label ∧ (ofNode raw).Below d.label j ∧
      ∃ slot, (ofNode raw)[j]? = some slot ∧ slot.kind = kind := by
  rw [below_ofNode_iff h, List.mem_map, List.mem_map]
  simp only [descendantsOfKind_eq_filter, List.mem_filter, decide_eq_true_eq]
  constructor
  · rintro ⟨e, ⟨he, hkind⟩, rfl⟩
    have hpreorder := mem_preorder_of_mem_descendants he
    have hlabel := List.mem_map_of_mem (f := label) he
    rw [(numbered_of_mem_preorder h).map_label_descendants, List.mem_range'_1] at hlabel
    exact ⟨by omega, ⟨e, hpreorder, rfl⟩, _, getElem?_ofNode (preorder_subset h hpreorder), hkind⟩
  · rintro ⟨hne, ⟨e, he, rfl⟩, slot, hslot, hkind⟩
    rw [getElem?_ofNode (preorder_subset h he)] at hslot
    obtain rfl := Option.some.inj hslot
    rw [preorder_eq_cons, List.mem_cons] at he
    rcases he with rfl | he
    · exact absurd rfl hne
    · exact ⟨e, ⟨he, hkind⟩, rfl⟩

theorem read?_descendantsOfKind (h : d ∈ raw.number.preorder) (kind : String) :
    ((d.descendantsOfKind kind).map label).map (ofNode raw).read? =
      (d.bare.descendants.filter (·.kind = kind)).map some := by
  rw [← descendantsOfKind_eq_filter, descendantsOfKind_bare, List.map_map, List.map_map]
  refine List.map_congr_left fun e he => ?_
  rw [descendantsOfKind_eq_filter, List.mem_filter] at he
  exact read?_eq (preorder_subset h (mem_preorder_of_mem_descendants he.1))

/-- The arena that is filled by insertion is the tree in document order. -/
theorem mirrors_ofNode (raw : RawNode) : (ofNode raw).Mirrors raw where
  slots := ofNode_eq raw
  labels := map_label_preorder_number raw
  read := read?_ofNode raw
  root := by
    rw [read?_ofNode, preorder_eq_cons]
    rfl
  below := by
    intro handle n hn j
    obtain ⟨d, hd, rfl, rfl⟩ := exists_of_getElem?_preorder hn
    rw [below_ofNode_iff hd, (numbered_of_mem_preorder hd).map_label_preorder, List.mem_range'_1,
      size_bare]
  parents := children_ofNode_perm raw
  rising := by
    rintro parent child ⟨slot, hslot, hchild⟩
    obtain ⟨d, hd, rfl, rfl⟩ := exists_of_getElem?_ofNode hslot
    obtain ⟨c, hc, rfl⟩ := List.mem_map.1 hchild
    exact lt_of_mem_children (numbered_of_mem_preorder hd) hc
  search := by
    intro handle n hn kind
    obtain ⟨d, hd, rfl, rfl⟩ := exists_of_getElem?_preorder hn
    exact ⟨_, descendantsOfKind?_eq (holds_ofNode hd) kind,
      pairwise_descendantsOfKind (numbered_of_mem_preorder hd) kind,
      mem_descendantsOfKind_iff hd kind, read?_descendantsOfKind hd kind⟩
  numbered _ hd kind := descendantsOfKind?_eq (holds_ofNode hd) kind

end Mirrors

end Arena

end TypedClient
