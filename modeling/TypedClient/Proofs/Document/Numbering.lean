import Mathlib.Data.List.Perm.Basic
import TypedClient.Proofs.Document.Relabel

namespace TypedClient.Node

variable {α : Type}

mutual

theorem length_preorder : ∀ n : Node α, n.preorder.length = n.size
  | mk l k a t cs => by
    rw [preorder, List.length_cons, length_preorderAll cs, size, Nat.add_comm]

theorem length_preorderAll : ∀ cs : List (Node α), (preorderAll cs).length = sizeAll cs
  | [] => rfl
  | c :: cs => by
    rw [preorderAll, List.length_append, length_preorder c, length_preorderAll cs, sizeAll]

end

theorem mem_preorder_self (n : Node α) : n ∈ n.preorder := by
  cases n
  rw [preorder]
  exact List.mem_cons_self

theorem preorder_eq_cons (n : Node α) : n.preorder = n :: n.descendants := by
  cases n
  rw [descendants, preorder, List.tail_cons]

theorem descendants_eq_preorderAll (n : Node α) : n.descendants = preorderAll n.children := by
  cases n
  rw [descendants, preorder, List.tail_cons, children]

theorem mem_preorderAll {cs : List (Node α)} {m : Node α} :
    m ∈ preorderAll cs ↔ ∃ c ∈ cs, m ∈ c.preorder := by
  induction cs with
  | nil => simp [preorderAll]
  | cons c cs ih => rw [preorderAll, List.mem_append, ih, List.exists_mem_cons_iff]

mutual

theorem children_subset_preorder : ∀ n : Node α, ∀ m ∈ n.preorder, m.children ⊆ n.preorder
  | mk l k a t cs => by
    intro m hm c hc
    rw [preorder, List.mem_cons] at hm ⊢
    right
    rcases hm with rfl | hm
    · exact mem_preorderAll.2 ⟨c, hc, mem_preorder_self c⟩
    · exact children_subset_preorderAll cs m hm hc

theorem children_subset_preorderAll :
    ∀ cs : List (Node α), ∀ m ∈ preorderAll cs, m.children ⊆ preorderAll cs
  | [] => nofun
  | c :: cs => by
    intro m hm d hd
    rw [preorderAll, List.mem_append] at hm ⊢
    rcases hm with hm | hm
    · exact .inl (children_subset_preorder c m hm hd)
    · exact .inr (children_subset_preorderAll cs m hm hd)

end

mutual

/-- What passes from nodes to their children holds throughout a tree. -/
theorem forall_mem_preorder {P : Node α → Prop} (step : ∀ n, P n → ∀ c ∈ n.children, P c) :
    ∀ n, P n → ∀ m ∈ n.preorder, P m
  | mk l k a t cs => by
    intro hn m hm
    rw [preorder, List.mem_cons] at hm
    rcases hm with rfl | hm
    · exact hn
    · exact forall_mem_preorderAll step cs (step _ hn) m hm

theorem forall_mem_preorderAll {P : Node α → Prop} (step : ∀ n, P n → ∀ c ∈ n.children, P c) :
    ∀ cs, (∀ c ∈ cs, P c) → ∀ m ∈ preorderAll cs, P m
  | [] => nofun
  | c :: cs => by
    intro hcs m hm
    obtain ⟨hc, hrest⟩ := List.forall_mem_cons.1 hcs
    rw [preorderAll, List.mem_append] at hm
    rcases hm with hm | hm
    · exact forall_mem_preorder step c hc m hm
    · exact forall_mem_preorderAll step cs hrest m hm

end

theorem preorder_subset {n m : Node α} (h : m ∈ n.preorder) : m.preorder ⊆ n.preorder :=
  forall_mem_preorder (children_subset_preorder n) m h

theorem preorder_subset_preorderAll {cs : List (Node α)} {m : Node α} (h : m ∈ preorderAll cs) :
    m.preorder ⊆ preorderAll cs := by
  obtain ⟨c, hc, hm⟩ := mem_preorderAll.1 h
  exact fun e he => mem_preorderAll.2 ⟨c, hc, preorder_subset hm he⟩

mutual

/-- Every node but the root of a tree is a child of one of its nodes, and of only one. -/
theorem children_perm_descendants :
    ∀ n : Node α, (n.preorder.flatMap children).Perm n.descendants
  | mk l k a t cs => by
    rw [preorder, List.flatMap_cons, descendants_eq_preorderAll, children]
    exact children_perm_preorderAll cs

theorem children_perm_preorderAll :
    ∀ cs : List (Node α), (cs ++ (preorderAll cs).flatMap children).Perm (preorderAll cs)
  | [] => .refl _
  | c :: cs => by
    rw [preorderAll, List.flatMap_append, List.cons_append, preorder_eq_cons c]
    refine .cons c ?_
    -- The children further down are sorted by the tree that they stand in.
    have hc := children_perm_descendants c
    have hcs := children_perm_preorderAll cs
    rw [preorder_eq_cons] at hc
    exact (List.perm_append_comm_assoc _ _ _).trans (hc.append hcs)

end

@[simp]
theorem label_numberFrom (k : Nat) (n : Node α) : (n.numberFrom k).label = k := by
  cases n
  rfl

mutual

theorem map_label_preorder_numberFrom (k : Nat) :
    ∀ n : Node α, (n.numberFrom k).preorder.map label = List.range' k n.size
  | mk l kind a t cs => by
    rw [numberFrom, preorder, List.map_cons, label, map_label_preorderAll_numberAllFrom (k + 1) cs,
      size, Nat.add_comm 1, List.range'_succ]

theorem map_label_preorderAll_numberAllFrom (k : Nat) :
    ∀ cs : List (Node α),
      (preorderAll (numberAllFrom k cs)).map label = List.range' k (sizeAll cs)
  | [] => rfl
  | c :: cs => by
    rw [numberAllFrom, preorderAll, List.map_append, map_label_preorder_numberFrom k c,
      map_label_preorderAll_numberAllFrom (k + c.size) cs, sizeAll, List.range'_append_1]

end

mutual

theorem size_map {β : Type} (f : α → β) : ∀ n : Node α, (n.map f).size = n.size
  | mk l k a t cs => by rw [map, size, size, sizeAll_mapAll f cs]

theorem sizeAll_mapAll {β : Type} (f : α → β) :
    ∀ cs : List (Node α), sizeAll (mapAll f cs) = sizeAll cs
  | [] => rfl
  | c :: cs => by rw [mapAll, sizeAll, sizeAll, size_map f c, sizeAll_mapAll f cs]

end

mutual

theorem preorder_map {β : Type} (f : α → β) :
    ∀ n : Node α, (n.map f).preorder = n.preorder.map (map f)
  | mk l k a t cs => by
    rw [map, preorder, preorder, preorderAll_mapAll f cs, List.map_cons, map]

theorem preorderAll_mapAll {β : Type} (f : α → β) :
    ∀ cs : List (Node α), preorderAll (mapAll f cs) = (preorderAll cs).map (map f)
  | [] => rfl
  | c :: cs => by
    rw [mapAll, preorderAll, preorderAll, List.map_append, preorder_map f c,
      preorderAll_mapAll f cs]

end

theorem preorder_bare (d : Document) : d.bare.preorder = d.preorder.map bare := preorder_map _ d

theorem size_bare (d : Document) : d.bare.size = d.size := size_map _ d

/-- A numbered tree is numbered from its label. -/
theorem Numbered.eq_numberFrom {d : Document} (h : d.Numbered) : d = d.bare.numberFrom d.label := by
  obtain ⟨k, hk⟩ := h
  have hlabel : d.label = k := by rw [hk, label_numberFrom]
  rw [hlabel]
  exact hk

theorem Numbered.map_label_preorder {d : Document} (h : d.Numbered) :
    d.preorder.map label = List.range' d.label d.size := by
  rw [← size_bare, ← map_label_preorder_numberFrom, ← h.eq_numberFrom]

theorem Numbered.map_label_descendants {d : Document} (h : d.Numbered) :
    d.descendants.map label = List.range' (d.label + 1) (d.size - 1) := by
  rw [descendants, List.map_tail, h.map_label_preorder, List.tail_range']

section Document

variable {raw : RawNode} {d : Document}

theorem numbered_of_mem_preorder (h : d ∈ raw.number.preorder) : d.Numbered :=
  forall_mem_preorder (fun _ hn _ => hn.of_mem_children) raw.number (numbered_numberFrom 0 raw) d h

theorem size_number (raw : RawNode) : raw.number.size = raw.size := by
  rw [← size_bare, bare_number]

theorem map_label_preorder_number (raw : RawNode) :
    raw.number.preorder.map label = List.range raw.size := by
  rw [number, map_label_preorder_numberFrom, List.range_eq_range']

theorem preorder_number (raw : RawNode) : raw.number.preorder.map bare = raw.preorder := by
  rw [← preorder_bare, bare_number]

/-- The number of a node is its position in document order. -/
theorem label_of_getElem? {i : Nat} (h : raw.number.preorder[i]? = some d) : d.label = i := by
  have hlabel := congrArg (·[i]?) (map_label_preorder_number raw)
  rw [List.getElem?_map, h, Option.map_some] at hlabel
  obtain ⟨_, hi⟩ := List.getElem?_eq_some_iff.1 hlabel.symm
  rw [← hi, List.getElem_range]

theorem getElem?_label (h : d ∈ raw.number.preorder) : raw.number.preorder[d.label]? = some d := by
  obtain ⟨i, hi⟩ := List.mem_iff_getElem?.1 h
  rwa [label_of_getElem? hi]

theorem exists_of_getElem?_preorder {i : Nat} {n : RawNode} (h : raw.preorder[i]? = some n) :
    ∃ d ∈ raw.number.preorder, d.label = i ∧ d.bare = n := by
  rw [← preorder_number, List.getElem?_map, Option.map_eq_some_iff] at h
  obtain ⟨d, hd, hbare⟩ := h
  exact ⟨d, List.mem_of_getElem? hd, label_of_getElem? hd, hbare⟩

end Document

end TypedClient.Node
