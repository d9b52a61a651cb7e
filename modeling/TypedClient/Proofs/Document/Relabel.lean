import Mathlib.Data.List.Forall2
import TypedClient.Proofs.Document.Search

namespace TypedClient.Node

variable {α β γ : Type}

theorem mapAll_eq_map (f : α → β) (cs : List (Node α)) : mapAll f cs = cs.map (map f) := by
  induction cs with
  | nil => rfl
  | cons c cs ih => rw [mapAll, ih, List.map_cons]

@[simp]
theorem label_map (f : α → β) (n : Node α) : (n.map f).label = f n.label := by
  cases n
  rfl

@[simp]
theorem kind_map (f : α → β) (n : Node α) : (n.map f).kind = n.kind := by
  cases n
  rfl

@[simp]
theorem attrs_map (f : α → β) (n : Node α) : (n.map f).attrs = n.attrs := by
  cases n
  rfl

@[simp]
theorem ownText_map (f : α → β) (n : Node α) : (n.map f).ownText = n.ownText := by
  cases n
  rfl

@[simp]
theorem children_map (f : α → β) (n : Node α) : (n.map f).children = n.children.map (map f) := by
  cases n
  exact mapAll_eq_map f _

theorem attr?_map (f : α → β) (n : Node α) (name : String) : (n.map f).attr? name = n.attr? name := by
  rw [attr?, attr?, attrs_map]

theorem isBlank_map (f : α → β) (n : Node α) : (n.map f).isBlank = n.isBlank := by
  simp [isBlank]

theorem childrenOfKind_map (f : α → β) (n : Node α) (kind : String) :
    (n.map f).childrenOfKind kind = (n.childrenOfKind kind).map (map f) := by
  simp [childrenOfKind, List.filter_map, Function.comp_def]

theorem childOfKind?_map (f : α → β) (n : Node α) (kind : String) :
    (n.map f).childOfKind? kind = (n.childOfKind? kind).map (map f) := by
  have hkind : (fun c : Node β => decide (c.kind = kind)) ∘ map f =
      fun c : Node α => decide (c.kind = kind) :=
    funext fun c => by rw [Function.comp_apply, kind_map]
  rw [childOfKind?, children_map, List.find?_map, hkind, childOfKind?]

theorem searchKind_map (f : α → β) (kind : String) (ns : List (Node α)) :
    searchKind kind (ns.map (map f)) = (searchKind kind ns).map (map f) := by
  fun_induction searchKind kind ns with
  | case1 => rw [List.map_nil, searchKind]
  | case2 l a t cs stack ih =>
    rw [List.map_append] at ih
    rw [List.map_cons, map, searchKind, if_pos rfl, mapAll_eq_map, ih, List.map_cons, map, mapAll_eq_map]
  | case3 l k a t cs stack hk ih =>
    rw [List.map_append] at ih
    rw [List.map_cons, map, searchKind, if_neg hk, mapAll_eq_map, ih]

theorem descendantsOfKind_map (f : α → β) (n : Node α) (kind : String) :
    (n.map f).descendantsOfKind kind = (n.descendantsOfKind kind).map (map f) := by
  rw [descendantsOfKind, children_map, searchKind_map, descendantsOfKind]

theorem ofKind_map (f : α → β) (n : Node α) (kind : String) :
    (n.map f).ofKind kind = (n.ofKind kind).map (map f) := by
  rw [ofKind, ofKind, kind_map, descendantsOfKind_map, List.map_append]
  split
  · rfl
  · rfl

mutual

theorem texts_map (f : α → β) (p : β → Bool) :
    ∀ n : Node α, (n.map f).texts p = n.texts (p ∘ f)
  | mk l k a t cs => by
    rw [map, texts, texts, textsAll_map f p cs]
    rfl

theorem textsAll_map (f : α → β) (p : β → Bool) :
    ∀ cs : List (Node α), textsAll p (mapAll f cs) = textsAll (p ∘ f) cs
  | [] => rfl
  | c :: cs => by rw [mapAll, textsAll, textsAll, texts_map f p c, textsAll_map f p cs]

end

theorem textExcluding_map (f : α → β) (p : β → Bool) (n : Node α) :
    (n.map f).textExcluding p = n.textExcluding (p ∘ f) := by
  rw [textExcluding, textExcluding, texts_map]

theorem flatText_map (f : α → β) (n : Node α) : (n.map f).flatText = n.flatText :=
  textExcluding_map f _ n

mutual

theorem map_map (g : β → γ) (f : α → β) : ∀ n : Node α, (n.map f).map g = n.map (g ∘ f)
  | mk l k a t cs => by
    rw [map, map, map, mapAll_mapAll g f cs]
    rfl

theorem mapAll_mapAll (g : β → γ) (f : α → β) :
    ∀ cs : List (Node α), mapAll g (mapAll f cs) = mapAll (g ∘ f) cs
  | [] => rfl
  | c :: cs => by rw [mapAll, mapAll, mapAll, map_map g f c, mapAll_mapAll g f cs]

end

mutual

theorem numberFrom_add (j k : Nat) : ∀ n : Node α, n.numberFrom (j + k) = (n.numberFrom j).map (· + k)
  | mk l kind a t cs => by
    rw [numberFrom, numberFrom, map, Nat.add_right_comm, numberAllFrom_add (j + 1) k cs]

theorem numberAllFrom_add (j k : Nat) :
    ∀ cs : List (Node α), numberAllFrom (j + k) cs = mapAll (· + k) (numberAllFrom j cs)
  | [] => rfl
  | c :: cs => by
    rw [numberAllFrom, numberAllFrom, mapAll, numberFrom_add j k c, Nat.add_right_comm,
      numberAllFrom_add (j + c.size) k cs]

end

theorem kind_numberFrom (k : Nat) (n : Node α) : (n.numberFrom k).kind = n.kind := by
  cases n
  rfl

theorem attrs_numberFrom (k : Nat) (n : Node α) : (n.numberFrom k).attrs = n.attrs := by
  cases n
  rfl

/-- A node as it is written, without its number. -/
def bare (d : Document) : RawNode := d.map fun _ => ()

theorem attrs_bare (d : Document) : d.bare.attrs = d.attrs := attrs_map _ d

theorem attr?_bare (d : Document) (name : String) : d.bare.attr? name = d.attr? name := attr?_map _ d name

theorem isBlank_bare (d : Document) : d.bare.isBlank = d.isBlank := isBlank_map _ d

theorem flatText_bare (d : Document) : d.bare.flatText = d.flatText := flatText_map _ d

theorem childrenOfKind_bare (d : Document) (kind : String) :
    d.bare.childrenOfKind kind = (d.childrenOfKind kind).map bare := childrenOfKind_map _ d kind

theorem childOfKind?_bare (d : Document) (kind : String) :
    d.bare.childOfKind? kind = (d.childOfKind? kind).map bare := childOfKind?_map _ d kind

theorem descendantsOfKind_bare (d : Document) (kind : String) :
    d.bare.descendantsOfKind kind = (d.descendantsOfKind kind).map bare :=
  descendantsOfKind_map _ d kind

mutual

theorem bare_numberFrom (k : Nat) : ∀ n : RawNode, (n.numberFrom k).bare = n
  | mk l kind a t cs => by
    rw [numberFrom, bare, map, mapAll_numberAllFrom (k + 1) cs]

theorem mapAll_numberAllFrom (k : Nat) :
    ∀ cs : List RawNode, mapAll (fun _ => ()) (numberAllFrom k cs) = cs
  | [] => rfl
  | c :: cs => by
    have h := bare_numberFrom k c
    rw [bare] at h
    rw [numberAllFrom, mapAll, h, mapAll_numberAllFrom (k + c.size) cs]

end

theorem bare_number (n : RawNode) : n.number.bare = n := bare_numberFrom 0 n

theorem bare_map (f : Nat → Nat) (d : Document) : (d.map f).bare = d.bare := map_map _ f d

/-- The same tree, with its labels counted from two places. -/
def Shifted (d d' : Document) : Prop :=
  ∃ (t : Document) (j k : Nat), d = t.map (· + j) ∧ d' = t.map (· + k)

namespace Shifted

variable {d d' : Document}

theorem congr {f : Document → γ} (h : Shifted d d') (hf : ∀ t k, f (t.map (· + k)) = f t) : f d = f d' := by
  obtain ⟨t, j, k, rfl, rfl⟩ := h
  rw [hf, hf]

theorem forall₂_map (ts : List Document) (j k : Nat) :
    List.Forall₂ Shifted (ts.map (map (· + j))) (ts.map (map (· + k))) := by
  rw [List.forall₂_map_left_iff, List.forall₂_map_right_iff, List.forall₂_same]
  exact fun t _ => ⟨t, j, k, rfl, rfl⟩

theorem childrenOfKind (h : Shifted d d') (kind : String) :
    List.Forall₂ Shifted (d.childrenOfKind kind) (d'.childrenOfKind kind) := by
  obtain ⟨t, j, k, rfl, rfl⟩ := h
  rw [childrenOfKind_map, childrenOfKind_map]
  exact forall₂_map _ j k

theorem descendantsOfKind (h : Shifted d d') (kind : String) :
    List.Forall₂ Shifted (d.descendantsOfKind kind) (d'.descendantsOfKind kind) := by
  obtain ⟨t, j, k, rfl, rfl⟩ := h
  rw [descendantsOfKind_map, descendantsOfKind_map]
  exact forall₂_map _ j k

theorem ofKind (h : Shifted d d') (kind : String) :
    List.Forall₂ Shifted (d.ofKind kind) (d'.ofKind kind) := by
  obtain ⟨t, j, k, rfl, rfl⟩ := h
  rw [ofKind_map, ofKind_map]
  exact forall₂_map _ j k

end Shifted

theorem shifted_numberFrom (n : Node α) (j k : Nat) : Shifted (n.numberFrom j) (n.numberFrom k) := by
  refine ⟨n.numberFrom 0, j, k, ?_, ?_⟩
  · rw [← numberFrom_add, Nat.zero_add]
  · rw [← numberFrom_add, Nat.zero_add]

/-- Whether the labels of a tree are its positions, counted from somewhere. -/
def Numbered (d : Document) : Prop := ∃ k, d = d.bare.numberFrom k

theorem numbered_numberFrom (k : Nat) (n : RawNode) : (n.numberFrom k).Numbered :=
  ⟨k, by rw [bare_numberFrom]⟩

theorem Numbered.eq_map {d : Document} (h : d.Numbered) :
    ∃ k, d = d.bare.number.map (· + k) := by
  obtain ⟨k, hk⟩ := h
  refine ⟨k, ?_⟩
  rw [number, ← numberFrom_add, Nat.zero_add]
  exact hk

theorem numbered_of_mem_numberAllFrom {k : Nat} {cs : List RawNode} {d : Document}
    (h : d ∈ numberAllFrom k cs) : d.Numbered := by
  induction cs generalizing k with
  | nil => cases h
  | cons c cs ih =>
    rw [numberAllFrom] at h
    rcases List.mem_cons.1 h with rfl | h
    · exact numbered_numberFrom k c
    · exact ih h

theorem Numbered.of_mem_children {d c : Document} (h : d.Numbered) (hc : c ∈ d.children) :
    c.Numbered := by
  obtain ⟨k, hk⟩ := h
  rw [hk] at hc
  cases hd : d.bare with
  | mk l kind a t cs =>
    rw [hd, numberFrom] at hc
    exact numbered_of_mem_numberAllFrom hc

theorem Numbered.of_mem_searchKind {kind : String} {ds : List Document} {d : Document}
    (h : ∀ c ∈ ds, c.Numbered) (hd : d ∈ searchKind kind ds) : d.Numbered := by
  fun_induction searchKind kind ds with
  | case1 => cases hd
  | case2 l a t cs stack ih =>
    have hrest : ∀ c ∈ cs ++ stack, c.Numbered := by
      intro c hc
      rcases List.mem_append.1 hc with hc | hc
      · exact (h _ List.mem_cons_self).of_mem_children hc
      · exact h c (List.mem_cons_of_mem _ hc)
    rcases List.mem_cons.1 hd with rfl | hd
    · exact h _ List.mem_cons_self
    · exact ih hrest hd
  | case3 l k a t cs stack hk ih =>
    refine ih (fun c hc => ?_) hd
    rcases List.mem_append.1 hc with hc | hc
    · exact (h _ List.mem_cons_self).of_mem_children hc
    · exact h c (List.mem_cons_of_mem _ hc)

end TypedClient.Node
