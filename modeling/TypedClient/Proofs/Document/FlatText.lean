import TypedClient.Proofs.Document.Numbering
import TypedClient.Proofs.Document.Written
import TypedClient.Proofs.Text.Trimming

namespace TypedClient

namespace Text

/-- The text without the blanks at its ends. -/
def trimmed : String → String := onChars trim

/-- The texts that are not empty, with a blank between each two. -/
def joinTexts (texts : List String) : String := joinWith " " (texts.filter (· ≠ ""))

theorem trim_eq_nil_iff {cs : List Char} : trim cs = [] ↔ cs.all isBlank := by
  rw [List.all_eq_true]
  constructor
  · intro h
    obtain ⟨before, after, hblank, hcs⟩ := exists_eq_append_trim cs
    rw [h, List.append_nil] at hcs
    exact hcs ▸ hblank
  · intro h
    have hblanks : trim (cs ++ [] ++ []) = [] := trim_eq_of_trimmed trimmed_nil h nofun
    simpa using hblanks

theorem trimmed_eq_empty_iff {s : String} : trimmed s = "" ↔ isBlankText s := by
  rw [trimmed, onChars, ofList_eq_iff, isBlankText, ← trim_eq_nil_iff]
  rfl

theorem joinWith_ne_empty {sep : String} {texts : List String} (hne : texts ≠ [])
    (h : ∀ t ∈ texts, t ≠ "") : joinWith sep texts ≠ "" := by
  obtain ⟨t, rest, rfl⟩ := List.exists_cons_of_ne_nil hne
  have ht := h t List.mem_cons_self
  cases rest with
  | nil => simpa [joinWith] using ht
  | cons next rest => simp [joinWith, ht]

theorem joinTexts_eq_empty_iff {texts : List String} :
    joinTexts texts = "" ↔ ∀ t ∈ texts, t = "" := by
  constructor
  · intro h
    by_contra hsome
    have hne : texts.filter (· ≠ "") ≠ [] := fun hnil => hsome (by simpa using hnil)
    exact joinWith_ne_empty hne (by simp) h
  · intro h
    rw [joinTexts, List.filter_eq_nil_iff.2 (by simpa using h)]
    rfl

theorem filter_eq_nil_of_joinTexts {texts : List String} (h : joinTexts texts = "") :
    texts.filter (· ≠ "") = [] := by
  simpa using joinTexts_eq_empty_iff.1 h

theorem joinTexts_filter (texts : List String) :
    joinTexts (texts.filter (· ≠ "")) = joinTexts texts := by
  rw [joinTexts, joinTexts, List.filter_filter]
  simp only [Bool.and_self]

theorem joinTexts_singleton (t : String) : joinTexts [t] = t := by
  by_cases ht : t = "" <;> simp [joinTexts, joinWith, ht]

theorem joinTexts_append (xs ys : List String) :
    joinTexts (xs ++ ys) = joinTexts [joinTexts xs, joinTexts ys] := by
  by_cases hx : joinTexts xs = ""
  · rw [hx, joinTexts, List.filter_append, filter_eq_nil_of_joinTexts hx, List.nil_append]
    exact (joinTexts_singleton _).symm
  · by_cases hy : joinTexts ys = ""
    · have htwo : joinTexts [joinTexts xs, ""] = joinTexts xs := by
        rw [← joinTexts_singleton (joinTexts xs), ← joinTexts_filter [_, ""], joinTexts_singleton]
        simp [hx, joinTexts_singleton]
      rw [hy, htwo, joinTexts, List.filter_append, filter_eq_nil_of_joinTexts hy, List.append_nil,
        joinTexts]
    · have hxs : xs.filter (· ≠ "") ≠ [] := fun hnil => hx (by rw [joinTexts, hnil]; rfl)
      have hys : ys.filter (· ≠ "") ≠ [] := fun hnil => hy (by rw [joinTexts, hnil]; rfl)
      have htwo : joinTexts [joinTexts xs, joinTexts ys] = joinTexts xs ++ " " ++ joinTexts ys := by
        rw [joinTexts, List.filter_cons_of_pos (by simpa using hx),
          List.filter_cons_of_pos (by simpa using hy)]
        simp [joinWith]
      rw [htwo, joinTexts, List.filter_append]
      exact String.intercalate_append_of_ne_nil hxs hys

theorem joinTexts_cons (t : String) (texts : List String) :
    joinTexts (t :: texts) = joinTexts [t, joinTexts texts] := by
  have h := joinTexts_append [t] texts
  rwa [joinTexts_singleton] at h

/-- Texts can be joined part by part. -/
theorem joinTexts_flatten (parts : List (List String)) :
    joinTexts parts.flatten = joinTexts (parts.map joinTexts) := by
  induction parts with
  | nil => rfl
  | cons part parts ih =>
    rw [List.flatten_cons, joinTexts_append, ih, List.map_cons, ← joinTexts_cons]

end Text

namespace Node

open Text

section Parts

variable {α : Type} (consumed : α → Bool)

/-- The texts that a flat text is made of. -/
def parts (n : Node α) : List String := (n.texts consumed).map String.ofList

theorem parts_mk (l : α) (kind : String) (attrs : Table String) (text : String)
    (cs : List (Node α)) :
    (mk l kind attrs text cs).parts consumed =
      if consumed l then [] else [trimmed text].filter (· ≠ "") ++ cs.flatMap (parts consumed) := by
  have hall : (textsAll consumed cs).map String.ofList = cs.flatMap (parts consumed) := by
    induction cs with
    | nil => rfl
    | cons c cs ih => rw [textsAll, List.map_append, ih, List.flatMap_cons, parts]
  rw [parts, texts]
  split
  · rfl
  · rw [List.map_append, hall]
    congr 1
    by_cases h : trim text.toList = [] <;> simp [trimmed, onChars, ofList_eq_iff, h]

theorem filter_parts (n : Node α) : (n.parts consumed).filter (· ≠ "") = n.parts consumed := by
  rw [List.filter_eq_self]
  intro t ht
  obtain ⟨cs, hcs, rfl⟩ := List.mem_map.1 ht
  have hne := (trimmed_texts consumed n cs hcs).1
  simpa [ofList_eq_iff] using hne

theorem textExcluding_eq_joinTexts (n : Node α) :
    n.textExcluding consumed = joinTexts (n.parts consumed) := by
  rw [joinTexts, filter_parts, textExcluding, ofList_eq_iff, joinWith, String.toList_intercalate,
    parts, List.map_map]
  simp [Function.comp_def]

/-- The flat text of a node is made of its own text and those of its children. -/
theorem textExcluding_eq_ite (n : Node α) :
    n.textExcluding consumed =
      if consumed n.label then ""
      else joinTexts (trimmed n.ownText :: n.children.map (textExcluding consumed)) := by
  cases n with
  | mk l kind attrs text cs =>
    rw [textExcluding_eq_joinTexts, parts_mk, label, ownText, children]
    split
    · rfl
    · rw [joinTexts_append, joinTexts_filter, joinTexts_singleton, List.flatMap_def,
        joinTexts_flatten, ← joinTexts_cons, List.map_map]
      congr 2
      exact List.map_congr_left fun c _ => (textExcluding_eq_joinTexts consumed c).symm

theorem trimmed_textExcluding (n : Node α) : Trimmed (n.textExcluding consumed).toList := by
  rw [textExcluding, String.toList_ofList]
  exact trimmed_intercalate (trimmed_texts consumed n)

mutual

/-- Only what is consumed within a tree counts. -/
theorem texts_congr {p q : α → Bool} :
    ∀ n : Node α, (∀ m ∈ n.preorder, p m.label = q m.label) → n.texts p = n.texts q
  | mk l kind attrs text cs => by
    intro h
    rw [preorder, List.forall_mem_cons] at h
    rw [texts, texts, textsAll_congr cs h.2, show p l = q l from h.1]

theorem textsAll_congr {p q : α → Bool} : ∀ cs : List (Node α),
    (∀ m ∈ preorderAll cs, p m.label = q m.label) → textsAll p cs = textsAll q cs
  | [] => fun _ => rfl
  | c :: cs => by
    intro h
    rw [preorderAll, List.forall_mem_append] at h
    rw [textsAll, textsAll, texts_congr c h.1, textsAll_congr cs h.2]

end

end Parts

section Remaining

variable {consumed : Nat → Bool}

/-- Whether one of the nodes is consumed and has a node in its subtree. -/
def hides (consumed : Nat → Bool) (nodes : List Document) (m : Document) : Bool :=
  nodes.any fun a => consumed a.label && (a.preorder.map label).contains m.label

/-- The nodes that none of them hides. -/
def unhidden (consumed : Nat → Bool) (nodes : List Document) : List Document :=
  nodes.filter fun m => !hides consumed nodes m

/-- The nodes of a tree that are not consumed and have no consumed node above them in the tree. -/
def remaining (d : Document) (consumed : Nat → Bool) : List Document := unhidden consumed d.preorder

theorem hides_eq_false {nodes : List Document} {m : Document}
    (hclosed : ∀ a ∈ nodes, a.preorder ⊆ nodes) (hm : m.label ∉ nodes.map label) :
    hides consumed nodes m = false := by
  rw [hides, List.any_eq_false]
  intro a ha
  have hnot : m.label ∉ a.preorder.map label := fun h => hm (List.map_subset label (hclosed a ha) h)
  simp [hnot]

theorem unhidden_append {ns ms : List Document} (hns : ∀ a ∈ ns, a.preorder ⊆ ns)
    (hms : ∀ a ∈ ms, a.preorder ⊆ ms) (hnodup : ((ns ++ ms).map label).Nodup) :
    unhidden consumed (ns ++ ms) = unhidden consumed ns ++ unhidden consumed ms := by
  rw [List.map_append, List.nodup_append] at hnodup
  obtain ⟨-, -, hdisjoint⟩ := hnodup
  rw [unhidden, List.filter_append]
  congr 1
  · refine List.filter_congr fun m hm => ?_
    have hother : hides consumed ms m = false :=
      hides_eq_false hms fun h => hdisjoint _ (List.mem_map_of_mem hm) _ h rfl
    rw [hides, List.any_append, ← hides, ← hides, hother, Bool.or_false]
  · refine List.filter_congr fun m hm => ?_
    have hother : hides consumed ns m = false :=
      hides_eq_false hns fun h => hdisjoint _ h _ (List.mem_map_of_mem hm) rfl
    rw [hides, List.any_append, ← hides, ← hides, hother, Bool.false_or]

theorem hides_cons_of_mem {d m : Document} (hm : m ∈ d.preorder) (nodes : List Document) :
    hides consumed (d :: nodes) m = (consumed d.label || hides consumed nodes m) := by
  have hcontains : (d.preorder.map label).contains m.label :=
    List.contains_iff_mem.2 (List.mem_map_of_mem hm)
  rw [hides, List.any_cons, hcontains, Bool.and_true, hides]

theorem unhidden_preorder {d : Document} (hd : d.label ∉ d.descendants.map label) :
    unhidden consumed d.preorder =
      if consumed d.label then [] else d :: unhidden consumed d.descendants := by
  have hclosed : ∀ a ∈ d.descendants, a.preorder ⊆ d.descendants := by
    rw [descendants_eq_preorderAll]
    exact fun a => preorder_subset_preorderAll
  have hhides (m : Document) (hm : m ∈ d :: d.descendants) :
      hides consumed (d :: d.descendants) m =
        (consumed d.label || hides consumed d.descendants m) :=
    hides_cons_of_mem (preorder_eq_cons d ▸ hm) _
  rw [preorder_eq_cons, unhidden, List.filter_congr fun m hm => by rw [hhides m hm]]
  cases hconsumed : consumed d.label
  · rw [List.filter_cons_of_pos (by simp [hides_eq_false hclosed hd])]
    rfl
  · exact List.filter_eq_nil_iff.2 (by simp)

mutual

theorem parts_eq_unhidden : ∀ d : Document, (d.preorder.map label).Nodup →
    d.parts consumed =
      ((unhidden consumed d.preorder).map fun m => trimmed m.ownText).filter (· ≠ "")
  | mk l kind attrs text cs => by
    intro hnodup
    rw [preorder_eq_cons, List.map_cons, List.nodup_cons] at hnodup
    rw [parts_mk, unhidden_preorder hnodup.1]
    rw [descendants_eq_preorderAll, children] at hnodup ⊢
    rw [flatMap_parts_eq_unhidden cs hnodup.2, label]
    split
    · rfl
    · rw [List.map_cons, ownText]
      exact (List.filter_append [trimmed text] _).symm

theorem flatMap_parts_eq_unhidden : ∀ cs : List Document, ((preorderAll cs).map label).Nodup →
    cs.flatMap (parts consumed) =
      ((unhidden consumed (preorderAll cs)).map fun m => trimmed m.ownText).filter (· ≠ "")
  | [] => fun _ => rfl
  | c :: cs => by
    intro hnodup
    have happend : unhidden consumed (c.preorder ++ preorderAll cs) =
        unhidden consumed c.preorder ++ unhidden consumed (preorderAll cs) :=
      unhidden_append (fun a ha => preorder_subset ha)
        (fun a ha => preorder_subset_preorderAll ha) hnodup
    rw [preorderAll, List.map_append, List.nodup_append] at hnodup
    rw [List.flatMap_cons, parts_eq_unhidden c hnodup.1, flatMap_parts_eq_unhidden cs hnodup.2.1,
      preorderAll, happend, List.map_append, List.filter_append]

end

/-- The flat text of a node reads the texts that remain in its subtree, in document order; so it is
made of the node's own text and the flat texts of its children. What is consumed elsewhere does not
count. -/
theorem textExcluding_remaining {raw : RawNode} {d : Document} (h : d ∈ raw.number.preorder)
    (consumed : Nat → Bool) :
    d.textExcluding consumed = joinTexts ((d.remaining consumed).map fun m => trimmed m.ownText) ∧
    d.textExcluding consumed =
      (if consumed d.label then ""
       else joinTexts (trimmed d.ownText :: d.children.map (textExcluding consumed))) ∧
    Trimmed (d.textExcluding consumed).toList ∧
    (d.textExcluding consumed = "" ↔ ∀ m ∈ d.remaining consumed, isBlankText m.ownText) ∧
    ∀ other : Nat → Bool, (∀ m ∈ d.preorder, other m.label = consumed m.label) →
      d.textExcluding other = d.textExcluding consumed := by
  have hnodup : (d.preorder.map label).Nodup := by
    rw [(numbered_of_mem_preorder h).map_label_preorder]
    exact List.nodup_range'
  have hjoin : d.textExcluding consumed =
      joinTexts ((d.remaining consumed).map fun m => trimmed m.ownText) := by
    rw [textExcluding_eq_joinTexts, parts_eq_unhidden d hnodup, joinTexts_filter, remaining]
  refine ⟨hjoin, textExcluding_eq_ite consumed d, trimmed_textExcluding consumed d, ?_,
    fun other h => ?_⟩
  · rw [hjoin, joinTexts_eq_empty_iff, List.forall_mem_map]
    exact forall₂_congr fun m _ => trimmed_eq_empty_iff
  · rw [textExcluding, textExcluding, texts_congr d h]

def describedBody : RawNode :=
  .branch "response_body" [] [.leaf "title" "SummonerDto",
    .leaf "text" "  - contains summoner information ", .branch "table" [] [.row ["id", "long"]]]

/-- The text of a class without its title and its table. The node around the class, which is
consumed too, does not count. -/
theorem textExcluding_remaining_described :
    describedBody.numberFrom 1 ∈ (RawNode.branch "document" [] [describedBody]).number.preorder ∧
    (describedBody.numberFrom 1).textExcluding (fun i => i = 0 || i = 2 || i = 4) =
      "- contains summoner information" := by
  have h : describedBody.numberFrom 1 ∈
      (RawNode.branch "document" [] [describedBody]).number.preorder := .tail _ (.head _)
  refine ⟨h, ?_⟩
  rw [(textExcluding_remaining h _).1]
  decide +kernel

end Remaining

end Node

end TypedClient
