import TypedClient.Proofs.Document.Written
import TypedClient.Proofs.Extraction.ClassTable
import TypedClient.Proofs.Extraction.Unnumbered

namespace TypedClient.Extraction

open Node

variable {config : Config}

/-- A resource that is skipped and has no other resource inside. -/
structure IsSkipped (config : Config) (n : RawNode) : Prop where
  kind : n.kind = "resource"
  id : (idIn? n.attrs).any config.isSkipped = true
  alone : ∀ m ∈ n.descendants, m.kind ≠ "resource"

/-- Children of a root that differ at most in the text and the children of a skipped resource. -/
inductive SameChild (config : Config) : RawNode → RawNode → Prop
  | same (n : RawNode) : SameChild config n n
  | skipped {n n' : RawNode} (h : IsSkipped config n) (h' : IsSkipped config n') (hattrs : n.attrs = n'.attrs) :
    SameChild config n n'

theorem IsSkipped.ofKind_numberFrom {n : RawNode} (h : IsSkipped config n) (j : Nat) :
    (n.numberFrom j).ofKind "resource" = [n.numberFrom j] := by
  have hnone : (n.numberFrom j).descendantsOfKind "resource" = [] := by
    have hbare := descendantsOfKind_bare (n.numberFrom j) "resource"
    rw [bare_numberFrom, descendantsOfKind_eq_filter, List.filter_eq_nil_iff.2 (by simpa using h.alone)] at hbare
    exact List.map_eq_nil_iff.1 hbare.symm
  rw [ofKind, if_pos ((kind_numberFrom j n).trans h.kind), hnone, List.append_nil]

theorem agree_ofKind {n n' : RawNode} (h : SameChild config n n') (j k : Nat) :
    List.Forall₂ (Agree config) ((n.numberFrom j).ofKind "resource") ((n'.numberFrom k).ofKind "resource") := by
  cases h with
  | same =>
    apply ((shifted_numberFrom n j k).ofKind "resource").imp
    intro d d' hd
    exact ⟨hd.congr fun t k => attrs_map _ t, .inl hd⟩
  | skipped h h' hattrs =>
    rw [h.ofKind_numberFrom, h'.ofKind_numberFrom]
    refine .cons ⟨?_, .inr ?_⟩ .nil
    · rw [attrs_numberFrom, attrs_numberFrom, hattrs]
    · rw [attrs_numberFrom, h.id]

theorem agree_searchKind {cs cs' : List RawNode} (h : List.Forall₂ (SameChild config) cs cs') (j k : Nat) :
    List.Forall₂ (Agree config) (searchKind "resource" (numberAllFrom j cs))
      (searchKind "resource" (numberAllFrom k cs')) := by
  -- Behind a skipped child the numbers may differ, so that both places vary in the induction.
  induction h generalizing j k with
  | nil =>
    rw [numberAllFrom, numberAllFrom, searchKind]
    exact .nil
  | cons hc _ ih =>
    rw [numberAllFrom, numberAllFrom, searchKind_cons, searchKind_cons]
    exact List.rel_append (agree_ofKind hc j k) (ih _ _)

/-- Two documents that differ only inside skipped resources have the same registry, or fail in the same way
up to the number of a node. -/
theorem extract_skipped {kind text : String} {attrs : Table String} {cs cs' : List RawNode}
    (h : List.Forall₂ (SameChild config) cs cs') :
    (extract config (Node.mk () kind attrs text cs).number).mapError Failure.unnumbered =
      (extract config (Node.mk () kind attrs text cs').number).mapError Failure.unnumbered := by
  have hagree : List.Forall₂ (Agree config)
      ((Node.mk () kind attrs text cs).number.descendantsOfKind "resource")
      ((Node.mk () kind attrs text cs').number.descendantsOfKind "resource") :=
    agree_searchKind h 1 1
  exact (lockstep_extract hagree).mapError_eq fun _ _ hsame => hsame

open RawNode in
/-- A resource that is skipped by default. -/
def provider (operations : List RawNode) : RawNode :=
  resource "resource_7" "tournament-provider-v1" operations

theorem extract_skipped_provider :
    ∃ r, extract {} (Node.mk () "document" [] "" (provider [] :: redeclared.children)).number = .ok r ∧
      extract {} (Node.mk () "document" [] ""
        (provider [.leaf "operation" "No path."] :: redeclared.children)).number = .ok r := by
  have hprovider : SameChild {} (provider []) (provider [.leaf "operation" "No path."]) :=
    .skipped ⟨rfl, by decide +kernel, by decide +kernel⟩ ⟨rfl, by decide +kernel, by decide +kernel⟩ rfl
  have houtcomes := @extract_skipped {} "document" "" [] _ _
    (.cons hprovider (List.forall₂_same.2 fun n (_ : n ∈ redeclared.children) => .same n))
  have hok : (extract {} (Node.mk () "document" [] "" (provider [] :: redeclared.children)).number).isOk := by
    decide +kernel
  obtain ⟨r, hr⟩ := Outcome.isOk_iff.1 hok
  refine ⟨r, hr, ?_⟩
  rw [hr] at houtcomes
  cases hother : extract {} (Node.mk () "document" [] ""
      (provider [.leaf "operation" "No path."] :: redeclared.children)).number with
  | ok r' =>
    rw [hother] at houtcomes
    exact houtcomes.symm
  | error f =>
    rw [hother] at houtcomes
    cases houtcomes

end TypedClient.Extraction
