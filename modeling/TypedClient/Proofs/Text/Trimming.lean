import Mathlib.Data.List.TakeWhile
import TypedClient.Document.Node

namespace TypedClient

namespace Text

structure Trimmed (cs : List Char) : Prop where
  head : ∀ c, cs.head? = some c → ¬ isBlank c
  last : ∀ c, cs.getLast? = some c → ¬ isBlank c

theorem trimmed_nil : Trimmed [] := ⟨nofun, nofun⟩

theorem dropWhile_append_eq {p : Char → Bool} {cs rest : List Char} (hp : ∀ c ∈ cs, p c)
    (hrest : ∀ c, rest.head? = some c → ¬ p c) : (cs ++ rest).dropWhile p = rest := by
  rw [List.dropWhile_append_of_pos hp]
  cases rest with
  | nil => rfl
  | cons c rest => exact List.dropWhile_cons_of_neg (hrest c rfl)

theorem not_of_head?_dropWhile {p : Char → Bool} {cs : List Char} {c : Char}
    (h : (cs.dropWhile p).head? = some c) : ¬ p c := by
  have hnot := List.head?_dropWhile_not p cs
  rw [h] at hnot
  simpa using hnot

theorem trimEnd_append {cs after : List Char} (hlast : ∀ c, cs.getLast? = some c → ¬ isBlank c)
    (hafter : ∀ c ∈ after, isBlank c) : trimEnd (cs ++ after) = cs := by
  rw [trimEnd, List.reverse_append, dropWhile_append_eq, List.reverse_reverse]
  · simpa using hafter
  · simpa using hlast

theorem trim_eq_of_trimmed {before cs after : List Char} (h : Trimmed cs)
    (hbefore : ∀ c ∈ before, isBlank c) (hafter : ∀ c ∈ after, isBlank c) :
    trim (before ++ cs ++ after) = cs := by
  rw [trim, trimStart, List.append_assoc]
  cases cs with
  | nil =>
    rw [List.nil_append, List.dropWhile_append_of_pos hbefore, List.dropWhile_eq_nil_iff.2 hafter]
    rfl
  | cons c cs =>
    rw [dropWhile_append_eq hbefore, trimEnd_append h.last hafter]
    simpa using h.head

theorem trim_eq_self {cs : List Char} (h : Trimmed cs) : trim cs = cs := by
  have hnone : ∀ c ∈ ([] : List Char), isBlank c := nofun
  simpa using trim_eq_of_trimmed h hnone hnone

theorem trimmed_trim (cs : List Char) : Trimmed (trim cs) where
  head c hc := by
    have hstart : trim cs <+: trimStart cs := by
      apply List.reverse_suffix.1
      simpa [trim, trimEnd] using List.dropWhile_suffix isBlank
    obtain ⟨more, hmore⟩ := hstart
    rw [trimStart] at hmore
    apply not_of_head?_dropWhile
    rw [← hmore, List.head?_append, hc]
    rfl
  last c hc := by
    rw [trim, trimEnd, List.getLast?_reverse] at hc
    exact not_of_head?_dropWhile hc

theorem trimmed_iff {cs : List Char} : Trimmed cs ↔ trim cs = cs :=
  ⟨trim_eq_self, fun h => h ▸ trimmed_trim cs⟩

instance : DecidablePred Trimmed := fun _ => decidable_of_iff _ trimmed_iff.symm

theorem trim_blanks {before after : List Char} (hbefore : ∀ c ∈ before, isBlank c)
    (hafter : ∀ c ∈ after, isBlank c) (cs : List Char) : trim (before ++ cs ++ after) = trim cs := by
  obtain ⟨before', after', hblank, hcs⟩ := exists_eq_append_trim cs
  obtain ⟨hbefore', hafter'⟩ := List.forall_mem_append.1 hblank
  have hcore := trimmed_trim cs
  -- The blanks around the text join its own ones.
  generalize trim cs = core at hcs hcore ⊢
  subst hcs
  simpa using trim_eq_of_trimmed hcore (List.forall_mem_append.2 ⟨hbefore, hbefore'⟩)
    (List.forall_mem_append.2 ⟨hafter', hafter⟩)

theorem mem_of_mem_trim {cs : List Char} {c : Char} (h : c ∈ trim cs) : c ∈ cs := by
  obtain ⟨before, after, -, hcs⟩ := exists_eq_append_trim cs
  rw [hcs]
  exact List.mem_append_left after (List.mem_append_right before h)

theorem mem_of_mem_dropEnd {c d : Char} {cs : List Char} (h : d ∈ dropEnd c cs) : d ∈ cs := by
  rw [dropEnd, List.mem_reverse] at h
  exact List.mem_reverse.1 ((List.dropWhile_sublist _).mem h)

theorem dropEnd_append_replicate {c : Char} {cs : List Char} (h : cs.getLast? ≠ some c) (n : Nat) :
    dropEnd c (cs ++ List.replicate n c) = cs := by
  rw [dropEnd, List.reverse_append, List.reverse_replicate, dropWhile_append_eq, List.reverse_reverse]
  · intro d hd
    rw [List.eq_of_mem_replicate hd]
    exact beq_self_eq_true c
  · intro d hd
    rw [List.head?_reverse] at hd
    rw [beq_iff_eq]
    rintro rfl
    exact h hd

theorem getLast?_append_blanks_ne {c : Char} {cs blanks : List Char} (hc : ¬ isBlank c)
    (hlast : cs.getLast? ≠ some c) (hblanks : ∀ d ∈ blanks, isBlank d) : (cs ++ blanks).getLast? ≠ some c := by
  intro h
  rw [List.getLast?_append] at h
  cases hend : blanks.getLast? with
  | none =>
    rw [hend] at h
    exact hlast h
  | some d =>
    rw [hend, Option.some_or, Option.some.injEq] at h
    exact hc (h ▸ hblanks d (List.mem_of_getLast? hend))

theorem trimmed_intercalate {sep : List Char} {texts : List (List Char)}
    (h : ∀ cs ∈ texts, cs ≠ [] ∧ Trimmed cs) : Trimmed (sep.intercalate texts) := by
  induction texts with
  | nil => exact trimmed_nil
  | cons cs texts ih =>
    obtain ⟨⟨hcs, htrimmed⟩, hrest⟩ := List.forall_mem_cons.1 h
    cases texts with
    | nil => simpa using htrimmed
    | cons next texts =>
      have htail := ih hrest
      have hnext : sep.intercalate (next :: texts) ≠ [] := by
        have hne := (hrest next List.mem_cons_self).1
        cases texts with
        | nil => simpa using hne
        | cons _ _ => simp [List.intercalate_cons_cons, hne]
      rw [List.intercalate_cons_cons]
      constructor
      · intro c hc
        apply htrimmed.head
        obtain ⟨x, rest, rfl⟩ := List.exists_cons_of_ne_nil hcs
        simpa using hc
      · intro c hc
        apply htail.last
        rwa [List.getLast?_append, List.getLast?_eq_some_getLast hnext, Option.some_or,
          ← List.getLast?_eq_some_getLast hnext] at hc

end Text

namespace Node

open Text

variable {α : Type} (consumed : α → Bool)

mutual

theorem trimmed_texts : ∀ n : Node α, ∀ cs ∈ n.texts consumed, cs ≠ [] ∧ Trimmed cs
  | mk l k a t children => by
    intro cs hcs
    rw [texts] at hcs
    split at hcs
    · cases hcs
    · rw [List.mem_append] at hcs
      obtain hcs | hcs := hcs
      · split at hcs
        · cases hcs
        · rename_i hne
          rw [List.mem_singleton.1 hcs]
          exact ⟨hne, trimmed_trim _⟩
      · exact trimmed_textsAll children cs hcs

theorem trimmed_textsAll : ∀ ns : List (Node α), ∀ cs ∈ textsAll consumed ns, cs ≠ [] ∧ Trimmed cs
  | [] => nofun
  | n :: ns => by
    intro cs hcs
    rw [textsAll, List.mem_append] at hcs
    obtain hcs | hcs := hcs
    · exact trimmed_texts n cs hcs
    · exact trimmed_textsAll ns cs hcs

end

theorem trim_flatText (n : Node α) : trim n.flatText.toList = n.flatText.toList := by
  rw [flatText, textExcluding, String.toList_ofList]
  exact trim_eq_self (trimmed_intercalate (trimmed_texts _ n))

end Node

end TypedClient
