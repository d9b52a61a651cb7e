import Mathlib.Data.List.Basic
import TypedClient.Naming
import TypedClient.Proofs.Naming.LetterCase

namespace TypedClient.Naming

open Text

section Uppercase

theorem uppercase_cons (c : Char) (cs : List Char) :
    uppercase (c :: cs) = toUpper c ++ uppercase cs :=
  List.flatMap_cons

theorem uppercase_append (cs ds : List Char) :
    uppercase (cs ++ ds) = uppercase cs ++ uppercase ds :=
  List.flatMap_append

theorem length_le_uppercase (cs : List Char) : cs.length ≤ (uppercase cs).length := by
  induction cs with
  | nil => exact Nat.le_refl 0
  | cons c cs ih =>
    have hc := List.length_pos_iff.2 (toUpper_ne_nil c)
    rw [uppercase_cons, List.length_append, List.length_cons]
    omega

theorem uppercase_eq_nil {cs : List Char} (h : uppercase cs = []) : cs = [] := by
  have := length_le_uppercase cs
  rw [h] at this
  exact List.length_eq_zero_iff.1 (Nat.le_zero.1 this)

theorem uppercase_eq_singleton {cs : List Char} {x : Char} (h : uppercase cs = [x]) :
    ∃ c, cs = [c] ∧ toUpper c = [x] := by
  have hlength := length_le_uppercase cs
  rw [h] at hlength
  match cs with
  | [] => cases h
  | [c] => exact ⟨c, rfl, by simpa [uppercase] using h⟩
  | _ :: _ :: _ => simp at hlength

theorem uppercase_eq_map {cs : List Char} (h : ∀ c ∈ cs, toUpper c = [capital c]) :
    uppercase cs = cs.map capital := by
  rw [uppercase, List.flatMap_congr h, ← List.map_eq_flatMap]

end Uppercase

section Overwrite

variable {word letters : List Char}

theorem length_overwrite (word letters : List Char) :
    (overwrite word letters).length = word.length := by
  simp [overwrite]
  omega

theorem overwrite_of_length_le (h : word.length ≤ letters.length) :
    overwrite word letters = letters.take word.length := by
  rw [overwrite, List.drop_eq_nil_of_le h, List.append_nil]

theorem overwrite_eq_self_iff (h : word.length ≤ letters.length) :
    overwrite word letters = word ↔ word <+: letters := by
  rw [overwrite_of_length_le h, List.prefix_iff_eq_take, eq_comm]

end Overwrite

theorem isAcronym_iff {cs : List Char} : isAcronym cs ↔ cs ∈ acronyms.map String.toList := by
  rw [isAcronym, List.contains_iff_mem, List.mem_map]
  constructor
  · exact fun h => ⟨_, h, String.toList_ofList⟩
  · rintro ⟨a, ha, rfl⟩
    rwa [String.ofList_toList]

/-- What the acronyms, and the letters that could become several of theirs, are checked for. -/
structure AcronymsChecked : Prop where
  letters : ∀ cs ∈ acronyms.map String.toList,
    cs.all fun c => c.toNat < 0x80 ∧ isLowercase c = false ∧ c ≠ '_'
  uppercase : ∀ cs ∈ acronyms.map String.toList, uppercase cs = cs
  continued : ∀ cs ∈ acronyms.map String.toList, ∀ ds ∈ acronyms.map String.toList,
    cs <+: ds → ds.length ≤ cs.length + 1
  double : ∀ cs ∈ acronyms.map String.toList, ['S', 'S'] <:+: cs →
    cs = ['C', 'S', 'S'] ∨ cs = ['X', 'S', 'S'] ∨ cs = ['S', 'S', 'H']
  double_mem : isAcronym ['C', 'S', 'S'] ∧ isAcronym ['X', 'S', 'S']
  expansion : ∀ e ∈ uppercaseExpansions, Char.ofNat e.1 = 'ß' ∨
    (e.2.any fun n => 0x80 ≤ (Char.ofNat n).toNat) ∨
      ∀ cs ∈ acronyms.map String.toList, ¬ e.2.map Char.ofNat <:+: cs
  expansion_head : ∀ e ∈ uppercaseExpansions,
    (e.2.map Char.ofNat).head?.getD (Char.ofNat e.1) ≠ 'C' ∧
      (e.2.map Char.ofNat).head?.getD (Char.ofNat e.1) ≠ 'X'

theorem acronyms_checked : AcronymsChecked := by
  constructor <;> decide +kernel

theorem letter_of_isAcronym {cs : List Char} {c : Char} (h : isAcronym cs) (hc : c ∈ cs) :
    c.toNat < 0x80 ∧ isLowercase c = false ∧ c ≠ '_' := by
  simpa using List.all_eq_true.1 (acronyms_checked.letters cs (isAcronym_iff.1 h)) c hc

theorem uppercase_of_isAcronym {cs : List Char} (h : isAcronym cs) : uppercase cs = cs :=
  acronyms_checked.uppercase cs (isAcronym_iff.1 h)

theorem length_le_of_isAcronym_append {cs ds : List Char} (h : isAcronym cs)
    (happend : isAcronym (cs ++ ds)) : ds.length ≤ 1 := by
  have := acronyms_checked.continued cs (isAcronym_iff.1 h) _ (isAcronym_iff.1 happend)
    (List.prefix_append cs ds)
  rw [List.length_append] at this
  omega

/-- No letter but the sharp s becomes several letters of an acronym. -/
theorem toUpper_of_infix_isAcronym {cs : List Char} {c : Char} (h : isAcronym cs)
    (hc : toUpper c <:+: cs) : toUpper c = [capital c] ∨ c = 'ß' := by
  have hall := toUpper_cases
    (P := fun c upper => upper = [upper.head?.getD c] ∨ c = 'ß' ∨
      (upper.any fun x => 0x80 ≤ x.toNat) ∨ ∀ cs ∈ acronyms.map String.toList, ¬ upper <:+: cs)
    (by simp) (fun e he => .inr (by simpa using acronyms_checked.expansion e he))
    (by simp) (by simp) c
  rcases hall with hone | hsharp | hany | hnone
  · exact .inl hone
  · exact .inr hsharp
  · obtain ⟨x, hx, hcode⟩ := List.any_eq_true.1 hany
    exact absurd (letter_of_isAcronym h (hc.subset hx)).1 (by simpa using hcode)
  · exact absurd hc (hnone cs (isAcronym_iff.1 h))

/-- No letter becomes several of which the first begins an acronym with a double s. -/
theorem toUpper_of_capital {c x : Char} (hx : x = 'C' ∨ x = 'X') (h : capital c = x) :
    toUpper c = [x] := by
  have hall := toUpper_cases
    (P := fun c upper => upper = [upper.head?.getD c] ∨
      upper.head?.getD c ≠ 'C' ∧ upper.head?.getD c ≠ 'X')
    (by simp) (fun e he => .inr (acronyms_checked.expansion_head e he)) (by simp) (by simp) c
  rcases hall with hone | ⟨hc, hx'⟩
  · exact h ▸ hone
  · rcases hx with rfl | rfl
    · exact absurd h hc
    · exact absurd h hx'

theorem uppercase_sharp {c x : Char} (hx : x = 'C' ∨ x = 'X') (h : capital c = x) :
    uppercase [c, 'ß'] = [x, 'S', 'S'] := by
  rw [uppercase_cons, toUpper_of_capital hx h, uppercase_cons, tables_checked.sharp.2]
  rfl

theorem eq_of_isAcronym_double {before after : List Char}
    (h : isAcronym (before ++ 'S' :: 'S' :: after)) :
    (before = ['C'] ∨ before = ['X']) ∧ after = [] ∨ before = [] ∧ after = ['H'] := by
  have hcs := acronyms_checked.double _ (isAcronym_iff.1 h) ⟨before, after, by simp⟩
  match before with
  | [] => simpa using hcs
  | [b] => simpa [or_and_right] using hcs
  | [_, _] => simp at hcs
  | _ :: _ :: _ :: _ => simp at hcs

/-- A word that is an acronym in uppercase becomes it letter by letter, but for the sharp s. -/
theorem word_of_isAcronym {word : List Char} (h : isAcronym (uppercase word)) :
    (∀ c ∈ word, toUpper c = [capital c]) ∨
    (∃ c, word = [c, 'ß'] ∧ (toUpper c = ['C'] ∨ toUpper c = ['X'])) ∨
    ∃ c, word = ['ß', c] ∧ toUpper c = ['H'] := by
  by_cases hall : ∀ c ∈ word, toUpper c = [capital c]
  · exact .inl hall
  · obtain ⟨c, hc, hupper⟩ : ∃ c ∈ word, toUpper c ≠ [capital c] := by simpa using hall
    obtain ⟨before, after, rfl⟩ := List.append_of_mem hc
    rw [uppercase_append, uppercase_cons] at h
    obtain rfl : c = 'ß' :=
      (toUpper_of_infix_isAcronym h ⟨_, _, List.append_assoc _ _ _⟩).resolve_left hupper
    rw [tables_checked.sharp.2, List.cons_append, List.singleton_append] at h
    rcases eq_of_isAcronym_double h with ⟨hbefore, hafter⟩ | ⟨hbefore, hafter⟩
    · obtain rfl := uppercase_eq_nil hafter
      rcases hbefore with hbefore | hbefore <;>
        obtain ⟨d, rfl, hd⟩ := uppercase_eq_singleton hbefore
      · exact .inr (.inl ⟨d, rfl, .inl hd⟩)
      · exact .inr (.inl ⟨d, rfl, .inr hd⟩)
    · obtain rfl := uppercase_eq_nil hbefore
      obtain ⟨d, rfl, hd⟩ := uppercase_eq_singleton hafter
      exact .inr (.inr ⟨d, rfl, hd⟩)

/-- An acronym in mixed letters: neither all lowercase nor as its uppercase begins. -/
def IsMixed (word : List Char) : Prop :=
  isAcronym (uppercase word) ∧ word.all isLowercase = false ∧ ¬ word <+: uppercase word

instance : DecidablePred IsMixed := fun word =>
  inferInstanceAs (Decidable
    (isAcronym (uppercase word) ∧ word.all isLowercase = false ∧ ¬ word <+: uppercase word))

/-- The word, in capitals if it is a mixed acronym. -/
def settle (word : List Char) : List Char :=
  if IsMixed word then overwrite word (uppercase word) else word

theorem settle_eq_self_iff (word : List Char) : settle word = word ↔ ¬ IsMixed word := by
  unfold settle
  split
  · rename_i h
    simp [overwrite_eq_self_iff (length_le_uppercase word), h, h.2.2]
  · simp_all

theorem length_settle (word : List Char) : (settle word).length = word.length := by
  unfold settle
  split
  · exact length_overwrite _ _
  · rfl

/-- Unless all its letters are lowercase, an acronym is written over by its uppercase. -/
theorem settle_of_isAcronym {word : List Char} (h : isAcronym (uppercase word))
    (hcase : word.all isLowercase = false) : settle word = overwrite word (uppercase word) := by
  unfold settle
  split
  · rfl
  · rename_i hmixed
    have hstart : word <+: uppercase word :=
      Classical.byContradiction fun hstart => hmixed ⟨h, hcase, hstart⟩
    rw [(overwrite_eq_self_iff (length_le_uppercase word)).2 hstart]

end TypedClient.Naming
