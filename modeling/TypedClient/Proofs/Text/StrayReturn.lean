import TypedClient.Proofs.Text.Pieces

namespace TypedClient.Text

variable {cs xs ys : List Char}

/-- A carriage return that something visible follows in its line. -/
def StrayReturn (cs : List Char) : Prop :=
  ∃ before after, cs = before ++ '\r' :: after ∧ ∃ c ∈ after.takeWhile (· ≠ '\n'), ¬ isBlank c

theorem not_strayReturn_of_not_mem (h : '\r' ∉ cs) : ¬ StrayReturn cs := by
  rintro ⟨before, after, rfl, -⟩
  exact h (by simp)

theorem takeWhile_append_newline (xs ys : List Char) :
    (xs ++ '\n' :: ys).takeWhile (· ≠ '\n') = xs.takeWhile (· ≠ '\n') := by
  induction xs with
  | nil => simp
  | cons x xs ih => by_cases hx : x = '\n' <;> simp_all

theorem strayReturn_append_newline (xs ys : List Char) :
    StrayReturn (xs ++ '\n' :: ys) ↔ StrayReturn xs ∨ StrayReturn ys := by
  constructor
  · rintro ⟨before, after, heq, c, hc, hvisible⟩
    rcases List.append_eq_append_iff.1 heq with ⟨more, hbefore, hrest⟩ | ⟨more, hxs, hrest⟩
    · -- The return comes after the line feed, since it is none itself.
      cases more with
      | nil => cases hrest
      | cons d more =>
        exact .inr ⟨more, after, (List.cons.inj hrest).2, c, hc, hvisible⟩
    · cases more with
      | nil => cases hrest
      | cons d more =>
        obtain ⟨rfl, rfl⟩ := List.cons.inj hrest
        rw [List.append_eq, takeWhile_append_newline] at hc
        exact .inl ⟨before, more, hxs, c, hc, hvisible⟩
  · rintro (⟨before, after, rfl, c, hc, hvisible⟩ | ⟨before, after, rfl, c, hc, hvisible⟩)
    · refine ⟨before, after ++ '\n' :: ys, by simp, c, ?_, hvisible⟩
      rwa [takeWhile_append_newline]
    · exact ⟨xs ++ '\n' :: before, after, by simp, c, hc, hvisible⟩

theorem strayReturn_append_newlines (n : Nat) (xs ys : List Char) :
    StrayReturn (xs ++ List.replicate (n + 1) '\n' ++ ys) ↔ StrayReturn xs ∨ StrayReturn ys := by
  induction n generalizing xs with
  | zero =>
    rw [List.replicate_one, List.append_assoc]
    exact strayReturn_append_newline xs ys
  | succ n ih =>
    have hnil : ¬ StrayReturn [] := not_strayReturn_of_not_mem List.not_mem_nil
    have hrest := ih []
    rw [List.nil_append, or_iff_right hnil] at hrest
    rw [List.replicate_succ, List.append_assoc, List.cons_append, strayReturn_append_newline, hrest]

/-- A text between others that is made of line feeds keeps their lines apart. -/
theorem strayReturn_intercalate (n : Nat) (pieces : List (List Char)) :
    StrayReturn ((List.replicate (n + 1) '\n').intercalate pieces) ↔
      ∃ piece ∈ pieces, StrayReturn piece := by
  have hnil : ¬ StrayReturn [] := not_strayReturn_of_not_mem List.not_mem_nil
  induction pieces with
  | nil => simpa using hnil
  | cons piece pieces ih =>
    cases pieces with
    | nil => simp
    | cons next pieces =>
      rw [List.intercalate_cons_cons, strayReturn_append_newlines, List.exists_mem_cons_iff]
      exact or_congr_right ih

theorem trimEnd_append_visible (xs : List Char) {c : Char} (hc : c ∈ ys) (hvisible : ¬ isBlank c) :
    trimEnd (xs ++ ys) = xs ++ trimEnd ys := by
  rw [trimEnd, List.reverse_append, List.dropWhile_append, if_neg, List.reverse_append,
    List.reverse_reverse]
  · rfl
  · rw [List.isEmpty_iff, List.dropWhile_eq_nil_iff]
    intro h
    exact hvisible (h c (List.mem_reverse.2 hc))

theorem exists_trimEnd_append (cs : List Char) :
    ∃ after, (∀ c ∈ after, isBlank c) ∧ cs = trimEnd cs ++ after := by
  refine ⟨(cs.reverse.takeWhile isBlank).reverse, ?_, ?_⟩
  · intro c hc
    exact isBlank_of_mem_takeWhile (List.mem_reverse.1 hc)
  · rw [trimEnd, ← List.reverse_append, List.takeWhile_append_dropWhile, List.reverse_reverse]

theorem last_trimEnd : ∀ c, (trimEnd cs).getLast? = some c → ¬ isBlank c := by
  intro c hc
  rw [trimEnd, List.getLast?_reverse] at hc
  exact not_of_head?_dropWhile hc

/-- A stray return of a line is one that stays when the blanks at its end are gone. -/
theorem strayReturn_line (h : '\n' ∉ cs) : StrayReturn cs ↔ '\r' ∈ trimEnd cs := by
  constructor
  · rintro ⟨before, after, rfl, c, hc, hvisible⟩
    have hmem : c ∈ '\r' :: after := List.mem_cons_of_mem _ ((List.takeWhile_sublist _).mem hc)
    rw [trimEnd_append_visible before hmem hvisible,
      ← List.singleton_append, trimEnd_append_visible _ ((List.takeWhile_sublist _).mem hc) hvisible]
    simp
  · intro hmem
    obtain ⟨blanks, -, hcs⟩ := exists_trimEnd_append cs
    obtain ⟨before, after, hsplit⟩ := List.append_of_mem hmem
    rw [hsplit, List.append_assoc, List.cons_append] at hcs
    have hlast := @last_trimEnd cs
    rw [hsplit, List.getLast?_append_cons] at hlast
    cases hafter : after.getLast? with
    | none =>
      rw [List.getLast?_eq_none_iff.1 hafter] at hlast
      exact absurd (by decide) (hlast '\r' rfl)
    | some c =>
      have hc : c ∈ after := List.mem_of_getLast? hafter
      refine ⟨before, after ++ blanks, hcs, c, ?_, hlast c (by simp [List.getLast?_cons, hafter])⟩
      rw [List.takeWhile_eq_self_iff.2]
      · exact List.mem_append_left _ hc
      · intro d hd
        have hne : d ≠ '\n' := by
          rintro rfl
          rw [hcs] at h
          exact h (List.mem_append_right _ (List.mem_cons_of_mem _ hd))
        simpa using hne

theorem strayReturn_iff (cs : List Char) :
    StrayReturn cs ↔ ∃ piece ∈ splitAt '\n' cs, '\r' ∈ trimEnd piece := by
  conv_lhs => rw [← intercalate_splitAt '\n' cs, ← List.replicate_one, strayReturn_intercalate 0]
  exact exists_congr fun piece => and_congr_right fun hpiece =>
    strayReturn_line (not_mem_of_mem_splitAt hpiece)

theorem StrayReturn.append (h : StrayReturn cs) (ds : List Char) : StrayReturn (cs ++ ds) := by
  obtain ⟨before, after, rfl, c, hc, hvisible⟩ := h
  refine ⟨before, after ++ ds, by simp, c, ?_, hvisible⟩
  rw [List.takeWhile_append]
  split
  · exact List.mem_append_left _ ((List.takeWhile_sublist _).mem hc)
  · exact hc

/-- What comes after a visible mark adds no stray return of its own. -/
theorem strayReturn_append_mark {mark ds : List Char} (hreturn : '\r' ∉ mark ++ ds) (hline : '\n' ∉ mark)
    (hvisible : ∃ c ∈ mark, ¬ isBlank c) : StrayReturn (xs ++ mark ++ ds) ↔ StrayReturn (xs ++ mark) := by
  refine ⟨?_, fun h => h.append ds⟩
  rintro ⟨before, after, heq, c, hc, hcvisible⟩
  rw [List.append_assoc] at heq
  -- The return is before the mark.
  rcases List.append_eq_append_iff.1 heq with ⟨more, -, hrest⟩ | ⟨more, rfl, hrest⟩
  · exact absurd (by simp [hrest]) hreturn
  cases more with
  | nil =>
    rw [List.nil_append] at hrest
    exact absurd (hrest ▸ List.mem_cons_self) hreturn
  | cons d more =>
    obtain ⟨rfl, rfl⟩ := List.cons.inj hrest
    refine ⟨before, more ++ mark, by simp, ?_⟩
    by_cases hmore : '\n' ∈ more
    · obtain ⟨first, rest, rfl⟩ := List.append_of_mem hmore
      simp only [List.append_eq, List.append_assoc, List.cons_append, takeWhile_append_newline] at hc ⊢
      exact ⟨c, hc, hcvisible⟩
    · obtain ⟨d, hd, hdvisible⟩ := hvisible
      refine ⟨d, ?_, hdvisible⟩
      rw [List.takeWhile_eq_self_iff.2]
      · exact List.mem_append_right _ hd
      · intro e he
        have hne : e ≠ '\n' := by
          rintro rfl
          exact (List.mem_append.1 he).elim hmore hline
        simpa using hne

theorem strayReturn_trimEnd : StrayReturn (trimEnd cs) ↔ StrayReturn cs := by
  constructor
  · intro h
    obtain ⟨blanks, -, hcs⟩ := exists_trimEnd_append cs
    rw [hcs]
    exact h.append blanks
  · rintro ⟨before, after, rfl, c, hc, hvisible⟩
    have hafter : c ∈ after := (List.takeWhile_sublist _).mem hc
    obtain ⟨blanks, hblanks, heq⟩ := exists_trimEnd_append after
    rw [← List.singleton_append, ← List.append_assoc, trimEnd_append_visible _ hafter hvisible]
    refine ⟨before, trimEnd after, by simp, c, ?_, hvisible⟩
    rw [heq, List.takeWhile_append] at hc
    split at hc
    · rename_i hwhole
      rw [(List.takeWhile_sublist _).eq_of_length hwhole]
      refine (List.mem_append.1 hc).resolve_right fun hmem => hvisible ?_
      exact hblanks c ((List.takeWhile_sublist _).mem hmem)
    · exact hc

theorem trim_of_visible {c : Char} (h : ¬ isBlank c) (cs : List Char) :
    trim (c :: cs) = trimEnd (c :: cs) := by
  rw [trim, trimStart, List.dropWhile_cons_of_neg h]

end TypedClient.Text
