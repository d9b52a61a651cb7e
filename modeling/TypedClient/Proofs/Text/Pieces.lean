import Mathlib.Data.List.Basic
import TypedClient.Proofs.Text.Trimming

namespace TypedClient.Text

variable {sep : Char} {cs piece : List Char}

theorem splitAt_eq_splitOn (sep : Char) (cs : List Char) : splitAt sep cs = cs.splitOn sep := by
  induction cs with
  | nil => rfl
  | cons c cs ih =>
    rw [splitAt, List.splitOn_cons_eq_if_modifyHead, ih]
    by_cases hc : c = sep
    · simp [hc]
    · obtain ⟨piece, pieces, h⟩ := List.exists_cons_of_ne_nil (List.splitOn_ne_nil sep cs)
      simp [hc, h]

theorem splitAt_ne_nil (sep : Char) (cs : List Char) : splitAt sep cs ≠ [] := by
  rw [splitAt_eq_splitOn]
  exact List.splitOn_ne_nil sep cs

theorem splitAt_append (sep : Char) (cs ds : List Char) :
    splitAt sep (cs ++ sep :: ds) = splitAt sep cs ++ splitAt sep ds := by
  simp only [splitAt_eq_splitOn, List.splitOn_append_cons_self]

theorem splitAt_of_not_mem (h : sep ∉ cs) : splitAt sep cs = [cs] := by
  rw [splitAt_eq_splitOn, List.splitOn_eq_singleton h]

/-- What comes before the first separator, and what comes after it. -/
theorem append_cons_inj {xs ys rest rest' : List Char} (h : sep ∉ xs) (h' : sep ∉ ys)
    (heq : xs ++ sep :: rest = ys ++ sep :: rest') : xs = ys ∧ rest = rest' := by
  have hpieces := congrArg (splitAt sep) heq
  rw [splitAt_append, splitAt_append, splitAt_of_not_mem h, splitAt_of_not_mem h'] at hpieces
  obtain ⟨rfl, -⟩ := List.cons.inj hpieces
  exact ⟨rfl, (List.cons.inj (List.append_cancel_left heq)).2⟩

theorem intercalate_splitAt (sep : Char) (cs : List Char) : [sep].intercalate (splitAt sep cs) = cs := by
  rw [splitAt_eq_splitOn, List.intercalate_splitOn]

theorem splitAt_intercalate {pieces : List (List Char)} (hne : pieces ≠ [])
    (h : ∀ piece ∈ pieces, sep ∉ piece) : splitAt sep ([sep].intercalate pieces) = pieces := by
  rw [splitAt_eq_splitOn, List.splitOn_intercalate sep h hne]

theorem not_mem_of_mem_splitAt (h : piece ∈ splitAt sep cs) : sep ∉ piece := by
  rw [splitAt_eq_splitOn] at h
  induction cs generalizing piece with
  | nil =>
    rw [List.splitOn_eq_singleton List.not_mem_nil, List.mem_singleton] at h
    rw [h]
    exact List.not_mem_nil
  | cons c cs ih =>
    rw [List.splitOn_cons_eq_if_modifyHead] at h
    obtain ⟨first, rest, hpieces⟩ := List.exists_cons_of_ne_nil (List.splitOn_ne_nil sep cs)
    rw [hpieces] at h ih
    split at h
    · rcases List.mem_cons.1 h with rfl | h
      · exact List.not_mem_nil
      · exact ih h
    · rename_i hc
      rcases List.mem_cons.1 h with rfl | h
      · rw [List.mem_cons, not_or]
        exact ⟨fun hsep => hc (by simp [hsep]), ih List.mem_cons_self⟩
      · exact ih (List.mem_cons_of_mem first h)

theorem not_mem_intercalate {c : Char} {between : List Char} {pieces : List (List Char)}
    (hbetween : c ∉ between) (h : ∀ piece ∈ pieces, c ∉ piece) : c ∉ between.intercalate pieces := by
  induction pieces with
  | nil => simp
  | cons piece pieces ih =>
    obtain ⟨hpiece, hrest⟩ := List.forall_mem_cons.1 h
    cases pieces with
    | nil => simpa using hpiece
    | cons next pieces =>
      rw [List.intercalate_cons_cons]
      exact List.not_mem_append (List.not_mem_append hpiece hbetween) (ih hrest)

theorem getLast?_intercalate (sep : Char) (first : List Char) (pieces : List (List Char)) :
    ([sep].intercalate (first :: pieces ++ [[]])).getLast? = some sep := by
  induction pieces generalizing first with
  | nil => simp
  | cons next pieces ih =>
    have hnext := ih next
    rw [List.cons_append] at hnext
    rw [List.cons_append, List.cons_append, List.intercalate_cons_cons, List.getLast?_append, hnext,
      Option.some_or]

/-- Only what ends with the separator has an empty piece after it. -/
theorem getLast?_splitAt_ne (hcs : cs ≠ []) (hlast : cs.getLast? ≠ some sep) :
    (splitAt sep cs).getLast? ≠ some [] := by
  intro h
  obtain ⟨pieces, hpieces⟩ := List.getLast?_eq_some_iff.1 h
  have hjoined := intercalate_splitAt sep cs
  rw [hpieces] at hjoined
  cases pieces with
  | nil => exact hcs (by simpa using hjoined.symm)
  | cons first rest => exact hlast (hjoined ▸ getLast?_intercalate sep first rest)

theorem splitAt_prepend {before : List Char} (h : sep ∉ before) (cs : List Char) : ∃ first rest,
    splitAt sep cs = first :: rest ∧ splitAt sep (before ++ cs) = (before ++ first) :: rest := by
  obtain ⟨first, rest, hcs⟩ := List.exists_cons_of_ne_nil (splitAt_ne_nil sep cs)
  refine ⟨first, rest, hcs, ?_⟩
  induction before with
  | nil => exact hcs
  | cons b before ih =>
    rw [List.mem_cons, not_or] at h
    rw [List.cons_append, splitAt, if_neg (Ne.symm h.1), ih h.2]
    rfl

theorem splitAt_postpend {after : List Char} (h : sep ∉ after) (cs : List Char) : ∃ pieces last,
    splitAt sep cs = pieces ++ [last] ∧ splitAt sep (cs ++ after) = pieces ++ [last ++ after] := by
  induction cs with
  | nil => exact ⟨[], [], rfl, splitAt_of_not_mem h⟩
  | cons c cs ih =>
    obtain ⟨pieces, last, hcs, hafter⟩ := ih
    by_cases hc : c = sep
    · refine ⟨[] :: pieces, last, ?_, ?_⟩
      · rw [splitAt, if_pos hc, hcs, List.cons_append]
      · rw [List.cons_append, splitAt, if_pos hc, hafter, List.cons_append]
    · rw [List.cons_append, splitAt, splitAt, if_neg hc, if_neg hc, hcs, hafter]
      cases pieces with
      | nil => exact ⟨[], c :: last, rfl, rfl⟩
      | cons piece pieces => exact ⟨(c :: piece) :: pieces, last, rfl, rfl⟩

/-- Blanks around a text change its pieces by blanks around them only. -/
theorem map_trim_splitAt_trim (hsep : ¬ isBlank sep) (cs : List Char) :
    (splitAt sep (trim cs)).map trim = (splitAt sep cs).map trim := by
  obtain ⟨before, after, hblank, hcs⟩ := exists_eq_append_trim cs
  obtain ⟨hbefore, hafter⟩ := List.forall_mem_append.1 hblank
  have hnone : ∀ c ∈ ([] : List Char), isBlank c := nofun
  obtain ⟨pieces, last, hcore, hrest⟩ := splitAt_postpend (fun h => hsep (hafter sep h)) (trim cs)
  obtain ⟨first, more, hfirst, hall⟩ :=
    splitAt_prepend (fun h => hsep (hbefore sep h)) (trim cs ++ after)
  have hlast : trim (last ++ after) = trim last := by simpa using trim_blanks hnone hafter last
  have hhead : trim (before ++ first) = trim first := by simpa using trim_blanks hbefore hnone first
  calc (splitAt sep (trim cs)).map trim
      = (splitAt sep (trim cs ++ after)).map trim := by
        rw [hcore, hrest, List.map_append, List.map_append, List.map_singleton, List.map_singleton, hlast]
    _ = (splitAt sep (before ++ (trim cs ++ after))).map trim := by
        rw [hfirst, hall, List.map_cons, List.map_cons, hhead]
    _ = (splitAt sep cs).map trim := by rw [← List.append_assoc, ← hcs]

/-- A pattern whose first character does not come again in it cannot overlap itself. So it is first found
where it is put behind a text that does not contain it. -/
theorem after?_append {c : Char} {pattern before : List Char} (hc : c ∉ pattern)
    (hbefore : ¬ c :: pattern <:+: before) (rest : List Char) :
    after? (c :: pattern) (before ++ (c :: pattern ++ rest)) = some rest := by
  induction before with
  | nil =>
    have hstart : dropStart? (c :: pattern) (c :: pattern ++ rest) = some rest :=
      dropStart?_eq_some_iff.2 rfl
    rw [List.nil_append, List.cons_append, after?, ← List.cons_append, hstart]
    rfl
  | cons b before ih =>
    rw [List.infix_cons_iff, not_or] at hbefore
    have hstart : dropStart? (c :: pattern) (b :: before ++ (c :: pattern ++ rest)) = none := by
      rw [Option.eq_none_iff_forall_ne_some]
      intro found hfound
      rcases List.append_eq_append_iff.1 (dropStart?_eq_some_iff.1 hfound) with
        ⟨overlap, hpattern, hoverlap⟩ | ⟨found', hwithin, -⟩
      · -- The pattern begins in the text and would begin once more where it is put.
        cases overlap with
        | nil => exact hbefore.1 ⟨[], by simpa using hpattern⟩
        | cons d overlap =>
          obtain rfl : c = d := by simpa using (List.cons.inj hoverlap).1
          have hmem : c ∈ pattern := by
            rw [(List.cons.inj hpattern).2]
            simp
          exact hc hmem
      · exact hbefore.1 ⟨found', hwithin.symm⟩
    rw [List.cons_append, after?, ← List.cons_append, hstart]
    exact ih hbefore.2

/-- The line without a carriage return at its end. -/
def dropReturn (line : List Char) : List Char := (dropStop? ['\r'] line).getD line

/-- The lines of a text. A line feed ends a line, together with a carriage return before it; the last line
may go without. -/
def lines (cs : List Char) : List (List Char) :=
  (splitAt '\n' cs).dropLast.map dropReturn ++ (splitAt '\n' cs).getLast?.toList.filter (· ≠ [])

theorem trimEnd_append_blanks {after : List Char} (h : ∀ c ∈ after, isBlank c) (cs : List Char) :
    trimEnd (cs ++ after) = trimEnd cs := by
  rw [trimEnd, List.reverse_append, List.dropWhile_append_of_pos (by simpa using h)]
  rfl

theorem trimEnd_dropReturn (line : List Char) : trimEnd (dropReturn line) = trimEnd line := by
  unfold dropReturn
  cases h : dropStop? ['\r'] line with
  | none => rfl
  | some rest =>
    rw [dropStop?_eq_some_iff.1 h, trimEnd_append_blanks (List.forall_mem_singleton.2 rfl)]
    rfl

/-- Where no blanks are at the end, the lines are the pieces between the line feeds, up to blanks. -/
theorem map_trimEnd_lines (hcs : cs ≠ []) (hlast : ∀ c, cs.getLast? = some c → ¬ isBlank c) :
    (lines cs).map trimEnd = (splitAt '\n' cs).map trimEnd := by
  have hne : (splitAt '\n' cs).getLast? ≠ some [] :=
    getLast?_splitAt_ne hcs fun h => hlast _ h (by decide)
  have hpieces := List.dropLast_append_getLast (splitAt_ne_nil '\n' cs)
  rw [List.getLast?_eq_some_getLast (splitAt_ne_nil '\n' cs), ne_eq, Option.some.injEq] at hne
  have hkept : (splitAt '\n' cs).getLast?.toList.filter (· ≠ []) =
      [(splitAt '\n' cs).getLast (splitAt_ne_nil '\n' cs)] := by
    rw [List.getLast?_eq_some_getLast (splitAt_ne_nil '\n' cs)]
    simpa using hne
  conv_rhs => rw [← hpieces]
  rw [lines, hkept, List.map_append, List.map_append, List.map_map]
  simp [Function.comp_def, trimEnd_dropReturn]

end TypedClient.Text
