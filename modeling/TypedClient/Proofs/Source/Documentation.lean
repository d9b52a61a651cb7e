import TypedClient.Proofs.Document.FlatText
import TypedClient.Proofs.Text.StrayReturn
import TypedClient.Source.Check

namespace TypedClient

namespace Source

open Text

/-- What a line of the source says as documentation: it has three slashes, the next character is no slash,
and the line holds no carriage return. -/
def documentationOf? : List Char → Option (List Char)
  | '/' :: '/' :: '/' :: body => if body.head? = some '/' ∨ '\r' ∈ body then none else some body
  | _ => none

/-- The documentation of a text as it is written. -/
def documentation (text : String) : String := joinWith "\n" (docs text)

variable {text : String} {line : List Char}

theorem docLines_of_blank (h : trim text.toList = []) : docLines text = [] := by
  rw [docLines, h]

theorem docLines_of_visible (h : trim text.toList ≠ []) :
    docLines text = (splitAt '\n' (trim text.toList)).map trimEnd := by
  unfold docLines
  split
  · rename_i hnil
    exact absurd hnil h
  · rfl

theorem docLines_eq (text : String) : docLines text = (lines (trim text.toList)).map trimEnd := by
  by_cases h : trim text.toList = []
  · rw [docLines_of_blank h, h]
    rfl
  · rw [docLines_of_visible h, map_trimEnd_lines h (trimmed_trim _).last]

theorem docs_eq (text : String) :
    docs text = (lines (trim text.toList)).map fun line => comment (trimEnd line) := by
  rw [docs, docLines_eq, List.map_map]
  rfl

theorem docs_eq_nil_iff : docs text = [] ↔ isBlankText text := by
  rw [docs, List.map_eq_nil_iff, isBlankText, ← trim_eq_nil_iff]
  by_cases h : trim text.toList = []
  · exact iff_of_true (docLines_of_blank h) h
  · refine iff_of_false ?_ h
    rw [docLines_of_visible h, List.map_eq_nil_iff]
    exact splitAt_ne_nil _ _

theorem toList_comment (line : List Char) :
    (comment line).toList = '/' :: '/' :: '/' :: if line.isEmpty then [] else ' ' :: line := by
  rw [comment]
  split <;> simp

theorem newline_not_mem_docs : ∀ line ∈ docs text, '\n' ∉ line.toList := by
  intro _ hmem
  obtain ⟨line, hline, rfl⟩ := List.mem_map.1 hmem
  have hnone : '\n' ∉ line := by
    by_cases h : trim text.toList = []
    · rw [docLines_of_blank h] at hline
      cases hline
    · rw [docLines_of_visible h] at hline
      obtain ⟨piece, hpiece, rfl⟩ := List.mem_map.1 hline
      obtain ⟨blanks, -, heq⟩ := exists_trimEnd_append piece
      intro hmem
      exact not_mem_of_mem_splitAt hpiece (heq ▸ List.mem_append_left _ hmem)
  rw [toList_comment]
  split <;> simp [hnone]

theorem documentationOf?_comment (line : List Char) : documentationOf? (comment line).toList =
    if '\r' ∈ line then none else some (if line.isEmpty then [] else ' ' :: line) := by
  rw [toList_comment, documentationOf?]
  cases line with
  | nil => simp
  | cons c line => simp

theorem toList_documentation (text : String) :
    (documentation text).toList = ['\n'].intercalate ((docs text).map String.toList) := by
  rw [documentation, joinWith, String.toList_intercalate]
  rfl

theorem documentation_eq_empty_iff : documentation text = "" ↔ isBlankText text := by
  rw [← docs_eq_nil_iff]
  constructor
  · intro h
    by_contra hne
    refine joinWith_ne_empty hne (fun line hline => ?_) h
    obtain ⟨line, -, rfl⟩ := List.mem_map.1 hline
    rw [← String.toList_inj.ne, toList_comment]
    simp
  · intro h
    rw [documentation, h]
    rfl

/-- The comments stand on lines of their own, and what comes after them is left as it is. -/
theorem splitAt_documentation (h : ¬ isBlankText text) (code : List Char) :
    splitAt '\n' ((documentation text).toList ++ '\n' :: code) =
      (docs text).map String.toList ++ splitAt '\n' code := by
  have hne : (docs text).map String.toList ≠ [] := by
    rw [ne_eq, List.map_eq_nil_iff, docs_eq_nil_iff]
    exact h
  rw [splitAt_append, toList_documentation, splitAt_intercalate hne]
  simpa using @newline_not_mem_docs text

theorem isComment_iff : isComment text ↔ ¬ StrayReturn (trim text.toList) := by
  have hlines : isComment text ↔ ∀ line ∈ docLines text, '\r' ∉ line := by
    simp [isComment]
  rw [hlines, strayReturn_iff]
  by_cases h : trim text.toList = []
  · rw [docLines_of_blank h, h]
    simp [splitAt, trimEnd]
  · rw [docLines_of_visible h]
    simp

/-- The comment lines can all be read exactly if the text has no stray carriage return. -/
theorem docs_readable_iff : (∀ line ∈ docs text, ∃ body, documentationOf? line.toList = some body) ↔
    ¬ StrayReturn (trim text.toList) := by
  rw [← isComment_iff, isComment, List.all_eq_true, docs]
  simp [documentationOf?_comment]

/-- A text with line feeds as the only ends of its lines. -/
def FreeOfReturns (text : String) : Prop := '\r' ∉ text.toList

instance (text : String) : Decidable (FreeOfReturns text) := inferInstanceAs (Decidable ('\r' ∉ text.toList))

theorem isComment_of_freeOfReturns {text : String} (h : FreeOfReturns text) : isComment text := by
  rw [isComment_iff]
  refine not_strayReturn_of_not_mem fun hmem => h ?_
  obtain ⟨before, after, -, heq⟩ := exists_eq_append_trim text.toList
  rw [heq]
  simp [hmem]

theorem toList_joinDocs (sections : List String) : (joinDocs sections).toList =
    (List.replicate 2 '\n').intercalate ((sections.map fun s => trim s.toList).filter (· ≠ [])) := by
  have hsections : (((sections.map (onChars trim)).filter (· ≠ "")).map String.toList) =
      (sections.map fun s => trim s.toList).filter (· ≠ []) := by
    rw [List.filter_map, List.filter_map, List.map_map]
    simp [Function.comp_def, onChars, ofList_eq_iff]
  rw [joinDocs, joinWith, String.toList_intercalate, hsections]
  rfl

theorem isComment_joinDocs (sections : List String) :
    isComment (joinDocs sections) ↔ ∀ s ∈ sections, isComment s := by
  have htrimmed : ∀ cs ∈ (sections.map fun s => trim s.toList).filter (· ≠ []), cs ≠ [] ∧ Trimmed cs := by
    intro cs hcs
    obtain ⟨hmem, hne⟩ := List.mem_filter.1 hcs
    obtain ⟨s, -, rfl⟩ := List.mem_map.1 hmem
    exact ⟨by simpa using hne, trimmed_trim _⟩
  have hnil : ¬ StrayReturn [] := not_strayReturn_of_not_mem List.not_mem_nil
  rw [isComment_iff, toList_joinDocs, trim_eq_self (trimmed_intercalate htrimmed), strayReturn_intercalate 1]
  constructor
  · intro h s hs
    rw [isComment_iff]
    intro hstray
    have hne : trim s.toList ≠ [] := fun hblank => hnil (hblank ▸ hstray)
    exact h ⟨_, List.mem_filter.2 ⟨List.mem_map_of_mem hs, by simpa using hne⟩, hstray⟩
  · rintro h ⟨cs, hcs, hstray⟩
    obtain ⟨s, hs, rfl⟩ := List.mem_map.1 (List.mem_of_mem_filter hcs)
    exact isComment_iff.1 (h s hs) hstray

theorem isComment_argumentSection (argumentLines : List String) :
    isComment ("# Arguments\n" ++ joinWith "\n" argumentLines) ↔
      ∀ line ∈ argumentLines, ¬ StrayReturn line.toList := by
  have hheading : ¬ StrayReturn ('#' :: " Arguments".toList) := not_strayReturn_of_not_mem (by decide)
  have htext : ("# Arguments\n" ++ joinWith "\n" argumentLines).toList = '#' :: (" Arguments".toList ++
      '\n' :: (List.replicate 1 '\n').intercalate (argumentLines.map String.toList)) := by
    simp [joinWith, String.toList_intercalate]
  rw [isComment_iff, htext, trim_of_visible (by decide), strayReturn_trimEnd, ← List.cons_append,
    strayReturn_append_newline, or_iff_right hheading, strayReturn_intercalate 0]
  simp

theorem mem_joinParagraphs {cs : List Char} {c : Char} (h : c ∈ joinParagraphs cs) : c = ' ' ∨ c ∈ cs := by
  fun_induction joinParagraphs cs with
  | case1 => exact .inr h
  | case2 cs ih =>
    rcases List.mem_cons.1 h with rfl | h
    · exact .inl rfl
    · exact (ih h).imp_right fun hmem => by simp [hmem]
  | case3 d cs _ ih =>
    rcases List.mem_cons.1 h with rfl | h
    · exact .inr List.mem_cons_self
    · exact (ih h).imp_right (List.mem_cons_of_mem d)

/-- The line of an argument in the documentation of its operation. -/
def argumentLine (p : ParameterView) : String :=
  "* \x60" ++ p.identifier ++ "\x60 - " ++ onChars joinParagraphs p.docs

/-- The name of the argument decides whether its line can be written, not what is said of it. -/
theorem strayReturn_argumentLine {p : ParameterView} (h : FreeOfReturns p.docs) :
    StrayReturn (argumentLine p).toList ↔ StrayReturn ("* \x60" ++ p.identifier ++ "\x60 - ").toList := by
  have hdocs : '\r' ∉ joinParagraphs p.docs.toList := fun hmem =>
    (mem_joinParagraphs hmem).elim (by decide) h
  have hline : (argumentLine p).toList =
      ("* \x60" ++ p.identifier).toList ++ "\x60 - ".toList ++ joinParagraphs p.docs.toList := by
    simp [argumentLine, onChars]
  rw [hline, String.toList_append (s := "* \x60" ++ p.identifier)]
  exact strayReturn_append_mark (List.not_mem_append (by decide) hdocs) (by decide) ⟨'-', by decide⟩

theorem freeOfReturns_append {s t : String} :
    FreeOfReturns (s ++ t) ↔ FreeOfReturns s ∧ FreeOfReturns t := by
  simp [FreeOfReturns, not_or]

theorem freeOfReturns_joinWith {sep : String} {texts : List String} (hsep : FreeOfReturns sep)
    (h : ∀ s ∈ texts, FreeOfReturns s) : FreeOfReturns (joinWith sep texts) := by
  rw [FreeOfReturns, joinWith, String.toList_intercalate]
  exact not_mem_intercalate hsep (List.forall_mem_map.2 h)

theorem freeOfReturns_toString (n : Nat) : FreeOfReturns (toString n) := by
  rw [FreeOfReturns, Nat.toString_eq_ofList_toDigits, String.toList_ofList]
  intro hmem
  exact absurd (Nat.isDigit_of_mem_toDigits (by decide) (by decide) hmem) (by decide)

theorem isComment_section {isEmpty : Bool} {title text : String} (htitle : FreeOfReturns title)
    (htext : FreeOfReturns text) : isComment (sectionUnless isEmpty (title ++ text)) := by
  apply isComment_of_freeOfReturns
  cases isEmpty with
  | true => simp [sectionUnless, FreeOfReturns]
  | false => exact freeOfReturns_append.2 ⟨htitle, htext⟩

theorem freeOfReturns_errors {errors : List ResponseError}
    (h : ∀ s ∈ errors.map (·.description), FreeOfReturns s) : FreeOfReturns (joinWith ", "
      (errors.map fun e => toString e.code ++ "(" ++ e.description ++ ")")) := by
  refine freeOfReturns_joinWith (by decide) (List.forall_mem_map.2 fun e he => ?_)
  rw [freeOfReturns_append, freeOfReturns_append, freeOfReturns_append]
  have hdescription := h _ (List.mem_map_of_mem he)
  exact ⟨⟨⟨freeOfReturns_toString _, by decide⟩, hdescription⟩, by decide⟩

end Source

end TypedClient
