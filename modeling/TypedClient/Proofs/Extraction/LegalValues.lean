import TypedClient.Extraction.Operations
import TypedClient.Proofs.Text.Pieces

namespace TypedClient.Extraction

open Text

/-- What a list can hold: a text without commas, and without blanks at its ends. -/
structure IsLegalValue (cs : List Char) : Prop where
  nonempty : cs ≠ []
  trimmed : Trimmed cs
  comma : ',' ∉ cs

/-- A value as it stands in a list, with blanks around it. -/
structure ListedValue where
  before : List Char
  value : String
  after : List Char

namespace ListedValue

variable (v : ListedValue)

def text : List Char := v.before ++ v.value.toList ++ v.after

structure Proper : Prop where
  value : IsLegalValue v.value.toList
  before : ∀ c ∈ v.before, isBlank c
  after : ∀ c ∈ v.after, isBlank c

end ListedValue

/-- The text of a list: values with commas between them, and parentheses that close behind the last. -/
def listing (values : List ListedValue) (closing : Nat) (after : List Char) : List Char :=
  [','].intercalate (values.map ListedValue.text) ++ (List.replicate closing ')' ++ after)

variable {v : ListedValue} {values : List ListedValue} {after : List Char}

theorem legalValue_false_text (h : v.Proper) : legalValue false v.text = v.value.toList :=
  trim_eq_of_trimmed h.value.trimmed h.before h.after

/-- Behind the last value trimming stops at the parentheses, if there are any, and the blanks before them are
trimmed when they are gone. -/
theorem legalValue_true_text (h : v.Proper) (hlast : v.value.toList.getLast? ≠ some ')') (closing : Nat)
    (hafter : ∀ c ∈ after, isBlank c) :
    legalValue true (v.text ++ (List.replicate closing ')' ++ after)) = v.value.toList := by
  have hnone : ∀ c ∈ ([] : List Char), isBlank c := nofun
  have hvalue : trim (v.value.toList ++ v.after) = v.value.toList := by
    simpa using trim_eq_of_trimmed h.value.trimmed hnone h.after
  rw [legalValue, if_pos rfl]
  cases closing with
  | zero =>
    have hblank : ∀ c ∈ v.after ++ after, isBlank c := List.forall_mem_append.2 ⟨h.after, hafter⟩
    have htrim : trim (v.text ++ (List.replicate 0 ')' ++ after)) = v.value.toList := by
      simpa [ListedValue.text] using trim_eq_of_trimmed h.value.trimmed h.before hblank
    have hdrop := dropEnd_append_replicate hlast 0
    rw [List.replicate_zero, List.append_nil] at hdrop
    rw [htrim, hdrop, trim_eq_self h.value.trimmed]
  | succ n =>
    have hcore : Trimmed (v.value.toList ++ v.after ++ List.replicate (n + 1) ')') := by
      constructor
      · intro c hc
        obtain ⟨d, ds, hvalue⟩ := List.exists_cons_of_ne_nil h.value.nonempty
        apply h.value.trimmed.head
        rw [hvalue] at hc ⊢
        exact hc
      · intro c hc
        rw [List.replicate_succ', ← List.append_assoc, List.getLast?_concat, Option.some.injEq] at hc
        rw [← hc]
        decide
    have htrim : trim (v.text ++ (List.replicate (n + 1) ')' ++ after)) =
        v.value.toList ++ v.after ++ List.replicate (n + 1) ')' := by
      simpa [ListedValue.text] using trim_eq_of_trimmed hcore h.before hafter
    rw [htrim, dropEnd_append_replicate (getLast?_append_blanks_ne (by decide) hlast h.after), hvalue]

theorem legalPieces_append_singleton (pieces : List (List Char)) (last : List Char) :
    legalPieces (pieces ++ [last]) = pieces.map (legalValue false) ++ [legalValue true last] := by
  induction pieces with
  | nil => rfl
  | cons piece pieces ih =>
    rw [List.cons_append, List.map_cons, List.cons_append, ← ih, legalPieces]
    simp

theorem legalValue_trim (isLast : Bool) (piece : List Char) :
    legalValue isLast (trim piece) = legalValue isLast piece := by
  rw [legalValue, legalValue, trim_eq_self (trimmed_trim piece)]

theorem legalPieces_map_trim (pieces : List (List Char)) :
    legalPieces (pieces.map trim) = legalPieces pieces := by
  rcases List.eq_nil_or_concat pieces with rfl | ⟨init, last, rfl⟩
  · rfl
  · rw [List.concat_eq_append, List.map_append, List.map_singleton, legalPieces_append_singleton,
      legalPieces_append_singleton, legalValue_trim, List.map_map]
    congr 1
    exact List.map_congr_left fun piece _ => legalValue_trim false piece

theorem legalPieces_splitAt_trim (cs : List Char) :
    legalPieces (splitAt ',' (trim cs)) = legalPieces (splitAt ',' cs) := by
  rw [← legalPieces_map_trim, map_trim_splitAt_trim (by decide), legalPieces_map_trim]

theorem splitAt_listing {last : ListedValue} (h : ∀ v ∈ values ++ [last], v.Proper) (closing : Nat)
    (hafter : ∀ c ∈ after, isBlank c) : splitAt ',' (listing (values ++ [last]) closing after) =
      values.map ListedValue.text ++ [last.text ++ (List.replicate closing ')' ++ after)] := by
  have hblank : ∀ {cs : List Char}, (∀ c ∈ cs, isBlank c) → ',' ∉ cs := fun hcs hmem =>
    absurd (hcs ',' hmem) (by decide)
  have htexts : ∀ piece ∈ (values ++ [last]).map ListedValue.text, ',' ∉ piece := by
    rw [List.forall_mem_map]
    intro v hv
    have hproper := h v hv
    exact List.not_mem_append (List.not_mem_append (hblank hproper.before) hproper.value.comma)
      (hblank hproper.after)
  have hclosing : ',' ∉ List.replicate closing ')' ++ after :=
    List.not_mem_append (fun hmem => absurd (List.eq_of_mem_replicate hmem) (by decide)) (hblank hafter)
  have hpieces := splitAt_intercalate (by simp) htexts
  obtain ⟨pieces, piece, hbefore, hall⟩ :=
    splitAt_postpend hclosing ([','].intercalate ((values ++ [last]).map ListedValue.text))
  rw [hpieces, List.map_append, List.map_singleton] at hbefore
  obtain ⟨rfl, hpiece⟩ := List.append_inj' hbefore rfl
  rw [listing, hall, List.singleton_inj.1 hpiece]

theorem legalPieces_listing {last : ListedValue} (h : ∀ v ∈ values ++ [last], v.Proper)
    (hlast : last.value.toList.getLast? ≠ some ')') (closing : Nat) (hafter : ∀ c ∈ after, isBlank c) :
    legalPieces (splitAt ',' (trim (listing (values ++ [last]) closing after))) =
      (values ++ [last]).map fun v => v.value.toList := by
  obtain ⟨hvalues, hend⟩ := List.forall_mem_append.1 h
  rw [legalPieces_splitAt_trim, splitAt_listing h closing hafter, legalPieces_append_singleton, List.map_map,
    legalValue_true_text (hend last List.mem_cons_self) hlast closing hafter, List.map_append,
    List.map_singleton]
  congr 1
  exact List.map_congr_left fun v hv => legalValue_false_text (hvalues v hv)

theorem after?_marker {before : String} (hbefore : ¬ "Legal values:".toList <:+: before.toList)
    (rest : List Char) : after? "Legal values:".toList
      (before ++ "Legal values:" ++ String.ofList rest).toList = some rest := by
  have hmarker : "Legal values:".toList = 'L' :: "egal values:".toList := by decide
  have hrest : (String.ofList rest).toList = rest := String.toList_ofList
  rw [String.toList_append, String.toList_append, hrest, List.append_assoc, hmarker]
  exact after?_append (by decide) (hmarker ▸ hbefore) rest

theorem legalValues_listing {before : String} (hbefore : ¬ "Legal values:".toList <:+: before.toList)
    (hne : values ≠ []) (h : ∀ v ∈ values, v.Proper)
    (hlast : ∀ v, values.getLast? = some v → v.value.toList.getLast? ≠ some ')') (closing : Nat)
    (hafter : ∀ c ∈ after, isBlank c) :
    legalValues (before ++ "Legal values:" ++ String.ofList (listing values closing after)) =
      values.map (·.value) := by
  obtain ⟨init, last, rfl⟩ := List.eq_nil_or_concat values |>.resolve_left hne
  rw [List.concat_eq_append] at h hlast ⊢
  have hmarker := after?_marker hbefore (listing (init ++ [last]) closing after)
  have hnonempty : ∀ cs ∈ (init ++ [last]).map fun v => v.value.toList, decide (cs ≠ []) = true := by
    rw [List.forall_mem_map]
    exact fun v hv => decide_eq_true (h v hv).value.nonempty
  unfold legalValues
  rw [hmarker]
  dsimp only
  rw [legalPieces_listing h (hlast last List.getLast?_concat) closing hafter,
    List.filter_eq_self.2 hnonempty, List.map_map]
  exact List.map_congr_left fun v _ => String.ofList_toList

theorem mem_of_mem_legalValue {isLast : Bool} {piece : List Char} {c : Char}
    (h : c ∈ legalValue isLast piece) : c ∈ piece := by
  unfold legalValue at h
  split at h
  · exact mem_of_mem_trim (mem_of_mem_dropEnd (mem_of_mem_trim h))
  · exact mem_of_mem_trim h

theorem trimmed_legalValue (isLast : Bool) (piece : List Char) : Trimmed (legalValue isLast piece) := by
  unfold legalValue
  split
  · exact trimmed_trim _
  · exact trimmed_trim _

theorem exists_of_mem_legalPieces {pieces : List (List Char)} {cs : List Char} (h : cs ∈ legalPieces pieces) :
    ∃ piece ∈ pieces, ∃ isLast, cs = legalValue isLast piece := by
  rcases List.eq_nil_or_concat pieces with rfl | ⟨init, last, rfl⟩
  · cases h
  · rw [List.concat_eq_append] at h ⊢
    rw [legalPieces_append_singleton, List.mem_append, List.mem_map, List.mem_singleton] at h
    rcases h with ⟨piece, hpiece, rfl⟩ | rfl
    · exact ⟨piece, List.mem_append_left _ hpiece, false, rfl⟩
    · exact ⟨last, by simp, true, rfl⟩

theorem isLegalValue_of_mem {description value : String} (h : value ∈ legalValues description) :
    IsLegalValue value.toList := by
  unfold legalValues at h
  split at h
  · cases h
  · obtain ⟨cs, hcs, rfl⟩ := List.mem_map.1 h
    obtain ⟨hpieces, hne⟩ := List.mem_filter.1 hcs
    obtain ⟨piece, hpiece, isLast, rfl⟩ := exists_of_mem_legalPieces hpieces
    rw [String.toList_ofList]
    exact ⟨of_decide_eq_true hne, trimmed_legalValue isLast piece,
      fun hcomma => not_mem_of_mem_splitAt hpiece (mem_of_mem_legalValue hcomma)⟩

/-- Behind the first marker of a description the values of a list are read, all of them and in their order,
whatever blanks stand around them and parentheses close the list. And whatever a description says, only such
values are read from it. -/
theorem legalValues_read :
    (∀ (before : String) (values : List ListedValue) (closing : Nat) (after : List Char),
      ¬ "Legal values:".toList <:+: before.toList → values ≠ [] → (∀ v ∈ values, v.Proper) →
      (∀ v, values.getLast? = some v → v.value.toList.getLast? ≠ some ')') → (∀ c ∈ after, isBlank c) →
      legalValues (before ++ "Legal values:" ++ String.ofList (listing values closing after)) =
        values.map (·.value)) ∧
    ∀ description, ∀ value ∈ legalValues description, IsLegalValue value.toList :=
  ⟨fun _ _ closing _ hbefore hne h hlast hafter => legalValues_listing hbefore hne h hlast closing hafter,
    fun _ _ h => isLegalValue_of_mem h⟩

/-- Two values, the first of which has the marker and a parenthesis of its own. -/
def listedTags : List ListedValue :=
  [⟨[' '], "all (Legal values:)", []⟩, ⟨[' ', '\t'], "tags", [' ']⟩]

theorem legalValues_read_tags :
    ¬ "Legal values:".toList <:+: "Tags. (Legal values ".toList ∧ (∀ v ∈ listedTags, v.Proper) ∧
    legalValues ("Tags. (Legal values " ++ "Legal values:" ++ String.ofList (listing listedTags 2 ['\n'])) =
      ["all (Legal values:)", "tags"] := by
  have hbefore : ¬ "Legal values:".toList <:+: "Tags. (Legal values ".toList := by decide +kernel
  have hblanks : (∀ c ∈ [' '], isBlank c) ∧ (∀ c ∈ [' ', '\t'], isBlank c) ∧ ∀ c ∈ ['\n'], isBlank c := by
    simp [isBlank, inRuns]
  have hproper : ∀ v ∈ listedTags, v.Proper := by
    rw [listedTags, List.forall_mem_cons, List.forall_mem_singleton]
    exact ⟨⟨⟨by decide +kernel, by decide +kernel, by decide +kernel⟩, hblanks.1, nofun⟩,
      ⟨⟨by decide +kernel, by decide +kernel, by decide +kernel⟩, hblanks.2.1, hblanks.1⟩⟩
  have hlast : ∀ v, listedTags.getLast? = some v → v.value.toList.getLast? ≠ some ')' := by
    intro v hv
    rw [← Option.some.inj hv]
    decide +kernel
  have hread := legalValues_read.1 "Tags. (Legal values " listedTags 2 ['\n'] hbefore (List.cons_ne_nil _ _)
    hproper hlast hblanks.2.2
  exact ⟨hbefore, hproper, hread⟩

end TypedClient.Extraction
