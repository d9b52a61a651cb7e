import TypedClient.Proofs.Source.Accessors
import TypedClient.Proofs.Text.Ascii

namespace TypedClient.Source

def IsWordChar (c : Char) : Prop := c.isAlphanum ∨ c = '_'

instance : DecidablePred IsWordChar := fun c => inferInstanceAs (Decidable (c.isAlphanum ∨ c = '_'))

/-- A text of letters, digits and underscores, not all of them underscores. -/
structure Spoken (s : String) : Prop where
  chars : ∀ c ∈ s.toList, IsWordChar c
  alphanum : ∃ c ∈ s.toList, c.isAlphanum

theorem spoken_iff {s : String} :
    Spoken s ↔ (s.toList.all fun c => IsWordChar c) ∧ s.toList.any Char.isAlphanum := by
  rw [List.all_eq_true, List.any_eq_true]
  simp only [decide_eq_true_eq]
  exact ⟨fun h => ⟨h.chars, h.alphanum⟩, fun h => ⟨h.1, h.2⟩⟩

instance : DecidablePred Spoken := fun _ => decidable_of_iff _ spoken_iff.symm

/-- Letters, digits and underscores, the first of them no digit. -/
structure IsWordText (s : String) : Prop where
  head : ∃ c, s.toList.head? = some c ∧ (c.isAlpha ∨ c = '_')
  chars : ∀ c ∈ s.toList, IsWordChar c

/-- What the language takes for an identifier: a word, or a keyword behind a raw mark. -/
inductive Legal : String → Prop
  | word {s : String} (hword : IsWordText s) (hne : s ≠ "_") (hkeyword : s ∉ keywords) : Legal s
  | raw {k : String} (hkeyword : k ∈ keywords) (hfirm : k ∉ firmKeywords) : Legal ("r#" ++ k)

section SnakeCase

variable {c : Char} {cs : List Char} {name : String}

theorem ascii_of_isWordChar (h : IsWordChar c) : c.toNat < 0x80 := by
  rcases h with h | rfl
  · exact Text.ascii_of_isAlphanum h
  · decide

theorem isAlphanum_toLower (h : c.isAlphanum) : c.toLower.isAlphanum := by
  have hchecked : ∀ n < 0x80, (Char.ofNat n).isAlphanum → (Char.ofNat n).toLower.isAlphanum := by
    decide +kernel
  have hlower := hchecked c.toNat (Text.ascii_of_isAlphanum h)
  rw [Char.ofNat_toNat] at hlower
  exact hlower h

theorem isWordChar_toLower (h : IsWordChar c) : IsWordChar c.toLower := by
  rcases h with h | rfl
  · exact .inl (isAlphanum_toLower h)
  · exact .inr rfl

theorem isWordChar_snakeAfter (before : Option Char) (h : ∀ c ∈ cs, IsWordChar c) :
    ∀ c ∈ snakeAfter before cs, IsWordChar c := by
  induction cs generalizing before with
  | nil => exact fun c hc => absurd hc List.not_mem_nil
  | cons d cs ih =>
    obtain ⟨hd, hcs⟩ := List.forall_mem_cons.1 h
    rw [snakeAfter_of_ascii before cs (ascii_of_isWordChar hd), List.forall_mem_append, List.forall_mem_cons]
    refine ⟨fun c hc => ?_, isWordChar_toLower hd, ih (some d) hcs⟩
    split at hc
    · exact .inr (List.mem_singleton.1 hc)
    · cases hc

theorem toLower_mem_snakeAfter (before : Option Char) (h : ∀ c ∈ cs, IsWordChar c) (hc : c ∈ cs) :
    c.toLower ∈ snakeAfter before cs := by
  induction cs generalizing before with
  | nil => cases hc
  | cons d cs ih =>
    obtain ⟨hd, hcs⟩ := List.forall_mem_cons.1 h
    rw [snakeAfter_of_ascii before cs (ascii_of_isWordChar hd), List.mem_append, List.mem_cons]
    rcases List.mem_cons.1 hc with rfl | hc
    · exact .inr (.inl rfl)
    · exact .inr (.inr (ih (some d) hcs hc))

theorem Spoken.snakeCase (h : Spoken name) : Spoken (snakeCase name) where
  chars := toList_snakeCase name ▸ isWordChar_snakeAfter none h.chars
  alphanum := by
    obtain ⟨c, hc, halphanum⟩ := h.alphanum
    refine ⟨c.toLower, ?_, isAlphanum_toLower halphanum⟩
    rw [toList_snakeCase]
    exact toLower_mem_snakeAfter none h.chars hc

end SnakeCase

section Words

variable {s k : String}

theorem keywords_checked : ∀ k ∈ keywords, (k.toList.head?.any fun c => c.isAlpha || c == '_') ∧
    (k.toList.all fun c => IsWordChar c) ∧ k.toList.head? ≠ some '_' ∧
    k.toList.getLast?.any Char.isDigit = false := by
  decide +kernel

theorem isWordText_of_mem_keywords (h : k ∈ keywords) : IsWordText k := by
  obtain ⟨hhead, hchars, -⟩ := keywords_checked k h
  rw [List.all_eq_true] at hchars
  refine ⟨?_, fun c hc => of_decide_eq_true (hchars c hc)⟩
  rw [Option.any_eq_true] at hhead
  obtain ⟨c, hc, hletter⟩ := hhead
  exact ⟨c, hc, by simpa using hletter⟩

theorem IsWordText.append (h : IsWordText s) {t : String} (ht : ∀ c ∈ t.toList, IsWordChar c) :
    IsWordText (s ++ t) := by
  obtain ⟨c, hc, hletter⟩ := h.head
  refine ⟨⟨c, ?_, hletter⟩, ?_⟩
  · rw [String.toList_append, List.head?_append, hc, Option.some_or]
  · rw [String.toList_append]
    exact List.forall_mem_append.2 ⟨h.chars, ht⟩

theorem Spoken.isWordText (h : Spoken s) (hdigit : digitLed s = false) : IsWordText s := by
  refine ⟨?_, h.chars⟩
  obtain ⟨d, hd, -⟩ := h.alphanum
  obtain ⟨c, hc⟩ := Option.isSome_iff_exists.1 (List.isSome_head?.2 (List.ne_nil_of_mem hd))
  refine ⟨c, hc, ?_⟩
  rcases h.chars c (List.mem_of_head? hc) with halphanum | hunderscore
  · left
    rw [digitLed, hc, Option.any_some] at hdigit
    rwa [Char.isAlphanum, hdigit, Bool.or_false] at halphanum
  · exact .inr hunderscore

theorem Spoken.ne_underscore (h : Spoken s) : s ≠ "_" := by
  rintro rfl
  obtain ⟨c, hc, halphanum⟩ := h.alphanum
  obtain rfl : c = '_' := by simpa using hc
  cases halphanum

/-- No keyword ends like this, and the underscore does not either. -/
theorem legal_of_getLast? (hword : IsWordText s) (hlast : s.toList.getLast?.any Char.isDigit) :
    Legal s := by
  refine .word hword ?_ fun h => ?_
  · rintro rfl
    cases hlast
  · rw [(keywords_checked s h).2.2.2] at hlast
    cases hlast

theorem escapeIdentifier_of_mem_firmKeywords (h : k ∈ firmKeywords) : escapeIdentifier k = k ++ "_" := by
  rw [escapeIdentifier, if_pos (List.contains_iff_mem.2 h)]

theorem escapeIdentifier_of_mem_keywords (h : k ∈ keywords) (hfirm : k ∉ firmKeywords) :
    escapeIdentifier k = "r#" ++ k := by
  rw [escapeIdentifier, if_neg (mt List.contains_iff_mem.1 hfirm), if_pos (List.contains_iff_mem.2 h)]

theorem underscore_append_notMem_keywords (s : String) : "_" ++ s ∉ keywords :=
  fun h => (keywords_checked _ h).2.2.1 (by simp)

theorem legal_of_mem_firmKeywords (h : k ∈ firmKeywords) : Legal (k ++ "_") := by
  have hchecked : ∀ k ∈ firmKeywords, k ++ "_" ≠ "_" ∧ k ++ "_" ∉ keywords := by decide
  obtain ⟨hne, hkeyword⟩ := hchecked k h
  have hword := isWordText_of_mem_keywords (mem_keywords_of_mem_firmKeywords k h)
  exact .word (hword.append (by simp [IsWordChar])) hne hkeyword

theorem Spoken.legal_underscore_append (h : Spoken s) : Legal ("_" ++ s) := by
  have hunderscore : IsWordText "_" := ⟨⟨'_', by simp⟩, by simp [IsWordChar]⟩
  refine .word (hunderscore.append h.chars) (fun heq => ?_) (underscore_append_notMem_keywords s)
  obtain ⟨c, hc, -⟩ := h.alphanum
  simp [← String.toList_inj, List.ne_nil_of_mem hc] at heq

theorem Spoken.legal_escapeIdentifier (h : Spoken s) : Legal (escapeIdentifier s) := by
  by_cases hkeyword : s ∈ keywords
  · by_cases hfirm : s ∈ firmKeywords
    · rw [escapeIdentifier_of_mem_firmKeywords hfirm]
      exact legal_of_mem_firmKeywords hfirm
    · rw [escapeIdentifier_of_mem_keywords hkeyword hfirm]
      exact .raw hkeyword hfirm
  · rw [escapeIdentifier_of_not_mem_keywords hkeyword]
    split
    · exact h.legal_underscore_append
    · rename_i hdigit
      exact .word (h.isWordText (by simpa using hdigit)) h.ne_underscore hkeyword

end Words

section Numbers

variable {s : String}

theorem dropRawMarks_of_notMem {cs : List Char} (h : '#' ∉ cs) : dropRawMarks cs = cs := by
  unfold dropRawMarks
  split
  · simp at h
  · rfl

theorem IsWordText.onChars_dropRawMarks (h : IsWordText s) : Text.onChars dropRawMarks s = s := by
  rw [Text.onChars, dropRawMarks_of_notMem, String.ofList_toList]
  exact fun hmem => absurd (h.chars _ hmem) (by decide)

theorem Legal.isWordText (h : Legal s) : IsWordText (Text.onChars dropRawMarks s) := by
  cases h with
  | word hword => rwa [hword.onChars_dropRawMarks]
  | @raw k hkeyword hfirm =>
    have hword := isWordText_of_mem_keywords hkeyword
    have hdrop : Text.onChars dropRawMarks ("r#" ++ k) = Text.onChars dropRawMarks k := by
      simp [Text.onChars, dropRawMarks]
    rwa [hdrop, hword.onChars_dropRawMarks]

theorem Legal.numbered (h : Legal s) (n : Nat) : Legal (numbered s n) := by
  have hdigits : (toString n).toList = Nat.toDigits 10 n := by
    rw [Nat.toString_eq_ofList_toDigits, String.toList_ofList]
  have hdigit : ∀ c ∈ (toString n).toList, c.isDigit := fun c hc =>
    Nat.isDigit_of_mem_toDigits (by decide) (by decide) (hdigits ▸ hc)
  have hword : IsWordText (Source.numbered s n) := by
    refine (h.isWordText.append (by simp [IsWordChar])).append fun c hc => .inl ?_
    rw [Char.isAlphanum, hdigit c hc, Bool.or_true]
  apply legal_of_getLast? hword
  have hne : (toString n).toList ≠ [] := hdigits ▸ Nat.toDigits_ne_nil
  rw [Source.numbered, String.toList_append, List.getLast?_append, List.getLast?_eq_some_getLast hne,
    Option.some_or, Option.any_some]
  exact hdigit _ (List.getLast_mem hne)

theorem exists_numbered_eq_freeFrom (used : List String) (s : String) (bound n : Nat) :
    ∃ k, freeFrom used s bound n = numbered s k := by
  induction bound generalizing n with
  | zero => exact ⟨n, rfl⟩
  | succ bound ih =>
    rw [freeFrom]
    split
    · exact ih (n + 1)
    · exact ⟨n, rfl⟩

theorem Legal.free (h : Legal s) (used : List String) : Legal (free used s) := by
  rw [Source.free]
  split
  · obtain ⟨k, hk⟩ := exists_numbered_eq_freeFrom used s used.length 2
    exact hk ▸ h.numbered k
  · exact h

end Numbers

variable {r : Registry}

theorem legal_fieldViews {used : List String} {fs : List Field} {vs : List FieldView}
    (h : fieldViews r used fs = .ok vs) :
    List.Forall₂ (fun f v => Spoken f.name → Legal v.identifier) fs vs := by
  induction fs generalizing used vs with
  | nil =>
    cases h
    exact .nil
  | cons f fs ih =>
    obtain ⟨type, -, h⟩ := Outcome.bind_eq_ok.1 h
    obtain ⟨rest, hrest, h⟩ := Outcome.bind_eq_ok.1 h
    rw [← Outcome.pure_eq_ok.1 h]
    exact .cons (fun hname => hname.snakeCase.legal_escapeIdentifier.free used) (ih hrest)

/-- The fields of a class are shown one by one, each under its own identifier and with the name that is
sent. A field whose name is spoken has a legal identifier. -/
theorem fields_identified {c : ResponseClass} {v : ClassView} (h : classView r c = .ok v) :
    List.Forall₂ (ShownAs r) c.fields v.fields ∧ (v.fields.map (·.identifier)).Nodup ∧
    List.Forall₂ (fun f w => Spoken f.name → Legal w.identifier) c.fields v.fields := by
  obtain ⟨-, -, hfields, -⟩ := classView_eq_ok h
  obtain ⟨hshown, -, hnodup⟩ := fieldViews_eq_ok hfields
  exact ⟨hshown, hnodup, legal_fieldViews hfields⟩

theorem fields_identified_champion :
    ∃ r c v, extract {} (champion [] ["type", "Type", "self", "_2v2", "2v2", "_1"]).number = .ok r ∧
      c ∈ r.classes ∧ classView r c = .ok v ∧ (∀ f ∈ c.fields, Spoken f.name) ∧
      v.fields.map (·.identifier) = ["r#type", "type_2", "self_", "_2v2", "_2v2_2", "_1"] ∧
      ∀ w ∈ v.fields, Legal w.identifier := by
  obtain ⟨r, c, v, hr, hc, hv, hb⟩ := exists_view_champion [] ["type", "Type", "self", "_2v2", "2v2", "_1"]
    (f := fun c v => (c.fields.map (·.name), v.fields.map (·.identifier)))
    (b := (["Type", "Type", "Self", "_2v2", "2v2", "_1"],
      ["r#type", "type_2", "self_", "_2v2", "_2v2_2", "_1"]))
    (by decide +kernel)
  obtain ⟨hnames, hidentifiers⟩ := Prod.mk.inj hb
  have hspoken : ∀ f ∈ c.fields, Spoken f.name := by
    have hchecked : ∀ name ∈ ["Type", "Type", "Self", "_2v2", "2v2", "_1"], Spoken name := by decide
    exact fun f hf => hchecked f.name (hnames ▸ List.mem_map_of_mem hf)
  obtain ⟨-, -, hlegal⟩ := fields_identified hv
  refine ⟨r, c, v, hr, hc, hv, hspoken, hidentifiers, fun w hw => ?_⟩
  obtain ⟨f, hf, hw⟩ := Outcome.exists_mem_of_forall₂ hlegal.flip hw
  exact hw (hspoken f hf)

end TypedClient.Source
