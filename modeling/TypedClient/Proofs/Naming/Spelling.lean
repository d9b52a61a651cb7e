import Mathlib.Data.List.TakeWhile
import TypedClient.Proofs.Naming.Letters
import TypedClient.Proofs.Text.Ascii

namespace TypedClient.Naming

open Text

section Append

variable {name cs rest : List Char}

/-- What ends in a lowercase letter is not all underscores. -/
theorem exists_dropWhile_underscores (h : name.getLast?.any isLowercase) :
    ∃ d after, name.dropWhile (· == '_') = d :: after := by
  obtain ⟨last, hlast, hlower⟩ := (Option.any_eq_true _ _).1 h
  refine List.exists_cons_of_ne_nil fun hdrop => ?_
  have hall := List.dropWhile_eq_nil_iff.1 hdrop last (List.mem_of_getLast? hlast)
  rw [beq_iff_eq] at hall
  subst hall
  exact absurd hlower (by decide)

theorem getLast?_skipUnderscores {d : Char} {after : List Char} (c : Char)
    (h : cs.dropWhile (· == '_') = d :: after) :
    (skipUnderscores c cs).getLast? = cs.getLast? := by
  have hlast : cs.getLast? = (d :: after).getLast? := by
    rw [← List.takeWhile_append_dropWhile (p := (· == '_')) (l := cs), h,
      List.getLast?_append_of_ne_nil _ (List.cons_ne_nil d after)]
  rw [skipUnderscores, h, hlast]
  dsimp only
  split
  · exact List.getLast?_cons_cons
  · rfl

theorem skipUnderscores_append {d : Char} {after : List Char} (c : Char)
    (h : cs.dropWhile (· == '_') = d :: after) :
    skipUnderscores c (cs ++ rest) = skipUnderscores c cs ++ rest := by
  have hdrop : (cs ++ rest).dropWhile (· == '_') = d :: (after ++ rest) := by
    rw [List.dropWhile_append, h]
    rfl
  rw [skipUnderscores, skipUnderscores, h, hdrop]
  dsimp only
  split <;> rfl

/-- After a lowercase letter a new word begins, and the words before it stay as they are. -/
theorem words_append {d : Char} (hname : name.getLast?.any isLowercase)
    (hd : isLowercase d = false) (hunderscore : d ≠ '_') :
    words (name ++ d :: rest) = words name ++ words (d :: rest) := by
  fun_induction words name with
  | case1 => cases hname
  | case2 c =>
    exact words_of_not_joins hunderscore (joins_eq_false.2 (.inr ⟨by simpa using hname, hd⟩))
  | case3 c cs ih =>
    -- A run of underscores ends within the name, as the name ends in a letter.
    rw [List.getLast?_cons_cons] at hname
    have hcs : ('_' :: cs).getLast?.any isLowercase := hname
    obtain ⟨e, after, hdrop⟩ := exists_dropWhile_underscores hcs
    rw [getLast?_skipUnderscores c hdrop] at ih
    rw [List.cons_append, List.cons_append, words_underscore, ← List.cons_append,
      skipUnderscores_append c hdrop, ih hcs, List.cons_append]
  | case4 c e cs he hcase ih =>
    rw [List.getLast?_cons_cons] at hname
    have hjoin : joins c e = false := joins_eq_false.2 (.inr (by simpa using hcase))
    rw [List.cons_append, List.cons_append, words_of_not_joins he hjoin, ← List.cons_append,
      ih hname, List.cons_append]
  | case5 c e cs _ _ hwords =>
    obtain ⟨tail, more, hcons⟩ := words_cons e cs
    rw [hwords] at hcons
    cases hcons
  | case6 c e cs he hcase word more hwords ih =>
    rw [List.getLast?_cons_cons] at hname
    have hjoin : joins c e := joins_eq_true.2 ⟨he, by simpa using hcase⟩
    have hnext := ih hname
    rw [hwords, List.cons_append, List.cons_append] at hnext
    rw [List.cons_append, List.cons_append, words_of_joins hjoin hnext, List.cons_append]

/-- A word after a lowercase letter is recased on its own. -/
theorem normalChars_append {d : Char} (hname : name.getLast?.any isLowercase)
    (hd : isLowercase d = false) (hunderscore : d ≠ '_') (hjoined : Joined (d :: rest))
    (hstay : UnderscoresStay (d :: rest)) :
    normalChars (name ++ d :: rest) = normalChars name ++ recase (d :: rest) := by
  have hword : words (d :: rest) = [d :: rest] := by
    rw [words_eq_splitBy hstay, List.splitBy_of_isChain (List.cons_ne_nil d rest) hjoined]
  have happend : words (name ++ d :: rest) = words name ++ words (d :: rest) :=
    words_append hname hd hunderscore
  cases name with
  | nil => cases hname
  | cons c cs =>
    obtain ⟨tail, more, hwords⟩ := words_cons c cs
    rw [hword, hwords, List.cons_append, List.cons_append] at happend
    rw [List.cons_append, normalChars_of_words happend, normalChars_of_words hwords,
      List.flatMap_append, List.flatMap_singleton, List.append_assoc]

end Append

section Letter

variable {c : Char}

theorem letter_of_isUpper (h : c.isUpper) :
    c.toNat < 0x80 ∧ c ≠ '_' ∧ isLowercase c = false := by
  obtain ⟨hmin, hmax⟩ := isUpper_iff.1 h
  have hascii : c.toNat < 0x80 := by omega
  refine ⟨hascii, ?_, ?_⟩
  · rintro rfl
    cases h
  · rw [isLowercase, if_pos hascii, ← Bool.not_eq_true, isLower_iff]
    omega

theorem letter_of_isLower (h : c.isLower) : c.toNat < 0x80 ∧ c ≠ '_' ∧ isLowercase c := by
  have hascii : c.toNat < 0x80 := by
    have := isLower_iff.1 h
    omega
  refine ⟨hascii, ?_, by rwa [isLowercase, if_pos hascii]⟩
  rintro rfl
  cases h

end Letter

/-- Capital letters, at least one, with small letters after them. -/
def CapitalsFirst (cs : List Char) : Prop :=
  ∃ capitals smalls, cs = capitals ++ smalls ∧ capitals ≠ [] ∧
    (∀ c ∈ capitals, c.isUpper) ∧ ∀ c ∈ smalls, c.isLower

section Capitals

variable {cs : List Char}

theorem CapitalsFirst.letter (h : CapitalsFirst cs) : ∀ c ∈ cs, c.toNat < 0x80 ∧ c ≠ '_' := by
  obtain ⟨capitals, smalls, rfl, -, hcapitals, hsmalls⟩ := h
  refine List.forall_mem_append.2 ⟨fun c hc => ?_, fun c hc => ?_⟩
  · obtain ⟨hascii, hc, -⟩ := letter_of_isUpper (hcapitals c hc)
    exact ⟨hascii, hc⟩
  · obtain ⟨hascii, hc, -⟩ := letter_of_isLower (hsmalls c hc)
    exact ⟨hascii, hc⟩

theorem CapitalsFirst.joined (h : CapitalsFirst cs) : Joined cs := by
  obtain ⟨capitals, smalls, rfl, -, hcapitals, hsmalls⟩ := h
  have hsmall (c : Char) {d : Char} (hd : d ∈ smalls) : joins c d := by
    obtain ⟨-, hunderscore, hlower⟩ := letter_of_isLower (hsmalls d hd)
    exact joins_eq_true.2 ⟨hunderscore, fun _ => hlower⟩
  refine List.Pairwise.isChain (List.pairwise_append.2 ⟨?_, ?_, ?_⟩)
  · refine List.pairwise_of_forall_mem_list fun c hc d hd => ?_
    obtain ⟨-, -, hcapital⟩ := letter_of_isUpper (hcapitals c hc)
    obtain ⟨-, hunderscore, -⟩ := letter_of_isUpper (hcapitals d hd)
    exact joins_eq_true.2 ⟨hunderscore, fun hlower => by simp [hcapital] at hlower⟩
  · exact List.pairwise_of_forall_mem_list fun c _ d hd => hsmall c hd
  · exact fun c _ d hd => hsmall c hd

theorem CapitalsFirst.cons (h : CapitalsFirst cs) :
    ∃ c rest, cs = c :: rest ∧ isLowercase c = false ∧ c ≠ '_' := by
  obtain ⟨_ | ⟨c, capitals⟩, smalls, rfl, hne, hcapitals, -⟩ := h
  · contradiction
  · obtain ⟨-, hunderscore, hcapital⟩ := letter_of_isUpper (hcapitals c List.mem_cons_self)
    exact ⟨c, capitals ++ smalls, rfl, hcapital, hunderscore⟩

end Capitals

section Spelling

variable {name : String}

/-- A spelling of an acronym: some of its letters at the beginning, and at least the first, are
capital and all others are small. An acronym with a digit in it has none. -/
structure Spells (spelling acronym : String) : Prop where
  upper : uppercase spelling.toList = acronym.toList
  capitals : CapitalsFirst spelling.toList

theorem recase_of_spells {spelling acronym : String} (h : Spells spelling acronym)
    (hacronym : acronym ∈ acronyms) : recase spelling.toList = acronym.toList := by
  have hascii : IsAscii spelling.toList := fun c hc => (h.capitals.letter c hc).1
  have hlength : (uppercase spelling.toList).length = spelling.toList.length := by
    rw [uppercase_of_isAscii hascii, List.length_map]
  have hupper : isAcronym (uppercase spelling.toList) := by
    rw [h.upper]
    exact isAcronym_iff.2 (List.mem_map_of_mem hacronym)
  unfold recase
  rw [if_pos hupper, overwrite_of_length_le hlength.ge, List.take_of_length_le hlength.le,
    h.upper]

theorem normal_append_of_spells {spelling acronym : String}
    (hname : name.toList.getLast?.any isLowercase) (h : Spells spelling acronym)
    (hacronym : acronym ∈ acronyms) : normal (name ++ spelling) = normal name ++ acronym := by
  obtain ⟨c, rest, hcons, hcapital, hunderscore⟩ := h.capitals.cons
  have hstay : UnderscoresStay spelling.toList :=
    underscoresStay_of_notMem fun hmem => (h.capitals.letter _ hmem).2 rfl
  have happend : normalChars (name.toList ++ spelling.toList) =
      normalChars name.toList ++ acronym.toList := by
    rw [← recase_of_spells h hacronym, hcons]
    exact normalChars_append hname hcapital hunderscore (hcons ▸ h.capitals.joined) (hcons ▸ hstay)
  rw [normal, onChars, String.toList_append, happend, String.ofList_append, String.ofList_toList]
  rfl

theorem spells_id : Spells "Id" "ID" :=
  ⟨by decide, ['I'], ['d'], rfl, by simp, by simp, by simp⟩

theorem spells_ID : Spells "ID" "ID" :=
  ⟨by decide, ['I', 'D'], [], rfl, by simp, by simp, by simp⟩

/-- After a lowercase letter an acronym is written in capitals however it is spelled, and the name
before it is written as on its own; so a name has one normal form with `Id` and with `ID` at its
end. -/
theorem normal_append_spelling (h : name.toList.getLast?.any isLowercase) :
    (∀ acronym ∈ acronyms, ∀ spelling, Spells spelling acronym →
      normal (name ++ spelling) = normal name ++ acronym) ∧
    normal (name ++ "Id") = normal (name ++ "ID") := by
  have hid : "ID" ∈ acronyms := by decide
  refine ⟨fun acronym hacronym spelling hspells => normal_append_of_spells h hspells hacronym, ?_⟩
  rw [normal_append_of_spells h spells_id hid, normal_append_of_spells h spells_ID hid]

theorem normal_append_spelling_team :
    "Player_team".toList.getLast?.any isLowercase ∧ Spells "Guid" "GUID" ∧
    normal ("Player_team" ++ "Guid") = normal "Player_team" ++ "GUID" ∧
    normal ("Player_team" ++ "Id") = normal ("Player_team" ++ "ID") := by
  have hlast : "Player_team".toList.getLast?.any isLowercase := by decide
  have hspells : Spells "Guid" "GUID" :=
    ⟨by decide, ['G'], ['u', 'i', 'd'], rfl, by simp, by simp, by simp⟩
  obtain ⟨hacronym, hid⟩ := normal_append_spelling hlast
  exact ⟨hlast, hspells, hacronym "GUID" (by decide) "Guid" hspells, hid⟩

example : normal "Player_teamGuid" = "PlayerTeamGUID" := by decide +kernel

end Spelling

end TypedClient.Naming
