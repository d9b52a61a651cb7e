import Mathlib.Tactic.IntervalCases
import TypedClient.Proofs.Text.Pieces
import TypedClient.Text.Quoted

namespace TypedClient

namespace Text.Quoted

variable {body body' text text' rest rest' digits : List Char}

/-- The number that hexadecimal digits spell, if they are such digits. -/
def hexValue? (digits : List Char) : Option Nat :=
  digits.foldlM (fun value d => (hexDigit? d).map (16 * value + ·)) 0

/-- The body of a string literal, and the text that it stands for. A quote or a backslash is only found in an
escape, and the ends of lines are not found at all. -/
inductive Spells : List Char → List Char → Prop
  | nil : Spells [] []
  | plain {c : Char} {body text : List Char} (hc : c ∉ ['"', '\\', '\n', '\r']) (h : Spells body text) :
      Spells (c :: body) (c :: text)
  | short {e c : Char} {body text : List Char} (he : escaped? e = some c) (h : Spells body text) :
      Spells ('\\' :: e :: body) (c :: text)
  | coded {digits body text : List Char} {value : Nat} (hdigits : hexValue? digits = some value)
      (hlength : 0 < digits.length ∧ digits.length ≤ 6) (hvalid : value.isValidChar)
      (h : Spells body text) :
      Spells ('\\' :: 'u' :: '{' :: (digits ++ '}' :: body)) (Char.ofNat value :: text)

theorem hexDigit?_digitChar {d : Nat} (h : d < 16) : hexDigit? d.digitChar = some d := by
  interval_cases d <;> rfl

theorem hexValue?_toDigits (n : Nat) : hexValue? (Nat.toDigits 16 n) = some n := by
  induction n using Nat.strongRecOn with
  | ind n ih =>
    rw [Nat.toDigits_eq_if (by decide)]
    split
    · rename_i hsmall
      simp [hexValue?, hexDigit?_digitChar hsmall]
    · rename_i hlarge
      have hdigit := hexDigit?_digitChar (Nat.mod_lt n (by decide : 0 < 16))
      have hshorter := ih (n / 16) (by omega)
      rw [hexValue?] at hshorter
      rw [hexValue?, List.foldlM_append, hshorter]
      simp [hdigit, Nat.div_add_mod]

theorem isSome_hexDigit?_of_mem {value : Nat} {start : Nat}
    (h : digits.foldlM (fun value d => (hexDigit? d).map (16 * value + ·)) start = some value) :
    ∀ d ∈ digits, (hexDigit? d).isSome := by
  induction digits generalizing start with
  | nil => nofun
  | cons d digits ih =>
    rw [List.foldlM_cons] at h
    obtain ⟨next, hd, hrest⟩ := Option.bind_eq_some_iff.1 h
    obtain ⟨v, hv, -⟩ := Option.map_eq_some_iff.1 hd
    exact List.forall_mem_cons.2 ⟨by simp [hv], ih hrest⟩

theorem brace_not_mem {value : Nat} (h : hexValue? digits = some value) : '}' ∉ digits := fun hmem =>
  absurd (isSome_hexDigit?_of_mem h _ hmem) (by decide)

/-- A body ends where its literal ends, and stands for one text only. -/
theorem Spells.unique (h : Spells body text) (h' : Spells body' text')
    (heq : body ++ '"' :: rest = body' ++ '"' :: rest') : text = text' ∧ rest = rest' := by
  induction h generalizing body' text' with
  | nil =>
    cases h' with
    | nil => exact ⟨rfl, (List.cons.inj heq).2⟩
    | plain hc _ => exact absurd (by simp [← (List.cons.inj heq).1]) hc
    | short => exact absurd (List.cons.inj heq).1 (by decide)
    | coded => exact absurd (List.cons.inj heq).1 (by decide)
  | @plain c body text hc h ih =>
    cases h' with
    | nil => exact absurd (by simp [(List.cons.inj heq).1]) hc
    | plain hc' h' =>
      obtain ⟨rfl, hbodies⟩ := List.cons.inj heq
      exact (ih h' hbodies).imp_left (congrArg _)
    | short => exact absurd (by simp [(List.cons.inj heq).1]) hc
    | coded => exact absurd (by simp [(List.cons.inj heq).1]) hc
  | @short e c body text he h ih =>
    cases h' with
    | nil => exact absurd (List.cons.inj heq).1 (by decide)
    | plain hc' _ => exact absurd (by simp [← (List.cons.inj heq).1]) hc'
    | short he' h' =>
      obtain ⟨rfl, hbodies⟩ := List.cons.inj (List.cons.inj heq).2
      obtain ⟨rfl, hrest⟩ := ih h' hbodies
      rw [he, Option.some.injEq] at he'
      exact ⟨by rw [he'], hrest⟩
    | coded =>
      obtain ⟨rfl, -⟩ := List.cons.inj (List.cons.inj heq).2
      cases he
  | @coded digits body text value hdigits hlength hvalid h ih =>
    cases h' with
    | nil => exact absurd (List.cons.inj heq).1 (by decide)
    | plain hc' _ => exact absurd (by simp [← (List.cons.inj heq).1]) hc'
    | short he' _ =>
      obtain ⟨rfl, -⟩ := List.cons.inj (List.cons.inj heq).2
      cases he'
    | @coded digits' body' text' value' hdigits' hlength' hvalid' h' =>
      simp only [List.cons_append, List.append_assoc, List.cons.injEq, true_and] at heq
      obtain ⟨rfl, hbodies⟩ := append_cons_inj (brace_not_mem hdigits) (brace_not_mem hdigits') heq
      obtain ⟨rfl, hrest⟩ := ih h' hbodies
      rw [hdigits, Option.some.injEq] at hdigits'
      exact ⟨by rw [hdigits'], hrest⟩

theorem Spells.lineEnd_not_mem (h : Spells body text) : '\n' ∉ body ∧ '\r' ∉ body := by
  induction h with
  | nil => exact ⟨List.not_mem_nil, List.not_mem_nil⟩
  | plain hc _ ih =>
    rw [List.mem_cons, List.mem_cons, not_or, not_or]
    exact ⟨⟨fun h => hc (by simp [← h]), ih.1⟩, fun h => hc (by simp [← h]), ih.2⟩
  | @short e c body text he _ ih =>
    have hnewline : '\n' ≠ e := by
      rintro rfl
      cases he
    have hreturn : '\r' ≠ e := by
      rintro rfl
      cases he
    simp [hnewline, hreturn, ih]
  | @coded digits body text value hdigits _ _ _ ih =>
    have hdigit := isSome_hexDigit?_of_mem hdigits
    have hnewline : '\n' ∉ digits := fun hmem => absurd (hdigit _ hmem) (by decide)
    have hreturn : '\r' ∉ digits := fun hmem => absurd (hdigit _ hmem) (by decide)
    simp [hnewline, hreturn, ih]

theorem Spells.escape (h : Spells body text) (c : Char) : Spells (escape c ++ body) (c :: text) := by
  unfold Quoted.escape
  split
  · exact .short rfl h
  · exact .short rfl h
  · exact .short rfl h
  · exact .short rfl h
  · exact .short rfl h
  · exact .short rfl h
  · rename_i hreturn hnewline hquote hbackslash
    split
    · refine .plain ?_ h
      simp only [List.mem_cons, List.not_mem_nil, or_false, not_or]
      exact ⟨hquote, hbackslash, hnewline, hreturn⟩
    · have hlength : (Nat.toDigits 16 c.toNat).length ≤ 6 := by
        rw [Nat.length_toDigits_le_iff (by decide) (by decide)]
        have hvalid : c.toNat < 0xD800 ∨ 0xDFFF < c.toNat ∧ c.toNat < 0x110000 := c.valid
        omega
      have hcoded := Spells.coded (hexValue?_toDigits c.toNat) ⟨Nat.length_toDigits_pos, hlength⟩ c.valid h
      simpa using hcoded

theorem spells_flatMap_escape (cs : List Char) : Spells (cs.flatMap escape) cs := by
  induction cs with
  | nil => exact .nil
  | cons c cs ih =>
    rw [List.flatMap_cons]
    exact ih.escape c

/-- Within the braces of an escape: the digits that are left are read up to the brace. -/
theorem unquoteFrom?_digits {count value start : Nat} {cs : List Char}
    (h : digits.foldlM (fun value d => (hexDigit? d).map (16 * value + ·)) start = some value)
    (hlength : 0 < count + digits.length ∧ count + digits.length ≤ 6) (hvalid : value.isValidChar) :
    unquoteFrom? (some (count, start)) (digits ++ '}' :: cs) =
      (unquoteFrom? none cs).map (Char.ofNat value :: ·) := by
  induction digits generalizing count start with
  | nil =>
    cases h
    rw [List.nil_append, unquoteFrom?]
    simp only [List.length_nil, Nat.add_zero] at hlength
    rw [if_pos rfl, if_pos ⟨hlength.1, hlength.2, hvalid⟩]
  | cons d digits ih =>
    have hd : d ≠ '}' := by
      rintro rfl
      exact absurd (isSome_hexDigit?_of_mem h _ List.mem_cons_self) (by decide)
    rw [List.foldlM_cons] at h
    obtain ⟨next, hdigit, hrest⟩ := Option.bind_eq_some_iff.1 h
    obtain ⟨v, hv, rfl⟩ := Option.map_eq_some_iff.1 hdigit
    rw [List.cons_append, unquoteFrom?, if_neg hd, hv]
    rw [List.length_cons] at hlength
    exact ih hrest (by omega)

theorem unquoteFrom?_of_spells (h : Spells body text) : unquoteFrom? none (body ++ ['"']) = some text := by
  induction h with
  | nil => rfl
  | @plain c body text hc _ ih =>
    rw [List.mem_cons, List.mem_cons, not_or, not_or] at hc
    rw [List.cons_append, unquoteFrom?.eq_def]
    simp only [if_neg hc.1, if_neg hc.2.1, ih, Option.map_some]
  | @short e c body text he _ ih =>
    have hletter : e ≠ 'u' := by
      rintro rfl
      cases he
    rw [List.cons_append, List.cons_append, unquoteFrom?, if_neg (by decide), if_pos rfl, he, ih]
    · rfl
    · exact fun _ heq => absurd heq hletter
  | coded hdigits hlength hvalid _ ih =>
    simp only [List.cons_append, List.append_assoc]
    rw [unquoteFrom?, if_neg (by decide), if_pos rfl]
    rw [unquoteFrom?_digits hdigits (by omega) hvalid, ih]
    rfl

end Text.Quoted

open Text.Quoted

theorem toList_quoted (s : String) : (quoted s).toList = '"' :: s.toList.flatMap escape ++ ['"'] := by
  rw [quoted, String.toList_ofList, quote]

/-- A string survives its literal: between the quotes stands a body without loose quotes, backslashes and ends
of lines, which reads back as the string. Whatever code comes after a literal, it can only be read as this
string and this code, so that different strings have different literals. -/
theorem quoted_reads_back (s : String) :
    (∃ body, (quoted s).toList = '"' :: body ++ ['"'] ∧ Spells body s.toList ∧ '\n' ∉ body ∧ '\r' ∉ body) ∧
    unquote? (quoted s).toList = some s.toList ∧
    (∀ body text rest code, Spells body text → (quoted s).toList ++ code = '"' :: body ++ '"' :: rest →
      text = s.toList ∧ rest = code) ∧
    ∀ t code code', (quoted s).toList ++ code = (quoted t).toList ++ code' → s = t ∧ code = code' := by
  have hspells := spells_flatMap_escape s.toList
  have hunique : ∀ body text rest code, Spells body text →
      (quoted s).toList ++ code = '"' :: body ++ '"' :: rest → text = s.toList ∧ rest = code := by
    intro body text rest code hbody heq
    rw [toList_quoted, List.append_assoc, List.cons_append, List.cons_append] at heq
    exact (hbody.unique hspells (List.cons.inj heq).2.symm)
  refine ⟨⟨_, toList_quoted s, hspells, hspells.lineEnd_not_mem⟩, ?_, hunique, ?_⟩
  · rw [toList_quoted, List.cons_append, unquote?]
    exact unquoteFrom?_of_spells hspells
  · intro t code code' heq
    rw [toList_quoted t, List.append_assoc, List.singleton_append] at heq
    obtain ⟨htext, hcode⟩ := hunique _ _ code' code (spells_flatMap_escape t.toList) heq
    exact ⟨String.toList_inj.1 htext.symm, hcode.symm⟩

end TypedClient
