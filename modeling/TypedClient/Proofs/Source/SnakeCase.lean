import TypedClient.Proofs.Naming.Letters
import TypedClient.Source.Identifier

namespace TypedClient.Source

open Naming (IsAscii)

variable {before : Option Char} {c : Char} {cs : List Char}

theorem toList_snakeCase (name : String) : (snakeCase name).toList = snakeAfter none name.toList :=
  String.toList_ofList

theorem snakeAfter_of_ascii (before : Option Char) (cs : List Char) (h : c.toNat < 0x80) :
    snakeAfter before (c :: cs) =
      (if c.isUpper && before.any (beginsWord · cs) then ['_'] else []) ++
        c.toLower :: snakeAfter (some c) cs := by
  rw [snakeAfter, Text.toLower, if_pos h, List.append_assoc, List.singleton_append]

/-- A character of a name in snake case. -/
structure IsSmall (c : Char) : Prop where
  ascii : c.toNat < 0x80
  small : c.isUpper = false

theorem isSmall_toLower (h : c.toNat < 0x80) : IsSmall c.toLower := by
  have hchecked : ∀ n < 0x80,
      (Char.ofNat n).toLower.toNat < 0x80 ∧ (Char.ofNat n).toLower.isUpper = false := by
    decide +kernel
  obtain ⟨hascii, hsmall⟩ := hchecked c.toNat h
  rw [Char.ofNat_toNat] at hascii hsmall
  exact ⟨hascii, hsmall⟩

theorem IsSmall.toLower_eq (h : IsSmall c) : c.toLower = c := by
  have hchecked : ∀ n < 0x80, (Char.ofNat n).isUpper = false → (Char.ofNat n).toLower = Char.ofNat n := by
    decide +kernel
  have hlower := hchecked c.toNat h.ascii
  rw [Char.ofNat_toNat] at hlower
  exact hlower h.small

theorem toLower_eq_underscore (h : c.toNat < 0x80) : c.toLower = '_' ↔ c = '_' := by
  have hiff := Naming.toLower_eq_underscore_iff c.toNat h
  rwa [Char.ofNat_toNat] at hiff

theorem isSmall_snakeAfter (before : Option Char) (h : IsAscii cs) :
    ∀ c ∈ snakeAfter before cs, IsSmall c := by
  induction cs generalizing before with
  | nil => exact fun c hc => absurd hc List.not_mem_nil
  | cons d cs ih =>
    obtain ⟨hd, hcs⟩ := List.forall_mem_cons.1 h
    rw [snakeAfter_of_ascii before cs hd, List.forall_mem_append, List.forall_mem_cons]
    refine ⟨fun c hc => ?_, isSmall_toLower hd, ih (some d) hcs⟩
    split at hc
    · rw [List.mem_singleton.1 hc]
      exact ⟨by decide, rfl⟩
    · cases hc

/-- Where no letter is a capital one, no word begins. -/
theorem snakeAfter_of_isSmall (before : Option Char) (h : ∀ c ∈ cs, IsSmall c) :
    snakeAfter before cs = cs := by
  induction cs generalizing before with
  | nil => rfl
  | cons c cs ih =>
    obtain ⟨hc, hcs⟩ := List.forall_mem_cons.1 h
    rw [snakeAfter_of_ascii before cs hc.ascii, hc.small, Bool.false_and, if_neg Bool.false_ne_true,
      List.nil_append, hc.toLower_eq, ih (some c) hcs]

theorem filter_snakeAfter (before : Option Char) (h : IsAscii cs) :
    (snakeAfter before cs).filter (· ≠ '_') = (cs.map Char.toLower).filter (· ≠ '_') := by
  induction cs generalizing before with
  | nil => rfl
  | cons c cs ih =>
    obtain ⟨hc, hcs⟩ := List.forall_mem_cons.1 h
    have hseparator : ∀ begins : Bool, (if begins then ['_'] else []).filter (· ≠ '_') = [] := by decide
    rw [snakeAfter_of_ascii before cs hc, List.filter_append, hseparator, List.nil_append, List.map_cons,
      List.filter_cons, List.filter_cons, ih (some c) hcs]

/-- An underscore is only put between a letter or digit and a capital letter. -/
theorem head?_snakeAfter (h : IsAscii cs) (hbefore : ∀ b ∈ before, b = '_')
    (hhead : (snakeAfter before cs).head? = some '_') : cs.head? = some '_' := by
  cases cs with
  | nil => cases hhead
  | cons c cs =>
    obtain ⟨hc, -⟩ := List.forall_mem_cons.1 h
    have hbegins : before.any (beginsWord · cs) = false := by
      cases before with
      | none => rfl
      | some b =>
        rw [hbefore b rfl]
        rfl
    rw [snakeAfter_of_ascii before cs hc, hbegins, Bool.and_false, if_neg Bool.false_ne_true,
      List.nil_append, List.head?_cons, Option.some.injEq, toLower_eq_underscore hc] at hhead
    rw [List.head?_cons, hhead]

theorem infix_underscores_cons : ['_', '_'] <:+: c :: cs ↔
    (c = '_' ∧ cs.head? = some '_') ∨ ['_', '_'] <:+: cs := by
  have hhead : ['_'] <+: cs ↔ cs.head? = some '_' := by
    cases cs <;> simp [eq_comm]
  rw [List.infix_cons_iff, List.cons_prefix_cons, hhead, eq_comm (a := '_')]

theorem infix_underscores_snakeAfter (h : IsAscii cs) (hdouble : ['_', '_'] <:+: snakeAfter before cs) :
    ['_', '_'] <:+: cs := by
  induction cs generalizing before with
  | nil => exact hdouble
  | cons c cs ih =>
    obtain ⟨hc, hcs⟩ := List.forall_mem_cons.1 h
    rw [snakeAfter_of_ascii before cs hc] at hdouble
    have hrest : (c = '_' ∧ cs.head? = some '_') ∨ ['_', '_'] <:+: snakeAfter (some c) cs := by
      have hafter : ['_', '_'] <:+: c.toLower :: snakeAfter (some c) cs →
          (c = '_' ∧ cs.head? = some '_') ∨ ['_', '_'] <:+: snakeAfter (some c) cs := by
        rw [infix_underscores_cons, toLower_eq_underscore hc]
        refine Or.imp_left fun ⟨heq, hhead⟩ => ⟨heq, head?_snakeAfter hcs ?_ hhead⟩
        rintro b ⟨⟩
        exact heq
      split at hdouble
      · -- The capital letter behind the new underscore is no underscore.
        rename_i hbegins
        rw [List.singleton_append, infix_underscores_cons, List.head?_cons, Option.some.injEq,
          toLower_eq_underscore hc] at hdouble
        rcases hdouble with ⟨-, rfl⟩ | hdouble
        · cases hbegins
        · exact hafter hdouble
      · exact hafter hdouble
    rw [infix_underscores_cons]
    exact hrest.imp_right (ih hcs)

/-- Snake case has no capital letters, has the letters and digits of the name in their order, doubles no
underscore and puts none first, and changes nothing once more. -/
theorem snakeCase_separates {name : String} (h : IsAscii name.toList) :
    (∀ c ∈ (snakeCase name).toList, ¬ c.isUpper) ∧
    (snakeCase name).toList.filter (· ≠ '_') = (Text.lowercase name.toList).filter (· ≠ '_') ∧
    (['_', '_'] <:+: (snakeCase name).toList → ['_', '_'] <:+: name.toList) ∧
    ((snakeCase name).toList.head? = some '_' → name.toList.head? = some '_') ∧
    snakeCase (snakeCase name) = snakeCase name := by
  have hsmall := isSmall_snakeAfter none h
  refine ⟨fun c hc => ?_, ?_, ?_, ?_, ?_⟩
  · rw [toList_snakeCase] at hc
    simp [(hsmall c hc).small]
  · rw [toList_snakeCase, Naming.lowercase_of_isAscii h]
    exact filter_snakeAfter none h
  · rw [toList_snakeCase]
    exact infix_underscores_snakeAfter h
  · rw [toList_snakeCase]
    exact head?_snakeAfter h nofun
  · rw [← String.toList_inj, toList_snakeCase, toList_snakeCase]
    exact snakeAfter_of_isSmall none hsmall

theorem snakeCase_separates_plural : IsAscii "_summonerIDs__V1Of2".toList ∧
    snakeCase (snakeCase "_summonerIDs__V1Of2") = snakeCase "_summonerIDs__V1Of2" ∧
    snakeCase "_summonerIDs__V1Of2" = "_summoner_ids__v1_of2" := by
  have hascii : IsAscii "_summonerIDs__V1Of2".toList := by simp [IsAscii]
  exact ⟨hascii, (snakeCase_separates hascii).2.2.2.2, by decide +kernel⟩

end TypedClient.Source
