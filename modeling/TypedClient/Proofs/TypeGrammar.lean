import Mathlib.Data.List.Basic
import TypedClient.TypeText.Grammar

namespace TypedClient.TypeText

open Text

/-- Where at least `least` brackets are open, the search for a comma passes over the text whole. -/
def Passed (least : Nat) (cs : List Char) : Prop :=
  ∀ depth, least ≤ depth → ∀ rest,
    splitPairAt depth (cs ++ rest) = (splitPairAt depth rest).map fun p => (cs ++ p.1, p.2)

theorem passed_nil (least : Nat) : Passed least [] := by
  intro depth _ rest
  simp

theorem Passed.mono {least more : Nat} {cs : List Char} (h : Passed least cs) (hle : least ≤ more) :
    Passed more cs := fun depth hd => h depth (Nat.le_trans hle hd)

theorem Passed.append {least : Nat} {xs ys : List Char} (hx : Passed least xs)
    (hy : Passed least ys) : Passed least (xs ++ ys) := by
  intro depth hd rest
  rw [List.append_assoc, hx depth hd, hy depth hd, Option.map_map]
  congr 1
  funext p
  simp

theorem passed_of_no_brackets {least : Nat} {cs : List Char}
    (h : ∀ c ∈ cs, c ≠ '[' ∧ c ≠ ']' ∧ c ≠ ',') : Passed least cs := by
  induction cs with
  | nil => exact passed_nil least
  | cons c cs ih =>
    obtain ⟨hopen, hclose, hcomma⟩ := h c (by simp)
    have hc : Passed least [c] := by
      intro depth _ rest
      simp [splitPairAt, hopen, hclose, hcomma]
    exact hc.append (ih fun d hd => h d (by simp [hd]))

theorem isName_iff {cs : List Char} :
    isName cs ↔ cs ≠ [] ∧ ∀ c ∈ cs, c ≠ '[' ∧ c ≠ ']' ∧ c ≠ ',' := by
  simp [isName, and_assoc]

theorem passed_of_isName {cs : List Char} (h : isName cs) : Passed 0 cs :=
  passed_of_no_brackets (isName_iff.1 h).2

theorem passed_comma : Passed 1 [','] := by
  intro depth hd rest
  have hne : depth ≠ 0 := by omega
  simp [splitPairAt, hne]

/-- Matching brackets shut off what they enclose. -/
theorem Passed.bracket {inner : List Char} (h : Passed 1 inner) :
    Passed 0 ('[' :: inner ++ [']']) := by
  intro depth _ rest
  have hin : splitPairAt (depth + 1) (inner ++ ']' :: rest) =
      (splitPairAt depth rest).map fun p => (inner ++ ']' :: p.1, p.2) := by
    rw [h (depth + 1) (by omega)]
    simp [splitPairAt, Option.map_map, Function.comp_def]
  simp [splitPairAt, hin, Option.map_map, Function.comp_def]

/-- Past a text with no comma of its own, the search stops at the comma that follows. -/
theorem splitPair_of_passed {left right : List Char} (h : Passed 0 left) :
    splitPair (left ++ ',' :: right) = some (left, right) := by
  rw [splitPair, h 0 (Nat.le_refl 0)]
  simp [splitPairAt]

theorem no_brackets_of_blank {cs : List Char} (h : ∀ c ∈ cs, isBlank c) :
    ∀ c ∈ cs, c ≠ '[' ∧ c ≠ ']' ∧ c ≠ ',' := by
  intro c hc
  have hb := h c hc
  refine ⟨?_, ?_, ?_⟩ <;> rintro rfl <;> exact absurd hb (by decide)

theorem passed_of_trim {text : List Char} (h : Passed 0 (trim text)) : Passed 0 text := by
  obtain ⟨before, after, hblank, htext⟩ := exists_eq_append_trim text
  have hb := no_brackets_of_blank fun c hc => hblank c (List.mem_append_left after hc)
  have ha := no_brackets_of_blank fun c hc => hblank c (List.mem_append_right before hc)
  rw [htext]
  exact ((passed_of_no_brackets hb).append h).append (passed_of_no_brackets ha)

theorem passed_keyword (s : Scalar) : Passed 0 s.keyword.toList := by
  apply passed_of_isName
  cases s <;> decide

section

variable {config : Config} {classes : String → Option ClassId} {resource : String}

theorem passed_of_denotes {text : List Char} {t : ValueType}
    (h : Denotes config classes resource text t) : Passed 0 text := by
  -- The only comma that a type has of its own stands between the brackets of a map.
  induction h with
  | scalar h =>
    apply passed_of_trim
    rw [h]
    exact passed_keyword _
  | dynamicMap h =>
    apply passed_of_trim
    rw [h]
    exact passed_of_isName (by decide)
  | list hc h _ ih =>
    apply passed_of_trim
    rw [h, List.append_assoc]
    refine Passed.append (passed_of_isName ?_) (ih.mono (Nat.zero_le 1)).bracket
    rcases hc with rfl | rfl <;> decide
  | @map _ left right _ _ h _ _ ihk ihe =>
    have hpair : Passed 1 (left ++ [','] ++ right) :=
      ((ihk.mono (Nat.zero_le 1)).append passed_comma).append (ihe.mono (Nat.zero_le 1))
    apply passed_of_trim
    rw [h]
    have hm : Passed 0 "Map".toList := passed_of_isName (by decide)
    simpa using hm.append hpair.bracket
  | name _ hb _ _ _ =>
    exact passed_of_trim (passed_of_no_brackets hb)

theorem ofKeyword?_ofList {cs : List Char} {s : Scalar} :
    Scalar.ofKeyword? (String.ofList cs) = some s ↔ cs = s.keyword.toList :=
  Scalar.ofKeyword?_eq_some_iff.trans ofList_eq_iff

theorem ofKeyword?_ofList_eq_none {cs : List Char} :
    Scalar.ofKeyword? (String.ofList cs) = none ↔ ∀ s : Scalar, cs ≠ s.keyword.toList := by
  rw [Option.eq_none_iff_forall_ne_some]
  exact forall_congr' fun s => not_congr ofKeyword?_ofList

theorem ofKeyword?_eq_none_of_bracket {cs : List Char} (h : '[' ∈ cs) :
    Scalar.ofKeyword? (String.ofList cs) = none := by
  rw [ofKeyword?_ofList_eq_none]
  rintro s rfl
  cases s <;> exact absurd h (by decide)

theorem ne_object_of_bracket {cs : List Char} (h : '[' ∈ cs) : String.ofList cs ≠ "object" := by
  intro ho
  rw [ofList_eq_iff.1 ho] at h
  exact absurd h (by decide)

theorem argument?_eq_none_of_no_bracket {container : String} {cs : List Char} (h : '[' ∉ cs) :
    argument? container cs = none := by
  rw [Option.eq_none_iff_forall_ne_some]
  intro inner hi
  rw [argument?_eq_some_iff] at hi
  exact h (by simp [hi])

theorem argument?_eq_none_of_ne {container other : String} {cs inner : List Char}
    (h : cs = container.toList ++ '[' :: inner ++ [']'])
    (hne : container.toList.head? ≠ other.toList.head?) (hc : container.toList ≠ [])
    (ho : other.toList ≠ []) : argument? other cs = none := by
  rw [Option.eq_none_iff_forall_ne_some]
  intro rest hr
  rw [argument?_eq_some_iff, h] at hr
  have hhead := congrArg List.head? hr
  simp only [List.append_assoc, List.head?_append, List.head?_eq_some_head hc,
    List.head?_eq_some_head ho, Option.some_or] at hhead
  exact hne (by rw [List.head?_eq_some_head hc, List.head?_eq_some_head ho, hhead])

theorem resolve_keyword {text : List Char} {s : Scalar} (h : trim text = s.keyword.toList) :
    resolve config classes resource text = .ok (.scalar s) := by
  rw [resolve]
  simp [h, Scalar.ofKeyword?_keyword]

theorem resolve_object {text : List Char} (h : trim text = "object".toList) :
    resolve config classes resource text = .ok .dynamicMap := by
  rw [resolve]
  simp [h, show Scalar.ofKeyword? "object" = none from rfl]

theorem resolve_list {text inner : List Char} {container : String}
    (hc : container = "List" ∨ container = "Set")
    (h : trim text = container.toList ++ '[' :: inner ++ [']']) :
    resolve config classes resource text =
      (resolve config classes resource inner).map .list := by
  have hb : '[' ∈ trim text := by simp [h]
  have ha : (argument? "List" (trim text)).or (argument? "Set" (trim text)) = some inner := by
    rcases hc with rfl | rfl
    · rw [argument?_eq_some_iff.2 h, Option.some_or]
    · rw [argument?_eq_none_of_ne h (by decide) (by decide) (by decide), Option.none_or,
        argument?_eq_some_iff.2 h]
  rw [resolve]
  simp only [ofKeyword?_eq_none_of_bracket hb, if_neg (ne_object_of_bracket hb)]
  split
  · rename_i i hi
    rw [ha] at hi
    cases hi
    rfl
  · rename_i hi
    rw [ha] at hi
    cases hi

theorem resolve_map {text left right : List Char}
    (h : trim text = "Map[".toList ++ left ++ ',' :: right ++ [']'])
    (hs : splitPair (left ++ ',' :: right) = some (left, right)) :
    resolve config classes resource text = (do
      let key ← resolve config classes resource left
      let element ← resolve config classes resource right
      return .map key element) := by
  have hm : trim text = "Map".toList ++ '[' :: (left ++ ',' :: right) ++ [']'] := by simp [h]
  have hb : '[' ∈ trim text := by simp [hm]
  have hl : (argument? "List" (trim text)).or (argument? "Set" (trim text)) = none := by
    rw [argument?_eq_none_of_ne hm (by decide) (by decide) (by decide),
      argument?_eq_none_of_ne hm (by decide) (by decide) (by decide), Option.none_or]
  rw [resolve]
  simp only [ofKeyword?_eq_none_of_bracket hb, if_neg (ne_object_of_bracket hb)]
  split
  · rename_i i hi
    rw [hl] at hi
    cases hi
  · split
    · rename_i i hi
      rw [argument?_eq_some_iff.2 hm] at hi
      cases hi
      split
      · rename_i hn
        rw [hs] at hn
        cases hn
      · rename_i l r hp
        rw [hs] at hp
        cases hp
        rfl
    · rename_i hi
      rw [argument?_eq_some_iff.2 hm] at hi
      cases hi

theorem resolve_name {text : List Char} {c : ClassId} (hn : trim text ≠ [])
    (hb : ∀ x ∈ trim text, x ≠ '[' ∧ x ≠ ']' ∧ x ≠ ',')
    (hs : ∀ s : Scalar, trim text ≠ s.keyword.toList) (ho : trim text ≠ "object".toList)
    (hc : classes (Naming.className config resource (String.ofList (trim text))) = some c) :
    resolve config classes resource text = .ok (.pointer (.reference c)) := by
  have hk := ofKeyword?_ofList_eq_none.2 hs
  have ho' : String.ofList (trim text) ≠ "object" := fun h => ho (ofList_eq_iff.1 h)
  have hbr : '[' ∉ trim text := fun h => (hb _ h).1 rfl
  rw [resolve]
  simp only [hk, if_neg ho', isName_iff.2 ⟨hn, hb⟩, if_true, hc]
  split
  · rename_i i hi
    rw [argument?_eq_none_of_no_bracket hbr, argument?_eq_none_of_no_bracket hbr] at hi
    cases hi
  · split
    · rename_i i hi
      rw [argument?_eq_none_of_no_bracket hbr] at hi
      cases hi
    · rfl

theorem resolve_of_denotes {text : List Char} {t : ValueType}
    (h : Denotes config classes resource text t) :
    resolve config classes resource text = .ok t := by
  induction h with
  | scalar h => exact resolve_keyword h
  | dynamicMap h => exact resolve_object h
  | list hc h _ ih =>
    rw [resolve_list hc h, ih]
    rfl
  | map h hk _ ihk ihe =>
    rw [resolve_map h (splitPair_of_passed (passed_of_denotes hk)), ihk, ihe]
    rfl
  | name hn hb hs ho hc => exact resolve_name hn hb hs ho hc

theorem isInfix_of_argument? {container : String} {cs inner : List Char}
    (h : argument? container cs = some inner) : inner <:+: cs := by
  rw [argument?_eq_some_iff.1 h]
  exact ⟨container.toList ++ ['['], [']'], by simp⟩

theorem isInfix_trim (cs : List Char) : trim cs <:+: cs := by
  obtain ⟨before, after, _, h⟩ := exists_eq_append_trim cs
  exact ⟨before, after, h.symm⟩

theorem isInfix_of_splitPair {cs left right : List Char} (h : splitPair cs = some (left, right)) :
    left <:+: cs ∧ right <:+: cs := by
  have hc := eq_of_splitPairAt h
  exact ⟨⟨[], ',' :: right, by simp [hc]⟩, ⟨left ++ [','], [], by simp [hc]⟩⟩

variable (config classes resource) in
/-- A result fits a text if it is a type that the text denotes, or names a part of the text that is
no type of the resource. -/
def Fits (text : List Char) : Except Failure ValueType → Prop
  | .ok t => Denotes config classes resource text t
  | .error e => ∃ part, e = .unknownType resource part ∧ part.toList <:+: text

theorem fits_unknown {text cs : List Char} (h : cs <:+: text) :
    Fits config classes resource text (.error (.unknownType resource (String.ofList cs))) :=
  ⟨_, rfl, by rwa [String.toList_ofList]⟩

theorem fits_error {text inner : List Char} {e : Failure} (h : inner <:+: text)
    (he : Fits config classes resource inner (.error e)) :
    Fits config classes resource text (.error e) := by
  obtain ⟨part, hp, hi⟩ := he
  exact ⟨part, hp, hi.trans h⟩

variable (config classes resource) in
theorem fits_resolve (text : List Char) :
    Fits config classes resource text (resolve config classes resource text) := by
  -- What is refused inside is refused outside, with the same part of the text.
  fun_induction resolve config classes resource text with
  | case1 text cs s hs => exact Denotes.scalar (ofKeyword?_ofList.1 hs)
  | case2 text cs _ ho => exact Denotes.dynamicMap (ofList_eq_iff.1 ho)
  | case3 text cs _ _ inner hc ih =>
    obtain ⟨container, hl, ha⟩ : ∃ container, (container = "List" ∨ container = "Set") ∧
        argument? container cs = some inner := by
      rcases Option.or_eq_some_iff.1 hc with h | ⟨-, h⟩
      · exact ⟨"List", .inl rfl, h⟩
      · exact ⟨"Set", .inr rfl, h⟩
    cases hr : resolve config classes resource inner with
    | ok t =>
      rw [hr] at ih
      exact Denotes.list hl (argument?_eq_some_iff.1 ha) ih
    | error e =>
      rw [hr] at ih
      exact fits_error ((isInfix_of_argument? ha).trans (isInfix_trim text)) ih
  | case4 text => exact fits_unknown (isInfix_trim text)
  | case5 text cs _ _ _ inner ha left right hs ihk ihe =>
    have hin := (isInfix_of_argument? ha).trans (isInfix_trim text)
    obtain ⟨hleft, hright⟩ := isInfix_of_splitPair hs
    cases hk : resolve config classes resource left with
    | error e =>
      rw [hk] at ihk
      exact fits_error (hleft.trans hin) ihk
    | ok key =>
      rw [hk] at ihk
      cases he : resolve config classes resource right with
      | error e =>
        rw [he] at ihe
        exact fits_error (hright.trans hin) ihe
      | ok element =>
        rw [he] at ihe
        refine Denotes.map ?_ ihk ihe
        have hm := argument?_eq_some_iff.1 ha
        rw [eq_of_splitPairAt hs] at hm
        simpa using hm
  | case6 text cs hs ho _ _ hn c hc =>
    obtain ⟨hne, hb⟩ := isName_iff.1 hn
    exact Denotes.name hne hb (ofKeyword?_ofList_eq_none.1 hs)
      (fun h => ho (ofList_eq_iff.2 h)) hc
  | case7 text => exact fits_unknown (isInfix_trim text)
  | case8 text => exact fits_unknown (isInfix_trim text)

theorem denotes_of_resolve {text : List Char} {t : ValueType}
    (h : resolve config classes resource text = .ok t) : Denotes config classes resource text t := by
  have hfits := fits_resolve config classes resource text
  rwa [h] at hfits

variable (config classes resource) in
/-- A text is read as a type exactly if it denotes that type; a text that denotes none is refused as
unknown in its resource, and the refusal shows a part of the text. -/
theorem resolve_iff_denotes (text : List Char) :
    (∀ t, resolve config classes resource text = .ok t ↔
      Denotes config classes resource text t) ∧
    ((∀ t, ¬ Denotes config classes resource text t) ↔
      ∃ part, resolve config classes resource text = .error (.unknownType resource part) ∧
        part.toList <:+: text) := by
  have hfits := fits_resolve config classes resource text
  refine ⟨fun t => ⟨fun h => ?_, resolve_of_denotes⟩, fun h => ?_, ?_⟩
  · rwa [h] at hfits
  · cases hr : resolve config classes resource text with
    | ok t =>
      rw [hr] at hfits
      exact absurd hfits (h t)
    | error e =>
      rw [hr] at hfits
      obtain ⟨part, rfl, hi⟩ := hfits
      exact ⟨part, rfl, hi⟩
  · rintro ⟨part, he, -⟩ t ht
    rw [resolve_of_denotes ht] at he
    cases he

example : resolve {} (fun _ => some 0) "game" "List[int],List[int]".toList =
    .error (.unknownType "game" "int],List[int") := by decide +kernel

end

end TypedClient.TypeText
