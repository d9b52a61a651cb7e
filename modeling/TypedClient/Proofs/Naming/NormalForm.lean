import TypedClient.Proofs.Naming.Acronyms
import TypedClient.Proofs.Naming.Words

namespace TypedClient.Naming

open Text

section Lowercase

theorem lowercaseAfter_of_all {cs : List Char} (before : List Char) (h : cs.all isLowercase) :
    lowercaseAfter before cs = cs := by
  induction cs generalizing before with
  | nil => rfl
  | cons c cs ih =>
    obtain ⟨hc, hcs⟩ := Bool.and_eq_true_iff.1 h
    have hsigma : c ≠ 'Σ' := by
      rintro rfl
      rw [tables_checked.sigma] at hc
      cases hc
    rw [lowercaseAfter, if_neg hsigma, toLower_of_isLowercase hc, ih _ hcs, List.singleton_append]

theorem lowercase_of_all {cs : List Char} (h : cs.all isLowercase) : lowercase cs = cs :=
  lowercaseAfter_of_all [] h

theorem head?_toLower_of_lowercase_eq {c : Char} {cs : List Char}
    (h : lowercase (c :: cs) = c :: cs) : (toLower c).head? = some c := by
  rw [lowercase, lowercaseAfter] at h
  split at h
  · rename_i hsigma
    have hfirst := (List.cons.inj h).1
    subst hsigma
    split at hfirst <;> exact absurd hfirst (by decide)
  · obtain ⟨d, ds, hd⟩ := List.exists_cons_of_ne_nil (toLower_ne_nil c)
    rw [hd, List.cons_append] at h
    rw [hd, List.head?_cons, (List.cons.inj h).1]

end Lowercase

section Words

variable {name word : List Char}

theorem recaseFirst_eq_settle (h : Joined word) : recaseFirst word = settle word := by
  cases word with
  | nil => rfl
  | cons c cs =>
    unfold recaseFirst
    split
    · rename_i hacronym
      cases hc : isLowercase c
      · rw [settle_of_isAcronym hacronym (by simp [hc])]
        simp [hc]
      · have hall := h.all_isLowercase hc
        rw [(settle_eq_self_iff _).2 fun hmixed => by simp [hmixed.2.1] at hall,
          lowercase_of_all hall]
        simp [hc, overwrite]
    · rename_i hacronym
      exact ((settle_eq_self_iff _).2 fun hmixed => hacronym hmixed.1).symm

/-- A further word that does not begin with a lowercase letter is changed in mixed acronyms only. -/
theorem recase_eq_settle (h : ∀ c ∈ word.head?, isLowercase c = false) :
    recase word = settle word := by
  cases word with
  | nil => rfl
  | cons c cs =>
    have hc : isLowercase c = false := h c rfl
    unfold recase
    split
    · rename_i hacronym
      exact (settle_of_isAcronym hacronym (by simp [hc])).symm
    · rename_i hacronym
      rw [(settle_eq_self_iff _).2 fun hmixed => hacronym hmixed.1]
      split
      · rename_i hlower
        have hcapital := capital_of_toLower hc (head?_toLower_of_lowercase_eq hlower)
        rw [capital] at hcapital
        simp [hcapital]
      · rfl

/-- Between two words a word ends. -/
def Apart (first second : List Char) : Prop :=
  ∃ hf hs, joins (first.getLast hf) (second.head hs) = false

theorem isLowercase_head_of_apart {first second : List Char} (h : Apart first second) :
    ∀ c ∈ second.head?, isLowercase c = false := by
  obtain ⟨_, hs, hjoined⟩ := h
  intro c hc
  rw [List.head?_eq_some_head hs] at hc
  obtain rfl := Option.some.inj hc
  exact isLowercase_of_joins_eq_false hjoined

theorem isLowercase_head_of_isChain {first : List Char} {more : List (List Char)}
    (h : (first :: more).IsChain Apart) :
    ∀ word ∈ more, ∀ c ∈ word.head?, isLowercase c = false := by
  induction more generalizing first with
  | nil => simp
  | cons second more ih =>
    obtain ⟨hapart, hrest⟩ := List.isChain_cons_cons.1 h
    intro word hword
    rcases List.mem_cons.1 hword with rfl | hword
    · exact isLowercase_head_of_apart hapart
    · exact ih hrest word hword

theorem isChain_words (h : UnderscoresStay name) : (words name).IsChain Apart := by
  rw [words_eq_splitBy h]
  exact List.isChain_getLast_head_splitBy joins name

theorem flatten_words (h : UnderscoresStay name) : (words name).flatten = name := by
  rw [words_eq_splitBy h, List.flatten_splitBy]

theorem not_isMixed_of_plain (h : name = ['_'] ∨ name.all isLowercase) :
    ∀ word ∈ words name, ¬ IsMixed word := by
  rcases h with rfl | hall
  · decide +kernel
  · rintro word hword ⟨-, hcase, -⟩
    obtain ⟨c, hc, hlower⟩ : ∃ c ∈ word, isLowercase c = false := by simpa using hcase
    have hname : c ∈ (words name).flatten := List.mem_flatten_of_mem hword hc
    rw [flatten_words (underscoresStay_of_all hall)] at hname
    rw [List.all_eq_true.1 hall c hname] at hlower
    cases hlower

/-- A name that is not plain is written anew word by word. -/
theorem normalChars_cases (name : List Char) :
    (name = ['_'] ∨ name.all isLowercase) ∧ normalChars name = name ∨
    ∃ first more, words name = first :: more ∧
      normalChars name = recaseFirst first ++ more.flatMap recase := by
  unfold normalChars
  split
  · rename_i hplain
    exact .inl ⟨by simpa using hplain, rfl⟩
  · rename_i hplain
    cases name with
    | nil => simp at hplain
    | cons c cs =>
      obtain ⟨tail, more, hwords⟩ := words_cons c cs
      exact .inr ⟨_, _, hwords, by rw [hwords]⟩

/-- Where all underscores stay, recasing the words settles them. -/
theorem flatMap_settle_of_words {first : List Char} {more : List (List Char)}
    (h : UnderscoresStay name) (hwords : words name = first :: more) :
    (words name).flatMap settle = recaseFirst first ++ more.flatMap recase := by
  have hchain := isChain_words h
  rw [hwords] at hchain
  have hfirst := mem_words (hwords ▸ List.mem_cons_self : first ∈ words name)
  rw [hwords, List.flatMap_cons, recaseFirst_eq_settle hfirst.2,
    List.flatMap_congr fun word hword =>
      recase_eq_settle (isLowercase_head_of_isChain hchain word hword)]

/-- The normal form of a name whose underscores stay differs from it in mixed acronyms only. -/
theorem normalChars_eq_flatMap_settle (h : UnderscoresStay name) :
    normalChars name = (words name).flatMap settle := by
  rcases normalChars_cases name with ⟨hplain, heq⟩ | ⟨first, more, hwords, heq⟩
  · have hsettle : ∀ word ∈ words name, settle word = word := fun word hword =>
      (settle_eq_self_iff word).2 (not_isMixed_of_plain hplain word hword)
    rw [heq, List.flatMap_congr hsettle, List.flatMap_id', flatten_words h]
  · rw [heq, flatMap_settle_of_words h hwords]

/-- A name that is normal as it is comes out of its words unchanged, too. -/
theorem normalChars_of_words {first : List Char} {more : List (List Char)}
    (h : words name = first :: more) :
    normalChars name = recaseFirst first ++ more.flatMap recase := by
  rcases normalChars_cases name with ⟨hplain, heq⟩ | ⟨first', more', h', heq⟩
  · have hstay : UnderscoresStay name := by
      rcases hplain with rfl | hall
      · simp [underscoresStay_cons, underscoresStay_nil]
      · exact underscoresStay_of_all hall
    rw [normalChars_eq_flatMap_settle hstay, flatMap_settle_of_words hstay h]
  · obtain ⟨rfl, rfl⟩ := List.cons.inj (h.symm.trans h')
    exact heq

theorem flatMap_settle_eq_flatten_iff (ws : List (List Char)) :
    ws.flatMap settle = ws.flatten ↔ ∀ word ∈ ws, ¬ IsMixed word := by
  induction ws with
  | nil => simp
  | cons word ws ih =>
    rw [List.flatMap_cons, List.flatten_cons, List.forall_mem_cons, ← ih, ← settle_eq_self_iff]
    constructor
    · exact fun h => List.append_inj h (length_settle word)
    · rintro ⟨hword, hws⟩
      rw [hword, hws]

theorem normalChars_eq_self_iff (h : UnderscoresStay name) :
    normalChars name = name ↔ ∀ word ∈ words name, ¬ IsMixed word := by
  rw [← flatMap_settle_eq_flatten_iff, flatten_words h, normalChars_eq_flatMap_settle h]

end Words

section Underscores

variable {name other word : List Char}

/-- What decides whether underscores stay. -/
def shape (c : Char) : Bool × Bool := (c == '_', isNumeric c)

theorem UnderscoresStay.of_shape (h : UnderscoresStay name)
    (hshape : other.map shape = name.map shape) : UnderscoresStay other := by
  have hnumeric (cs : List Char) (i : Nat) :
      cs[i]?.any isNumeric = (cs.map shape)[i]?.any Prod.snd := by
    rw [List.getElem?_map, Option.any_map]
    rfl
  have hunderscore (cs : List Char) (i : Nat) :
      cs[i]? = some '_' ↔ (cs.map shape)[i]?.any Prod.fst := by
    rw [List.getElem?_map, Option.any_map]
    cases cs[i]? <;> simp [shape]
  intro i hi
  rw [hunderscore, hshape, ← hunderscore] at hi
  rw [hnumeric, hnumeric, hshape, ← hnumeric, ← hnumeric]
  exact h i hi

theorem ne_nil_of_shape (hshape : other.map shape = name.map shape) (h : name ≠ []) :
    other ≠ [] := by
  rintro rfl
  exact h (List.map_eq_nil_iff.1 hshape.symm)

theorem shape_capital (c : Char) : shape (capital c) = shape c := by
  have hiff : capital c = '_' ↔ c = '_' := by
    constructor
    · exact eq_of_capital_eq (.inl rfl)
    · rintro rfl
      decide
  have hbeq : (capital c == '_') = (c == '_') := by
    rw [Bool.eq_iff_iff, beq_iff_eq, beq_iff_eq, hiff]
  rw [shape, shape, isNumeric_capital, hbeq]

theorem shape_of_toUpper {c x : Char} (h : toUpper c = [x]) : shape x = shape c := by
  rw [← shape_capital c, capital, h]
  rfl

theorem shape_overwrite (h : isAcronym (uppercase word)) :
    (overwrite word (uppercase word)).map shape = word.map shape := by
  have hsharp : shape 'S' = shape 'ß' := by
    rw [← shape_capital 'ß', capital, tables_checked.sharp.2]
    rfl
  rcases word_of_isAcronym h with hall | ⟨c, rfl, hc | hc⟩ | ⟨c, rfl, hc⟩
  · rw [overwrite_of_length_le (length_le_uppercase word), uppercase_eq_map hall,
      List.take_of_length_le (by simp), List.map_map]
    exact List.map_congr_left fun c _ => shape_capital c
  · simp [uppercase, overwrite, hc, tables_checked.sharp.2, shape_of_toUpper hc, hsharp]
  · simp [uppercase, overwrite, hc, tables_checked.sharp.2, shape_of_toUpper hc, hsharp]
  · have hletter : shape 'S' = shape 'H' := by decide
    simp [uppercase, overwrite, tables_checked.sharp.2, ← shape_of_toUpper hc, ← hletter, hsharp]

theorem shape_recaseFirst (h : Joined word) : (recaseFirst word).map shape = word.map shape := by
  rw [recaseFirst_eq_settle h, settle]
  split
  · rename_i hmixed
    exact shape_overwrite hmixed.1
  · rfl

theorem shape_recase (word : List Char) : (recase word).map shape = word.map shape := by
  unfold recase
  split
  · rename_i hacronym
    exact shape_overwrite hacronym
  · split
    · cases word with
      | nil => rfl
      | cons c cs => exact congrArg (· :: cs.map shape) (shape_capital c)
    · rfl

theorem underscoresStay_normalChars (name : List Char) : UnderscoresStay (normalChars name) := by
  rcases normalChars_cases name with ⟨hplain, heq⟩ | ⟨first, more, hwords, heq⟩
  · rw [heq]
    rcases hplain with rfl | hall
    · simp [underscoresStay_cons, underscoresStay_nil]
    · exact underscoresStay_of_all hall
  · have hfirst := mem_words (hwords ▸ List.mem_cons_self : first ∈ words name)
    refine (underscoresStay_flatten_words name).of_shape ?_
    simp only [heq, hwords, List.map_append, List.map_flatMap, shape_recaseFirst hfirst.2,
      shape_recase, List.flatten_cons, List.map_flatten, ← List.flatMap_def]

end Underscores

end TypedClient.Naming
