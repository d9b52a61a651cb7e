import Mathlib.Data.List.SplitBy
import TypedClient.Naming

namespace TypedClient.Naming

open Text

section Split

variable {α : Type} {r : α → α → Bool} {l m u : List α} {us : List (List α)}

theorem head?_of_splitBy (h : m.splitBy r = u :: us) : u.head? = m.head? := by
  obtain ⟨rfl, hnil, -⟩ := List.splitBy_eq_iff.1 h
  have hu : u ≠ [] := fun hu => hnil (hu ▸ List.mem_cons_self)
  rw [List.flatten_cons, List.head?_append_of_ne_nil _ hu]

/-- What precedes a text and is related throughout becomes part of its first piece. -/
theorem splitBy_append_of_rel (hl : l.IsChain fun x y => r x y) (hm : m.splitBy r = u :: us)
    (hjoin : ∀ x ∈ l.getLast?, ∀ y ∈ m.head?, r x y) : (l ++ m).splitBy r = (l ++ u) :: us := by
  rw [← head?_of_splitBy hm] at hjoin
  obtain ⟨rfl, hnil, hchain, hends⟩ := List.splitBy_eq_iff.1 hm
  have hu : u ≠ [] := fun h => hnil (h ▸ List.mem_cons_self)
  refine List.splitBy_eq_iff.2 ⟨by simp, ?_, ?_, ?_⟩
  · simpa [hu] using hnil
  · intro w hw
    rcases List.mem_cons.1 hw with rfl | hw
    · exact List.isChain_append.2 ⟨hl, hchain u List.mem_cons_self, hjoin⟩
    · exact hchain w (List.mem_cons_of_mem u hw)
  · cases us with
    | nil => exact List.isChain_singleton _
    | cons v vs =>
      obtain ⟨⟨_, hv, hlast⟩, hrest⟩ := List.isChain_cons_cons.1 hends
      refine List.isChain_cons_cons.2 ⟨⟨by simp [hu], hv, ?_⟩, hrest⟩
      rwa [List.getLast_append_of_ne_nil _ hu]

/-- What precedes a text and is related throughout is a piece of its own, or becomes part of the
first piece. -/
theorem splitBy_append_cases (hne : l ≠ []) (hl : l.IsChain fun x y => r x y) :
    (l ++ m).splitBy r = l :: m.splitBy r ∨
      ∃ u us, m.splitBy r = u :: us ∧ (l ++ m).splitBy r = (l ++ u) :: us := by
  by_cases hjoin : ∀ x ∈ l.getLast?, ∀ y ∈ m.head?, r x y
  · cases m with
    | nil => simp [List.splitBy_of_isChain hne hl]
    | cons b m =>
      obtain ⟨u, us, hm⟩ :=
        List.exists_cons_of_ne_nil (List.splitBy_ne_nil.2 (List.cons_ne_nil b m))
      exact .inr ⟨u, us, hm, splitBy_append_of_rel hl hm hjoin⟩
  · left
    push Not at hjoin
    obtain ⟨x, hx, y, hy, hxy⟩ := hjoin
    have hends : ∀ x ∈ l.getLast?, ∀ y ∈ m.head?, r x y = false := by
      intro x' hx' y' hy'
      rw [Option.mem_unique hx' hx, Option.mem_unique hy' hy]
      simpa using hxy
    rw [List.splitBy_append hends, List.splitBy_of_isChain hne hl, List.singleton_append]

end Split

/-- Whether two neighbouring characters are in one word. -/
def joins (c d : Char) : Bool := !(d == '_' || isLowercase c && !isLowercase d)

/-- No word ends inside. -/
abbrev Joined (word : List Char) : Prop := word.IsChain fun c d => joins c d

theorem joins_eq_true {c d : Char} :
    joins c d = true ↔ d ≠ '_' ∧ (isLowercase c → isLowercase d) := by
  simp [joins, imp_iff_not_or]

theorem joins_eq_false {c d : Char} :
    joins c d = false ↔ d = '_' ∨ isLowercase c ∧ isLowercase d = false := by
  simp [joins, or_iff_not_imp_left]

theorem isLowercase_of_joins_eq_false {c d : Char} (h : joins c d = false) :
    isLowercase d = false := by
  rcases joins_eq_false.1 h with rfl | ⟨-, hd⟩
  · decide
  · exact hd

theorem words_underscore (c : Char) (rest : List Char) :
    words (c :: '_' :: rest) = [c] :: words (skipUnderscores c ('_' :: rest)) := by
  rw [words, if_pos rfl]

theorem words_of_not_joins {c d : Char} {rest : List Char} (hd : d ≠ '_') (h : joins c d = false) :
    words (c :: d :: rest) = [c] :: words (d :: rest) := by
  rw [words, if_neg hd, if_pos (by simpa [hd] using joins_eq_false.1 h)]

theorem words_of_joins {c d : Char} {rest word : List Char} {more : List (List Char)}
    (h : joins c d) (hwords : words (d :: rest) = word :: more) :
    words (c :: d :: rest) = (c :: word) :: more := by
  obtain ⟨hd, hcase⟩ := joins_eq_true.1 h
  rw [words, if_neg hd, if_neg (by simpa using hcase), hwords]

theorem words_cons (c : Char) (rest : List Char) :
    ∃ tail more, words (c :: rest) = (c :: tail) :: more := by
  cases rest with
  | nil => exact ⟨[], [], by rw [words]⟩
  | cons d rest =>
    rw [words]
    split
    · exact ⟨[], _, rfl⟩
    · split
      · exact ⟨[], _, rfl⟩
      · split
        · exact ⟨[], _, rfl⟩
        · exact ⟨_, _, rfl⟩

theorem head?_flatten_words (name : List Char) : (words name).flatten.head? = name.head? := by
  cases name with
  | nil => simp [words]
  | cons c rest =>
    obtain ⟨tail, more, h⟩ := words_cons c rest
    simp [h]

/-- The step of an induction on the words of a name. -/
theorem words_cons_cons (c d : Char) (rest : List Char) :
    (d = '_' ∧ words (c :: d :: rest) = [c] :: words (skipUnderscores c ('_' :: rest))) ∨
    (d ≠ '_' ∧ joins c d = false ∧ words (c :: d :: rest) = [c] :: words (d :: rest)) ∨
    (joins c d ∧ ∃ tail more, words (d :: rest) = (d :: tail) :: more ∧
      words (c :: d :: rest) = (c :: d :: tail) :: more) := by
  by_cases hd : d = '_'
  · exact .inl ⟨hd, hd ▸ words_underscore c rest⟩
  · cases h : joins c d
    · exact .inr (.inl ⟨hd, rfl, words_of_not_joins hd h⟩)
    · obtain ⟨tail, more, hwords⟩ := words_cons d rest
      exact .inr (.inr ⟨rfl, tail, more, hwords, words_of_joins h hwords⟩)

theorem mem_words {name word : List Char} (h : word ∈ words name) : word ≠ [] ∧ Joined word := by
  fun_induction words name generalizing word
  case case1 => cases h
  case case2 c => simp_all
  case case3 c rest ih =>
    rcases List.mem_cons.1 h with rfl | h
    · simp
    · exact ih h
  case case4 c d rest _ _ ih =>
    rcases List.mem_cons.1 h with rfl | h
    · simp
    · exact ih h
  case case5 => simp_all
  case case6 c d rest hd hcase first more hwords ih =>
    obtain ⟨tail, _, heq⟩ := words_cons d rest
    obtain ⟨rfl, rfl⟩ := List.cons.inj (hwords.symm.trans heq)
    rw [hwords] at ih
    rcases List.mem_cons.1 h with rfl | h
    · have hjoin : joins c d := joins_eq_true.2 ⟨hd, by simpa using hcase⟩
      exact ⟨List.cons_ne_nil _ _, List.isChain_cons_cons.2 ⟨hjoin, (ih List.mem_cons_self).2⟩⟩
    · exact ih (List.mem_cons_of_mem _ h)

theorem Joined.all_isLowercase {c : Char} {cs : List Char} (h : Joined (c :: cs))
    (hc : isLowercase c) : (c :: cs).all isLowercase := by
  induction cs generalizing c with
  | nil => simpa using hc
  | cons d ds ih =>
    obtain ⟨hjoin, hrest⟩ := List.isChain_cons_cons.1 h
    rw [List.all_cons, hc, ih hrest ((joins_eq_true.1 hjoin).2 hc)]
    rfl

/-- Every underscore after the first character stands between two digits. -/
def UnderscoresStay (name : List Char) : Prop :=
  ∀ i, name[i + 1]? = some '_' → name[i]?.any isNumeric ∧ name[i + 2]?.any isNumeric

theorem underscoresStay_nil : UnderscoresStay [] := by simp [UnderscoresStay]

theorem underscoresStay_cons {c : Char} {rest : List Char} :
    UnderscoresStay (c :: rest) ↔
      (rest.head? = some '_' → isNumeric c ∧ rest[1]?.any isNumeric) ∧ UnderscoresStay rest := by
  rw [List.head?_eq_getElem?]
  constructor
  · exact fun h => ⟨h 0, fun i => h (i + 1)⟩
  · rintro ⟨hfirst, hrest⟩ (_ | i)
    · exact hfirst
    · exact hrest i

theorem underscoresStay_of_notMem {name : List Char} (h : '_' ∉ name) : UnderscoresStay name :=
  fun _ hi => absurd (List.mem_of_getElem? hi) h

theorem underscoresStay_of_all {name : List Char} (h : name.all isLowercase) :
    UnderscoresStay name :=
  underscoresStay_of_notMem fun hmem => absurd (List.all_eq_true.1 h _ hmem) (by decide)

theorem ne_underscore_of_isNumeric {c : Char} (h : isNumeric c) : c ≠ '_' := by
  rintro rfl
  exact absurd h (by decide)

theorem skipUnderscores_of_isNumeric {c d : Char} {rest : List Char} (hc : isNumeric c)
    (hd : isNumeric d) : skipUnderscores c ('_' :: d :: rest) = '_' :: d :: rest := by
  simp [skipUnderscores, ne_underscore_of_isNumeric hd, hc, hd]

/-- A name whose underscores stay is split where two neighbours are not in one word. -/
theorem words_eq_splitBy {name : List Char} (h : UnderscoresStay name) :
    words name = name.splitBy joins := by
  induction name with
  | nil => rw [words]; rfl
  | cons c rest ih =>
    obtain ⟨hstays, hrest⟩ := underscoresStay_cons.1 h
    cases rest with
    | nil => rw [words]; rfl
    | cons d rest =>
      have hsplit (hjoin : joins c d = false) :
          (c :: d :: rest).splitBy joins = [c] :: (d :: rest).splitBy joins := by
        rw [← List.singleton_append, List.splitBy_append_cons rest (by simpa using hjoin)]
        rfl
      rcases words_cons_cons c d rest with ⟨rfl, hwords⟩ | ⟨-, hjoin, hwords⟩ |
        ⟨hjoin, tail, more, hnext, hwords⟩
      · obtain ⟨hc, hd⟩ := hstays rfl
        cases rest with
        | nil => simp at hd
        | cons d rest =>
          rw [hwords, skipUnderscores_of_isNumeric hc (by simpa using hd), ih hrest,
            hsplit (joins_eq_false.2 (.inl rfl))]
      · rw [hwords, ih hrest, hsplit hjoin]
      · rw [hwords]
        exact (splitBy_append_of_rel (List.isChain_singleton c) ((ih hrest).symm.trans hnext)
          (by simpa using hjoin)).symm

/-- What stays of a run of underscores is none, or one between two digits. -/
theorem head?_skipUnderscores_ne (c : Char) (rest : List Char)
    (h : (skipUnderscores c rest).head? = some '_') :
    ∃ d after, skipUnderscores c rest = '_' :: d :: after ∧ isNumeric c ∧ isNumeric d := by
  unfold skipUnderscores at h ⊢
  split at h
  · cases h
  · rename_i d after hdrop
    have hd : d ≠ '_' := by simpa [hdrop] using List.head?_dropWhile_not (· == '_') rest
    split at h
    · rename_i hnumeric
      rw [if_pos hnumeric]
      exact ⟨d, after, rfl, by simpa using hnumeric⟩
    · exact absurd (by simpa using h) hd

/-- What stays of a name is a name whose underscores all stay. -/
theorem underscoresStay_flatten_words (name : List Char) :
    UnderscoresStay (words name).flatten := by
  fun_induction words name
  case case1 => exact underscoresStay_nil
  case case2 => simp [underscoresStay_cons, underscoresStay_nil]
  case case3 c rest ih =>
    rw [List.flatten_cons, List.singleton_append]
    refine underscoresStay_cons.2 ⟨fun h => ?_, ih⟩
    rw [head?_flatten_words] at h
    obtain ⟨d, after, hskip, hc, hd⟩ := head?_skipUnderscores_ne c _ h
    have hjoin : joins '_' d := 
      joins_eq_true.2 ⟨ne_underscore_of_isNumeric hd, fun h => absurd h (by decide)⟩
    obtain ⟨tail, more, hwords⟩ := words_cons d after
    rw [hskip, words_of_joins hjoin hwords]
    exact ⟨hc, by simpa using hd⟩
  case case4 c d rest hd _ ih =>
    rw [List.flatten_cons, List.singleton_append]
    refine underscoresStay_cons.2 ⟨fun h => absurd ?_ hd, ih⟩
    rw [head?_flatten_words] at h
    simpa using h
  case case5 => simp [underscoresStay_cons, underscoresStay_nil]
  case case6 c d rest hd _ word more hwords ih =>
    rw [hwords] at ih
    refine underscoresStay_cons.2 ⟨fun h => absurd ?_ hd, ih⟩
    have hhead := head?_flatten_words (d :: rest)
    rw [hwords] at hhead
    simpa using hhead.symm.trans h

end TypedClient.Naming
