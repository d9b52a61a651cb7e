import TypedClient.Proofs.Naming.NormalForm

namespace TypedClient.Naming

open Text

section Settled

variable {word : List Char}

theorem settle_of_isMixed (h : IsMixed word) (hsharp : 'ß' ∉ word) :
    (∀ c ∈ word, toUpper c = [capital c]) ∧ settle word = uppercase word := by
  have hall : ∀ c ∈ word, toUpper c = [capital c] := by
    rcases word_of_isAcronym h.1 with hall | ⟨c, rfl, _⟩ | ⟨c, rfl, _⟩
    · exact hall
    · simp at hsharp
    · simp at hsharp
  refine ⟨hall, ?_⟩
  rw [settle, if_pos h, overwrite_of_length_le (length_le_uppercase word), List.take_of_length_le]
  rw [uppercase_eq_map hall, List.length_map]

theorem capital_of_isAcronym {c : Char} {cs : List Char} (h : isAcronym cs)
    (hcs : toUpper c <:+: cs) (hupper : toUpper c = [capital c]) (hc : isLowercase c = false) :
    capital c = c :=
  have hmem : capital c ∈ toUpper c := hupper ▸ List.mem_singleton_self _
  (eq_of_toUpper_eq hc hupper (letter_of_isAcronym h (hcs.subset hmem)).1).symm

/-- Acronyms leave the first letter of a further word as it is. -/
theorem head?_settle (h : ∀ c ∈ word.head?, isLowercase c = false)
    (hsharp : IsMixed word → 'ß' ∉ word) : (settle word).head? = word.head? := by
  by_cases hmixed : IsMixed word
  · obtain ⟨hall, hsettle⟩ := settle_of_isMixed hmixed (hsharp hmixed)
    rw [hsettle]
    cases word with
    | nil => rfl
    | cons c cs =>
      have hupper := hall c List.mem_cons_self
      have hcapital := capital_of_isAcronym hmixed.1
        (List.prefix_append _ (uppercase cs)).isInfix hupper (h c rfl)
      rw [uppercase_cons, hupper, hcapital]
      rfl
  · rw [(settle_eq_self_iff word).2 hmixed]

theorem joined_of_isAcronym {cs : List Char} (h : isAcronym cs) : Joined cs := by
  refine (List.pairwise_of_forall_mem_list fun c hc d hd => joins_eq_true.2 ?_).isChain
  obtain ⟨-, hlower, -⟩ := letter_of_isAcronym h hc
  exact ⟨(letter_of_isAcronym h hd).2.2, by simp [hlower]⟩

/-- An acronym that continues another one ends in capitals if its next letter is not lowercase. -/
theorem uppercase_of_isAcronym_append {first second : List Char} (hfirst : isAcronym first)
    (happend : isAcronym (first ++ uppercase second))
    (hhead : ∀ c ∈ second.head?, isLowercase c = false) : uppercase second = second := by
  have hlength := length_le_of_isAcronym_append hfirst happend
  match second with
  | [] => rfl
  | [c] =>
    have hc : uppercase [c] = toUpper c := List.append_nil _
    rw [hc] at hlength happend ⊢
    obtain ⟨d, ds, hupper⟩ := List.exists_cons_of_ne_nil (toUpper_ne_nil c)
    obtain rfl : ds = [] := by simpa [hupper] using hlength
    have hcapital : toUpper c = [capital c] := by simp [capital, hupper]
    have hsame := capital_of_isAcronym happend (List.suffix_append _ _).isInfix hcapital (hhead c rfl)
    rw [hcapital, hsame]
  | _ :: _ :: _ =>
    have := (length_le_uppercase _).trans hlength
    simp at this

theorem not_isMixed_append {first second : List Char} (hfirst : isAcronym first)
    (hhead : ∀ c ∈ second.head?, isLowercase c = false) : ¬ IsMixed (first ++ second) := by
  rintro ⟨hacronym, -, hstart⟩
  rw [uppercase_append, uppercase_of_isAcronym hfirst] at hacronym hstart
  rw [uppercase_of_isAcronym_append hfirst hacronym hhead] at hstart
  exact hstart List.prefix_rfl

/-- An acronym that takes in the next word is continued by its last letter only. -/
theorem not_isMixed_of_mem_splitBy_append {first rest : List Char} (hfirst : isAcronym first)
    (hhead : ∀ c ∈ rest.head?, isLowercase c = false)
    (hrest : ∀ word ∈ rest.splitBy joins, ¬ IsMixed word) :
    ∀ word ∈ (first ++ rest).splitBy joins, ¬ IsMixed word := by
  have hne : first ≠ [] := by
    rintro rfl
    exact absurd hfirst (by decide)
  rcases splitBy_append_cases hne (joined_of_isAcronym hfirst) (m := rest) with
    hsplit | ⟨second, more, hmore, hsplit⟩
  · have hempty : ¬ IsMixed (first ++ []) := not_isMixed_append hfirst (by simp)
    rw [List.append_nil] at hempty
    rw [hsplit, List.forall_mem_cons]
    exact ⟨hempty, hrest⟩
  · rw [hmore] at hrest
    rw [hsplit, List.forall_mem_cons]
    refine ⟨not_isMixed_append hfirst ?_, fun word hword => hrest word (List.mem_cons_of_mem _ hword)⟩
    rwa [head?_of_splitBy hmore]

/-- A word that is settled ends where it has ended before. -/
theorem joins_head_settle {first : List Char} {rest : List (List Char)} (hfirst : first ≠ [])
    (hapart : (first :: rest).IsChain Apart) (hsharp : ∀ word ∈ rest, IsMixed word → 'ß' ∉ word) :
    ∀ d ∈ (rest.flatMap settle).head?, joins (first.getLast hfirst) d = false := by
  cases rest with
  | nil => simp
  | cons second more =>
    obtain ⟨hsecond, -⟩ := List.isChain_cons_cons.1 hapart
    have hhead := head?_settle (isLowercase_head_of_apart hsecond) (hsharp second List.mem_cons_self)
    obtain ⟨_, hne, hmeet⟩ := hsecond
    rw [List.head?_eq_some_head hne] at hhead
    intro d hd
    rw [List.flatMap_cons, List.head?_append, hhead] at hd
    obtain rfl := Option.some.inj hd
    exact hmeet

/-- When the mixed acronyms among the words of a name are settled, new words arise, and none of them
is a mixed acronym. -/
theorem not_isMixed_of_mem_splitBy {ws : List (List Char)} (hnil : [] ∉ ws)
    (hjoined : ∀ word ∈ ws, Joined word) (hapart : ws.IsChain Apart)
    (hsharp : ∀ word ∈ ws, IsMixed word → 'ß' ∉ word) :
    ∀ word ∈ (ws.flatMap settle).splitBy joins, ¬ IsMixed word := by
  induction ws with
  | nil => simp
  | cons first rest ih =>
    rw [List.forall_mem_cons] at hjoined hsharp
    rw [List.mem_cons, not_or] at hnil
    have hfirst : first ≠ [] := Ne.symm hnil.1
    have hrest := ih hnil.2 hjoined.2 hapart.tail hsharp.2
    have hends := joins_head_settle hfirst hapart hsharp.2
    rw [List.flatMap_cons]
    by_cases hmixed : IsMixed first
    · obtain ⟨-, hsettle⟩ := settle_of_isMixed hmixed (hsharp.1 hmixed)
      have hacronym : isAcronym (settle first) := hsettle ▸ hmixed.1
      exact not_isMixed_of_mem_splitBy_append hacronym
        (fun d hd => isLowercase_of_joins_eq_false (hends d hd)) hrest
    · have hlast : ∀ c ∈ first.getLast?, ∀ d ∈ (rest.flatMap settle).head?, joins c d = false := by
        intro c hc d hd
        obtain rfl := Option.some.inj ((List.getLast?_eq_some_getLast hfirst).symm.trans hc)
        exact hends d hd
      rw [(settle_eq_self_iff first).2 hmixed, List.splitBy_append hlast,
        List.splitBy_of_isChain hfirst hjoined.1, List.singleton_append, List.forall_mem_cons]
      exact ⟨hmixed, hrest⟩

end Settled

section Sharp

variable {name word : List Char}

/-- The words in which the uppercase of the sharp s spoils an acronym. -/
def EndsSharp (word : List Char) : Prop := word = ['C', 'ß'] ∨ word = ['X', 'ß']

theorem endsSharp_of_isMixed (hjoined : Joined word) (h : IsMixed word) (hsharp : 'ß' ∈ word) :
    EndsSharp word := by
  have hlower := tables_checked.sharp.1
  rcases word_of_isAcronym h.1 with hall | ⟨c, rfl, hc⟩ | ⟨c, rfl, -⟩
  · have := hall _ hsharp
    simp [tables_checked.sharp.2] at this
  · have hcase : isLowercase c = false := by simpa [hlower] using h.2.1
    rcases hc with hc | hc
    · exact .inl (by rw [eq_of_toUpper_eq hcase hc (by decide)])
    · exact .inr (by rw [eq_of_toUpper_eq hcase hc (by decide)])
  · have := h.2.1
    rw [hjoined.all_isLowercase hlower] at this
    cases this

theorem sharp_notMem_overwrite (h : isAcronym (uppercase word)) :
    'ß' ∉ overwrite word (uppercase word) := by
  intro hsharp
  rw [overwrite_of_length_le (length_le_uppercase word)] at hsharp
  exact absurd (letter_of_isAcronym h (List.mem_of_mem_take hsharp)).1 (by decide)

theorem isMixed_of_endsSharp (h : EndsSharp word) : IsMixed word := by
  unfold IsMixed
  rcases h with rfl | rfl
  · rw [uppercase_sharp (.inl rfl) (by decide)]
    exact ⟨acronyms_checked.double_mem.1, by simp [show isLowercase 'C' = false by decide], by decide⟩
  · rw [uppercase_sharp (.inr rfl) (by decide)]
    exact ⟨acronyms_checked.double_mem.2, by simp [show isLowercase 'X' = false by decide], by decide⟩

theorem mem_of_endsSharp (h : EndsSharp word) : 'ß' ∈ word := by
  rcases h with rfl | rfl <;> simp

theorem not_endsSharp_recaseFirst (hjoined : Joined word) : ¬ EndsSharp (recaseFirst word) := by
  intro h
  rw [recaseFirst_eq_settle hjoined, settle] at h
  split at h
  · rename_i hmixed
    exact sharp_notMem_overwrite hmixed.1 (mem_of_endsSharp h)
  · rename_i hmixed
    exact hmixed (isMixed_of_endsSharp h)

theorem not_endsSharp_recase (word : List Char) : ¬ EndsSharp (recase word) := by
  intro h
  unfold recase at h
  split at h
  · rename_i hacronym
    exact sharp_notMem_overwrite hacronym (mem_of_endsSharp h)
  · rename_i hacronym
    refine hacronym ?_
    split at h
    · split at h
      · rcases h with h | h <;> cases h
      · rename_i c cs
        rcases h with h | h <;> obtain ⟨hc, rfl⟩ := List.cons.inj h
        · rw [uppercase_sharp (.inl rfl) hc]
          exact acronyms_checked.double_mem.1
        · rw [uppercase_sharp (.inr rfl) hc]
          exact acronyms_checked.double_mem.2
    · exact (isMixed_of_endsSharp h).1

theorem joined_overwrite (h : isAcronym (uppercase word)) :
    Joined (overwrite word (uppercase word)) := by
  rw [overwrite_of_length_le (length_le_uppercase word)]
  exact (joined_of_isAcronym h).take _

theorem joined_recaseFirst (hjoined : Joined word) : Joined (recaseFirst word) := by
  rw [recaseFirst_eq_settle hjoined, settle]
  split
  · rename_i hmixed
    exact joined_overwrite hmixed.1
  · exact hjoined

theorem joined_recase (hjoined : Joined word) : Joined (recase word) := by
  unfold recase
  split
  · rename_i hacronym
    exact joined_overwrite hacronym
  · split
    · rename_i hlower
      split
      · exact List.isChain_nil
      · rename_i c cs
        refine hjoined.imp_head fun {d} hcd => ?_
        obtain ⟨hd, hcase⟩ := joins_eq_true.1 hcd
        refine joins_eq_true.2 ⟨hd, fun hcapital => hcase ?_⟩
        by_contra hc
        rw [Bool.not_eq_true] at hc
        have hsame := capital_of_toLower hc (head?_toLower_of_lowercase_eq hlower)
        rw [capital] at hsame
        rw [hsame, hc] at hcapital
        cases hcapital
    · exact hjoined

/-- A further word never begins with a sharp s, which has a capital. -/
theorem head?_recase_ne_sharp (hjoined : Joined word) : (recase word).head? ≠ some 'ß' := by
  intro h
  unfold recase at h
  split at h
  · rename_i hacronym
    exact sharp_notMem_overwrite hacronym (List.mem_of_mem_head? h)
  · split at h
    · split at h
      · cases h
      · rename_i c _ _ _
        have hc : capital c = 'ß' := Option.some.inj h
        rw [eq_of_capital_eq (.inr rfl) hc, capital, tables_checked.sharp.2] at hc
        exact absurd hc (by decide)
    · rename_i hlower
      cases word with
      | nil => cases h
      | cons c cs =>
        obtain rfl : c = 'ß' := Option.some.inj h
        exact hlower (lowercase_of_all (hjoined.all_isLowercase tables_checked.sharp.1))

theorem head?_of_endsSharp_append {first second : List Char} (hfirst : first ≠ [])
    (hsecond : second ≠ []) (h : EndsSharp (first ++ second)) : second.head? = some 'ß' := by
  obtain ⟨c, cs, rfl⟩ := List.exists_cons_of_ne_nil hfirst
  have htail : cs ++ second = ['ß'] := by
    rcases h with h | h <;> exact (List.cons.inj h).2
  rcases List.append_eq_singleton_iff.1 htail with ⟨-, rfl⟩ | ⟨-, rfl⟩
  · rfl
  · exact absurd rfl hsecond

theorem not_endsSharp_of_mem_splitBy {ws : List (List Char)} (hnil : [] ∉ ws)
    (hjoined : ∀ word ∈ ws, Joined word) (hhead : ∀ word ∈ ws.tail, word.head? ≠ some 'ß')
    (hsharp : ∀ word ∈ ws, ¬ EndsSharp word) :
    ∀ word ∈ ws.flatten.splitBy joins, ¬ EndsSharp word := by
  induction ws with
  | nil => simp
  | cons first rest ih =>
    rw [List.forall_mem_cons] at hjoined hsharp
    rw [List.mem_cons, not_or] at hnil
    have hrest := ih hnil.2 hjoined.2 (fun word hword => hhead word (List.mem_of_mem_tail hword))
      hsharp.2
    rw [List.flatten_cons]
    rcases splitBy_append_cases (Ne.symm hnil.1) hjoined.1 (m := rest.flatten) with
      hsplit | ⟨second, more, hmore, hsplit⟩
    · rw [hsplit, List.forall_mem_cons]
      exact ⟨hsharp.1, hrest⟩
    · rw [hsplit, List.forall_mem_cons]
      rw [hmore] at hrest
      refine ⟨fun h => ?_, fun word hword => hrest word (List.mem_cons_of_mem _ hword)⟩
      have hsecond : second ≠ [] := List.ne_nil_of_mem_splitBy (hmore ▸ List.mem_cons_self)
      have hlast := head?_of_endsSharp_append (Ne.symm hnil.1) hsecond h
      rw [head?_of_splitBy hmore] at hlast
      cases rest with
      | nil => cases hlast
      | cons third others =>
        have hthird : third ≠ [] := fun h => hnil.2 (h ▸ List.mem_cons_self)
        rw [List.flatten_cons, List.head?_append_of_ne_nil _ hthird] at hlast
        exact hhead third List.mem_cons_self hlast

/-- No acronym of a normal form is spoiled by a sharp s. -/
theorem sharp_notMem_of_isMixed (h : word ∈ words (normalChars name)) (hmixed : IsMixed word) :
    'ß' ∉ word := by
  intro hsharp
  have hends := endsSharp_of_isMixed (mem_words h).2 hmixed hsharp
  rcases normalChars_cases name with ⟨hplain, heq⟩ | ⟨first, more, hwords, heq⟩
  · rw [heq] at h
    exact not_isMixed_of_plain hplain word h hmixed
  · have hfirst := mem_words (hwords ▸ List.mem_cons_self : first ∈ words name)
    have hmore (word : List Char) (hword : word ∈ more) :=
      mem_words (hwords ▸ List.mem_cons_of_mem first hword : word ∈ words name)
    -- The words of the normal form are made of whole recased words. None of these ends in a spoiled
    -- acronym, and none but the first begins with a sharp s that could spoil the one before it.
    have hpieces : ∀ piece ∈ recaseFirst first :: more.map recase,
        piece ≠ [] ∧ Joined piece ∧ ¬ EndsSharp piece := by
      intro piece hpiece
      rcases List.mem_cons.1 hpiece with rfl | hpiece
      · exact ⟨ne_nil_of_shape (shape_recaseFirst hfirst.2) hfirst.1, joined_recaseFirst hfirst.2,
          not_endsSharp_recaseFirst hfirst.2⟩
      · obtain ⟨word, hword, rfl⟩ := List.mem_map.1 hpiece
        exact ⟨ne_nil_of_shape (shape_recase word) (hmore word hword).1,
          joined_recase (hmore word hword).2, not_endsSharp_recase word⟩
    have hheads : ∀ piece ∈ (recaseFirst first :: more.map recase).tail,
        piece.head? ≠ some 'ß' := by
      intro piece hpiece
      obtain ⟨word, hword, rfl⟩ := List.mem_map.1 hpiece
      exact head?_recase_ne_sharp (hmore word hword).2
    have heq' : normalChars name = (recaseFirst first :: more.map recase).flatten := by
      rw [heq, List.flatten_cons, List.flatMap_def]
    rw [words_eq_splitBy (underscoresStay_normalChars name), heq'] at h
    exact not_endsSharp_of_mem_splitBy (fun hnil => (hpieces _ hnil).1 rfl)
      (fun piece hpiece => (hpieces piece hpiece).2.1) hheads
      (fun piece hpiece => (hpieces piece hpiece).2.2) word h hends

end Sharp

section Idempotence

variable {name : List Char}

/-- A name whose underscores stay and whose acronyms no sharp s spoils has a normal form that is
normal. -/
theorem normalChars_normalChars (h : UnderscoresStay name)
    (hsharp : ∀ word ∈ words name, IsMixed word → 'ß' ∉ word) :
    normalChars (normalChars name) = normalChars name := by
  rw [normalChars_eq_self_iff (underscoresStay_normalChars name),
    words_eq_splitBy (underscoresStay_normalChars name), normalChars_eq_flatMap_settle h]
  exact not_isMixed_of_mem_splitBy (fun hnil => (mem_words hnil).1 rfl)
    (fun word hword => (mem_words hword).2) (isChain_words h) hsharp

theorem toList_normal (name : String) : (normal name).toList = normalChars name.toList :=
  String.toList_ofList

theorem normal_eq_normal_iff {name other : String} :
    normal name = normal other ↔ normalChars name.toList = normalChars other.toList := by
  rw [← String.toList_inj, toList_normal, toList_normal]

/-- The normal form of a name is normal itself unless a mixed acronym has arisen in it from
neighbouring words. Its own normal form always is, and so is the normal form of a name that loses no
underscore, if it has no sharp s. -/
theorem normal_normal_iff (name : String) :
    (normal (normal name) = normal name ↔ ∀ word ∈ words (normal name).toList, ¬ IsMixed word) ∧
    normal (normal (normal name)) = normal (normal name) ∧
    (UnderscoresStay name.toList → 'ß' ∉ name.toList → normal (normal name) = normal name) := by
  refine ⟨?_, ?_, fun hstay hsharp => ?_⟩
  · rw [← String.toList_inj, toList_normal]
    exact normalChars_eq_self_iff (toList_normal name ▸ underscoresStay_normalChars _)
  · rw [normal_eq_normal_iff, toList_normal, toList_normal]
    exact normalChars_normalChars (underscoresStay_normalChars _) fun _ => sharp_notMem_of_isMixed
  · rw [normal_eq_normal_iff, toList_normal]
    refine normalChars_normalChars hstay fun word hword _ hmem => hsharp ?_
    rw [← flatten_words hstay]
    exact List.mem_flatten_of_mem hword hmem

/-- Of the words `A` and `Pi` the normal form makes the one word `APi`, which becomes `API`. -/
theorem normal_normal_ne : normal (normal "A_pi") ≠ normal "A_pi" := by decide +kernel

theorem normal_normal_summonerId : normal (normal "summonerId") = normal "summonerId" :=
  (normal_normal_iff "summonerId").2.2 (underscoresStay_of_notMem (by decide)) (by decide)

end Idempotence

end TypedClient.Naming
