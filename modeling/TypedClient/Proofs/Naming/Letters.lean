import TypedClient.Proofs.Naming.NormalForm

namespace TypedClient.Naming

open Text

/-- Whether a text is in ASCII. -/
def IsAscii (cs : List Char) : Prop := ∀ c ∈ cs, c.toNat < 0x80

/-- What is left of a text without underscores and without case. -/
def letters (cs : List Char) : List Char := lowercase (cs.filter (· ≠ '_'))

section Ascii

/-- Whether a function on characters changes the case of ASCII letters only. -/
def Recases (f : Char → Char) : Prop :=
  ∀ n < 0x80, (f (Char.ofNat n)).toNat < 0x80 ∧
    (f (Char.ofNat n)).toLower = (Char.ofNat n).toLower

theorem recases_toUpper : Recases Char.toUpper := by
  unfold Recases
  decide +kernel

theorem recases_toLower : Recases Char.toLower := by
  unfold Recases
  decide +kernel

theorem toLower_eq_underscore_iff :
    ∀ n < 0x80, (Char.ofNat n).toLower = '_' ↔ Char.ofNat n = '_' := by
  decide +kernel

variable {cs ds : List Char}

theorem uppercase_of_isAscii (h : IsAscii cs) : uppercase cs = cs.map Char.toUpper := by
  rw [uppercase, List.flatMap_congr fun c hc => by rw [toUpper, if_pos (h c hc)],
    ← List.map_eq_flatMap]

theorem lowercaseAfter_of_isAscii (before : List Char) (h : IsAscii cs) :
    lowercaseAfter before cs = cs.map Char.toLower := by
  induction cs generalizing before with
  | nil => rfl
  | cons c cs ih =>
    obtain ⟨hc, hcs⟩ := List.forall_mem_cons.1 h
    have hsigma : c ≠ 'Σ' := by
      rintro rfl
      exact absurd hc (by decide)
    rw [lowercaseAfter, if_neg hsigma, toLower, if_pos hc, ih _ hcs, List.map_cons,
      List.singleton_append]

theorem lowercase_of_isAscii (h : IsAscii cs) : lowercase cs = cs.map Char.toLower :=
  lowercaseAfter_of_isAscii [] h

theorem letters_of_isAscii (h : IsAscii cs) :
    letters cs = (cs.map Char.toLower).filter (· ≠ '_') := by
  have hfilter : IsAscii (cs.filter (· ≠ '_')) := fun c hc => h c (List.mem_of_mem_filter hc)
  rw [letters, lowercase_of_isAscii hfilter, List.filter_map]
  congr 1
  refine List.filter_congr fun c hc => ?_
  have hiff := toLower_eq_underscore_iff c.toNat (h c hc)
  rw [Char.ofNat_toNat] at hiff
  simp [hiff]

end Ascii

section Recased

/-- Two texts in ASCII that agree up to case. -/
structure Recased (cs ds : List Char) : Prop where
  ascii : IsAscii ds
  lower : ds.map Char.toLower = cs.map Char.toLower

variable {cs ds cs' ds' word : List Char}

theorem Recased.refl (h : IsAscii cs) : Recased cs cs := ⟨h, rfl⟩

theorem Recased.append (h : Recased cs ds) (h' : Recased cs' ds') :
    Recased (cs ++ cs') (ds ++ ds') where
  ascii := List.forall_mem_append.2 ⟨h.ascii, h'.ascii⟩
  lower := by rw [List.map_append, List.map_append, h.lower, h'.lower]

theorem Recased.letters (h : IsAscii cs) (hrecased : Recased cs ds) :
    letters ds = Naming.letters cs := by
  rw [letters_of_isAscii hrecased.ascii, letters_of_isAscii h, hrecased.lower]

theorem recased_map {f : Char → Char} (hf : Recases f) (h : IsAscii cs) :
    Recased cs (cs.map f) where
  ascii := by
    rw [IsAscii, List.forall_mem_map]
    intro c hc
    simpa using (hf c.toNat (h c hc)).1
  lower := by
    rw [List.map_map]
    exact List.map_congr_left fun c hc => by simpa using (hf c.toNat (h c hc)).2

theorem recased_overwrite {f : Char → Char} (hf : Recases f) (h : IsAscii word) :
    Recased word (overwrite word (word.map f)) := by
  rw [overwrite_of_length_le (List.length_map f).ge, List.take_of_length_le (List.length_map f).le]
  exact recased_map hf h

theorem recased_recaseFirst (h : IsAscii word) : Recased word (recaseFirst word) := by
  unfold recaseFirst
  rw [uppercase_of_isAscii h, lowercase_of_isAscii h]
  split
  · split
    · exact recased_overwrite recases_toLower h
    · exact recased_overwrite recases_toUpper h
  · exact .refl h

theorem recased_recase (h : IsAscii word) : Recased word (recase word) := by
  unfold recase
  rw [uppercase_of_isAscii h]
  split
  · exact recased_overwrite recases_toUpper h
  · split
    · cases word with
      | nil => exact .refl h
      | cons c cs =>
        obtain ⟨hc, hcs⟩ := List.forall_mem_cons.1 h
        have hfirst : Recased [c] [c.toUpper] :=
          recased_map recases_toUpper (by simpa [IsAscii] using hc)
        have hupper : (toUpper c).head?.getD c = c.toUpper := by rw [toUpper, if_pos hc]; rfl
        simp only [hupper]
        exact hfirst.append (.refl hcs)
    · exact .refl h

theorem recased_flatMap_recase {ws : List (List Char)} (h : IsAscii ws.flatten) :
    Recased ws.flatten (ws.flatMap recase) := by
  induction ws with
  | nil => exact .refl h
  | cons word ws ih =>
    obtain ⟨hword, hws⟩ := List.forall_mem_append.1 (List.flatten_cons ▸ h)
    rw [List.flatten_cons, List.flatMap_cons]
    exact (recased_recase hword).append (ih hws)

end Recased

section Normal

variable {name : List Char}

theorem filter_skipUnderscores (c : Char) (rest : List Char) :
    (skipUnderscores c rest).filter (· ≠ '_') = rest.filter (· ≠ '_') := by
  have hdrop : rest.filter (· ≠ '_') = (rest.dropWhile (· == '_')).filter (· ≠ '_') := by
    induction rest with
    | nil => rfl
    | cons d rest ih => by_cases hd : d = '_' <;> simp_all
  rw [hdrop, skipUnderscores]
  split
  · rename_i hrest
    rw [hrest]
  · rename_i hrest
    rw [hrest]
    split <;> simp

/-- The words of a name leave out nothing but underscores. -/
theorem filter_flatten_words (name : List Char) :
    (words name).flatten.filter (· ≠ '_') = name.filter (· ≠ '_') := by
  fun_induction words name with
  | case1 => rfl
  | case2 c => rfl
  | case3 c rest ih =>
    rw [filter_skipUnderscores] at ih
    rw [List.flatten_cons, List.filter_append, ih, ← List.filter_append, List.singleton_append]
  | case4 c d rest _ _ ih =>
    rw [List.flatten_cons, List.filter_append, ih, ← List.filter_append, List.singleton_append]
  | case5 => simp_all
  | case6 c d rest _ _ word more hwords ih =>
    have hcons (cs : List Char) :
        (c :: cs).filter (· ≠ '_') = [c].filter (· ≠ '_') ++ cs.filter (· ≠ '_') :=
      List.filter_append [c] cs
    rw [hwords] at ih
    rw [List.flatten_cons, List.cons_append, ← List.flatten_cons, hcons (word :: more).flatten, ih,
      hcons (d :: rest)]

theorem isAscii_flatten_words (h : IsAscii name) : IsAscii (words name).flatten := by
  intro c hc
  by_cases hunderscore : c = '_'
  · subst hunderscore
    decide
  · have hmem : c ∈ (words name).flatten.filter (· ≠ '_') :=
      List.mem_filter.2 ⟨hc, by simpa using hunderscore⟩
    rw [filter_flatten_words] at hmem
    exact h c (List.mem_of_mem_filter hmem)

theorem recased_normalChars (h : IsAscii name) :
    Recased (words name).flatten (normalChars name) := by
  have hwords := isAscii_flatten_words h
  cases hsplit : words name with
  | nil =>
    obtain rfl : name = [] := by
      cases name with
      | nil => rfl
      | cons c rest =>
        obtain ⟨tail, more, hcons⟩ := words_cons c rest
        rw [hsplit] at hcons
        cases hcons
    exact .refl nofun
  | cons first more =>
    rw [hsplit, List.flatten_cons] at hwords
    obtain ⟨hfirst, hmore⟩ := List.forall_mem_append.1 hwords
    rw [normalChars_of_words hsplit, List.flatten_cons]
    exact (recased_recaseFirst hfirst).append (recased_flatMap_recase hmore)

theorem letters_normalChars (h : IsAscii name) : letters (normalChars name) = letters name := by
  rw [(recased_normalChars h).letters (isAscii_flatten_words h), letters, filter_flatten_words,
    letters]

theorem UnderscoresStay.getLast?_ne (h : UnderscoresStay name) (hname : name ≠ ['_']) :
    name.getLast? ≠ some '_' := by
  intro hlast
  rw [List.getLast?_eq_getElem?] at hlast
  obtain ⟨c, rest, rfl⟩ : ∃ c rest, name = c :: rest := by
    cases name with
    | nil => cases hlast
    | cons c rest => exact ⟨c, rest, rfl⟩
  cases hlength : rest.length with
  | zero =>
    obtain rfl := List.length_eq_zero_iff.1 hlength
    exact hname (by simpa using hlast)
  | succ i =>
    rw [List.length_cons, hlength, Nat.add_sub_cancel] at hlast
    have hnext := (h i hlast).2
    rw [List.getElem?_eq_none (by simp [hlength])] at hnext
    cases hnext

theorem UnderscoresStay.not_infix (h : UnderscoresStay name) : ¬ ['_', '_'] <:+: name := by
  rintro ⟨before, after, rfl⟩
  have hfirst := (h before.length (by simp)).1
  simp at hfirst
  exact absurd hfirst (by decide)

theorem any_isNumeric_of_isAscii (h : IsAscii name) (i : Nat) :
    name[i]?.any isNumeric = name[i]?.any Char.isDigit := by
  cases hc : name[i]? with
  | none => rfl
  | some c =>
    rw [Option.any_some, Option.any_some, isNumeric, if_pos (h c (List.mem_of_getElem? hc))]

/-- The normal form of a name in ASCII has the letters and digits of the name. An underscore in it
is its first character, or stands between two digits; so it ends in an underscore only if it is one,
and no two follow each other. -/
theorem normal_keeps_letters (name : String) (h : IsAscii name.toList) :
    letters (normal name).toList = letters name.toList ∧
    (∀ i, (normal name).toList[i]? = some '_' → i = 0 ∨
      (normal name).toList[i - 1]?.any Char.isDigit ∧
      (normal name).toList[i + 1]?.any Char.isDigit) ∧
    ((normal name).toList.getLast? = some '_' → normal name = "_") ∧
    ¬ ['_', '_'] <:+: (normal name).toList := by
  have hstay := underscoresStay_normalChars name.toList
  have hdigit := any_isNumeric_of_isAscii (recased_normalChars h).ascii
  rw [normal, onChars, String.toList_ofList, ofList_eq_iff]
  refine ⟨letters_normalChars h, fun i hi => ?_, fun hlast => ?_, hstay.not_infix⟩
  · cases i with
    | zero => exact .inl rfl
    | succ i =>
      rw [Nat.add_sub_cancel, ← hdigit, ← hdigit]
      exact .inr (hstay i hi)
  · by_contra hname
    exact hstay.getLast?_ne hname hlast

theorem normal_keeps_letters_summoner :
    IsAscii "__last_1__02__summoner_id_".toList ∧
    normal "__last_1__02__summoner_id_" = "_Last1_02SummonerID" ∧
    letters "_Last1_02SummonerID".toList = letters "__last_1__02__summoner_id_".toList := by
  have hascii : IsAscii "__last_1__02__summoner_id_".toList := by simp [IsAscii]
  have hnormal : normal "__last_1__02__summoner_id_" = "_Last1_02SummonerID" := by decide +kernel
  exact ⟨hascii, hnormal, hnormal ▸ (normal_keeps_letters _ hascii).1⟩

end Normal

end TypedClient.Naming
