import TypedClient.Proofs.Registry.Handles
import TypedClient.Proofs.Source.FieldNames
import TypedClient.Proofs.Source.TypeExpr
import TypedClient.Proofs.Text.Trimming

namespace TypedClient

namespace ValueType

/-- The type with every pointer replaced by what it points to. -/
def withoutPointers : ValueType → ValueType
  | scalar s => scalar s
  | dynamicMap => dynamicMap
  | list element => list element.withoutPointers
  | map key element => map key.withoutPointers element.withoutPointers
  | reference c => reference c
  | pointer t => t.withoutPointers
  | external name => external name

/-- The types of the support library that a type names, at any depth. -/
def externals : ValueType → List String
  | scalar _ | dynamicMap | reference _ => []
  | list element => element.externals
  | map key element => key.externals ++ element.externals
  | pointer t => t.externals
  | external name => [name]

end ValueType

namespace Source

namespace TypeExpr

/-- The characters between a generic type, its arguments and what follows them. -/
def delimiters : List Char := ['<', ',', '>']

/-- The names that a rendered type is made of. -/
def names : TypeExpr → List String
  | path name => [name]
  | one head argument => head :: argument.names
  | two head first second => head :: (first.names ++ second.names)

/-- No name holds a delimiter. -/
def Delimited (e : TypeExpr) : Prop := ∀ name ∈ e.names, ∀ c ∈ name.toList, c ∉ delimiters

/-- What may follow a type: nothing, or what ends an argument. -/
def Closes (rest : List Char) : Prop := ∀ c, rest.head? = some c → c = ',' ∨ c = '>'

theorem Closes.comma (cs : List Char) : Closes (',' :: cs) := by
  rintro c ⟨⟩
  exact .inl rfl

theorem Closes.angle (cs : List Char) : Closes ('>' :: cs) := by
  rintro c ⟨⟩
  exact .inr rfl

theorem toList_one (head : String) (argument : TypeExpr) (rest : List Char) :
    (one head argument).text.toList ++ rest = head.toList ++ '<' :: (argument.text.toList ++ '>' :: rest) := by
  simp [text]

theorem toList_two (head : String) (first second : TypeExpr) (rest : List Char) :
    (two head first second).text.toList ++ rest =
      head.toList ++ '<' :: (first.text.toList ++ ',' :: ' ' :: (second.text.toList ++ '>' :: rest)) := by
  simp [text]

theorem Delimited.path {name : String} (h : (path name).Delimited) : ∀ c ∈ name.toList, c ∉ delimiters :=
  h name List.mem_cons_self

theorem Delimited.one {head : String} {argument : TypeExpr} (h : (one head argument).Delimited) :
    (∀ c ∈ head.toList, c ∉ delimiters) ∧ argument.Delimited :=
  List.forall_mem_cons.1 h

theorem Delimited.two {head : String} {first second : TypeExpr} (h : (two head first second).Delimited) :
    (∀ c ∈ head.toList, c ∉ delimiters) ∧ first.Delimited ∧ second.Delimited := by
  obtain ⟨hhead, harguments⟩ := List.forall_mem_cons.1 h
  exact ⟨hhead, List.forall_mem_append.1 harguments⟩

section Names

variable {name name' : String} {cs cs' rest rest' : List Char}

/-- A name ends where the first delimiter stands. -/
theorem name_append_inj (hname : ∀ c ∈ name.toList, c ∉ delimiters)
    (hname' : ∀ c ∈ name'.toList, c ∉ delimiters) (hcs : ∀ c, cs.head? = some c → c ∈ delimiters)
    (hcs' : ∀ c, cs'.head? = some c → c ∈ delimiters) (h : name.toList ++ cs = name'.toList ++ cs') :
    name = name' ∧ cs = cs' := by
  have hcut : ∀ {s : String} {ds : List Char}, (∀ c ∈ s.toList, c ∉ delimiters) →
      (∀ c, ds.head? = some c → c ∈ delimiters) →
        (s.toList ++ ds).dropWhile (fun c => decide (c ∉ delimiters)) = ds := by
    intro s ds hs hds
    exact Text.dropWhile_append_eq (by simpa using hs) (by simpa using hds)
  have heq : cs = cs' := by rw [← hcut hname hcs, h, hcut hname' hcs']
  subst heq
  exact ⟨String.toList_inj.1 (List.append_cancel_right h), rfl⟩

theorem Closes.delimiter (h : Closes rest) : ∀ c, rest.head? = some c → c ∈ delimiters := by
  intro c hc
  rcases h c hc with rfl | rfl <;> decide

theorem head?_opening : ∀ c, ('<' :: cs).head? = some c → c ∈ delimiters := by
  rintro c ⟨⟩
  decide

theorem path_append_inj (hname : ∀ c ∈ name.toList, c ∉ delimiters)
    (hname' : ∀ c ∈ name'.toList, c ∉ delimiters) (hrest : Closes rest) (hrest' : Closes rest')
    (h : name.toList ++ rest = name'.toList ++ rest') : name = name' ∧ rest = rest' :=
  name_append_inj hname hname' hrest.delimiter hrest'.delimiter h

theorem head_append_inj (hname : ∀ c ∈ name.toList, c ∉ delimiters)
    (hname' : ∀ c ∈ name'.toList, c ∉ delimiters)
    (h : name.toList ++ '<' :: cs = name'.toList ++ '<' :: cs') : name = name' ∧ cs = cs' := by
  obtain ⟨hsame, hcs⟩ := name_append_inj hname hname' head?_opening head?_opening h
  exact ⟨hsame, (List.cons.inj hcs).2⟩

theorem path_append_ne (hname : ∀ c ∈ name.toList, c ∉ delimiters)
    (hname' : ∀ c ∈ name'.toList, c ∉ delimiters) (hrest : Closes rest) :
    name.toList ++ rest ≠ name'.toList ++ '<' :: cs := by
  intro h
  obtain ⟨-, rfl⟩ := name_append_inj hname hname' hrest.delimiter head?_opening h
  simpa using hrest '<' rfl

end Names

/-- The text of a type shows where the type ends. -/
theorem text_append_inj {e e' : TypeExpr} {rest rest' : List Char} (he : e.Delimited)
    (he' : e'.Delimited) (hrest : Closes rest) (hrest' : Closes rest')
    (h : e.text.toList ++ rest = e'.text.toList ++ rest') : e = e' ∧ rest = rest' := by
  -- By induction on one type, for every other type and all that may follow the two. Where their shapes
  -- differ, something follows a name or an argument that cannot.
  induction e generalizing e' rest rest' with
  | path name =>
    cases e' with
    | path name' =>
      obtain ⟨rfl, hsame⟩ := path_append_inj he.path he'.path hrest hrest' h
      exact ⟨rfl, hsame⟩
    | one head' argument' =>
      rw [toList_one] at h
      exact absurd h (path_append_ne he.path he'.one.1 hrest)
    | two head' first' second' =>
      rw [toList_two] at h
      exact absurd h (path_append_ne he.path he'.two.1 hrest)
  | one head argument ih =>
    rw [toList_one] at h
    cases e' with
    | path name' => exact absurd h.symm (path_append_ne he'.path he.one.1 hrest')
    | one head' argument' =>
      rw [toList_one] at h
      obtain ⟨rfl, harguments⟩ := head_append_inj he.one.1 he'.one.1 h
      obtain ⟨rfl, hend⟩ := ih he.one.2 he'.one.2 (.angle _) (.angle _) harguments
      exact ⟨rfl, (List.cons.inj hend).2⟩
    | two head' first' second' =>
      rw [toList_two] at h
      obtain ⟨-, harguments⟩ := head_append_inj he.one.1 he'.two.1 h
      obtain ⟨-, hend⟩ := ih he.one.2 he'.two.2.1 (.angle _) (.comma _) harguments
      cases hend
  | two head first second ihFirst ihSecond =>
    rw [toList_two] at h
    cases e' with
    | path name' => exact absurd h.symm (path_append_ne he'.path he.two.1 hrest')
    | one head' argument' =>
      rw [toList_one] at h
      obtain ⟨-, harguments⟩ := head_append_inj he.two.1 he'.one.1 h
      obtain ⟨-, hend⟩ := ihFirst he.two.2.1 he'.one.2 (.comma _) (.angle _) harguments
      cases hend
    | two head' first' second' =>
      rw [toList_two] at h
      obtain ⟨rfl, harguments⟩ := head_append_inj he.two.1 he'.two.1 h
      obtain ⟨rfl, hcomma⟩ := ihFirst he.two.2.1 he'.two.2.1 (.comma _) (.comma _) harguments
      have hsecond := (List.cons.inj (List.cons.inj hcomma).2).2
      obtain ⟨rfl, hend⟩ := ihSecond he.two.2.2 he'.two.2.2 (.angle _) (.angle _) hsecond
      exact ⟨rfl, (List.cons.inj hend).2⟩

theorem text_inj {e e' : TypeExpr} (he : e.Delimited) (he' : e'.Delimited) (h : e.text = e'.text) :
    e = e' := by
  have hnone : Closes [] := nofun
  exact (text_append_inj he he' hnone hnone (by rw [h])).1

end TypeExpr

/-- The names of the classes are words, all of them different, and none is the name of a scalar. -/
structure NamesApart (r : Registry) : Prop where
  nodup : (r.classes.map (·.name)).Nodup
  chars : ∀ c ∈ r.classes, ∀ x ∈ c.name.toList, IsWordChar x
  notScalar : ∀ c ∈ r.classes, ∀ s, c.name ≠ scalarName s

/-- A type names classes of the registry, and types of the support library by words. -/
structure NamedIn (r : Registry) (t : ValueType) : Prop where
  classes : ∀ c ∈ t.classes, c < r.classes.length
  externals : ∀ name ∈ t.externals, ∀ x ∈ name.toList, IsWordChar x

/-- The scalar of a name. -/
def scalarNamed? (name : String) : Option Scalar :=
  [.bool, .int32, .int64, .float32, .float64, .string].find? (scalarName · = name)

/-- What a name stands for: a scalar, a type of the support library, or a class. -/
def named (r : Registry) (name : String) : ValueType :=
  match scalarNamed? name, Text.dropStart? "rt::".toList name.toList with
  | some s, _ => .scalar s
  | none, some cs => .external (String.ofList cs)
  | none, none => .reference ((r.classNamed? name).getD 0)

/-- The name of the values in a map of any shape. -/
def anyValue : String := "rt::serde_json::Value"

/-- The type that a rendered type stands for. -/
def denoted (r : Registry) : TypeExpr → ValueType
  | .path name => named r name
  | .one _ argument => .list (denoted r argument)
  | .two _ first second =>
    if second = .path anyValue then .dynamicMap else .map (denoted r first) (denoted r second)

section Names

variable {r : Registry} {c : ClassId} {name : String}

theorem scalarNamed?_scalarName (s : Scalar) : scalarNamed? (scalarName s) = some s := by
  cases s <;> decide

theorem scalarNamed?_eq_none (h : ∀ s, name ≠ scalarName s) : scalarNamed? name = none := by
  rw [scalarNamed?, List.find?_eq_none]
  intro s _ hs
  exact h s (of_decide_eq_true hs).symm

theorem dropStart?_rt (name : String) :
    Text.dropStart? "rt::".toList ("rt::" ++ name).toList = some name.toList := by
  rw [Text.dropStart?_eq_some_iff, String.toList_append]

theorem colon_mem_rt (name : String) : ':' ∈ ("rt::" ++ name).toList := by
  rw [String.toList_append]
  exact List.mem_append_left _ (by decide)

theorem not_mem_of_isWordChar {x : Char} (hx : ¬ IsWordChar x) (h : ∀ c ∈ name.toList, IsWordChar c) :
    x ∉ name.toList :=
  fun hmem => hx (h x hmem)

theorem rt_append_ne (h : ∀ x ∈ name.toList, IsWordChar x) (tail : String) : name ≠ "rt::" ++ tail := by
  rintro rfl
  exact not_mem_of_isWordChar (by decide) h (colon_mem_rt tail)

theorem colon_not_mem_scalarName (s : Scalar) : ':' ∉ (scalarName s).toList := by
  cases s <;> decide

theorem named_scalarName (s : Scalar) : named r (scalarName s) = .scalar s := by
  rw [named, scalarNamed?_scalarName]

theorem named_external (name : String) : named r ("rt::" ++ name) = .external name := by
  have hnone : scalarNamed? ("rt::" ++ name) = none := by
    refine scalarNamed?_eq_none fun s hs => ?_
    exact colon_not_mem_scalarName s (hs ▸ colon_mem_rt name)
  rw [named, hnone, dropStart?_rt]
  simp

theorem className_eq (hc : c < r.classes.length) : r.className c = r.classes[c].name := by
  rw [Registry.className, List.getElem?_eq_getElem hc, Option.elim_some]

theorem chars_className (hr : NamesApart r) (hc : c < r.classes.length) :
    ∀ x ∈ (r.className c).toList, IsWordChar x := by
  rw [className_eq hc]
  exact hr.chars _ (List.getElem_mem hc)

theorem classNamed?_className (hr : NamesApart r) (hc : c < r.classes.length) :
    r.classNamed? (r.className c) = some c := by
  rw [Registry.classNamed?, List.findIdx?_eq_some_iff_getElem]
  refine ⟨hc, by simp [className_eq hc], fun j hj => ?_⟩
  have hlt : j < r.classes.length := hj.trans hc
  have hne := (List.nodup_iff_getElem?_ne_getElem?.1 hr.nodup) j c hj (by simpa using hc)
  simpa [className_eq hc, hlt, hc] using hne

theorem named_className (hr : NamesApart r) (hc : c < r.classes.length) :
    named r (r.className c) = .reference c := by
  have hscalar : scalarNamed? (r.className c) = none := by
    rw [className_eq hc]
    exact scalarNamed?_eq_none (hr.notScalar _ (List.getElem_mem hc))
  have hexternal : Text.dropStart? "rt::".toList (r.className c).toList = none := by
    rw [Option.eq_none_iff_forall_ne_some]
    intro cs hcs
    rw [Text.dropStart?_eq_some_iff] at hcs
    refine rt_append_ne (chars_className hr hc) (String.ofList cs) ?_
    rw [← String.toList_inj, hcs]
    simp
  rw [named, hscalar, hexternal, classNamed?_className hr hc]
  rfl

end Names

section Types

variable {r : Registry} {t : ValueType} {e : TypeExpr}

theorem NamedIn.map {key element : ValueType} (h : NamedIn r (.map key element)) : NamedIn r element where
  classes c hc := h.classes c (List.mem_append_right _ hc)
  externals name hname := h.externals name (List.mem_append_right _ hname)

theorem NamedIn.class_lt {c : ClassId} (h : NamedIn r (.reference c)) : c < r.classes.length :=
  h.classes c List.mem_cons_self

theorem NamedIn.externalChars {name : String} (h : NamedIn r (.external name)) :
    ∀ x ∈ name.toList, IsWordChar x :=
  h.externals name List.mem_cons_self

theorem keyExpr_eq_ok {key : ValueType} (h : keyExpr r key = .ok e) :
    ∃ s, key = .scalar s ∧ e = .path (scalarName s) := by
  cases key with
  | scalar s =>
    by_cases hs : s.canBeKey
    · rw [keyExpr_scalar hs] at h
      exact ⟨s, rfl, (Except.ok.inj h).symm⟩
    · rw [keyExpr, if_neg hs] at h
      cases h
  | _ => cases h

theorem typeExpr_list_eq_ok {element : ValueType} :
    typeExpr r (.list element) = .ok e ↔ ∃ e', typeExpr r element = .ok e' ∧ e = .list e' := by
  rw [typeExpr, Outcome.bind_eq_ok]
  refine exists_congr fun e' => and_congr_right fun _ => ?_
  rw [Outcome.pure_eq_ok, eq_comm]

theorem typeExpr_isOk_iff (t : ValueType) :
    (∃ e, typeExpr r t = .ok e) ↔ ∀ key ∈ t.mapKeys, key ∈ keyTypes := by
  rw [(typeExpr_refuses t).isOk_iff]
  constructor
  · intro h key hkey
    by_contra hnot
    exact h _ ⟨key, hkey, hnot, rfl⟩
  · rintro h e ⟨key, hkey, hnot, -⟩
    exact hnot (h key hkey)

/-- Pointers leave no trace. -/
theorem typeExpr_withoutPointers (h : typeExpr r t = .ok e) : typeExpr r t.withoutPointers = .ok e := by
  induction t generalizing e with
  | scalar s => exact h
  | dynamicMap => exact h
  | list element ih =>
    obtain ⟨e', he', rfl⟩ := typeExpr_list_eq_ok.1 h
    exact typeExpr_list_eq_ok.2 ⟨e', ih he', rfl⟩
  | map key element _ ih =>
    obtain ⟨k, e', hk, he', rfl⟩ := typeExpr_map_eq_ok.1 h
    obtain ⟨s, rfl, rfl⟩ := keyExpr_eq_ok hk
    exact typeExpr_map_eq_ok.2 ⟨_, e', hk, ih he', rfl⟩
  | reference c => exact h
  | pointer t ih => exact ih h
  | external name => exact h

theorem scalarName_delimited (s : Scalar) : ∀ c ∈ (scalarName s).toList, c ∉ TypeExpr.delimiters := by
  cases s <;> simp [scalarName, TypeExpr.delimiters]

theorem delimited_path {name : String} (h : ∀ c ∈ name.toList, c ∉ TypeExpr.delimiters) :
    (TypeExpr.path name).Delimited := by
  simpa [TypeExpr.Delimited, TypeExpr.names] using h

theorem not_delimiter_of_isWordChar {x : Char} (h : IsWordChar x) : x ∉ TypeExpr.delimiters := by
  intro hx
  have hall : TypeExpr.delimiters.all (¬ IsWordChar ·) := by decide
  exact of_decide_eq_true (List.all_eq_true.1 hall x hx) h

theorem delimited_of_typeExpr (hr : NamesApart r) (ht : NamedIn r t) (h : typeExpr r t = .ok e) :
    e.Delimited := by
  induction t generalizing e with
  | scalar s =>
    cases h
    exact delimited_path (scalarName_delimited s)
  | dynamicMap =>
    cases h
    simp [TypeExpr.Delimited, TypeExpr.map, TypeExpr.names, TypeExpr.delimiters]
  | list element ih =>
    obtain ⟨e', he', rfl⟩ := typeExpr_list_eq_ok.1 h
    exact List.forall_mem_cons.2 ⟨by simp [TypeExpr.delimiters], ih ⟨ht.classes, ht.externals⟩ he'⟩
  | map key element _ ih =>
    obtain ⟨k, e', hk, he', rfl⟩ := typeExpr_map_eq_ok.1 h
    obtain ⟨s, rfl, rfl⟩ := keyExpr_eq_ok hk
    refine List.forall_mem_cons.2 ⟨by simp [TypeExpr.delimiters], List.forall_mem_append.2 ⟨?_, ih ht.map he'⟩⟩
    exact delimited_path (scalarName_delimited s)
  | reference c =>
    cases h
    exact delimited_path fun x hx => not_delimiter_of_isWordChar (chars_className hr ht.class_lt x hx)
  | pointer t ih => exact ih ⟨ht.classes, ht.externals⟩ h
  | external name =>
    cases h
    refine delimited_path fun x hx => ?_
    rw [String.toList_append, List.mem_append] at hx
    rcases hx with hx | hx
    · have hprefix : ∀ x ∈ "rt::".toList, x ∉ TypeExpr.delimiters := by simp [TypeExpr.delimiters]
      exact hprefix x hx
    · exact not_delimiter_of_isWordChar (ht.externalChars x hx)

/-- The name of values of any shape is never that of a type: it has colons after its first ones. -/
theorem typeExpr_ne_anyValue (hr : NamesApart r) (ht : NamedIn r t) : typeExpr r t ≠ .ok (.path anyValue) := by
  induction t with
  | scalar s => cases s <;> exact fun h => absurd h (by simp [typeExpr, scalarName, anyValue])
  | dynamicMap =>
    intro h
    cases h
  | list element _ =>
    intro h
    obtain ⟨e', -, he⟩ := typeExpr_list_eq_ok.1 h
    cases he
  | map key element _ _ =>
    intro h
    obtain ⟨k, e', -, -, he⟩ := typeExpr_map_eq_ok.1 h
    cases he
  | reference c =>
    intro h
    have hname : r.className c = "rt::" ++ "serde_json::Value" := TypeExpr.path.inj (Except.ok.inj h)
    exact rt_append_ne (chars_className hr ht.class_lt) _ hname
  | pointer t ih => exact ih ⟨ht.classes, ht.externals⟩
  | external name =>
    intro h
    have hname : "rt::" ++ name = "rt::" ++ "serde_json::Value" := TypeExpr.path.inj (Except.ok.inj h)
    rw [← String.toList_inj, String.toList_append, String.toList_append, List.append_cancel_left_eq,
      String.toList_inj] at hname
    subst hname
    exact not_mem_of_isWordChar (by decide) ht.externalChars (by decide : ':' ∈ _)

/-- A rendered type stands for the type that it was rendered from. -/
theorem denoted_typeExpr (hr : NamesApart r) (ht : NamedIn r t) (h : typeExpr r t = .ok e) :
    denoted r e = t.withoutPointers := by
  induction t generalizing e with
  | scalar s =>
    cases h
    exact named_scalarName s
  | dynamicMap =>
    cases h
    rfl
  | list element ih =>
    obtain ⟨e', he', rfl⟩ := typeExpr_list_eq_ok.1 h
    exact congrArg ValueType.list (ih ⟨ht.classes, ht.externals⟩ he')
  | map key element _ ih =>
    obtain ⟨k, e', hk, he', rfl⟩ := typeExpr_map_eq_ok.1 h
    obtain ⟨s, rfl, rfl⟩ := keyExpr_eq_ok hk
    have hne : e' ≠ .path anyValue := by
      rintro rfl
      exact typeExpr_ne_anyValue hr ht.map he'
    rw [TypeExpr.map, denoted, if_neg hne, ih ht.map he', denoted, named_scalarName]
    rfl
  | reference c =>
    cases h
    exact named_className hr ht.class_lt
  | pointer t ih => exact ih ⟨ht.classes, ht.externals⟩ h
  | external name =>
    cases h
    exact named_external name

/-- A type is rendered exactly if the keys of its maps can be, and two types get one text exactly if they
differ in pointers alone. -/
theorem typeExpr_distinguishes (hr : NamesApart r) :
    (∀ t, (∃ e, typeExpr r t = .ok e) ↔ ∀ key ∈ t.mapKeys, key ∈ keyTypes) ∧
    ∀ a b, NamedIn r a → NamedIn r b → ∀ e e', typeExpr r a = .ok e → typeExpr r b = .ok e' →
      (e.text = e'.text ↔ a.withoutPointers = b.withoutPointers) := by
  refine ⟨typeExpr_isOk_iff, fun a b ha hb e e' he he' => ⟨fun htext => ?_, fun hsame => ?_⟩⟩
  · have heq : e = e' :=
      TypeExpr.text_inj (delimited_of_typeExpr hr ha he) (delimited_of_typeExpr hr hb he') htext
    rw [← denoted_typeExpr hr ha he, heq, denoted_typeExpr hr hb he']
  · have hrendered := typeExpr_withoutPointers he
    rw [hsame, typeExpr_withoutPointers he'] at hrendered
    rw [Except.ok.inj hrendered]

/-- Two classes that scalars, maps and the support library could be taken for. -/
def lookalikes : Registry where
  classes := ["HashMap", "string", "rt"].map fun name =>
    { resource := 0, rawName := name, name, description := "" }

theorem wordChars_lookalikes : ∀ name ∈ ["HashMap", "string", "rt"], ∀ x ∈ name.toList, IsWordChar x := by
  simp [IsWordChar]

theorem namesApart_lookalikes : NamesApart lookalikes where
  nodup := by decide
  chars := by
    intro c hc
    have hnames : ∀ c ∈ lookalikes.classes, c.name ∈ ["HashMap", "string", "rt"] := by decide
    exact wordChars_lookalikes _ (hnames c hc)
  notScalar := by
    intro c hc s
    have hnames : ∀ c ∈ lookalikes.classes, c.name ∈ ["HashMap", "string", "rt"] := by decide
    have hscalars : ∀ name ∈ ["HashMap", "string", "rt"], name ≠ scalarName s := by cases s <;> decide
    exact hscalars _ (hnames c hc)

theorem typeExpr_distinguishes_lookalikes :
    NamesApart lookalikes ∧
    (∃ e e', typeExpr lookalikes (.map (.scalar .string) (.pointer (.reference 0))) = .ok e ∧
      typeExpr lookalikes (.pointer (.map (.scalar .string) (.reference 0))) = .ok e' ∧
        e.text = e'.text) ∧
    ∃ e e', typeExpr lookalikes (.list (.reference 1)) = .ok e ∧
      typeExpr lookalikes (.list (.external "string")) = .ok e' ∧ e.text ≠ e'.text := by
  obtain ⟨-, hdistinct⟩ := typeExpr_distinguishes namesApart_lookalikes
  have hnamed : ∀ t, (∀ c ∈ t.classes, c < 3) → (∀ name ∈ t.externals, name = "string") →
      NamedIn lookalikes t := by
    refine fun t hclasses hexternals => ⟨hclasses, fun name hname => ?_⟩
    rw [hexternals name hname]
    exact wordChars_lookalikes _ (by decide)
  have hmap := hnamed (.map (.scalar .string) (.pointer (.reference 0))) (by decide) (by decide)
  have hpointer := hnamed (.pointer (.map (.scalar .string) (.reference 0))) (by decide) (by decide)
  have hclass := hnamed (.list (.reference 1)) (by decide) (by decide)
  have hexternal := hnamed (.list (.external "string")) (by decide) (by decide)
  refine ⟨namesApart_lookalikes, ⟨_, _, rfl, rfl, ?_⟩, ⟨_, _, rfl, rfl, ?_⟩⟩
  · exact (hdistinct _ _ hmap hpointer _ _ rfl rfl).2 rfl
  · exact mt (hdistinct _ _ hclass hexternal _ _ rfl rfl).1 (by decide)

end Types

end Source

end TypedClient
