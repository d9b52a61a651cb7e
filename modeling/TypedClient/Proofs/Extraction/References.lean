import TypedClient.Proofs.Extraction.ClassTable
import TypedClient.Proofs.TypeNesting

namespace TypedClient.Extraction

open Text TypeText

variable {config : Config} {entries : List ResourceEntry} {doc : Document} {r : Registry}

theorem trim_rawName {d : Declaration} (hd : d ∈ declarations entries) :
    trim d.rawName.toList = d.rawName.toList := by
  obtain ⟨p, -, hp⟩ := List.mem_flatMap.1 hd
  obtain ⟨body, -, hbody⟩ := List.mem_filterMap.1 hp
  obtain ⟨title, -, htitle⟩ := Option.bind_eq_some_iff.1 hbody
  split at htitle
  · cases htitle
  · cases htitle
    exact Node.trim_flatText title

/-- A raw name that no other meaning of a type's text takes away. -/
structure IsPlain (rawName : String) : Prop where
  nonempty : rawName ≠ ""
  name : ∀ x ∈ rawName.toList, x ≠ '[' ∧ x ≠ ']' ∧ x ≠ ','
  scalar : ∀ s : Scalar, rawName ≠ s.keyword
  object : rawName ≠ "object"

theorem resolve_rawName (hdistinct : Distinct config (declarations entries)) {d : Declaration} {c : ClassId}
    (hd : (firstDeclarations entries)[c]? = some d) (hplain : IsPlain d.rawName) :
    resolve config (typesOf config entries) d.resource d.rawName.toList = .ok (.pointer (.reference c)) := by
  have hmem := mem_of_mem_firstsBy (List.mem_of_getElem? hd)
  have htrim := trim_rawName hmem
  have hc := (typesOf_eq_some_iff hdistinct).2 ⟨d, hd, rfl⟩
  apply resolve_name
  · simpa [htrim] using hplain.nonempty
  · rw [htrim]
    exact hplain.name
  · intro s heq
    exact hplain.scalar s (String.toList_inj.1 (htrim.symm.trans heq))
  · intro heq
    exact hplain.object (String.toList_inj.1 (htrim.symm.trans heq))
  · rwa [htrim, String.ofList_toList]

/-- The text of a type that is built around the raw name of a class refers to this class. -/
theorem extract_refers (h : extract config doc = .ok r) {c : ClassId} {cls : ResponseClass}
    (hc : r.classes[c]? = some cls) (hplain : IsPlain cls.rawName) :
    ∃ entries s resource, resources config doc = .ok entries ∧ declareAll config entries = .ok s ∧
      r.resources[cls.resource]? = some resource ∧ s.1.classNamed? = r.classNamed? ∧
      ∀ text t, Within config s.1.classNamed? resource.id cls.rawName.toList (.pointer (.reference c)) text t →
        resolve config s.1.classNamed? resource.id text = .ok t := by
  obtain ⟨entries, fields, hentries, htitled, hdistinct, hfields, hrun⟩ := extract_eq_ok.1 h
  have hs := (declareAll_eq_ok config (nodup_resources hentries)).2 ⟨htitled, hdistinct, rfl⟩
  obtain ⟨hlength, hclasses⟩ := classes_of_extract hentries h
  obtain ⟨hlt, -⟩ := List.getElem?_eq_some_iff.1 hc
  have hd := List.getElem?_eq_getElem (hlength ▸ hlt)
  obtain ⟨members, -, hget⟩ := hclasses c _ hd
  obtain rfl : cls = _ := Option.some.inj (hc.symm.trans hget)
  have howned := owned_declarations (mem_of_mem_firstsBy (List.mem_of_getElem? hd))
  rw [Owned, ← List.getElem?_map, ← ids_of_extract hentries h, List.getElem?_map] at howned
  obtain ⟨resource, hresource, hid⟩ := Option.map_eq_some_iff.1 howned
  refine ⟨entries, _, resource, hentries, hs, hresource, ?_, fun text t ht => ?_⟩
  · exact (classNamed?_of_addEndpoints hfields hrun).symm
  · apply ht.resolve_eq
    rw [hid]
    exact resolve_rawName hdistinct hd hplain

theorem isPlain_summonerDto : IsPlain "SummonerDto" where
  nonempty := by decide
  name := (isName_iff.1 (by decide)).2
  scalar s := by cases s <;> decide
  object := by decide

/-- A map of lists of summoners, with blanks. -/
theorem extract_refers_redeclared :
    ∃ r cls, extract {} redeclared.number = .ok r ∧ r.classes[0]? = some cls ∧ IsPlain cls.rawName ∧
      resolve {} r.classNamed? "summoner" "Map[string, List[SummonerDto ]]".toList =
        .ok (.map (.scalar .string) (.list (.pointer (.reference 0)))) := by
  obtain ⟨r, hr⟩ := Outcome.isOk_iff.1 redeclared_isOk
  have hfacts : (extract {} redeclared.number).toOption.bind (fun r => r.classes[0]?.map
      fun cls => (cls.rawName, r.resources[cls.resource]?.map (·.id))) =
        some ("SummonerDto", some "summoner") := by
    decide +kernel
  rw [hr] at hfacts
  obtain ⟨cls, hcls, hnames⟩ := Option.map_eq_some_iff.1 hfacts
  obtain ⟨hraw, hid⟩ := Prod.mk.inj hnames
  have hplain : IsPlain cls.rawName := hraw ▸ isPlain_summonerDto
  obtain ⟨entries, s, resource, -, -, hresource, htable, hrefers⟩ := extract_refers hr hcls hplain
  rw [hresource, Option.map_some, Option.some.injEq] at hid
  rw [htable, hid, hraw] at hrefers
  refine ⟨r, cls, hr, hcls, hplain, hrefers _ _ ?_⟩
  have hblank : ∀ x ∈ " ".toList, isBlank x := List.all_eq_true.1 rfl
  have hnone : ∀ x ∈ "".toList, isBlank x := List.all_eq_true.1 rfl
  have hstring : resolve {} r.classNamed? "summoner" "string".toList = .ok (.scalar .string) :=
    resolve_keyword (by decide)
  have hname : Within {} r.classNamed? "summoner" "SummonerDto".toList (.pointer (.reference 0))
      ("".toList ++ "SummonerDto".toList ++ " ".toList) (.pointer (.reference 0)) :=
    .blanks hnone hblank .alone
  have hlist := (hname.list (.inl rfl)).blanks hblank hnone
  exact hlist.element hstring

end TypedClient.Extraction
