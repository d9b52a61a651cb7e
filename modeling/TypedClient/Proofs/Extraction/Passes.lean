import TypedClient.Proofs.Extraction.Declarations
import TypedClient.Proofs.Extraction.Members
import TypedClient.Proofs.Extraction.Resources

namespace TypedClient.Extraction

variable {config : Config} {entries : List ResourceEntry}

/-- The declarations that count: the first of each class. -/
def firstDeclarations (entries : List ResourceEntry) : List Declaration :=
  firstsBy Declaration.identity (declarations entries)

/-- The registry after the first pass, and what is left to read. -/
def firstPass (config : Config) (entries : List ResourceEntry) : Registry × List PendingClass :=
  registered config entries (firstDeclarations entries)

/-- The complete set of classes, by name. -/
def typesOf (config : Config) (entries : List ResourceEntry) : String → Option ClassId :=
  (firstPass config entries).1.classNamed?

/-- The registry after the second pass, given the fields of each class. -/
def secondPass (config : Config) (entries : List ResourceEntry) (fields : List (List Field)) :
    Registry :=
  { (firstPass config entries).1 with
    classes := List.zipWith withMembers
      ((firstDeclarations entries).map (·.toClass config)) fields }

theorem Clash.not_distinct {ds : List Declaration} {f : Failure} (h : Clash config ds f) :
    ¬ Distinct config ds := by
  obtain ⟨i, j, d, e, -, hi, hj, hne, hname, -⟩ := h
  exact fun hd => hne (hd d (List.mem_of_getElem? hi) e (List.mem_of_getElem? hj) hname)

theorem declareAll_eq_ok (config : Config) (hids : (entries.map (·.id)).Nodup)
    {s : Registry × List PendingClass} :
    declareAll config entries = .ok s ↔ Titled (entries.flatMap bodiesOf) ∧
      Distinct config (declarations entries) ∧ s = firstPass config entries := by
  have h := declareAll_declares config hids
  cases hrun : declareAll config entries with
  | ok t =>
    rw [hrun] at h
    obtain ⟨htitled, hdistinct, rfl⟩ := h
    rw [Except.ok.injEq, eq_comm]
    exact ⟨fun hs => ⟨htitled, hdistinct, hs⟩, fun hs => hs.2.2⟩
  | error f =>
    rw [hrun] at h
    constructor
    · intro hf
      cases hf
    · rintro ⟨htitled, hdistinct, -⟩
      exact absurd hdistinct (h htitled).not_distinct

theorem secondPass_eq_ok {types : String → Option ClassId} {r : Registry} :
    (firstPass config entries).2.foldlM (readMembers config types) (firstPass config entries).1 =
        .ok r ↔
      ∃ fields, List.Forall₂ (fun c fs => readFields config types c = .ok fs)
        (firstPass config entries).2 fields ∧ r = secondPass config entries fields := by
  have hids : (firstPass config entries).2.map (·.id) =
      List.range' ([] : List ResponseClass).length (firstPass config entries).1.classes.length := by
    simp only [firstPass, registered, List.mapIdx_eq_zipIdx_map, List.map_map, List.length_map,
      List.length_nil]
    exact List.zipIdx_map_snd 0 (firstDeclarations entries)
  rw [readMembers_run [] rfl hids]
  rfl

/-- The fields of classes are what their bodies list, one after the other. -/
def FieldsOf (config : Config) (entries : List ResourceEntry) (fields : List (List Field)) : Prop :=
  List.Forall₂ (fun c fs => readFields config (typesOf config entries) c = .ok fs)
    (firstPass config entries).2 fields

theorem length_fields {fields : List (List Field)} (h : FieldsOf config entries fields) :
    (firstDeclarations entries).length = fields.length := by
  rw [← h.length_eq]
  simp [firstPass, registered]

theorem length_classes_secondPass {fields : List (List Field)} (h : FieldsOf config entries fields) :
    (secondPass config entries fields).classes.length = (firstDeclarations entries).length := by
  rw [secondPass, List.length_zipWith, List.length_map, ← length_fields h, Nat.min_self]

theorem getElem?_secondPass {fields : List (List Field)} (h : FieldsOf config entries fields)
    {i : Nat} {d : Declaration} (hd : (firstDeclarations entries)[i]? = some d) :
    ∃ fs, readFields config (typesOf config entries) (d.toPending i) = .ok fs ∧
      (secondPass config entries fields).classes[i]? = some (withMembers (d.toClass config) fs) := by
  have hlt : i < fields.length := length_fields h ▸ (List.getElem?_eq_some_iff.1 hd).1
  have hpending : (firstPass config entries).2[i]? = some (d.toPending i) := by
    simp [firstPass, registered, hd]
  obtain ⟨hi, hget⟩ := List.getElem?_eq_some_iff.1 hpending
  have hread := (List.forall₂_iff_get.1 h).2 i hi hlt
  rw [List.get_eq_getElem, List.get_eq_getElem, hget] at hread
  refine ⟨fields[i], hread, ?_⟩
  rw [secondPass, List.getElem?_zipWith, List.getElem?_map, hd, List.getElem?_eq_getElem hlt]
  rfl

/-- A class of a name is the one first declaration of that name. -/
theorem typesOf_eq_some_iff (h : Distinct config (declarations entries)) {name : String}
    {c : ClassId} : typesOf config entries name = some c ↔
      ∃ d, (firstDeclarations entries)[c]? = some d ∧ d.name config = name := by
  have htypes : typesOf config entries name =
      (firstDeclarations entries).findIdx? (·.name config = name) := by
    rw [typesOf, Registry.classNamed?]
    simp [firstPass, registered, List.findIdx?_map, Function.comp_def, Declaration.toClass]
  rw [htypes, List.findIdx?_eq_some_iff_getElem]
  constructor
  · rintro ⟨hlt, hname, -⟩
    exact ⟨_, List.getElem?_eq_getElem hlt, of_decide_eq_true hname⟩
  · rintro ⟨d, hd, rfl⟩
    obtain ⟨hlt, rfl⟩ := List.getElem?_eq_some_iff.1 hd
    refine ⟨hlt, by simp, fun j hj => ?_⟩
    have hltj : j < (firstDeclarations entries).length := Nat.lt_trans hj hlt
    intro hname
    have hid := h _ (mem_of_mem_firstsBy (List.getElem_mem hltj)) _
      (mem_of_mem_firstsBy (List.getElem_mem hlt)) (of_decide_eq_true hname)
    have hnodup : ((firstDeclarations entries).map Declaration.identity).Nodup := nodup_map_firstsBy
    have hsame : j = c := by
      refine (List.getElem?_inj (by simpa using hltj) hnodup).1 ?_
      rw [List.getElem?_map, List.getElem?_map, List.getElem?_eq_getElem hltj,
        List.getElem?_eq_getElem hlt, Option.map_some, Option.map_some, hid]
    exact Nat.lt_irrefl c (hsame ▸ hj)

/-- An extraction succeeds exactly if its passes do, one after the other. -/
theorem extract_eq_ok {doc : Document} {r : Registry} :
    extract config doc = .ok r ↔ ∃ entries fields, resources config doc = .ok entries ∧
      Titled (entries.flatMap bodiesOf) ∧ Distinct config (declarations entries) ∧
      FieldsOf config entries fields ∧
      entries.zipIdx.foldlM (addEndpoints config (typesOf config entries))
        (secondPass config entries fields) = .ok r := by
  unfold extract
  rw [Outcome.bind_eq_ok]
  constructor
  · rintro ⟨entries, hentries, h⟩
    obtain ⟨s, hs, h⟩ := Outcome.bind_eq_ok.1 h
    obtain ⟨htitled, hdistinct, rfl⟩ := (declareAll_eq_ok config (nodup_resources hentries)).1 hs
    obtain ⟨second, hsecond, h⟩ := Outcome.bind_eq_ok.1 h
    obtain ⟨fields, hfields, rfl⟩ := secondPass_eq_ok.1 hsecond
    exact ⟨entries, fields, hentries, htitled, hdistinct, hfields, h⟩
  · rintro ⟨entries, fields, hentries, htitled, hdistinct, hfields, h⟩
    have hs := (declareAll_eq_ok config (nodup_resources hentries)).2 ⟨htitled, hdistinct, rfl⟩
    have hsecond := secondPass_eq_ok.2 ⟨fields, hfields, rfl⟩
    exact ⟨entries, hentries, Outcome.bind_eq_ok.2 ⟨_, hs, Outcome.bind_eq_ok.2 ⟨_, hsecond, h⟩⟩⟩

end TypedClient.Extraction
