import TypedClient.Proofs.Document.Written
import TypedClient.Proofs.Extraction.Endpoints
import TypedClient.Proofs.Extraction.Passes

namespace TypedClient.Extraction

variable {config : Config} {entries : List ResourceEntry}

theorem map_name_zipWith_withMembers {cs : List ResponseClass} {fields : List (List Field)}
    (h : cs.length = fields.length) :
    (List.zipWith withMembers cs fields).map (·.name) = cs.map (·.name) := by
  induction cs generalizing fields with
  | nil => rfl
  | cons c cs ih =>
    cases fields with
    | nil => cases h
    | cons fs fields =>
      rw [List.zipWith_cons_cons, List.map_cons, List.map_cons, ih (Nat.succ.inj h)]
      rfl

theorem classNamed?_secondPass {fields : List (List Field)}
    (h : (firstDeclarations entries).length = fields.length) :
    (secondPass config entries fields).classNamed? = typesOf config entries := by
  have hcs : ((firstDeclarations entries).map (·.toClass config)).length = fields.length := by
    rw [List.length_map, h]
  rw [typesOf, Registry.classNamed?_eq, Registry.classNamed?_eq, secondPass, map_name_zipWith_withMembers hcs]
  rfl

theorem classNamed?_of_addEndpoints {fields : List (List Field)} {r : Registry}
    (h : FieldsOf config entries fields)
    (hrun : entries.zipIdx.foldlM (addEndpoints config (typesOf config entries))
      (secondPass config entries fields) = .ok r) : r.classNamed? = typesOf config entries := by
  have hsecond : (secondPass config entries fields).classNamed? = typesOf config entries :=
    classNamed?_secondPass (length_fields h)
  rw [← hsecond, Registry.classNamed?_eq, Registry.classNamed?_eq, classes_of_addEndpoints hrun]

/-- The classes of an extraction are the first declarations with the members that their own bodies
list. -/
theorem classes_of_extract {doc : Document} {r : Registry} (hentries : resources config doc = .ok entries)
    (h : extract config doc = .ok r) :
    r.classes.length = (firstDeclarations entries).length ∧
    ∀ (i : Nat) (d : Declaration), (firstDeclarations entries)[i]? = some d →
      ∃ fields, readFields config r.classNamed? (d.toPending i) = .ok fields ∧
        r.classes[i]? = some (withMembers (d.toClass config) fields) := by
  obtain ⟨entries', fields, hentries', -, -, hfields, hrun⟩ := extract_eq_ok.1 h
  obtain rfl : entries = entries' := Except.ok.inj (hentries.symm.trans hentries')
  rw [classNamed?_of_addEndpoints hfields hrun, classes_of_addEndpoints hrun]
  exact ⟨length_classes_secondPass hfields, fun i d hd => getElem?_secondPass hfields hd⟩

theorem ids_of_extract {doc : Document} {r : Registry} (hentries : resources config doc = .ok entries)
    (h : extract config doc = .ok r) : r.resources.map (·.id) = entries.map (·.id) := by
  obtain ⟨es, fields, hes, -, -, -, hrun⟩ := extract_eq_ok.1 h
  obtain rfl : entries = es := Except.ok.inj (hentries.symm.trans hes)
  rw [ids_of_addEndpoints hrun]
  simp [secondPass, firstPass, registered, ResourceEntry.toResource]

open RawNode in
/-- Two resources. The first declares a class twice, with other fields the second time. -/
def redeclared : RawNode :=
  branch "document" [] [
    resource "resource_1" "summoner-v1.4" [operation "/summoner/\x7bsummonerIds\x7d" [responseClasses [
      returnValue "Map[string, SummonerDto]",
      responseBody "SummonerDto" [["id", "long", "ID."], ["owned", "List[ChampionListDto]", ""]],
      responseBody "SummonerDto" [["name", "string", "Name."]]]]],
    resource "resource_2" "champion-v1.2" [operation "/champion" [responseClasses [
      returnValue "ChampionListDto", responseBody "ChampionListDto" [["free", "boolean", ""]]]]]]

theorem redeclared_isOk : (extract {} redeclared.number).isOk = true := by decide +kernel

end TypedClient.Extraction
