import TypedClient.Proofs.Extraction.DocumentOrder

namespace TypedClient.Extraction

variable {config : Config} {entries : List ResourceEntry} {doc : Document} {r : Registry}

theorem nodup_names_firstDeclarations (h : Distinct config (declarations entries)) :
    ((firstDeclarations entries).map (·.name config)).Nodup := by
  have hids : ((firstDeclarations entries).map Declaration.identity).Nodup := nodup_map_firstsBy
  rw [List.Nodup, List.pairwise_map] at hids ⊢
  refine hids.imp_of_mem fun hd he hne hname => hne ?_
  exact h _ (mem_of_mem_firstsBy hd) _ (mem_of_mem_firstsBy he) hname

theorem nodup_classNames (h : extract config doc = .ok r) : (r.classes.map (·.name)).Nodup := by
  obtain ⟨entries, fields, -, -, hdistinct, hfields, hrun⟩ := extract_eq_ok.1 h
  have hlength : ((firstDeclarations entries).map (·.toClass config)).length = fields.length := by
    rw [List.length_map, length_fields hfields]
  rw [classes_of_addEndpoints hrun, secondPass, map_name_zipWith_withMembers hlength, List.map_map]
  exact nodup_names_firstDeclarations hdistinct

theorem nodup_operationNames (h : extract config doc = .ok r) :
    (r.operations.map (·.name)).Nodup := by
  obtain ⟨entries, fields, -, -, -, -, hrun⟩ := extract_eq_ok.1 h
  let P (s : Registry) : Prop := (s.operations.map (·.name)).Nodup
  have hstart : P (secondPass config entries fields) := List.nodup_nil
  refine addEndpoints_keeps (P := P) (fun _ _ _ hs => hs)
    (fun _ _ s _ _ op hs _ _ hnew => ?_) hstart hrun
  show ((s.addOperation op).operations.map (·.name)).Nodup
  rw [Registry.addOperation, List.map_append, List.nodup_append]
  refine ⟨hs, by simp, fun a ha b hb => ?_⟩
  obtain ⟨o, ho, rfl⟩ := List.mem_map.1 ha
  rw [List.map_singleton, List.mem_singleton] at hb
  exact hb ▸ hnew o ho

theorem orderedOperations_perm (h : extract config doc = .ok r) :
    r.orderedOperations.Perm r.operations := by
  obtain ⟨entries, -, hentries, -⟩ := extract_eq_ok.1 h
  exact (mirrors_of_extract hentries h).listed.orderedOperations_perm

theorem nodup_orderedOperationNames (h : extract config doc = .ok r) :
    (r.orderedOperations.map (·.name)).Nodup :=
  ((orderedOperations_perm h).map (·.name)).nodup_iff.2 (nodup_operationNames h)

end TypedClient.Extraction
