import TypedClient.Proofs.Source.Views

namespace TypedClient.Source

/-- What a view shows of a parameter, besides its identifier. -/
structure PassedAs (r : Registry) (p : Parameter) (v : ParameterView) : Prop where
  rawName : v.rawName = p.rawName
  type : parameterExpr r p.rawName p.type = .ok v.type
  docs : v.docs = parameterDocs p

/-- What the region gives a parameter: the id of its platform, or its code. -/
structure FilledAs (p : Parameter) (a : RegionArgument) : Prop where
  rawName : a.rawName = p.rawName
  isPlatform : a.isPlatform ↔ p.name = "platformID"

variable {r : Registry} {op : Operation} {v : OperationView}

/-- The identifiers in use stay distinct, and those of the views are added to them. -/
theorem parameterViews_eq_ok {used used' : List String} {ps : List Parameter} {vs : List ParameterView}
    (h : parameterViews r used ps = .ok (vs, used')) :
    List.Forall₂ (PassedAs r) (ps.filter (!·.isRegion)) vs ∧
    used' = (vs.map (·.identifier)).reverse ++ used ∧ (used.Nodup → used'.Nodup) := by
  induction ps generalizing used vs with
  | nil =>
    cases h
    exact ⟨.nil, rfl, id⟩
  | cons p ps ih =>
    unfold parameterViews at h
    by_cases hregion : p.isRegion
    · rw [if_pos hregion] at h
      rw [List.filter_cons_of_neg (by simpa using hregion)]
      exact ih h
    · rw [if_neg hregion] at h
      obtain ⟨type, htype, h⟩ := Outcome.bind_eq_ok.1 h
      obtain ⟨⟨more, used''⟩, hmore, h⟩ := Outcome.bind_eq_ok.1 h
      cases Outcome.pure_eq_ok.1 h
      obtain ⟨hpassed, hused, hnodup⟩ := ih hmore
      rw [List.filter_cons_of_pos (by simpa using hregion)]
      refine ⟨.cons ⟨rfl, htype, rfl⟩ hpassed, ?_, fun hdistinct => hnodup ?_⟩
      · rw [hused, List.map_cons, List.reverse_cons, List.append_assoc, List.singleton_append]
      · exact List.nodup_cons.2 ⟨free_not_mem used _, hdistinct⟩

theorem filledAs_regionArguments (ps : List Parameter) :
    List.Forall₂ FilledAs (ps.filter (·.isRegion)) (regionArguments ps) := by
  rw [regionArguments, List.forall₂_map_right_iff, List.forall₂_same]
  exact fun p _ => ⟨rfl, beq_iff_eq⟩

theorem regionArguments_ne_nil_iff {ps : List Parameter} :
    regionArguments ps ≠ [] ↔ ps.any (·.isRegion) := by
  simp [regionArguments]

/-- How the views of the parameters enter the view of the operation. -/
structure TakenFrom (r : Registry) (op : Operation) (v : OperationView) (used used' : List String) :
    Prop where
  path : parameterViews r builderMembers op.path.parameters = .ok (v.pathParameters, used)
  query : parameterViews r used op.query = .ok (v.query, used')
  pathRegions : v.pathRegions = regionArguments op.path.parameters
  queryRegions : v.queryRegions = regionArguments op.query
  needsRegion : v.needsRegion = (r.needsRegion op || op.query.any (·.isRegion))
  needsKey : v.needsKey = (r.resourceOf? op).all (·.needsKey)
  hasQuery : v.hasQuery = (v.needsKey || !v.query.isEmpty || !v.queryRegions.isEmpty)

theorem exists_takenFrom (h : operationView r op = .ok v) : ∃ used used', TakenFrom r op v used used' := by
  obtain ⟨⟨path, used⟩, hpath, h⟩ := Outcome.bind_eq_ok.1 h
  obtain ⟨⟨query, used'⟩, hquery, h⟩ := Outcome.bind_eq_ok.1 h
  obtain ⟨raw, -, h⟩ := Outcome.bind_eq_ok.1 h
  obtain ⟨result, -, h⟩ := Outcome.bind_eq_ok.1 h
  rw [← Outcome.pure_eq_ok.1 h]
  exact ⟨used, used', hpath, hquery, rfl, rfl, rfl, rfl, rfl⟩

/-- The caller passes the parameters that are no regions, the region fills in the others. What is passed has
identifiers of its own, other than the members of the builder. A region is asked for exactly if the host or a
parameter is taken from it, and a query is made exactly if there is something to put into it. -/
theorem arguments_divided (h : operationView r op = .ok v) :
    List.Forall₂ (PassedAs r) (op.path.parameters.filter (!·.isRegion)) v.pathParameters ∧
    List.Forall₂ FilledAs (op.path.parameters.filter (·.isRegion)) v.pathRegions ∧
    List.Forall₂ (PassedAs r) (op.query.filter (!·.isRegion)) v.query ∧
    List.Forall₂ FilledAs (op.query.filter (·.isRegion)) v.queryRegions ∧
    ((v.pathParameters ++ v.query).map (·.identifier)).Nodup ∧
    (∀ p ∈ v.pathParameters ++ v.query, p.identifier ∉ ["client", "region", "send", "url"]) ∧
    (v.needsRegion ↔ (∀ resource ∈ r.resourceOf? op, resource.baseUrl = none) ∨
      v.pathRegions ≠ [] ∨ v.queryRegions ≠ []) ∧
    (v.hasQuery ↔ (∀ resource ∈ r.resourceOf? op, resource.needsKey) ∨
      v.query ≠ [] ∨ v.queryRegions ≠ []) := by
  obtain ⟨used, used', htaken⟩ := exists_takenFrom h
  obtain ⟨hpath, rfl, hpathDistinct⟩ := parameterViews_eq_ok htaken.path
  obtain ⟨hquery, rfl, hqueryDistinct⟩ := parameterViews_eq_ok htaken.query
  have hdistinct := hqueryDistinct (hpathDistinct (by decide))
  rw [← List.append_assoc, ← List.reverse_append, ← List.map_append, List.nodup_append,
    List.nodup_reverse] at hdistinct
  obtain ⟨hnodup, -, hmembers⟩ := hdistinct
  refine ⟨hpath, htaken.pathRegions ▸ filledAs_regionArguments _, hquery,
    htaken.queryRegions ▸ filledAs_regionArguments _, hnodup, fun p hp hmem => ?_, ?_, ?_⟩
  · exact hmembers _ (List.mem_reverse.2 (List.mem_map_of_mem hp)) _ hmem rfl
  · rw [htaken.needsRegion, Registry.needsRegion, htaken.pathRegions, htaken.queryRegions,
      regionArguments_ne_nil_iff, regionArguments_ne_nil_iff, PathTemplate.hasRegion]
    simp [Option.all_eq_true, or_assoc]
  · rw [htaken.hasQuery, htaken.needsKey]
    simp [Option.all_eq_true, or_assoc]

def textParameter (name : String) : Parameter := ⟨name, name, "", .scalar .string, false, []⟩

/-- An operation whose parameters take the names of the builder, and each other's. -/
def shards : Operation where
  endpoint := 0
  name := "Shards"
  description := ""
  method := "GET"
  number := 1
  path := ⟨"/shards/\x7bclient\x7d", ["client", "clientParam"].map textParameter⟩
  query := ["region", "Url", "client"].map textParameter
  returnType := .scalar .string
  mapKey := none
  implementationNotes := ""
  rateLimitNotes := ""
  errors := []

/-- A resource with a place of its own. -/
def shardsRegistry : Registry where
  resources := [⟨"lol-status", "v1.0", 1, [], some "http://status.leagueoflegends.com", false, [0]⟩]
  endpoints := [⟨0, [0]⟩]
  operations := [shards]

theorem arguments_divided_shards :
    ∃ v, operationView shardsRegistry shards = .ok v ∧
      (v.pathParameters ++ v.query).map (·.identifier) =
        ["client_param", "client_param_2", "url_param", "client_param_3"] ∧
      (∀ p ∈ v.pathParameters ++ v.query, p.identifier ∉ ["client", "region", "send", "url"]) ∧
      v.queryRegions ≠ [] ∧ v.needsRegion := by
  have hrun : (operationView shardsRegistry shards).toOption.map (fun v =>
      ((v.pathParameters ++ v.query).map (·.identifier), v.queryRegions.length)) =
        some (["client_param", "client_param_2", "url_param", "client_param_3"], 1) := by
    decide +kernel
  obtain ⟨v, hv, hshown⟩ := Outcome.exists_ok_of_map_toOption hrun
  obtain ⟨hidentifiers, hlength⟩ := Prod.mk.inj hshown
  obtain ⟨-, -, -, -, -, hmembers, hregion, -⟩ := arguments_divided hv
  have hregions : v.queryRegions ≠ [] := List.ne_nil_of_length_pos (by omega)
  exact ⟨v, hv, hidentifiers, hmembers, hregions, hregion.2 (.inr (.inr hregions))⟩

end TypedClient.Source
