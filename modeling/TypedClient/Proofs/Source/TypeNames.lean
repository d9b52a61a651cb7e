import TypedClient.Proofs.Document.Written
import TypedClient.Proofs.Extraction.Names
import TypedClient.Proofs.Rearranged
import TypedClient.Proofs.Source.Views

namespace TypedClient.Source

/-- The names that the source imports or defines as types and modules before the first class. -/
def openingNames : List String :=
  ["rt", "ToParam", "HashMap", "fmt", "SystemTime", "Client", "Region", "RegionInfo"]

/-- The types of the target language that the source spells without a path. -/
def spelledTypes : List String :=
  ["bool", "i32", "i64", "f32", "f64", "Box", "Option", "Result", "String", "Vec"]

/-- The names of the classes and builders. -/
def Model.typeNames (m : Model) : List String :=
  m.classes.map (·.name) ++ m.operations.map (·.builder)

variable {r : Registry}

theorem builderName_inj {op op' : Operation} :
    op.builderName = op'.builderName ↔ op.name = op'.name := by
  rw [Operation.builderName, Operation.builderName, ← String.toList_inj, String.toList_append,
    String.toList_append, List.append_cancel_right_eq, String.toList_inj]

theorem call_isSuffix_builderName (op : Operation) : "Call".toList <:+ op.builderName.toList := by
  rw [Operation.builderName, String.toList_append]
  exact List.suffix_append _ _

theorem builderName_not_mem {op : Operation} {names : List String}
    (h : ∀ name ∈ names, ¬ "Call".toList <:+ name.toList) : op.builderName ∉ names :=
  fun hmem => h _ hmem (call_isSuffix_builderName op)

theorem typeNames_of_ofRegistry {config : Config} {m : Model} (h : Model.ofRegistry config r = .ok m) :
    m.classes.map (·.name) = r.classes.map (·.name) ∧
      m.operations.map (·.builder) = r.orderedOperations.map (·.builderName) := by
  obtain ⟨-, hclasses, hoperations⟩ := ofRegistry_eq_ok h
  exact ⟨Rearranged.map_eq_of_forall₂ (fun _ _ hv => (classView_eq_ok hv).2.1) hclasses,
    Rearranged.map_eq_of_forall₂ (fun _ _ hv => (operationView_eq_ok hv).1) hoperations⟩

theorem not_mem_reservedTypes {config : Config} {m : Model} (h : Model.ofRegistry config r = .ok m) :
    ∀ name ∈ m.typeNames, name ∉ reservedTypes := by
  obtain ⟨hcheck, hclasses, -⟩ := ofRegistry_eq_ok h
  obtain ⟨hclassNames, hbuilders⟩ := typeNames_of_ofRegistry h
  intro name hname
  rw [Model.typeNames, hclassNames, hbuilders] at hname
  rcases List.mem_append.1 hname with hname | hname
  · obtain ⟨c, hc, rfl⟩ := List.mem_map.1 hname
    obtain ⟨v, -, hv⟩ := Outcome.exists_mem_of_forall₂ hclasses hc
    exact (classView_eq_ok hv).1
  · obtain ⟨op, hop, rfl⟩ := List.mem_map.1 hname
    exact (checkBuilder_eq_ok.1 (hcheck op hop)).2

theorem nodup_typeNames {config : Config} {doc : Document} {m : Model}
    (hr : extract config doc = .ok r) (hm : Model.ofRegistry config r = .ok m) :
    m.typeNames.Nodup := by
  obtain ⟨hcheck, -, -⟩ := ofRegistry_eq_ok hm
  obtain ⟨hclassNames, hbuilders⟩ := typeNames_of_ofRegistry hm
  have hops := Extraction.nodup_orderedOperationNames hr
  rw [Model.typeNames, hclassNames, hbuilders, List.nodup_append]
  refine ⟨Extraction.nodup_classNames hr, ?_, fun a ha b hb => ?_⟩
  · rw [List.Nodup, List.pairwise_map] at hops ⊢
    exact hops.imp fun hne h => hne (builderName_inj.1 h)
  · obtain ⟨c, hc, rfl⟩ := List.mem_map.1 ha
    obtain ⟨op, hop, rfl⟩ := List.mem_map.1 hb
    exact (checkBuilder_eq_ok.1 (hcheck op hop)).1 c hc

/-- Names that do not end like a builder's are avoided if the classes avoid those that are not
reserved. -/
theorem avoids_iff {config : Config} {m : Model} {names : List String}
    (h : Model.ofRegistry config r = .ok m) (hcall : ∀ name ∈ names, ¬ "Call".toList <:+ name.toList) :
    (∀ name ∈ m.typeNames, name ∉ names) ↔
      ∀ c ∈ m.classes, c.name ∉ names.filter (· ∉ reservedTypes) := by
  constructor
  · intro havoid c hc hmem
    have hname : c.name ∈ m.typeNames := List.mem_append_left _ (List.mem_map_of_mem hc)
    exact havoid _ hname (List.mem_of_mem_filter hmem)
  · intro havoid name hname hmem
    have hfree := not_mem_reservedTypes h name hname
    rcases List.mem_append.1 hname with hname | hname
    · obtain ⟨c, hc, rfl⟩ := List.mem_map.1 hname
      exact havoid c hc (List.mem_filter.2 ⟨hmem, by simpa using hfree⟩)
    · rw [(typeNames_of_ofRegistry h).2] at hname
      obtain ⟨op, -, rfl⟩ := List.mem_map.1 hname
      exact builderName_not_mem hcall hmem

/-- In the source of an extracted registry all classes and builders have names of their own, none of
them reserved. So they are also told from what the source imports and defines exactly if no class takes
one of three names, and from the types that it spells exactly if no class takes one of five. -/
theorem typeNames_distinct_iff {config : Config} {doc : Document} {m : Model}
    (hr : extract config doc = .ok r) (hm : Model.ofRegistry config r = .ok m) :
    m.typeNames.Nodup ∧ (∀ name ∈ m.typeNames, name ∉ reservedTypes) ∧
    ((openingNames ++ m.typeNames).Nodup ↔ ∀ c ∈ m.classes, c.name ∉ ["rt", "ToParam", "fmt"]) ∧
    ((∀ name ∈ m.typeNames, name ∉ spelledTypes) ↔
      ∀ c ∈ m.classes, c.name ∉ ["bool", "i32", "i64", "f32", "f64"]) := by
  have hnodup := nodup_typeNames hr hm
  have hopening : (∀ name ∈ m.typeNames, name ∉ openingNames) ↔
      ∀ c ∈ m.classes, c.name ∉ ["rt", "ToParam", "fmt"] := avoids_iff hm (by decide)
  refine ⟨hnodup, not_mem_reservedTypes hm, ?_, avoids_iff hm (by decide)⟩
  rw [← hopening, List.nodup_append]
  constructor
  · rintro ⟨-, -, hne⟩ name hname hmem
    exact hne name hmem name hname rfl
  · intro havoid
    refine ⟨by decide, hnodup, fun a ha b hb hab => ?_⟩
    exact havoid b hb (hab ▸ ha)

theorem typeNames_distinct_redeclared :
    ∃ r m, extract {} Extraction.redeclared.number = .ok r ∧ Model.ofRegistry {} r = .ok m ∧
      (openingNames ++ m.typeNames).Nodup := by
  have hnames : ((extract {} Extraction.redeclared.number >>= Model.ofRegistry {}).toOption.map
      (·.typeNames)) = some ["Summoner", "ChampionList", "SummonersCall", "ChampionsCall"] := by
    decide +kernel
  obtain ⟨m, hrun, htypes⟩ := Outcome.exists_ok_of_map_toOption hnames
  obtain ⟨r, hr, hm⟩ := Outcome.bind_eq_ok.1 hrun
  refine ⟨r, m, hr, hm, (typeNames_distinct_iff hr hm).2.2.1.2 fun c hc => ?_⟩
  have hname : c.name ∈ m.typeNames := List.mem_append_left _ (List.mem_map_of_mem hc)
  have hfree : ∀ name ∈ ["Summoner", "ChampionList", "SummonersCall", "ChampionsCall"],
      name ∉ ["rt", "ToParam", "fmt"] := by decide
  exact hfree _ (htypes ▸ hname)

open RawNode in
def shadowing : RawNode :=
  branch "document" [] [
    resource "resource_1" "champion-v1.2" [operation "/champion" [responseClasses [
      returnValue "ToParam", responseBody "ToParam" [["free", "boolean", ""]]]]]]

theorem typeNames_shadowing :
    ∃ r m, extract {} shadowing.number = .ok r ∧ Model.ofRegistry {} r = .ok m ∧
      ¬ (openingNames ++ m.typeNames).Nodup := by
  have hnames : ((extract {} shadowing.number >>= Model.ofRegistry {}).toOption.map
      (·.typeNames)) = some ["ToParam", "ChampionsCall"] := by
    decide +kernel
  obtain ⟨m, hrun, hm⟩ := Outcome.exists_ok_of_map_toOption hnames
  obtain ⟨r, hr, hmodel⟩ := Outcome.bind_eq_ok.1 hrun
  refine ⟨r, m, hr, hmodel, ?_⟩
  rw [hm]
  decide

end TypedClient.Source
