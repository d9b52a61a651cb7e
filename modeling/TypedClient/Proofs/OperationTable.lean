import TypedClient.OperationTable
import TypedClient.Proofs.Table

namespace TypedClient

namespace OperationTable

variable {config : Config} {resource path : String} {rule : OperationRule}

theorem mem_known_of_lookup (h : lookup config resource path = .ok rule) :
    ∃ suffix, (suffix, rule) ∈ known config resource := by
  unfold lookup at h
  split at h
  · cases h
  · rename_i suffix rule' hfit
    cases h
    have hmem : (suffix, rule) ∈ fitting config resource path := hfit ▸ List.mem_cons_self
    exact ⟨suffix, List.mem_of_mem_filter hmem⟩
  · cases h

/-- The resources whose operations are known without any configuration. -/
def builtInResources : List String :=
  ["lol-static-data", "champion", "current-game", "featured-games", "game", "league", "lol-status",
   "match", "matchlist", "stats", "summoner", "team"]

theorem mem_builtInResources {p : String × OperationRule} (h : p ∈ builtIn resource) :
    resource ∈ builtInResources := by
  unfold builtIn at h
  split at h
  case h_13 => exact absurd h List.not_mem_nil
  all_goals decide

/-- The names of all operations that are known without any configuration. -/
def builtInNames : List String :=
  builtInResources.flatMap fun resource => (builtIn resource).map (·.2.name)

theorem mem_builtInNames_of_lookup (hnone : config.operationsOf resource = [])
    (h : lookup config resource path = .ok rule) : rule.name ∈ builtInNames := by
  obtain ⟨suffix, hmem⟩ := mem_known_of_lookup h
  rw [known, hnone] at hmem
  have hbuiltIn : (suffix, rule) ∈ builtIn resource := Table.mem_of_mem_ofList hmem
  refine List.mem_flatMap.2 ⟨resource, mem_builtInResources hbuiltIn, ?_⟩
  exact List.mem_map.2 ⟨_, hbuiltIn, rfl⟩

end OperationTable

end TypedClient
