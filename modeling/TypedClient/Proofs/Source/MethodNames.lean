import TypedClient.Proofs.Document.Written
import TypedClient.Proofs.Extraction.Names
import TypedClient.Proofs.Extraction.Origins
import TypedClient.Proofs.OperationTable
import TypedClient.Proofs.Rearranged
import TypedClient.Proofs.Source.Views

namespace TypedClient.Source

/-- A text in snake case as the identifier of a method of the client. -/
def methodSpelling (s : String) : String := avoid clientMembers "call" (escapeIdentifier s)

/-- The texts that cannot be identifiers of such methods, apart from those with a digit in front. -/
def takenWords : List String := keywords ++ clientMembers

theorem takenWords_checked :
    (takenWords.map methodSpelling).Nodup ∧
    ∀ s ∈ takenWords, methodSpelling (methodSpelling s) = methodSpelling s ∧
      (methodSpelling s).toList.head? ≠ some '_' ∧
      s.toList.head? ≠ some '_' ∧ s.toList.head?.any Char.isDigit = false := by
  decide +kernel

theorem methodSpelling_of_plain {s : String} (hs : s ∉ takenWords)
    (hdigit : s.toList.head?.any Char.isDigit = false) : methodSpelling s = s := by
  obtain ⟨hkeyword, hmember⟩ : s ∉ keywords ∧ s ∉ clientMembers := by
    simpa [takenWords] using hs
  have hescape : escapeIdentifier s = s := by
    rw [escapeIdentifier_of_not_mem_keywords hkeyword, digitLed, hdigit, if_neg Bool.false_ne_true]
  simp [methodSpelling, avoid, hescape, hmember]

theorem head?_underscore_append (s : String) : ("_" ++ s).toList.head? = some '_' := by simp

theorem underscore_append_not_mem_takenWords (s : String) : "_" ++ s ∉ takenWords :=
  fun h => (takenWords_checked.2 _ h).2.2.1 (head?_underscore_append s)

theorem methodSpelling_of_digit {s : String} (hdigit : s.toList.head?.any Char.isDigit = true) :
    methodSpelling s = "_" ++ s := by
  have hs : s ∉ takenWords := fun h => by simp [(takenWords_checked.2 _ h).2.2.2] at hdigit
  have hkeyword : s ∉ keywords := fun h => hs (List.mem_append_left _ h)
  have hescape : escapeIdentifier s = "_" ++ s := by
    rw [escapeIdentifier_of_not_mem_keywords hkeyword, digitLed, hdigit, if_pos rfl]
  have hmember : "_" ++ s ∉ clientMembers := fun h =>
    underscore_append_not_mem_takenWords s (List.mem_append_right _ h)
  simp [methodSpelling, avoid, hescape, hmember]

theorem methodSpelling_cases (s : String) :
    methodSpelling s = s ∨ methodSpelling s = "_" ++ s ∨ s ∈ takenWords := by
  by_cases hs : s ∈ takenWords
  · exact .inr (.inr hs)
  · cases hdigit : s.toList.head?.any Char.isDigit with
    | false => exact .inl (methodSpelling_of_plain hs hdigit)
    | true => exact .inr (.inl (methodSpelling_of_digit hdigit))

theorem methodSpelling_underscore_append (s : String) : methodSpelling ("_" ++ s) = "_" ++ s := by
  refine methodSpelling_of_plain (underscore_append_not_mem_takenWords s) ?_
  rw [head?_underscore_append]
  rfl

theorem methodSpelling_methodSpelling (s : String) :
    methodSpelling (methodSpelling s) = methodSpelling s := by
  rcases methodSpelling_cases s with hs | hs | hs
  · rw [hs, hs]
  · rw [hs, methodSpelling_underscore_append]
  · exact (takenWords_checked.2 s hs).1

theorem methodSpelling_ne_underscore_append {s t : String} (hs : s ∈ takenWords) :
    methodSpelling s ≠ "_" ++ t :=
  fun h => (takenWords_checked.2 s hs).2.1 (h ▸ head?_underscore_append t)

/-- Texts have one spelling only if they are the same or one of them is that spelling. -/
theorem methodSpelling_eq_iff {s t : String} :
    methodSpelling s = methodSpelling t ↔ s = t ∨ methodSpelling s = t ∨ s = methodSpelling t := by
  constructor
  · -- A text is changed only if it is taken or begins with a digit. What it is changed to differs
    -- from one such text to the next, and only the latter get an underscore in front.
    intro h
    rcases methodSpelling_cases s with hs | hs | hs
    · exact .inr (.inr (hs.symm.trans h))
    · rcases methodSpelling_cases t with ht | ht | ht
      · exact .inr (.inl (h.trans ht))
      · rw [hs, ht, ← String.toList_inj, String.toList_append, String.toList_append,
          List.append_cancel_left_eq, String.toList_inj] at h
        exact .inl h
      · exact absurd (h.symm.trans hs) (methodSpelling_ne_underscore_append ht)
    · rcases methodSpelling_cases t with ht | ht | ht
      · exact .inr (.inl (h.trans ht))
      · exact absurd (h.trans ht) (methodSpelling_ne_underscore_append hs)
      · exact .inl (List.inj_on_of_nodup_map takenWords_checked.1 hs ht h)
  · rintro (rfl | rfl | rfl)
    · rfl
    · rw [methodSpelling_methodSpelling]
    · rw [methodSpelling_methodSpelling]

theorem clientIdentifier_not_mem_clientMembers (name : String) :
    clientIdentifier name ∉ clientMembers := by
  have hmembers : ∀ s ∈ clientMembers, s ++ "_" ++ "call" ∉ clientMembers := by decide
  rw [clientIdentifier, avoid]
  split
  · rename_i h
    exact hmembers _ (by simpa using h)
  · rename_i h
    simpa using h

/-- Whether two names are taken to one identifier: they have one snake case, or the identifier of one is
the snake case of the other. -/
def SameMethod (a b : String) : Prop :=
  snakeCase a = snakeCase b ∨ clientIdentifier a = snakeCase b ∨ snakeCase a = clientIdentifier b

theorem clientIdentifier_eq_iff {a b : String} :
    clientIdentifier a = clientIdentifier b ↔ SameMethod a b := methodSpelling_eq_iff

theorem builtInNames_checked : (OperationTable.builtInNames.map clientIdentifier).Nodup := by
  decide +kernel

variable {r : Registry} {config : Config} {doc : Document} {m : Model}

theorem identifiers_of_ofRegistry (h : Model.ofRegistry config r = .ok m) :
    m.operations.map (·.identifier) =
      (r.orderedOperations.map (·.name)).map clientIdentifier := by
  obtain ⟨-, -, hoperations⟩ := ofRegistry_eq_ok h
  have hviews : ∀ op v, operationView r op = .ok v → v.identifier = clientIdentifier op.name :=
    fun _ _ hv => (operationView_eq_ok hv).2.1
  rw [Rearranged.map_eq_of_forall₂ hviews hoperations, List.map_map, Function.comp_def]

theorem mem_builtInNames_of_extract (hr : extract config doc = .ok r)
    (hnone : ∀ resource, config.operationsOf resource = []) :
    ∀ name ∈ r.orderedOperations.map (·.name), name ∈ OperationTable.builtInNames := by
  intro name hname
  obtain ⟨op, hop, rfl⟩ := List.mem_map.1 hname
  obtain ⟨resource, n, -, hat⟩ :=
    Extraction.exists_operationAt hr ((Extraction.orderedOperations_perm hr).subset hop)
  exact OperationTable.mem_builtInNames_of_lookup (hnone resource.id) hat.rule

/-- The methods of the client that start operations hide no other member. They are different from each
other exactly if no two names are taken to one identifier, and so they are if no rules are configured. -/
theorem methods_distinct_iff (hr : extract config doc = .ok r)
    (hm : Model.ofRegistry config r = .ok m) :
    (∀ v ∈ m.operations, v.identifier ∉ clientMembers) ∧
    ((m.operations.map (·.identifier)).Nodup ↔
      r.orderedOperations.Pairwise fun a b => ¬ SameMethod a.name b.name) ∧
    ((∀ resource, config.operationsOf resource = []) → (m.operations.map (·.identifier)).Nodup) := by
  have hidentifiers := identifiers_of_ofRegistry hm
  refine ⟨fun v hv => ?_, ?_, fun hnone => ?_⟩
  · have hmem := List.mem_map_of_mem (f := (·.identifier)) hv
    rw [hidentifiers] at hmem
    obtain ⟨name, -, hname⟩ := List.mem_map.1 hmem
    exact hname ▸ clientIdentifier_not_mem_clientMembers name
  · rw [hidentifiers, List.map_map, List.Nodup, List.pairwise_map]
    simp only [Function.comp_apply, ne_eq, clientIdentifier_eq_iff]
  · rw [hidentifiers]
    refine List.Nodup.map_on (fun a ha b hb h => ?_) (Extraction.nodup_orderedOperationNames hr)
    have hbuiltIn := mem_builtInNames_of_extract hr hnone
    exact List.inj_on_of_nodup_map builtInNames_checked (hbuiltIn a ha) (hbuiltIn b hb) h

theorem methods_distinct_redeclared :
    ∃ r m, extract {} Extraction.redeclared.number = .ok r ∧ Model.ofRegistry {} r = .ok m ∧
      (m.operations.map (·.identifier)).Nodup ∧
      r.orderedOperations.Pairwise fun a b => ¬ SameMethod a.name b.name := by
  obtain ⟨r, m, hr, hm, -⟩ := ofRegistry_redeclared
  obtain ⟨-, hiff, hbuiltIn⟩ := methods_distinct_iff hr hm
  have hnodup := hbuiltIn fun _ => rfl
  exact ⟨r, m, hr, hm, hnodup, hiff.1 hnodup⟩

def lowercaseRule : Config :=
  { operations := [("champion", [("/champion/\x7bid\x7d", { name := "champions" })])] }

open RawNode in
def twoChampions : RawNode :=
  branch "document" [] [
    resource "resource_1" "champion-v1.2" [
      operation "/champion" [responseClasses [returnValue "List[long]"]],
      operation "/champion/\x7bid\x7d" [responseClasses [returnValue "long"]]]]

theorem methods_clash :
    ∃ r m, extract lowercaseRule twoChampions.number = .ok r ∧
      Model.ofRegistry lowercaseRule r = .ok m ∧ ¬ (m.operations.map (·.identifier)).Nodup := by
  have hrun : (extract lowercaseRule twoChampions.number >>= Model.ofRegistry lowercaseRule).toOption.map
      (fun m => m.operations.map (·.identifier)) = some ["champions", "champions"] := by
    decide +kernel
  obtain ⟨m, hm, hidentifiers⟩ := Outcome.exists_ok_of_map_toOption hrun
  obtain ⟨r, hr, hmodel⟩ := Outcome.bind_eq_ok.1 hm
  refine ⟨r, m, hr, hmodel, ?_⟩
  rw [hidentifiers]
  decide

end TypedClient.Source
