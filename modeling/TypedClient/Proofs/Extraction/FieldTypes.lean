import TypedClient.Extraction.Classes
import TypedClient.Proofs.Outcome
import TypedClient.Proofs.TypeGrammar

namespace TypedClient

/-- Types that refer to classes, and to types of the support library, behind a pointer only. -/
inductive ValueType.Indirect : ValueType → Prop
  | scalar (s : Scalar) : Indirect (.scalar s)
  | dynamicMap : Indirect .dynamicMap
  | list {element : ValueType} (h : Indirect element) : Indirect (.list element)
  | map {key element : ValueType} (hk : Indirect key) (he : Indirect element) :
    Indirect (.map key element)
  | toClass (c : ClassId) : Indirect (.pointer (.reference c))
  | spellRange : Indirect (.pointer (.external "SpellRange"))

namespace Extraction

variable {config : Config} {types : String → Option ClassId}

variable (config types) in
/-- A property of what texts denote, and of the types that replace it. -/
structure OfFieldTypes (P : ValueType → Prop) : Prop where
  denoted : ∀ {resource : String} {text : List Char} {t : ValueType},
    TypeText.Denotes config types resource text t → P t
  effect : P (.list (.list (.scalar .float64)))
  range : P (.pointer (.external "SpellRange"))
  narrow : P (.scalar .int32)

namespace OfFieldTypes

variable {P : ValueType → Prop}

theorem resolve (h : OfFieldTypes config types P) {resource : String} {text : List Char}
    {t : ValueType} (ht : TypeText.resolve config types resource text = .ok t) : P t := by
  have hfits := TypeText.fits_resolve config types resource text
  rw [ht] at hfits
  exact h.denoted hfits

theorem fieldType? (h : OfFieldTypes config types P) {rawClass rawField : String} {t : ValueType}
    (ht : Corrections.fieldType? rawClass rawField = some t) : P t := by
  unfold Corrections.fieldType? at ht
  split at ht
  · split at ht
    · cases ht
      exact h.effect
    · cases ht
      exact h.range
    · cases ht
  · cases ht

theorem mendIdWidth (h : OfFieldTypes config types P) {resource rawClass rawField : String}
    {t : ValueType} (ht : P t) : P (Corrections.mendIdWidth config resource rawClass rawField t) := by
  unfold Corrections.mendIdWidth
  split
  · exact h.narrow
  · exact ht

theorem fieldType (h : OfFieldTypes config types P) {c : PendingClass} {rawName typeText : String}
    {t : ValueType} (ht : Extraction.fieldType config types c rawName typeText = .ok t) : P t := by
  unfold Extraction.fieldType at ht
  split at ht
  · rename_i fixed hfixed
    cases ht
    exact h.fieldType? hfixed
  · obtain ⟨read, hread, rfl⟩ := Outcome.map_eq_ok.1 ht
    exact h.mendIdWidth (h.resolve hread)

/-- A field belongs to the class that it was read for. -/
theorem readField (h : OfFieldTypes config types P) {c : PendingClass} {row : Document} {f : Field}
    (hf : Extraction.readField config types c row = .ok (some f)) : f.owner = c.id ∧ P f.type := by
  unfold Extraction.readField at hf
  split at hf
  · split at hf
    · cases hf
    · obtain ⟨t, ht, hfield⟩ := Outcome.map_eq_ok.1 hf
      cases hfield
      exact ⟨rfl, h.fieldType ht⟩
  · cases hf

theorem readFields (h : OfFieldTypes config types P) {c : PendingClass} {fields : List Field}
    (hfields : Extraction.readFields config types c = .ok fields) :
    ∀ f ∈ fields, f.owner = c.id ∧ P f.type := by
  obtain ⟨read, hread, rfl⟩ := Outcome.map_eq_ok.1 hfields
  intro f hf
  obtain ⟨o, ho, rfl⟩ := List.mem_filterMap.1 hf
  obtain ⟨row, -, hrow⟩ := Outcome.exists_of_mem_mapM hread ho
  exact h.readField hrow

end OfFieldTypes

theorem indirect_of_denotes {resource : String} {text : List Char} {t : ValueType}
    (h : TypeText.Denotes config types resource text t) : t.Indirect := by
  induction h with
  | scalar _ => exact .scalar _
  | dynamicMap _ => exact .dynamicMap
  | list _ _ _ ih => exact .list ih
  | map _ _ _ ihk ihe => exact .map ihk ihe
  | name _ _ _ _ _ => exact .toClass _

theorem ofFieldTypes_indirect : OfFieldTypes config types ValueType.Indirect where
  denoted := indirect_of_denotes
  effect := .list (.list (.scalar _))
  range := .spellRange
  narrow := .scalar _

end Extraction

end TypedClient
