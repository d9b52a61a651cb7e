import TypedClient.Extraction.Extract

namespace TypedClient

/-- The configuration with another path of the support library and another way with the width of ids. -/
def Config.withSettings (config : Config) (path : String) (keep : Bool) : Config :=
  { config with runtimePath := path, keepIdWidth := keep }

variable {config : Config} {path : String} {keep : Bool}

theorem TypeText.resolve_withSettings (types : String → Option ClassId) (resource : String)
    (text : List Char) :
    resolve (config.withSettings path keep) types resource text = resolve config types resource text := by
  -- Both sides go the same way, to shorter texts and in the end to names of classes.
  induction hn : text.length using Nat.strongRecOn generalizing text with
  | ind n ih =>
  subst hn
  have htrim := Text.length_trim_le text
  rw [resolve, resolve]
  split
  · rfl
  · split
    · rfl
    · split
      · rename_i inner hlist
        have hlength : inner.length < text.length := by
          rcases Option.or_eq_some_iff.1 hlist with h | ⟨-, h⟩
          · exact Nat.lt_of_lt_of_le (length_of_argument? h) htrim
          · exact Nat.lt_of_lt_of_le (length_of_argument? h) htrim
        rw [ih _ hlength inner rfl]
      · split
        · rename_i inner hmap
          split
          · rfl
          · rename_i left right hpair
            have hinner := Nat.lt_of_lt_of_le (length_of_argument? hmap) htrim
            obtain ⟨hleft, hright⟩ := length_of_splitPair hpair
            rw [ih _ (Nat.lt_trans hleft hinner) left rfl, ih _ (Nat.lt_trans hright hinner) right rfl]
        · rfl

namespace Extraction

def Context.withSettings (ctx : Context) (path : String) (keep : Bool) : Context :=
  { ctx with config := ctx.config.withSettings path keep }

variable {ctx : Context}

theorem readParameters_withSettings (table : Document) :
    readParameters (ctx.withSettings path keep) table = readParameters ctx table := by
  have hparameter : readParameter (ctx.withSettings path keep) = readParameter ctx := by
    funext row
    unfold readParameter
    simp only [Context.withSettings, TypeText.resolve_withSettings]
    rfl
  rw [readParameters, readParameters, hparameter]

theorem readReturnType_withSettings (block : Document) :
    readReturnType (ctx.withSettings path keep) block = readReturnType ctx block := by
  unfold readReturnType
  simp only [Context.withSettings, TypeText.resolve_withSettings]
  rfl

theorem readBlock_withSettings (ctx : Context) (path : String) (keep : Bool) :
    readBlock (ctx.withSettings path keep) = readBlock ctx := by
  funext details block
  have hpath : readPathBlock (ctx.withSettings path keep) details block =
      readPathBlock ctx details block := by
    unfold readPathBlock
    simp only [readParameters_withSettings]
    rfl
  unfold readBlock
  simp only [readParameters_withSettings, readReturnType_withSettings, hpath]
  rfl

theorem addEndpoints_withSettings (types : String → Option ClassId) :
    addEndpoints (config.withSettings path keep) types = addEndpoints config types := by
  have hoperation : ∀ resource endpoint n,
      readOperation (config.withSettings path keep) types resource endpoint n =
        readOperation config types resource endpoint n := by
    intro resource endpoint n
    have hblock : ∀ place, readBlock ⟨config.withSettings path keep, types, resource, place⟩ =
        readBlock ⟨config, types, resource, place⟩ := fun place =>
      readBlock_withSettings ⟨config, types, resource, place⟩ path keep
    unfold readOperation
    simp only [hblock]
    rfl
  funext r entry
  unfold addEndpoints addEndpoint
  simp only [hoperation]

theorem declareAll_withSettings : declareAll (config.withSettings path keep) = declareAll config := rfl

theorem resources_withSettings (doc : Document) :
    resources (config.withSettings path keep) doc = resources config doc := by
  have hread : ∀ before ns, readResources (config.withSettings path keep) before ns =
      readResources config before ns := by
    intro before ns
    induction ns generalizing before with
    | nil => rfl
    | cons n ns ih =>
      unfold readResources
      simp only [ih]
      rfl
  unfold resources
  simp only [hread]
  rfl

end Extraction

end TypedClient
