import TypedClient.Proofs.Refusal
import TypedClient.Source.TypeExpr

namespace TypedClient

theorem Scalar.canBeKey_iff {s : Scalar} : s.canBeKey ↔ s ≠ .float32 ∧ s ≠ .float64 := by
  cases s <;> simp [canBeKey]

/-- The keys of the maps in a type, at any depth. -/
def ValueType.mapKeys : ValueType → List ValueType
  | scalar _ | dynamicMap | reference _ | external _ => []
  | list element => element.mapKeys
  | map key element => key :: (key.mapKeys ++ element.mapKeys)
  | pointer t => t.mapKeys

namespace Source

open Outcome (Refuses)

/-- The types of keys that are rendered. -/
def keyTypes : List ValueType := [.scalar .bool, .scalar .int32, .scalar .int64, .scalar .string]

variable {r : Registry}

theorem mem_keyTypes_scalar {s : Scalar} : .scalar s ∈ keyTypes ↔ s.canBeKey := by
  cases s <;> decide

theorem mapKeys_of_mem_keyTypes {t : ValueType} (h : t ∈ keyTypes) : t.mapKeys = [] := by
  have hall : ∀ t ∈ keyTypes, t.mapKeys = [] := by decide
  exact hall t h

theorem keyExpr_scalar {k : Scalar} (hk : k.canBeKey) :
    keyExpr r (.scalar k) = .ok (.path (scalarName k)) := by
  rw [keyExpr, if_pos hk]

theorem keyExpr_refuses (t : ValueType) : Refuses (keyExpr r t) fun e =>
    t ∉ keyTypes ∧ e = .generation (.unhashableKey (t.describe r.className)) := by
  cases t with
  | scalar s =>
    by_cases hs : s.canBeKey
    · rw [keyExpr_scalar hs]
      exact fun e he => he.1 (mem_keyTypes_scalar.2 hs)
    · rw [keyExpr, if_neg hs]
      exact ⟨mt mem_keyTypes_scalar.1 hs, rfl⟩
  | _ => exact ⟨by simp [keyTypes], rfl⟩

variable (r) in
/-- A failure at the key of a map in a type. -/
def UnhashableIn (t : ValueType) (e : Failure) : Prop :=
  ∃ key ∈ t.mapKeys, key ∉ keyTypes ∧ e = .generation (.unhashableKey (key.describe r.className))

theorem not_unhashableIn {t : ValueType} (h : t.mapKeys = []) (e : Failure) :
    ¬ UnhashableIn r t e := by
  rintro ⟨key, hkey, -⟩
  rw [h] at hkey
  exact List.not_mem_nil hkey

theorem typeExpr_map_eq_ok {key element : ValueType} {e : TypeExpr} :
    typeExpr r (.map key element) = .ok e ↔ ∃ k t, keyExpr r key = .ok k ∧
      typeExpr r element = .ok t ∧ e = .map k t := by
  rw [typeExpr, Outcome.bind_eq_ok]
  constructor
  · rintro ⟨k, hk, h⟩
    obtain ⟨t, ht, h⟩ := Outcome.bind_eq_ok.1 h
    exact ⟨k, t, hk, ht, (Outcome.pure_eq_ok.1 h).symm⟩
  · rintro ⟨k, t, hk, ht, rfl⟩
    exact ⟨k, hk, Outcome.bind_eq_ok.2 ⟨t, ht, rfl⟩⟩

theorem typeExpr_refuses (t : ValueType) : Refuses (typeExpr r t) (UnhashableIn r t) := by
  induction t with
  | scalar s => exact not_unhashableIn rfl
  | dynamicMap => exact not_unhashableIn rfl
  | list element ih => exact ih.bind_pure TypeExpr.list
  | map key element _ ih =>
    refine ((keyExpr_refuses key).bind fun k _ => ih.bind_pure (TypeExpr.map k)).widen (fun e he => ?_)
      fun hnone e ⟨k, hk, hkey, he⟩ => ?_
    · rcases he with ⟨hkey, rfl⟩ | ⟨k, hk, hkey, rfl⟩
      · exact ⟨key, List.mem_cons_self, hkey, rfl⟩
      · exact ⟨k, List.mem_cons_of_mem _ (List.mem_append_right _ hk), hkey, rfl⟩
    · -- A key that is rendered has no maps in it, so that none of theirs can be wrong.
      by_cases hk' : key ∈ keyTypes
      · rw [ValueType.mapKeys, mapKeys_of_mem_keyTypes hk', List.nil_append] at hk
        rcases List.mem_cons.1 hk with rfl | hk
        · exact hkey hk'
        · exact hnone e (.inr ⟨k, hk, hkey, he⟩)
      · exact hnone _ (.inl ⟨hk', rfl⟩)
  | reference c => exact not_unhashableIn rfl
  | pointer t ih => exact ih
  | external name => exact not_unhashableIn rfl

theorem fieldExpr_toClass (c : ClassId) : fieldExpr r (.pointer (.reference c)) =
    .ok (.optional (.one "Box" (.path (r.className c)))) := rfl

theorem fieldExpr_eq_bind {t : ValueType} (h : ∀ c, t ≠ .pointer (.reference c)) :
    fieldExpr r t = typeExpr r t >>= fun e => pure e.optional := by
  unfold fieldExpr
  split
  · exact absurd rfl (h _)
  · rfl

theorem fieldExpr_refuses (t : ValueType) : Refuses (fieldExpr r t) (UnhashableIn r t) := by
  by_cases h : ∃ c, t = .pointer (.reference c)
  · obtain ⟨c, rfl⟩ := h
    rw [fieldExpr_toClass]
    exact not_unhashableIn rfl
  · rw [fieldExpr_eq_bind fun c hc => h ⟨c, hc⟩]
    exact (typeExpr_refuses t).bind_pure _

theorem isSendable_iff {t : ValueType} :
    isSendable t ↔ ∃ s, t = .scalar s ∨ t = .list (.scalar s) := by
  unfold isSendable
  split <;> simp_all

theorem parameterExpr_refuses (rawName : String) (t : ValueType) :
    Refuses (parameterExpr r rawName t) fun e => ¬ isSendable t ∧
      e = .generation (.unsendableParameter rawName (t.describe r.className)) := by
  by_cases h : isSendable t
  · have hkeys : t.mapKeys = [] := by
      obtain ⟨s, rfl | rfl⟩ := isSendable_iff.1 h
      · rfl
      · rfl
    rw [parameterExpr, if_pos h]
    refine (typeExpr_refuses t).widen (fun e he => absurd he (not_unhashableIn hkeys e)) ?_
    exact fun _ e he => he.1 h
  · rw [parameterExpr, if_neg h]
    exact ⟨h, rfl⟩

end Source

end TypedClient
