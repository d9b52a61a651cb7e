import TypedClient.Proofs.Extraction.Names
import TypedClient.Proofs.Extraction.Origins
import TypedClient.Proofs.Source.TypeExpr
import TypedClient.Proofs.Source.Views

namespace TypedClient

theorem ValueType.isMap_iff {t : ValueType} : t.isMap ↔ ∃ key element, t = .map key element := by
  cases t <;> simp [isMap]

theorem Operation.resultType_of_mapKey {op : Operation} {k : Scalar} {key element : ValueType}
    (hk : op.mapKey = some k) (ht : op.returnType = .map key element) :
    op.resultType = .map (.scalar k) element := by
  simp [resultType, hk, ht, ValueType.withKey?]

namespace Extraction

theorem checkMapKey_eq_ok {rule : OperationRule} {t : ValueType} :
    checkMapKey rule t = .ok () ↔ ∀ k, rule.mapKey = some k → t.isMap ∧ k.canBeKey := by
  unfold checkMapKey
  cases rule.mapKey with
  | none => simp
  | some k => by_cases ht : t.isMap <;> by_cases hk : k.canBeKey <;> simp [ht, hk]

/-- The key that an operation of a registry puts into its result is a key, and the result has a place
for it. -/
theorem OperationAt.resultType {config : Config} {types : String → Option ClassId} {resource : String}
    {n : Document} {op : Operation} (h : OperationAt config types resource n op) {k : Scalar}
    (hk : op.mapKey = some k) : k.canBeKey ∧ ∃ key element, op.returnType = .map key element ∧
      op.resultType = .map (.scalar k) element := by
  obtain ⟨hmap, hkey⟩ := checkMapKey_eq_ok.1 h.mapKey k hk
  obtain ⟨key, element, ht⟩ := ValueType.isMap_iff.1 hmap
  exact ⟨hkey, key, element, ht, op.resultType_of_mapKey hk ht⟩

end Extraction

namespace Source

variable {r : Registry}

theorem rawExpr_of_none {op : Operation} (h : op.mapKey = none) : rawExpr r op = .ok none := by
  simp [rawExpr, h, pure, Except.pure]

theorem rawExpr_of_map {op : Operation} {k : Scalar} {key element : ValueType} {e : TypeExpr}
    (hk : op.mapKey = some k) (ht : op.resultType = .map key element)
    (he : typeExpr r element = .ok e) : rawExpr r op = .ok (some (.map (.path "String") e)) := by
  rw [rawExpr, hk, ht]
  exact Outcome.bind_eq_ok.2 ⟨e, he, rfl⟩

variable {config : Config} {doc : Document}

/-- The operations of an extracted registry have different names, each has the rule that the operation
table knows for its path, and this rule decides its result from there to the source: a key replaces
that of a map, and then the source decodes the map with keys of text and returns it with these keys. -/
theorem extract_resultTypes (h : extract config doc = .ok r) :
    (r.orderedOperations.map (·.name)).Nodup ∧
    ∀ op ∈ r.operations,
      (∃ resource, r.resourceOf? op = some resource ∧
        OperationTable.lookup config resource.id op.path.template = .ok ⟨op.name, op.mapKey⟩) ∧
      (∀ k, op.mapKey = some k → k ≠ .float32 ∧ k ≠ .float64 ∧
        ∃ key element, op.returnType = .map key element ∧
          op.resultType = .map (.scalar k) element) ∧
      ∀ v, operationView r op = .ok v →
        (v.rawType.isSome ↔ op.mapKey.isSome) ∧
        ∀ k, op.mapKey = some k → ∃ key element e, op.returnType = .map key element ∧
          typeExpr r element = .ok e ∧ v.rawType = some (.map (.path "String") e) ∧
          v.resultType = .map (.path (scalarName k)) e := by
  refine ⟨Extraction.nodup_orderedOperationNames h, fun op hop => ?_⟩
  obtain ⟨resource, n, hresource, hat⟩ := Extraction.exists_operationAt h hop
  refine ⟨⟨resource, hresource, hat.rule⟩, fun k hk => ?_, fun v hv => ?_⟩
  · obtain ⟨hkey, hmap⟩ := hat.resultType hk
    exact ⟨(Scalar.canBeKey_iff.1 hkey).1, (Scalar.canBeKey_iff.1 hkey).2, hmap⟩
  · obtain ⟨-, -, hraw, hresult⟩ := operationView_eq_ok hv
    cases hk : op.mapKey with
    | none =>
      rw [rawExpr_of_none hk, Except.ok.injEq] at hraw
      rw [← hraw]
      exact ⟨by simp, fun k hk => by cases hk⟩
    | some k =>
      obtain ⟨hkey, key, element, ht, hmap⟩ := hat.resultType hk
      rw [hmap] at hresult
      obtain ⟨k', e, hk', he, hresult⟩ := typeExpr_map_eq_ok.1 hresult
      rw [keyExpr_scalar hkey, Except.ok.injEq] at hk'
      rw [rawExpr_of_map hk hmap he, Except.ok.injEq] at hraw
      rw [← hraw, hresult, ← hk']
      refine ⟨by simp, fun k'' hk'' => ?_⟩
      cases hk''
      exact ⟨key, element, e, ht, he, rfl, rfl⟩

theorem extract_resultTypes_redeclared :
    ∃ r op v, extract {} Extraction.redeclared.number = .ok r ∧ op ∈ r.operations ∧
      operationView r op = .ok v ∧ op.mapKey = some .int64 ∧
      ∃ e, v.rawType = some (.map (.path "String") e) ∧ v.resultType = .map (.path "i64") e := by
  obtain ⟨r, m, hr, hm, hkeys⟩ := ofRegistry_redeclared
  have hkey : some .int64 ∈ r.operations.map (·.mapKey) := hkeys ▸ List.mem_cons_self
  obtain ⟨op, hop, hkey⟩ := List.mem_map.1 hkey
  have hordered := (Extraction.orderedOperations_perm hr).symm.subset hop
  obtain ⟨v, -, hv⟩ := Outcome.exists_mem_of_forall₂ (ofRegistry_eq_ok hm).2.2 hordered
  obtain ⟨-, -, hagree⟩ := (extract_resultTypes hr).2 op hop
  obtain ⟨_, _, e, -, -, hraw, hresult⟩ := (hagree v hv).2 .int64 hkey
  exact ⟨r, op, v, hr, hop, hv, hkey, e, hraw, hresult⟩

end Source

end TypedClient
