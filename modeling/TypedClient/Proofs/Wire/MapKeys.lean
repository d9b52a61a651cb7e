import Mathlib.Data.List.Induction
import Mathlib.Data.List.Nodup
import Mathlib.Data.List.Perm.Subperm
import TypedClient.Proofs.Outcome
import TypedClient.Wire.MapKey

namespace TypedClient.Wire

variable {κ α : Type} [DecidableEq κ]

theorem keys_bindKey (key : κ) (value : α) (ps : List (κ × α)) :
    (bindKey key value ps).map Prod.fst =
      ps.map Prod.fst ++ if key ∈ ps.map Prod.fst then [] else [key] := by
  induction ps with
  | nil => simp [bindKey]
  | cons p ps ih =>
    by_cases h : p.1 = key
    · simp [bindKey, h]
    · have hmem : key ∈ (p :: ps).map Prod.fst ↔ key ∈ ps.map Prod.fst := by
        simp [List.mem_cons, eq_comm (b := p.1), h]
      simp only [bindKey, if_neg h, List.map_cons, ih, ← hmem, List.cons_append]

theorem bindKey_of_new {key : κ} {value : α} {ps : List (κ × α)} (h : key ∉ ps.map Prod.fst) :
    bindKey key value ps = ps ++ [(key, value)] := by
  induction ps with
  | nil => rfl
  | cons p ps ih =>
    rw [List.map_cons, List.mem_cons, not_or] at h
    rw [bindKey, if_neg (Ne.symm h.1), ih h.2, List.cons_append]

theorem mem_bindKey {key : κ} {value : α} {ps : List (κ × α)} {p : κ × α}
    (h : p ∈ bindKey key value ps) : p = (key, value) ∨ p ∈ ps := by
  induction ps with
  | nil => exact .inl (List.mem_singleton.1 h)
  | cons q ps ih =>
    by_cases hq : q.1 = key
    · rw [bindKey, if_pos hq, List.mem_cons] at h
      exact h.imp_right (List.mem_cons_of_mem q)
    · rw [bindKey, if_neg hq, List.mem_cons] at h
      rcases h with rfl | h
      · exact .inr List.mem_cons_self
      · exact (ih h).imp_right (List.mem_cons_of_mem q)

def bindAll (qs : List (κ × α)) : List (κ × α) := qs.foldl (fun read q => bindKey q.1 q.2 read) []

theorem bindAll_append_singleton (qs : List (κ × α)) (q : κ × α) :
    bindAll (qs ++ [q]) = bindKey q.1 q.2 (bindAll qs) := by
  rw [bindAll, List.foldl_append]
  rfl

theorem mem_keys_bindKey {key k : κ} {value : α} {ps : List (κ × α)} :
    k ∈ (bindKey key value ps).map Prod.fst ↔ k ∈ ps.map Prod.fst ∨ k = key := by
  rw [keys_bindKey, List.mem_append]
  by_cases h : key ∈ ps.map Prod.fst
  · rw [if_pos h]
    refine ⟨fun hk => .inl (hk.resolve_right List.not_mem_nil), ?_⟩
    rintro (hk | rfl)
    · exact .inl hk
    · exact .inl h
  · rw [if_neg h, List.mem_singleton]

theorem mem_keys_bindAll {qs : List (κ × α)} {k : κ} :
    k ∈ (bindAll qs).map Prod.fst ↔ k ∈ qs.map Prod.fst := by
  induction qs using List.reverseRecOn with
  | nil => rfl
  | append_singleton qs q ih =>
    rw [bindAll_append_singleton, mem_keys_bindKey, ih, List.map_append, List.mem_append,
      List.map_singleton, List.mem_singleton]

theorem nodup_keys_bindAll (qs : List (κ × α)) : ((bindAll qs).map Prod.fst).Nodup := by
  induction qs using List.reverseRecOn with
  | nil => exact List.nodup_nil
  | append_singleton qs q ih =>
    rw [bindAll_append_singleton, keys_bindKey]
    by_cases hq : q.1 ∈ (bindAll qs).map Prod.fst
    · rwa [if_pos hq, List.append_nil]
    · rw [if_neg hq]
      refine List.nodup_append.2 ⟨ih, by simp, fun k hk k' hk' => ?_⟩
      rintro rfl
      exact hq (List.mem_singleton.1 hk' ▸ hk)

theorem mem_of_mem_bindAll {qs : List (κ × α)} {p : κ × α} (h : p ∈ bindAll qs) : p ∈ qs := by
  induction qs using List.reverseRecOn with
  | nil => exact h
  | append_singleton qs q ih =>
    rw [bindAll_append_singleton] at h
    rw [List.mem_append, List.mem_singleton]
    exact (mem_bindKey h).symm.imp_left ih

theorem bindAll_of_nodup {qs : List (κ × α)} (h : (qs.map Prod.fst).Nodup) : bindAll qs = qs := by
  induction qs using List.reverseRecOn with
  | nil => rfl
  | append_singleton qs q ih =>
    rw [List.map_append, List.nodup_append] at h
    have hnew : q.1 ∉ qs.map Prod.fst := fun hq => h.2.2 q.1 hq q.1 List.mem_cons_self rfl
    rw [bindAll_append_singleton, ih h.1, bindKey_of_new hnew]

theorem length_bindAll_eq_iff {qs : List (κ × α)} :
    (bindAll qs).length = qs.length ↔ (qs.map Prod.fst).Nodup := by
  refine ⟨fun h => ?_, fun h => by rw [bindAll_of_nodup h]⟩
  have hnodup := nodup_keys_bindAll qs
  have hsub : (bindAll qs).map Prod.fst ⊆ qs.map Prod.fst := fun k hk => mem_keys_bindAll.1 hk
  have hlen : (qs.map Prod.fst).length ≤ ((bindAll qs).map Prod.fst).length := by
    simp [h]
  exact (List.Subperm.perm_of_length_le (hnodup.subperm hsub) hlen).nodup_iff.1 hnodup

variable [MapKey κ]

omit [DecidableEq κ] in
theorem readKey_eq_ok {s : String} {k : κ} :
    readKey s = .ok k ↔ (MapKey.parse s : Except KeyFault κ) = .ok k := by
  unfold readKey
  cases (MapKey.parse s : Except KeyFault κ) <;> simp [Except.mapError]

omit [DecidableEq κ] in
theorem readKey_eq_error {s : String} {e : CallError} :
    (readKey s : Except CallError κ) = .error e ↔
      ∃ fault, (MapKey.parse s : Except KeyFault κ) = .error fault ∧
        e = .invalidMapKey s fault.describe := by
  unfold readKey
  cases (MapKey.parse s : Except KeyFault κ) <;> simp [Except.mapError, eq_comm]

/-- Whether an entry is read as a binding. -/
def ReadsAs (p : String × α) (q : κ × α) : Prop :=
  (MapKey.parse p.1 : Except KeyFault κ) = .ok q.1 ∧ p.2 = q.2

/-- The entries are bound one after the other while their keys are read. -/
theorem foldlM_bindKey_eq_ok {ps : List (String × α)} {before read : List (κ × α)} :
    ps.foldlM (fun read p => do return bindKey (← readKey p.1) p.2 read) before =
        (.ok read : Except CallError _) ↔
      ∃ qs, List.Forall₂ ReadsAs ps qs ∧
        read = qs.foldl (fun read q => bindKey q.1 q.2 read) before := by
  induction ps generalizing before with
  | nil =>
    rw [List.foldlM_nil, Outcome.pure_eq_ok, eq_comm]
    simp only [List.forall₂_nil_left_iff, exists_eq_left, List.foldl_nil]
  | cons p ps ih =>
    rw [List.foldlM_cons, Outcome.bind_eq_ok]
    constructor
    · rintro ⟨next, hnext, hrest⟩
      obtain ⟨k, hk, hbind⟩ := Outcome.bind_eq_ok.1 hnext
      rw [Outcome.pure_eq_ok] at hbind
      obtain ⟨qs, hqs, hread⟩ := ih.1 hrest
      exact ⟨(k, p.2) :: qs, .cons ⟨readKey_eq_ok.1 hk, rfl⟩ hqs, by rw [hread, ← hbind]; rfl⟩
    · rintro ⟨_, hall, hread⟩
      obtain ⟨q, qs, ⟨hk, hvalue⟩, hqs, rfl⟩ := List.forall₂_cons_left_iff.1 hall
      refine ⟨bindKey q.1 q.2 before, ?_, ih.2 ⟨qs, hqs, hread⟩⟩
      exact Outcome.bind_eq_ok.2 ⟨q.1, readKey_eq_ok.2 hk, by rw [hvalue]; rfl⟩

theorem rekey_eq_ok {ps : List (String × α)} {read : List (κ × α)} :
    rekey ps = .ok read ↔ ∃ qs, List.Forall₂ ReadsAs ps qs ∧ read = bindAll qs :=
  foldlM_bindKey_eq_ok

/-- The entries are read up to the first whose key is not. -/
theorem exists_of_rekey_eq_error {ps : List (String × α)} {e : CallError}
    (h : (rekey ps : Except CallError (List (κ × α))) = .error e) :
    ∃ p ∈ ps, ∃ fault, (MapKey.parse p.1 : Except KeyFault κ) = .error fault ∧
      e = .invalidMapKey p.1 fault.describe := by
  have hrun : ∀ before, ps.foldlM (fun read p => do return bindKey (← readKey p.1) p.2 read)
      before = (.error e : Except CallError (List (κ × α))) →
      ∃ p ∈ ps, (readKey p.1 : Except CallError κ) = .error e := by
    clear h
    induction ps with
    | nil =>
      intro before h
      cases h
    | cons p ps ih =>
      intro before h
      rw [List.foldlM_cons] at h
      cases hk : (readKey p.1 : Except CallError κ) with
      | error f =>
        rw [hk] at h
        cases h
        exact ⟨p, List.mem_cons_self, hk⟩
      | ok k =>
        rw [hk] at h
        obtain ⟨q, hq, hfail⟩ := ih _ h
        exact ⟨q, List.mem_cons_of_mem p hq, hfail⟩
  obtain ⟨p, hp, hfail⟩ := hrun [] h
  exact ⟨p, hp, readKey_eq_error.1 hfail⟩

omit [DecidableEq κ] in
theorem map_parse_eq {ps : List (String × α)} {qs : List (κ × α)} (h : List.Forall₂ ReadsAs ps qs) :
    ps.map (fun p => (MapKey.parse p.1 : Except KeyFault κ)) = (qs.map Prod.fst).map .ok := by
  induction h with
  | nil => rfl
  | cons hpq _ ih => rw [List.map_cons, List.map_cons, List.map_cons, hpq.1, ih]

/-- A map is read unless one of its keys is not, and the failure names such a key. What is read binds
every key once, and only to values of entries with that key. All entries are kept exactly if no two
keys are read alike. -/
theorem rekey_keeps_entries_iff (ps : List (String × α)) :
    ((∃ e, (rekey ps : Except CallError (List (κ × α))) = .error e) ↔
      ∃ p ∈ ps, ∃ fault, (MapKey.parse p.1 : Except KeyFault κ) = .error fault) ∧
    (∀ e, (rekey ps : Except CallError (List (κ × α))) = .error e →
      ∃ p ∈ ps, ∃ fault, (MapKey.parse p.1 : Except KeyFault κ) = .error fault ∧
        e = .invalidMapKey p.1 fault.describe) ∧
    ∀ read : List (κ × α), rekey ps = .ok read →
      (read.map Prod.fst).Nodup ∧
      (∀ q ∈ read, ∃ p ∈ ps, ReadsAs p q) ∧
      (∀ p ∈ ps, ∃ q ∈ read, (MapKey.parse p.1 : Except KeyFault κ) = .ok q.1) ∧
      ((read.length = ps.length ∧ ∀ p ∈ ps, ∃ q ∈ read, ReadsAs p q) ↔
        (ps.map fun p => (MapKey.parse p.1 : Except KeyFault κ)).Nodup) := by
  refine ⟨⟨?_, ?_⟩, fun e => exists_of_rekey_eq_error, fun read h => ?_⟩
  · rintro ⟨e, h⟩
    obtain ⟨p, hp, fault, hfault, -⟩ := exists_of_rekey_eq_error h
    exact ⟨p, hp, fault, hfault⟩
  · rintro ⟨p, hp, fault, hfault⟩
    cases h : (rekey ps : Except CallError (List (κ × α))) with
    | error e => exact ⟨e, rfl⟩
    | ok read =>
      obtain ⟨qs, hqs, -⟩ := rekey_eq_ok.1 h
      obtain ⟨q, -, hq, -⟩ := Outcome.exists_mem_of_forall₂ hqs hp
      rw [hfault] at hq
      cases hq
  · obtain ⟨qs, hqs, rfl⟩ := rekey_eq_ok.1 h
    have hnodup : (ps.map fun p => (MapKey.parse p.1 : Except KeyFault κ)).Nodup ↔
        (qs.map Prod.fst).Nodup := by
      rw [map_parse_eq hqs]
      exact List.nodup_map_iff fun _ _ => Except.ok.inj
    -- Entries are lost only when the pairs that were read are bound, never while they are read.
    have hlength : (bindAll qs).length = ps.length ↔ (qs.map Prod.fst).Nodup := by
      rw [hqs.length_eq, length_bindAll_eq_iff]
    refine ⟨nodup_keys_bindAll qs, fun q hq => ?_, fun p hp => ?_, ?_⟩
    · exact Outcome.exists_mem_of_forall₂ hqs.flip (mem_of_mem_bindAll hq)
    · obtain ⟨q, hq, hread, -⟩ := Outcome.exists_mem_of_forall₂ hqs hp
      obtain ⟨q', hq', hkey⟩ := List.mem_map.1 (mem_keys_bindAll.2 (List.mem_map_of_mem hq))
      exact ⟨q', hq', by rw [hread, hkey]⟩
    · rw [hnodup, hlength]
      refine ⟨fun h => h.1, fun h => ⟨h, fun p hp => ?_⟩⟩
      rw [bindAll_of_nodup h]
      exact Outcome.exists_mem_of_forall₂ hqs hp

theorem rekey_loses_entry :
    ∃ read : List (Whole 32 × Nat), rekey [("1", 7), ("+1", 7)] = .ok read ∧ read.length ≠ 2 := by
  exact ⟨[(⟨1⟩, 7)], by decide, by decide⟩

theorem rekey_keeps_entries_three :
    ∃ read : List (Whole 32 × Nat), rekey [("-1", 7), ("0", 8), ("+1", 9)] = .ok read ∧
      read.length = 3 := by
  have h : (rekey [("-1", 7), ("0", 8), ("+1", 9)] : Except CallError (List (Whole 32 × Nat))) =
      .ok [(⟨-1⟩, 7), (⟨0⟩, 8), (⟨1⟩, 9)] := by decide
  exact ⟨_, h, (((rekey_keeps_entries_iff _).2.2 _ h).2.2.2.2 (by decide)).1⟩

end TypedClient.Wire
