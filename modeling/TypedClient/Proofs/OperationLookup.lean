import Mathlib.Data.List.Pairwise
import TypedClient.Proofs.OperationTable
import TypedClient.Proofs.Text.ByteOrder

namespace TypedClient

/-- The configuration with one more rule, in place of one for the same ending. -/
def Config.withRule (config : Config) (resource suffix : String) (rule : OperationRule) : Config :=
  let rules : Table OperationRule := (config.operations.lookup resource).getD []
  { config with operations := config.operations.insert resource (rules.insert suffix rule) }

namespace OperationTable

def IsKnown (config : Config) (resource suffix : String) : Prop :=
  suffix ∈ (builtIn resource).map Prod.fst ∨
    ∃ rules, config.operations.lookup resource = some rules ∧ suffix ∈ rules.map Prod.fst

/-- The rule known for an ending: a configured one, the last if there are several, or else a built-in one. -/
def ruleOf? (config : Config) (resource suffix : String) : Option OperationRule :=
  ((config.operations.lookup resource).bind fun rules => rules.reverse.lookup suffix).or
    ((builtIn resource).lookup suffix)

def ByteLt (s t : String) : Prop := Text.Utf8.encode s.toList < Text.Utf8.encode t.toList

section BuiltIn

variable {resource s t path : String}

/-- Neither ending ends the other one. -/
def Apart (s t : String) : Prop := ¬s.toList <:+ t.toList ∧ ¬t.toList <:+ s.toList

instance : DecidableRel Apart := fun s t =>
  inferInstanceAs (Decidable (¬s.toList <:+ t.toList ∧ ¬t.toList <:+ s.toList))

instance : Std.Symm Apart := ⟨fun _ _ => And.symm⟩

theorem builtIn_checked :
    ∀ resource ∈ builtInResources, ((builtIn resource).map Prod.fst).Pairwise Apart := by
  decide +kernel

theorem pairwise_apart (resource : String) : ((builtIn resource).map Prod.fst).Pairwise Apart := by
  cases h : builtIn resource with
  | nil => exact .nil
  | cons p ps =>
    have hp : p ∈ builtIn resource := h ▸ List.mem_cons_self
    exact h ▸ builtIn_checked resource (mem_builtInResources hp)

theorem nodup_builtIn (resource : String) : ((builtIn resource).map Prod.fst).Nodup :=
  (pairwise_apart resource).imp fun {s t} hapart => fun heq : s = t =>
    hapart.1 (heq ▸ s.toList.suffix_refl)

/-- Of two endings of one path one ends the other. -/
theorem eq_of_ends (hs : s ∈ (builtIn resource).map Prod.fst) (ht : t ∈ (builtIn resource).map Prod.fst)
    (hsuffix : s.toList <:+ path.toList) (htsuffix : t.toList <:+ path.toList) : s = t := by
  by_contra hne
  have hapart := (pairwise_apart resource).forall hs ht hne
  rcases List.suffix_or_suffix_of_suffix hsuffix htsuffix with h | h
  · exact hapart.1 h
  · exact hapart.2 h

end BuiltIn

section Known

variable {config : Config} {resource path suffix : String} {rule : OperationRule}

theorem get?_known : (known config resource).get? suffix = ruleOf? config resource suffix := by
  rw [known, Table.get?_merge, Table.get?_ofList, Table.lookup_reverse_of_nodup (nodup_builtIn resource),
    ruleOf?, Config.operationsOf, Table.get?]
  cases config.operations.lookup resource <;> rfl

theorem sorted_known (config : Config) (resource : String) : Table.Sorted (known config resource) :=
  Table.sorted_merge (Table.sorted_ofList _)

theorem mem_known_iff : (suffix, rule) ∈ known config resource ↔ ruleOf? config resource suffix = some rule := by
  rw [← get?_known, Table.get?_eq_some_iff (sorted_known config resource)]

theorem isSome_ruleOf?_iff : (ruleOf? config resource suffix).isSome ↔ IsKnown config resource suffix := by
  rw [ruleOf?, Option.isSome_or, Bool.or_eq_true, Table.isSome_lookup_iff, IsKnown, or_comm]
  cases config.operations.lookup resource <;> simp

theorem ends_iff {path suffix : String} : ends path suffix ↔ suffix.toList <:+ path.toList :=
  List.isSuffixOf_iff_suffix

theorem mem_fitting_iff : (suffix, rule) ∈ fitting config resource path ↔
    ruleOf? config resource suffix = some rule ∧ suffix.toList <:+ path.toList := by
  rw [fitting, List.mem_filter, mem_known_iff, ends_iff]

theorem sorted_fitting (config : Config) (resource path : String) :
    Table.Sorted (fitting config resource path) := (sorted_known config resource).filter _

theorem mem_keys_fitting_iff : suffix ∈ (fitting config resource path).map Prod.fst ↔
    IsKnown config resource suffix ∧ suffix.toList <:+ path.toList := by
  rw [List.mem_map, ← isSome_ruleOf?_iff, Option.isSome_iff_exists]
  constructor
  · rintro ⟨⟨s, rule⟩, hmem, rfl⟩
    obtain ⟨hrule, hends⟩ := mem_fitting_iff.1 hmem
    exact ⟨⟨rule, hrule⟩, hends⟩
  · rintro ⟨⟨rule, hrule⟩, hends⟩
    exact ⟨(suffix, rule), mem_fitting_iff.2 ⟨hrule, hends⟩, rfl⟩

/-- Code points are ordered as their bytes are. -/
theorem pairwise_keys_fitting (config : Config) (resource path : String) :
    ((fitting config resource path).map Prod.fst).Pairwise ByteLt :=
  List.pairwise_map.2 <| (sorted_fitting config resource path).imp fun hlt =>
    Text.Utf8.encode_lt_encode (String.lt_iff.1 hlt)

theorem eq_of_isKnown {s t : String}
    (hnone : ∀ rules, config.operations.lookup resource = some rules → rules = [])
    (hs : IsKnown config resource s ∧ s.toList <:+ path.toList)
    (ht : IsKnown config resource t ∧ t.toList <:+ path.toList) : s = t := by
  have hbuiltIn {s : String} (h : IsKnown config resource s) : s ∈ (builtIn resource).map Prod.fst :=
    h.resolve_right fun ⟨rules, hrules, hmem⟩ => by
      rw [hnone rules hrules] at hmem
      exact List.not_mem_nil hmem
  exact eq_of_ends (hbuiltIn hs.1) (hbuiltIn ht.1) hs.2 ht.2

theorem length_fitting_le_one (path : String)
    (hnone : ∀ rules, config.operations.lookup resource = some rules → rules = []) :
    (fitting config resource path).length ≤ 1 := by
  rcases hfit : fitting config resource path with _ | ⟨p, _ | ⟨q, ps⟩⟩
  · exact Nat.zero_le 1
  · exact Nat.le_refl 1
  · have hnodup := Table.nodup_keys (sorted_fitting config resource path)
    have hkey {r : String × OperationRule} (h : r ∈ p :: q :: ps) :
        IsKnown config resource r.1 ∧ r.1.toList <:+ path.toList :=
      mem_keys_fitting_iff.1 (hfit ▸ List.mem_map_of_mem h)
    have hpq : p.1 = q.1 := eq_of_isKnown hnone (hkey List.mem_cons_self)
      (hkey (List.mem_cons_of_mem p List.mem_cons_self))
    rw [hfit, List.map_cons, List.map_cons, hpq] at hnodup
    exact absurd List.mem_cons_self (List.nodup_cons.1 hnodup).1

end Known

section WithRule

variable {config : Config} {resource path r s suffix : String} {rule : OperationRule}

theorem lookup_withRule : (config.withRule r s rule).operations.lookup resource =
    if resource = r then some (((config.operations.lookup r).getD []).insert s rule : Table OperationRule)
    else config.operations.lookup resource :=
  Table.get?_insert

theorem ruleOf?_withRule (h : resource ≠ r ∨ suffix ≠ s) :
    ruleOf? (config.withRule r s rule) resource suffix = ruleOf? config resource suffix := by
  rw [ruleOf?, lookup_withRule]
  split
  · rename_i heq
    rw [Option.bind_some, Table.lookup_reverse_insert (h.resolve_left (not_not_intro heq)), ← heq, ruleOf?]
    cases config.operations.lookup resource <;> rfl
  · rw [ruleOf?]

theorem fitting_withRule (h : resource ≠ r ∨ ¬s.toList <:+ path.toList) :
    fitting (config.withRule r s rule) resource path = fitting config resource path := by
  apply Table.ext_of_mem (sorted_fitting _ resource path) (sorted_fitting config resource path)
  intro p
  rw [mem_fitting_iff, mem_fitting_iff]
  refine and_congr_left fun hends => ?_
  have hother : resource ≠ r ∨ p.1 ≠ s := h.imp_right fun hs heq => hs (heq ▸ hends)
  rw [ruleOf?_withRule hother]

end WithRule

/-- A path has the rule of the one known ending that fits it. If nothing is configured for its resource, no
path is ambiguous; a rule that is configured for other paths does not matter to it. -/
theorem lookup_decided (config : Config) (resource path : String) :
    (∃ suffixes : List String, suffixes.Pairwise ByteLt ∧
      (∀ s, s ∈ suffixes ↔ IsKnown config resource s ∧ s.toList <:+ path.toList) ∧
      ((∃ s rule, suffixes = [s] ∧ ruleOf? config resource s = some rule ∧
          lookup config resource path = .ok rule) ∨
        (suffixes = [] ∧ lookup config resource path = .error (.unknownOperation resource path)) ∨
        (2 ≤ suffixes.length ∧
          lookup config resource path = .error (.ambiguousOperation resource path suffixes)))) ∧
    ((∀ rules, config.operations.lookup resource = some rules → rules = []) → ∀ r p suffixes,
      lookup config resource path ≠ .error (.ambiguousOperation r p suffixes)) ∧
    ∀ r s rule, (resource ≠ r ∨ ¬s.toList <:+ path.toList) →
      lookup (config.withRule r s rule) resource path = lookup config resource path := by
  refine ⟨⟨(fitting config resource path).map Prod.fst, pairwise_keys_fitting config resource path,
    fun s => mem_keys_fitting_iff, ?_⟩, ?_, ?_⟩
  · rw [lookup]
    rcases hfit : fitting config resource path with _ | ⟨⟨s, rule⟩, _ | ⟨q, ps⟩⟩
    · exact .inr (.inl ⟨rfl, rfl⟩)
    · have hmem : (s, rule) ∈ fitting config resource path := hfit ▸ List.mem_cons_self
      exact .inl ⟨s, rule, rfl, (mem_fitting_iff.1 hmem).1, rfl⟩
    · exact .inr (.inr ⟨Nat.le_add_left 2 _, rfl⟩)
  · intro hnone r p suffixes
    have hlength := length_fitting_le_one path hnone
    rw [lookup]
    rcases hfit : fitting config resource path with _ | ⟨p, _ | ⟨q, ps⟩⟩
    · intro h; cases h
    · intro h; cases h
    · rw [hfit] at hlength
      exact absurd hlength (Nat.not_le.2 (Nat.le_add_left 2 _))
  · intro r s rule h
    rw [lookup, lookup, fitting_withRule h]

theorem lookup_decided_champion :
    lookup (Config.withRule {} "champion" "/champion/\x7bid\x7d" { name := "Hero" }) "champion"
        "/v1.2/champion/\x7bid\x7d" = .ok { name := "Hero" } ∧
      lookup (Config.withRule {} "champion" "\x7bid\x7d" { name := "Any" }) "champion"
        "/v1.2/champion/\x7bid\x7d" = .error (.ambiguousOperation "champion" "/v1.2/champion/\x7bid\x7d"
          ["/champion/\x7bid\x7d", "\x7bid\x7d"]) ∧
      (∀ r p suffixes, lookup (Config.withRule {} "summoner" "\x7bid\x7d" { name := "Any" }) "champion"
        "/v1.2/champion/\x7bid\x7d" ≠ .error (.ambiguousOperation r p suffixes)) ∧
      lookup (Config.withRule {} "champion" "\x7bid\x7d" { name := "Any" }) "champion" "/v1.2/champion" =
        lookup {} "champion" "/v1.2/champion" := by
  refine ⟨by decide +kernel, by decide +kernel, ?_, ?_⟩
  · exact (lookup_decided (Config.withRule {} "summoner" "\x7bid\x7d" _) "champion" _).2.1 nofun
  · exact (lookup_decided {} "champion" "/v1.2/champion").2.2 _ _ _ (.inr (by decide))

end OperationTable

end TypedClient
