import Mathlib.Data.List.Nodup
import Mathlib.Data.List.Perm.Subperm
import TypedClient.Source.Identifier

namespace TypedClient.Source

/-- Whether a text cannot be an identifier as it stands. -/
def digitLed (s : String) : Bool := s.toList.head?.any Char.isDigit

theorem mem_keywords_of_mem_firmKeywords : ∀ k ∈ firmKeywords, k ∈ keywords := by decide

theorem escapeIdentifier_of_not_mem_keywords {s : String} (h : s ∉ keywords) :
    escapeIdentifier s = if digitLed s then "_" ++ s else s := by
  have hfirm : s ∉ firmKeywords := mt (mem_keywords_of_mem_firmKeywords s) h
  rw [escapeIdentifier, if_neg (mt List.contains_iff_mem.1 hfirm), if_neg (mt List.contains_iff_mem.1 h)]
  rfl

variable {used : List String} {identifier : String}

theorem numbered_injective (identifier : String) : Function.Injective (numbered identifier) := by
  intro m n h
  have hlist := congrArg String.toList h
  simp only [numbered, String.toList_append] at hlist
  have hdigits := congrArg (fun ds => Nat.ofDigitChars 10 ds 0) (List.append_cancel_left hlist)
  simpa [Nat.toString_eq_ofList_toDigits] using hdigits

/-- A search that ends at an identifier in use has found all before it in use. -/
theorem numbered_mem_of_freeFrom_mem {bound n : Nat} (h : freeFrom used identifier bound n ∈ used) :
    ∀ k ≤ bound, numbered identifier (n + k) ∈ used := by
  induction bound generalizing n with
  | zero =>
    intro k hk
    obtain rfl := Nat.le_zero.1 hk
    exact h
  | succ bound ih =>
    rw [freeFrom] at h
    by_cases hn : used.contains (numbered identifier n)
    · rw [if_pos hn] at h
      intro k hk
      cases k with
      | zero => exact List.contains_iff_mem.1 hn
      | succ k =>
        rw [← Nat.succ_add_eq_add_succ]
        exact ih h k (Nat.le_of_succ_le_succ hk)
    · rw [if_neg hn] at h
      exact absurd (List.contains_iff_mem.2 h) hn

theorem free_not_mem (used : List String) (identifier : String) : free used identifier ∉ used := by
  intro h
  rw [free] at h
  by_cases hused : used.contains identifier
  · rw [if_pos hused] at h
    -- More numbered identifiers would be in use than there are identifiers in use.
    have hall := numbered_mem_of_freeFrom_mem h
    have hsubset : (List.range (used.length + 1)).map (fun k => numbered identifier (2 + k)) ⊆ used := by
      intro s hs
      obtain ⟨k, hk, rfl⟩ := List.mem_map.1 hs
      exact hall k (Nat.le_of_lt_succ (List.mem_range.1 hk))
    have hnodup : ((List.range (used.length + 1)).map fun k => numbered identifier (2 + k)).Nodup :=
      List.nodup_range.map fun _ _ hk => Nat.add_left_cancel (numbered_injective identifier hk)
    have hlength := (hnodup.subperm hsubset).length_le
    rw [List.length_map, List.length_range] at hlength
    exact Nat.not_succ_le_self _ hlength
  · rw [if_neg hused] at h
    exact hused (List.contains_iff_mem.2 h)

end TypedClient.Source
