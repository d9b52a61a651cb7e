import Mathlib.Data.List.Basic
import TypedClient.Registry.Build

namespace TypedClient.Registry

variable {r : Registry} {c : ResponseClass}

theorem declare_cases (r : Registry) (c : ResponseClass) :
    ((∀ old ∈ r.classes, old.name ≠ c.name) ∧
      r.declare c = .ok ({ r with classes := r.classes ++ [c] }, .added r.classes.length)) ∨
    ∃ old i, r.classes[i]? = some old ∧ old.name = c.name ∧
      ((old.resource = c.resource ∧ old.rawName = c.rawName ∧ r.declare c = .ok (r, .known i)) ∨
        (¬(old.resource = c.resource ∧ old.rawName = c.rawName) ∧
          r.declare c =
            .error (.classNameCollision c.name (r.identity old) (r.identity c)))) := by
  unfold declare
  cases hfind : r.classes.zipIdx.find? (fun p => p.1.name = c.name) with
  | none =>
    refine .inl ⟨fun old hold => ?_, rfl⟩
    obtain ⟨i, hi⟩ := List.mem_iff_getElem?.1 hold
    simpa using List.find?_eq_none.1 hfind (old, i) (List.mk_mem_zipIdx_iff_getElem?.2 hi)
  | some p =>
    obtain ⟨old, i⟩ := p
    have hname : old.name = c.name := by simpa using List.find?_some hfind
    have hi := List.mk_mem_zipIdx_iff_getElem?.1 (List.mem_of_find?_eq_some hfind)
    refine .inr ⟨old, i, hi, hname, ?_⟩
    by_cases hsame : old.resource = c.resource ∧ old.rawName = c.rawName
    · exact .inl ⟨hsame.1, hsame.2, if_pos hsame⟩
    · exact .inr ⟨hsame, if_neg hsame⟩

theorem classNamed?_eq (r : Registry) :
    r.classNamed? = fun name => (r.classes.map (·.name)).findIdx? (· = name) := by
  funext name
  rw [classNamed?, List.findIdx?_map]
  rfl

end TypedClient.Registry
