import Mathlib.Data.List.Perm.Basic
import TypedClient.Region

namespace TypedClient.Region

/-- What numbering leaves of a region. -/
def unnumbered (r : Region) : Region := { r with number := 0 }

theorem map_unnumbered_numberFrom (next : Int) (rs : List Region) :
    (numberFrom next rs).map unnumbered = rs.map unnumbered := by
  induction rs generalizing next with
  | nil => rfl
  | cons r rs ih =>
    rw [numberFrom]
    split
    · rw [List.map_cons, ih, List.map_cons]
    · rw [List.map_cons, ih, List.map_cons]
      rfl

theorem map_unnumbered_numberAll (rs : List Region) :
    ((numberAll rs).map unnumbered).Perm (rs.map unnumbered) := by
  rw [numberAll, map_unnumbered_numberFrom]
  exact (List.mergeSort_perm rs _).map _

end TypedClient.Region
