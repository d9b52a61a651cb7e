import TypedClient.Failure
import TypedClient.Naming

namespace TypedClient.TypeText

open Text

def argument? (container : String) (cs : List Char) : Option (List Char) :=
  (dropStart? (container.toList ++ ['[']) cs).bind (dropStop? [']'])

theorem argument?_eq_some_iff {container : String} {cs inner : List Char} :
    argument? container cs = some inner ↔ cs = container.toList ++ '[' :: inner ++ [']'] := by
  simp [argument?, Option.bind_eq_some_iff, dropStart?_eq_some_iff, dropStop?_eq_some_iff]

theorem length_of_argument? {container : String} {cs inner : List Char}
    (h : argument? container cs = some inner) : inner.length < cs.length := by
  rw [argument?_eq_some_iff.1 h]
  simp
  omega

/-- The parts before and after the first comma outside brackets, `depth` brackets being open. A
closing bracket that none precedes ends the search. -/
def splitPairAt : Nat → List Char → Option (List Char × List Char)
  | _, [] => none
  | depth, c :: cs =>
    if c = '[' then (splitPairAt (depth + 1) cs).map fun p => (c :: p.1, p.2)
    else if c = ']' then
      match depth with
      | 0 => none
      | depth + 1 => (splitPairAt depth cs).map fun p => (c :: p.1, p.2)
    else if c = ',' ∧ depth = 0 then some ([], cs)
    else (splitPairAt depth cs).map fun p => (c :: p.1, p.2)

def splitPair : List Char → Option (List Char × List Char) := splitPairAt 0

theorem eq_of_splitPairAt {depth : Nat} {cs : List Char} {p : List Char × List Char}
    (h : splitPairAt depth cs = some p) : cs = p.1 ++ ',' :: p.2 := by
  induction cs generalizing depth p with
  | nil => simp [splitPairAt] at h
  | cons c cs ih =>
    unfold splitPairAt at h
    split at h
    · obtain ⟨q, hq, rfl⟩ := Option.map_eq_some_iff.1 h
      simpa using ih hq
    · split at h
      · split at h
        · simp at h
        · obtain ⟨q, hq, rfl⟩ := Option.map_eq_some_iff.1 h
          simpa using ih hq
      · split at h
        · rename_i hc
          cases h
          simp [hc.1]
        · obtain ⟨q, hq, rfl⟩ := Option.map_eq_some_iff.1 h
          simpa using ih hq

theorem length_of_splitPair {cs a b : List Char} (h : splitPair cs = some (a, b)) :
    a.length < cs.length ∧ b.length < cs.length := by
  rw [eq_of_splitPairAt h]
  simp
  omega

def isName (cs : List Char) : Bool :=
  !cs.isEmpty && !cs.any fun c => c == '[' || c == ']' || c == ','

def resolve (config : Config) (classes : String → Option ClassId) (resource : String)
    (text : List Char) : Except Failure ValueType :=
  let cs := trim text
  let unknown := Failure.unknownType resource (String.ofList cs)
  match Scalar.ofKeyword? (String.ofList cs) with
  | some s => .ok (.scalar s)
  | none =>
    if String.ofList cs = "object" then .ok .dynamicMap
    else match _hl : (argument? "List" cs).or (argument? "Set" cs) with
      | some inner => (resolve config classes resource inner).map .list
      | none => match _hm : argument? "Map" cs with
        | some inner => match _hs : splitPair inner with
          | none => .error unknown
          | some (key, element) => do
            let key ← resolve config classes resource key
            let element ← resolve config classes resource element
            return .map key element
        | none =>
          if isName cs then
            match classes (Naming.className config resource (String.ofList cs)) with
            | some c => .ok (.pointer (.reference c))
            | none => .error unknown
          else .error unknown
termination_by text.length
decreasing_by
  · have h := length_trim_le text
    rcases Option.or_eq_some_iff.1 _hl with h' | ⟨-, h'⟩ <;>
      exact Nat.lt_of_lt_of_le (length_of_argument? h') h
  · have h := length_trim_le text
    have hm := length_of_argument? _hm
    have hs := (length_of_splitPair _hs).1
    simp only [cs] at hm
    omega
  · have h := length_trim_le text
    have hm := length_of_argument? _hm
    have hs := (length_of_splitPair _hs).2
    simp only [cs] at hm
    omega

end TypedClient.TypeText
