import Mathlib
import TypedClient.Proofs.Json.Integers
import TypedClient.Proofs.Outcome
import TypedClient.Proofs.Text.Utf8
import TypedClient.Wire.SpellRange

namespace TypedClient.Wire

open Json (IsInteger)
open Outcome (mapM_eq_some_iff)

theorem isSome_mapM {α β : Type} {f : α → Option β} {xs : List α} :
    (xs.mapM f).isSome ↔ ∀ x ∈ xs, (f x).isSome := by
  induction xs with
  | nil => simp
  | cons x xs ih =>
    rw [List.mapM_cons, List.forall_mem_cons, ← ih]
    cases f x with
    | none => simp
    | some y => cases xs.mapM f <;> simp

theorem isSome_member? {α : Type} {read? : Json → Option α} {p : Option String × Json} :
    (member? read? p).isSome ↔ p.1.isSome ∧ (read? p.2).isSome := by
  unfold member?
  cases p.1 with
  | none => simp
  | some name => cases read? p.2 <;> simp

/-- The JSON values that a reader can hold. Arrays and objects enclose each other up to some depth, numbers do
not overflow, and in strings no half of a surrogate pair is escaped alone. -/
inductive Held : Nat → Json → Prop
  | null {depth : Nat} : Held depth .null
  | bool {depth : Nat} (b : Bool) : Held depth (.bool b)
  | number {depth : Nat} {n : JsonNumber} (h : n.overflows = false) : Held depth (.number n)
  | string {depth : Nat} (s : String) : Held depth (.string (some s))
  | array {depth : Nat} {elements : List Json} (h : ∀ e ∈ elements, Held depth e) :
      Held (depth + 1) (.array elements)
  | object {depth : Nat} {members : List (Option String × Json)} (hnames : ∀ p ∈ members, p.1.isSome)
      (h : ∀ p ∈ members, Held depth p.2) : Held (depth + 1) (.object members)

theorem held_number_iff {depth : Nat} {n : JsonNumber} : Held depth (.number n) ↔ n.overflows = false :=
  ⟨fun h => by cases h; assumption, .number⟩

theorem held_string_iff {depth : Nat} {s : Option String} : Held depth (.string s) ↔ s.isSome := by
  cases s with
  | none => exact iff_of_false nofun nofun
  | some s => exact iff_of_true (.string s) rfl

theorem held_array_iff {depth : Nat} {elements : List Json} :
    Held (depth + 1) (.array elements) ↔ ∀ e ∈ elements, Held depth e :=
  ⟨fun h => by cases h; assumption, .array⟩

theorem held_object_iff {depth : Nat} {members : List (Option String × Json)} :
    Held (depth + 1) (.object members) ↔ ∀ p ∈ members, p.1.isSome ∧ Held depth p.2 := by
  constructor
  · intro h
    cases h with
    | object hnames h => exact fun p hp => ⟨hnames p hp, h p hp⟩
  · exact fun h => .object (fun p hp => (h p hp).1) fun p hp => (h p hp).2

/-- The reader makes a value of what it can hold, and of nothing else. -/
theorem isSome_ofJson?_iff : ∀ {depth : Nat} {j : Json}, (Value.ofJson? depth j).isSome ↔ Held depth j
  | _, .null => iff_of_true (by rw [Value.ofJson?]; rfl) .null
  | _, .bool b => iff_of_true (by rw [Value.ofJson?]; rfl) (.bool b)
  | _, .number n => by
    rw [Value.ofJson?, held_number_iff]
    cases n.overflows <;> simp
  | _, .string s => by rw [Value.ofJson?, held_string_iff, Option.isSome_map]
  | 0, .array _ | 0, .object _ => iff_of_false nofun nofun
  | depth + 1, .array elements => by
    rw [Value.ofJson?, held_array_iff, Option.isSome_map, isSome_mapM]
    exact forall₂_congr fun e _ => isSome_ofJson?_iff
  | depth + 1, .object members => by
    rw [Value.ofJson?, held_object_iff, Option.isSome_map, isSome_mapM]
    exact forall₂_congr fun p _ => isSome_member?.trans (and_congr_right fun _ => isSome_ofJson?_iff)

theorem wholeNumber?_eq_some {bits : Nat} {j : Json} {i : Int} :
    wholeNumber? bits j = some i ↔ IsInteger j i ∧ Whole.fits bits i := by
  cases j with
  | number n => rw [wholeNumber?, Option.filter_eq_some_iff, Json.isInteger_iff]
  | null | bool | string | array | object => exact iff_of_false nofun nofun

theorem Whole.fits_iff {i : Int} : Whole.fits 32 i ↔ -2147483648 ≤ i ∧ i < 2147483648 := by
  have hhalf : ((Nat.pow 2 31 : Nat) : Int) = 2147483648 := by decide
  rw [Whole.fits, hhalf, Bool.and_eq_true, decide_eq_true_iff, decide_eq_true_iff, and_comm]

theorem held_of_isInteger {depth : Nat} {j : Json} {i : Int} (h : IsInteger j i) (hfits : Whole.fits 32 i) :
    Held depth j := by
  obtain ⟨hlow, hhigh⟩ := Whole.fits_iff.1 hfits
  have hdouble : 2147483648 < Nat.pow 2 53 := by decide
  cases h with
  | natural ds => exact .number (Json.overflows_eq_false (by omega))
  | negative ds => exact .number (Json.overflows_eq_false (by omega))

namespace SpellRange

/-- Elements that are integers of 32 bits, and these integers. -/
def Distances : List Json → List Int → Prop := List.Forall₂ fun e i => IsInteger e i ∧ Whole.fits 32 i

/-- The JSON values that stand for a range: the word for the caster, a list of distances, and an object where
the list is either left out or the member with its name. -/
inductive Stands : Json → SpellRange → Prop
  | caster : Stands (.string (some "self")) { isSelf := true, ranges := [] }
  | list {elements : List Json} {is : List Int} (h : Distances elements is) :
      Stands (.array elements) { isSelf := false, ranges := is }
  | absent {members : List (Option String × Json)} (hheld : Held maxDepth (.object members))
      (h : ∀ p ∈ members, p.1 ≠ some "Ranges") : Stands (.object members) { isSelf := false, ranges := [] }
  | wrapped {members : List (Option String × Json)} {elements : List Json} {is : List Int}
      (hheld : Held maxDepth (.object members)) (hmem : (some "Ranges", .array elements) ∈ members)
      (h : Distances elements is) : Stands (.object members) { isSelf := false, ranges := is }

/-- An object has one member of each name. -/
def NamesDistinct : Json → Prop
  | .object members => (members.map Prod.fst).Nodup
  | _ => True

variable {j : Json} {r : SpellRange} {elements : List Json} {is : List Int}

theorem ranges?_array : ranges? (.array elements) = some is ↔ Distances elements is := by
  rw [ranges?, mapM_eq_some_iff]
  simp only [wholeNumber?_eq_some]
  rfl

theorem ranges?_eq_some : ranges? j = some is ↔ ∃ elements, j = .array elements ∧ Distances elements is := by
  cases j with
  | array elements => simp [ranges?_array]
  | null | bool | number | string | object => simp [ranges?]

theorem Distances.held {depth : Nat} (h : Distances elements is) : Held (depth + 1) (.array elements) := by
  refine .array fun e he => ?_
  obtain ⟨i, -, hinteger, hfits⟩ := Outcome.exists_mem_of_forall₂ h he
  exact held_of_isInteger hinteger hfits

theorem Distances.fits (h : Distances elements is) : ∀ i ∈ is, Whole.fits 32 i := by
  intro i hi
  obtain ⟨e, -, -, hfits⟩ := Outcome.exists_mem_of_forall₂ h.flip hi
  exact hfits

theorem filter_of_nodup {κ α : Type} [DecidableEq κ] {key : κ} {value : α} {ps : List (κ × α)}
    (hnodup : (ps.map Prod.fst).Nodup) (h : (key, value) ∈ ps) :
    ps.filter (·.1 = key) = [(key, value)] := by
  induction ps with
  | nil => cases h
  | cons p ps ih =>
    obtain ⟨hnew, hrest⟩ := List.nodup_cons.1 hnodup
    rcases List.mem_cons.1 h with rfl | h
    · have hnone : ps.filter (·.1 = key) = [] := by
        rw [List.filter_eq_nil_iff]
        intro q hq hkey
        exact hnew (List.mem_map.2 ⟨q, hq, of_decide_eq_true hkey⟩)
      rw [List.filter_cons_of_pos (by simp), hnone]
    · have hne : p.1 ≠ key := by
        rintro rfl
        exact hnew (List.mem_map.2 ⟨_, h, rfl⟩)
      rw [List.filter_cons_of_neg (by simpa using hne), ih hrest h]

theorem ofJson?_of_absent {members : List (Option String × Json)}
    (h : ∀ p ∈ members, p.1 ≠ some "Ranges") : ofJson? (.object members) = some {} := by
  have hnone : members.filter (·.1 = some memberName) = [] := by
    rw [List.filter_eq_nil_iff]
    intro p hp hname
    exact h p hp (of_decide_eq_true hname)
  rw [ofJson?, hnone]

theorem ofJson?_of_mem {members : List (Option String × Json)} {list : Json}
    (hnodup : (members.map Prod.fst).Nodup) (hmem : (some "Ranges", list) ∈ members) :
    ofJson? (.object members) = (ranges? list).map fun is => { ranges := is } := by
  have hone : members.filter (·.1 = some memberName) = [(some "Ranges", list)] :=
    filter_of_nodup hnodup hmem
  rw [ofJson?, hone]

theorem ofJson?_of_stands (hdistinct : NamesDistinct j) (h : Stands j r) : ofJson? j = some r := by
  cases h with
  | caster => rfl
  | list h => rw [ofJson?, ranges?_array.2 h]; rfl
  | absent _ h => exact ofJson?_of_absent h
  | wrapped _ hmem h => rw [ofJson?_of_mem hdistinct hmem, ranges?_array.2 h]; rfl

theorem held_of_stands (h : Stands j r) : Held maxDepth j := by
  cases h with
  | caster => exact .string "self"
  | list h => exact h.held
  | absent hheld => exact hheld
  | wrapped hheld => exact hheld

theorem stands_of_ofJson? (hdistinct : NamesDistinct j) (hheld : Held maxDepth j) (h : ofJson? j = some r) :
    Stands j r := by
  cases j with
  | null | bool | number => cases h
  | string s =>
    cases s with
    | none => cases h
    | some s =>
      rw [ofJson?] at h
      split at h
      · rename_i hself
        cases h
        exact hself ▸ .caster
      · cases h
  | array elements =>
    obtain ⟨is, his, rfl⟩ := Option.map_eq_some_iff.1 h
    exact .list (ranges?_array.1 his)
  | object members =>
    by_cases habsent : ∀ p ∈ members, p.1 ≠ some "Ranges"
    · rw [ofJson?_of_absent habsent] at h
      cases h
      exact .absent hheld habsent
    · obtain ⟨⟨name, list⟩, hmem, hname⟩ : ∃ p ∈ members, p.1 = some "Ranges" := by simpa using habsent
      obtain rfl : name = some "Ranges" := hname
      rw [ofJson?_of_mem hdistinct hmem] at h
      obtain ⟨is, his, rfl⟩ := Option.map_eq_some_iff.1 h
      obtain ⟨elements, rfl, hdistances⟩ := ranges?_eq_some.1 his
      exact .wrapped hheld hmem hdistances

theorem read?_eq_some_iff (hdistinct : NamesDistinct j) :
    (Readable.read? j : Option SpellRange) = some r ↔ Stands j r := by
  have hread : (Readable.read? j : Option SpellRange) = some r ↔ Held maxDepth j ∧ ofJson? j = some r := by
    rw [← isSome_ofJson?_iff]
    change (Value.ofJson? maxDepth j).bind (fun _ => ofJson? j) = some r ↔ _
    cases Value.ofJson? maxDepth j <;> simp
  rw [hread]
  constructor
  · exact fun h => stands_of_ofJson? hdistinct h.1 h.2
  · exact fun h => ⟨held_of_stands h, ofJson?_of_stands hdistinct h⟩

theorem decode_eq_ok {α : Type} [Readable α] {body : List UInt8} {a : α} : decode α body = .ok a ↔
    ∃ j, (Text.Utf8.decode? body).bind Json.read? = some j ∧ Readable.read? j = some a := by
  rw [← Option.bind_eq_some_iff, decode]
  cases ((Text.Utf8.decode? body).bind Json.read?).bind (Readable.read? : Json → Option α) <;> simp

theorem decode_of_json {body : List UInt8} (hbody : (Text.Utf8.decode? body).bind Json.read? = some j)
    (hdistinct : NamesDistinct j) : decode SpellRange body = .ok r ↔ Stands j r := by
  rw [decode_eq_ok, hbody, ← read?_eq_some_iff hdistinct]
  simp

/-- Whatever is decoded is a range that can be written. Objects with repeated names are no exception. -/
theorem writable_of_ofJson? (h : ofJson? j = some r) :
    (r.isSelf → r.ranges = []) ∧ ∀ i ∈ r.ranges, Whole.fits 32 i := by
  have hlist : ∀ list, (ranges? list).map (fun is => ({ ranges := is } : SpellRange)) = some r →
      (r.isSelf → r.ranges = []) ∧ ∀ i ∈ r.ranges, Whole.fits 32 i := by
    intro list hread
    obtain ⟨is, his, rfl⟩ := Option.map_eq_some_iff.1 hread
    obtain ⟨elements, -, hdistances⟩ := ranges?_eq_some.1 his
    exact ⟨nofun, hdistances.fits⟩
  unfold ofJson? at h
  split at h
  · split at h
    · cases h
      exact ⟨fun _ => rfl, nofun⟩
    · cases h
  · exact hlist _ h
  · split at h
    · cases h
      exact ⟨nofun, nofun⟩
    · exact hlist _ h
    · cases h
  · cases h

theorem writable_of_decode {body : List UInt8} (h : decode SpellRange body = .ok r) :
    (r.isSelf → r.ranges = []) ∧ ∀ i ∈ r.ranges, Whole.fits 32 i := by
  obtain ⟨j, -, hread⟩ := decode_eq_ok.1 h
  obtain ⟨_, -, hrange⟩ := Option.bind_eq_some_iff.1 hread
  exact writable_of_ofJson? hrange

theorem read?_encode (hself : r.isSelf → r.ranges = []) (hfits : ∀ i ∈ r.ranges, Whole.fits 32 i) :
    ∃ j, Json.read? (encode r).toList = some j ∧ NamesDistinct j ∧ Stands j r := by
  obtain ⟨isSelf, is⟩ := r
  cases isSelf with
  | true =>
    obtain rfl : is = [] := hself rfl
    exact ⟨_, rfl, trivial, .caster⟩
  | false =>
    obtain ⟨js, hjs, hread⟩ := Json.read?_written is
    refine ⟨.array js, ?_, trivial, .list ?_⟩
    · rw [encode, if_neg Bool.false_ne_true, Json.toList_written, hread]
    · exact List.forall₂_iff_get.2 ⟨hjs.length_eq, fun n hj hi =>
        ⟨hjs.get hj hi, hfits _ (List.get_mem _ _)⟩⟩

theorem decode_encode (hself : r.isSelf → r.ranges = []) (hfits : ∀ i ∈ r.ranges, Whole.fits 32 i) :
    decode SpellRange (Text.Utf8.encode (encode r).toList) = .ok r := by
  obtain ⟨j, hj, hdistinct, hstands⟩ := read?_encode hself hfits
  refine (decode_of_json ?_ hdistinct).2 hstands
  rw [Text.Utf8.decode?_encode, Option.bind_some, hj]

/-- Decoding and encoding are inverse. What is decoded are the three forms of JSON values, everything decoded can
be written, and what is written is decoded again. -/
theorem decodes_encoded :
    (∀ body j r, (Text.Utf8.decode? body).bind Json.read? = some j → NamesDistinct j →
      (decode SpellRange body = .ok r ↔ Stands j r)) ∧
    (∀ body r, decode SpellRange body = .ok r → r.isSelf → r.ranges = []) ∧
    (∀ r : SpellRange, (r.isSelf → r.ranges = []) → (∀ i ∈ r.ranges, Whole.fits 32 i) →
      decode SpellRange (Text.Utf8.encode (encode r).toList) = .ok r) ∧
    ∀ body r, decode SpellRange body = .ok r →
      decode SpellRange (Text.Utf8.encode (encode r).toList) = .ok r := by
  refine ⟨fun _ _ _ => decode_of_json, fun _ _ h => (writable_of_decode h).1, fun _ => decode_encode, ?_⟩
  intro body r h
  obtain ⟨hself, hfits⟩ := writable_of_decode h
  exact decode_encode hself hfits

theorem decodes_encoded_ranks :
    decode SpellRange (Text.Utf8.encode (encode { ranges := [600, 0, -7] }).toList) =
      .ok { ranges := [600, 0, -7] } := by
  obtain ⟨-, -, hwritten, -⟩ := decodes_encoded
  exact hwritten _ (by decide) (by decide +kernel)

/-- An object without the list is refused if the reader cannot hold another member of it. -/
theorem unheld_member_refused :
    (Text.Utf8.decode? (Text.Utf8.encode "\x7b\"a\":1e400\x7d".toList)).bind Json.read? =
        some (.object [(some "a", .number ⟨false, [1], none, some 400⟩)]) ∧
      decode SpellRange (Text.Utf8.encode "\x7b\"a\":1e400\x7d".toList) = .error .decode := by
  have hjson : (Text.Utf8.decode? (Text.Utf8.encode "\x7b\"a\":1e400\x7d".toList)).bind Json.read? =
      some (.object [(some "a", .number ⟨false, [1], none, some 400⟩)]) := by
    rw [Text.Utf8.decode?_encode]
    cbv
  have hoverflows : (JsonNumber.mk false [1] none (some 400)).overflows = true := by decide +kernel
  have hnone : (Readable.read? (.object [(some "a", .number ⟨false, [1], none, some 400⟩)]) :
      Option SpellRange) = none := by
    rw [Option.eq_none_iff_forall_ne_some]
    intro r h
    have hstands := (read?_eq_some_iff (by simp [NamesDistinct])).1 h
    have hmember := (held_object_iff.1 (held_of_stands hstands) _ List.mem_cons_self).2
    rw [held_number_iff, hoverflows] at hmember
    cases hmember
  refine ⟨hjson, ?_⟩
  rw [decode, hjson, Option.bind_some, hnone]

end SpellRange

end TypedClient.Wire
