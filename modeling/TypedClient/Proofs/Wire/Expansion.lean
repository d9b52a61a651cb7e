import TypedClient.Proofs.Wire.Percent
import TypedClient.Proofs.Wire.Templates

namespace TypedClient.Wire.UriTemplate

open Piece

/-- Texts of unreserved characters, and of percent signs with the two digits of an octet. -/
inductive Encoded : List Char → Prop
  | nil : Encoded []
  | plain {c : Char} {cs : List Char} (hc : isUnreserved c) (h : Encoded cs) : Encoded (c :: cs)
  | octet {a b : Char} {cs : List Char} (ha : a ∈ upperHexDigits) (hb : b ∈ upperHexDigits)
    (h : Encoded cs) : Encoded ('%' :: a :: b :: cs)

theorem isUnreserved_of_mem_upperHexDigits : ∀ c ∈ upperHexDigits, isUnreserved c = true :=
  List.all_eq_true.1 (by decide)

/-- The characters of such texts. -/
def IsAddressChar (c : Char) : Prop := isUnreserved c ∨ c = '%'

instance (c : Char) : Decidable (IsAddressChar c) := inferInstanceAs (Decidable (_ ∨ _))

theorem Encoded.mem {cs : List Char} (h : Encoded cs) : ∀ c ∈ cs, IsAddressChar c := by
  induction h with
  | nil => exact fun c hc => absurd hc List.not_mem_nil
  | plain hc _ ih => exact List.forall_mem_cons.2 ⟨.inl hc, ih⟩
  | octet ha hb _ ih =>
    refine List.forall_mem_cons.2 ⟨.inr rfl, List.forall_mem_cons.2 ⟨?_, List.forall_mem_cons.2 ⟨?_, ih⟩⟩⟩
    · exact .inl (isUnreserved_of_mem_upperHexDigits _ ha)
    · exact .inl (isUnreserved_of_mem_upperHexDigits _ hb)

theorem unreservedOctets_checked : ∀ n < 256, isUnreserved (Char.ofNat n) = true →
    Char.ofNat n ≠ '%' ∧ String.utf8EncodeChar (Char.ofNat n) = [UInt8.ofNat n] := by
  decide +kernel

theorem restores_encodeOctet : Restores encodeOctet := by
  intro b rest
  unfold encodeOctet
  by_cases hb : isUnreserved (asciiChar b)
  · obtain ⟨hne, hbytes⟩ := unreservedOctets_checked b.toNat b.toNat_lt hb
    rw [UInt8.ofNat_toNat] at hbytes
    rw [if_pos hb, List.singleton_append]
    exact percentDecode?_plain hne hbytes rest
  · rw [if_neg hb]
    exact percentDecode?_percent b rest

theorem encoded_percentEncode (cs : List Char) : Encoded (percentEncode encodeOctet cs) := by
  unfold percentEncode
  induction Text.Utf8.encode cs with
  | nil => exact .nil
  | cons b bs ih =>
    rw [List.flatMap_cons, encodeOctet]
    by_cases hb : isUnreserved (asciiChar b)
    · rw [if_pos hb]
      exact .plain hb ih
    · have hlt : b.toNat < 256 := b.toNat_lt
      rw [if_neg hb]
      exact .octet (hexDigit_mem_upperHexDigits _ (by omega)) (hexDigit_mem_upperHexDigits _ (by omega)) ih

variable {lookup lookup' : String → Option String}

theorem value_of_some {name : List Char} {v : String} (h : lookup (String.ofList name) = some v) :
    value lookup name = percentEncode encodeOctet v.toList := by
  rw [value, h, Option.elim_some]

theorem value_of_none {name : List Char} (h : lookup (String.ofList name) = none) :
    value lookup name = [] := by
  rw [value, h, Option.elim_none]

/-- The octets that stand for a name: those of its value, or none. -/
def octets (lookup : String → Option String) (name : List Char) : List UInt8 :=
  (lookup (String.ofList name)).elim [] fun v => Text.Utf8.encode v.toList

theorem encoded_value (name : List Char) :
    Encoded (value lookup name) ∧ percentDecode? (value lookup name) = some (octets lookup name) := by
  cases h : lookup (String.ofList name) with
  | none =>
    rw [value_of_none h, octets, h]
    exact ⟨.nil, rfl⟩
  | some v =>
    rw [value_of_some h, octets, h]
    exact ⟨encoded_percentEncode _, percentDecode?_percentEncode restores_encodeOctet _⟩

/-- The literals of a template, in order. -/
def literals (ps : List Piece) : List Char :=
  ps.filterMap fun
    | literal c => some c
    | expression _ => none

theorem count_expanded {c : Char} (hc : ¬ IsAddressChar c) (ps : List Piece) :
    (ps.flatMap (expanded lookup)).count c = (literals ps).count c := by
  induction ps with
  | nil => rfl
  | cons p ps ih =>
    rw [List.flatMap_cons, List.count_append, ih]
    cases p with
    | literal d => simp [literals, expanded, List.count_cons, Nat.add_comm]
    | expression name =>
      have hnone : (value lookup name).count c = 0 :=
        List.count_eq_zero.2 fun hmem => hc ((encoded_value name).1.mem c hmem)
      simp [literals, expanded, hnone]

theorem mem_of_mem_expanded {c : Char} (hc : ¬ IsAddressChar c) {ps : List Piece}
    (h : c ∈ ps.flatMap (expanded lookup)) : literal c ∈ ps := by
  rw [← List.count_pos_iff, count_expanded hc, List.count_pos_iff, literals, List.mem_filterMap] at h
  obtain ⟨p, hp, hlit⟩ := h
  cases p with
  | literal d => exact Option.some.inj hlit ▸ hp
  | expression name => cases hlit

/-- Without braces, a text is its own expansion. -/
theorem expand_braceless {cs : List Char} (hopen : '{' ∉ cs) (hclose : '}' ∉ cs) :
    expand lookup (String.ofList cs) = .ok (String.ofList cs) := by
  have hsimple : ∀ p ∈ cs.map literal, p.IsSimple := by
    intro p hp
    obtain ⟨c, hc, rfl⟩ := List.mem_map.1 hp
    exact ⟨fun h => hopen (h ▸ hc), fun h => hclose (h ▸ hc)⟩
  have htext : (String.ofList cs).toList = text (cs.map literal) := by
    simp [text, List.flatMap_map, written]
  rw [expand_of_text lookup (accepted_of_simple hsimple) htext]
  simp [List.flatMap_map, expanded]

theorem length_flatMap_le {α β : Type} {f g : α → List β} {xs : List α}
    (h : ∀ x ∈ xs, (f x).length ≤ (g x).length) : (xs.flatMap f).length ≤ (xs.flatMap g).length := by
  induction xs with
  | nil => exact Nat.le_refl 0
  | cons x xs ih =>
    rw [List.flatMap_cons, List.flatMap_cons, List.length_append, List.length_append]
    exact Nat.add_le_add (h x List.mem_cons_self) (ih fun y hy => h y (List.mem_cons_of_mem x hy))

/-- Where no part of one text is longer than that of the other, the texts are the same only part by
part. -/
theorem eq_of_flatMap_eq {α β : Type} {f g : α → List β} {xs : List α}
    (hle : ∀ x ∈ xs, (f x).length ≤ (g x).length) (h : xs.flatMap f = xs.flatMap g) :
    ∀ x ∈ xs, f x = g x := by
  induction xs with
  | nil => exact fun x hx => absurd hx List.not_mem_nil
  | cons x xs ih =>
    have hrest : ∀ y ∈ xs, (f y).length ≤ (g y).length := fun y hy => hle y (List.mem_cons_of_mem x hy)
    have hx := hle x List.mem_cons_self
    have hxs := length_flatMap_le hrest
    rw [List.flatMap_cons, List.flatMap_cons] at h
    have hlength := congrArg List.length h
    rw [List.length_append, List.length_append] at hlength
    obtain ⟨hfirst, htail⟩ := List.append_inj h (by omega)
    exact List.forall_mem_cons.2 ⟨hfirst, ih hrest htail⟩

theorem expanded_eq_of_ne {name : List Char}
    (hsame : ∀ other, other ≠ String.ofList name → lookup other = lookup' other) {p : Piece}
    (hp : p ≠ expression name) : expanded lookup p = expanded lookup' p := by
  cases p with
  | literal c => rfl
  | expression other =>
    have hother : String.ofList other ≠ String.ofList name :=
      fun h => hp (congrArg expression (String.ofList_injective h))
    rw [expanded, expanded, value, value, hsame _ hother]

/-- One value decides an expansion that has a place for it, however often it occurs. -/
theorem value_eq_of_expanded_eq {ps : List Piece} {name : List Char} (hname : expression name ∈ ps)
    (hsame : ∀ other, other ≠ String.ofList name → lookup other = lookup' other)
    (h : ps.flatMap (expanded lookup) = ps.flatMap (expanded lookup')) :
    value lookup name = value lookup' name := by
  -- All other parts have the same length, and so the longer of the two values is longer everywhere.
  have hlengths (l l' : String → Option String)
      (hother : ∀ p, p ≠ expression name → expanded l p = expanded l' p)
      (hle : (value l name).length ≤ (value l' name).length) :
      ∀ p ∈ ps, (expanded l p).length ≤ (expanded l' p).length := by
    intro p _
    by_cases hp : p = expression name
    · rw [hp]
      exact hle
    · exact Nat.le_of_eq (congrArg List.length (hother p hp))
  have hother : ∀ p, p ≠ expression name → expanded lookup p = expanded lookup' p :=
    fun p => expanded_eq_of_ne hsame
  rcases Nat.le_total (value lookup name).length (value lookup' name).length with hle | hle
  · exact eq_of_flatMap_eq (hlengths _ _ hother hle) h _ hname
  · have hreverse := hlengths lookup' lookup (fun p hp => (hother p hp).symm) hle
    exact (eq_of_flatMap_eq hreverse h.symm _ hname).symm

variable {template address : String}

theorem exists_expansion (h : expand lookup template = .ok address) :
    ∃ ps, Accepted ps ∧ template.toList = text ps ∧ address.toList = ps.flatMap (expanded lookup) := by
  obtain ⟨ps, hps, htext⟩ := exists_text_of_expand lookup h
  rw [expand_of_text lookup hps htext, Except.ok.injEq] at h
  exact ⟨ps, hps, htext, by rw [← h, String.toList_ofList]⟩

theorem opening_not_mem_expanded {ps : List Piece} (hps : Accepted ps) :
    '{' ∉ ps.flatMap (expanded lookup) :=
  fun h => hps.plain _ (mem_of_mem_expanded (by decide) h) rfl

theorem closing_not_mem_expanded {ps : List Piece} (hps : Accepted ps) (htext : template.toList = text ps)
    (hsimple : IsSimpleTemplate template) : '}' ∉ ps.flatMap (expanded lookup) := by
  obtain ⟨qs, hqs, htext'⟩ := hsimple
  obtain rfl := eq_of_text_eq hps.plain (accepted_of_simple hqs).plain (htext.symm.trans htext')
  exact fun h => (hqs _ (mem_of_mem_expanded (by decide) h)).2 rfl

theorem expand_ne {ps : List Piece} {name : List Char} {v v' : String} (hps : Accepted ps)
    (htext : template.toList = text ps) (hname : expression name ∈ ps)
    (hv : lookup (String.ofList name) = some v) (hv' : lookup' (String.ofList name) = some v')
    (hne : v ≠ v') (hsame : ∀ other, other ≠ String.ofList name → lookup other = lookup' other) :
    expand lookup template ≠ expand lookup' template := by
  intro h
  rw [expand_of_text lookup hps htext, expand_of_text lookup' hps htext, Except.ok.injEq] at h
  have hvalue := value_eq_of_expanded_eq hname hsame (String.ofList_injective h)
  rw [value_of_some hv, value_of_some hv'] at hvalue
  exact hne (String.toList_inj.1 (percentEncode_injective restores_encodeOctet hvalue))

/-- An address has the literals of its template, and an encoded value for each expression. So values
bring in none of the characters that divide an address, nothing in them is expanded in its turn, and
lookups that differ in one value of the template give different addresses. -/
theorem expand_keeps_shape (h : expand lookup template = .ok address) :
    ∃ ps, Accepted ps ∧ template.toList = text ps ∧ address.toList = ps.flatMap (expanded lookup) ∧
      (∀ name, Encoded (value lookup name) ∧
        percentDecode? (value lookup name) = some (octets lookup name)) ∧
      (∀ c ∈ ['/', '?', '#', '&', '{'], address.toList.count c = (literals ps).count c) ∧
      '{' ∉ address.toList ∧
      (IsSimpleTemplate template → ∀ other, expand other address = .ok address) ∧
      ∀ name v v' lookup', expression name ∈ ps → lookup (String.ofList name) = some v →
        lookup' (String.ofList name) = some v' → v ≠ v' →
        (∀ other, other ≠ String.ofList name → lookup other = lookup' other) →
          ∃ address', expand lookup' template = .ok address' ∧ address ≠ address' := by
  obtain ⟨ps, hps, htext, haddress⟩ := exists_expansion h
  have hopen : '{' ∉ address.toList := haddress ▸ opening_not_mem_expanded hps
  refine ⟨ps, hps, htext, haddress, encoded_value, fun c hc => ?_, hopen, fun hsimple other => ?_, ?_⟩
  · have hdivides : ['/', '?', '#', '&', '{'].all (decide ¬ IsAddressChar ·) := by decide
    rw [haddress, count_expanded (of_decide_eq_true (List.all_eq_true.1 hdivides c hc))]
  · have hclose : '}' ∉ address.toList := haddress ▸ closing_not_mem_expanded hps htext hsimple
    rw [← String.ofList_toList (s := address)]
    exact expand_braceless hopen hclose
  · intro name v v' lookup' hname hv hv' hne hsame
    refine ⟨_, expand_of_text lookup' hps htext, fun heq => ?_⟩
    refine expand_ne hps htext hname hv hv' hne hsame ?_
    rw [h, heq, expand_of_text lookup' hps htext]

/-- A value that looks like an expression and a query, in two places. -/
theorem expand_keeps_shape_twice :
    let template := "/\x7ba\x7d/\x7ba\x7d"
    let lookup (v name : String) : Option String := if name = "a" then some v else none
    let address := "/%7Ba%7D%3F/%7Ba%7D%3F"
    expand (lookup "\x7ba\x7d?") template = .ok address ∧ IsSimpleTemplate template ∧
      (∀ other, expand other address = .ok address) ∧
      ∃ address', expand (lookup "b") template = .ok address' ∧ address ≠ address' := by
  intro template lookup address
  have h : expand (lookup "\x7ba\x7d?") template = .ok address := by decide +kernel
  let ps := [literal '/', expression ['a'], literal '/', expression ['a']]
  have hps : ∀ p ∈ ps, p.IsSimple := by
    have hname : IsName ['a'] := ⟨by decide, List.all_eq_true.1 (by decide)⟩
    simp [ps, IsSimple, hname]
  have htext : template.toList = text ps := by decide
  obtain ⟨qs, hqs, htext', -, -, -, -, hagain, hdiffer⟩ := expand_keeps_shape h
  obtain rfl := eq_of_text_eq (accepted_of_simple hps).plain hqs.plain (htext.symm.trans htext')
  have hsimple : IsSimpleTemplate template := ⟨ps, hps, htext⟩
  refine ⟨h, hsimple, hagain hsimple, ?_⟩
  refine hdiffer ['a'] "\x7ba\x7d?" "b" (lookup "b") (by simp [ps]) rfl rfl (by decide) fun other hne => ?_
  have hother : other ≠ "a" := hne
  simp [lookup, hother]

end TypedClient.Wire.UriTemplate
