import TypedClient.Proofs.Document.Written
import TypedClient.Proofs.Extraction.Origins
import TypedClient.Proofs.Rearranged
import TypedClient.Proofs.Source.SnakeCase
import TypedClient.Proofs.Source.Views

namespace TypedClient.Source

open Extraction (timeMethod?)

/-- The snake case of a name does not depend on a capital letter behind it. -/
theorem snakeAfter_append (before : Option Char) (cs ds : List Char) :
    snakeAfter before (cs ++ 'T' :: ds) =
      snakeAfter before cs ++ snakeAfter (cs.getLast?.or before) ('T' :: ds) := by
  induction cs generalizing before with
  | nil => rfl
  | cons c cs ih =>
    have hlast : (c :: cs).getLast?.or before = cs.getLast?.or (some c) := by
      rw [List.getLast?_cons, Option.some_or, Option.or_some]
    -- Whether a word begins is seen from two letters behind it, and not beyond a capital one.
    have hbegins : (beginsWord · (cs ++ 'T' :: ds)) = (beginsWord · cs) := by
      funext b
      match cs with
      | [] => simp [beginsWord]
      | [d] => by_cases hd : d = 's' <;> simp [beginsWord, isPlural, hd]
      | d :: e :: cs => by_cases hd : d = 's' <;> simp [beginsWord, isPlural, hd]
    rw [List.cons_append, snakeAfter, snakeAfter, hbegins, ih, hlast]
    simp only [List.append_assoc]

/-- The snake case of an accessor's name: that of the field with one more word. -/
def accessorText (field : String) : String :=
  snakeCase field ++ if field.toList.getLast?.any Char.isAlphanum then "_time" else "time"

theorem snakeCase_append_time (field : String) : snakeCase (field ++ "Time") = accessorText field := by
  have hword : snakeAfter field.toList.getLast? ['T', 'i', 'm', 'e'] =
      (if field.toList.getLast?.any Char.isAlphanum then "_time" else "time").toList := by
    cases field.toList.getLast? with
    | none => decide
    | some c =>
      have hbegins : beginsWord c ['i', 'm', 'e'] = c.isAlphanum := by
        have hcases : beginsWord c ['i', 'm', 'e'] =
            (c.isLower || c.isDigit || (c.isUpper && true && true)) := rfl
        have halpha : c.isAlpha = (c.isUpper || c.isLower) := rfl
        rw [hcases, Bool.and_true, Bool.and_true, Char.isAlphanum, halpha]
        ac_rfl
      have htime : snakeAfter (some 'T') ['i', 'm', 'e'] = ['i', 'm', 'e'] := by decide
      have hletter : Text.toLower 'T' = ['t'] := by decide
      rw [snakeAfter, htime, hletter, Option.any_some, Option.any_some, hbegins]
      cases c.isAlphanum <;> rfl
  have hsnake := snakeAfter_append none field.toList ['i', 'm', 'e']
  rw [Option.or_none, hword] at hsnake
  rw [← String.toList_inj, accessorText, String.toList_append, toList_snakeCase, toList_snakeCase,
    String.toList_append]
  exact hsnake

theorem not_mem_keywords_accessorText (field : String) : accessorText field ∉ keywords := by
  have hkeywords : ∀ k ∈ keywords, ¬ "time".toList <:+ k.toList := by decide +kernel
  refine fun h => hkeywords _ h ?_
  rw [accessorText, String.toList_append]
  split
  · exact (by decide : "time".toList <:+ "_time".toList).trans (List.suffix_append _ _)
  · exact List.suffix_append _ _

theorem memberIdentifier_append_time (field : String) : memberIdentifier (field ++ "Time") =
    if digitLed (accessorText field) then "_" ++ accessorText field else accessorText field := by
  rw [memberIdentifier, snakeCase_append_time,
    escapeIdentifier_of_not_mem_keywords (not_mem_keywords_accessorText field)]

/-- Whether the accessors of two fields get one identifier: their texts are the same, or one gets the
underscore that the other has. -/
def SameAccessor (a b : String) : Prop :=
  accessorText a = accessorText b ∨
  (digitLed (accessorText a) ∧ "_" ++ accessorText a = accessorText b) ∨
  (digitLed (accessorText b) ∧ accessorText a = "_" ++ accessorText b)

theorem accessorIdentifier_eq_iff {a b : String} :
    memberIdentifier (a ++ "Time") = memberIdentifier (b ++ "Time") ↔ SameAccessor a b := by
  have hne : ∀ s t : String, digitLed s → s ≠ "_" ++ t := by
    rintro _ t hs rfl
    simp [digitLed] at hs
  have hcancel : ∀ s t : String, "_" ++ s = "_" ++ t ↔ s = t := fun s t => by
    rw [← String.toList_inj, String.toList_append, String.toList_append, List.append_cancel_left_eq,
      String.toList_inj]
  rw [memberIdentifier_append_time, memberIdentifier_append_time, SameAccessor]
  cases ha : digitLed (accessorText a) with
  | false =>
    cases hb : digitLed (accessorText b) with
    | false => simp
    | true =>
      have hdiff : accessorText a ≠ accessorText b := fun h => by simp [h, hb] at ha
      simp [hdiff]
  | true =>
    cases hb : digitLed (accessorText b) with
    | false =>
      have hdiff : accessorText a ≠ accessorText b := fun h => by simp [h, hb] at ha
      simp [hdiff]
    | true => simp [hcancel, hne _ _ ha, (hne _ _ hb).symm]

/-- The fields of a class with their views. -/
def viewedFields (c : ResponseClass) (v : ClassView) : List (Field × FieldView) :=
  c.fields.zip v.fields

/-- Those that give the class a method. -/
def timeFields (c : ResponseClass) (v : ClassView) : List (Field × FieldView) :=
  (viewedFields c v).filter fun p => (timeMethod? p.1).isSome

/-- The last one of a name. -/
def lastNamed? (c : ResponseClass) (v : ClassView) (name : String) : Option (Field × FieldView) :=
  ((viewedFields c v).filter fun p => p.1.name = name).getLast?

/-- The method that a field gives its class: it reads the last field of the same name. -/
structure AccessorOf (c : ResponseClass) (v : ClassView) (p : Field × FieldView) (m : MethodView) :
    Prop where
  type : p.2.type = .optional (.path "i64")
  identifier : m.identifier = memberIdentifier (p.1.name ++ "Time")
  field : (lastNamed? c v p.1.name).map (·.2.identifier) = some m.field
  docs : m.docs = "\x60" ++ m.field ++ "\x60 as a point in time"

/-- Whether a method reads a field. -/
def Reads (p : Field × FieldView) (m : MethodView) : Prop := m.field = p.2.identifier

variable {r : Registry} {c : ResponseClass} {v : ClassView}

theorem map_fst_viewedFields (h : c.fields.length = v.fields.length) :
    (viewedFields c v).map Prod.fst = c.fields := List.map_fst_zip (Nat.le_of_eq h)

theorem map_snd_viewedFields (h : c.fields.length = v.fields.length) :
    (viewedFields c v).map Prod.snd = v.fields := List.map_snd_zip (Nat.le_of_eq h.symm)

theorem nodup_identifiers (h : c.fields.length = v.fields.length)
    (hnodup : (v.fields.map (·.identifier)).Nodup) :
    ((viewedFields c v).map (·.2.identifier)).Nodup := by
  rwa [← map_snd_viewedFields h, List.map_map] at hnodup

theorem timeMethod?_eq_some {f : Field} {m : TimeMethod} : timeMethod? f = some m ↔
    (timeMethod? f).isSome ∧ m = ⟨f.name, f.name ++ "Time"⟩ := by
  unfold timeMethod?
  split <;> simp [eq_comm]

theorem type_of_isSome_timeMethod? {f : Field} (h : (timeMethod? f).isSome) :
    f.type = .scalar .int64 := by
  unfold timeMethod? at h
  split at h
  · rename_i hf
    exact hf.1
  · cases h

theorem identifierOf?_eq (c : ResponseClass) (v : ClassView) (name : String) :
    identifierOf? (c.fields.zip v.fields) name = (lastNamed? c v name).map (·.2.identifier) := by
  rw [identifierOf?, lastNamed?, viewedFields, ← List.head?_filter, List.filter_reverse, List.head?_reverse]

theorem methodView_eq_ok {p : Field × FieldView} {m : MethodView}
    (h : methodView c v.fields ⟨p.1.name, p.1.name ++ "Time"⟩ = .ok m) :
    m.identifier = memberIdentifier (p.1.name ++ "Time") ∧
      (lastNamed? c v p.1.name).map (·.2.identifier) = some m.field ∧
      m.docs = "\x60" ++ m.field ++ "\x60 as a point in time" := by
  rw [methodView, identifierOf?_eq] at h
  split at h
  · rename_i field hfield
    cases h
    exact ⟨rfl, hfield, rfl⟩
  · cases h

theorem filterMap_timeMethod? (fs : List Field) : fs.filterMap timeMethod? =
    (fs.filter fun f => (timeMethod? f).isSome).map fun f => ⟨f.name, f.name ++ "Time"⟩ := by
  induction fs with
  | nil => rfl
  | cons f fs ih =>
    cases hf : timeMethod? f with
    | none => rw [List.filterMap_cons_none hf, List.filter_cons_of_neg (by simp [hf]), ih]
    | some m =>
      rw [List.filterMap_cons_some hf, List.filter_cons_of_pos (by simp [hf]), ih, List.map_cons,
        (timeMethod?_eq_some.1 hf).2]

theorem methods_eq_map_timeFields (hlength : c.fields.length = v.fields.length)
    (hmethods : c.methods = c.fields.filterMap timeMethod?) :
    c.methods = (timeFields c v).map fun p => ⟨p.1.name, p.1.name ++ "Time"⟩ := by
  rw [hmethods, filterMap_timeMethod?, timeFields]
  conv_lhs => rw [← map_fst_viewedFields hlength, List.filter_map, List.map_map]
  rfl

theorem forall₂_accessorOf (hv : classView r c = .ok v)
    (hmethods : c.methods = c.fields.filterMap timeMethod?) :
    List.Forall₂ (AccessorOf c v) (timeFields c v) v.methods := by
  obtain ⟨-, -, hfields, hviews⟩ := classView_eq_ok hv
  obtain ⟨hshown, -, -⟩ := fieldViews_eq_ok hfields
  rw [methods_eq_map_timeFields hshown.length_eq hmethods, Outcome.mapM_eq_ok,
    List.forall₂_map_left_iff] at hviews
  have htypes : ∀ p ∈ timeFields c v, p.2.type = .optional (.path "i64") := by
    intro p hp
    obtain ⟨hmem, htime⟩ := List.mem_filter.1 hp
    have htype := (List.forall₂_zip hshown hmem).type
    rw [type_of_isSome_timeMethod? htime] at htype
    exact (Except.ok.inj htype).symm
  refine (List.forall₂_and_left _ _ |>.2 ⟨htypes, hviews⟩).imp fun p m ⟨htype, hview⟩ => ?_
  obtain ⟨hidentifier, hfield, hdocs⟩ := methodView_eq_ok hview
  exact ⟨htype, hidentifier, hfield, hdocs⟩

/-- Every good element is the last one with its key exactly if none is followed by another with this
key. -/
theorem forall_getLast?_iff {α κ : Type} [DecidableEq κ] {key : α → κ} {good : α → Prop} {xs : List α}
    (h : xs.Nodup) :
    (∀ x ∈ xs, good x → (xs.filter fun y => key y = key x).getLast? = some x) ↔
      xs.Pairwise fun x y => good x → key y ≠ key x := by
  induction xs with
  | nil => simp
  | cons x xs ih =>
    obtain ⟨hx, hxs⟩ := List.nodup_cons.1 h
    rw [List.forall_mem_cons, List.pairwise_cons, ← ih hxs]
    have hlast : ∀ {l : List α} {z : α}, z ∈ l → (x :: l).getLast? = l.getLast? := fun hz => by
      rw [List.getLast?_cons, List.getLast?_eq_some_getLast (List.ne_nil_of_mem hz), Option.getD_some]
    refine and_congr ?_ (forall₂_congr fun y hy => imp_congr_right fun _ => ?_)
    · rw [List.filter_cons_of_pos (by simp)]
      constructor
      · intro hfirst y hy hgood hkey
        have hmem : y ∈ xs.filter fun y => key y = key x := List.mem_filter.2 ⟨hy, by simpa using hkey⟩
        have hin := List.mem_of_getLast? ((hlast hmem).symm.trans (hfirst hgood))
        exact hx (List.mem_filter.1 hin).1
      · intro hnone hgood
        rw [List.filter_eq_nil_iff.2 fun y hy => by simpa using hnone y hy hgood]
        rfl
    · have hmem : y ∈ xs.filter fun z => key z = key y := List.mem_filter.2 ⟨hy, by simp⟩
      rw [List.filter_cons]
      split
      · rw [hlast hmem]
      · rfl

theorem reads_iff (hnodup : ((viewedFields c v).map (·.2.identifier)).Nodup) {p : Field × FieldView}
    (hp : p ∈ timeFields c v) {m : MethodView} (h : AccessorOf c v p m) :
    Reads p m ↔ lastNamed? c v p.1.name = some p := by
  constructor
  · intro hreads
    obtain ⟨q, hq, hidentifier⟩ := Option.map_eq_some_iff.1 h.field
    have hmem : q ∈ viewedFields c v := (List.mem_filter.1 (List.mem_of_getLast? hq)).1
    have hsame := List.inj_on_of_nodup_map hnodup hmem (List.mem_filter.1 hp).1 (hidentifier.trans hreads)
    rw [hq, hsame]
  · intro hlast
    have hfield := h.field
    rw [hlast, Option.map_some, Option.some.injEq] at hfield
    exact hfield.symm

theorem forall₂_iff_forall {α β : Type} {R S : α → β → Prop} {P : α → Prop} {xs : List α} {ys : List β}
    (h : List.Forall₂ R xs ys) (hiff : ∀ x ∈ xs, ∀ y, R x y → (S x y ↔ P x)) :
    List.Forall₂ S xs ys ↔ ∀ x ∈ xs, P x := by
  induction h with
  | nil => simp
  | cons hxy _ ih =>
    rw [List.forall₂_cons, List.forall_mem_cons, hiff _ List.mem_cons_self _ hxy,
      ih fun x hx => hiff x (List.mem_cons_of_mem _ hx)]

variable {config : Config} {doc : Document}

/-- The methods of a class stand for the fields that are points in time, one by one. Each reads the last
field that is named like its own: so it reads its own exactly if no later one shares the name. -/
theorem accessors_read_iff (hr : extract config doc = .ok r) (hc : c ∈ r.classes)
    (hv : classView r c = .ok v) :
    List.Forall₂ (ShownAs r) c.fields v.fields ∧ (v.fields.map (·.identifier)).Nodup ∧
    List.Forall₂ (AccessorOf c v) (timeFields c v) v.methods ∧
    (List.Forall₂ Reads (timeFields c v) v.methods ↔
      c.fields.Pairwise fun f g => (timeMethod? f).isSome → g.name ≠ f.name) ∧
    ((v.methods.map (·.identifier)).Nodup ↔
      (timeFields c v).Pairwise fun p q => ¬ SameAccessor p.1.name q.1.name) := by
  obtain ⟨-, -, hmethods⟩ := Extraction.exists_readFields hr hc
  obtain ⟨-, -, hfields, -⟩ := classView_eq_ok hv
  obtain ⟨hshown, -, hnodup⟩ := fieldViews_eq_ok hfields
  have haccessors := forall₂_accessorOf hv hmethods
  refine ⟨hshown, hnodup, haccessors, ?_, ?_⟩
  · have hpairs := nodup_identifiers hshown.length_eq hnodup
    rw [forall₂_iff_forall haccessors fun p hp m hm => reads_iff hpairs hp hm,
      ← map_fst_viewedFields hshown.length_eq, List.pairwise_map,
      ← forall_getLast?_iff (List.Nodup.of_map _ hpairs)]
    simp only [timeFields, List.mem_filter, and_imp]
    rfl
  · rw [Rearranged.map_eq_of_forall₂ (fun _ _ hm => hm.identifier) haccessors, List.Nodup,
      List.pairwise_map]
    simp only [ne_eq, accessorIdentifier_eq_iff]

open RawNode in
/-- A class with some fields that count milliseconds, and others. -/
def champion (times others : List String) : RawNode :=
  branch "document" [] [resource "resource_1" "champion-v1.2" [operation "/champion" [responseClasses [
    returnValue "ChampionDto",
    responseBody "ChampionDto" (
      times.map (fun name => [name, "long", "Epoch milliseconds."]) ++
      others.map (fun name => [name, "string", ""]))]]]]

theorem exists_view_champion (times others : List String) {β : Type}
    {f : ResponseClass → ClassView → β} {b : β} (h : (extract {} (champion times others).number).toOption.map (fun r =>
      r.classes.map fun c => (classView r c).toOption.map (f c)) = some [some b]) :
    ∃ r c v, extract {} (champion times others).number = .ok r ∧ c ∈ r.classes ∧
      classView r c = .ok v ∧ f c v = b := by
  obtain ⟨r, hr, hclasses⟩ := Outcome.exists_ok_of_map_toOption h
  obtain ⟨c, hc, hview⟩ := List.map_eq_singleton_iff.1 hclasses
  obtain ⟨v, hv, hb⟩ := Outcome.exists_ok_of_map_toOption hview
  exact ⟨r, c, v, hr, hc ▸ List.mem_cons_self, hv, hb⟩

theorem accessors_read_champion :
    ∃ r c v, extract {} (champion ["createDate", "modifyDate"] ["name"]).number = .ok r ∧
      c ∈ r.classes ∧ classView r c = .ok v ∧
      v.methods.map (·.identifier) = ["create_date_time", "modify_date_time"] ∧
      List.Forall₂ Reads (timeFields c v) v.methods := by
  obtain ⟨r, c, v, hr, hc, hv, hb⟩ := exists_view_champion ["createDate", "modifyDate"] ["name"]
    (f := fun c v => (c.fields.map (·.name), v.methods.map (·.identifier)))
    (b := (["CreateDate", "ModifyDate", "Name"], ["create_date_time", "modify_date_time"]))
    (by decide +kernel)
  obtain ⟨hnames, hidentifiers⟩ := Prod.mk.inj hb
  have hnodup : (c.fields.map (·.name)).Nodup := hnames ▸ by decide
  obtain ⟨-, -, -, hreads, -⟩ := accessors_read_iff hr hc hv
  refine ⟨r, c, v, hr, hc, hv, hidentifiers, hreads.2 ?_⟩
  exact (List.pairwise_map.1 hnodup).imp fun hne _ => hne.symm

/-- Two fields of one name: the method of the first one reads the second one, and has the identifier of
the method of that one. -/
theorem accessors_crossed :
    ∃ r c v, extract {} (champion ["createDate", "CreateDate"] []).number = .ok r ∧
      c ∈ r.classes ∧ classView r c = .ok v ∧
      ¬ List.Forall₂ Reads (timeFields c v) v.methods ∧ ¬ (v.methods.map (·.identifier)).Nodup := by
  obtain ⟨r, c, v, hr, hc, hv, hb⟩ := exists_view_champion ["createDate", "CreateDate"] []
    (f := fun c v => ((timeFields c v).map (·.2.identifier), v.methods.map (·.field),
      v.methods.map (·.identifier)))
    (b := (["create_date", "create_date_2"], ["create_date_2", "create_date_2"],
      ["create_date_time", "create_date_time"]))
    (by decide +kernel)
  simp only [Prod.mk.injEq] at hb
  obtain ⟨hown, hread, hidentifiers⟩ := hb
  refine ⟨r, c, v, hr, hc, hv, fun hall => ?_, by rw [hidentifiers]; decide⟩
  have hsame := Rearranged.map_eq_of_forall₂ (fun _ _ hm => hm) hall
  rw [hread, hown] at hsame
  exact absurd hsame (by decide)

end TypedClient.Source
