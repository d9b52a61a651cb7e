import TypedClient.Proofs.Extraction.Interchange
import TypedClient.Proofs.Extraction.Passes
import TypedClient.Proofs.Positions
import TypedClient.Proofs.Rearranged

namespace TypedClient.Extraction

open Node Text

variable {config : Config} {entries entries' : List ResourceEntry}

/-- A declaration with its body numbered from zero and its resource at no position. -/
def Declaration.bare (d : Declaration) : Declaration :=
  { d with owner := 0, body := d.body.bare.number }

theorem declarationOf_map_add (owner owner' : ResourceId) (resource : String) (body : Document)
    (k : Nat) : declarationOf owner resource (body.map (· + k)) =
      (declarationOf owner' resource body).map fun d =>
        { d with owner, body := d.body.map (· + k) } := by
  unfold declarationOf
  rw [childOfKind?_map]
  cases body.childOfKind? "title" with
  | none => rfl
  | some title =>
    rw [Option.map_some, Option.bind_some, Option.bind_some, flatText_map, bodyDescription_map_add]
    split <;> rfl

theorem bare_declarationOf {owner : ResourceId} {resource : String} {body : Document}
    (h : body.Numbered) : (declarationOf owner resource body).map Declaration.bare =
      declarationOf 0 resource body.bare.number := by
  obtain ⟨k, hk⟩ := h.eq_map
  have hstart : body.bare.number.bare.number = body.bare.number := by rw [bare_number]
  generalize body.bare.number = start at hk hstart ⊢
  rw [hk, declarationOf_map_add owner 0, Option.map_map]
  cases hd : declarationOf 0 resource start with
  | none => rfl
  | some d =>
    obtain ⟨howner, -, rfl⟩ := declarationOf_eq_some hd
    simp [Declaration.bare, bare_map, hstart, ← howner]

theorem titleOf_bare (body : Document) :
    titleOf body.bare = (body.childOfKind? "title").map (·.flatText) := by
  rw [titleOf, childOfKind?_bare, Option.map_map]
  cases body.childOfKind? "title" with
  | none => rfl
  | some title => exact congrArg some (flatText_bare title)

theorem any_declarationOf (owner : ResourceId) (resource : String) (identity : ClassIdentity)
    (body : Document) :
    ((declarationOf owner resource body).any fun d => d.identity = identity) =
      (decide (resource = identity.resource ∧ identity.raw ≠ returnValueTitle) &&
        decide (titleOf body.bare = some identity.raw)) := by
  obtain ⟨r, raw⟩ := identity
  rw [titleOf_bare]
  unfold declarationOf
  cases body.childOfKind? "title" with
  | none => simp
  | some title =>
    by_cases hreturn : title.flatText = returnValueTitle
    · rw [Option.bind_some, if_pos hreturn, Option.map_some, hreturn]
      by_cases hraw : returnValueTitle = raw
      · simp [← hraw]
      · simp [hraw]
    · by_cases hraw : title.flatText = raw
      · subst hraw
        simp [hreturn, Declaration.identity]
      · simp [hreturn, hraw, Declaration.identity]

/-- What a resource declares, read off its bodies as they are written. -/
def declaredIn (resource : String) (bodies : List RawNode) : List Declaration :=
  bodies.filterMap fun body => declarationOf 0 resource body.number

/-- The first declaration of a class is made by the first body with the class's title. -/
theorem find?_declaredIn (resource : String) (bodies : List RawNode) (identity : ClassIdentity) :
    (declaredIn resource bodies).find? (·.identity = identity) =
      if resource = identity.resource ∧ identity.raw ≠ returnValueTitle then
        (bodies.find? (titleOf · = some identity.raw)).bind fun body =>
          declarationOf 0 resource body.number
      else none := by
  rw [declaredIn, List.find?_filterMap]
  simp only [any_declarationOf, bare_number]
  split
  · rename_i hdeclared
    simp only [decide_eq_true hdeclared, Bool.true_and]
  · rename_i hdeclared
    have hnone : bodies.find? (fun _ => false) = none := by simp
    simp only [decide_eq_false hdeclared, Bool.false_and, hnone, Option.bind_none]

theorem find?_declaredIn_of_sameFirst (resource : String) {bodies bodies' : List RawNode}
    (h : SameFirst bodies bodies') (identity : ClassIdentity) :
    (declaredIn resource bodies').find? (·.identity = identity) =
      (declaredIn resource bodies).find? (·.identity = identity) := by
  rw [find?_declaredIn, find?_declaredIn, h.first]

theorem numbered_bodiesOf {entry : ResourceEntry} (h : entry.node.Numbered) :
    ∀ body ∈ bodiesOf entry, body.Numbered :=
  fun _ hb => Numbered.of_mem_searchKind (fun _ hc => h.of_mem_children hc) hb

def writtenBodies (entry : ResourceEntry) : List RawNode :=
  entry.node.bare.descendantsOfKind "response_body"

theorem map_bare_declarations (h : ∀ entry ∈ entries, entry.node.Numbered) :
    (declarations entries).map Declaration.bare =
      entries.flatMap fun entry => declaredIn entry.id (writtenBodies entry) := by
  have hentry : ∀ (i : ResourceId) (entry : ResourceEntry), entry.node.Numbered →
      ((bodiesOf entry).filterMap (declarationOf i entry.id)).map Declaration.bare =
        declaredIn entry.id (writtenBodies entry) := by
    intro i entry hn
    rw [declaredIn, writtenBodies, descendantsOfKind_bare, List.map_filterMap, List.filterMap_map]
    exact List.filterMap_congr fun body hm => bare_declarationOf (numbered_bodiesOf hn body hm)
  have hfrom : ∀ first, (declarationsFrom first entries).map Declaration.bare =
      entries.flatMap fun entry => declaredIn entry.id (writtenBodies entry) := by
    induction entries with
    | nil => exact fun _ => rfl
    | cons entry entries ih =>
      intro first
      have hrest := ih (fun e he => h e (List.mem_cons_of_mem _ he)) (first + 1)
      rw [declarationsFrom, List.zipIdx_cons, List.flatMap_cons, List.flatMap_cons, List.map_append,
        hentry _ _ (h entry List.mem_cons_self), ← hrest]
      rfl
  exact hfrom 0

theorem numbered_of_rearranged (h : Rearranged SameResource entries entries') :
    (∀ entry ∈ entries, entry.node.Numbered) ∧ ∀ entry ∈ entries', entry.node.Numbered := by
  obtain ⟨mid, hmid, hperm⟩ := h
  have hboth : (∀ entry ∈ entries, entry.node.Numbered) ∧ ∀ entry ∈ mid, entry.node.Numbered := by
    clear hperm
    induction hmid with
    | nil => exact ⟨fun _ he => (List.not_mem_nil he).elim, fun _ he => (List.not_mem_nil he).elim⟩
    | cons he _ ih =>
      exact ⟨List.forall_mem_cons.2 ⟨he.node.left, ih.1⟩, List.forall_mem_cons.2 ⟨he.node.right, ih.2⟩⟩
  exact ⟨hboth.1, fun entry he => hboth.2 entry (hperm.mem_iff.2 he)⟩

theorem find?_declarations (h : Rearranged SameResource entries entries')
    (hids : (entries'.map (·.id)).Nodup) (identity : ClassIdentity) :
    ((declarations entries').map Declaration.bare).find? (·.identity = identity) =
      ((declarations entries).map Declaration.bare).find? (·.identity = identity) := by
  obtain ⟨hnumbered, hnumbered'⟩ := numbered_of_rearranged h
  obtain ⟨mid, hmid, hperm⟩ := h
  rw [map_bare_declarations hnumbered, map_bare_declarations hnumbered']
  have hsame : (mid.flatMap fun entry => declaredIn entry.id (writtenBodies entry)).find?
      (·.identity = identity) =
      (entries.flatMap fun entry => declaredIn entry.id (writtenBodies entry)).find?
        (·.identity = identity) := by
    clear hnumbered hnumbered' hperm
    induction hmid with
    | nil => rfl
    | cons he _ ih =>
      rw [List.flatMap_cons, List.flatMap_cons, List.find?_append, List.find?_append, ih, he.id]
      exact congrArg₂ Option.or (find?_declaredIn_of_sameFirst _ he.bodies identity) rfl
  rw [← hsame]
  exact find?_flatMap_of_perm hperm ((hperm.map _).nodup_iff.2 hids)
    fun entry hne => by rw [find?_declaredIn, if_neg fun h => hne h.1]

theorem identity_bare (d : Declaration) : d.bare.identity = d.identity := rfl

theorem firstDeclarations_perm (h : Rearranged SameResource entries entries')
    (hids : (entries'.map (·.id)).Nodup) :
    ((firstDeclarations entries).map Declaration.bare).Perm
      ((firstDeclarations entries').map Declaration.bare) := by
  have hfirsts : ∀ es, (firstDeclarations es).map Declaration.bare =
      firstsBy Declaration.identity ((declarations es).map Declaration.bare) :=
    fun es => (firstsBy_map Declaration.identity Declaration.bare (declarations es)).symm
  rw [hfirsts, hfirsts]
  exact firstsBy_perm fun identity => find?_declarations h hids identity

theorem exists_declaration (h : Rearranged SameResource entries entries')
    (hids : (entries'.map (·.id)).Nodup) {d' : Declaration} (hd' : d' ∈ declarations entries') :
    ∃ d ∈ declarations entries, d.identity = d'.identity := by
  have hfind := find?_declarations h hids d'.identity
  cases hfound : ((declarations entries).map Declaration.bare).find? (·.identity = d'.identity) with
  | none =>
    rw [hfound, List.find?_eq_none] at hfind
    exact absurd (by simp [identity_bare]) (hfind d'.bare (List.mem_map_of_mem hd'))
  | some b =>
    obtain ⟨d, hd, rfl⟩ := List.mem_map.1 (List.mem_of_find?_eq_some hfound)
    have hid := List.find?_some hfound
    exact ⟨d, hd, of_decide_eq_true hid⟩

theorem Distinct.of_rearranged (h : Rearranged SameResource entries entries')
    (hids : (entries'.map (·.id)).Nodup) (hd : Distinct config (declarations entries)) :
    Distinct config (declarations entries') := by
  intro x' hx' y' hy' hname
  obtain ⟨x, hx, hxid⟩ := exists_declaration h hids hx'
  obtain ⟨y, hy, hyid⟩ := exists_declaration h hids hy'
  rw [← hxid, ← hyid]
  refine hd x hx y hy ?_
  rw [Declaration.name_eq_of_identity_eq hxid, Declaration.name_eq_of_identity_eq hyid, hname]

theorem titled_iff_bare (bodies : List Document) :
    Titled bodies ↔ ∀ body ∈ bodies.map bare, (titleOf body).isSome := by
  simp [Titled, titleOf_bare]

theorem Titled.of_rearranged (h : Rearranged SameResource entries entries')
    (ht : Titled (entries.flatMap bodiesOf)) : Titled (entries'.flatMap bodiesOf) := by
  have hall : ∀ es : List ResourceEntry, Titled (es.flatMap bodiesOf) ↔
      ∀ entry ∈ es, Titled (bodiesOf entry) := fun es => List.forall_mem_flatMap
  rw [hall] at ht ⊢
  obtain ⟨mid, hmid, hperm⟩ := h
  have hmid' : ∀ entry ∈ mid, Titled (bodiesOf entry) := by
    clear hperm
    induction hmid with
    | nil => exact ht
    | cons he _ ih =>
      have hbodies := he.bodies.titled
      rw [descendantsOfKind_bare, descendantsOfKind_bare, ← titled_iff_bare, ← titled_iff_bare] at hbodies
      rw [List.forall_mem_cons] at ht ⊢
      exact ⟨hbodies.1 ht.1, ih ht.2⟩
  exact fun entry he => hmid' entry (hperm.mem_iff.2 he)

/-- Where the first declarations of one list of resources stand among those of another. -/
structure Moves (σ : Equiv.Perm ClassId) (entries entries' : List ResourceEntry) : Prop where
  bare : ∀ i : ClassId, (firstDeclarations entries')[σ i]?.map Declaration.bare =
    (firstDeclarations entries)[i]?.map Declaration.bare

theorem exists_moves (h : Rearranged SameResource entries entries')
    (hids : (entries'.map (·.id)).Nodup) : ∃ σ : Equiv.Perm ClassId, Moves σ entries entries' := by
  obtain ⟨σ, hσ⟩ := exists_positions (firstDeclarations_perm h hids)
  refine ⟨σ, ⟨fun i => ?_⟩⟩
  rw [← List.getElem?_map, ← List.getElem?_map]
  exact hσ i

variable {σ : Equiv.Perm ClassId}

theorem Moves.symm (h : Moves σ entries entries') : Moves σ.symm entries' entries where
  bare i := by
    have hi := h.bare (σ.symm i)
    rw [Equiv.apply_symm_apply] at hi
    exact hi.symm

theorem Moves.exists_getElem? (h : Moves σ entries entries') {i : ClassId} {d : Declaration}
    (hd : (firstDeclarations entries)[i]? = some d) :
    ∃ d', (firstDeclarations entries')[σ i]? = some d' ∧ d'.bare = d.bare := by
  have hbare := h.bare i
  rw [hd, Option.map_some, Option.map_eq_some_iff] at hbare
  exact hbare

theorem Moves.typesOf (h : Moves σ entries entries') (hd : Distinct config (declarations entries))
    (hd' : Distinct config (declarations entries')) :
    typesOf config entries' = renamed σ (Extraction.typesOf config entries) := by
  funext name
  refine Option.ext fun c => ?_
  rw [typesOf_eq_some_iff hd', renamed, Option.map_eq_some_iff]
  constructor
  · rintro ⟨d', hget, rfl⟩
    obtain ⟨d, hold, hbare⟩ := h.symm.exists_getElem? hget
    have hname : d.name config = d'.name config := congrArg (·.name config) hbare
    exact ⟨σ.symm c, (typesOf_eq_some_iff hd).2 ⟨d, hold, hname⟩, σ.apply_symm_apply c⟩
  · rintro ⟨b, hb, rfl⟩
    obtain ⟨d, hold, rfl⟩ := (typesOf_eq_some_iff hd).1 hb
    obtain ⟨d', hget, hbare⟩ := h.exists_getElem? hold
    exact ⟨d', hget, congrArg (·.name config) hbare⟩

theorem sameClass_of_bare_eq {d d' : Declaration} (h : d'.bare = d.bare) (i : ClassId) :
    SameClass σ (d.toPending i) (d'.toPending (σ i)) where
  id := rfl
  resource := congrArg (·.resource) h
  rawName := congrArg (·.rawName) h
  body := by
    have hbody : d'.body.bare.number = d.body.bare.number := congrArg (·.body) h
    have hbare := congrArg Node.bare hbody
    rwa [bare_number, bare_number] at hbare

/-- If the resources stand in the same order, then the resource of a class is at the same position. -/
theorem toClass_of_bare_eq (hids : (entries.map (·.id)).Nodup)
    (hsame : entries'.map (·.id) = entries.map (·.id)) {d d' : Declaration}
    (hd : d ∈ declarations entries) (hd' : d' ∈ declarations entries') (h : d'.bare = d.bare) :
    d'.toClass config = d.toClass config := by
  have howned : Owned entries d' := by
    have howned' := owned_declarations hd'
    rwa [Owned, ← List.getElem?_map, hsame, List.getElem?_map] at howned'
  have howner : d'.owner = d.owner :=
    (owner_eq_iff hids howned (owned_declarations hd)).2 (congrArg (·.resource) h)
  have hclass : d'.bare.toClass config = d.bare.toClass config := congrArg (·.toClass config) h
  calc d'.toClass config = { d'.bare.toClass config with resource := d'.owner } := rfl
    _ = { d.bare.toClass config with resource := d.owner } := by rw [hclass, howner]
    _ = d.toClass config := rfl

theorem exists_forall₂ {α β : Type} {R : α → β → Prop} {xs : List α} (h : ∀ x ∈ xs, ∃ y, R x y) :
    ∃ ys, List.Forall₂ R xs ys := by
  induction xs with
  | nil => exact ⟨[], List.Forall₂.nil⟩
  | cons x xs ih =>
    obtain ⟨y, hy⟩ := h x List.mem_cons_self
    obtain ⟨ys, hys⟩ := ih fun x' hx' => h x' (List.mem_cons_of_mem x hx')
    exact ⟨y :: ys, List.Forall₂.cons hy hys⟩

theorem Moves.exists_fields (h : Moves σ entries entries')
    (htypes : Extraction.typesOf config entries' = renamed σ (Extraction.typesOf config entries))
    {fields : List (List Field)} (hfields : FieldsOf config entries fields) :
    ∃ fields', FieldsOf config entries' fields' := by
  refine exists_forall₂ fun p hp => ?_
  obtain ⟨i, hi⟩ := List.mem_iff_getElem?.1 hp
  have hpending : (firstDeclarations entries')[i]?.map (·.toPending i) = some p := by
    rw [← hi]
    simp [firstPass, registered]
  obtain ⟨d', hget, rfl⟩ := Option.map_eq_some_iff.1 hpending
  obtain ⟨d, hold, hbare⟩ := h.symm.exists_getElem? hget
  obtain ⟨fs, hread, -⟩ := getElem?_secondPass hfields hold
  have hclass := sameClass_of_bare_eq (σ := σ) hbare.symm (σ.symm i)
  rw [Equiv.apply_symm_apply] at hclass
  rw [htypes]
  exact ⟨_, readFields_rename hclass hread⟩

theorem map_toResource_of_sameResource (h : List.Forall₂ SameResource entries entries') :
    entries'.map (·.toResource) = entries.map (·.toResource) := by
  induction h with
  | nil => rfl
  | cons he _ ih => rw [List.map_cons, List.map_cons, he.toResource, ih]

theorem secondPass_rename (h : Moves σ entries entries')
    (he : List.Forall₂ SameResource entries entries') (hids : (entries.map (·.id)).Nodup)
    (htypes : typesOf config entries' = renamed σ (typesOf config entries))
    {fields fields' : List (List Field)} (hfields : FieldsOf config entries fields)
    (hfields' : FieldsOf config entries' fields') :
    (secondPass config entries fields).Renames σ (secondPass config entries' fields') where
  regions := rfl
  resources := map_toResource_of_sameResource he
  endpoints := rfl
  operations := rfl
  classes := by
    intro i
    cases hd : (firstDeclarations entries)[i]? with
    | none =>
      have hd' := h.bare i
      rw [hd, Option.map_none, Option.map_eq_none_iff] at hd'
      rw [List.getElem?_eq_none_iff] at hd hd'
      rw [← length_classes_secondPass hfields] at hd
      rw [← length_classes_secondPass hfields'] at hd'
      rw [List.getElem?_eq_none hd, List.getElem?_eq_none hd', Option.map_none]
    | some d =>
      -- The declaration has moved with its body, and its fields are read from there.
      obtain ⟨d', hd', hbare⟩ := h.exists_getElem? hd
      obtain ⟨fs, hread, hclass⟩ := getElem?_secondPass hfields hd
      obtain ⟨fs', hread', hclass'⟩ := getElem?_secondPass hfields' hd'
      have hsame : entries'.map (·.id) = entries.map (·.id) :=
        Rearranged.map_eq_of_forall₂ (fun _ _ h => h.id) he
      have hrename := readFields_rename (sameClass_of_bare_eq (σ := σ) hbare i) hread
      rw [← htypes, hread'] at hrename
      rw [hclass, hclass', Except.ok.inj hrename, withMembers_rename, toClass_of_bare_eq hids hsame
        (mem_of_mem_firstsBy (List.mem_of_getElem? hd))
        (mem_of_mem_firstsBy (List.mem_of_getElem? hd')) hbare]
      rfl

/-- The same resources in another order can be extracted as well. -/
theorem extract_succeeds_of_rearranged {doc doc' : Document} {r : Registry}
    (hentries : resources config doc = .ok entries) (hentries' : resources config doc' = .ok entries')
    (he : Rearranged SameResource entries entries') (h : extract config doc = .ok r) :
    ∃ r', extract config doc' = .ok r' := by
  obtain ⟨es, fields, hes, htitled, hdistinct, hfields, hrun⟩ := extract_eq_ok.1 h
  obtain rfl : entries = es := Except.ok.inj (hentries.symm.trans hes)
  have hids' := nodup_resources hentries'
  obtain ⟨σ, hσ⟩ := exists_moves he hids'
  have hdistinct' := hdistinct.of_rearranged he hids'
  have htypes := hσ.typesOf hdistinct hdistinct'
  obtain ⟨fields', hfields'⟩ := hσ.exists_fields htypes hfields
  obtain ⟨hsome, hnodup⟩ := (thirdPass_succeeds_iff rfl).1 ⟨r, hrun⟩
  have hnames := names_perm (σ := σ) he hsome
  obtain ⟨r', hrun'⟩ := (thirdPass_succeeds_iff (r := secondPass config entries' fields') rfl).2
    ⟨fun name hn => hsome name (hnames.mem_iff.1 hn), hnames.nodup_iff.2 hnodup⟩
  rw [← htypes] at hrun'
  exact ⟨r', extract_eq_ok.2 ⟨entries', fields', hentries', htitled.of_rearranged he, hdistinct',
    hfields', hrun'⟩⟩

/-- Documents with the same resources in the same order, up to the order of what these declare, have
the same registry up to the positions of classes. -/
theorem extract_rename {doc doc' : Document} {r : Registry}
    (hentries : resources config doc = .ok entries) (hentries' : resources config doc' = .ok entries')
    (he : List.Forall₂ SameResource entries entries') (h : extract config doc = .ok r) :
    ∃ r', extract config doc' = .ok r' ∧ ∃ σ : Equiv.Perm ClassId, r.Renames σ r' := by
  obtain ⟨es, fields, hes, htitled, hdistinct, hfields, hrun⟩ := extract_eq_ok.1 h
  obtain rfl : entries = es := Except.ok.inj (hentries.symm.trans hes)
  have hsame := Rearranged.of_forall₂ he
  have hids' := nodup_resources hentries'
  obtain ⟨σ, hσ⟩ := exists_moves hsame hids'
  have hdistinct' := hdistinct.of_rearranged hsame hids'
  have htypes := hσ.typesOf hdistinct hdistinct'
  obtain ⟨fields', hfields'⟩ := hσ.exists_fields htypes hfields
  obtain ⟨r', hrun', hr⟩ := thirdPass_rename he
    (secondPass_rename hσ he (nodup_resources hentries) htypes hfields hfields') hrun
  rw [← htypes] at hrun'
  exact ⟨r', extract_eq_ok.2 ⟨entries', fields', hentries', htitled.of_rearranged hsame, hdistinct',
    hfields', hrun'⟩, σ, hr⟩

end TypedClient.Extraction
