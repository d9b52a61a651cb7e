import TypedClient.Extraction.Extract
import TypedClient.Proofs.Extraction.Renumbering
import TypedClient.Proofs.Extraction.Resources
import TypedClient.Proofs.Lockstep
import TypedClient.Proofs.Rearranged

namespace TypedClient

/-- The place without the number of its node. -/
def Place.unnumbered : Place → Place
  | resourceNode _ => resourceNode 0
  | operationNode _ owner => operationNode 0 owner
  | place => place

def Failure.unnumbered : Failure → Failure
  | structural place fault => structural place.unnumbered fault
  | f => f

def SameFailure (f g : Failure) : Prop := f.unnumbered = g.unnumbered

namespace Extraction

open Node Text

variable {config : Config} {types : String → Option ClassId}

theorem lockstep_rfl {α : Type} (x : Except Failure α) : Lockstep SameFailure Eq x x :=
  Lockstep.refl (E := SameFailure) (fun _ => rfl) (fun _ => rfl) x

section Place

variable {place place' : Place} (h : place.unnumbered = place'.unnumbered)

include h

theorem sameFailure_structural (fault : StructuralFault) :
    SameFailure (.structural place fault) (.structural place' fault) :=
  congrArg (Failure.structural · fault) h

theorem lockstep_orFault {α : Type} (fault : StructuralFault) (o : Option α) :
    Lockstep SameFailure Eq (orFault place fault o) (orFault place' fault o) := by
  cases o with
  | none => exact .error (sameFailure_structural h fault)
  | some a => exact .ok rfl

theorem lockstep_requiredAttr {n n' : Document} {name : String} (hattr : n.attr? name = n'.attr? name) :
    Lockstep SameFailure Eq (requiredAttr place n name) (requiredAttr place' n' name) := by
  rw [requiredAttr, requiredAttr, hattr]
  cases n'.attr? name with
  | none => exact .error (sameFailure_structural h _)
  | some value => exact .ok rfl

theorem lockstep_readRegions (cs : List Char) :
    Lockstep SameFailure Eq (readRegions place cs) (readRegions place' cs) := by
  unfold readRegions
  dsimp only
  split
  · exact lockstep_rfl _
  · have hname : ∀ name name' : List Char, name = name' →
        Lockstep SameFailure Eq (readRegion place name) (readRegion place' name') := by
      rintro name _ rfl
      exact lockstep_orFault h _ _
    apply (Lockstep.mapM hname (List.forall₂_refl _)).mono
    intro regions regions' hregions
    rwa [List.forall₂_eq_eq_eq] at hregions

end Place

theorem lockstep_readResource {n n' : Document} (hattrs : n.attrs = n'.attrs) :
    Lockstep SameFailure (fun e e' => e' = { e with node := n' }) (readResource n) (readResource n') := by
  have hplace : (Place.resourceNode n.label).unnumbered = (Place.resourceNode n'.label).unnumbered := rfl
  have hattr : ∀ name, n.attr? name = n'.attr? name := fun name => congrArg (Table.get? · name) hattrs
  apply (lockstep_requiredAttr hplace (hattr _)).bind
  rintro version _ rfl
  apply (lockstep_orFault hplace _ _).bind
  rintro pair _ rfl
  apply (lockstep_requiredAttr hplace (hattr _)).bind
  rintro number _ rfl
  apply (lockstep_orFault hplace _ _).bind
  rintro number _ rfl
  apply (lockstep_requiredAttr hplace (hattr _)).bind
  rintro list _ rfl
  apply (lockstep_readRegions hplace _).bind
  rintro regions _ rfl
  exact .ok rfl

/-- Entries that say the same, of nodes that are the same up to their numbers. -/
structure SameEntry (e e' : ResourceEntry) : Prop where
  node : Shifted e.node e'.node
  eq : e' = { e with node := e'.node }

/-- Nodes of one resource, which are the same up to their numbers unless the resource is skipped. -/
structure Agree (config : Config) (n n' : Document) : Prop where
  attrs : n.attrs = n'.attrs
  node : Shifted n n' ∨ (idIn? n.attrs).any config.isSkipped = true

theorem rel_find? {α : Type} {R : α → α → Prop} {p q : α → Bool} (hpq : ∀ x y, R x y → p x = q y)
    {xs ys : List α} (h : List.Forall₂ R xs ys) : Option.Rel R (xs.find? p) (ys.find? q) := by
  induction h with
  | nil => exact .none
  | @cons x y _ _ hxy _ ih =>
    rw [List.find?_cons, List.find?_cons, ← hpq x y hxy]
    cases p x with
    | true => exact .some hxy
    | false => exact ih

theorem forall₂_eraseP {α : Type} {R : α → α → Prop} {p q : α → Bool} (hpq : ∀ x y, R x y → p x = q y)
    {xs ys : List α} (h : List.Forall₂ R xs ys) : List.Forall₂ R (xs.eraseP p) (ys.eraseP q) := by
  induction h with
  | nil => exact .nil
  | @cons x y _ _ hxy hrest ih =>
    rw [List.eraseP_cons, List.eraseP_cons, ← hpq x y hxy]
    cases p x with
    | true => exact hrest
    | false => exact .cons hxy ih

theorem forall₂_toFront {α : Type} {R : α → α → Prop} {p q : α → Bool} (hpq : ∀ x y, R x y → p x = q y)
    {xs ys : List α} (h : List.Forall₂ R xs ys) : List.Forall₂ R (toFront p xs) (toFront q ys) := by
  unfold toFront
  have hfind := rel_find? hpq h
  cases hx : xs.find? p with
  | none =>
    rw [hx] at hfind
    cases hy : ys.find? q with
    | none => exact h
    | some y =>
      rw [hy] at hfind
      cases hfind
  | some x =>
    rw [hx] at hfind
    cases hy : ys.find? q with
    | none =>
      rw [hy] at hfind
      cases hfind
    | some y =>
      rw [hy] at hfind
      cases hfind with
      | some hxy => exact .cons hxy (forall₂_eraseP hpq h)

theorem lockstep_readResources {ns ns' : List Document} (h : List.Forall₂ (Agree config) ns ns')
    {before before' : List ResourceEntry} (hbefore : List.Forall₂ SameEntry before before') :
    Lockstep SameFailure (List.Forall₂ SameEntry) (readResources config before ns)
      (readResources config before' ns') := by
  induction h generalizing before before' with
  | nil => exact .ok hbefore
  | @cons n n' _ _ hn _ ih =>
    rw [readResources, readResources]
    apply (lockstep_readResource hn.attrs).results.bind
    rintro e _ ⟨rfl, he, he'⟩
    have hid := idIn?_of_readResource he
    -- A skipped entry is dropped here, which is all that happens to its node.
    by_cases hskip : config.isSkipped e.id = true
    · simp only [hskip, if_true]
      exact ih hbefore
    · have hshifted : Shifted n n' := hn.node.resolve_right (by simpa [hid] using hskip)
      have hids : before'.map (·.id) = before.map (·.id) :=
        Rearranged.map_eq_of_forall₂ (fun _ _ hb => by rw [hb.eq]) hbefore
      have hany : before'.any (·.id = e.id) = before.any (·.id = e.id) := by
        have hmem := congrArg (List.any · (· = e.id)) hids
        simpa only [List.any_map, Function.comp_def] using hmem
      have hentry : SameEntry e { e with node := n' } := ⟨node_of_readResource he ▸ hshifted, rfl⟩
      simp only [hskip, hany]
      split
      · contradiction
      · split
        · exact .error rfl
        · exact ih (List.rel_append hbefore (.cons hentry .nil))

theorem lockstep_resources {doc doc' : Document} (h : List.Forall₂ (Agree config)
      (doc.descendantsOfKind "resource") (doc'.descendantsOfKind "resource")) :
    Lockstep SameFailure (List.Forall₂ SameEntry) (resources config doc) (resources config doc') := by
  apply (lockstep_readResources h .nil).bind
  intro es es' hes
  cases config.firstResource with
  | none => exact .ok hes
  | some first =>
    apply Lockstep.ok
    apply forall₂_toFront _ hes
    intro e e' he
    rw [he.eq]

structure SamePending (c c' : PendingClass) : Prop where
  body : Shifted c.body c'.body
  eq : c' = { c with body := c'.body }

structure SameState (s s' : Registry × List PendingClass) : Prop where
  registry : s.1 = s'.1
  pending : List.Forall₂ SamePending s.2 s'.2

theorem lockstep_declareBody (owner : ResourceId) (resource : String) {s s' : Registry × List PendingClass}
    (hs : SameState s s') {body body' : Document} (hbody : Shifted body body') :
    Lockstep SameFailure SameState (declareBody config owner resource s body)
      (declareBody config owner resource s' body') := by
  obtain ⟨registry, pending⟩ := s
  obtain ⟨registry', pending'⟩ := s'
  obtain rfl : registry = registry' := hs.registry
  obtain ⟨t, j, k, rfl, rfl⟩ := hbody
  unfold declareBody
  rw [childOfKind?_map, childOfKind?_map]
  cases t.childOfKind? "title" with
  | none => exact .error rfl
  | some title =>
    simp only [Option.map_some, orFault, Outcome.ok_bind, flatText_map, bodyDescription_map_add]
    split
    · exact .ok hs
    · apply (lockstep_rfl _).bind
      rintro ⟨registry, declared⟩ _ rfl
      cases declared with
      | known c => exact .ok ⟨rfl, hs.pending⟩
      | added c =>
        exact .ok ⟨rfl, List.rel_append hs.pending (.cons ⟨⟨t, j, k, rfl, rfl⟩, rfl⟩ .nil)⟩

theorem lockstep_declareResource {s s' : Registry × List PendingClass} (hs : SameState s s')
    {e e' : ResourceEntry} (he : SameEntry e e') :
    Lockstep SameFailure SameState (declareResource config s e) (declareResource config s' e') := by
  have hresource : e'.toResource = e.toResource := by rw [he.eq]; rfl
  have hid : e'.id = e.id := by rw [he.eq]
  have hstart : SameState (s.1.addResource e.toResource, s.2) (s'.1.addResource e.toResource, s'.2) :=
    ⟨congrArg (·.addResource e.toResource) hs.registry, hs.pending⟩
  rw [declareResource, declareResource, hresource, hid, ← hs.registry]
  rw [← hs.registry] at hstart
  apply Lockstep.foldlM _ (he.node.descendantsOfKind "response_body") hstart
  intro t t' body body' ht hbody
  exact lockstep_declareBody _ _ ht hbody

theorem lockstep_declareAll {es es' : List ResourceEntry} (h : List.Forall₂ SameEntry es es') :
    Lockstep SameFailure SameState (declareAll config es) (declareAll config es') := by
  have hstart : SameState ({ regions := Region.all }, []) ({ regions := Region.all }, []) := ⟨rfl, .nil⟩
  apply Lockstep.foldlM _ h hstart
  intro s s' e e' hs he
  exact lockstep_declareResource hs he

theorem readMembers_eq {r : Registry} {c c' : PendingClass} (hc : SamePending c c') :
    readMembers config types r c' = readMembers config types r c := by
  have hfields : readFields config types c' = readFields config types c := by
    rw [hc.eq]
    apply (hc.body.congr (f := fun body => readFields config types { c with body }) ?_).symm
    intro t k
    exact readFields_map (· + k) { c with body := t }
  have hid : c'.id = c.id := by rw [hc.eq]
  rw [readMembers, readMembers, hfields, hid]

theorem lockstep_readOperation (resource : String) (e : EndpointId) {n n' : Document} (h : Shifted n n') :
    Lockstep SameFailure Eq (readOperation config types resource e n)
      (readOperation config types resource e n') := by
  obtain ⟨t, j, k, rfl, rfl⟩ := h
  have hplace : (Place.operationNode (t.map (· + j)).label resource).unnumbered =
      (Place.operationNode (t.map (· + k)).label resource).unnumbered := rfl
  have hattr : ∀ name, (t.map (· + j)).attr? name = (t.map (· + k)).attr? name := by
    intro name
    rw [attr?_map, attr?_map]
  unfold readOperation
  apply (lockstep_requiredAttr hplace (hattr _)).bind
  rintro id _ rfl
  apply (lockstep_orFault hplace _ _).bind
  rintro number _ rfl
  apply (lockstep_requiredAttr hplace (hattr _)).bind
  rintro method _ rfl
  apply (lockstep_requiredAttr hplace (hattr _)).bind
  rintro path _ rfl
  simp only [readBlocks_map_add, operationDescription_map]
  exact lockstep_rfl _

theorem lockstep_addEndpoint (resource : String) (owner : ResourceId) (r : Registry) {n n' : Document}
    (h : Shifted n n') : Lockstep SameFailure Eq (addEndpoint config types resource owner r n)
      (addEndpoint config types resource owner r n') := by
  refine Lockstep.foldlM (fun s s' child child' hs hchild => ?_) (h.childrenOfKind "operation") rfl
  obtain rfl := hs
  apply (lockstep_readOperation _ _ hchild).bind
  rintro op _ rfl
  exact lockstep_rfl _

theorem lockstep_addEndpoints (r : Registry) {p p' : ResourceEntry × ResourceId}
    (h : SameEntry p.1 p'.1) (hi : p'.2 = p.2) :
    Lockstep SameFailure Eq (addEndpoints config types r p) (addEndpoints config types r p') := by
  have hid : p'.1.id = p.1.id := by rw [h.eq]
  rw [addEndpoints, addEndpoints, hid, hi]
  refine Lockstep.foldlM (fun s s' n n' hs hn => ?_) (h.node.childrenOfKind "endpoint") rfl
  obtain rfl := hs
  exact lockstep_addEndpoint _ _ _ hn

/-- Documents with the same resources come to the same registry or to the same failure. -/
theorem lockstep_extract {doc doc' : Document} (h : List.Forall₂ (Agree config)
      (doc.descendantsOfKind "resource") (doc'.descendantsOfKind "resource")) :
    Lockstep SameFailure Eq (extract config doc) (extract config doc') := by
  apply (lockstep_resources h).bind
  intro es es' hes
  apply (lockstep_declareAll hes).bind
  rintro ⟨declared, pending⟩ ⟨_, pending'⟩ ⟨rfl, hpending⟩
  have hmembers : Lockstep SameFailure Eq (pending.foldlM (readMembers config declared.classNamed?) declared)
      (pending'.foldlM (readMembers config declared.classNamed?) declared) := by
    refine Lockstep.foldlM (fun r r' c c' hr hc => ?_) hpending rfl
    obtain rfl := hr
    rw [readMembers_eq hc]
    exact lockstep_rfl _
  apply hmembers.bind
  rintro classes _ rfl
  refine Lockstep.foldlM (fun r r' p p' hr hp => ?_) (forall₂_zipIdx hes 0) rfl
  obtain rfl := hr
  exact lockstep_addEndpoints _ hp.1 hp.2

end Extraction

end TypedClient
