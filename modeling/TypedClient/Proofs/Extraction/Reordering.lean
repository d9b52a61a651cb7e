import TypedClient.Proofs.Document.Search
import TypedClient.Proofs.Document.Written
import TypedClient.Proofs.Extraction.SameDocument

namespace TypedClient.Extraction

open Node Text

/-- Where a document has a block of response classes, reached from the root by children. -/
structure BlockPlace where
  rootKind : String
  root : Frame
  resource : Frame
  endpoint : Frame
  operation : Frame
  attrs : Table String
  text : String
  title : ∃ title, attrs.get? "title" = some title ∧ onChars trim title = "Response Classes"

namespace BlockPlace

variable (p : BlockPlace) (cs : List RawNode)

def block : RawNode := .mk () "block" p.attrs p.text cs

def resourceNode : RawNode :=
  p.resource.fill "resource" (p.endpoint.fill "endpoint" (p.operation.fill "operation" (p.block cs)))

/-- The document whose block has the given children. -/
def document : RawNode := p.root.fill p.rootKind (p.resourceNode cs)

def bodies : List RawNode := (p.resourceNode cs).descendantsOfKind "response_body"

end BlockPlace

variable {p : BlockPlace} {cs cs' : List RawNode} {config : Config}

/-- A child of the block that may change its place: a response body with no other one inside, which is
no return value, and whose title is declared once in the resource. -/
structure Movable (p : BlockPlace) (cs : List RawNode) (n : RawNode) : Prop where
  kind : n.kind = "response_body"
  alone : n.descendantsOfKind "response_body" = []
  declared : ∀ title, titleOf n = some title → title ≠ returnValueTitle ∧
    ((p.bodies cs).filter (titleOf · = some title)).length = 1

/-- At each place stands the same node, or a movable one both times. -/
def SamePlaces (p : BlockPlace) (cs ns ns' : List RawNode) : Prop :=
  List.Forall₂ (fun n n' => n' = n ∨ Movable p cs n ∧ Movable p cs n') ns ns'

/-- The children of a block in another order, in which only movable ones have changed places. -/
structure Reordering (p : BlockPlace) (cs cs' : List RawNode) : Prop where
  perm : cs.Perm cs'
  places : SamePlaces p cs cs cs'

theorem exists_around (p : BlockPlace) {kind : String}
    (hkind : "endpoint" ≠ kind ∧ "operation" ≠ kind ∧ "block" ≠ kind) :
    ∃ before after, ∀ cs, (p.resourceNode cs).descendantsOfKind kind =
      before ++ searchKind kind cs ++ after := by
  refine ⟨searchKind kind p.resource.before ++
      (searchKind kind p.endpoint.before ++ searchKind kind p.operation.before),
    searchKind kind p.operation.after ++
      (searchKind kind p.endpoint.after ++ searchKind kind p.resource.after),
    fun cs => ?_⟩
  have hblock : (p.block cs).ofKind kind = searchKind kind cs := by
    simp [ofKind, BlockPlace.block, Node.kind, descendantsOfKind, children, hkind.2.2]
  rw [BlockPlace.resourceNode, Frame.descendantsOfKind_fill, Frame.ofKind_fill _ _ hkind.1,
    Frame.ofKind_fill _ _ hkind.2.1, hblock]
  simp [List.append_assoc]

theorem descendantsOfKind_perm {kind : String}
    (hkind : "endpoint" ≠ kind ∧ "operation" ≠ kind ∧ "block" ≠ kind) (h : cs.Perm cs') :
    ((p.resourceNode cs).descendantsOfKind kind).Perm
      ((p.resourceNode cs').descendantsOfKind kind) := by
  obtain ⟨before, after, haround⟩ := exists_around p hkind
  rw [haround, haround]
  exact ((searchKind_perm _ h).append_left before).append_right after

theorem bodies_perm (h : cs.Perm cs') : (p.bodies cs).Perm (p.bodies cs') :=
  descendantsOfKind_perm (by decide) h

theorem Movable.of_perm {n : RawNode} (h : cs.Perm cs') (hn : Movable p cs n) : Movable p cs' n where
  kind := hn.kind
  alone := hn.alone
  declared title ht := by
    obtain ⟨hreturn, hlength⟩ := hn.declared title ht
    have hperm := (bodies_perm (p := p) h).filter (titleOf · = some title)
    exact ⟨hreturn, hperm.length_eq.symm.trans hlength⟩

theorem Reordering.symm (h : Reordering p cs cs') : Reordering p cs' cs where
  perm := h.perm.symm
  places := by
    refine List.Forall₂.flip (List.Forall₂.imp (fun n n' hn => ?_) h.places)
    rcases hn with rfl | ⟨hn, hn'⟩
    · exact .inl rfl
    · exact .inr ⟨hn'.of_perm h.perm, hn.of_perm h.perm⟩

theorem Movable.ofKind {n : RawNode} (h : Movable p cs n) : n.ofKind "response_body" = [n] := by
  rw [Node.ofKind, if_pos h.kind, h.alone, List.append_nil]

theorem heading_eq (n : RawNode) : heading n = (titleOf n).getD "" := by
  rw [heading, titleOf]
  cases n.childOfKind? "title" <;> rfl

theorem Movable.heading_ne {n : RawNode} (h : Movable p cs n) : heading n ≠ returnValueTitle := by
  rw [heading_eq]
  cases ht : titleOf n with
  | none => decide
  | some title => exact (h.declared title ht).1

theorem head?_filter_bodies {ns ns' : List RawNode} (h : SamePlaces p cs ns ns') :
    (searchKind "response_body" ns').head?.filter (heading · = returnValueTitle) =
      (searchKind "response_body" ns).head?.filter (heading · = returnValueTitle) := by
  induction h with
  | nil => rfl
  | @cons n n' _ _ hn _ ih =>
    rw [searchKind_cons, searchKind_cons]
    rcases hn with rfl | ⟨hn, hn'⟩
    · cases n'.ofKind "response_body" with
      | nil => exact ih
      | cons body bodies => rfl
    · rw [hn.ofKind, hn'.ofKind]
      simp [Option.filter, hn.heading_ne, hn'.heading_ne]

theorem filter_bodies {title : String} (htitle : ∀ n, Movable p cs n → titleOf n ≠ some title)
    {ns ns' : List RawNode} (h : SamePlaces p cs ns ns') :
    (searchKind "response_body" ns').filter (titleOf · = some title) =
      (searchKind "response_body" ns).filter (titleOf · = some title) := by
  induction h with
  | nil => rfl
  | @cons n n' _ _ hn _ ih =>
    rw [searchKind_cons, searchKind_cons, List.filter_append, List.filter_append, ih]
    rcases hn with rfl | ⟨hn, hn'⟩
    · rfl
    · rw [hn.ofKind, hn'.ofKind]
      simp [htitle n hn, htitle n' hn']

/-- A title that a movable body has is found once before and after; the bodies with another title keep
their order. -/
theorem sameFirst_bodies (h : Reordering p cs cs') : SameFirst (p.bodies cs) (p.bodies cs') where
  titled := by
    have hmem := fun b => (bodies_perm (p := p) h.perm).mem_iff (a := b)
    exact ⟨fun ht b hb => ht b ((hmem b).2 hb), fun ht b hb => ht b ((hmem b).1 hb)⟩
  first title := by
    rw [← List.head?_filter, ← List.head?_filter]
    by_cases hmoved : ∃ n, Movable p cs n ∧ titleOf n = some title
    · obtain ⟨n, hn, ht⟩ := hmoved
      obtain ⟨-, hlength⟩ := hn.declared title ht
      obtain ⟨body, hbody⟩ := List.length_eq_one_iff.1 hlength
      have hperm := (bodies_perm (p := p) h.perm).filter (titleOf · = some title)
      rw [hbody, List.singleton_perm] at hperm
      rw [hbody, ← hperm]
    · obtain ⟨before, after, hbodies⟩ := exists_around p
        (show "endpoint" ≠ "response_body" ∧ "operation" ≠ "response_body" ∧
          "block" ≠ "response_body" by decide)
      have htitle : ∀ n, Movable p cs n → titleOf n ≠ some title := fun n hn ht => hmoved ⟨n, hn, ht⟩
      rw [BlockPlace.bodies, BlockPlace.bodies, hbodies, hbodies, List.filter_append, List.filter_append, List.filter_append,
        List.filter_append, filter_bodies htitle h.places]

theorem sameResult_block (h : Reordering p cs cs') : SameResult (p.block cs) (p.block cs') where
  kind := ⟨rfl, rfl⟩
  attrs := rfl
  title := p.title
  isBlank := by
    have hlength := h.perm.length_eq
    cases cs <;> cases cs' <;> first | rfl | cases hlength
  result := head?_filter_bodies h.places

theorem under_fill {R : RawNode → RawNode → Prop} (hR : ∀ n, R n n) (f : Frame) (kind : String)
    {n n' : RawNode} (h : R n n') : Under R (f.fill kind n) (f.fill kind n') where
  kind := rfl
  attrs := rfl
  children := List.rel_append (List.forall₂_same.2 fun m _ => hR m)
    (List.Forall₂.cons h (List.forall₂_same.2 fun m _ => hR m))

theorem under_refl {R : RawNode → RawNode → Prop} (hR : ∀ n, R n n) (n : RawNode) : Under R n n where
  kind := rfl
  attrs := rfl
  children := List.forall₂_same.2 fun m _ => hR m

theorem interchangeable_refl (n : RawNode) : Interchangeable n n := .inl rfl

theorem sameNode_refl (n : RawNode) : SameNode n n where
  under := under_refl (under_refl (under_refl interchangeable_refl)) n
  bodies := ⟨Iff.rfl, fun _ => rfl⟩

theorem sameNode_resourceNode (h : Reordering p cs cs') :
    SameNode (p.resourceNode cs) (p.resourceNode cs') where
  under := under_fill (under_refl (under_refl interchangeable_refl)) _ _
    (under_fill (under_refl interchangeable_refl) _ _
      (under_fill interchangeable_refl _ _ (.inr (sameResult_block h))))
  bodies := sameFirst_bodies h

/-- The resources of the document stand around the one with the block, or they are this one and those
inside it. -/
theorem exists_resources (p : BlockPlace) : ∃ before after, ∀ cs,
    (p.document cs).descendantsOfKind "resource" =
      before ++ p.resourceNode cs :: (p.resourceNode cs).descendantsOfKind "resource" ++ after := by
  refine ⟨searchKind "resource" p.root.before, searchKind "resource" p.root.after, fun cs => ?_⟩
  have hresource : (p.resourceNode cs).ofKind "resource" =
      p.resourceNode cs :: (p.resourceNode cs).descendantsOfKind "resource" := by
    have hkind : (p.resourceNode cs).kind = "resource" := rfl
    rw [Node.ofKind, if_pos hkind]
    rfl
  rw [BlockPlace.document, Frame.descendantsOfKind_fill, hresource]

theorem sameNodes_document (h : Reordering p cs cs') :
    Rearranged SameNode ((p.document cs).descendantsOfKind "resource")
      ((p.document cs').descendantsOfKind "resource") := by
  obtain ⟨before, after, hresources⟩ := exists_resources p
  have hrefl : ∀ ns : List RawNode, List.Forall₂ SameNode ns ns :=
    fun ns => List.forall₂_same.2 fun n _ => sameNode_refl n
  rw [hresources, hresources]
  refine ⟨before ++ p.resourceNode cs' :: (p.resourceNode cs).descendantsOfKind "resource" ++ after,
    ?_, ?_⟩
  · refine List.rel_append (List.rel_append (hrefl _) ?_) (hrefl _)
    exact List.Forall₂.cons (sameNode_resourceNode h) (hrefl _)
  · have hinside : ((p.resourceNode cs).descendantsOfKind "resource").Perm
        ((p.resourceNode cs').descendantsOfKind "resource") :=
      descendantsOfKind_perm (by decide) h.perm
    exact ((hinside.cons _).append_left before).append_right after

theorem bare_descendants_number (n : RawNode) (kind : String) :
    (n.number.descendantsOfKind kind).map bare = n.descendantsOfKind kind := by
  rw [← descendantsOfKind_bare, bare_number]

theorem sameNodes_number {n n' : RawNode} (h : Rearranged SameNode (n.descendantsOfKind "resource")
      (n'.descendantsOfKind "resource")) :
    Rearranged (Both SameNode) (n.number.descendantsOfKind "resource")
      (n'.number.descendantsOfKind "resource") := by
  have hnumbered : ∀ m : RawNode, ∀ d ∈ m.number.descendantsOfKind "resource", d.Numbered :=
    fun m _ hd => Numbered.of_mem_searchKind
      (fun _ hc => (numbered_numberFrom 0 m).of_mem_children hc) hd
  refine both_of_rearranged ?_ (hnumbered n) (hnumbered n')
  rwa [bare_descendants_number, bare_descendants_number]

theorem sameNodes_reordering (h : Reordering p cs cs') :
    Rearranged (Both SameNode) ((p.document cs).number.descendantsOfKind "resource")
      ((p.document cs').number.descendantsOfKind "resource") :=
  sameNodes_number (sameNodes_document h)

theorem ids_of_reordering (hinside : searchKind "resource" cs' = searchKind "resource" cs)
    {r r' : Registry} (hr : extract config (p.document cs).number = .ok r)
    (hr' : extract config (p.document cs').number = .ok r') :
    r'.resources.map (·.id) = r.resources.map (·.id) := by
  obtain ⟨entries, -, hentries, -⟩ := extract_eq_ok.1 hr
  obtain ⟨entries', -, hentries', -⟩ := extract_eq_ok.1 hr'
  have hattrs : ∀ n : RawNode, (n.number.descendantsOfKind "resource").map (·.attrs) =
      (n.descendantsOfKind "resource").map (·.attrs) := by
    intro n
    rw [← bare_descendants_number, List.map_map]
    exact List.map_congr_left fun d _ => (attrs_bare d).symm
  rw [ids_of_extract hentries hr, ids_of_extract hentries' hr']
  refine map_id_resources ?_ hentries hentries'
  obtain ⟨before, after, hresources⟩ := exists_resources p
  obtain ⟨inner, outer, haround⟩ := exists_around p (show "endpoint" ≠ "resource" ∧
    "operation" ≠ "resource" ∧ "block" ≠ "resource" by decide)
  rw [hattrs, hattrs, hresources, hresources, haround, haround, hinside]
  simp only [List.map_append, List.map_cons]
  rfl

theorem exists_extract_iff (h : Reordering p cs cs') :
    (∃ r, extract config (p.document cs).number = .ok r) ↔
      ∃ r', extract config (p.document cs').number = .ok r' :=
  ⟨fun ⟨_, hr⟩ => extract_rearranged (sameNodes_reordering h) hr,
    fun ⟨_, hr'⟩ => extract_rearranged (sameNodes_reordering h.symm) hr'⟩

theorem renames_of_inside (h : Reordering p cs cs') (hinside : searchKind "resource" cs' = searchKind "resource" cs)
    {r r' : Registry} (hr : extract config (p.document cs).number = .ok r)
    (hr' : extract config (p.document cs').number = .ok r') : ∃ σ : Equiv.Perm ClassId, r.Renames σ r' :=
  (renames_iff (sameNodes_reordering h) hr hr').2 (ids_of_reordering hinside hr hr')

/-- Declaring the classes of a block in another order does not decide whether the document can be
extracted. It changes nothing but the positions of classes exactly if the resources keep their order, as
they do if those below the block keep theirs. -/
theorem extract_reordering (h : Reordering p cs cs') :
    ((∃ r, extract config (p.document cs).number = .ok r) ↔
      ∃ r', extract config (p.document cs').number = .ok r') ∧
    ∀ r r', extract config (p.document cs).number = .ok r →
      extract config (p.document cs').number = .ok r' →
      ((∃ σ : Equiv.Perm ClassId, r.Renames σ r') ↔
        r'.resources.map (·.id) = r.resources.map (·.id)) ∧
      (searchKind "resource" cs' = searchKind "resource" cs →
        ∃ σ : Equiv.Perm ClassId, r.Renames σ r') :=
  ⟨exists_extract_iff h, fun _ _ hr hr' => ⟨renames_iff (sameNodes_reordering h) hr hr',
    fun hinside => renames_of_inside h hinside hr hr'⟩⟩

theorem ofKind_resource_of_movable {n : RawNode} (h : Movable p cs n) :
    n.ofKind "resource" = n.descendantsOfKind "resource" := by
  have hkind : n.kind ≠ "resource" := h.kind ▸ (by decide)
  rw [Node.ofKind, if_neg hkind]
  rfl

/-- No body that has changed its place contains a resource. -/
def MovesNoResource (cs cs' : List RawNode) : Prop :=
  List.Forall₂ (fun n n' => n' = n ∨
    n.descendantsOfKind "resource" = [] ∧ n'.descendantsOfKind "resource" = []) cs cs'

theorem searchKind_of_movesNoResource {ns ns' : List RawNode} (hplaces : SamePlaces p cs ns ns')
    (h : MovesNoResource ns ns') : searchKind "resource" ns' = searchKind "resource" ns := by
  induction hplaces with
  | nil => rfl
  | @cons n n' _ _ hn _ ih =>
    obtain ⟨hnone, h⟩ := List.forall₂_cons.1 h
    have hsame : n'.ofKind "resource" = n.ofKind "resource" := by
      rcases hn with rfl | ⟨hmovable, hmovable'⟩
      · rfl
      rcases hnone with rfl | ⟨hnone, hnone'⟩
      · rfl
      · rw [ofKind_resource_of_movable hmovable, ofKind_resource_of_movable hmovable', hnone, hnone']
    rw [searchKind_cons, searchKind_cons, hsame, ih h]

/-- Bodies without resources can be declared in any order. -/
theorem extract_reordering_of_movesNoResource (h : Reordering p cs cs') (hmoved : MovesNoResource cs cs') :
    ((∃ r, extract config (p.document cs).number = .ok r) ↔
      ∃ r', extract config (p.document cs').number = .ok r') ∧
    ∀ r r', extract config (p.document cs).number = .ok r →
      extract config (p.document cs').number = .ok r' → ∃ σ : Equiv.Perm ClassId, r.Renames σ r' :=
  ⟨exists_extract_iff h, fun _ _ => renames_of_inside h (searchKind_of_movesNoResource h.places hmoved)⟩

theorem movable_of_title {n : RawNode} (title : String) (hkind : n.kind = "response_body")
    (halone : (n.descendantsOfKind "response_body").length = 0) (htitle : titleOf n = some title)
    (hreturn : title ≠ returnValueTitle)
    (honce : ((p.bodies cs).filter (titleOf · = some title)).length = 1) : Movable p cs n where
  kind := hkind
  alone := List.eq_nil_of_length_eq_zero halone
  declared t ht := by
    rw [htitle] at ht
    cases ht
    exact ⟨hreturn, honce⟩

def summonerBlock : BlockPlace where
  rootKind := "document"
  root := ⟨[], "", [], []⟩
  resource :=
    ⟨[("data-regions", "[]"), ("data-version", "summoner-v1.4"), ("id", "resource_1")], "", [], []⟩
  endpoint := ⟨[], "", [], []⟩
  operation :=
    ⟨[("id", "op_1"), ("method", "GET"), ("path", "/summoner/\x7bsummonerIds\x7d")], "", [], []⟩
  attrs := [("title", "Response Classes")]
  text := ""
  title := ⟨"Response Classes", by decide, by decide +kernel⟩

open RawNode

def result : RawNode := returnValue "Map[string, TeamDto]"

def teamBody (inside : List RawNode) : RawNode :=
  branch "response_body" []
    ([leaf "title" "TeamDto", branch "table" [] [row ["owner", "MemberDto", ""]]] ++ inside)

def memberBody : RawNode := responseBody "MemberDto" [["teams", "List[TeamDto]", ""]]

theorem extract_reordering_mutual :
    Reordering summonerBlock [result, teamBody [], memberBody] [result, memberBody, teamBody []] ∧
      ∃ r r', extract {} (summonerBlock.document [result, teamBody [], memberBody]).number = .ok r ∧
        extract {} (summonerBlock.document [result, memberBody, teamBody []]).number = .ok r' ∧
        ∃ σ : Equiv.Perm ClassId, r.Renames σ r' := by
  have hteam : Movable summonerBlock [result, teamBody [], memberBody] (teamBody []) :=
    movable_of_title "TeamDto" rfl (by decide +kernel) (by decide +kernel) (by decide)
      (by decide +kernel)
  have hmember : Movable summonerBlock [result, teamBody [], memberBody] memberBody :=
    movable_of_title "MemberDto" rfl (by decide +kernel) (by decide +kernel) (by decide)
      (by decide +kernel)
  have h : Reordering summonerBlock [result, teamBody [], memberBody]
      [result, memberBody, teamBody []] := {
    perm := (List.Perm.swap _ _ _).cons _
    places := .cons (.inl rfl) (.cons (.inr ⟨hteam, hmember⟩) (.cons (.inr ⟨hmember, hteam⟩) .nil)) }
  have hnone : ∀ ns : List RawNode, (searchKind "resource" ns).length = 0 →
      searchKind "resource" ns = [] := fun _ => List.eq_nil_of_length_eq_zero
  have hres : searchKind "resource" [result, memberBody, teamBody []] =
      searchKind "resource" [result, teamBody [], memberBody] := by
    rw [hnone _ (by decide +kernel), hnone _ (by decide +kernel)]
  have hr := Outcome.eq_ok_getD {}
    (x := extract {} (summonerBlock.document [result, teamBody [], memberBody]).number)
    (by decide +kernel)
  obtain ⟨r', hr'⟩ := (extract_reordering h).1.1 ⟨_, hr⟩
  exact ⟨h, _, r', hr, hr', ((extract_reordering h).2 _ r' hr hr').2 hres⟩

/-- A resource to stand inside a body that moves. -/
def champion : RawNode := resource "resource_2" "champion-v1.2" []

/-- A resource with a class, between the bodies that move. -/
def matchNote : RawNode :=
  branch "note" [] [resource "resource_3" "match-v2.2" [operation "/match/\x7bmatchId\x7d"
    [responseClasses [returnValue "PlayerDto", responseBody "PlayerDto" [["id", "long", "ID."]]]]]]

/-- A resource that moves with a body passes the resources between its old and its new place. -/
theorem extract_reordering_nested :
    ¬ ∀ (config : Config) (p : BlockPlace) (cs cs' : List RawNode), Reordering p cs cs' →
      ((∃ r, extract config (p.document cs).number = .ok r) ↔
        ∃ r', extract config (p.document cs').number = .ok r') ∧
      ∀ r r', extract config (p.document cs).number = .ok r →
        extract config (p.document cs').number = .ok r' →
        ∃ σ : Equiv.Perm ClassId, r.Renames σ r' := by
  intro hall
  let cs := [result, teamBody [champion], matchNote, memberBody]
  have hteam : Movable summonerBlock cs (teamBody [champion]) :=
    movable_of_title "TeamDto" rfl (by decide +kernel) (by decide +kernel) (by decide)
      (by decide +kernel)
  have hmember : Movable summonerBlock cs memberBody :=
    movable_of_title "MemberDto" rfl (by decide +kernel) (by decide +kernel) (by decide)
      (by decide +kernel)
  have h : Reordering summonerBlock cs [result, memberBody, matchNote, teamBody [champion]] := {
    perm := (List.reverse_perm [memberBody, matchNote, teamBody [champion]]).cons result
    places := .cons (.inl rfl) (.cons (.inr ⟨hteam, hmember⟩) (.cons (.inl rfl)
      (.cons (.inr ⟨hmember, hteam⟩) .nil))) }
  obtain ⟨r, hr, hids⟩ := Outcome.exists_ok_of_map_toOption
    (x := extract {} (summonerBlock.document cs).number) (f := fun r => r.resources.map (·.id))
    (b := ["summoner", "champion", "match"]) (by decide +kernel)
  obtain ⟨r', hr', hids'⟩ := Outcome.exists_ok_of_map_toOption
    (x := extract {} (summonerBlock.document
      [result, memberBody, matchNote, teamBody [champion]]).number)
    (f := fun r => r.resources.map (·.id)) (b := ["summoner", "match", "champion"]) (by decide +kernel)
  obtain ⟨σ, hσ⟩ := (hall {} _ _ _ h).2 r r' hr hr'
  rw [hσ.resources, hids] at hids'
  exact absurd hids' (by decide)

end TypedClient.Extraction
