import TypedClient.Proofs.Extraction.Endpoints
import TypedClient.Proofs.Extraction.Renaming
import TypedClient.Proofs.Extraction.Renumbering
import TypedClient.Proofs.Extraction.Resources
import TypedClient.Proofs.Rearranged

namespace TypedClient

namespace Node

/-- Nodes that are the same but for their children, which are related one by one. -/
structure Under (R : RawNode → RawNode → Prop) (n n' : RawNode) : Prop where
  kind : n'.kind = n.kind
  attrs : n'.attrs = n.attrs
  children : List.Forall₂ R n.children n'.children

/-- Numbered trees that are related as they are written. -/
structure Both (R : RawNode → RawNode → Prop) (d d' : Document) : Prop where
  bare : R d.bare d'.bare
  left : d.Numbered
  right : d'.Numbered

variable {R : RawNode → RawNode → Prop}

theorem both_of_forall₂ {ds ds' : List Document}
    (h : List.Forall₂ R (ds.map Node.bare) (ds'.map Node.bare))
    (hleft : ∀ d ∈ ds, d.Numbered) (hright : ∀ d ∈ ds', d.Numbered) :
    List.Forall₂ (Both R) ds ds' := by
  rw [List.forall₂_map_left_iff, List.forall₂_map_right_iff] at h
  induction h with
  | nil => exact List.Forall₂.nil
  | cons hd _ ih =>
    refine List.Forall₂.cons ⟨hd, hleft _ List.mem_cons_self, hright _ List.mem_cons_self⟩ (ih ?_ ?_)
    · exact fun d hm => hleft d (List.mem_cons_of_mem _ hm)
    · exact fun d hm => hright d (List.mem_cons_of_mem _ hm)

theorem both_of_rearranged {ds ds' : List Document}
    (h : Rearranged R (ds.map Node.bare) (ds'.map Node.bare))
    (hleft : ∀ d ∈ ds, d.Numbered) (hright : ∀ d ∈ ds', d.Numbered) :
    Rearranged (Both R) ds ds' := by
  obtain ⟨written, hwritten, hperm⟩ := h
  obtain ⟨mid, rfl, hmid⟩ := (congrFun₂ (List.eq_map_comp_perm Node.bare) written ds').mpr hperm
  exact ⟨mid, both_of_forall₂ hwritten hleft fun d hd => hright d (hmid.subset hd), hmid⟩

theorem forall₂_filter_kind {ns ns' : List RawNode} (hkind : ∀ n n', R n n' → n'.kind = n.kind)
    (kind : String) (h : List.Forall₂ R ns ns') :
    List.Forall₂ R (ns.filter (·.kind = kind)) (ns'.filter (·.kind = kind)) := by
  induction h with
  | nil => exact List.Forall₂.nil
  | @cons n n' _ _ hn _ ih =>
    by_cases hk : n.kind = kind
    · have hk' : n'.kind = kind := (hkind n n' hn).trans hk
      rw [List.filter_cons_of_pos (by simpa using hk), List.filter_cons_of_pos (by simpa using hk')]
      exact List.Forall₂.cons hn ih
    · have hk' : ¬ n'.kind = kind := fun he => hk ((hkind n n' hn).symm.trans he)
      rwa [List.filter_cons_of_neg (by simpa using hk), List.filter_cons_of_neg (by simpa using hk')]

theorem Both.childrenOfKind {d d' : Document} (h : Both (Under R) d d')
    (hkind : ∀ n n', R n n' → n'.kind = n.kind) (kind : String) :
    List.Forall₂ (Both R) (d.childrenOfKind kind) (d'.childrenOfKind kind) := by
  refine both_of_forall₂ ?_ (fun c hc => h.left.of_mem_children (List.mem_of_mem_filter hc))
    (fun c hc => h.right.of_mem_children (List.mem_of_mem_filter hc))
  rw [← childrenOfKind_bare, ← childrenOfKind_bare]
  exact forall₂_filter_kind hkind kind h.bare.children

end Node

namespace Extraction

open Node Text

variable {σ : ClassId → ClassId} {config : Config} {types : String → Option ClassId} {ctx : Context}

def heading (body : RawNode) : String := (body.childOfKind? "title").elim "" (·.flatText)

/-- The response body that tells the result of a block: the first one, if it is a return value. -/
def resultBody (block : RawNode) : Option RawNode :=
  (block.descendantsOfKind "response_body").head?.filter (heading · = returnValueTitle)

theorem resultText_of_numbered {body : Document} (h : body.Numbered) :
    resultText body = resultText body.bare.number := by
  obtain ⟨k, hk⟩ := h.eq_map
  rw [hk, resultText_map_add, bare_map, bare_number]

theorem heading_bare (body : Document) :
    heading body.bare = (body.childOfKind? "title").elim "" (·.flatText) := by
  rw [heading, childOfKind?_bare]
  cases body.childOfKind? "title" with
  | none => rfl
  | some title => exact flatText_bare title

theorem readReturnType_eq_ok {block : Document} (h : block.Numbered) {t : ValueType} :
    readReturnType ctx block = .ok t ↔ ∃ body, resultBody block.bare = some body ∧
      TypeText.resolve ctx.config ctx.types ctx.resource (resultText body.number).toList = .ok t := by
  unfold readReturnType resultBody
  rw [descendantsOfKind_bare, List.head?_map]
  cases hhead : (block.descendantsOfKind "response_body").head? with
  | none => simp [orFault, Outcome.error_bind]
  | some body =>
    have hmem := List.mem_of_mem_head? (Option.mem_def.2 hhead)
    have hnumbered : body.Numbered :=
      Numbered.of_mem_searchKind (fun c hc => h.of_mem_children hc) hmem
    rw [Option.map_some, orFault, Outcome.ok_bind]
    dsimp only
    rw [← heading_bare]
    by_cases hreturn : heading body.bare = returnValueTitle
    · have htext := resultText_of_numbered hnumbered
      rw [resultText] at htext
      simp [hreturn, htext, Option.filter]
    · simp [hreturn, Option.filter, Context.fault, Outcome.error_bind]

/-- Blocks of response classes with the same result. -/
structure SameResult (b b' : RawNode) : Prop where
  kind : b.kind = "block" ∧ b'.kind = "block"
  attrs : b'.attrs = b.attrs
  title : ∃ title, b.attr? "title" = some title ∧ onChars trim title = "Response Classes"
  isBlank : b'.isBlank = b.isBlank
  result : resultBody b' = resultBody b

/-- The same node, or blocks of response classes with the same result. -/
def Interchangeable (n n' : RawNode) : Prop := n' = n ∨ SameResult n n'

theorem Interchangeable.kind {n n' : RawNode} (h : Interchangeable n n') : n'.kind = n.kind := by
  rcases h with rfl | h
  · rfl
  · rw [h.kind.1, h.kind.2]

def Context.rename (σ : ClassId → ClassId) (ctx : Context) : Context :=
  { ctx with types := renamed σ ctx.types }

def Details.rename (σ : ClassId → ClassId) (d : Details) : Details :=
  { d with
    pathParameters := d.pathParameters.map (·.rename σ)
    query := d.query.map (·.rename σ)
    returnType := d.returnType.map (·.rename σ) }

theorem readParameter_rename {row row' : Document} (hrow : row.bare = row'.bare) {p : Parameter}
    (h : readParameter ctx row = .ok p) :
    readParameter (ctx.rename σ) row' = .ok (p.rename σ) := by
  have hcells : cells row' = cells row := by rw [cells_bare, cells_bare, hrow]
  unfold readParameter at h ⊢
  rw [hcells]
  generalize cells row = cs at h ⊢
  rcases cs with _ | ⟨rawName, _ | ⟨required, _ | ⟨typeText, more⟩⟩⟩
  · cases h
  · cases h
  · cases h
  · obtain ⟨t, ht, h⟩ := Outcome.bind_eq_ok.1 h
    cases h
    have hresolve := TypeText.resolve_rename (σ := σ) ht
    rw [Parameter.rename, Corrections.rename_parameterType]
    exact Outcome.bind_eq_ok.2 ⟨_, hresolve, rfl⟩

theorem readParameters_rename {table table' : Document} (htable : table.bare = table'.bare)
    {ps : List Parameter} (h : readParameters ctx table = .ok ps) :
    readParameters (ctx.rename σ) table' = .ok (ps.map (·.rename σ)) := by
  have hrows : (table.childrenOfKind "row").map bare = (table'.childrenOfKind "row").map bare := by
    rw [← childrenOfKind_bare, ← childrenOfKind_bare, htable]
  have hstep : ∀ row row' : Document, row.bare = row'.bare → ∀ p,
      readParameter ctx row = .ok p → readParameter (ctx.rename σ) row' = .ok (p.rename σ) :=
    fun _ _ hrow _ hp => readParameter_rename hrow hp
  exact Outcome.mapM_follows hstep (forall₂_of_map_eq hrows) h

theorem readError_rename {row row' : Document} (hrow : row.bare = row'.bare) :
    readError (ctx.rename σ) row' = readError ctx row := by
  have hcells : cells row' = cells row := by rw [cells_bare, cells_bare, hrow]
  rw [readError, hcells]
  rfl

theorem exists_of_map_eq {α β : Type} {f : α → β} {o o' : Option α} (h : o.map f = o'.map f) {a : α}
    (ha : o = some a) : ∃ a', o' = some a' ∧ f a = f a' := by
  rw [ha, Option.map_some, eq_comm, Option.map_eq_some_iff] at h
  obtain ⟨a', ha', hf⟩ := h
  exact ⟨a', ha', hf.symm⟩

variable {d d' : Details} {block block' : Document}

theorem readPathBlock_rename (hblock : block.bare = block'.bare)
    (h : readPathBlock ctx d block = .ok d') :
    readPathBlock (ctx.rename σ) (d.rename σ) block' = .ok (d'.rename σ) := by
  have htables : (block.childrenOfKind "table").map bare = (block'.childrenOfKind "table").map bare := by
    rw [← childrenOfKind_bare, ← childrenOfKind_bare, hblock]
  have hhead : (block.childrenOfKind "table").head?.map bare =
      (block'.childrenOfKind "table").head?.map bare := by
    rw [← List.head?_map, ← List.head?_map, htables]
  have htail : (block.childrenOfKind "table").tail.head?.map bare =
      (block'.childrenOfKind "table").tail.head?.map bare := by
    rw [← List.head?_map, ← List.head?_map, List.map_tail, List.map_tail, htables]
  have htitle : (block.childOfKind? "title").map bare = (block'.childOfKind? "title").map bare := by
    rw [← childOfKind?_bare, ← childOfKind?_bare, hblock]
  -- Each step of the run below reads one of these parts, and the other run reads the same there.
  unfold readPathBlock at h ⊢
  obtain ⟨first, hfirst, h⟩ := Outcome.bind_eq_ok.1 h
  obtain ⟨path, hpath, h⟩ := Outcome.bind_eq_ok.1 h
  obtain ⟨first', hfirst', hbare⟩ := exists_of_map_eq hhead (orFault_eq_ok.1 hfirst)
  refine Outcome.bind_eq_ok.2 ⟨first', orFault_eq_ok.2 hfirst', ?_⟩
  refine Outcome.bind_eq_ok.2 ⟨_, readParameters_rename hbare hpath, ?_⟩
  cases hfound : block.childOfKind? "title" with
  | none =>
    rw [hfound, Option.map_none, eq_comm, Option.map_eq_none_iff] at htitle
    rw [hfound] at h
    cases h
    rw [htitle]
    rfl
  | some title =>
    obtain ⟨title', hfound', hbare'⟩ := exists_of_map_eq htitle hfound
    have htext : title'.flatText = title.flatText := by
      rw [← flatText_bare, ← hbare', flatText_bare]
    rw [hfound] at h
    rw [hfound']
    dsimp only at h ⊢
    rw [htext]
    by_cases hquery : title.flatText = "Query Parameters"
    · rw [if_pos hquery] at h ⊢
      obtain ⟨second, hsecond, h⟩ := Outcome.bind_eq_ok.1 h
      obtain ⟨query, hread, h⟩ := Outcome.bind_eq_ok.1 h
      obtain ⟨second', hsecond', hbare⟩ := exists_of_map_eq htail (orFault_eq_ok.1 hsecond)
      cases h
      refine Outcome.bind_eq_ok.2 ⟨second', orFault_eq_ok.2 hsecond', ?_⟩
      exact Outcome.bind_eq_ok.2 ⟨_, readParameters_rename hbare hread, rfl⟩
    · rw [if_neg hquery] at h ⊢
      by_cases hempty : title.flatText = ""
      · rw [if_pos hempty] at h ⊢
        cases h
        rfl
      · rw [if_neg hempty] at h
        cases h

theorem readReturnType_rename (hb : block.Numbered) (hb' : block'.Numbered)
    (hresult : resultBody block'.bare = resultBody block.bare) {t : ValueType}
    (h : readReturnType ctx block = .ok t) :
    readReturnType (ctx.rename σ) block' = .ok (t.rename σ) := by
  obtain ⟨body, hbody, ht⟩ := (readReturnType_eq_ok hb).1 h
  exact (readReturnType_eq_ok hb').2 ⟨body, hresult.trans hbody, TypeText.resolve_rename ht⟩

theorem readBlock_of_sameResult (hb : block.Numbered) (hb' : block'.Numbered)
    (hsame : SameResult block.bare block'.bare) (h : readBlock ctx d block = .ok d') :
    readBlock (ctx.rename σ) (d.rename σ) block' = .ok (d'.rename σ) := by
  obtain ⟨title, htitle, hname⟩ := hsame.title
  have hblank : block'.isBlank = block.isBlank := by
    rw [← isBlank_bare, hsame.isBlank, isBlank_bare]
  have hattr : block.attr? "title" = some title := by rw [← attr?_bare, htitle]
  have hattr' : block'.attr? "title" = some title := by
    rw [← hattr, ← attr?_bare, attr?, hsame.attrs, ← attr?, attr?_bare]
  unfold readBlock at h ⊢
  rw [hblank]
  by_cases hempty : block.isBlank = true
  · rw [if_pos hempty] at h ⊢
    cases h
    rfl
  · rw [if_neg hempty] at h ⊢
    rw [hattr] at h
    rw [hattr']
    simp only [orFault, Outcome.ok_bind, hname] at h ⊢
    obtain ⟨t, ht, h⟩ := Outcome.bind_eq_ok.1 h
    cases h
    exact Outcome.bind_eq_ok.2 ⟨_, readReturnType_rename hb hb' hsame.result ht, rfl⟩

theorem readBlock_of_bare_eq (hb : block.Numbered) (hb' : block'.Numbered)
    (hblock : block.bare = block'.bare) (h : readBlock ctx d block = .ok d') :
    readBlock (ctx.rename σ) (d.rename σ) block' = .ok (d'.rename σ) := by
  have hblank : block'.isBlank = block.isBlank := by rw [← isBlank_bare, ← hblock, isBlank_bare]
  have hattr : block'.attr? "title" = block.attr? "title" := by
    rw [← attr?_bare, ← hblock, attr?_bare]
  have htext : block'.flatText = block.flatText := by rw [← flatText_bare, ← hblock, flatText_bare]
  have hresult : resultBody block'.bare = resultBody block.bare := by rw [hblock]
  have hrows : (block.descendantsOfKind "row").map bare = (block'.descendantsOfKind "row").map bare := by
    rw [← descendantsOfKind_bare, ← descendantsOfKind_bare, hblock]
  have htable : (block.childOfKind? "table").map bare = (block'.childOfKind? "table").map bare := by
    rw [← childOfKind?_bare, ← childOfKind?_bare, hblock]
  unfold readBlock at h ⊢
  rw [hblank, hattr, htext]
  by_cases hempty : block.isBlank = true
  · rw [if_pos hempty] at h ⊢
    cases h
    rfl
  · rw [if_neg hempty] at h ⊢
    obtain ⟨title, htitle, h⟩ := Outcome.bind_eq_ok.1 h
    refine Outcome.bind_eq_ok.2 ⟨title, htitle, ?_⟩
    split at h
    · cases h
      rfl
    · cases h
      rfl
    · obtain ⟨t, ht, h⟩ := Outcome.bind_eq_ok.1 h
      cases h
      exact Outcome.bind_eq_ok.2 ⟨_, readReturnType_rename hb hb' hresult ht, rfl⟩
    · obtain ⟨errors, herrors, h⟩ := Outcome.bind_eq_ok.1 h
      cases h
      have hstep : ∀ row row' : Document, row.bare = row'.bare → ∀ e,
          readError ctx row = .ok e → readError (ctx.rename σ) row' = .ok (id e) :=
        fun _ _ hrow _ he => (readError_rename hrow).trans he
      have hread := Outcome.mapM_follows hstep (forall₂_of_map_eq hrows) herrors
      rw [List.map_id] at hread
      exact Outcome.bind_eq_ok.2 ⟨errors, hread, rfl⟩
    · exact readPathBlock_rename hblock h
    · obtain ⟨table, hfound, h⟩ := Outcome.bind_eq_ok.1 h
      obtain ⟨query, hquery, h⟩ := Outcome.bind_eq_ok.1 h
      cases h
      obtain ⟨table', hfound', hbare⟩ := exists_of_map_eq htable (orFault_eq_ok.1 hfound)
      refine Outcome.bind_eq_ok.2 ⟨table', orFault_eq_ok.2 hfound', ?_⟩
      exact Outcome.bind_eq_ok.2 ⟨_, readParameters_rename hbare hquery, rfl⟩
    · cases h
      rfl
    · cases h

theorem readBlock_rename (h : Both Interchangeable block block')
    (hd : readBlock ctx d block = .ok d') :
    readBlock (ctx.rename σ) (d.rename σ) block' = .ok (d'.rename σ) := by
  rcases h.bare with hblock | hsame
  · exact readBlock_of_bare_eq h.left h.right hblock.symm hd
  · exact readBlock_of_sameResult h.left h.right hsame hd

theorem readBlocks_rename {blocks blocks' : List Document}
    (h : List.Forall₂ (Both Interchangeable) blocks blocks')
    (hd : blocks.foldlM (readBlock ctx) d = .ok d') :
    blocks'.foldlM (readBlock (ctx.rename σ)) (d.rename σ) = .ok (d'.rename σ) := by
  have hstep : ∀ (block block' : Document) (d d' : Details), Both Interchangeable block block' →
      d' = d.rename σ → ∀ read, readBlock ctx d block = .ok read →
        ∃ read', readBlock (ctx.rename σ) d' block' = .ok read' ∧ read' = read.rename σ := by
    rintro block block' d _ hb rfl read hread
    exact ⟨_, readBlock_rename hb hread, rfl⟩
  obtain ⟨_, hrun, rfl⟩ := Outcome.foldlM_follows hstep h rfl hd
  exact hrun

theorem find?_of_interchangeable {cs cs' : List RawNode} (h : List.Forall₂ Interchangeable cs cs')
    {kind : String} (hkind : kind ≠ "block") :
    cs'.find? (·.kind = kind) = cs.find? (·.kind = kind) := by
  induction h with
  | nil => rfl
  | @cons c c' _ _ hc _ ih =>
    rw [List.find?_cons, List.find?_cons, hc.kind, ih]
    by_cases hk : c.kind = kind
    · rcases hc with rfl | hsame
      · rfl
      · exact absurd (hk.symm.trans hsame.kind.1) hkind
    · simp [hk]

theorem operationDescription_of_both {n n' : Document} (h : Both (Under Interchangeable) n n') :
    operationDescription n' = operationDescription n := by
  have hchild : ∀ d : Document, (d.childOfKind? "description").elim "" (·.flatText) =
      (d.bare.childOfKind? "description").elim "" (·.flatText) := by
    intro d
    rw [childOfKind?_bare]
    cases d.childOfKind? "description" with
    | none => rfl
    | some description => exact (flatText_bare description).symm
  have hfind : n'.bare.childOfKind? "description" = n.bare.childOfKind? "description" :=
    find?_of_interchangeable h.bare.children (by decide)
  rw [operationDescription, operationDescription, hchild n', hchild n, hfind]

theorem requiredAttr_of_attrs_eq {place place' : Place} {n n' : Document} {name : String}
    {cs : List Char} (hattrs : n'.attrs = n.attrs) (h : requiredAttr place n name = .ok cs) :
    requiredAttr place' n' name = .ok cs := by
  rw [requiredAttr_eq_ok, attr?] at h ⊢
  rw [hattrs]
  exact h

theorem checkMapKey_rename (rule : OperationRule) (t : ValueType) :
    checkMapKey rule (t.rename σ) = checkMapKey rule t := by
  unfold checkMapKey
  rw [ValueType.isMap_rename]

theorem readOperation_rename {resource : String} {e : EndpointId} {n n' : Document} {op : Operation}
    (hn : Both (Under Interchangeable) n n')
    (h : readOperation config types resource e n = .ok op) :
    readOperation config (renamed σ types) resource e n' = .ok (op.rename σ) := by
  have hattrs : n'.attrs = n.attrs := by rw [← attrs_bare, hn.bare.attrs, attrs_bare]
  have hblocks := hn.childrenOfKind (fun _ _ hb => hb.kind) "block"
  obtain ⟨rfl, hop⟩ := readOperation_eq_ok.1 h
  obtain ⟨id, hid, hnumber⟩ := hop.number
  refine readOperation_eq_ok.2 ⟨rfl, ?_⟩
  exact {
    number := ⟨id, requiredAttr_of_attrs_eq hattrs hid, hnumber⟩
    method := requiredAttr_of_attrs_eq hattrs hop.method
    path := requiredAttr_of_attrs_eq hattrs hop.path
    rule := hop.rule
    blocks := readBlocks_rename (σ := σ) hblocks hop.blocks
    mapKey := (checkMapKey_rename _ op.returnType).trans hop.mapKey
    description := hop.description.trans (operationDescription_of_both hn).symm }

variable {r r' s : Registry}

theorem addOperation_rename {op : Operation} (hr : r.Renames σ r') (h : addOperation r op = .ok s) :
    ∃ s', addOperation r' (op.rename σ) = .ok s' ∧ s.Renames σ s' := by
  obtain ⟨hnew, rfl⟩ := addOperation_eq_ok.1 h
  refine ⟨_, addOperation_eq_ok.2 ⟨fun o ho => ?_, rfl⟩, hr.addOperation op⟩
  rw [hr.operations] at ho
  obtain ⟨old, hold, rfl⟩ := List.mem_map.1 ho
  exact hnew old hold

theorem addEndpoint_rename {resource : String} {owner : ResourceId} {n n' : Document}
    (hn : Both (Under (Under Interchangeable)) n n') (hr : r.Renames σ r')
    (h : addEndpoint config types resource owner r n = .ok s) :
    ∃ s', addEndpoint config (renamed σ types) resource owner r' n' = .ok s' ∧ s.Renames σ s' := by
  refine Outcome.foldlM_follows (fun child child' t t' hchild ht u hu => ?_)
    (hn.childrenOfKind (fun _ _ hc => hc.kind) "operation") (hr.addEndpoint owner) h
  obtain ⟨op, hop, hadd⟩ := Outcome.bind_eq_ok.1 hu
  obtain ⟨u', hadd', hu'⟩ := addOperation_rename ht hadd
  rw [hr.endpoints, readOperation_rename hchild hop]
  exact ⟨u', hadd', hu'⟩

def titleOf (body : RawNode) : Option String := (body.childOfKind? "title").map (·.flatText)

/-- Response bodies of which the same ones come first, title by title. -/
structure SameFirst (bodies bodies' : List RawNode) : Prop where
  titled : (∀ body ∈ bodies, (titleOf body).isSome) ↔ ∀ body ∈ bodies', (titleOf body).isSome
  first : ∀ title : String,
    bodies'.find? (titleOf · = some title) = bodies.find? (titleOf · = some title)

/-- Resources that are the same up to the order of what they declare. -/
structure SameResource (entry entry' : ResourceEntry) : Prop where
  id : entry'.id = entry.id
  toResource : entry'.toResource = entry.toResource
  node : Both (Under (Under (Under Interchangeable))) entry.node entry'.node
  bodies : SameFirst (entry.node.bare.descendantsOfKind "response_body")
    (entry'.node.bare.descendantsOfKind "response_body")

theorem operationName?_rename {resource : String} {n n' : Document}
    (hn : Both (Under Interchangeable) n n')
    (hsome : (operationName? config types resource n).isSome) :
    operationName? config (renamed σ types) resource n' = operationName? config types resource n := by
  obtain ⟨name, hname⟩ := Option.isSome_iff_exists.1 hsome
  obtain ⟨op, hop, rfl⟩ := (operationName?_eq_some 0).1 hname
  rw [hname]
  exact (operationName?_eq_some 0).2 ⟨_, readOperation_rename hn hop, rfl⟩

theorem namesIn_rename {entry entry' : ResourceEntry} (h : SameResource entry entry')
    (hsome : ∀ name ∈ namesIn config types entry, name.isSome) :
    namesIn config (renamed σ types) entry' = namesIn config types entry := by
  unfold namesIn at hsome ⊢
  rw [h.id]
  refine Rearranged.flatMap_eq_of_forall₂ (fun n n' hn hsome => ?_)
    (h.node.childrenOfKind (fun _ _ hc => hc.kind) "endpoint") hsome
  rw [List.map_eq_flatMap] at hsome
  rw [List.map_eq_flatMap, List.map_eq_flatMap]
  refine Rearranged.flatMap_eq_of_forall₂ (fun child child' hchild hsome => ?_)
    (hn.childrenOfKind (fun _ _ hc => hc.kind) "operation") hsome
  rw [operationName?_rename hchild (hsome _ List.mem_cons_self)]

theorem names_perm {entries entries' : List ResourceEntry}
    (h : Rearranged SameResource entries entries')
    (hsome : ∀ name ∈ entries.flatMap (namesIn config types), name.isSome) :
    (entries'.flatMap (namesIn config (renamed σ types))).Perm
      (entries.flatMap (namesIn config types)) := by
  obtain ⟨mid, hmid, hperm⟩ := h
  rw [← Rearranged.flatMap_eq_of_forall₂ (fun _ _ he hnames => namesIn_rename he hnames) hmid hsome]
  exact hperm.symm.flatMap_right _

theorem addEndpoints_rename {p p' : ResourceEntry × ResourceId} (hp : SameResource p.1 p'.1)
    (howner : p'.2 = p.2) (hr : r.Renames σ r') (h : addEndpoints config types r p = .ok s) :
    ∃ s', addEndpoints config (renamed σ types) r' p' = .ok s' ∧ s.Renames σ s' := by
  unfold addEndpoints at h ⊢
  rw [hp.id, howner]
  refine Outcome.foldlM_follows (fun n n' t t' hn ht u hu => ?_)
    (hp.node.childrenOfKind (fun _ _ hc => hc.kind) "endpoint") hr h
  exact addEndpoint_rename hn ht hu

theorem thirdPass_rename {entries entries' : List ResourceEntry}
    (he : List.Forall₂ SameResource entries entries') (hr : r.Renames σ r')
    (h : entries.zipIdx.foldlM (addEndpoints config types) r = .ok s) :
    ∃ s', entries'.zipIdx.foldlM (addEndpoints config (renamed σ types)) r' = .ok s' ∧
      s.Renames σ s' :=
  Outcome.foldlM_follows (fun _ _ _ _ hp ht _ hu => addEndpoints_rename hp.1 hp.2 ht hu)
    (forall₂_zipIdx he 0) hr h

end Extraction

end TypedClient
