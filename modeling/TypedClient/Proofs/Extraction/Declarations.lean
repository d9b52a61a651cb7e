import TypedClient.Extraction.Extract
import TypedClient.Proofs.FirstOccurrences
import TypedClient.Proofs.Outcome
import TypedClient.Proofs.Registry.Declare

namespace TypedClient.Extraction

/-- A class as a response body declares it. -/
structure Declaration where
  owner : ResourceId
  resource : String
  rawName : String
  description : String
  body : Document

namespace Declaration

variable (config : Config) (d : Declaration)

def identity : ClassIdentity := ⟨d.resource, d.rawName⟩

def name : String := Naming.className config d.resource d.rawName

/-- The class that is declared, without its members. -/
def toClass : ResponseClass where
  resource := d.owner
  rawName := d.rawName
  name := d.name config
  description := d.description

def toPending (id : ClassId) : PendingClass := ⟨id, d.resource, d.rawName, d.body⟩

theorem name_eq_of_identity_eq {config : Config} {d e : Declaration}
    (h : d.identity = e.identity) : d.name config = e.name config := by
  obtain ⟨hr, hn⟩ : d.resource = e.resource ∧ d.rawName = e.rawName := by
    simpa [identity] using h
  rw [name, name, hr, hn]

end Declaration

/-- What a response body declares, if it has a title and is no type of a result. -/
def declarationOf (owner : ResourceId) (resource : String) (body : Document) :
    Option Declaration :=
  (body.childOfKind? "title").bind fun title =>
    if title.flatText = returnValueTitle then none
    else some ⟨owner, resource, title.flatText, bodyDescription title body, body⟩

def bodiesOf (entry : ResourceEntry) : List Document := entry.node.descendantsOfKind "response_body"

/-- The declarations of resources in order, the first of which is at a position. -/
def declarationsFrom (first : ResourceId) (entries : List ResourceEntry) : List Declaration :=
  (entries.zipIdx first).flatMap fun p => (bodiesOf p.1).filterMap (declarationOf p.2 p.1.id)

/-- The declarations of a document, resource by resource and in document order. -/
def declarations (entries : List ResourceEntry) : List Declaration := declarationsFrom 0 entries

/-- The registry with the resources and classes that are declared, and what is left to read. -/
def registered (config : Config) (entries : List ResourceEntry) (ds : List Declaration) :
    Registry × List PendingClass :=
  ({ regions := Region.all
     resources := entries.map (·.toResource)
     classes := ds.map (·.toClass config) },
   ds.mapIdx fun i d => d.toPending i)

/-- Whether no two classes have one name. -/
def Distinct (config : Config) (ds : List Declaration) : Prop :=
  ∀ d ∈ ds, ∀ e ∈ ds, d.name config = e.name config → d.identity = e.identity

/-- Two classes of one name, an earlier one and a later one, and the failure that names them. -/
def Clash (config : Config) (ds : List Declaration) (f : Failure) : Prop :=
  ∃ (i j : Nat) (d e : Declaration), i < j ∧ ds[i]? = some d ∧ ds[j]? = some e ∧ d.identity ≠ e.identity ∧
    d.name config = e.name config ∧
    f = .classNameCollision (e.name config) d.identity e.identity

def Titled (bodies : List Document) : Prop := ∀ body ∈ bodies, (body.childOfKind? "title").isSome

instance {bodies : List Document} : Decidable (Titled bodies) :=
  inferInstanceAs (Decidable (∀ body ∈ bodies, (body.childOfKind? "title").isSome))

/-- The position of a declaration's resource is right. -/
def Owned (entries : List ResourceEntry) (d : Declaration) : Prop :=
  entries[d.owner]?.map (·.id) = some d.resource

/-- What declaring classes may come to. -/
def Declares (config : Config) (entries : List ResourceEntry) (bodies : List Document)
    (ds : List Declaration) : Except Failure (Registry × List PendingClass) → Prop
  | .ok s => Titled bodies ∧ Distinct config ds ∧
      s = registered config entries (firstsBy Declaration.identity ds)
  | .error f => Titled bodies → Clash config ds f

variable {config : Config} {entries : List ResourceEntry} {ds : List Declaration}

theorem Clash.append {f : Failure} (h : Clash config ds f) (more : List Declaration) :
    Clash config (ds ++ more) f := by
  obtain ⟨i, j, d, e, hij, hi, hj, hne, hname, hf⟩ := h
  refine ⟨i, j, d, e, hij, ?_, ?_, hne, hname, hf⟩
  · rwa [List.getElem?_append_left (List.getElem?_eq_some_iff.1 hi).1]
  · rwa [List.getElem?_append_left (List.getElem?_eq_some_iff.1 hj).1]

theorem Distinct.append_singleton {d : Declaration} (h : Distinct config ds)
    (hd : ∀ e ∈ ds, e.name config = d.name config → e.identity = d.identity) :
    Distinct config (ds ++ [d]) := by
  intro x hx y hy hname
  rcases List.mem_append.1 hx with hx | hx <;> rcases List.mem_append.1 hy with hy | hy
  · exact h x hx y hy hname
  · rw [List.mem_singleton.1 hy] at hname ⊢
    exact hd x hx hname
  · rw [List.mem_singleton.1 hx] at hname ⊢
    exact (hd y hy hname.symm).symm
  · rw [List.mem_singleton.1 hx, List.mem_singleton.1 hy]

theorem owner_eq_iff {d e : Declaration} (hids : (entries.map (·.id)).Nodup)
    (hd : Owned entries d) (he : Owned entries e) : d.owner = e.owner ↔ d.resource = e.resource := by
  unfold Owned at hd he
  rw [← List.getElem?_map] at hd he
  constructor
  · intro h
    rw [h, he] at hd
    exact (Option.some.inj hd).symm
  · intro h
    have hlt := (List.getElem?_eq_some_iff.1 hd).1
    exact (List.getElem?_inj hlt hids).1 (by rw [hd, he, h])

theorem identity_registered {d : Declaration} {fs : List Declaration} (h : Owned entries d) :
    (registered config entries fs).1.identity (d.toClass config) = d.identity := by
  unfold Owned at h
  obtain ⟨entry, hentry, hid⟩ := Option.map_eq_some_iff.1 h
  simp [Registry.identity, Registry.resourceName, registered, Declaration.toClass,
    Declaration.identity, hentry, ResourceEntry.toResource, hid]

theorem registered_append (fs : List Declaration) (d : Declaration) :
    registered config entries (fs ++ [d]) =
      ({ (registered config entries fs).1 with
          classes := (registered config entries fs).1.classes ++ [d.toClass config] },
        (registered config entries fs).2 ++ [d.toPending (fs.length)]) := by
  simp [registered, List.mapIdx_append]

/-- One more declaration: it is the first of its class, or its class is known, or its name is taken by
another class. -/
theorem declare_registered {d : Declaration} (hids : (entries.map (·.id)).Nodup)
    (howned : ∀ e ∈ ds, Owned entries e) (hd : Owned entries d) (hdistinct : Distinct config ds) :
    let state := registered config entries (firstsBy Declaration.identity ds)
    let next := registered config entries (firstsBy Declaration.identity (ds ++ [d]))
    (Distinct config (ds ++ [d]) ∧ ∃ c, state.1.declare (d.toClass config) = .ok (next.1, .added c) ∧
      next.2 = state.2 ++ [d.toPending c]) ∨
    (Distinct config (ds ++ [d]) ∧ next = state ∧
      ∃ c, state.1.declare (d.toClass config) = .ok (state.1, .known c)) ∨
    ∃ f, Clash config (ds ++ [d]) f ∧ state.1.declare (d.toClass config) = .error f := by
  intro state next
  have hmem : ∀ e ∈ ds, ∃ e' ∈ firstsBy Declaration.identity ds, e'.identity = e.identity :=
    fun e he => exists_mem_firstsBy he
  have hnext : next = registered config entries (firstsBy Declaration.identity ds ++
      if d.identity ∈ ds.map Declaration.identity then [] else [d]) := by
    rw [← firstsBy_append_singleton]
  rcases Registry.declare_cases state.1 (d.toClass config) with
    ⟨hnew, hdeclare⟩ | ⟨old, i, hi, hname, hold⟩
  · -- No class has the name, so that no declaration before has the identity either.
    have hfresh : ∀ e ∈ ds, e.name config ≠ d.name config := by
      intro e he hne
      obtain ⟨e', he', hid⟩ := hmem e he
      refine hnew (e'.toClass config) (List.mem_map_of_mem he') ?_
      exact (Declaration.name_eq_of_identity_eq hid).trans hne
    have hnot : d.identity ∉ ds.map Declaration.identity := by
      rw [List.mem_map]
      rintro ⟨e, he, hid⟩
      exact hfresh e he (Declaration.name_eq_of_identity_eq hid)
    rw [if_neg hnot, registered_append] at hnext
    refine .inl ⟨hdistinct.append_singleton fun e he hne => absurd hne (hfresh e he),
      state.1.classes.length, ?_, ?_⟩
    · rw [hdeclare, hnext]
    · rw [hnext]
      simp [state, registered]
  · -- A class has the name already. Its identity tells whether it is the same one or a clash.
    obtain ⟨first, hfirst, rfl⟩ := List.mem_map.1 (List.mem_of_getElem? hi)
    have hfirst' := mem_of_mem_firstsBy hfirst
    have hsame : (first.toClass config).resource = (d.toClass config).resource ∧
        (first.toClass config).rawName = (d.toClass config).rawName ↔
        first.identity = d.identity := by
      simp only [Declaration.toClass, owner_eq_iff hids (howned first hfirst') hd,
        Declaration.identity, ClassIdentity.mk.injEq]
    rcases hold with ⟨hr, hn, hdeclare⟩ | ⟨hne, hdeclare⟩
    · have hid := hsame.1 ⟨hr, hn⟩
      rw [if_pos (List.mem_map.2 ⟨first, hfirst', hid⟩), List.append_nil] at hnext
      refine .inr (.inl ⟨hdistinct.append_singleton fun e he hne => ?_, hnext, i, hdeclare⟩)
      exact (hdistinct e he first hfirst' (hne.trans hname.symm)).trans hid
    · refine .inr (.inr ⟨_, ?_, hdeclare⟩)
      obtain ⟨j, hj⟩ := List.mem_iff_getElem?.1 hfirst'
      have hlt := (List.getElem?_eq_some_iff.1 hj).1
      refine ⟨j, ds.length, first, d, hlt, ?_, by simp, fun he => hne (hsame.2 he), hname, ?_⟩
      · rwa [List.getElem?_append_left hlt]
      · rw [identity_registered (howned first hfirst'), identity_registered hd]
        rfl

theorem declareBody_registered {owner : ResourceId} {resource : String} (body : Document)
    (hids : (entries.map (·.id)).Nodup) (howned : ∀ e ∈ ds, Owned entries e)
    (howner : entries[owner]?.map (·.id) = some resource) (hdistinct : Distinct config ds) :
    Declares config entries [body] (ds ++ (declarationOf owner resource body).toList)
      (declareBody config owner resource
        (registered config entries (firstsBy Declaration.identity ds)) body) := by
  unfold declareBody declarationOf
  cases htitle : body.childOfKind? "title" with
  | none =>
    intro ht
    have := ht body (by simp)
    simp [htitle] at this
  | some title =>
    have htitled : Titled [body] := by
      intro b hb
      rw [List.mem_singleton.1 hb, htitle]
      rfl
    by_cases hreturn : title.flatText = returnValueTitle
    · simp only [orFault, Outcome.ok_bind, hreturn, if_true, Option.bind_some, Option.toList_none,
        List.append_nil]
      exact ⟨htitled, hdistinct, rfl⟩
    · have h := declare_registered
        (d := ⟨owner, resource, title.flatText, bodyDescription title body, body⟩)
        hids howned howner hdistinct
      simp only [Declaration.toClass, Declaration.name, Declaration.toPending] at h
      simp only [orFault, Outcome.ok_bind, hreturn, if_false, Option.bind_some, Option.toList_some]
      rcases h with ⟨hdist, c, hdeclare, hpending⟩ | ⟨hdist, hsame, c, hdeclare⟩ |
        ⟨f, hclash, hdeclare⟩
      · rw [hdeclare, Outcome.ok_bind]
        exact ⟨htitled, hdist, by rw [← hpending]⟩
      · rw [hdeclare, Outcome.ok_bind]
        exact ⟨htitled, hdist, hsame.symm⟩
      · rw [hdeclare, Outcome.error_bind]
        exact fun _ => hclash

theorem Declares.bind {entries' : List ResourceEntry} {bodies bodies' : List Document}
    {more : List Declaration} {x : Except Failure (Registry × List PendingClass)}
    {f : Registry × List PendingClass → Except Failure (Registry × List PendingClass)}
    (hx : Declares config entries bodies ds x)
    (hf : Distinct config ds → Declares config entries' bodies' (ds ++ more)
      (f (registered config entries (firstsBy Declaration.identity ds)))) :
    Declares config entries' (bodies ++ bodies') (ds ++ more) (x >>= f) := by
  cases x with
  | error e =>
    intro ht
    exact Clash.append (hx fun b hb => ht b (List.mem_append_left bodies' hb)) more
  | ok s =>
    obtain ⟨htitled, hdistinct, rfl⟩ := hx
    have hrest := hf hdistinct
    rw [Outcome.ok_bind]
    cases hrun : f (registered config entries (firstsBy Declaration.identity ds)) with
    | error e =>
      rw [hrun] at hrest
      exact fun ht => hrest fun b hb => ht b (List.mem_append_right bodies hb)
    | ok s =>
      rw [hrun] at hrest
      obtain ⟨htitled', hrest⟩ := hrest
      exact ⟨fun b hb => (List.mem_append.1 hb).elim (htitled b) (htitled' b), hrest⟩

theorem declarationOf_eq_some {owner : ResourceId} {resource : String} {body : Document}
    {d : Declaration} (h : declarationOf owner resource body = some d) :
    d.owner = owner ∧ d.resource = resource ∧ d.body = body := by
  unfold declarationOf at h
  obtain ⟨title, -, hd⟩ := Option.bind_eq_some_iff.1 h
  split at hd <;> cases hd
  exact ⟨rfl, rfl, rfl⟩

theorem owned_of_declarationOf {owner : ResourceId} {resource : String} {body : Document}
    {d : Declaration} (howner : entries[owner]?.map (·.id) = some resource)
    (h : declarationOf owner resource body = some d) : Owned entries d := by
  obtain ⟨rfl, rfl, -⟩ := declarationOf_eq_some h
  exact howner

theorem Owned.append {d : Declaration} (h : Owned entries d) (more : List ResourceEntry) :
    Owned (entries ++ more) d := by
  obtain ⟨entry, hentry, hid⟩ := Option.map_eq_some_iff.1 h
  have hlt := (List.getElem?_eq_some_iff.1 hentry).1
  rw [Owned, List.getElem?_append_left hlt, hentry, Option.map_some, hid]

theorem declareBodies_registered {owner : ResourceId} {resource : String} (bodies : List Document)
    (hids : (entries.map (·.id)).Nodup) (howned : ∀ e ∈ ds, Owned entries e)
    (howner : entries[owner]?.map (·.id) = some resource) (hdistinct : Distinct config ds) :
    Declares config entries bodies (ds ++ bodies.filterMap (declarationOf owner resource))
      (bodies.foldlM (declareBody config owner resource)
        (registered config entries (firstsBy Declaration.identity ds))) := by
  induction bodies generalizing ds with
  | nil =>
    rw [List.filterMap_nil, List.append_nil, List.foldlM_nil]
    exact ⟨fun b hb => absurd hb (by simp), hdistinct, rfl⟩
  | cons body bodies ih =>
    have happend : ds ++ (body :: bodies).filterMap (declarationOf owner resource) =
        ds ++ (declarationOf owner resource body).toList ++
          bodies.filterMap (declarationOf owner resource) := by
      cases hd : declarationOf owner resource body <;> simp [hd]
    rw [happend, List.foldlM_cons]
    refine (declareBody_registered body hids howned howner hdistinct).bind fun hdist => ih ?_ hdist
    intro e he
    rcases List.mem_append.1 he with he | he
    · exact howned e he
    · exact owned_of_declarationOf howner (Option.mem_toList.1 he)

theorem declarations_append_singleton (entry : ResourceEntry) :
    declarations (entries ++ [entry]) = declarations entries ++
      (bodiesOf entry).filterMap (declarationOf entries.length entry.id) := by
  simp [declarations, declarationsFrom, List.zipIdx_append]

theorem owned_declarations {d : Declaration} (h : d ∈ declarations entries) : Owned entries d := by
  obtain ⟨p, hp, hd⟩ := List.mem_flatMap.1 h
  obtain ⟨body, -, hbody⟩ := List.mem_filterMap.1 hd
  refine owned_of_declarationOf ?_ hbody
  rw [List.mem_zipIdx_iff_getElem?.1 hp, Option.map_some]

theorem declareResource_registered (ds : List Declaration) (entry : ResourceEntry) :
    declareResource config (registered config entries ds) entry =
      (bodiesOf entry).foldlM (declareBody config entries.length entry.id)
        (registered config (entries ++ [entry]) ds) := by
  simp [declareResource, registered, Registry.addResource, bodiesOf]

/-- A run over the resources that are left, after those that are done. -/
theorem declareResources_registered (done rest : List ResourceEntry)
    (hids : ((done ++ rest).map (·.id)).Nodup) (hdistinct : Distinct config (declarations done)) :
    Declares config (done ++ rest) (rest.flatMap bodiesOf) (declarations (done ++ rest))
      (rest.foldlM (declareResource config)
        (registered config done (firstsBy Declaration.identity (declarations done)))) := by
  induction rest generalizing done with
  | nil =>
    rw [List.append_nil, List.foldlM_nil]
    exact ⟨fun b hb => absurd hb (by simp), hdistinct, rfl⟩
  | cons entry rest ih =>
    have hsplit : done ++ entry :: rest = done ++ [entry] ++ rest := by simp
    rw [hsplit] at hids ⊢
    have hids' : ((done ++ [entry]).map (·.id)).Nodup :=
      hids.sublist ((List.sublist_append_left (done ++ [entry]) rest).map _)
    have howner : (done ++ [entry])[done.length]?.map (·.id) = some entry.id := by simp
    have hbodies := declareBodies_registered (bodiesOf entry) hids'
      (fun d hd => (owned_declarations hd).append [entry]) howner hdistinct
    have hmore : declarations (done ++ [entry] ++ rest) =
        declarations (done ++ [entry]) ++ declarationsFrom (done.length + 1) rest := by
      simp [declarations, declarationsFrom, List.zipIdx_append]
    rw [← declarations_append_singleton] at hbodies
    rw [List.foldlM_cons, declareResource_registered, List.flatMap_cons, hmore]
    refine hbodies.bind fun hdist => ?_
    rw [← hmore]
    exact ih (done ++ [entry]) hids hdist

theorem declareAll_declares (config : Config) (hids : (entries.map (·.id)).Nodup) :
    Declares config entries (entries.flatMap bodiesOf) (declarations entries)
      (declareAll config entries) :=
  declareResources_registered [] entries hids fun d hd => absurd hd (by simp [declarations,
    declarationsFrom])

end TypedClient.Extraction
