import TypedClient.Proofs.Document.Written
import TypedClient.Proofs.Extraction.DocumentOrder

namespace TypedClient.Extraction

open Text

/-- The title of a block that is not blank. -/
def blockTitle? (block : Document) : Option String :=
  if block.isBlank then none else (block.attr? "title").map (onChars trim)

def isPathBlock (block : Document) : Bool := blockTitle? block = some "Path Parameters"

def isQueryBlock (block : Document) : Bool := blockTitle? block = some "Query Parameters"

def isParameterBlock (block : Document) : Bool := isPathBlock block || isQueryBlock block

def tablesOf (block : Document) : List Document := block.childrenOfKind "table"

def rowsOf (table : Document) : List Document := table.childrenOfKind "row"

/-- Whether a heading within a block of path parameters announces those of the query. -/
def announcesQuery (block : Document) : Bool :=
  isPathBlock block && (block.childOfKind? "title").any (·.flatText = "Query Parameters")

/-- The table of a block that tells the parameters of the path. -/
def pathTable? (block : Document) : Option Document :=
  if isPathBlock block then (tablesOf block).head? else none

def queryTable? (block : Document) : Option Document :=
  if announcesQuery block then (tablesOf block).tail.head?
  else if isQueryBlock block then (tablesOf block).head?
  else none

/-- The tables of a block that tell nothing. -/
def surplusTables (block : Document) : List Document :=
  (tablesOf block).drop (if announcesQuery block then 2 else 1)

section

variable (n : Document)

def parameterBlocks : List Document := (n.childrenOfKind "block").filter isParameterBlock

def pathTables : List Document := (n.childrenOfKind "block").filterMap pathTable?

def queryTables : List Document := (n.childrenOfKind "block").filterMap queryTable?

/-- All rows of an operation that document a parameter. -/
def documentedRows : List Document := ((parameterBlocks n).flatMap tablesOf).flatMap rowsOf

/-- The rows that the parameters of the path are read from. -/
def pathRows : List Document := (pathTables n).getLast?.elim [] rowsOf

def queryRows : List Document := (queryTables n).getLast?.elim [] rowsOf

/-- The tables that do not count: those that a later one takes the place of, and surplus ones. -/
def lostTables : List Document :=
  (pathTables n).dropLast ++ (queryTables n).dropLast ++ (parameterBlocks n).flatMap surplusTables

def lostRows : List Document := (lostTables n).flatMap rowsOf

end

/-- A parameter has the name and the description of its row. -/
def GivenBy (row : Document) (p : Parameter) : Prop :=
  ∃ required typeText more, cells row = p.rawName :: required :: typeText :: more ∧
    p.isRequired = (required == "true") ∧ p.description = more.head?.getD ""

/-- Each documented row is a parameter of the path or one of the query, in document order. -/
def Complete (n : Document) (op : Operation) : Prop :=
  ∃ path query, path.Sublist (documentedRows n) ∧ query.Sublist (documentedRows n) ∧
    (path ++ query).Perm (documentedRows n) ∧
    List.Forall₂ GivenBy path op.path.parameters ∧ List.Forall₂ GivenBy query op.query

variable {ctx : Context}

theorem givenBy_readParameter {row : Document} {p : Parameter} (h : readParameter ctx row = .ok p) :
    GivenBy row p := by
  unfold readParameter at h
  split at h
  · rename_i rawName required typeText more hcells
    obtain ⟨t, -, h⟩ := Outcome.bind_eq_ok.1 h
    cases h
    exact ⟨_, _, _, hcells, rfl, rfl⟩
  · cases h

/-- Parameters that are read from a table, if there is one, and stay what they are if not. -/
def ReadFrom (ctx : Context) (table? : Option Document) (before after : List Parameter) : Prop :=
  match table? with
  | some table => readParameters ctx table = .ok after
  | none => after = before

theorem ReadFrom.trans {first second : Option Document} {ps qs rs : List Parameter}
    (h : ReadFrom ctx first ps qs) (h' : ReadFrom ctx second qs rs) :
    ReadFrom ctx (second.or first) ps rs := by
  cases second with
  | none => exact (show rs = qs from h') ▸ h
  | some table => exact h'

theorem ReadFrom.givenBy {table? : Option Document} {ps : List Parameter}
    (h : ReadFrom ctx table? [] ps) : List.Forall₂ GivenBy (table?.elim [] rowsOf) ps := by
  cases table? with
  | none => exact (show ps = [] from h) ▸ .nil
  | some table => exact (Outcome.mapM_eq_ok.1 h).imp fun _ _ => givenBy_readParameter

/-- What a block does to the parameters told so far. -/
structure Takes (ctx : Context) (block : Document) (d d' : Details) : Prop where
  path : ReadFrom ctx (pathTable? block) d.pathParameters d'.pathParameters
  query : ReadFrom ctx (queryTable? block) d.query d'.query
  tables : isParameterBlock block →
    tablesOf block = (pathTable? block).toList ++ (queryTable? block).toList ++ surplusTables block

theorem tables?_of_other {block : Document} (h : isParameterBlock block = false) :
    pathTable? block = none ∧ queryTable? block = none := by
  obtain ⟨hpath, hquery⟩ := Bool.or_eq_false_iff.1 h
  exact ⟨by simp [pathTable?, hpath], by simp [queryTable?, announcesQuery, hpath, hquery]⟩

theorem takes_of_other {block : Document} {d d' : Details} (hblock : isParameterBlock block = false)
    (hpath : d'.pathParameters = d.pathParameters) (hquery : d'.query = d.query) :
    Takes ctx block d d' := by
  obtain ⟨hpathTable, hqueryTable⟩ := tables?_of_other hblock
  refine ⟨hpathTable ▸ hpath, hqueryTable ▸ hquery, fun h => ?_⟩
  rw [hblock] at h
  cases h

theorem isQueryBlock_of_isPathBlock {block : Document} (h : isPathBlock block = true) :
    isQueryBlock block = false := by
  have htitle : blockTitle? block = some "Path Parameters" := by simpa [isPathBlock] using h
  simp [isQueryBlock, htitle]

theorem announcesQuery_of_isQueryBlock {block : Document} (h : isQueryBlock block = true) :
    announcesQuery block = false := by
  have htitle : blockTitle? block = some "Query Parameters" := by simpa [isQueryBlock] using h
  simp [announcesQuery, isPathBlock, htitle]

theorem readPathBlock_eq_ok {block : Document} {d d' : Details}
    (h : readPathBlock ctx d block = .ok d') :
    ∃ first, (tablesOf block).head? = some first ∧ readParameters ctx first = .ok d'.pathParameters ∧
      if (block.childOfKind? "title").any (·.flatText = "Query Parameters") then
        ∃ second, (tablesOf block).tail.head? = some second ∧ readParameters ctx second = .ok d'.query
      else d'.query = d.query := by
  obtain ⟨first, hfirst, h⟩ := Outcome.bind_eq_ok.1 h
  obtain ⟨path, hpath, h⟩ := Outcome.bind_eq_ok.1 h
  refine ⟨first, orFault_eq_ok.1 hfirst, ?_⟩
  cases htitle : block.childOfKind? "title" with
  | none =>
    rw [htitle] at h
    obtain rfl := Outcome.pure_eq_ok.1 h
    exact ⟨hpath, by simp⟩
  | some title =>
    rw [htitle] at h
    dsimp only at h
    by_cases hheading : title.flatText = "Query Parameters"
    · rw [if_pos hheading] at h
      obtain ⟨second, hsecond, h⟩ := Outcome.bind_eq_ok.1 h
      obtain ⟨query, hquery, h⟩ := Outcome.bind_eq_ok.1 h
      obtain rfl := Outcome.pure_eq_ok.1 h
      refine ⟨hpath, ?_⟩
      rw [if_pos (by simp [hheading])]
      exact ⟨second, orFault_eq_ok.1 hsecond, hquery⟩
    · rw [if_neg hheading] at h
      split at h
      · obtain rfl := Outcome.pure_eq_ok.1 h
        exact ⟨hpath, by simp [hheading]⟩
      · cases h

theorem takes_pathBlock {block : Document} {d d' : Details} (hblock : isPathBlock block = true)
    (h : readPathBlock ctx d block = .ok d') : Takes ctx block d d' := by
  obtain ⟨first, hfirst, hpath, hquery⟩ := readPathBlock_eq_ok h
  obtain ⟨rest, htables⟩ := List.head?_eq_some_iff.1 hfirst
  have hpathTable : pathTable? block = some first := by rw [pathTable?, if_pos hblock, hfirst]
  have hother := isQueryBlock_of_isPathBlock hblock
  by_cases hheading : (block.childOfKind? "title").any (·.flatText = "Query Parameters") = true
  · rw [if_pos hheading] at hquery
    obtain ⟨second, hsecond, hread⟩ := hquery
    have hannounces : announcesQuery block = true := by simp only [announcesQuery, hblock, hheading, Bool.and_self]
    have hqueryTable : queryTable? block = some second := by rw [queryTable?, if_pos hannounces, hsecond]
    refine ⟨hpathTable ▸ hpath, hqueryTable ▸ hread, fun _ => ?_⟩
    obtain ⟨rest', hrest⟩ := List.head?_eq_some_iff.1 hsecond
    rw [htables, List.tail_cons] at hrest
    rw [hpathTable, hqueryTable, surplusTables, if_pos hannounces, htables, hrest]
    rfl
  · rw [if_neg hheading] at hquery
    have hannounces : announcesQuery block = false := by
      rw [announcesQuery, hblock, Bool.true_and]
      exact Bool.eq_false_iff.2 hheading
    have hqueryTable : queryTable? block = none := by simp [queryTable?, hannounces, hother]
    refine ⟨hpathTable ▸ hpath, hqueryTable ▸ hquery, fun _ => ?_⟩
    rw [hpathTable, hqueryTable, surplusTables, hannounces, htables]
    rfl

theorem takes_queryBlock {block table : Document} {d : Details} {query : List Parameter}
    (hblock : isQueryBlock block = true) (htable : (tablesOf block).head? = some table)
    (h : readParameters ctx table = .ok query) : Takes ctx block d { d with query } := by
  obtain ⟨rest, htables⟩ := List.head?_eq_some_iff.1 htable
  have hannounces := announcesQuery_of_isQueryBlock hblock
  have hpath : isPathBlock block = false := by
    by_contra hne
    rw [isQueryBlock_of_isPathBlock (by simpa using hne)] at hblock
    cases hblock
  have hpathTable : pathTable? block = none := by simp [pathTable?, hpath]
  have hqueryTable : queryTable? block = some table := by
    rw [queryTable?, hannounces, if_neg (by simp), if_pos hblock, htable]
  refine ⟨hpathTable ▸ rfl, hqueryTable ▸ h, fun _ => ?_⟩
  rw [hpathTable, hqueryTable, surplusTables, hannounces, htables]
  rfl

theorem takes_readBlock {block : Document} {d d' : Details} (h : readBlock ctx d block = .ok d') :
    Takes ctx block d d' := by
  unfold readBlock at h
  by_cases hblank : block.isBlank
  · rw [if_pos hblank] at h
    obtain rfl := Outcome.pure_eq_ok.1 h
    have htitle : blockTitle? block = none := if_pos hblank
    exact takes_of_other (by simp [isParameterBlock, isPathBlock, isQueryBlock, htitle]) rfl rfl
  · rw [if_neg hblank] at h
    obtain ⟨title, htitle, h⟩ := Outcome.bind_eq_ok.1 h
    have hblock : blockTitle? block = some (onChars trim title) := by
      rw [blockTitle?, if_neg hblank, orFault_eq_ok.1 htitle, Option.map_some]
    have hother (s : String) (hs : onChars trim title = s) (hpath : s ≠ "Path Parameters")
        (hquery : s ≠ "Query Parameters") : isParameterBlock block = false := by
      simp [isParameterBlock, isPathBlock, isQueryBlock, hblock, hs, hpath, hquery]
    -- Of the titles that are known, two are those of parameters.
    split at h
    · rename_i heq
      obtain rfl := Outcome.pure_eq_ok.1 h
      exact takes_of_other (hother _ heq (by decide) (by decide)) rfl rfl
    · rename_i heq
      obtain rfl := Outcome.pure_eq_ok.1 h
      exact takes_of_other (hother _ heq (by decide) (by decide)) rfl rfl
    · rename_i heq
      obtain ⟨t, -, h⟩ := Outcome.bind_eq_ok.1 h
      obtain rfl := Outcome.pure_eq_ok.1 h
      exact takes_of_other (hother _ heq (by decide) (by decide)) rfl rfl
    · rename_i heq
      obtain ⟨errors, -, h⟩ := Outcome.bind_eq_ok.1 h
      obtain rfl := Outcome.pure_eq_ok.1 h
      exact takes_of_other (hother _ heq (by decide) (by decide)) rfl rfl
    · rename_i heq
      exact takes_pathBlock (by simp [isPathBlock, hblock, heq]) h
    · rename_i heq
      obtain ⟨table, htable, h⟩ := Outcome.bind_eq_ok.1 h
      obtain ⟨query, hquery, h⟩ := Outcome.bind_eq_ok.1 h
      obtain rfl := Outcome.pure_eq_ok.1 h
      have hfirst : (tablesOf block).head? = some table :=
        List.head?_filter.trans (orFault_eq_ok.1 htable)
      exact takes_queryBlock (by simp [isQueryBlock, hblock, heq]) hfirst hquery
    · rename_i heq
      obtain rfl := Outcome.pure_eq_ok.1 h
      exact takes_of_other (hother _ heq (by decide) (by decide)) rfl rfl
    · cases h

/-- The parameters told by some blocks. -/
structure ToldBy (ctx : Context) (blocks : List Document) (d : Details) : Prop where
  path : ReadFrom ctx (blocks.filterMap pathTable?).getLast? [] d.pathParameters
  query : ReadFrom ctx (blocks.filterMap queryTable?).getLast? [] d.query
  tables : ∀ block ∈ blocks, isParameterBlock block →
    tablesOf block = (pathTable? block).toList ++ (queryTable? block).toList ++ surplusTables block

theorem getLast?_filterMap_concat {α β : Type} (f : α → Option β) (xs : List α) (x : α) :
    ((xs ++ [x]).filterMap f).getLast? = (f x).or (xs.filterMap f).getLast? := by
  rw [List.filterMap_append, List.getLast?_append]
  cases h : f x <;> simp [h]

theorem ToldBy.concat {blocks : List Document} {block : Document} {d d' : Details}
    (h : ToldBy ctx blocks d) (hb : Takes ctx block d d') : ToldBy ctx (blocks ++ [block]) d' where
  path := by
    rw [getLast?_filterMap_concat]
    exact h.path.trans hb.path
  query := by
    rw [getLast?_filterMap_concat]
    exact h.query.trans hb.query
  tables := by
    intro b hmem
    rcases List.mem_append.1 hmem with hmem | hmem
    · exact h.tables b hmem
    · rw [List.mem_singleton.1 hmem]
      exact hb.tables

theorem toldBy_readBlocks {blocks : List Document} {d : Details}
    (h : blocks.foldlM (readBlock ctx) {} = .ok d) : ToldBy ctx blocks d := by
  have hstart : ToldBy ctx [] {} := ⟨rfl, rfl, fun _ hb => absurd hb List.not_mem_nil⟩
  exact Outcome.foldlM_carries (ToldBy ctx)
    (fun block _ done d d' hd hblock => hd.concat (takes_readBlock hblock)) [] hstart h

theorem filterMap_cons_toList {α β : Type} (f : α → Option β) (x : α) (xs : List α) :
    (x :: xs).filterMap f = (f x).toList ++ xs.filterMap f := by
  cases h : f x <;> simp [h]

theorem tables_perm {blocks : List Document} (h : ∀ block ∈ blocks, isParameterBlock block →
      tablesOf block = (pathTable? block).toList ++ (queryTable? block).toList ++ surplusTables block) :
    ((blocks.filter isParameterBlock).flatMap tablesOf).Perm
      (blocks.filterMap pathTable? ++ blocks.filterMap queryTable? ++
        (blocks.filter isParameterBlock).flatMap surplusTables) := by
  induction blocks with
  | nil => exact .refl _
  | cons b blocks ih =>
    have hrest := ih fun block hblock => h block (List.mem_cons_of_mem b hblock)
    by_cases hb : isParameterBlock b = true
    · rw [List.filter_cons_of_pos hb, List.flatMap_cons, h b List.mem_cons_self hb, List.flatMap_cons,
        filterMap_cons_toList, filterMap_cons_toList]
      refine (hrest.append_left _).trans ?_
      classical
      rw [List.perm_iff_count]
      intro table
      simp only [List.count_append]
      omega
    · obtain ⟨hpath, hquery⟩ := tables?_of_other (Bool.eq_false_iff.2 hb)
      rwa [List.filter_cons_of_neg hb, List.filterMap_cons_none hpath, List.filterMap_cons_none hquery]

theorem dropLast_append_getLast? {α : Type} (xs : List α) : xs.dropLast ++ xs.getLast?.toList = xs := by
  cases h : xs.getLast? with
  | none => simp [List.getLast?_eq_none_iff.1 h]
  | some x => exact List.dropLast_append_getLast? x h

theorem flatMap_getLast? (tables : List Document) :
    tables.getLast?.toList.flatMap rowsOf = tables.getLast?.elim [] rowsOf := by
  cases tables.getLast? <;> simp

variable {n : Document} {op : Operation}

/-- The documented rows are those that are read and those that are lost. -/
theorem documentedRows_perm (h : ∀ block ∈ n.childrenOfKind "block", isParameterBlock block →
      tablesOf block = (pathTable? block).toList ++ (queryTable? block).toList ++ surplusTables block) :
    (documentedRows n).Perm (pathRows n ++ queryRows n ++ lostRows n) := by
  have hpath := dropLast_append_getLast? (pathTables n)
  have hquery := dropLast_append_getLast? (queryTables n)
  refine ((tables_perm h).flatMap_right rowsOf).trans ?_
  rw [← pathTables, ← queryTables, ← hpath, ← hquery]
  classical
  rw [List.perm_iff_count]
  intro row
  simp only [pathRows, queryRows, lostRows, lostTables, parameterBlocks, List.flatMap_append,
    List.count_append, flatMap_getLast?]
  omega

theorem rowsOf_sublist {table : Document} (h : table ∈ (parameterBlocks n).flatMap tablesOf) :
    (rowsOf table).Sublist (documentedRows n) := by
  rw [documentedRows, List.flatMap_def]
  exact List.sublist_flatten_of_mem (List.mem_map_of_mem h)

theorem lastRows_sublist {table? : Document → Option Document}
    (hblock : ∀ block table, table? block = some table → isParameterBlock block = true)
    (htable : ∀ block table, table? block = some table → table ∈ tablesOf block) :
    (((n.childrenOfKind "block").filterMap table?).getLast?.elim [] rowsOf).Sublist
      (documentedRows n) := by
  cases hlast : ((n.childrenOfKind "block").filterMap table?).getLast? with
  | none => exact List.nil_sublist _
  | some table =>
    obtain ⟨block, hmem, hb⟩ := List.mem_filterMap.1 (List.mem_of_getLast? hlast)
    apply rowsOf_sublist
    rw [List.mem_flatMap]
    exact ⟨block, List.mem_filter.2 ⟨hmem, hblock block table hb⟩, htable block table hb⟩

theorem isParameterBlock_of_pathTable? {block table : Document} (h : pathTable? block = some table) :
    isParameterBlock block = true := by
  by_contra hne
  rw [(tables?_of_other (Bool.eq_false_iff.2 hne)).1] at h
  cases h

theorem isParameterBlock_of_queryTable? {block table : Document} (h : queryTable? block = some table) :
    isParameterBlock block = true := by
  by_contra hne
  rw [(tables?_of_other (Bool.eq_false_iff.2 hne)).2] at h
  cases h

theorem mem_tablesOf_of_pathTable? {block table : Document} (h : pathTable? block = some table) :
    table ∈ tablesOf block := by
  unfold pathTable? at h
  split at h
  · exact List.mem_of_head? h
  · cases h

theorem mem_tablesOf_of_queryTable? {block table : Document} (h : queryTable? block = some table) :
    table ∈ tablesOf block := by
  unfold queryTable? at h
  split at h
  · exact List.mem_of_mem_tail (List.mem_of_head? h)
  · split at h
    · exact List.mem_of_head? h
    · cases h

theorem complete_iff (hperm : (documentedRows n).Perm (pathRows n ++ queryRows n ++ lostRows n))
    (hpath : List.Forall₂ GivenBy (pathRows n) op.path.parameters)
    (hquery : List.Forall₂ GivenBy (queryRows n) op.query) : Complete n op ↔ lostRows n = [] := by
  constructor
  · -- As many rows are read as there are parameters, and as many are documented.
    rintro ⟨path, query, -, -, hall, hpath', hquery'⟩
    have hcount := hall.length_eq.trans hperm.length_eq
    simp only [List.length_append, hpath'.length_eq, hquery'.length_eq, hpath.length_eq,
      hquery.length_eq] at hcount
    exact List.length_eq_zero_iff.1 (by omega)
  · intro hnone
    rw [hnone, List.append_nil] at hperm
    refine ⟨pathRows n, queryRows n, ?_, ?_, hperm.symm, hpath, hquery⟩
    · exact lastRows_sublist (fun _ _ => isParameterBlock_of_pathTable?) fun _ _ => mem_tablesOf_of_pathTable?
    · exact lastRows_sublist (fun _ _ => isParameterBlock_of_queryTable?) fun _ _ => mem_tablesOf_of_queryTable?

/-- An operation has the parameters of the last table of each list, and the rows of all other tables are
lost. -/
theorem OperationAt.parameters {config : Config} {types : String → Option ClassId} {resource : String}
    (h : OperationAt config types resource n op) :
    List.Forall₂ GivenBy (pathRows n) op.path.parameters ∧
    List.Forall₂ GivenBy (queryRows n) op.query ∧
    (documentedRows n).Perm (pathRows n ++ queryRows n ++ lostRows n) ∧
    (Complete n op ↔ lostRows n = []) := by
  have htold := toldBy_readBlocks h.blocks
  have hpath := htold.path.givenBy
  have hquery := htold.query.givenBy
  have hperm := documentedRows_perm htold.tables
  exact ⟨hpath, hquery, hperm, complete_iff hperm hpath hquery⟩

variable {config : Config} {doc : Document} {r : Registry}

/-- The parameters of each operation are those of the last table for the path and of the last table for
the query, in order. So every documented row is a parameter, once and in its place, exactly if no other
table of the parameter blocks has a row. -/
theorem parameters_complete_iff (h : extract config doc = .ok r) :
    List.Forall₂ (fun n op =>
        List.Forall₂ GivenBy (pathRows n) op.path.parameters ∧
        List.Forall₂ GivenBy (queryRows n) op.query ∧
        (documentedRows n).Perm (pathRows n ++ queryRows n ++ lostRows n) ∧
        (Complete n op ↔ lostRows n = []))
      ((resourceNodes config doc).flatMap operationNodes) r.orderedOperations :=
  (forall₂_operationAt h).imp fun _ _ ⟨_, hat⟩ => hat.parameters

open RawNode in
def parameterBlock (title : String) (children : List RawNode) : RawNode :=
  branch "block" [("title", title)] children

open RawNode in
def parameterTable (names : List String) : RawNode :=
  branch "table" [] (names.map fun name => row [name, "false", "string", ""])

open RawNode in
/-- An operation with parameters of the path and, under a heading, of the query. -/
def documented (further : List RawNode) : RawNode :=
  branch "document" [] [resource "resource_1" "champion-v1.2" [operation "/champion" (
    responseClasses [returnValue "long"] ::
    parameterBlock "Path Parameters" [
      parameterTable ["region"], leaf "title" "Query Parameters", parameterTable ["locale"]] ::
    further)]]

theorem parameters_complete_headed :
    ∃ r, extract {} (documented []).number = .ok r ∧
      ∃ n ∈ (resourceNodes {} (documented []).number).flatMap operationNodes,
        ∃ op ∈ r.orderedOperations, (documentedRows n).length = 2 ∧ Complete n op := by
  have hr := Outcome.eq_ok_getD {} (x := extract {} (documented []).number) (by decide +kernel)
  refine ⟨_, hr, ?_⟩
  have hrows : ((resourceNodes {} (documented []).number).flatMap operationNodes).map
      (fun n => ((documentedRows n).length, (lostRows n).length)) = [(2, 0)] := by decide +kernel
  obtain ⟨n, hn⟩ := List.map_eq_singleton_iff.1 hrows
  have hmem : n ∈ (resourceNodes {} (documented []).number).flatMap operationNodes := hn.1 ▸ List.mem_cons_self
  obtain ⟨op, hop, -, -, -, hcomplete⟩ := Outcome.exists_mem_of_forall₂ (parameters_complete_iff hr) hmem
  obtain ⟨hlength, hlost⟩ := Prod.mk.inj hn.2
  exact ⟨n, hmem, op, hop, hlength, hcomplete.2 (List.length_eq_zero_iff.1 hlost)⟩

theorem Complete.length_eq (h : Complete n op) :
    op.path.parameters.length + op.query.length = (documentedRows n).length := by
  obtain ⟨path, query, -, -, hall, hpath, hquery⟩ := h
  rw [← hall.length_eq, List.length_append, hpath.length_eq, hquery.length_eq]

def overwritten : RawNode :=
  documented [parameterBlock "Query Parameters" [parameterTable ["version"]]]

/-- The parameter under the heading is lost to the block behind it. -/
theorem parameters_overwritten :
    ∃ r, extract {} overwritten.number = .ok r ∧
      r.orderedOperations.map (fun op => (op.path.parameters ++ op.query).map (·.rawName)) =
        [["region", "version"]] ∧
      ¬ List.Forall₂ Complete ((resourceNodes {} overwritten.number).flatMap operationNodes)
        r.orderedOperations := by
  have hrun : (extract {} overwritten.number).toOption.map (fun r => r.orderedOperations.map fun op =>
      ((op.path.parameters ++ op.query).map (·.rawName), op.path.parameters.length + op.query.length)) =
        some [(["region", "version"], 2)] := by decide +kernel
  obtain ⟨r, hr, hops⟩ := Outcome.exists_ok_of_map_toOption hrun
  refine ⟨r, hr, by simpa using congrArg (List.map Prod.fst) hops, fun hall => ?_⟩
  have hrows : ((resourceNodes {} overwritten.number).flatMap operationNodes).map
      (fun n => (documentedRows n).length) = [3] := by decide +kernel
  have hlengths := Rearranged.map_eq_of_forall₂ (fun _ _ hc => Complete.length_eq hc) hall
  have htold := congrArg (List.map Prod.snd) hops
  simp only [List.map_map, Function.comp_def, List.map_cons, List.map_nil] at htold
  rw [htold, hrows] at hlengths
  cases hlengths

end TypedClient.Extraction
