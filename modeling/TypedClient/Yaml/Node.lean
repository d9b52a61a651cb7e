import TypedClient.Yaml.Scanner

namespace TypedClient.Yaml

inductive Node
  | void
  | scalar (style : Style) (tag : Option (List Char)) (text : List Char)
  | list (elements : List Node)
  | map (entries : List (Node × Node))
  | alias (slot : Nat)

namespace Node

def empty : Node := scalar .plain none []

end Node

structure Anchored where
  root : Node
  nodes : List (Nat × Node)

structure Parser where
  tokens : List Token
  handles : List (List Char × List Char) :=
    [(['!'], ['!']), (['!', '!'], "tag:yaml.org,2002:".toList)]
  slots : List (List Char × Nat) := []
  nodes : Array (Nat × Node) := #[]

abbrev Parse := StateT Parser Option

namespace Parse

def peek : Parse (Option Token) := return (← get).tokens.head?

def skip : Parse Unit := modify fun p => { p with tokens := p.tokens.tail }

def accept (t : Token) : Parse Bool := do
  if (← peek) = some t then
    skip
    return true
  else return false

def expect (t : Token) : Parse Unit := do
  if !(← accept t) then failure

def atOneOf (ts : List Token) : Parse Bool := return (← peek).all ts.contains

/-- Gives an anchor its slot: as many as there are names already. -/
def openAnchor (name : List Char) : Parse Nat := do
  let p ← get
  let slot := p.slots.length
  set { p with
    slots := (name, slot) :: p.slots.filter (·.1 ≠ name)
    nodes := p.nodes.push (slot, .empty) }
  return p.nodes.size

def closeAnchor (index : Nat) (n : Node) : Parse Unit := modify fun p =>
  { p with nodes := p.nodes.modify index fun entry => (entry.1, n) }

def resolveTag (handle suffix : List Char) : Parse (List Char) := do
  if handle.isEmpty then return suffix
  else match (← get).handles.lookup handle with
    | some start => return start ++ suffix
    | none => failure

def properties : Parse (Option (List Char) × Option (List Char)) := do
  match ← peek with
  | some (.anchor name) =>
    skip
    match ← peek with
    | some (.tag handle suffix) =>
      skip
      return (some name, some (← resolveTag handle suffix))
    | _ => return (some name, none)
  | some (.tag handle suffix) =>
    skip
    match ← peek with
    | some (.anchor name) =>
      skip
      return (some name, some (← resolveTag handle suffix))
    | _ => return (none, some (← resolveTag handle suffix))
  | _ => return (none, none)

mutual

/-- A node. In each of these parsers the bound only ends the recursion: a token is used up at least
at every third step. -/
def node (inBlock mayIndent : Bool) : Nat → Parse Node
  | 0 => failure
  | bound + 1 => do
    match ← peek with
    | some (.alias name) =>
      skip
      match (← get).slots.lookup name with
      | some slot => return .alias slot
      | none => failure
    | _ =>
      let (anchor, tag) ← properties
      let index ← anchor.mapM openAnchor
      let n ← content inBlock mayIndent (anchor.isSome || tag.isSome) tag bound
      match index with
      | some index => closeAnchor index n
      | none => pure ()
      return n

def content (inBlock mayIndent hasProperties : Bool) (tag : Option (List Char)) : Nat → Parse Node
  | 0 => failure
  | bound + 1 => do
    match ← peek, inBlock with
    | some .entry, _ =>
      if mayIndent then return .list (← sameColumnEntries bound)
      else if hasProperties then return .scalar .plain (tag.filter (· ≠ ['!'])) []
      else failure
    | some (.scalar style text), _ =>
      skip
      return .scalar style (tag.filter (· ≠ ['!'])) text
    | some .flowList, _ =>
      skip
      return .list (← flowEntries true bound)
    | some .flowMap, _ =>
      skip
      return .map (← flowPairs true bound)
    | some .blockList, true =>
      skip
      return .list (← blockEntries bound)
    | some .blockMap, true =>
      skip
      return .map (← blockPairs bound)
    | _, _ =>
      if hasProperties then return .scalar .plain (tag.filter (· ≠ ['!'])) [] else failure

def nodeUnless (stops : List Token) (inBlock mayIndent : Bool) : Nat → Parse Node
  | 0 => failure
  | bound + 1 => do
    if ← atOneOf stops then return .empty else node inBlock mayIndent bound

def blockEntries : Nat → Parse (List Node)
  | 0 => failure
  | bound + 1 => do
    if ← accept .blockEnd then return []
    expect .entry
    let n ← nodeUnless [.entry, .blockEnd] true false bound
    return n :: (← blockEntries bound)

/-- The entries of a list in the column of the map around it. -/
def sameColumnEntries : Nat → Parse (List Node)
  | 0 => failure
  | bound + 1 => do
    if !(← accept .entry) then return []
    let n ← nodeUnless [.entry, .key, .value, .blockEnd] true false bound
    return n :: (← sameColumnEntries bound)

def blockPairs : Nat → Parse (List (Node × Node))
  | 0 => failure
  | bound + 1 => do
    if ← accept .blockEnd then return []
    expect .key
    let k ← nodeUnless [.key, .value, .blockEnd] true true bound
    let v ← blockValue bound
    return (k, v) :: (← blockPairs bound)

def blockValue : Nat → Parse Node
  | 0 => failure
  | bound + 1 => do
    if ← accept .value then nodeUnless [.key, .value, .blockEnd] true true bound
    else return .empty

/-- The entries of a list in brackets. An entry with a colon is a map of one pair. -/
def flowEntries (isFirst : Bool) : Nat → Parse (List Node)
  | 0 => failure
  | bound + 1 => do
    if ← accept .flowListEnd then return []
    if !isFirst then expect .comma
    if ← accept .key then
      let pair ← onlyPair bound
      return .map [pair] :: (← flowEntries false bound)
    else if ← accept .flowListEnd then return []
    else
      let n ← node false false bound
      return n :: (← flowEntries false bound)

/-- A single pair in a list. Where its key is missing, the token after it goes unread. -/
def onlyPair : Nat → Parse (Node × Node)
  | 0 => failure
  | bound + 1 => do
    let keyMissing ← atOneOf [.value, .comma, .flowListEnd]
    let k ← nodeUnless [.value, .comma, .flowListEnd] false false bound
    if keyMissing then skip
    if ← accept .value then
      return (k, ← nodeUnless [.comma, .flowListEnd] false false bound)
    else return (k, .empty)

def flowPairs (isFirst : Bool) : Nat → Parse (List (Node × Node))
  | 0 => failure
  | bound + 1 => do
    if ← accept .flowMapEnd then return []
    if !isFirst then expect .comma
    if ← accept .key then
      let k ← nodeUnless [.value, .comma, .flowMapEnd] false false bound
      let v ← flowValue bound
      return (k, v) :: (← flowPairs false bound)
    else if ← accept .flowMapEnd then return []
    else
      let k ← node false false bound
      return (k, .empty) :: (← flowPairs false bound)

def flowValue : Nat → Parse Node
  | 0 => failure
  | bound + 1 => do
    if ← accept .value then nodeUnless [.comma, .flowMapEnd] false false bound
    else return .empty

end

/-- The directives before a document: one version at most, and each handle once. -/
def directives : Nat → Bool → List (List Char × List Char) → Parse (List (List Char × List Char))
  | 0, _, _ => failure
  | bound + 1, versioned, own => do
    match ← peek with
    | some (.version major minor) =>
      if versioned || major ≠ 1 || !(minor = 1 || minor = 2) then failure
      skip
      directives bound true own
    | some (.handle name start) =>
      if (own.lookup name).isSome then failure
      skip
      directives bound versioned ((name, start) :: own)
    | _ => return own

def document : Parse Node := do
  let bound := 3 * (← get).tokens.length + 3
  let root ← match ← peek with
    | none => return .void
    | some (.version ..) | some (.handle ..) | some .documentStart =>
      let own ← directives bound false []
      modify fun p => { p with handles := own ++ p.handles }
      expect .documentStart
      nodeUnless [.documentStart, .documentEnd] true false bound
    | some _ => node true false bound
  modify fun p => { p with tokens := p.tokens.dropWhile (· = .documentEnd) }
  if (← peek).isSome then failure
  return root

end Parse

def read? (cs : List Char) : Option Anchored := do
  let (root, p) ← Parse.document.run { tokens := ← tokens? cs }
  return ⟨root, p.nodes.toList.reverse⟩

end TypedClient.Yaml
