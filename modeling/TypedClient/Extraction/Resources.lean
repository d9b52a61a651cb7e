import TypedClient.Config.Basic
import TypedClient.Document.Node
import TypedClient.Failure
import TypedClient.Region
import TypedClient.Text.Number

namespace TypedClient.Extraction

open Text

structure ResourceEntry where
  node : Document
  id : String
  version : String
  number : Nat
  regions : List Region

def maxNumber : Nat := Nat.pow 2 32 - 1

def requiredAttr (place : Place) (n : Document) (name : String) : Except Failure (List Char) :=
  match n.attr? name with
  | some value => .ok (trim value.toList)
  | none => .error (.structural place (.missingAttribute name))

def orFault {α : Type} (place : Place) (fault : StructuralFault) : Option α → Except Failure α
  | some a => .ok a
  | none => .error (.structural place fault)

/-- The resource and the version of an attribute such as `summoner-v1.4`. -/
def splitVersion? (cs : List Char) : Option (String × String) :=
  match splitAtLast '-' cs with
  | none => none
  | some (id, version) =>
    if (trim id).isEmpty || (trim version).isEmpty then none
    else some (String.ofList (trim id), String.ofList (trim version))

def resourceNumber? (cs : List Char) : Option Nat :=
  (dropStart? "resource_".toList cs).bind fun n => (parseNat maxNumber n).toOption

def readRegion (place : Place) (name : List Char) : Except Failure Region :=
  orFault place (.unknownRegion (String.ofList name)) (Region.named? (String.ofList name))

def regionNames (cs : List Char) : List (List Char) :=
  ((splitAt ',' cs).map trim).filter (· ≠ [])

/-- The regions of such a list. `ALL` stands for every region with requests of its own. -/
def readRegions (place : Place) (cs : List Char) : Except Failure (List Region) :=
  let inner := trim (dropEnd ']' ((trim cs).dropWhile (· == '[')))
  if inner = "ALL".toList then .ok Region.valid
  else (regionNames inner).mapM (readRegion place)

def readResource (n : Document) : Except Failure ResourceEntry := do
  let place := Place.resourceNode n.label
  let (id, version) ← orFault place .malformedVersion
    (splitVersion? (← requiredAttr place n "data-version"))
  let number ← orFault place .malformedResourceId (resourceNumber? (← requiredAttr place n "id"))
  let regions ← readRegions place (← requiredAttr place n "data-regions")
  return ⟨n, id, version, number, regions⟩

/-- Reads the resources after those that are already read. Skipped ones are left out, though they
have to be well formed too; no other may come twice. -/
def readResources (config : Config) (before : List ResourceEntry) :
    List Document → Except Failure (List ResourceEntry)
  | [] => .ok before
  | n :: ns => do
    let entry ← readResource n
    if config.isSkipped entry.id then readResources config before ns
    else if before.any (·.id = entry.id) then
      .error (.structural (.resource entry.id) .declaredTwice)
    else readResources config (before ++ [entry]) ns

def toFront {α : Type} (p : α → Bool) (xs : List α) : List α :=
  match xs.find? p with
  | some x => x :: xs.eraseP p
  | none => xs

def resources (config : Config) (doc : Document) : Except Failure (List ResourceEntry) := do
  let entries ← readResources config [] (doc.descendantsOfKind "resource")
  return match config.firstResource with
    | some first => toFront (·.id = first) entries
    | none => entries

end TypedClient.Extraction
