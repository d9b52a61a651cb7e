import TypedClient.Files.Access
import TypedClient.Text.Utf8

namespace TypedClient

/-- Files and directories by their places, which count from the root. The root itself is always there. -/
structure FileTree where
  files : List (List String × List UInt8) := []
  directories : List (List String) := []
  workingDirectory : List String := []
deriving DecidableEq, Repr

namespace FileTree

variable (t : FileTree)

def longestName : Nat := 255

def isDirectory (place : List String) : Bool := place.isEmpty || t.directories.contains place

def file? (place : List String) : Option (List UInt8) := t.files.lookup place

/-- The place that components lead to from a directory. All but the last of them have to be directories, and the
root is above itself. -/
def locate (place : List String) : List Component → Option (List String)
  | [] => some place
  | .root :: cs => locate [] cs
  | .here :: cs => if t.isDirectory place then locate place cs else none
  | .up :: cs => if t.isDirectory place then locate place.dropLast cs else none
  | .name s :: cs =>
    if t.isDirectory place && s.utf8ByteSize ≤ longestName then locate (place ++ [s]) cs else none

def place? (p : Path) : Option (List String) :=
  if p.holdsNul || p.components.isEmpty then none else t.locate t.workingDirectory p.components

def nulFault : String := ": file name contained an unexpected NUL byte"

/-- The system's words about a failure. They are not part of the tree. -/
def fault (p : Path) : String := if p.holdsNul then nulFault else ""

def bytes? (p : Path) : Option (List UInt8) :=
  if p.endsInDirectory then none else (t.place? p).bind t.file?

def read (p : Path) : Except String String :=
  match t.bytes? p with
  | none => .error (fault p)
  | some bytes =>
    match Text.Utf8.decode? bytes with
    | some cs => .ok (String.ofList cs)
    | none => .error ": stream did not contain valid UTF-8"

def has (p : Path) : Bool :=
  match t.place? p with
  | none => false
  | some place => t.isDirectory place || (!p.endsInDirectory && (t.file? place).isSome)

def keep (t : FileTree) : Except String FileTree → Except String Unit × FileTree
  | .ok t => (.ok (), t)
  | .error words => (.error words, t)

def makeSingle (path : List Component) : Except String FileTree :=
  match t.locate t.workingDirectory path with
  | none => .error ""
  | some place =>
    if t.isDirectory place then .ok t
    else if (t.file? place).isSome then .error ""
    else .ok { t with directories := t.directories ++ [place] }

/-- Makes the directory that the components lead to, after those that lead to it. The directories that
are made before one that cannot be made stay. -/
def makeDirectory (t : FileTree) : List Component → Except String Unit × FileTree
  | [] => (.ok (), t)
  | c :: cs => go t [c] cs
where
  go (t : FileTree) (done : List Component) : List Component → Except String Unit × FileTree
    | [] => t.keep (t.makeSingle done)
    | c :: cs =>
      match t.makeSingle done with
      | .error words => (.error words, t)
      | .ok t => go t (done ++ [c]) cs

def makeParent (p : Path) : Except String Unit × FileTree :=
  match p.parent? with
  | none => (.ok (), t)
  | some cs =>
    let isBroken := cs.any fun
      | .name s => s.toList.contains '\x00'
      | _ => false
    if isBroken then (.error nulFault, t) else t.makeDirectory cs

def put (place : List String) (bytes : List UInt8) :
    List (List String × List UInt8) → List (List String × List UInt8)
  | [] => [(place, bytes)]
  | (other, old) :: files =>
    if other = place then (place, bytes) :: files else (other, old) :: put place bytes files

def write (p : Path) (text : String) : Except String FileTree :=
  match if p.endsInDirectory then none else t.place? p with
  | none => .error (fault p)
  | some place =>
    if t.isDirectory place || !t.isDirectory place.dropLast then .error ""
    else .ok { t with files := put place (Text.Utf8.encode text.toList) t.files }

def placeOf (name : String) : List String := (Text.splitAt '/' name.toList).map String.ofList

def enclosing (place : List String) : List (List String) :=
  (List.range place.length).map fun n => place.take (n + 1)

def ofFiles (files : List (String × List UInt8)) (workingDirectory : List String := []) : FileTree :=
  let files := files.map fun f => (workingDirectory ++ placeOf f.1, f.2)
  let directories := (workingDirectory :: files.map (·.1.dropLast)).flatMap enclosing
  { files, directories := directories.eraseDups, workingDirectory }

def access : FileAccess (StateM FileTree) where
  read p := return (← get).read p
  exists? p := return (← get).has p
  makeParent p := modifyGet fun t => t.makeParent p
  write p text := modifyGet fun t => t.keep (t.write p text)

end FileTree

end TypedClient
