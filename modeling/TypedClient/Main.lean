import TypedClient.CommandLine.Run
import TypedClient.Text.Utf8

namespace TypedClient

def reasonOf (e : IO.Error) : String :=
  ": " ++ match e with
    | .noFileOrDirectory .. => "No such file or directory (os error 2)"
    | .permissionDenied .. => "Permission denied (os error 13)"
    | .alreadyExists .. => "File exists (os error 17)"
    | .inappropriateType _ 20 _ => "Not a directory (os error 20)"
    | .inappropriateType .. => "Is a directory (os error 21)"
    | e => toString e

def attempt {α : Type} (act : IO α) : IO (Except String α) := do
  try return .ok (← act) catch e => return .error (reasonOf e)

def directoryText (cs : List Component) : String :=
  let names := cs.map fun
    | .root => ""
    | .here => "."
    | .up => ".."
    | .name s => s
  if names = [""] then "/" else Text.joinWith "/" names

def systemFiles : FileAccess IO where
  read path := do
    match ← attempt (IO.FS.readBinFile path.text) with
    | .error reason => return .error reason
    | .ok bytes =>
      match Text.Utf8.decode? bytes.toList with
      | some cs => return .ok (String.ofList cs)
      | none => return .error ": stream did not contain valid UTF-8"
  exists? path := do
    match ← attempt (IO.FS.Handle.mk path.text .read) with
    | .ok _ => return true
    | .error _ => return false
  makeParent path := attempt do
    match path.parent? with
    | none => pure ()
    | some cs => IO.FS.createDirAll (directoryText cs)
  write path text := attempt (IO.FS.writeFile path.text text)

end TypedClient

def main (words : List String) : IO UInt32 := do
  let result ← TypedClient.CommandLine.run TypedClient.systemFiles words
  for line in result.printed do IO.println line
  for line in result.complaints do IO.eprintln line
  return result.code.toUInt32
