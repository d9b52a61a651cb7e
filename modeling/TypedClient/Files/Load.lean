import TypedClient.Extraction.Extract
import TypedClient.Files.Access
import TypedClient.Files.Path
import TypedClient.Reading
import TypedClient.Source.Generate

namespace TypedClient

variable {m : Type → Type} [Monad m]

def Config.load (files : FileAccess m) (path : Path) : m (Except Failure Config) := do
  match ← files.read path with
  | .error detail => return .error (.input (.unreadableConfig path.text detail))
  | .ok text =>
    return (Config.ofText text).mapError fun f => .input (.malformedConfig path.text f.message)

def Document.load (files : FileAccess m) (path : Path) (format : Option DocumentFormat) :
    m (Except Failure Document) := do
  match ← files.read path with
  | .error detail => return .error (.input (.unreadableDocument path.text detail))
  | .ok text =>
    let format := format.getD (.ofExtension path.extension?)
    return (Document.ofText format text).mapError fun f =>
      .input (.malformedDocument path.text f.message)

def Registry.load (files : FileAccess m) (config : Config) (path : Path)
    (format : Option DocumentFormat) : m (Except Failure Registry) := do
  return (← Document.load files path format).bind (extract config)

namespace Source

/-- Writes the client into a file, and the directories around it. Where there is no client, nothing
is written. -/
def save (files : FileAccess m) (config : Config) (r : Registry) (path : Path)
    (format : Formatter := Model.formatted?) : m (Except Failure Unit) := do
  match generate config r format with
  | .error f => return .error f
  | .ok source =>
    match ← files.makeParent path with
    | .error detail => return .error (.generation (.noOutputDirectory detail))
    | .ok () =>
      return (← files.write path source).mapError fun detail =>
        .generation (.notWritten path.text detail)

end Source

end TypedClient
