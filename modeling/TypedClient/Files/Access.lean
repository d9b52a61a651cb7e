import TypedClient.Files.Path

namespace TypedClient

/-- Operations on files. A failure carries the system's words about it, with a colon before them. -/
structure FileAccess (m : Type → Type) where
  read : Path → m (Except String String)
  exists? : Path → m Bool
  makeParent : Path → m (Except String Unit)
  write : Path → String → m (Except String Unit)

end TypedClient
