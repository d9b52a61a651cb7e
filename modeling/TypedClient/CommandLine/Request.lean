import TypedClient.Document.Format
import TypedClient.Files.Path

namespace TypedClient.CommandLine

structure Origin where
  document : Path
  format : Option DocumentFormat := none
  config : Option Path := none
deriving DecidableEq, Repr

inductive Command
  | parse (origin : Origin)
  /-- Writes the client. The runtime path takes the place of the configured one. -/
  | generate (origin : Origin) (output : Path) (runtimePath : Option String)
deriving DecidableEq, Repr

structure Request where
  command : Command
  isVerbose : Bool := false
deriving DecidableEq, Repr

inductive Refusal
  | help
  | version
  | misuse
deriving DecidableEq, Repr

def defaultOutput : Path := ⟨"api_gen.rs"⟩

def defaultConfig : Path := ⟨"lolgen.yaml"⟩

end TypedClient.CommandLine
