import TypedClient.CommandLine.Arguments
import TypedClient.Files.Load
import TypedClient.Registry.Summary

namespace TypedClient.CommandLine

open Text (joinWith)

structure Trouble where
  step : String
  cause : Failure
deriving DecidableEq, Repr

def Trouble.report (t : Trouble) : List String :=
  ["Error: " ++ t.step, "", "Caused by:"]
    ++ (Text.splitAt '\n' t.cause.message.toList).map fun line => "    " ++ String.ofList line

/-- Steps that print lines and may fail. The lines before a failure stay printed. -/
abbrev Session (m : Type → Type) := ExceptT Trouble (StateT (List String) m)

variable {m : Type → Type} [Monad m]

namespace Session

def say (lines : List String) : Session m Unit := modify (· ++ lines)

def detail (isVerbose : Bool) (lines : List String) : Session m Unit :=
  if isVerbose then say lines else pure ()

def step {α : Type} (name : String) (act : m (Except Failure α)) : Session m α := do
  match ← (act : StateT (List String) m (Except Failure α)) with
  | .ok a => return a
  | .error cause => throw ⟨name, cause⟩

end Session

open Session

/-- The file of the configuration: the given one, or else the default one where it exists. -/
def configPath (files : FileAccess m) : Option Path → Session m (Option Path)
  | some path => return some path
  | none => do
    let isThere ← (files.exists? defaultConfig : StateT (List String) m Bool)
    return if isThere then some defaultConfig else none

def configOf (files : FileAccess m) (isVerbose : Bool) (path? : Option Path) :
    Session m Config := do
  match ← configPath files path? with
  | none => return {}
  | some path =>
    detail isVerbose [s!"  Config: {path.text}"]
    step s!"Failed to load config {path.text}" (Config.load files path)

def registryOf (files : FileAccess m) (config : Config) (origin : Origin) : Session m Registry :=
  step s!"Failed to extract the registry from {origin.document.text}"
    (Registry.load files config origin.document origin.format)

def moduleName (output : Path) : String := output.stem?.getD "api_gen"

def parse (files : FileAccess m) (isVerbose : Bool) (origin : Origin) : Session m Unit := do
  say [s!"→ Parsing reference document: {origin.document.text}"]
  let config ← configOf files isVerbose origin.config
  let r ← registryOf files config origin
  say ["", "✓ Parse successful!", "", "Registry:", s!"  Resources: {r.resources.length}",
    s!"  Operations: {r.orderedOperations.length}", s!"  Classes: {r.classes.length}", ""]
  say r.summary

def generate (files : FileAccess m) (isVerbose : Bool) (origin : Origin) (output : Path)
    (runtimePath : Option String) (format : Source.Formatter := Source.Model.formatted?) :
    Session m Unit := do
  say [s!"→ Generating client from: {origin.document.text}"]
  let config ← configOf files isVerbose origin.config
  let config := { config with runtimePath := runtimePath.getD config.runtimePath }
  detail isVerbose [s!"  Runtime: {config.runtimePath}", s!"  Output: {output.text}"]
  say ["→ Parsing reference document..."]
  let r ← registryOf files config origin
  say [s!"✓ Extracted {r.orderedOperations.length} operations and {r.classes.length} classes",
    "→ Generating client source..."]
  step "Failed to generate client" (Source.save files config r output format)
  say ["", "✓ Generation complete!", "", "Generated files:", s!"  📄 {output.text}", "",
    "Next steps:", s!"  1. Add \x60mod {moduleName output};\x60 to your crate",
    s!"  2. Depend on the runtime crate imported as \x60{config.runtimePath}\x60",
    "  3. Implement \x60Transport\x60 for your HTTP client"]

def Request.session (files : FileAccess m) (request : Request)
    (format : Source.Formatter := Source.Model.formatted?) : Session m Unit := do
  detail request.isVerbose ["→ Verbose mode enabled"]
  match request.command with
  | .parse origin => parse files request.isVerbose origin
  | .generate origin output runtimePath =>
    generate files request.isVerbose origin output runtimePath format

structure Result where
  code : Nat
  printed : List String := []
  complaints : List String := []
deriving DecidableEq, Repr

def usage : List String :=
  ["Generate a League of Legends API client from the API reference",
   "",
   "Usage:",
   "  lolgen [-v] parse --doc <DOC> [--format <json|yaml>] [--config <CONFIG>]",
   "  lolgen [-v] generate --doc <DOC> [--format <json|yaml>] [--config <CONFIG>]",
   "      [--output <OUTPUT>] [--runtime-crate <PATH>]",
   "  lolgen --help",
   "  lolgen --version"]

def Refusal.result : Refusal → Result
  | .help => { code := 0, printed := usage }
  | .version => { code := 0, printed := ["lolgen 0.3.0"] }
  | .misuse => { code := 2, complaints := usage }

def run (files : FileAccess m) (words : List String)
    (format : Source.Formatter := Source.Model.formatted?) : m Result := do
  match readRequest words with
  | .error refusal => return refusal.result
  | .ok request =>
    match ← (request.session files format).run.run [] with
    | (.ok (), printed) => return { code := 0, printed }
    | (.error trouble, printed) => return { code := 1, printed, complaints := trouble.report }

end TypedClient.CommandLine
