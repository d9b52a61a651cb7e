import TypedClient.CommandLine.Request
import TypedClient.Text.Basic

namespace TypedClient.CommandLine

inductive Topic
  | document | format | config | output | runtimePath | verbose | help | version
deriving DecidableEq, Repr

structure Opt where
  topic : Topic
  long : String
  letter : Option Char := none
  hasValue : Bool := false

abbrev Given := List (Topic × String)

def helpOption : Opt := ⟨.help, "help", some 'h', false⟩

def verboseOption : Opt := ⟨.verbose, "verbose", some 'v', false⟩

def outerOptions : List Opt := [verboseOption, helpOption, ⟨.version, "version", some 'V', false⟩]

def parseOptions : List Opt :=
  [⟨.document, "doc", some 'd', true⟩, ⟨.format, "format", some 'f', true⟩,
   ⟨.config, "config", some 'c', true⟩, verboseOption, helpOption]

def generateOptions : List Opt :=
  parseOptions ++ [⟨.output, "output", some 'o', true⟩, ⟨.runtimePath, "runtime-crate", none, true⟩]

def format? : String → Option DocumentFormat
  | "json" => some .json
  | "yaml" => some .yaml
  | _ => none

def accepts : Topic → String → Bool
  | .document, s | .config, s | .output, s => !s.isEmpty
  | .format, s => (format? s).isSome
  | _, _ => true

def note (given : Given) (topic : Topic) (value : String) : Except Refusal Given :=
  match topic with
  | .help => .error .help
  | .version => .error .version
  | topic =>
    if given.any (·.1 = topic) || !accepts topic value then .error .misuse
    else .ok (given ++ [(topic, value)])

inductive Word
  | bare (s : String)
  /-- The mark after which there are bare words only. -/
  | escape
  | long (name : List Char) (value? : Option String)
  | letters (cs : List Char)

/-- The kind of a word. A lone hyphen is a bare word. -/
def Word.ofString (s : String) : Word :=
  match s.toList with
  | ['-', '-'] => .escape
  | '-' :: '-' :: cs =>
    match cs.span (· != '=') with
    | (name, []) => .long name none
    | (name, _ :: value) => .long name (some (String.ofList value))
  | '-' :: c :: cs => .letters (c :: cs)
  | _ => .bare s

/-- Options after one another in one word. An option that has a value takes the rest of the word, or
else it waits for the next word. -/
def readLetters (options : List Opt) (given : Given) :
    List Char → Except Refusal (Given × Option Topic)
  | [] => .ok (given, none)
  | c :: cs =>
    match options.find? (·.letter = some c) with
    | none => .error .misuse
    | some o =>
      if o.hasValue then
        match cs with
        | [] => .ok (given, some o.topic)
        | '=' :: value | value => do return (← note given o.topic (String.ofList value), none)
      else do readLetters options (← note given o.topic "") cs

def readLong (options : List Opt) (given : Given) (name : List Char) (value? : Option String) :
    Except Refusal (Given × Option Topic) :=
  match options.find? (·.long.toList = name), value? with
  | none, _ => .error .misuse
  | some ⟨topic, _, _, true⟩, none => .ok (given, some topic)
  | some ⟨topic, _, _, true⟩, some value => do return (← note given topic value, none)
  | some ⟨topic, _, _, false⟩, none => do return (← note given topic "", none)
  | some ⟨_, _, _, false⟩, some _ => .error .misuse

def readOptions (options : List Opt) (given : Given) :
    (waiting : Option Topic) → List String → Except Refusal (Given × List String)
  | none, [] => .ok (given, [])
  | some _, [] => .error .misuse
  | waiting, word :: words =>
    match Word.ofString word, waiting with
    | .bare value, some topic => do readOptions options (← note given topic value) none words
    | .bare _, none => .ok (given, word :: words)
    | _, some _ => .error .misuse
    | .escape, none => if words.isEmpty then .ok (given, []) else .error .misuse
    | .long name value?, none => do
      let (given, waiting) ← readLong options given name value?
      readOptions options given waiting words
    | .letters cs, none => do
      let (given, waiting) ← readLetters options given cs
      readOptions options given waiting words

def readAll (options : List Opt) (words : List String) : Except Refusal Given := do
  match ← readOptions options [] none words with
  | (given, []) => return given
  | (_, _ :: _) => .error .misuse

namespace Given

variable (given : Given)

def path? (topic : Topic) : Option Path := (given.lookup topic).map Path.mk

def origin : Except Refusal Origin :=
  match path? given .document with
  | none => .error .misuse
  | some document => .ok
    { document, format := (given.lookup .format).bind format?, config := path? given .config }

end Given

def readRequest (words : List String) : Except Refusal Request := do
  let (outer, words) ← readOptions outerOptions [] none words
  let isVerbose (given : Given) : Bool := (outer ++ given).any (·.1 = .verbose)
  match words with
  | "parse" :: words =>
    let given ← readAll parseOptions words
    return { command := .parse (← Given.origin given), isVerbose := isVerbose given }
  | "generate" :: words =>
    let given ← readAll generateOptions words
    let output := (Given.path? given .output).getD defaultOutput
    return {
      command := .generate (← Given.origin given) output (given.lookup .runtimePath)
      isVerbose := isVerbose given }
  | ["help"] | ["help", "parse"] | ["help", "generate"] | ["help", "help"] => .error .help
  | _ => .error .misuse

end TypedClient.CommandLine
