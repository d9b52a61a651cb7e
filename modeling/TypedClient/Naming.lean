import TypedClient.Config.Basic
import TypedClient.Text.Basic
import TypedClient.Text.Numeric

namespace TypedClient.Naming

open Text

def acronyms : List String :=
  ["API", "ASCII", "CPU", "CSS", "DNS", "EOF", "GUID", "HTML", "HTTP", "HTTPS", "ID", "IP", "JSON",
   "LHS", "QPS", "RAM", "RHS", "RPC", "SLA", "SMTP", "SQL", "SSH", "TCP", "TLS", "TTL", "UDP", "UI",
   "UID", "UUID", "URI", "URL", "UTF8", "VM", "XML", "XSRF", "XSS"]

def isAcronym (cs : List Char) : Bool := acronyms.contains (String.ofList cs)

/-- What stays of a run of underscores, at the head of `rest`, after the letter `c`: a single one
between two digits. -/
def skipUnderscores (c : Char) (rest : List Char) : List Char :=
  match rest.dropWhile (· == '_') with
  | [] => []
  | d :: after => if isNumeric c && isNumeric d then '_' :: d :: after else d :: after

theorem length_skipUnderscores_le (c : Char) (rest : List Char) :
    (skipUnderscores c ('_' :: rest)).length ≤ rest.length + 1 := by
  have h := (List.dropWhile_sublist (· == '_') (l := rest)).length_le
  unfold skipUnderscores
  rw [show ('_' :: rest).dropWhile (· == '_') = rest.dropWhile (· == '_') from rfl]
  split
  · simp
  · rename_i d after hd
    rw [hd] at h
    split <;> simp at * <;> omega

/-- The words of a name. A word ends before underscores, and where a lowercase letter meets another
kind of character. -/
def words : List Char → List (List Char)
  | [] => []
  | [c] => [[c]]
  | c :: d :: rest =>
    if d = '_' then [c] :: words (skipUnderscores c ('_' :: rest))
    else if isLowercase c && !isLowercase d then [c] :: words (d :: rest)
    else match words (d :: rest) with
      | [] => [[c]]
      | word :: more => (c :: word) :: more
termination_by cs => cs.length
decreasing_by
  · have h := length_skipUnderscores_le c rest
    simp
    omega
  · simp
  · simp

def overwrite (word letters : List Char) : List Char :=
  letters.take word.length ++ word.drop letters.length

/-- The first word: an acronym takes the case of its first letter. -/
def recaseFirst (word : List Char) : List Char :=
  if isAcronym (uppercase word) then
    overwrite word (if word.head?.any isLowercase then lowercase word else uppercase word)
  else word

/-- A further word: an acronym is capital throughout, another lowercase word in its first letter. -/
def recase (word : List Char) : List Char :=
  if isAcronym (uppercase word) then overwrite word (uppercase word)
  else if lowercase word = word then
    match word with
    | [] => []
    | c :: cs => ((toUpper c).head?.getD c) :: cs
  else word

/-- The normal form of a name. A name of lowercase letters only, or a single underscore, is normal
as it is. -/
def normalChars (name : List Char) : List Char :=
  if name = ['_'] || name.all isLowercase then name
  else match words name with
    | [] => []
    | word :: more => recaseFirst word ++ more.flatMap recase

def normal : String → String := onChars normalChars

/-- The name of a parameter: a final `Ids` becomes `IDs`, every other name its normal form. -/
def parameterName : String → String := onChars fun raw =>
  match dropStop? ['I', 'd', 's'] raw with
  | some stem => stem ++ ['I', 'D', 's']
  | none => normalChars raw

def capitalize : String → String := onChars fun
  | [] => []
  | c :: cs => toUpper c ++ cs

def leaveOut : String := "-"

def fieldName? (config : Config) (resource rawClass rawField : String) : Option String :=
  let name := (config.fieldName? resource rawClass rawField).getD rawField
  if name = leaveOut then none else some (normal (capitalize name))

/-- What a resource puts before the names of classes that other resources also declare. -/
def resourcePrefix : String → String → String
  | "team", "Team" | "team", "TeamMemberInfo" | "team", "TeamStatDetail" => "Rank"
  | "match", "Player" | "match", "Participant" | "match", "ParticipantIdentity" => "Match"
  | "match", "Rune" | "match", "Mastery" => "Used"
  | "current-game", "Rune" | "current-game", "Mastery" => "Current"
  | "current-game", "Observer" | "current-game", "BannedChampion" => "CurrentGame"
  | "featured-games", "Participant" | "featured-games", "Observer"
  | "featured-games", "BannedChampion" => "FeaturedGame"
  | "summoner", "Mastery" => "Summoner"
  | _, _ => ""

def disambiguate : String → String → String
  | "lol-static-data", "Champion" => "ChampionData"
  | "lol-static-data", "ChampionList" => "ChampionDataList"
  | resource, name => resourcePrefix resource name ++ name

/-- The name of a class: as configured, else without a final `Dto` and unique to its resource. -/
def className (config : Config) (resource raw : String) : String :=
  let raw := onChars trim raw
  match config.className? resource raw with
  | some name => normal name
  | none =>
    disambiguate resource (normal (String.ofList
      ((dropStop? ['D', 't', 'o'] raw.toList).getD raw.toList)))

end TypedClient.Naming
