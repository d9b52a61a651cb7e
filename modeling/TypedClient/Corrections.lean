import TypedClient.Config.Basic

namespace TypedClient.Corrections

/-- Where a resource is served, if not by the host of a region. -/
def baseUrl? : String → Option String
  | "lol-static-data" => some "https://global.api.pvp.net"
  | "lol-status" => some "http://status.leagueoflegends.com"
  | _ => none

def needsKey (resource : String) : Bool := resource != "lol-status"

def fieldType? (rawClass rawField : String) : Option ValueType :=
  if ["SummonerSpellDto", "ChampionSpellDto"].contains rawClass then
    match rawField with
    | "effect" => some (.list (.list (.scalar .float64)))
    | "range" => some (.pointer (.external "SpellRange"))
    | _ => none
  else none

/-- Whether a documented 64-bit id has 32 bits in truth. -/
def isNarrowId (resource rawClass rawField : String) : Bool :=
  ["mapId", "championId", "profileIconId", "runeId", "masteryId", "spell1Id", "spell2Id"].contains
    rawField
  || (rawClass == "MatchReference" && rawField == "champion")
  || (resource == "champion" && rawClass == "ChampionDto" && rawField == "id")

def mendIdWidth (config : Config) (resource rawClass rawField : String) (t : ValueType) :
    ValueType :=
  if !config.keepIdWidth && t = .scalar .int64 && isNarrowId resource rawClass rawField then
    .scalar .int32
  else t

/-- The type of a parameter; some lists are documented as text with commas. -/
def parameterType (name : String) (t : ValueType) : ValueType :=
  if t = .scalar .string then
    match name with
    | "summonerIDs" => .list (.scalar .int64)
    | "summonerNames" | "teamIDs" => .list (.scalar .string)
    | _ => t
  else t

end TypedClient.Corrections
