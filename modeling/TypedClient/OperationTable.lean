import TypedClient.Config.Basic
import TypedClient.Failure

namespace TypedClient.OperationTable

private def named (name : String) : OperationRule := { name }

private def byId (name : String) : OperationRule := { name, mapKey := some .int64 }

def builtIn : String → List (String × OperationRule)
  | "lol-static-data" =>
    [("/champion", named "ChampionDatas"), ("/champion/\x7bid\x7d", named "ChampionData"),
     ("/item", named "Items"), ("/item/\x7bid\x7d", named "Item"),
     ("/language-strings", named "LanguageStrings"), ("/languages", named "Languages"),
     ("/map", named "Maps"), ("/mastery", named "Masteries"),
     ("/mastery/\x7bid\x7d", named "Mastery"), ("/realm", named "Realm"), ("/rune", named "Runes"),
     ("/rune/\x7bid\x7d", named "Rune"), ("/summoner-spell", named "SummonerSpells"),
     ("/summoner-spell/\x7bid\x7d", named "SummonerSpell"), ("versions", named "Versions")]
  | "champion" =>
    [("/champion", named "Champions"), ("/champion/\x7bid\x7d", named "Champion")]
  | "current-game" =>
    [("/getSpectatorGameInfo/\x7bplatformId\x7d/\x7bsummonerId\x7d", named "SpectatorGameInfo")]
  | "featured-games" => [("/featured", named "FeaturedGames")]
  | "game" => [("/game/by-summoner/\x7bsummonerId\x7d/recent", named "RecentGames")]
  | "league" =>
    [("/league/by-summoner/\x7bsummonerIds\x7d", named "LeaguesBySummonerID"),
     ("/league/by-summoner/\x7bsummonerIds\x7d/entry", named "LeagueEntriesBySummonerID"),
     ("/league/by-team/\x7bteamIds\x7d", named "LeaguesByTeamID"),
     ("/league/by-team/\x7bteamIds\x7d/entry", named "LeagueEntriesByTeamID"),
     ("/league/challenger", named "Challenger"), ("/league/master", named "Master")]
  | "lol-status" =>
    [("/shards", named "Shards"), ("/shards/\x7bregion\x7d", named "ShardsInRegion")]
  | "match" =>
    [("/match/\x7bmatchId\x7d", named "Match"),
     ("/match/by-tournament/\x7btournamentCode\x7d/ids", named "MatchesByTournement"),
     ("/match/for-tournament/\x7bmatchId\x7d", named "MatchForTournement")]
  | "matchlist" =>
    [("/matchlist/by-summoner/\x7bsummonerId\x7d", named "MatchesBySummonerID")]
  | "stats" =>
    [("/stats/by-summoner/\x7bsummonerId\x7d/ranked", named "RankedStats"),
     ("/stats/by-summoner/\x7bsummonerId\x7d/summary", named "StatsSummary")]
  | "summoner" =>
    [("/summoner/by-name/\x7bsummonerNames\x7d", named "SummonersByName"),
     ("/summoner/\x7bsummonerIds\x7d", byId "Summoners"),
     ("/summoner/\x7bsummonerIds\x7d/masteries", byId "SummonerMasteries"),
     ("/summoner/\x7bsummonerIds\x7d/name", byId "SummonerNames"),
     ("/summoner/\x7bsummonerIds\x7d/runes", byId "SummonerRunes")]
  | "team" =>
    [("/team/by-summoner/\x7bsummonerIds\x7d", byId "TeamsBySummonerID"),
     ("/team/\x7bteamIds\x7d", named "Teams")]
  | _ => []

/-- The endings known for a resource, a configured rule in place of a built-in one. -/
def known (config : Config) (resource : String) : Table OperationRule :=
  (Table.ofList (builtIn resource)).merge (config.operationsOf resource)

def ends (path suffix : String) : Bool := suffix.toList.isSuffixOf path.toList

def fitting (config : Config) (resource path : String) : Table OperationRule :=
  (known config resource).filter fun p => ends path p.1

def lookup (config : Config) (resource path : String) : Except Failure OperationRule :=
  match fitting config resource path with
  | [] => .error (.unknownOperation resource path)
  | [(_, rule)] => .ok rule
  | rules => .error (.ambiguousOperation resource path (rules.map (·.1)))

end TypedClient.OperationTable
