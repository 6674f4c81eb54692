import Rulebook.Ruleset.Assembly

/-!
The base ruleset, which is used when no other one is given.
-/

namespace Rulebook

namespace Draft

def plain {α : Type} (name : String) (content : α) : String × Entry α := (name, { content })

def baseTerrain : TerrainSection where
  terrainFlags := ["NoBarbs", "NoCities", "Starter", "CanHaveRiver", "NoZoc"]
  extraFlags := ["NativeTile", "AutoOnCityCenter", "AlwaysOnCityCenter"]
  baseFlags := ["NoAggressive", "NoStackDeath", "DiplomatDefense", "ParadropFrom"]
  roadFlags := ["River", "RequiresBridge", "PreventsOtherRoads"]
  terrains := [
    plain "Deep Ocean" {
      terrainClass := .oceanic
      flags := ["NoCities", "NoZoc"]
      nativeTo := ["Sea"] },
    plain "Desert" {
      terrainClass := .land
      alterations := [.irrigate, .mine, .road, .transform]
      nativeTo := ["Land", "Big Land"] },
    plain "Forest" {
      terrainClass := .land
      alterations := [.road, .transform]
      nativeTo := ["Land"] },
    plain "Grassland" {
      terrainClass := .land
      flags := ["Starter", "CanHaveRiver"]
      alterations := [.irrigate, .road]
      nativeTo := ["Land", "Big Land"] },
    plain "Hills" {
      terrainClass := .land
      flags := ["CanHaveRiver"]
      alterations := [.irrigate, .mine, .road]
      nativeTo := ["Land", "Big Land"] },
    plain "Lake" {
      terrainClass := .oceanic
      flags := ["NoBarbs", "NoCities"]
      nativeTo := ["Sea", "Trireme"] },
    plain "Mountains" {
      terrainClass := .land
      flags := ["NoBarbs"]
      alterations := [.mine, .road]
      nativeTo := ["Land"] },
    plain "Ocean" {
      terrainClass := .oceanic
      flags := ["NoCities"]
      nativeTo := ["Sea", "Trireme"] },
    plain "Plains" {
      terrainClass := .land
      flags := ["Starter", "CanHaveRiver"]
      alterations := [.irrigate, .road, .transform]
      nativeTo := ["Land", "Big Land"] }]
  extras := [
    plain "Airbase" { flags := ["NativeTile"], baseFlags := ["ParadropFrom", "NoAggressive"] },
    plain "Bridge Road" { roadFlags := ["RequiresBridge"] },
    plain "Fortress" { flags := ["NativeTile"], baseFlags := ["NoStackDeath", "NoAggressive"] },
    plain "Irrigation" { flags := ["AutoOnCityCenter"] },
    plain "Mine" {},
    plain "Pollution" {},
    plain "Railroad" {},
    plain "River" { roadFlags := ["River"] },
    plain "Road" {},
    plain "Ruins" {}]

def baseUnits : UnitSection where
  unitTypeFlags := [
    "Settlers", "NonMil", "Diplomat", "Capturer", "Capturable", "Cant_Fortify", "Provoking"]
  unitClassFlags := [
    "CanOccupyCity", "Missile", "BuildAnywhere", "Unreachable", "CollectRansom", "ZOC",
    "CanFortify", "TerrainSpeed", "DamageSlows", "AttackNonNative"]
  unitClasses := [
    plain "Air" ["Unreachable"],
    plain "Big Land" ["ZOC", "TerrainSpeed", "DamageSlows"],
    plain "Land" ["CanOccupyCity", "ZOC", "CanFortify", "TerrainSpeed", "CollectRansom"],
    plain "Missile" ["Missile", "Unreachable"],
    plain "Sea" ["AttackNonNative", "DamageSlows"],
    plain "Trireme" ["DamageSlows"]]
  unitTypes := [
    plain "Catapult" { unitClass := "Big Land", hitPoints := 10, moveRate := 1 },
    plain "Cruise Missile" {
      unitClass := "Missile", veteranLevels := 1, hitPoints := 10, moveRate := 12 },
    plain "Diplomat" {
      unitClass := "Land", flags := ["Diplomat", "NonMil"], hitPoints := 10, moveRate := 2 },
    plain "Explorer" {
      unitClass := "Land", flags := ["NonMil", "Cant_Fortify"], hitPoints := 10, moveRate := 3 },
    plain "Fighter" {
      unitClass := "Air", veteranLevels := 4, hitPoints := 20, moveRate := 10 },
    plain "Legion" {
      unitClass := "Land", flags := ["Capturer"], hitPoints := 10, moveRate := 1 },
    plain "Phalanx" { unitClass := "Land", hitPoints := 10, moveRate := 1 },
    plain "Settlers" {
      unitClass := "Land", flags := ["Settlers", "NonMil", "Capturable"], hitPoints := 20,
      moveRate := 1 },
    plain "Trireme" { unitClass := "Trireme", hitPoints := 10, moveRate := 3 },
    plain "Warriors" { unitClass := "Land", hitPoints := 10, moveRate := 1 },
    plain "Workers" {
      unitClass := "Land", flags := ["NonMil", "Capturable"], hitPoints := 10, moveRate := 1 }]

def baseTechs : TechSection where
  techFlags := ["Bridge", "Claim_Ocean", "Build_Airborne"]
  techs := [
    plain "Alphabet" [],
    plain "Bronze Working" [],
    plain "Ceremonial Burial" [],
    plain "Construction" ["Bridge"],
    plain "Currency" [],
    plain "Flight" ["Build_Airborne"],
    plain "Literacy" [],
    plain "Map Making" ["Claim_Ocean"],
    plain "Monarchy" [],
    plain "The Republic" [],
    plain "Writing" []]

def baseCities : CitySection where
  buildings := [
    plain "City Walls" .improvement,
    plain "Coinage" .convert,
    ("Colosseum", { label := some "Amphitheater", content := .improvement }),
    plain "Colossus" .greatWonder,
    plain "Granary" .improvement,
    plain "Great Library" .greatWonder,
    plain "Harbor" .improvement,
    plain "Library" .improvement,
    plain "Palace" .smallWonder,
    plain "Pyramids" .greatWonder,
    plain "Space Structural" .special,
    plain "Temple" .improvement]
  goods := [plain "Goods" (), plain "Spices" ()]
  specialists := [
    ("elvis", { label := some "Entertainers", content := () }),
    ("scientist", { label := some "Scientists", content := () }),
    ("taxman", { label := some "Taxmen", content := () })]

def baseGame : GameSection where
  name := some "base"
  governments := [
    plain "Anarchy" (), plain "Communism" (), plain "Democracy" (), plain "Despotism" (),
    plain "Monarchy" (), plain "Republic" ()]
  achievements := [
    plain "Entire Map Known" false, plain "Land Ahoy" false, plain "Metropolis" true]
  nationGroups := [plain "Ancient" (), plain "Medieval" ()]
  nations := [
    plain "Babylonian" ["Ancient"], plain "English" ["Medieval"], plain "Greek" ["Ancient"],
    plain "Roman" ["Ancient"], plain "Zulu" []]
  actions := [
    plain "Bombard" (), plain "Capture Units" (), plain "Conquer City" (),
    plain "Disband Unit" (), plain "Establish Embassy" (), plain "Found City" (),
    plain "Investigate City" (), plain "Join City" ()]
  serverSettings := [
    plain "killstack" true, plain "restrictinfra" false, plain "unreachableprotects" true]

def base : Draft where
  terrain := baseTerrain
  units := baseUnits
  techs := baseTechs
  cities := baseCities
  game := baseGame

end Draft

def Ruleset.base : Ruleset :=
  match ofDraft Draft.base with
  | .ok rs => rs
  | .error _ => {}

end Rulebook
