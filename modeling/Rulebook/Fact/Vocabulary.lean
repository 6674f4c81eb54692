import Rulebook.Vocabulary

/-!
The vocabularies of facts: relations between players, states of units, city
properties and the other closed lists that a requirement can name.
-/

namespace Rulebook

inductive Relation where
  | armistice
  | war
  | ceasefire
  | peace
  | alliance
  | noContact
  | team
  | givesVision
  | receivesVision
  | hostsEmbassy
  | hasEmbassy
  | hasCasusBelli
  | providedCasusBelli
  | foreign
  deriving DecidableEq, Repr

instance : Vocabulary Relation where
  all := [.armistice, .war, .ceasefire, .peace, .alliance, .noContact, .team, .givesVision,
    .receivesVision, .hostsEmbassy, .hasEmbassy, .hasCasusBelli, .providedCasusBelli, .foreign]
  word
    | .armistice => "Armistice"
    | .war => "War"
    | .ceasefire => "Cease-fire"
    | .peace => "Peace"
    | .alliance => "Alliance"
    | .noContact => "Never met"
    | .team => "Team"
    | .givesVision => "Gives shared vision"
    | .receivesVision => "Receives shared vision"
    | .hostsEmbassy => "Hosts embassy"
    | .hasEmbassy => "Has embassy"
    | .hasCasusBelli => "Has Casus Belli"
    | .providedCasusBelli => "Provided Casus Belli"
    | .foreign => "Foreign"
  identifier
    | .armistice => "Armistice"
    | .war => "War"
    | .ceasefire => "Ceasefire"
    | .peace => "Peace"
    | .alliance => "Alliance"
    | .noContact => "NoContact"
    | .team => "Team"
    | .givesVision => "GivesSharedVision"
    | .receivesVision => "ReceivesSharedVision"
    | .hostsEmbassy => "HostsEmbassy"
    | .hasEmbassy => "HasEmbassy"
    | .hasCasusBelli => "HasCasusBelli"
    | .providedCasusBelli => "ProvidedCasusBelli"
    | .foreign => "Foreign"
  mem_all r := by cases r <;> decide

/-- The states of which exactly one is in force between two players. -/
def Relation.isState : Relation → Bool
  | .armistice | .war | .ceasefire | .peace | .alliance | .noContact | .team => true
  | _ => false

inductive UnitState where
  | transported
  | transporting
  | onNativeTile
  | onLivableTile
  | hasHomeCity
  | onDomesticTile
  deriving DecidableEq, Repr

instance : Vocabulary UnitState where
  all := [.transported, .transporting, .onNativeTile, .onLivableTile, .hasHomeCity,
    .onDomesticTile]
  word
    | .transported => "Transported"
    | .transporting => "Transporting"
    | .onNativeTile => "OnNativeTile"
    | .onLivableTile => "OnLivableTile"
    | .hasHomeCity => "HasHomeCity"
    | .onDomesticTile => "OnDomesticTile"
  mem_all s := by cases s <;> decide

inductive Activity where
  | idle
  | fortifying
  | fortified
  | sentry
  | pillage
  | explore
  | irrigate
  | mine
  | transform
  | road
  | base
  | pollution
  | convert
  deriving DecidableEq, Repr

instance : Vocabulary Activity where
  all := [.idle, .fortifying, .fortified, .sentry, .pillage, .explore, .irrigate, .mine,
    .transform, .road, .base, .pollution, .convert]
  word
    | .idle => "Idle"
    | .fortifying => "Fortifying"
    | .fortified => "Fortified"
    | .sentry => "Sentry"
    | .pillage => "Pillage"
    | .explore => "Explore"
    | .irrigate => "Irrigate"
    | .mine => "Mine"
    | .transform => "Transform"
    | .road => "Road"
    | .base => "Base"
    | .pollution => "Pollution"
    | .convert => "Convert"
  identifier
    | .idle => "Idle"
    | .fortifying => "Fortifying"
    | .fortified => "Fortified"
    | .sentry => "Sentry"
    | .pillage => "Pillage"
    | .explore => "Explore"
    | .irrigate => "Irrigate"
    | .mine => "Mine"
    | .transform => "Transform"
    | .road => "BuildRoad"
    | .base => "BuildBase"
    | .pollution => "CleanPollution"
    | .convert => "Convert"
  mem_all a := by cases a <;> decide

inductive OutputType where
  | food
  | shield
  | trade
  | gold
  | luxury
  | science
  deriving DecidableEq, Repr

instance : Vocabulary OutputType where
  all := [.food, .shield, .trade, .gold, .luxury, .science]
  word
    | .food => "Food"
    | .shield => "Shield"
    | .trade => "Trade"
    | .gold => "Gold"
    | .luxury => "Luxury"
    | .science => "Science"
  mem_all o := by cases o <;> decide

inductive AiLevel where
  | away
  | handicapped
  | novice
  | easy
  | normal
  | hard
  | cheating
  deriving DecidableEq, Repr

instance : Vocabulary AiLevel where
  all := [.away, .handicapped, .novice, .easy, .normal, .hard, .cheating]
  word
    | .away => "Away"
    | .handicapped => "Handicapped"
    | .novice => "Novice"
    | .easy => "Easy"
    | .normal => "Normal"
    | .hard => "Hard"
    | .cheating => "Cheating"
  mem_all l := by cases l <;> decide

inductive CityTile where
  | center
  | claimed
  | extrasOwned
  | worked
  | sameContinent
  deriving DecidableEq, Repr

instance : Vocabulary CityTile where
  all := [.center, .claimed, .extrasOwned, .worked, .sameContinent]
  word
    | .center => "Center"
    | .claimed => "Claimed"
    | .extrasOwned => "Extras Owned"
    | .worked => "Worked"
    | .sameContinent => "Same Continent"
  identifier
    | .center => "Center"
    | .claimed => "Claimed"
    | .extrasOwned => "ExtrasOwned"
    | .worked => "Worked"
    | .sameContinent => "SameContinent"
  mem_all t := by cases t <;> decide

inductive CityStatus where
  | ownedByOriginal
  | starved
  | disorder
  | celebration
  deriving DecidableEq, Repr

instance : Vocabulary CityStatus where
  all := [.ownedByOriginal, .starved, .disorder, .celebration]
  word
    | .ownedByOriginal => "OwnedByOriginal"
    | .starved => "Starved"
    | .disorder => "Disorder"
    | .celebration => "Celebration"
  mem_all s := by cases s <;> decide

inductive VisionLayer where
  | main
  | stealth
  | subsurface
  deriving DecidableEq, Repr

instance : Vocabulary VisionLayer where
  all := [.main, .stealth, .subsurface]
  word
    | .main => "Main"
    | .stealth => "Stealth"
    | .subsurface => "Subsurface"
  mem_all v := by cases v <;> decide

inductive Intelligence where
  | gold
  | government
  | achievements
  | diplstates
  | embassies
  | history
  | culture
  | score
  | wonders
  | mood
  deriving DecidableEq, Repr

instance : Vocabulary Intelligence where
  all := [.gold, .government, .achievements, .diplstates, .embassies, .history, .culture, .score,
    .wonders, .mood]
  word
    | .gold => "Gold"
    | .government => "Government"
    | .achievements => "Achievements"
    | .diplstates => "Diplstates"
    | .embassies => "Embassies"
    | .history => "History"
    | .culture => "Culture"
    | .score => "Score"
    | .wonders => "Wonders"
    | .mood => "Mood"
  mem_all i := by cases i <;> decide

end Rulebook
