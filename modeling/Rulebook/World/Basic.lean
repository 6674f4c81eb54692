import Rulebook.Fact.Vocabulary
import Rulebook.Map.Geometry
import Rulebook.Ruleset.Basic

/-!
The state of a game as far as requirements look at it: the map, the players with
their relations, the cities, the units, and facts about the past.

Cities and units have identifiers of 64 bits, made of a slot and the number of
times that slot has been reused.
-/

namespace Rulebook

structure PlayerId where
  number : UInt8
  deriving DecidableEq, Repr

structure TeamId where
  number : UInt8
  deriving DecidableEq, Repr

structure EntityId where
  index : UInt32
  generation : UInt32
  deriving DecidableEq, Repr

namespace EntityId

def toNat (e : EntityId) : Nat := e.index.toNat * 4294967296 + e.generation.toNat

def ofNat (n : Nat) : EntityId :=
  ⟨UInt32.ofNat (n / 4294967296), UInt32.ofNat (n % 4294967296)⟩

theorem ofNat_toNat (e : EntityId) : ofNat e.toNat = e := by
  have h := e.generation.toNat_lt
  have hdiv : e.toNat / 4294967296 = e.index.toNat := by
    simp only [toNat]; omega
  have hmod : e.toNat % 4294967296 = e.generation.toNat := by
    simp only [toNat]; omega
  simp [ofNat, hdiv, hmod]

end EntityId

abbrev CityId := EntityId

abbrev UnitId := EntityId

structure GameInfo where
  turn : Int
  year : Int
  calendarFragment : Int := 0
  /-- Settings that differ from the default of the ruleset. -/
  settings : List (Ref ServerSetting × Bool) := []

structure Tile where
  terrain : Ref Terrain
  extras : List (Ref Extra) := []
  owner : Option PlayerId := none
  extrasOwner : Option PlayerId := none
  workedBy : Option CityId := none
  cityCenter : Option CityId := none
  continent : Int := 0
  units : List UnitId := []

structure GameMap where
  geometry : Geometry
  tiles : Array Tile

structure Diplomacy where
  other : PlayerId
  state : Relation
  givesVision : Bool := false
  hasEmbassy : Bool := false
  hasCasusBelli : Bool := false

structure Player where
  id : PlayerId
  nation : Ref Nation
  team : TeamId
  government : Ref Government
  /-- `none` for human players. -/
  aiLevel : Option AiLevel := none
  isAlive : Bool := true
  knownTechs : List (Ref Technology) := []
  achievements : List (Ref Achievement) := []
  /-- The culture of the nation, without that of its cities. -/
  culture : Int := 0
  birthTurn : Int := 0
  diplomacy : List Diplomacy := []
  everBuilt : List (Ref Building) := []

structure CityMood where
  starved : Bool := false
  disorder : Bool := false
  celebration : Bool := false

structure City where
  id : CityId
  name : String := ""
  owner : PlayerId
  originalOwner : PlayerId
  tile : TileIndex
  size : Int
  radiusSq : Int := 5
  buildings : List (Ref Building) := []
  tradePartners : List CityId := []
  goods : List (Ref Good) := []
  citizens : List (PlayerId × Int) := []
  culture : Int := 0
  foundedTurn : Int := 0
  mood : CityMood := {}
  specialists : List (Ref Specialist × Int) := []

structure GameUnit where
  id : UnitId
  owner : PlayerId
  unitType : Ref UnitType
  veteran : UInt8 := 0
  movesLeft : Int
  hitPoints : Int
  activity : Activity := .idle
  tile : TileIndex
  homeCity : Option CityId := none
  transportedBy : Option UnitId := none
  transporting : List UnitId := []
  birthTurn : Int := 0

structure History where
  buildingsBuilt : List (Ref Building) := []
  techsEverKnown : List (Ref Technology) := []
  nationsEverInPlay : List (Ref Nation) := []

structure World where
  info : GameInfo
  map : GameMap
  players : List Player := []
  cities : List City := []
  units : List GameUnit := []
  history : History := {}

end Rulebook
