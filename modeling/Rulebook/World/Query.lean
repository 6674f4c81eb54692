import Rulebook.Requirement.Scope
import Rulebook.World.Basic

/-!
Questions about the state of a game.

An identifier stands for the first player, city or unit that carries it.  Between
two different players exactly one diplomatic state is in force: `team` for
members of one team, else the state that the first has recorded, else
`noContact`.
-/

namespace Rulebook

def GameInfo.settingEnabled (info : GameInfo) (rs : Ruleset) (setting : Ref ServerSetting) : Bool :=
  match info.settings.lookup setting with
  | some value => value
  | none => (rs.serverSettings.get? setting).any (·.default)

def Tile.hasExtra (t : Tile) (extra : Ref Extra) : Bool := t.extras.contains extra

namespace GameMap

def tile? (m : GameMap) (i : TileIndex) : Option Tile := m.tiles[i]?

def filled (geometry : Geometry) (terrain : Ref Terrain) : GameMap :=
  ⟨geometry, Array.replicate geometry.tileCount { terrain, continent := 1 }⟩

def setTile (m : GameMap) (i : TileIndex) (tile : Tile) : GameMap :=
  { m with tiles := m.tiles.setIfInBounds i tile }

end GameMap

namespace Player

def knowsTech (p : Player) (tech : Ref Technology) : Bool := p.knownTechs.contains tech

def hasAchievement (p : Player) (a : Ref Achievement) : Bool := p.achievements.contains a

def recordOf? (p : Player) (other : PlayerId) : Option Diplomacy :=
  p.diplomacy.find? fun d => d.other == other

end Player

namespace City

def hasBuilding (c : City) (building : Ref Building) : Bool := c.buildings.contains building

/-- The share of citizens who are not of the owner's nationality, in percent. -/
def foreignPercentM (c : City) : Calculation Int :=
  if c.size ≤ 0 then return 0
  else do
    let foreign := c.citizens.filter fun (nationality, _) => nationality != c.owner
    let count ← Calculation.sum (foreign.map (·.2))
    let hundredfold ← Calculation.word (count * 100)
    return hundredfold.tdiv c.size

def foreignPercent (c : City) : Int := c.foreignPercentM.modular

end City

namespace World

variable (w : World)

def player? (id : PlayerId) : Option Player := w.players.find? fun p => p.id == id

def city? (id : CityId) : Option City := w.cities.find? fun c => c.id == id

def unit? (id : UnitId) : Option GameUnit := w.units.find? fun u => u.id == id

def tile? (i : TileIndex) : Option Tile := w.map.tile? i

def alivePlayers : List Player := w.players.filter (·.isAlive)

def citiesOf (owner : PlayerId) : List City := w.cities.filter fun c => c.owner == owner

def continentOf? (c : City) : Option Int := (w.tile? c.tile).map (·.continent)

def tradePartners (c : City) : List City := c.tradePartners.filterMap w.city?

def cityTilesM (c : City) : Calculation (List TileIndex) :=
  w.map.geometry.tilesWithinM c.tile c.radiusSq

def cityTiles (c : City) : List TileIndex := (w.cityTilesM c).modular

/-! ## Relations between players -/

def sameTeam (a b : PlayerId) : Bool :=
  match w.player? a, w.player? b with
  | some p, some q => p.team == q.team
  | _, _ => false

/-- The diplomatic state from one player towards another; none towards itself. -/
def state? (a b : PlayerId) : Option Relation :=
  if a = b then none
  else if w.sameTeam a b then some .team
  else match (w.player? a).bind (·.recordOf? b) with
    | some d => some d.state
    | none => some .noContact

def areAllied (a b : PlayerId) : Bool :=
  a == b || w.state? a b == some .alliance || w.state? a b == some .team

def recorded (a b : PlayerId) (test : Diplomacy → Bool) : Bool :=
  ((w.player? a).bind (·.recordOf? b)).any test

def related (a b : PlayerId) (relation : Relation) : Bool :=
  if a = b then false
  else match relation with
    | .foreign => true
    | .givesVision => w.recorded a b (·.givesVision)
    | .receivesVision => w.recorded b a (·.givesVision)
    | .hasEmbassy => w.recorded a b (·.hasEmbassy)
    | .hostsEmbassy => w.recorded b a (·.hasEmbassy)
    | .hasCasusBelli => w.recorded a b (·.hasCasusBelli)
    | .providedCasusBelli => w.recorded b a (·.hasCasusBelli)
    | .armistice | .war | .ceasefire | .peace | .alliance | .noContact | .team =>
        w.state? a b == some relation

/-- The living players that a social scope around a player covers: itself, its team, its allies,
or everybody. -/
def playersIn (player : PlayerId) (scope : Scope) : List Player :=
  w.alivePlayers.filter fun other => match scope with
    | .team => w.sameTeam player other.id
    | .alliance => w.areAllied player other.id
    | .world => true
    | _ => other.id == player

/-! ## Counts -/

def countBuilding (building : Ref Building) : Nat :=
  w.cities.countP fun c => c.hasBuilding building

def countBuildingEver (building : Ref Building) : Nat :=
  w.history.buildingsBuilt.count building

def countBuildingOf (player : PlayerId) (building : Ref Building) : Nat :=
  (w.citiesOf player).countP fun c => c.hasBuilding building

def countBuildingOn (continent : Int) (building : Ref Building) : Nat :=
  w.cities.countP fun c => c.hasBuilding building && w.continentOf? c == some continent

def cultureOfM (p : Player) : Calculation Int := do
  let ofCities ← Calculation.sum ((w.citiesOf p.id).map (·.culture))
  Calculation.word (p.culture + ofCities)

def cultureOf (p : Player) : Int := (w.cultureOfM p).modular

def techsEverKnown : List (Ref Technology) :=
  (w.players.flatMap (·.knownTechs) ++ w.history.techsEverKnown).eraseDups

def techEverKnown (tech : Ref Technology) : Bool :=
  w.history.techsEverKnown.contains tech || w.players.any fun p => p.knowsTech tech

def nationEverInPlay (nation : Ref Nation) : Bool :=
  w.history.nationsEverInPlay.contains nation || w.players.any fun p => p.nation == nation

end World

end Rulebook
