import Rulebook.Fact.Vocabulary
import Rulebook.Map.Topology
import Rulebook.Ruleset.Basic

/-!
The kinds of facts.

A fact of a kind carries one of four sorts of value: a reference to an entry of
the ruleset, a flag, a member of a closed vocabulary, or a number.  Two kinds
carry nothing: the fact that always holds and the one that could not be read.
The kinds have a fixed order, which numbers them in saved games.
-/

namespace Rulebook

inductive EntityKind where
  | tech
  | government
  | achievement
  | building
  | extra
  | good
  | terrain
  | nation
  | nationGroup
  | nationality
  | unitType
  | unitClass
  | action
  | specialist
  | serverSetting
  deriving DecidableEq, Repr

@[reducible] def EntityKind.Entry : EntityKind → Type
  | .tech => Technology
  | .government => Government
  | .achievement => Achievement
  | .building => Building
  | .extra => Extra
  | .good => Good
  | .terrain => Terrain
  | .nation => Nation
  | .nationGroup => NationGroup
  | .nationality => Nation
  | .unitType => UnitType
  | .unitClass => UnitClass
  | .action => Action
  | .specialist => Specialist
  | .serverSetting => ServerSetting

instance (kind : EntityKind) : Titled kind.Entry where
  title := match kind with
    | .tech => fun (e : Technology) => e.toTitle
    | .government => fun (e : Government) => e.toTitle
    | .achievement => fun (e : Achievement) => e.toTitle
    | .building => fun (e : Building) => e.toTitle
    | .extra => fun (e : Extra) => e.toTitle
    | .good => fun (e : Good) => e.toTitle
    | .terrain => fun (e : Terrain) => e.toTitle
    | .nation => fun (e : Nation) => e.toTitle
    | .nationGroup => fun (e : NationGroup) => e.toTitle
    | .nationality => fun (e : Nation) => e.toTitle
    | .unitType => fun (e : UnitType) => e.toTitle
    | .unitClass => fun (e : UnitClass) => e.toTitle
    | .action => fun (e : Action) => e.toTitle
    | .specialist => fun (e : Specialist) => e.toTitle
    | .serverSetting => fun (e : ServerSetting) => e.toTitle

def Ruleset.table (rs : Ruleset) : (kind : EntityKind) → Table kind.Entry
  | .tech => rs.techs
  | .government => rs.governments
  | .achievement => rs.achievements
  | .building => rs.buildings
  | .extra => rs.extras
  | .good => rs.goods
  | .terrain => rs.terrains
  | .nation => rs.nations
  | .nationGroup => rs.nationGroups
  | .nationality => rs.nations
  | .unitType => rs.unitTypes
  | .unitClass => rs.unitClasses
  | .action => rs.actions
  | .specialist => rs.specialists
  | .serverSetting => rs.serverSettings

inductive ChoiceKind where
  | genus
  | terrainClass
  | relation
  | unitState
  | activity
  | output
  | aiLevel
  | topology
  | alteration
  | cityTile
  | cityStatus
  | vision
  | intelligence
  deriving DecidableEq, Repr

@[reducible] def ChoiceKind.Value : ChoiceKind → Type
  | .genus => BuildingGenus
  | .terrainClass => TerrainClass
  | .relation => Relation
  | .unitState => UnitState
  | .activity => Activity
  | .output => OutputType
  | .aiLevel => AiLevel
  | .topology => TopologyFlag
  | .alteration => Alteration
  | .cityTile => CityTile
  | .cityStatus => CityStatus
  | .vision => VisionLayer
  | .intelligence => Intelligence

instance (kind : ChoiceKind) : DecidableEq kind.Value :=
  match kind with
  | .genus => inferInstanceAs (DecidableEq BuildingGenus)
  | .terrainClass => inferInstanceAs (DecidableEq TerrainClass)
  | .relation => inferInstanceAs (DecidableEq Relation)
  | .unitState => inferInstanceAs (DecidableEq UnitState)
  | .activity => inferInstanceAs (DecidableEq Activity)
  | .output => inferInstanceAs (DecidableEq OutputType)
  | .aiLevel => inferInstanceAs (DecidableEq AiLevel)
  | .topology => inferInstanceAs (DecidableEq TopologyFlag)
  | .alteration => inferInstanceAs (DecidableEq Alteration)
  | .cityTile => inferInstanceAs (DecidableEq CityTile)
  | .cityStatus => inferInstanceAs (DecidableEq CityStatus)
  | .vision => inferInstanceAs (DecidableEq VisionLayer)
  | .intelligence => inferInstanceAs (DecidableEq Intelligence)

instance (kind : ChoiceKind) : Vocabulary kind.Value :=
  match kind with
  | .genus => inferInstanceAs (Vocabulary BuildingGenus)
  | .terrainClass => inferInstanceAs (Vocabulary TerrainClass)
  | .relation => inferInstanceAs (Vocabulary Relation)
  | .unitState => inferInstanceAs (Vocabulary UnitState)
  | .activity => inferInstanceAs (Vocabulary Activity)
  | .output => inferInstanceAs (Vocabulary OutputType)
  | .aiLevel => inferInstanceAs (Vocabulary AiLevel)
  | .topology => inferInstanceAs (Vocabulary TopologyFlag)
  | .alteration => inferInstanceAs (Vocabulary Alteration)
  | .cityTile => inferInstanceAs (Vocabulary CityTile)
  | .cityStatus => inferInstanceAs (Vocabulary CityStatus)
  | .vision => inferInstanceAs (Vocabulary VisionLayer)
  | .intelligence => inferInstanceAs (Vocabulary Intelligence)

/-- The kinds that bound a number: all from below, except the units on a tile. -/
inductive Measure where
  | veteran
  | moveFragments
  | hitPoints
  | age
  | techs
  | size
  | culture
  | foreignPercent
  | unitsOnTile
  | year
  | calendarFragment
  deriving DecidableEq, Repr

/-- Veteran levels are bytes, all other bounds are integers of 32 bits. -/
@[reducible] def Measure.Bound : Measure → Type
  | .veteran => UInt8
  | .moveFragments | .hitPoints | .age | .techs | .size | .culture | .foreignPercent
  | .unitsOnTile | .year | .calendarFragment => Int32

instance (measure : Measure) : DecidableEq measure.Bound :=
  match measure with
  | .veteran => inferInstanceAs (DecidableEq UInt8)
  | .moveFragments | .hitPoints | .age | .techs | .size | .culture | .foreignPercent
  | .unitsOnTile | .year | .calendarFragment => inferInstanceAs (DecidableEq Int32)

def Measure.toInt : (measure : Measure) → measure.Bound → Int
  | .veteran, (n : UInt8) => n.toNat
  | .moveFragments, n | .hitPoints, n | .age, n | .techs, n | .size, n | .culture, n
  | .foreignPercent, n | .unitsOnTile, n | .year, n | .calendarFragment, n => Int32.toInt n

def Measure.ofInt? (measure : Measure) (n : Int) : Option measure.Bound :=
  match measure with
  | .veteran => if 0 ≤ n ∧ n < 256 then some (UInt8.ofNat n.toNat) else none
  | .moveFragments | .hitPoints | .age | .techs | .size | .culture | .foreignPercent
  | .unitsOnTile | .year | .calendarFragment =>
      if -2147483648 ≤ n ∧ n < 2147483648 then some (Int32.ofInt n) else none

inductive FactKind where
  | none
  | entity (kind : EntityKind)
  | flag (kind : FlagKind)
  | choice (kind : ChoiceKind)
  | measure (measure : Measure)
  | invalid
  deriving DecidableEq, Repr

instance : Vocabulary FactKind where
  all := [
    .none, .entity .tech, .flag .tech, .entity .government, .entity .achievement,
    .entity .building, .choice .genus, .entity .extra, .entity .good, .entity .terrain,
    .choice .terrainClass, .flag .terrain, .entity .nation, .entity .nationGroup,
    .entity .nationality, .choice .relation, .entity .unitType, .flag .unitType,
    .entity .unitClass, .flag .unitClass, .measure .veteran, .choice .unitState,
    .choice .activity, .measure .moveFragments, .measure .hitPoints, .measure .age,
    .measure .techs, .entity .action, .choice .output, .entity .specialist, .measure .size,
    .measure .culture, .measure .foreignPercent, .choice .aiLevel, .measure .unitsOnTile,
    .flag .base, .flag .road, .flag .extra, .measure .year, .measure .calendarFragment,
    .choice .topology, .entity .serverSetting, .choice .alteration, .choice .cityTile,
    .choice .cityStatus, .choice .vision, .choice .intelligence, .invalid]
  word
    | .none => "None"
    | .entity .tech => "Tech"
    | .flag .tech => "TechFlag"
    | .entity .government => "Gov"
    | .entity .achievement => "Achievement"
    | .entity .building => "Building"
    | .choice .genus => "BuildingGenus"
    | .entity .extra => "Extra"
    | .entity .good => "Good"
    | .entity .terrain => "Terrain"
    | .choice .terrainClass => "TerrainClass"
    | .flag .terrain => "TerrainFlag"
    | .entity .nation => "Nation"
    | .entity .nationGroup => "NationGroup"
    | .entity .nationality => "Nationality"
    | .choice .relation => "DiplRel"
    | .entity .unitType => "UnitType"
    | .flag .unitType => "UnitFlag"
    | .entity .unitClass => "UnitClass"
    | .flag .unitClass => "UnitClassFlag"
    | .measure .veteran => "MinVeteran"
    | .choice .unitState => "UnitState"
    | .choice .activity => "Activity"
    | .measure .moveFragments => "MinMoveFrags"
    | .measure .hitPoints => "MinHitPoints"
    | .measure .age => "Age"
    | .measure .techs => "MinTechs"
    | .entity .action => "Action"
    | .choice .output => "OutputType"
    | .entity .specialist => "Specialist"
    | .measure .size => "MinSize"
    | .measure .culture => "MinCulture"
    | .measure .foreignPercent => "MinForeignPct"
    | .choice .aiLevel => "AI"
    | .measure .unitsOnTile => "MaxUnitsOnTile"
    | .flag .base => "BaseFlag"
    | .flag .road => "RoadFlag"
    | .flag .extra => "ExtraFlag"
    | .measure .year => "MinYear"
    | .measure .calendarFragment => "MinCalFrag"
    | .choice .topology => "Topology"
    | .entity .serverSetting => "ServerSetting"
    | .choice .alteration => "TerrainAlter"
    | .choice .cityTile => "CityTile"
    | .choice .cityStatus => "CityStatus"
    | .choice .vision => "VisionLayer"
    | .choice .intelligence => "NationalIntelligence"
    | .invalid => "Invalid"
  identifier
    | .none => "None"
    | .entity .tech => "Advance"
    | .flag .tech => "TechFlag"
    | .entity .government => "Government"
    | .entity .achievement => "Achievement"
    | .entity .building => "Improvement"
    | .choice .genus => "ImprGenus"
    | .entity .extra => "Extra"
    | .entity .good => "Good"
    | .entity .terrain => "Terrain"
    | .choice .terrainClass => "TerrainClass"
    | .flag .terrain => "TerrainFlag"
    | .entity .nation => "Nation"
    | .entity .nationGroup => "NationGroup"
    | .entity .nationality => "Nationality"
    | .choice .relation => "DiplRel"
    | .entity .unitType => "UnitType"
    | .flag .unitType => "UnitTypeFlag"
    | .entity .unitClass => "UnitClass"
    | .flag .unitClass => "UnitClassFlag"
    | .measure .veteran => "MinVeteran"
    | .choice .unitState => "UnitState"
    | .choice .activity => "Activity"
    | .measure .moveFragments => "MinMoveFrags"
    | .measure .hitPoints => "MinHitPoints"
    | .measure .age => "Age"
    | .measure .techs => "MinTechs"
    | .entity .action => "Action"
    | .choice .output => "OutputType"
    | .entity .specialist => "Specialist"
    | .measure .size => "MinSize"
    | .measure .culture => "MinCulture"
    | .measure .foreignPercent => "MinForeignPct"
    | .choice .aiLevel => "AiLevel"
    | .measure .unitsOnTile => "MaxUnitsOnTile"
    | .flag .base => "BaseFlag"
    | .flag .road => "RoadFlag"
    | .flag .extra => "ExtraFlag"
    | .measure .year => "MinYear"
    | .measure .calendarFragment => "MinCalFrag"
    | .choice .topology => "TopologyFlag"
    | .entity .serverSetting => "ServerSetting"
    | .choice .alteration => "TerrainAlter"
    | .choice .cityTile => "CityTile"
    | .choice .cityStatus => "CityStatus"
    | .choice .vision => "VisionLayer"
    | .choice .intelligence => "NationalIntel"
    | .invalid => "Invalid"
  mem_all k := by
    cases k with
    | none => decide
    | entity k => cases k <;> decide
    | flag k => cases k <;> decide
    | choice k => cases k <;> decide
    | measure k => cases k <;> decide
    | invalid => decide

end Rulebook
