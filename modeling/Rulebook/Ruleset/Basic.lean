import Rulebook.Ruleset.Entry

/-!
A ruleset: one table for each kind of entry and one list of names for each kind
of flag.  A question about a reference outside its table is answered `false`.
-/

namespace Rulebook

structure Ruleset where
  name : String := "unnamed"
  techs : Table Technology := {}
  governments : Table Government := {}
  achievements : Table Achievement := {}
  buildings : Table Building := {}
  extras : Table Extra := {}
  goods : Table Good := {}
  terrains : Table Terrain := {}
  nations : Table Nation := {}
  nationGroups : Table NationGroup := {}
  unitClasses : Table UnitClass := {}
  unitTypes : Table UnitType := {}
  actions : Table Action := {}
  specialists : Table Specialist := {}
  serverSettings : Table ServerSetting := {}
  flags : (kind : FlagKind) → FlagList kind := fun _ => {}

namespace Ruleset

variable (rs : Ruleset)

def techHasFlag (tech : Ref Technology) (flag : Flag .tech) : Bool :=
  (rs.techs.get? tech).any fun t => t.flags.contains flag

def buildingGenus? (building : Ref Building) : Option BuildingGenus :=
  (rs.buildings.get? building).map (·.genus)

def isGreatWonder (building : Ref Building) : Bool :=
  rs.buildingGenus? building == some .greatWonder

def terrainClass? (terrain : Ref Terrain) : Option TerrainClass :=
  (rs.terrains.get? terrain).map (·.terrainClass)

def terrainHasFlag (terrain : Ref Terrain) (flag : Flag .terrain) : Bool :=
  (rs.terrains.get? terrain).any fun t => t.flags.contains flag

def terrainAllows (terrain : Ref Terrain) (alteration : Alteration) : Bool :=
  (rs.terrains.get? terrain).any fun t => t.alterations.contains alteration

def isNative (unitClass : Ref UnitClass) (terrain : Ref Terrain) : Bool :=
  (rs.terrains.get? terrain).any fun t => t.nativeTo.contains unitClass

def extraHasFlag (extra : Ref Extra) (flag : Flag .extra) : Bool :=
  (rs.extras.get? extra).any fun e => e.flags.contains flag

def extraHasBaseFlag (extra : Ref Extra) (flag : Flag .base) : Bool :=
  (rs.extras.get? extra).any fun e => e.baseFlags.contains flag

def extraHasRoadFlag (extra : Ref Extra) (flag : Flag .road) : Bool :=
  (rs.extras.get? extra).any fun e => e.roadFlags.contains flag

def nationInGroup (nation : Ref Nation) (group : Ref NationGroup) : Bool :=
  (rs.nations.get? nation).any fun n => n.groups.contains group

def classOfUnitType? (unitType : Ref UnitType) : Option (Ref UnitClass) :=
  (rs.unitTypes.get? unitType).map (·.unitClass)

def unitTypeHasFlag (unitType : Ref UnitType) (flag : Flag .unitType) : Bool :=
  (rs.unitTypes.get? unitType).any fun u => u.flags.contains flag

def unitClassHasFlag (unitClass : Ref UnitClass) (flag : Flag .unitClass) : Bool :=
  (rs.unitClasses.get? unitClass).any fun c => c.flags.contains flag

def classOfUnitTypeHasFlag (unitType : Ref UnitType) (flag : Flag .unitClass) : Bool :=
  (rs.classOfUnitType? unitType).any fun c => rs.unitClassHasFlag c flag

def terrainsInClass (terrainClass : TerrainClass) : Nat :=
  rs.terrains.entries.countP fun t => t.terrainClass == terrainClass

end Ruleset

end Rulebook
