import Rulebook.Vocabulary
import Rulebook.Ruleset.Table

/-!
The entries of a ruleset: technologies, governments, buildings, terrains, units
and the other things that rules speak of.
-/

namespace Rulebook

inductive BuildingGenus where
  | greatWonder
  | smallWonder
  | improvement
  | special
  | convert
  deriving DecidableEq, Repr

instance : Vocabulary BuildingGenus where
  all := [.greatWonder, .smallWonder, .improvement, .special, .convert]
  word
    | .greatWonder => "GreatWonder"
    | .smallWonder => "SmallWonder"
    | .improvement => "Improvement"
    | .special => "Special"
    | .convert => "Convert"
  mem_all g := by cases g <;> decide

def BuildingGenus.isWonder : BuildingGenus → Bool
  | .greatWonder | .smallWonder => true
  | _ => false

inductive TerrainClass where
  | land
  | oceanic
  deriving DecidableEq, Repr

instance : Vocabulary TerrainClass where
  all := [.land, .oceanic]
  word
    | .land => "Land"
    | .oceanic => "Oceanic"
  mem_all c := by cases c <;> decide

inductive Alteration where
  | irrigate
  | mine
  | road
  | transform
  deriving DecidableEq, Repr

instance : Vocabulary Alteration where
  all := [.irrigate, .mine, .road, .transform]
  word
    | .irrigate => "CanIrrigate"
    | .mine => "CanMine"
    | .road => "CanRoad"
    | .transform => "CanTransform"
  mem_all a := by cases a <;> decide

structure Technology extends Title where
  flags : List (Flag .tech)

structure Government extends Title

structure Achievement extends Title where
  /-- Only the first player to reach it gets it. -/
  unique : Bool

structure Building extends Title where
  genus : BuildingGenus

structure Extra extends Title where
  flags : List (Flag .extra)
  baseFlags : List (Flag .base)
  roadFlags : List (Flag .road)

structure Good extends Title

structure NationGroup extends Title

structure Nation extends Title where
  groups : List (Ref NationGroup)

structure UnitClass extends Title where
  flags : List (Flag .unitClass)

structure UnitType extends Title where
  unitClass : Ref UnitClass
  flags : List (Flag .unitType)
  veteranLevels : UInt8
  hitPoints : Int
  moveRate : Int

structure Terrain extends Title where
  terrainClass : TerrainClass
  flags : List (Flag .terrain)
  alterations : List Alteration
  nativeTo : List (Ref UnitClass)

structure Action extends Title

structure Specialist extends Title

structure ServerSetting extends Title where
  default : Bool

instance : Titled Technology := ⟨(·.toTitle)⟩
instance : Titled Government := ⟨(·.toTitle)⟩
instance : Titled Achievement := ⟨(·.toTitle)⟩
instance : Titled Building := ⟨(·.toTitle)⟩
instance : Titled Extra := ⟨(·.toTitle)⟩
instance : Titled Good := ⟨(·.toTitle)⟩
instance : Titled NationGroup := ⟨(·.toTitle)⟩
instance : Titled Nation := ⟨(·.toTitle)⟩
instance : Titled UnitClass := ⟨(·.toTitle)⟩
instance : Titled UnitType := ⟨(·.toTitle)⟩
instance : Titled Terrain := ⟨(·.toTitle)⟩
instance : Titled Action := ⟨(·.toTitle)⟩
instance : Titled Specialist := ⟨(·.toTitle)⟩
instance : Titled ServerSetting := ⟨(·.toTitle)⟩

end Rulebook
