import Rulebook.Document.Read
import Rulebook.Ruleset.Entry
import Rulebook.Yaml.Parse

/-!
Rulesets as their authors write them.

A draft has five sections, each a text of its own.  Entries refer to one another
by name, and an entry without a label is shown under its name.  Tables are kept
in the order of the names; flags keep the order in which they are declared,
which numbers them.
-/

namespace Rulebook

namespace Draft

structure Entry (α : Type) where
  label : Option String := none
  content : α
  deriving DecidableEq, Repr

abbrev Entries (α : Type) := List (String × Entry α)

structure Extra where
  flags : List String := []
  baseFlags : List String := []
  roadFlags : List String := []
  deriving DecidableEq, Repr

structure Terrain where
  terrainClass : TerrainClass
  flags : List String := []
  alterations : List Alteration := []
  nativeTo : List String := []
  deriving DecidableEq, Repr

structure UnitType where
  unitClass : String
  flags : List String := []
  veteranLevels : UInt8 := 4
  hitPoints : Int
  moveRate : Int
  deriving DecidableEq, Repr

/-! ## Sections -/

structure TerrainSection where
  terrainFlags : List String := []
  extraFlags : List String := []
  baseFlags : List String := []
  roadFlags : List String := []
  terrains : Entries Terrain := []
  extras : Entries Extra := []
  deriving DecidableEq, Repr

structure UnitSection where
  unitTypeFlags : List String := []
  unitClassFlags : List String := []
  unitClasses : Entries (List String) := []
  unitTypes : Entries UnitType := []
  deriving DecidableEq, Repr

structure TechSection where
  techFlags : List String := []
  techs : Entries (List String) := []
  deriving DecidableEq, Repr

structure CitySection where
  buildings : Entries BuildingGenus := []
  goods : Entries Unit := []
  specialists : Entries Unit := []
  deriving DecidableEq, Repr

/-- Of an achievement it is said whether it is unique, of a nation its groups, of a server
setting whether it is on by default. -/
structure GameSection where
  name : Option String := none
  governments : Entries Unit := []
  achievements : Entries Bool := []
  nationGroups : Entries Unit := []
  nations : Entries (List String) := []
  actions : Entries Unit := []
  serverSettings : Entries Bool := []
  deriving DecidableEq, Repr

end Draft

structure Draft where
  terrain : Draft.TerrainSection := {}
  units : Draft.UnitSection := {}
  techs : Draft.TechSection := {}
  cities : Draft.CitySection := {}
  game : Draft.GameSection := {}
  deriving DecidableEq, Repr

namespace Draft

/-! ## Reading -/

def names : Reader (List String) := Reader.list Reader.text

def entries {α : Type} (fields : List String) (content : Fields → Option α) :
    Reader (Entries α) :=
  Reader.named fun n => do
    let f ← n.fields? ("label" :: fields)
    return { label := ← f.optional "label" Reader.text, content := ← content f }

def labels : Reader (Entries Unit) := entries [] fun _ => some ()

def lists (field : String) : Reader (Entries (List String)) :=
  entries [field] fun f => f.default field [] names

def switches (field : String) : Reader (Entries Bool) :=
  entries [field] fun f => f.default field false Reader.bool

def extraContent (f : Fields) : Option Extra := do
  return {
    flags := ← f.default "flags" [] names
    baseFlags := ← f.default "base_flags" [] names
    roadFlags := ← f.default "road_flags" [] names }

def terrainContent (f : Fields) : Option Terrain := do
  return {
    terrainClass := ← f.required "class" Reader.member
    flags := ← f.default "flags" [] names
    alterations := ← f.default "alterations" [] (Reader.list Reader.member)
    nativeTo := ← f.default "native_to" [] names }

def unitTypeContent (f : Fields) : Option UnitType := do
  return {
    unitClass := ← f.required "class" Reader.text
    flags := ← f.default "flags" [] names
    veteranLevels := UInt8.ofNat (← f.default "veteran_levels" 4 (Reader.natBelow 256))
    hitPoints := ← f.required "hp" Reader.int32
    moveRate := ← f.required "move_rate" Reader.int32 }

def terrainSection (n : Node) : Option TerrainSection := do
  let f ← n.fields? ["terrain_flags", "extra_flags", "base_flags", "road_flags", "terrains",
    "extras"]
  return {
    terrainFlags := ← f.default "terrain_flags" [] names
    extraFlags := ← f.default "extra_flags" [] names
    baseFlags := ← f.default "base_flags" [] names
    roadFlags := ← f.default "road_flags" [] names
    terrains := ← f.default "terrains" []
      (entries ["class", "flags", "alterations", "native_to"] terrainContent)
    extras := ← f.default "extras" []
      (entries ["flags", "base_flags", "road_flags"] extraContent) }

def unitSection (n : Node) : Option UnitSection := do
  let f ← n.fields? ["unit_type_flags", "unit_class_flags", "unit_classes", "unit_types"]
  return {
    unitTypeFlags := ← f.default "unit_type_flags" [] names
    unitClassFlags := ← f.default "unit_class_flags" [] names
    unitClasses := ← f.default "unit_classes" [] (lists "flags")
    unitTypes := ← f.default "unit_types" []
      (entries ["class", "flags", "veteran_levels", "hp", "move_rate"] unitTypeContent) }

def techSection (n : Node) : Option TechSection := do
  let f ← n.fields? ["tech_flags", "techs"]
  return {
    techFlags := ← f.default "tech_flags" [] names
    techs := ← f.default "techs" [] (lists "flags") }

def citySection (n : Node) : Option CitySection := do
  let f ← n.fields? ["buildings", "goods", "specialists"]
  return {
    buildings := ← f.default "buildings" []
      (entries ["genus"] fun f => f.required "genus" Reader.member)
    goods := ← f.default "goods" [] labels
    specialists := ← f.default "specialists" [] labels }

def gameSection (n : Node) : Option GameSection := do
  let f ← n.fields? ["name", "governments", "achievements", "nation_groups", "nations", "actions",
    "server_settings"]
  return {
    name := ← f.optional "name" Reader.text
    governments := ← f.default "governments" [] labels
    achievements := ← f.default "achievements" [] (switches "unique")
    nationGroups := ← f.default "nation_groups" [] labels
    nations := ← f.default "nations" [] (lists "groups")
    actions := ← f.default "actions" [] labels
    serverSettings := ← f.default "server_settings" [] (switches "default") }

/-- A section from its text; blank or null texts stand for the empty section. -/
def section? {α : Type} (empty : α) (read : Reader α) (text : String) : Option α :=
  if (Text.trim text).isEmpty then some empty
  else do
    let content ← Reader.optional read (← Yaml.parse? text)
    return content.getD empty

structure Sources where
  terrain : String := ""
  units : String := ""
  techs : String := ""
  cities : String := ""
  game : String := ""

def ofSources? (s : Sources) : Option Draft := do
  return {
    terrain := ← section? {} terrainSection s.terrain
    units := ← section? {} unitSection s.units
    techs := ← section? {} techSection s.techs
    cities := ← section? {} citySection s.cities
    game := ← section? {} gameSection s.game }

end Draft

end Rulebook
