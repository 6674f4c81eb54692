import Rulebook.Document.Node
import Rulebook.Ruleset.Basic

/-!
A ruleset as a document: the flag names of each kind, and the tables with every
reference and flag as the number that stands for it.
-/

namespace Rulebook

def FlagKind.heading : FlagKind → String
  | .tech => "tech"
  | .terrain => "terrain"
  | .unitType => "unit_type"
  | .unitClass => "unit_class"
  | .extra => "extra"
  | .base => "base"
  | .road => "road"

def FlagKind.all : List FlagKind :=
  [.tech, .terrain, .unitType, .unitClass, .extra, .base, .road]

namespace Ref

def node {α : Type} (r : Ref α) : Node := .ofNat r.toNat

end Ref

namespace Flag

def node {kind : FlagKind} (f : Flag kind) : Node := .ofNat f.toNat

end Flag

def Table.node {α : Type} [Titled α] (t : Table α) (more : α → List (String × Node)) : Node :=
  .ofList (fun (a, i) =>
    let title := Titled.title a
    .record ([("id", .ofNat i), ("name", .text title.name), ("label", .text title.label)] ++
      more a)) t.entries.zipIdx

namespace Ruleset

def wordNode {α : Type} [Vocabulary α] (a : α) : Node := .text (Vocabulary.word a)

def flagsNode (rs : Ruleset) : Node := .record (FlagKind.all.map fun kind =>
  (kind.heading, .ofList .text (rs.flags kind).names))

def node (rs : Ruleset) : Node := .record [
  ("name", .text rs.name),
  ("flags", rs.flagsNode),
  ("techs", rs.techs.node fun t => [("flags", .ofList Flag.node t.flags)]),
  ("governments", rs.governments.node fun _ => []),
  ("achievements", rs.achievements.node fun a => [("unique", .bool a.unique)]),
  ("buildings", rs.buildings.node fun b => [
    ("genus", wordNode b.genus), ("great", .bool (b.genus == .greatWonder))]),
  ("extras", rs.extras.node fun e => [
    ("flags", .ofList Flag.node e.flags), ("base_flags", .ofList Flag.node e.baseFlags),
    ("road_flags", .ofList Flag.node e.roadFlags)]),
  ("goods", rs.goods.node fun _ => []),
  ("terrains", rs.terrains.node fun t => [
    ("class", wordNode t.terrainClass), ("flags", .ofList Flag.node t.flags),
    ("alterations", .ofList wordNode t.alterations), ("native_to", .ofList Ref.node t.nativeTo)]),
  ("nations", rs.nations.node fun n => [("groups", .ofList Ref.node n.groups)]),
  ("nation_groups", rs.nationGroups.node fun _ => []),
  ("unit_classes", rs.unitClasses.node fun c => [("flags", .ofList Flag.node c.flags)]),
  ("unit_types", rs.unitTypes.node fun u => [
    ("class", u.unitClass.node), ("flags", .ofList Flag.node u.flags),
    ("veteran_levels", .ofNat u.veteranLevels.toNat), ("hp", .integer u.hitPoints),
    ("move_rate", .integer u.moveRate)]),
  ("actions", rs.actions.node fun _ => []),
  ("specialists", rs.specialists.node fun _ => []),
  ("server_settings", rs.serverSettings.node fun s => [("default", .bool s.default)])]

end Ruleset

end Rulebook
