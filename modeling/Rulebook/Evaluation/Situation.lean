import Rulebook.World.Query

/-!
Situations: what is known when a requirement is judged.  Every part may be
missing; what then cannot be settled is left open.
-/

namespace Rulebook

structure Situation where
  world : Option World := none
  player : Option Player := none
  otherPlayer : Option Player := none
  city : Option City := none
  building : Option (Ref Building) := none
  tile : Option TileIndex := none
  unit : Option GameUnit := none
  unitType : Option (Ref UnitType) := none
  output : Option OutputType := none
  specialist : Option (Ref Specialist) := none
  action : Option (Ref Action) := none
  vision : Option VisionLayer := none
  intelligence : Option Intelligence := none

namespace Situation

def typeOfUnit? (s : Situation) : Option (Ref UnitType) :=
  match s.unit with
  | some u => some u.unitType
  | none => s.unitType

def tileData? (s : Situation) : Option Tile :=
  match s.world, s.tile with
  | some w, some i => w.tile? i
  | _, _ => none

end Situation

end Rulebook
