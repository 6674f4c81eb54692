import Rulebook.Evaluation.Situation
import Rulebook.Evaluation.Truth

/-!
Looking for a tile, a city or a player in a scope.

Each search asks whether something in the scope passes a test.  The answer is
`none` for a scope in which there is nothing of the sort to look for.
-/

namespace Rulebook

namespace Situation

def anyTile (w : World) (tiles : List TileIndex) (test : Tile → Bool) : Bool :=
  tiles.any fun i => (w.tile? i).any test

def neighbourhood (g : Geometry) (scope : Scope) (centre : TileIndex) : List TileIndex :=
  centre :: if scope == .cardinal then g.cardinalNeighbours centre else g.adjacentNeighbours centre

def someTile (s : Situation) (scope : Scope) (test : Tile → Bool) : Option Truth :=
  match scope with
  | .here => some (.known s.tileData? test)
  | .cardinal | .adjacent =>
      some (.known₂ s.world s.tile fun w centre =>
        anyTile w (neighbourhood w.map.geometry scope centre) test)
  | .city => some (.known₂ s.world s.city fun w c => anyTile w (w.cityTiles c) test)
  | .tradeRoute =>
      some (.known₂ s.world s.city fun w c =>
        (c :: w.tradePartners c).any fun c => anyTile w (w.cityTiles c) test)
  | _ => none

/-- The city itself is asked first; its trade partners are only needed if it does not pass. -/
def someCity (s : Situation) (scope : Scope) (test : City → Bool) : Option Truth :=
  match scope with
  | .city => some (.known s.city test)
  | .tradeRoute =>
      match s.city with
      | none => some .maybe
      | some c =>
          if test c then some .yes
          else some (.known s.world fun w => (w.tradePartners c).any test)
  | _ => none

def somePlayer (s : Situation) (scope : Scope) (test : Player → Bool) : Option Truth :=
  match scope with
  | .player => some (.known s.player test)
  | .team | .alliance =>
      some (.known₂ s.world s.player fun w p => (w.playersIn p.id scope).any test)
  | .world => some (.known s.world fun w => w.alivePlayers.any test)
  | _ => none

end Situation

end Rulebook
