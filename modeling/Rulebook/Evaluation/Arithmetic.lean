import Rulebook.Evaluation.Judgement

/-!
Judging as a calculation.

Most facts are looked up.  An age, a share of foreigners and the culture of a nation
are computed, and so are the tiles around a place.  Here the answer to a requirement
is the calculation that leads to it: what it asks first it computes first, and it
computes no more once the answer is settled.
-/

namespace Rulebook

namespace Truth

def knownM {α : Type} (value : Option α) (test : α → Calculation Bool) : Calculation Truth :=
  match value with
  | some a => do return .ofBool (← test a)
  | none => return .maybe

def known₂M {α β : Type} (a : Option α) (b : Option β) (test : α → β → Calculation Bool) :
    Calculation Truth :=
  match a, b with
  | some a, some b => do return .ofBool (← test a b)
  | _, _ => return .maybe

end Truth

open Truth

namespace Situation

/-! ## Searches -/

def neighbourhoodM (g : Geometry) (scope : Scope) (centre : TileIndex) :
    Calculation (List TileIndex) := do
  let around ← if scope == .cardinal then g.cardinalNeighboursM centre
    else g.adjacentNeighboursM centre
  return centre :: around

def anyCityTileM (w : World) (test : Tile → Bool) (c : City) : Calculation Bool := do
  return anyTile w (← w.cityTilesM c) test

def someTileM? (s : Situation) (scope : Scope) (test : Tile → Bool) : Option (Calculation Truth) :=
  match scope with
  | .here => some (pure (.known s.tileData? test))
  | .cardinal | .adjacent =>
      some (known₂M s.world s.tile fun w centre => do
        return anyTile w (← neighbourhoodM w.map.geometry scope centre) test)
  | .city => some (known₂M s.world s.city fun w c => anyCityTileM w test c)
  | .tradeRoute =>
      some (known₂M s.world s.city fun w c =>
        (c :: w.tradePartners c).anyM (anyCityTileM w test))
  | _ => none

def someCityM? (s : Situation) (scope : Scope) (test : City → Calculation Bool) :
    Option (Calculation Truth) :=
  match scope with
  | .city => some (knownM s.city test)
  | .tradeRoute =>
      match s.city with
      | none => some (return .maybe)
      | some c =>
          some do
            if ← test c then return .yes
            else knownM s.world fun w => (w.tradePartners c).anyM test
  | _ => none

def somePlayerM? (s : Situation) (scope : Scope) (test : Player → Calculation Bool) :
    Option (Calculation Truth) :=
  match scope with
  | .player => some (knownM s.player test)
  | .team | .alliance =>
      some (known₂M s.world s.player fun w p => (w.playersIn p.id scope).anyM test)
  | .world => some (knownM s.world fun w => w.alivePlayers.anyM test)
  | _ => none

end Situation

open Situation

/-! ## Facts that are computed -/

def cityTileTest? (s : Situation) : CityTile → Option (Tile → Bool)
  | .center => some (·.cityCenter.isSome)
  | .claimed => some (·.owner.isSome)
  | .extrasOwned => some (·.extrasOwner.isSome)
  | .worked => some (·.workedBy.isSome)
  | .sameContinent =>
      (s.world.bind fun w => s.city.bind w.continentOf?).map fun continent t =>
        t.continent == continent

/-- What a tile is tested for, if the fact is one about tiles. -/
def tileTest? (rs : Ruleset) (s : Situation) : Fact → Option (Tile → Bool)
  | .entity .terrain terrain => some fun t => t.terrain == terrain
  | .choice .terrainClass c => some fun t => rs.terrainClass? t.terrain == some c
  | .flag .terrain f => some fun t => rs.terrainHasFlag t.terrain f
  | .choice .alteration a => some fun t => rs.terrainAllows t.terrain a
  | .entity .extra extra => some fun t => t.hasExtra extra
  | .flag .extra f => some fun t => t.extras.any fun e => rs.extraHasFlag e f
  | .flag .base f => some fun t => t.extras.any fun e => rs.extraHasBaseFlag e f
  | .flag .road f => some fun t => t.extras.any fun e => rs.extraHasRoadFlag e f
  | .measure .unitsOnTile most => some fun t => (t.units.length : Int) ≤ most.toInt
  | .choice .cityTile c => cityTileTest? s c
  | _ => none

def ageTruthM? (s : Situation) (scope : Scope) (least : Int) : Option (Calculation Truth) :=
  let since := fun (born : Option Int) =>
    some (known₂M s.world born fun w born => do return (← ageM w born) ≥ least)
  match scope with
  | .here => since (s.unit.map (·.birthTurn))
  | .city => since (s.city.map (·.foundedTurn))
  | .player => since (s.player.map (·.birthTurn))
  | _ => none

def cultureTruthM? (s : Situation) (scope : Scope) (least : Int) : Option (Calculation Truth) :=
  match scope with
  | .city | .tradeRoute => someCityM? s scope fun c => return c.culture ≥ least
  | _ =>
      match s.world with
      | none => some (return .maybe)
      | some w => somePlayerM? s scope fun p => do return (← w.cultureOfM p) ≥ least

def judgeM? (rs : Ruleset) (r : Requirement) (s : Situation) : Option (Calculation Truth) :=
  match tileTest? rs s r.fact with
  | some test => someTileM? s r.scope test
  | none =>
      match r.fact with
      | .measure .culture least => cultureTruthM? s r.scope least.toInt
      | .measure .foreignPercent least =>
          someCityM? s r.scope fun c => do return (← c.foreignPercentM) ≥ least.toInt
      | .measure .age least => ageTruthM? s r.scope least.toInt
      | _ => (judge? rs r s).map pure

namespace Requirement

def evalM? (rs : Ruleset) (r : Requirement) (s : Situation) : Option (Calculation Truth) :=
  if r.scopeIsLegal then judgeM? rs r s else none

def evalM (rs : Ruleset) (r : Requirement) (s : Situation) : Calculation Truth :=
  (r.evalM? rs s).getD (return .maybe)

end Requirement

end Rulebook
