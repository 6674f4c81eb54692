import Rulebook.Map.Grid

/-!
The map as it is stored and computed with.

Extents and the numbers of tiles are unsigned words, coordinates are signed ones,
since a step may lead off the map.  Where an unsigned word is read as a signed one,
it is taken modulo 2 ^ 32, so an extent of 2 ^ 31 or more comes out negative.  Each
calculation goes with what it yields modulo 2 ^ 32.
-/

namespace Rulebook

structure Geometry where
  width : Nat
  height : Nat
  topology : Topology := {}
  deriving DecidableEq, Repr

namespace Geometry

open Calculation Grid

variable (g : Geometry)

def grid : Grid := ⟨g.width, g.height, g.topology⟩

def tileCount : Nat := g.width * g.height

def coords (tile : TileIndex) : Int × Int :=
  let width := max g.width 1
  (toWord (tile % width : Nat), toWord (tile / width : Nat))

def around (wraps : Bool) (extent n : Int) : Int :=
  if wraps then n % extent else n

def tileAtM? (x y : Int) : Calculation (Option TileIndex) :=
  let width := toWord g.width
  let height := toWord g.height
  if width = 0 ∨ height = 0 then return none
  else
    let x := around g.topology.wrapX width x
    let y := around g.topology.wrapY height y
    if x < 0 ∨ y < 0 ∨ x ≥ width ∨ y ≥ height then return none
    else do
      let row ← word (y * width)
      let number ← word (row + x)
      return some (number % 4294967296).toNat

def tileAt? (x y : Int) : Option TileIndex := (g.tileAtM? x y).modular

def stepM? (tile : TileIndex) (step : Int × Int) : Calculation (Option TileIndex) := do
  let (x, y) := g.coords tile
  let x ← word (x + step.1)
  let y ← word (y + step.2)
  g.tileAtM? x y

/-! ## Neighbours -/

def hexNeighboursM (tile : TileIndex) : Calculation (List TileIndex) := do
  let (x, y) := g.coords tile
  let centre ← Hex.ofOffsetM x y
  Hex.directions.filterMapM fun d => do
    let (x, y) ← (← centre.addM d).toOffsetM
    g.tileAtM? x y

def squareNeighboursM (steps : List (Int × Int)) (tile : TileIndex) :
    Calculation (List TileIndex) := do
  let reached ← steps.filterMapM (g.stepM? tile)
  return ordered (reached.filter (· != tile))

def cardinalNeighboursM (tile : TileIndex) : Calculation (List TileIndex) :=
  if g.topology.hex then g.hexNeighboursM tile else g.squareNeighboursM cardinalSteps tile

def adjacentNeighboursM (tile : TileIndex) : Calculation (List TileIndex) :=
  if g.topology.hex then g.hexNeighboursM tile else g.squareNeighboursM adjacentSteps tile

def cardinalNeighbours (tile : TileIndex) : List TileIndex := (g.cardinalNeighboursM tile).modular

def adjacentNeighbours (tile : TileIndex) : List TileIndex := (g.adjacentNeighboursM tile).modular

/-! ## Distances -/

def axisDistanceM (wraps : Bool) (extent : Nat) (a b : Int) : Calculation Int := do
  let d ← gap a b
  if wraps then
    let other ← word (toWord extent - d)
    return min d other
  else return d

/-- The steps to a place that is moved along its row by so many map widths. -/
def stepsRoundM (start : Hex) (goal : Int × Int) (turns : Int) : Calculation Int := do
  let moved ← word (turns * toWord g.width)
  let x ← word (goal.1 + moved)
  let goal ← Hex.ofOffsetM x goal.2
  start.distanceM goal

def hexStepsM (a b : Int × Int) : Calculation Int := do
  let start ← Hex.ofOffsetM a.1 a.2
  let turns := if g.topology.wrapX then [-1, 0, 1] else [0]
  turns.foldlM (fun least turns => return min least (← g.stepsRoundM start b turns)) 2147483647

def sqDistanceM (a b : TileIndex) : Calculation Int := do
  let p := g.coords a
  let q := g.coords b
  if g.topology.hex then
    let n ← g.hexStepsM p q
    word (n * n)
  else
    let dx ← axisDistanceM g.topology.wrapX g.width p.1 q.1
    let dy ← axisDistanceM g.topology.wrapY g.height p.2 q.2
    let dx ← word (dx * dx)
    let dy ← word (dy * dy)
    word (dx + dy)

def sqDistance (a b : TileIndex) : Int := (g.sqDistanceM a b).modular

def stepsWithin (radiusSq : Int) : List (Int × Int) :=
  let reach := span (radiusSq.toNat.sqrt + 1)
  reach.flatMap fun dy => reach.map fun dx => (dx, dy)

def nearM? (centre : TileIndex) (radiusSq : Int) (step : Int × Int) :
    Calculation (Option TileIndex) := do
  match ← g.stepM? centre step with
  | none => return none
  | some tile =>
      let d ← g.sqDistanceM centre tile
      return if d ≤ radiusSq then some tile else none

def tilesWithinM (centre : TileIndex) (radiusSq : Int) : Calculation (List TileIndex) :=
  if radiusSq < 0 then return []
  else do
    let found ← (stepsWithin radiusSq).filterMapM (g.nearM? centre radiusSq)
    return ordered found

/-- The tiles whose squared distance from a tile is at most `radiusSq`, in storage order. -/
def tilesWithin (centre : TileIndex) (radiusSq : Int) : List TileIndex :=
  (g.tilesWithinM centre radiusSq).modular

end Geometry

end Rulebook
