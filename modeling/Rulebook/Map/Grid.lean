import Rulebook.Map.Hex
import Rulebook.Map.Topology

/-!
Tiles, neighbours and distances on a map, in whole numbers.

Tiles are numbered row by row.  A coordinate outside the map is brought back by
wrapping where the map wraps, and names no tile where it does not.  On a square
map the squared distance is Euclidean, each axis taken the shorter way round; on
a hexagonal map it is the square of the number of steps.
-/

namespace Rulebook

abbrev TileIndex := Nat

structure Grid where
  width : Nat
  height : Nat
  topology : Topology := {}
  deriving DecidableEq, Repr

namespace Grid

variable (g : Grid)

def tileCount : Nat := g.width * g.height

def coords (tile : TileIndex) : Int × Int :=
  let width := max g.width 1
  ((tile % width : Nat), (tile / width : Nat))

def wrapped (wraps : Bool) (extent : Nat) (n : Int) : Int :=
  if wraps then n % extent else n

def tileAt? (x y : Int) : Option TileIndex :=
  if g.width = 0 ∨ g.height = 0 then none
  else
    let x := wrapped g.topology.wrapX g.width x
    let y := wrapped g.topology.wrapY g.height y
    if x < 0 ∨ y < 0 ∨ x ≥ g.width ∨ y ≥ g.height then none
    else some (y * g.width + x).toNat

def ordered (tiles : List TileIndex) : List TileIndex :=
  (tiles.mergeSort fun a b => a ≤ b).eraseReps

def hexNeighbours (tile : TileIndex) : List TileIndex :=
  let (x, y) := g.coords tile
  let centre := Hex.ofOffset x y
  Hex.directions.filterMap fun d =>
    let (x, y) := (centre.add d).toOffset
    g.tileAt? x y

def squareNeighbours (steps : List (Int × Int)) (tile : TileIndex) : List TileIndex :=
  let (x, y) := g.coords tile
  let reached := steps.filterMap fun (dx, dy) => g.tileAt? (x + dx) (y + dy)
  ordered (reached.filter (· != tile))

def cardinalSteps : List (Int × Int) := [(0, -1), (1, 0), (0, 1), (-1, 0)]

def adjacentSteps : List (Int × Int) :=
  [(0, -1), (1, -1), (1, 0), (1, 1), (0, 1), (-1, 1), (-1, 0), (-1, -1)]

def cardinalNeighbours (tile : TileIndex) : List TileIndex :=
  if g.topology.hex then g.hexNeighbours tile else g.squareNeighbours cardinalSteps tile

def adjacentNeighbours (tile : TileIndex) : List TileIndex :=
  if g.topology.hex then g.hexNeighbours tile else g.squareNeighbours adjacentSteps tile

def axisDistance (wraps : Bool) (extent : Nat) (a b : Int) : Int :=
  let d : Int := (a - b).natAbs
  if wraps then min d (extent - d) else d

/-- The least number of steps between two places of a hexagonal map; wrapping columns offer the
second place again one map width to either side. -/
def hexSteps (a b : Int × Int) : Nat :=
  let steps := fun (shift : Int) =>
    (Hex.ofOffset a.1 a.2).distance (Hex.ofOffset (b.1 + shift * g.width) b.2)
  if g.topology.wrapX then min (steps (-1)) (min (steps 0) (steps 1)) else steps 0

def sqDistance (a b : TileIndex) : Int :=
  let p := g.coords a
  let q := g.coords b
  if g.topology.hex then
    let n : Int := g.hexSteps p q
    n * n
  else
    let dx := axisDistance g.topology.wrapX g.width p.1 q.1
    let dy := axisDistance g.topology.wrapY g.height p.2 q.2
    dx * dx + dy * dy

def span (n : Nat) : List Int :=
  (List.range (2 * n + 1)).map fun (i : Nat) => (i : Int) - n

/-- The tiles whose squared distance from a tile is at most `radiusSq`, in storage order.  They
lie in a square of coordinates around it. -/
def tilesWithin (centre : TileIndex) (radiusSq : Int) : List TileIndex :=
  if radiusSq < 0 then []
  else
    let (x, y) := g.coords centre
    let reach := span (radiusSq.toNat.sqrt + 1)
    let found := reach.flatMap fun dy => reach.filterMap fun dx =>
      (g.tileAt? (x + dx) (y + dy)).filter fun tile => g.sqDistance centre tile ≤ radiusSq
    ordered found

end Grid

end Rulebook
