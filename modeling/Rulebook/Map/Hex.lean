import Rulebook.Calculation

/-!
Hexagonal grids in axial coordinates.

A third coordinate `s` makes the three sum to zero.  The distance of two hexes
is half the sum of the three absolute differences.  Rows of a stored map are
shifted: an odd row lies half a hex to the right.
-/

namespace Rulebook

structure Hex where
  q : Int
  r : Int
  deriving DecidableEq, Repr

namespace Hex

def s (a : Hex) : Int := -a.q - a.r

def add (a b : Hex) : Hex := ⟨a.q + b.q, a.r + b.r⟩

/-- East, north-east, north-west, west, south-west, south-east. -/
def directions : List Hex :=
  [⟨1, 0⟩, ⟨1, -1⟩, ⟨0, -1⟩, ⟨-1, 0⟩, ⟨-1, 1⟩, ⟨0, 1⟩]

def distance (a b : Hex) : Nat :=
  ((a.q - b.q).natAbs + (a.r - b.r).natAbs + (a.s - b.s).natAbs) / 2

def ofOffset (x y : Int) : Hex := ⟨x - (y - y % 2) / 2, y⟩

def toOffset (a : Hex) : Int × Int := (a.q + (a.r - a.r % 2) / 2, a.r)

theorem toOffset_ofOffset (x y : Int) : (ofOffset x y).toOffset = (x, y) := by
  simp [ofOffset, toOffset]

theorem ofOffset_toOffset (a : Hex) : ofOffset a.toOffset.1 a.toOffset.2 = a := by
  cases a
  simp [ofOffset, toOffset]

/-! ## In words -/

open Calculation

def sM (a : Hex) : Calculation Int := do
  let negative ← word (-a.q)
  word (negative - a.r)

def addM (a b : Hex) : Calculation Hex := do
  let q ← word (a.q + b.q)
  let r ← word (a.r + b.r)
  return ⟨q, r⟩

def distanceM (a b : Hex) : Calculation Int := do
  let q ← gap a.q b.q
  let r ← gap a.r b.r
  let two ← word (q + r)
  let s ← gap (← a.sM) (← b.sM)
  let three ← word (two + s)
  return three.tdiv 2

def ofOffsetM (x y : Int) : Calculation Hex := do
  let even ← word (y - y % 2)
  let q ← word (x - even / 2)
  return ⟨q, y⟩

def toOffsetM (a : Hex) : Calculation (Int × Int) := do
  let even ← word (a.r - a.r % 2)
  let x ← word (a.q + even / 2)
  return (x, a.r)

end Hex

end Rulebook
