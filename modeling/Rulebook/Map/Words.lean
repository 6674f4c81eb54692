import Rulebook.Map.Geometry

/-!
Tiles and coordinates in machine words.

A stored map holds its extents and the numbers of its tiles in unsigned words, and
coordinates are signed ones, since a step may lead off the map.  What is computed
here in words is what `coords` and `tileAt?` say in whole numbers, as long as the
number of tiles fits into a signed word.
-/

namespace Rulebook

namespace Geometry

variable (g : Geometry)

def wordRemainder (n extent : Int32) : Int32 :=
  let r := n % extent
  if r < 0 then r + extent.abs else r

def wordWrapped (wraps : Bool) (extent n : Int32) : Int32 :=
  if wraps then wordRemainder n extent else n

def wordCoords (tile : UInt32) : Int32 × Int32 :=
  let width := max (UInt32.ofNat g.width) 1
  ((tile % width).toInt32, (tile / width).toInt32)

def wordTileAt? (x y : Int32) : Option UInt32 :=
  let width := (UInt32.ofNat g.width).toInt32
  let height := (UInt32.ofNat g.height).toInt32
  if width = 0 ∨ height = 0 then none
  else
    let x := wordWrapped g.topology.wrapX width x
    let y := wordWrapped g.topology.wrapY height y
    if x < 0 ∨ y < 0 ∨ x ≥ width ∨ y ≥ height then none
    else some (y * width + x).toUInt32

end Geometry

end Rulebook
