import Rulebook.Vocabulary

/-!
The shape of a map: square or hexagonal tiles, and the directions in which the
map wraps around.
-/

namespace Rulebook

inductive TopologyFlag where
  | hex
  | iso
  | wrapX
  | wrapY
  deriving DecidableEq, Repr

instance : Vocabulary TopologyFlag where
  all := [.hex, .iso, .wrapX, .wrapY]
  word
    | .hex => "Hex"
    | .iso => "Iso"
    | .wrapX => "WrapX"
    | .wrapY => "WrapY"
  mem_all f := by cases f <;> decide

structure Topology where
  hex : Bool := false
  iso : Bool := false
  wrapX : Bool := false
  wrapY : Bool := false
  deriving DecidableEq, Repr, Inhabited

namespace Topology

def has (t : Topology) : TopologyFlag → Bool
  | .hex => t.hex
  | .iso => t.iso
  | .wrapX => t.wrapX
  | .wrapY => t.wrapY

def ofList (flags : List TopologyFlag) : Topology :=
  ⟨flags.contains .hex, flags.contains .iso, flags.contains .wrapX, flags.contains .wrapY⟩

def toList (t : Topology) : List TopologyFlag :=
  Vocabulary.all.filter t.has

theorem has_ofList (flags : List TopologyFlag) (f : TopologyFlag) :
    (ofList flags).has f = flags.contains f := by
  cases f <;> rfl

theorem ofList_toList (t : Topology) : ofList t.toList = t := by
  obtain ⟨h, i, x, y⟩ := t
  cases h <;> cases i <;> cases x <;> cases y <;> rfl

end Topology

end Rulebook
