import Rulebook.Text.Word

/-!
Tables of named entries and lists of flag names.

An entry is referred to by its position, a 16-bit number; the type of the
reference says which table it belongs to.  Looking a name up ignores ASCII case:
of several entries whose names agree that way a table finds the last one, a list
of flag names the first.
-/

namespace Rulebook

structure Title where
  name : String
  label : String
  deriving DecidableEq, Repr, Inhabited

class Titled (α : Type) where
  title : α → Title

structure Ref (α : Type) where
  number : UInt16

namespace Ref

variable {α : Type}

theorem ext_iff {a b : Ref α} : a = b ↔ a.number = b.number := by
  cases a; cases b; simp

instance : DecidableEq (Ref α) := fun _ _ => decidable_of_iff _ ext_iff.symm

instance : Inhabited (Ref α) := ⟨⟨0⟩⟩

instance : Repr (Ref α) := ⟨fun a _ => repr a.number.toNat⟩

def toNat (a : Ref α) : Nat := a.number.toNat

def ofNat (n : Nat) : Ref α := ⟨UInt16.ofNat n⟩

theorem toNat_inj {a b : Ref α} : a.toNat = b.toNat ↔ a = b := by
  rw [ext_iff, toNat, toNat, UInt16.toNat_inj]

theorem ofNat_toNat (a : Ref α) : ofNat a.toNat = a := by
  simp [ofNat, toNat]

theorem toNat_ofNat {n : Nat} (h : n < 65536) : (ofNat n : Ref α).toNat = n := by
  simpa [ofNat, toNat] using h

end Ref

structure Table (α : Type) where
  entries : List α := []
  deriving Repr, Inhabited

namespace Table

variable {α : Type}

def size (t : Table α) : Nat := t.entries.length

def get? (t : Table α) (r : Ref α) : Option α := t.entries[r.toNat]?

def contains (t : Table α) (r : Ref α) : Bool := r.toNat < t.size

def refs (t : Table α) : List (Ref α) := (List.range t.size).map Ref.ofNat

variable [Titled α]

/-- The last entry with this name, up to ASCII case. -/
def find? (t : Table α) (name : String) : Option (Ref α) :=
  let named := t.entries.zipIdx.filter fun (e, _) => Text.sameWord (Titled.title e).name name
  named.getLast?.map fun (_, i) => Ref.ofNat i

def name? (t : Table α) (r : Ref α) : Option String :=
  (t.get? r).map fun e => (Titled.title e).name

def label? (t : Table α) (r : Ref α) : Option String :=
  (t.get? r).map fun e => (Titled.title e).label

end Table

inductive FlagKind where
  | tech
  | terrain
  | unitType
  | unitClass
  | extra
  | base
  | road
  deriving DecidableEq, Repr

structure Flag (kind : FlagKind) where
  number : UInt16
  deriving DecidableEq, Repr

namespace Flag

variable {kind : FlagKind}

def toNat (f : Flag kind) : Nat := f.number.toNat

def ofNat (n : Nat) : Flag kind := ⟨UInt16.ofNat n⟩

theorem ofNat_toNat (f : Flag kind) : ofNat f.toNat = f := by
  cases f; simp [ofNat, toNat]

theorem toNat_ofNat {n : Nat} (h : n < 65536) : (ofNat n : Flag kind).toNat = n := by
  simpa [ofNat, toNat] using h

end Flag

structure FlagList (kind : FlagKind) where
  names : List String := []
  deriving Repr, Inhabited

namespace FlagList

variable {kind : FlagKind}

def size (l : FlagList kind) : Nat := l.names.length

def name? (l : FlagList kind) (f : Flag kind) : Option String := l.names[f.toNat]?

/-- The first flag with this name, up to ASCII case. -/
def find? (l : FlagList kind) (name : String) : Option (Flag kind) :=
  (l.names.findIdx? fun n => Text.sameWord n name).map Flag.ofNat

end FlagList

end Rulebook
