import Rulebook.Conflict.Basic

/-!
Conflicts between demands on relations, worked out once.

Every demand that makes sense has a place: by relation, then scope, then sign.
The matrix has a row and a column for each; it is filled pair by pair, a conflict
marked both ways, and is only looked up from then on.
-/

namespace Rulebook

namespace RelationDemand

def scopes : List Scope := (FactKind.choice .relation).scopes

def all : List RelationDemand :=
  Vocabulary.all.flatMap fun relation => scopes.flatMap fun scope =>
    [false, true].map fun present => { relation, scope, present }

def place? (d : RelationDemand) : Option Nat :=
  (scopes.idxOf? d.scope).map fun i =>
    (Vocabulary.index d.relation * scopes.length + i) * 2 + d.present.toNat

end RelationDemand

/-- A row and a column for each demand that makes sense, row by row. -/
structure RelationMatrix where
  size : Nat
  marks : Array Bool

namespace RelationMatrix

open RelationDemand (all)

def blank : RelationMatrix := ⟨all.length, Array.replicate (all.length * all.length) false⟩

def mark (m : RelationMatrix) (a b : RelationDemand) : RelationMatrix :=
  match a.place?, b.place? with
  | some i, some j => { m with marks := m.marks.setIfInBounds (i * m.size + j) true }
  | _, _ => m

def enter (m : RelationMatrix) (pair : RelationDemand × RelationDemand) : RelationMatrix :=
  if pair.1.conflicts pair.2 then (m.mark pair.1 pair.2).mark pair.2 pair.1 else m

def filled : RelationMatrix :=
  all.foldl (fun m a => all.foldl (fun m b => m.enter (a, b)) m) blank

def isMarked (m : RelationMatrix) (a b : RelationDemand) : Bool :=
  match a.place?, b.place? with
  | some i, some j => m.marks[i * m.size + j]?.getD false
  | _, _ => false

end RelationMatrix

namespace Requirement

def boundsCross (a b : Requirement) : Bool :=
  match a.fact.lowerBound?, b.fact.lowerBound? with
  | some (m, x), some (k, y) =>
      m == k && a.scope == b.scope && a.survives == b.survives && a.present != b.present &&
        if a.present then y ≤ x else x ≤ y
  | _, _ => false

end Requirement

namespace Ruleset

variable (rs : Ruleset)

/-- The rule for the kinds of the two facts, in the order they are given; relations are looked
up. -/
def conflictByKind (m : RelationMatrix) (a b : Requirement) : Bool :=
  match a.fact, b.fact with
  | .entity .building _, .choice .genus _ => rs.genusConflicts a b
  | .choice .genus _, .entity .building _ => rs.genusConflicts b a
  | .entity .nation _, .entity .nationGroup _ => rs.groupConflicts a b
  | .entity .nationGroup _, .entity .nation _ => rs.groupConflicts b a
  | .choice .relation x, .choice .relation y =>
      m.isMarked ⟨x, a.scope, a.present⟩ ⟨y, b.scope, b.present⟩
  | _, _ => false

def conflictIn (m : RelationMatrix) (a b : Requirement) : Bool :=
  a.opposes b || a.boundsCross b || rs.conflictByKind m a b

end Ruleset

end Rulebook
