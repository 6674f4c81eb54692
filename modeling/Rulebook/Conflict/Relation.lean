import Rulebook.Requirement.Basic

/-!
Which demands on relations between players exclude one another.

A relation towards somebody holds in every wider scope as well, two players are
in one diplomatic state at a time, and whoever one is related to at all is a
foreigner.
-/

namespace Rulebook

structure RelationDemand where
  relation : Relation
  scope : Scope
  present : Bool
  deriving DecidableEq, Repr

namespace RelationDemand

def inScope (d : RelationDemand) : Bool :=
  (FactKind.choice .relation).scopes.contains d.scope

def holdsHere (d : RelationDemand) : Bool := d.scope == .here && d.present

def forbidsForeigners (d : RelationDemand) : Bool := d.relation == .foreign && !d.present

/-- Of two demands on one relation, the narrower is met and the wider is not. -/
def narrowWithoutWide (a b : RelationDemand) : Bool :=
  if Vocabulary.index a.scope < Vocabulary.index b.scope then a.present && !b.present
  else b.present && !a.present

/-- Can the two never be met together?  Only demands in scopes of relations are compared. -/
def conflicts (a b : RelationDemand) : Bool :=
  a.inScope && b.inScope &&
    if a.relation == b.relation then
      if a.scope == b.scope then a.present != b.present else narrowWithoutWide a b
    else
      (a.holdsHere && b.holdsHere && a.relation.isState && b.relation.isState) ||
        (a.holdsHere && b.forbidsForeigners) || (b.holdsHere && a.forbidsForeigners)

end RelationDemand

end Rulebook
