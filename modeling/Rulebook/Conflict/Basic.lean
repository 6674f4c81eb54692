import Rulebook.Conflict.Relation
import Rulebook.Requirement.Conditions

/-!
Requirements that can never be met together.

The rules know about exact opposites, bounds on the same number, a building and
its genus, a nation and its groups, and relations between players.  What they
report is a conflict; pairs they say nothing about may still exclude each other.
-/

namespace Rulebook

/-- The number that a fact asks for at least.  The units on a tile are bounded from above. -/
def Fact.lowerBound? : Fact → Option (Measure × Int)
  | .measure .unitsOnTile _ => Option.none
  | .measure m n => some (m, m.toInt n)
  | _ => Option.none

namespace Requirement

def opposes (a b : Requirement) : Bool :=
  a.fact == b.fact && a.scope == b.scope && a.survives == b.survives && a.present != b.present

def exceeds (a b : Requirement) : Bool :=
  a.present && !b.present && a.scope == b.scope && a.survives == b.survives &&
    match a.fact.lowerBound?, b.fact.lowerBound? with
    | some (m, least), some (k, most) => m == k && most ≤ least
    | _, _ => false

def relationDemand? (r : Requirement) : Option RelationDemand :=
  match r.fact with
  | .choice .relation relation => some { relation, scope := r.scope, present := r.present }
  | _ => none

def relationsConflict (a b : Requirement) : Bool :=
  match a.relationDemand?, b.relationDemand? with
  | some x, some y => x.conflicts y
  | _, _ => false

end Requirement

namespace Ruleset

variable (rs : Ruleset)

def genusConflicts (building genus : Requirement) : Bool :=
  match building.fact, genus.fact with
  | .entity .building b, .choice .genus g =>
      building.present && building.scope == .here && genus.scope == .here &&
        (rs.buildingGenus? b).any fun actual => genus.present != (actual == g)
  | _, _ => false

def groupConflicts (nation group : Requirement) : Bool :=
  match nation.fact, group.fact with
  | .entity .nation n, .entity .nationGroup g =>
      nation.present && nation.scope == .player && group.scope == .player &&
        group.present != rs.nationInGroup n g
  | _, _ => false

/-- Are the two known never to be met together? -/
def conflict (a b : Requirement) : Bool :=
  a.opposes b || a.exceeds b || b.exceeds a || rs.genusConflicts a b || rs.genusConflicts b a ||
    rs.groupConflicts a b || rs.groupConflicts b a || a.relationsConflict b

end Ruleset

namespace Conditions

/-- The places of the conflicting pairs, ordered by the first and then the second. -/
def conflictPairs (rs : Ruleset) (c : Conditions) : List (Nat × Nat) :=
  let placed := c.requirements.zipIdx
  placed.flatMap fun (a, i) =>
    (placed.filter fun (b, j) => i < j && rs.conflict a b).map fun (_, j) => (i, j)

/-- Looks from each requirement at those behind it, and goes no further than the first conflict. -/
def firstConflict? (rs : Ruleset) (c : Conditions) : Option (Nat × Nat) :=
  let placed := c.requirements.zipIdx
  placed.findSome? fun (a, i) =>
    ((placed.drop (i + 1)).find? fun (b, _) => rs.conflict a b).map fun (_, j) => (i, j)

def conflictsWith (rs : Ruleset) (c : Conditions) (r : Requirement) : Bool :=
  c.requirements.any (rs.conflict r)

def hasTest (c : Conditions) (r : Requirement) : Bool :=
  c.requirements.any fun member => member.sameTest r

end Conditions

end Rulebook
