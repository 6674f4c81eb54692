import Rulebook.Requirement.Conditions

/-!
Reasoning from a single fact, without a situation: if the candidate holds, is a
requirement met, is it ruled out, or does the candidate say nothing about it?

How a candidate bears on other facts depends on its kind; a reasoner says it for
one kind, and kinds without a reasoner say nothing.
-/

namespace Rulebook

inductive Verdict where
  | notApplicable
  | no
  | yes
  deriving DecidableEq, Repr

/-- Does the target hold, given the candidate?  `none` if the candidate does not settle it. -/
abbrev Reasoner := (rs : Ruleset) → (target candidate : Fact) → Option Bool

abbrev Reasoners := FactKind → Option Reasoner

namespace Reasoner

/-- A fact settles the facts of its own kind: itself holds, the others do not. -/
def sameKind : Reasoner := fun _ target candidate =>
  if target.kind == candidate.kind then some (target == candidate) else none

def building : Reasoner := fun rs target candidate =>
  match candidate, target with
  | .entity .building b, .entity .building other => some (other == b)
  | .entity .building b, .choice .genus genus => some (rs.buildingGenus? b == some genus)
  | _, _ => none

def unitType : Reasoner := fun rs target candidate =>
  match candidate, target with
  | .entity .unitType t, .entity .unitType other => some (other == t)
  | .entity .unitType t, .flag .unitType flag => some (rs.unitTypeHasFlag t flag)
  | .entity .unitType t, .entity .unitClass c => some (rs.classOfUnitType? t == some c)
  | .entity .unitType t, .flag .unitClass flag => some (rs.classOfUnitTypeHasFlag t flag)
  | _, _ => none

def unitClass : Reasoner := fun rs target candidate =>
  match candidate, target with
  | .entity .unitClass c, .entity .unitClass other => some (other == c)
  | .entity .unitClass c, .flag .unitClass flag => some (rs.unitClassHasFlag c flag)
  | _, _ => none

def terrain : Reasoner := fun rs target candidate =>
  match candidate, target with
  | .entity .terrain t, .entity .terrain other => some (other == t)
  | .entity .terrain t, .choice .terrainClass c => some (rs.terrainClass? t == some c)
  | .entity .terrain t, .flag .terrain flag => some (rs.terrainHasFlag t flag)
  | .entity .terrain t, .choice .alteration alteration => some (rs.terrainAllows t alteration)
  | _, _ => none

def extra : Reasoner := fun rs target candidate =>
  match candidate, target with
  | .entity .extra e, .entity .extra other => some (other == e)
  | .entity .extra e, .flag .extra flag => some (rs.extraHasFlag e flag)
  | .entity .extra e, .flag .base flag => some (rs.extraHasBaseFlag e flag)
  | .entity .extra e, .flag .road flag => some (rs.extraHasRoadFlag e flag)
  | _, _ => none

def nation : Reasoner := fun rs target candidate =>
  match candidate, target with
  | .entity .nation n, .entity .nation other => some (other == n)
  | .entity .nation n, .entity .nationGroup group => some (rs.nationInGroup n group)
  | _, _ => none

end Reasoner

namespace Reasoners

def standard : Reasoners
  | .entity .building => some Reasoner.building
  | .entity .unitType => some Reasoner.unitType
  | .entity .unitClass => some Reasoner.unitClass
  | .entity .terrain => some Reasoner.terrain
  | .entity .extra => some Reasoner.extra
  | .entity .nation => some Reasoner.nation
  | .entity .tech | .entity .government | .entity .achievement | .entity .good | .entity .action
  | .entity .specialist | .entity .serverSetting | .choice .output | .choice .activity
  | .choice .aiLevel | .choice .vision | .choice .intelligence | .choice .cityStatus
  | .choice .unitState | .choice .topology => some Reasoner.sameKind
  | _ => none

def only (kinds : List FactKind) : Reasoners := fun kind =>
  if kinds.contains kind then standard kind else none

end Reasoners

namespace Fact

def verdict (rs : Ruleset) (reasoners : Reasoners) (candidate : Fact) (r : Requirement) :
    Verdict :=
  match (reasoners candidate.kind).bind fun reason => reason rs r.fact candidate with
  | .none => .notApplicable
  | some holds => if holds == r.present then .yes else .no

/-- Nothing rules the candidate out; if `necessary`, some condition also demands it. -/
def suits (rs : Ruleset) (reasoners : Reasoners) (candidate : Fact) (c : Conditions)
    (necessary : Bool) : Bool :=
  let verdict := candidate.verdict rs reasoners
  (c.requirements.all fun r => verdict r != .no) &&
    (!necessary || c.requirements.any fun r => r.present && verdict r == .yes)

/-- Does some condition examine what the candidate settles? -/
def bearsOn (rs : Ruleset) (reasoners : Reasoners) (candidate : Fact) (c : Conditions) : Bool :=
  c.requirements.any fun r => candidate.verdict rs reasoners r != .notApplicable

end Fact

end Rulebook
