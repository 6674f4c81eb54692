import Rulebook.Enabler.Compliance
import Rulebook.Proofs.Evaluation.Met

/-!
Where implication claims more than situations bear out.

Conditions guarantee a requirement if it is met in every situation in which they
are.  The static test takes a member as a fact and reasons from it; `Leap` lists
the ways in which that goes too far: a value is taken for the only one where
several hold at once, the past is taken for the present or the other way, and a
relation is ruled out towards another player who may not be there.
-/

namespace Rulebook

def Conditions.Guarantee (rs : Ruleset) (c : Conditions) (r : Requirement) : Prop :=
  ∀ s : Situation, s.Placed →
    Requirement.areMet rs c.requirements s .certain = .ok true → r.isMet rs s .certain = .ok true

namespace Ruleset

variable (rs : Ruleset)

def SomeNative : Prop :=
  ∃ t c terrain, rs.classOfUnitType? t = some c ∧ rs.isNative c terrain = true

def StatesCoexist : UnitState → UnitState → Prop
  | .onNativeTile, _ | .onLivableTile, .onNativeTile => rs.SomeNative
  | .onLivableTile, _ => ∃ t, rs.classOfUnitType? t ≠ none
  | .onDomesticTile, .onNativeTile => rs.SomeNative ∨ ∃ t, rs.classOfUnitType? t = none
  | _, _ => True

def Coexist (scope : Scope) : Fact → Fact → Prop
  | .entity .tech _, .entity .tech _ | .entity .achievement _, .entity .achievement _
  | .entity .good _, .entity .good _ | .entity .serverSetting _, .entity .serverSetting _
  | .entity .extra _, .entity .extra _ | .choice .topology _, .choice .topology _
  | .choice .cityStatus _, .choice .cityStatus _ => True
  | .choice .unitState first, .choice .unitState second => rs.StatesCoexist first second
  | .entity .extra _, .flag .extra flag => ∃ extra, rs.extraHasFlag extra flag = true
  | .entity .extra _, .flag .base flag => ∃ extra, rs.extraHasBaseFlag extra flag = true
  | .entity .extra _, .flag .road flag => ∃ extra, rs.extraHasRoadFlag extra flag = true
  | .entity .building _, .entity .building _ | .entity .terrain _, .entity .terrain _ =>
      scope ≠ .here
  | .entity .terrain _, .choice .terrainClass c =>
      scope ≠ .here ∧ ∃ terrain, rs.terrainClass? terrain = some c
  | .entity .terrain _, .flag .terrain flag =>
      scope ≠ .here ∧ ∃ terrain, rs.terrainHasFlag terrain flag = true
  | .entity .nation _, .entity .nation _ => scope ≠ .player
  | .entity .nation _, .entity .nationGroup group =>
      scope ≠ .player ∧ ∃ nation, rs.nationInGroup nation group = true
  | _, _ => False

/-- The ways from a member to a requirement that situations do not bear out. -/
inductive Leap (member r : Requirement) : Prop
  /-- Towards another player who may not be there. -/
  | toOther (hconflict : member.relationsConflict r.negated = true) (hhere : r.scope = .here)
      (hwide : member.scope ≠ .here)
  | fromPast (hscope : member.scope = r.scope) (hmember : member.present = true)
      (hr : r.present = true) (hverdict : member.fact.verdict rs .standard r = .yes)
      (hpast : member.survives = true) (hnow : r.survives = false)
  | toPast (hscope : member.scope = r.scope) (hmember : member.present = true)
      (hr : r.present = true) (hverdict : member.fact.verdict rs .standard r = .yes)
      (hkind : r.kind = .entity .building) (hnow : member.survives = false)
      (hpast : r.survives = true)
  | fromOne (hscope : member.scope = r.scope) (hmember : member.present = true)
      (hr : r.present = false) (hcoexist : rs.Coexist member.scope member.fact r.fact)

/-- The member makes such a leap, and can be met at all. -/
structure Overreaches (member r : Requirement) : Prop where
  survivesIsLegal : member.survivesIsLegal = true
  leap : rs.Leap member r

end Ruleset

end Rulebook
