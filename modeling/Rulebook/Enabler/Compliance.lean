import Rulebook.Config
import Rulebook.Conflict.Basic
import Rulebook.Enabler.Basic
import Rulebook.Hypothesis

/-!
Whether enablers meet the obligations of their action, and what could be done
about those they do not meet.

Conditions imply a requirement in three ways: it is one of them, its opposite
conflicts with one of them, or one of them, taken as given, settles it.
-/

namespace Rulebook

/-- What enablers are judged by: a ruleset, a configuration, and the reasoners for facts that
are taken as given. -/
structure Standpoint where
  ruleset : Ruleset
  config : Config := {}
  reasoners : Reasoners := Reasoners.standard

/-- A requirement to add to one side, once the conditions at the places in `remove`, which
conflict with it, have been taken away. -/
structure Suggestion where
  side : Side
  requirement : Requirement
  remove : List Nat
  deriving DecidableEq

def Suggestion.isAppend (s : Suggestion) : Bool := s.remove.isEmpty

def Conditions.without (c : Conditions) (places : List Nat) : Conditions :=
  ⟨(c.toList.zipIdx.filter fun (_, i) => !places.contains i).map (·.1)⟩

def Enabler.follow (e : Enabler) (s : Suggestion) : Enabler :=
  e.withConditions s.side (((e.conditions s.side).without s.remove).push s.requirement)

namespace Standpoint

variable (p : Standpoint)

/-- Does meeting the member make sure that the requirement is met? -/
def settles (member r : Requirement) : Bool :=
  p.ruleset.conflict member r.negated ||
    (member.present && member.scope == r.scope &&
      member.fact.verdict p.ruleset p.reasoners r == .yes)

/-- Is the requirement met whenever the conditions are? -/
def implies (c : Conditions) (r : Requirement) : Bool :=
  c.hasTest r || c.requirements.any fun member => p.settles member r

def fulfils (e : Enabler) (o : Obligation) : Bool :=
  o.alternatives.any (p.implies (e.conditions o.side))

def missing? (e : Enabler) (obligations : List Obligation) : Option Obligation :=
  obligations.find? fun o => !p.fulfils e o

def conflicting (c : Conditions) (r : Requirement) : List Nat :=
  (c.requirements.zipIdx.filter fun (member, _) => p.ruleset.conflict member r).map (·.2)

def suggestions (e : Enabler) (o : Obligation) : List Suggestion :=
  o.alternatives.map fun r =>
    { side := o.side, requirement := r, remove := p.conflicting (e.conditions o.side) r }

end Standpoint

/-! ## Adding conditions loses nothing -/

namespace Conditions

theorem hasTest_push_of_hasTest {c : Conditions} {r : Requirement} (added : Requirement)
    (h : c.hasTest r = true) : (c.push added).hasTest r = true := by
  simp only [hasTest, requirements_push, List.any_append, Bool.or_eq_true] at h ⊢
  exact .inl h

theorem hasTest_push_self (c : Conditions) (r : Requirement) : (c.push r).hasTest r = true := by
  simp [hasTest, Requirement.sameTest]

end Conditions

namespace Standpoint

theorem implies_push_of_implies {p : Standpoint} {c : Conditions} {r : Requirement}
    (added : Requirement) (h : p.implies c r = true) : p.implies (c.push added) r = true := by
  simp only [implies, Conditions.requirements_push, List.any_append, Bool.or_eq_true] at h ⊢
  rcases h with h | h
  · exact .inl (Conditions.hasTest_push_of_hasTest added h)
  · exact .inr (.inl h)

theorem implies_push_self (p : Standpoint) (c : Conditions) (r : Requirement) :
    p.implies (c.push r) r = true := by
  simp [implies, Conditions.hasTest_push_self]

end Standpoint

end Rulebook
