import Rulebook.Enabler.Compliance
import Rulebook.Evaluation.Judgement
import Rulebook.Proofs.Review.Findings

/-!
Being left out of help texts plays no part in rules.

`shown` takes the mark off: requirements that differ in it at most are the same
when shown.  Every analysis gives the same for what is shown as for what it was
given, so it cannot tell such requirements, or conditions of them, apart.
-/

namespace Rulebook

/-! ## Requirements -/

namespace Requirement

def shown (r : Requirement) : Requirement := { r with quiet := false }

variable {rs : Ruleset} {s : Situation}

theorem shown_eq_iff {a b : Requirement} : a.shown = b.shown ↔ { a with quiet := b.quiet } = b := by
  cases a
  cases b
  simp [shown]

@[simp] theorem eval_shown (r : Requirement) : r.shown.eval rs s = r.eval rs s := rfl

@[simp] theorem note_shown (u : Unjudged) (r : Requirement) :
    u.note rs r.shown s = u.note rs r s := rfl

@[simp] theorem isMet_shown (r : Requirement) (reading : Reading) :
    r.shown.isMet rs s reading = r.isMet rs s reading := rfl

@[simp] theorem sameTest_shown_left (a b : Requirement) : a.shown.sameTest b = a.sameTest b := rfl

@[simp] theorem conflict_shown_left (a b : Requirement) :
    rs.conflict a.shown b = rs.conflict a b := rfl

@[simp] theorem conflict_shown_right (a b : Requirement) :
    rs.conflict a b.shown = rs.conflict a b := rfl

@[simp] theorem problems_shown (r : Requirement) (place : Nat) :
    r.shown.problems place = r.problems place := rfl

theorem areMet_map_shown (reqs : List Requirement) (reading : Reading) :
    areMet rs (reqs.map shown) s reading = areMet rs reqs s reading := by
  induction reqs with
  | nil => rfl
  | cons r rest ih => simp only [List.map_cons, areMet, isMet_shown, ih]

end Requirement

/-! ## Conditions -/

def Condition.shown (c : Condition) : Condition := { c with requirement := c.requirement.shown }

namespace Conditions

variable {rs : Ruleset}

def shown (c : Conditions) : Conditions := ⟨c.toList.map Condition.shown⟩

@[simp] theorem requirements_shown (c : Conditions) :
    c.shown.requirements = c.requirements.map Requirement.shown := by
  simp [requirements, shown, Condition.shown]

theorem hasTest_shown (c : Conditions) (r : Requirement) : c.shown.hasTest r = c.hasTest r := by
  simp [hasTest, Function.comp_def]

theorem conflictPairs_shown (c : Conditions) : c.shown.conflictPairs rs = c.conflictPairs rs := by
  simp [conflictPairs, List.zipIdx_map, List.flatMap_map, List.filter_map, Function.comp_def]

theorem memberProblems_shown (c : Conditions) : c.shown.memberProblems = c.memberProblems := by
  simp [memberProblems, List.zipIdx_map, List.flatMap_map]

theorem demands_shown (c : Conditions) : c.shown.demands = c.demands := by
  funext kind
  simp only [demands, requirements_shown, List.countP_map]
  rfl

theorem demandsHere_shown (c : Conditions) : c.shown.demandsHere = c.demandsHere := by
  funext kind
  simp only [demandsHere, requirements_shown, List.countP_map]
  rfl

theorem problems_shown (c : Conditions) (conjunctive : Bool) (maxTiles : Int) :
    c.shown.problems rs conjunctive maxTiles = c.problems rs conjunctive maxTiles := by
  simp only [problems, memberProblems_shown, countProblems, terrainProblems, tileProblems,
    tileProblems.above, conflictProblems, demands_shown, demandsHere_shown, conflictPairs_shown]

theorem suits_shown (reasoners : Reasoners) (candidate : Fact) (c : Conditions)
    (necessary : Bool) :
    candidate.suits rs reasoners c.shown necessary = candidate.suits rs reasoners c necessary := by
  simp only [Fact.suits, requirements_shown, List.all_map, List.any_map]
  rfl

theorem bearsOn_shown (reasoners : Reasoners) (candidate : Fact) (c : Conditions) :
    candidate.bearsOn rs reasoners c.shown = candidate.bearsOn rs reasoners c := by
  simp only [Fact.bearsOn, requirements_shown, List.any_map]
  rfl

end Conditions

namespace Standpoint

variable {p : Standpoint}

theorem implies_shown_left (c : Conditions) (r : Requirement) :
    p.implies c.shown r = p.implies c r := by
  simp only [implies, Conditions.hasTest_shown, Conditions.requirements_shown, List.any_map]
  rfl

theorem implies_shown_right (c : Conditions) (r : Requirement) :
    p.implies c r.shown = p.implies c r := rfl

theorem conflicting_shown (c : Conditions) (r : Requirement) :
    p.conflicting c.shown r = p.conflicting c r := by
  simp [conflicting, List.zipIdx_map, List.filter_map, Function.comp_def]

end Standpoint

/-! ## What shows the same acts alike -/

structure Ruleset.ActAlike (rs : Ruleset) (a b : Requirement) : Prop where
  answer : ∀ s, a.eval rs s = b.eval rs s
  note : ∀ (u : Unjudged) s, u.note rs a s = u.note rs b s
  met : ∀ s reading, a.isMet rs s reading = b.isMet rs s reading
  conflict : ∀ c d : Requirement, c.shown = d.shown →
    rs.conflict a c = rs.conflict b d ∧ rs.conflict c a = rs.conflict d b

structure Standpoint.ActAlike (p : Standpoint) (c d : Conditions) : Prop where
  met : ∀ s reading, Requirement.areMet p.ruleset c.requirements s reading =
    Requirement.areMet p.ruleset d.requirements s reading
  firstConflict : c.firstConflict? p.ruleset = d.firstConflict? p.ruleset
  problems : ∀ conjunctive maxTiles,
    c.problems p.ruleset conjunctive maxTiles = d.problems p.ruleset conjunctive maxTiles
  suits : ∀ (candidate : Fact) necessary, candidate.suits p.ruleset p.reasoners c necessary =
    candidate.suits p.ruleset p.reasoners d necessary
  bearsOn : ∀ candidate : Fact,
    candidate.bearsOn p.ruleset p.reasoners c = candidate.bearsOn p.ruleset p.reasoners d
  implies : ∀ a b : Requirement, a.shown = b.shown → p.implies c a = p.implies d b

namespace Ruleset

open Requirement

theorem actAlike_of_shown_eq {rs : Ruleset} {a b : Requirement} (h : a.shown = b.shown) :
    rs.ActAlike a b where
  answer s := by rw [← eval_shown a, h, eval_shown]
  note u s := by rw [← note_shown u a, h, note_shown]
  met s reading := by rw [← isMet_shown a, h, isMet_shown]
  conflict c d hcd := by
    rw [← conflict_shown_left a, ← conflict_shown_right _ c, h, hcd, ← conflict_shown_left c,
      ← conflict_shown_right _ a, h, hcd]
    exact ⟨rfl, rfl⟩

end Ruleset

namespace Standpoint

open Conditions

theorem actAlike_of_shown_eq {p : Standpoint} {c d : Conditions} (h : c.shown = d.shown) :
    p.ActAlike c d where
  met s reading := by
    rw [← Requirement.areMet_map_shown c.requirements, ← requirements_shown, h,
      requirements_shown, Requirement.areMet_map_shown]
  firstConflict := by
    rw [firstConflict?_eq_head?, firstConflict?_eq_head?, ← conflictPairs_shown, h,
      conflictPairs_shown]
  problems conjunctive maxTiles := by rw [← problems_shown, h, problems_shown]
  suits candidate necessary := by rw [← suits_shown, h, suits_shown]
  bearsOn candidate := by rw [← bearsOn_shown, h, bearsOn_shown]
  implies a b hab := by
    rw [← implies_shown_left, ← implies_shown_right, h, hab, implies_shown_right,
      implies_shown_left]

end Standpoint

end Rulebook
