import Rulebook.Proofs.Repair.Legality
import Rulebook.Proofs.Repair.Compliance
import Rulebook.Proofs.Review.Extension

/-!
A repair leaves enabled only what has just the problems that were there before.

Each step looks for problems that its version has and the enabler before it had
not, and switches the version off if it finds one.  A version that passes has no
new problem, and so none of the old ones with another count: its problems are
those of the enabler before.  That carries over from step to step, to the problems
that the author left.
-/

namespace Rulebook

namespace Standpoint

variable {p : Standpoint}

def KeepsProblems (p : Standpoint) (e e' : Enabler) : Prop :=
  ∀ side problem,
    problem ∈ p.problems (e'.conditions side) ↔ problem ∈ p.problems (e.conditions side)

/-! ## One step -/

theorem introduced?_eq_none_iff {before after : Enabler} :
    p.introduced? before after = none ↔
      ∀ side, p.problems (after.conditions side) ⊆ p.problems (before.conditions side) := by
  simp only [introduced?, List.findSome?_eq_none_iff, List.find?_eq_none, Bool.not_eq_true',
    Bool.not_eq_false, List.contains_iff_mem]
  exact ⟨fun h side => h side (Vocabulary.mem_all side), fun h side _ => h side⟩

theorem introduced?_of_enabled {before after : Enabler}
    (h : (p.vetted before after).disabled = false) : p.introduced? before after = none := by
  unfold vetted at h
  split at h
  · contradiction
  · next hnone => simpa using hnone

theorem keepsProblems_of_outcome {e e' : Enabler} {o : Obligation} (h : p.Outcome e o e')
    (henabled : e'.disabled = false) : p.KeepsProblems e e' := by
  have hgrown := h.grownFrom (List.mem_singleton.2 rfl : o ∈ [o])
  cases h with
  | kept => exact fun _ _ => .rfl
  | switchedOff => contradiction
  | extended _ _ _ _ name =>
      have hnone := introduced?_eq_none_iff.1 (introduced?_of_enabled henabled)
      intro side problem
      obtain ⟨added, hadded, -⟩ := hgrown side
      have hsubset := hnone side
      rw [conditions_vetted] at hadded ⊢
      rw [hadded] at hsubset ⊢
      exact Conditions.mem_problems_extend_iff hsubset

/-! ## A whole repair -/

theorem keepsProblems_of_mem_repairEnabler {obligations : List Obligation} {e e' : Enabler}
    (h : e' ∈ (p.repairEnabler obligations e).enablers) (henabled : e'.disabled = false) :
    p.KeepsProblems e e' := by
  induction obligations generalizing e with
  | nil =>
      rw [List.mem_singleton.1 h]
      exact fun _ _ => .rfl
  | cons o rest ih =>
      obtain ⟨middle, hstep, hrest⟩ := mem_repairEnabler_cons.1 h
      have hmiddle : middle.disabled = false := by
        by_cases hoff : middle.disabled = true
        · -- What is switched off comes out as it is.
          rw [repairEnabler_of_complies (.inl hoff), List.mem_singleton] at hrest
          rw [hrest, hoff] at henabled
          contradiction
        · simpa using hoff
      have first := keepsProblems_of_outcome (outcome_of_mem_comply hstep) hmiddle
      exact fun side problem => (ih hrest side problem).trans (first side problem)

/-- Whatever a repair makes of an enabler and leaves enabled has on both sides the problems that the
enabler had, counts and places included: no others, and none is hidden.  If there were none, there
are none unless it is switched off. -/
theorem repairAll_keeps_problems (p : Standpoint) (table : ByAction Obligation)
    (action : Ref Action) (e : Enabler) :
    (∀ e' ∈ (p.repairAll table (ByAction.empty.add action e)).toList, e'.disabled = false →
      ∀ side problem,
        problem ∈ p.problems (e'.conditions side) ↔ problem ∈ p.problems (e.conditions side)) ∧
    ((∀ side, p.problems (e.conditions side) = []) →
      ∀ e' ∈ (p.repairAll table (ByAction.empty.add action e)).toList,
        e'.disabled = true ∨ ∀ side, p.problems (e'.conditions side) = []) := by
  simp only [mem_repairAll_single]
  refine ⟨fun e' => keepsProblems_of_mem_repairEnabler, fun hvalid e' he' => ?_⟩
  cases henabled : e'.disabled with
  | true => exact .inl rfl
  | false =>
      right
      intro side
      rw [List.eq_nil_iff_forall_not_mem]
      intro problem hproblem
      have hold := (keepsProblems_of_mem_repairEnabler he' henabled side problem).1 hproblem
      rw [hvalid side] at hold
      contradiction

/-! ## Two governments at once -/

def rivals : Enabler := { name := "Act", actor := .ofRequirements [monarchy, monarchy] }

def letters : Obligation := { side := .actor, alternatives := [writing], reason := "of the court" }

theorem rivals_keep_problems :
    (∃ e' ∈ (classic.repairAll (ByAction.empty.add ⟨0⟩ letters)
        (ByAction.empty.add ⟨0⟩ rivals)).toList,
      e'.disabled = false ∧ e' ≠ rivals ∧
        .tooMany (.entity .government) 2 ∈ classic.problems (e'.conditions .actor)) ∧
    (∀ side, classic.problems (({ name := "Act" } : Enabler).conditions side) = []) ∧
    ∀ e' ∈ (classic.repairAll (ByAction.empty.add ⟨0⟩ crownOrLetters)
        (ByAction.empty.add ⟨0⟩ { name := "Act" })).toList,
      e'.disabled = true ∨ ∀ side, classic.problems (e'.conditions side) = [] := by
  have hbare : ∀ side, classic.problems (({ name := "Act" } : Enabler).conditions side) = [] :=
    fun side => by cases side <;> decide
  obtain ⟨hrivals, -⟩ :=
    repairAll_keeps_problems classic (ByAction.empty.add ⟨0⟩ letters) ⟨0⟩ rivals
  obtain ⟨-, hvalid⟩ :=
    repairAll_keeps_problems classic (ByAction.empty.add ⟨0⟩ crownOrLetters) ⟨0⟩ { name := "Act" }
  let learned : Enabler := { rivals with actor := .ofRequirements [monarchy, monarchy, writing] }
  have hlearned : learned ∈ (classic.repairAll (ByAction.empty.add ⟨0⟩ letters)
      (ByAction.empty.add ⟨0⟩ rivals)).toList := by decide
  refine ⟨⟨learned, hlearned, rfl, by decide, ?_⟩, hbare, hvalid hbare⟩
  exact (hrivals learned hlearned rfl .actor _).2 (by decide)

end Standpoint

end Rulebook
