import Mathlib.Algebra.Order.BigOperators.Group.List
import Mathlib.Algebra.Order.Group.Nat
import Rulebook.Proofs.Repair.Authorship
import Rulebook.Proofs.Repair.Legality
import Rulebook.Proofs.Repair.Worklist

/-!
Repairs end, and make a bounded number of bounded enablers.

The line of waiting enablers grows at a pass that makes clones, so its length says
nothing about the end.  What bounds it is that an enabler and all that is made of
it meet each obligation by one step at most: the versions multiply by its
alternatives, and one requirement is added to each.
-/

namespace Rulebook

namespace Enabler

def size (e : Enabler) : Nat := (e.conditions .actor).size + (e.conditions .target).size

theorem size_eq_of_conditions {e e' : Enabler}
    (h : ∀ side, e'.conditions side = e.conditions side) : e'.size = e.size := by
  simp only [size, h]

theorem size_demand (e : Enabler) (side : Side) (r : Requirement) :
    (e.demand side r).size = e.size + 1 := by
  have hpush : ∀ c : Conditions, (c.push r).size = c.size + 1 := by
    simp [Conditions.size, Conditions.push]
  cases side <;> simp only [size, demand, withConditions, conditions, hpush] <;> omega

end Enabler

namespace Standpoint

variable {p : Standpoint} {obligations : List Obligation}

/-! ## One step -/

theorem length_comply_le (p : Standpoint) (e : Enabler) (o : Obligation) :
    (p.comply e o).enablers.length ≤ max 1 o.alternatives.length := by
  cases p.course e o with
  | kept done result =>
      rw [result]
      exact Nat.le_max_left ..
  | switchedOff hopen hunmet stuck reason result =>
      rw [result]
      exact Nat.le_max_left ..
  | extended hopen hunmet extensible last hlast result =>
      rw [result]
      have hways := List.length_pos_iff.2 (isExtensible_iff.1 extensible).1
      simp only [extension, Enabler.clones, List.length_map, List.length_cons,
        List.length_zipIdx, List.length_dropLast]
      omega

theorem size_le_of_mem_comply {e e' : Enabler} {o : Obligation}
    (h : e' ∈ (p.comply e o).enablers) : e'.size ≤ e.size + 1 := by
  cases outcome_of_mem_comply h with
  | kept => exact Nat.le_succ _
  | switchedOff =>
      rw [Enabler.size_eq_of_conditions (Enabler.conditions_switched e true)]
      exact Nat.le_succ _
  | extended _ _ _ _ name =>
      rw [Enabler.size_eq_of_conditions (conditions_vetted e _), Enabler.size_demand,
        Enabler.size_eq_of_conditions (Enabler.conditions_renamed e name)]

/-! ## A whole repair -/

theorem length_repairEnabler_le (p : Standpoint) (obligations : List Obligation) (e : Enabler) :
    (p.repairEnabler obligations e).enablers.length ≤
      (obligations.map fun o => max 1 o.alternatives.length).prod := by
  induction obligations generalizing e with
  | nil => exact Nat.le_refl 1
  | cons o rest ih =>
      let later := fun middle => (p.repairEnabler rest middle).enablers.length
      let bound := (rest.map fun o => max 1 o.alternatives.length).prod
      have hlater : ∀ n ∈ (p.comply e o).enablers.map later, n ≤ bound := by simp [later, bound, ih]
      calc
        (p.repairEnabler (o :: rest) e).enablers.length
            = ((p.comply e o).enablers.map later).sum := by
              rw [enablers_repairEnabler_cons, List.length_flatMap]
        _ ≤ (p.comply e o).enablers.length * bound := by
              simpa using List.sum_le_card_nsmul _ bound hlater
        _ ≤ max 1 o.alternatives.length * bound :=
              Nat.mul_le_mul_right bound (length_comply_le p e o)
        _ = ((o :: rest).map fun o => max 1 o.alternatives.length).prod := by
              rw [List.map_cons, List.prod_cons]

theorem size_le_of_mem_repairEnabler {e e' : Enabler}
    (h : e' ∈ (p.repairEnabler obligations e).enablers) :
    e'.size ≤ e.size + obligations.length := by
  induction obligations generalizing e with
  | nil =>
      rw [List.mem_singleton.1 h]
      exact Nat.le_refl _
  | cons o rest ih =>
      obtain ⟨middle, hstep, hrest⟩ := mem_repairEnabler_cons.1 h
      have hmiddle := size_le_of_mem_comply hstep
      have hlater := ih hrest
      rw [List.length_cons]
      omega

theorem exists_added {e e' : Enabler} (h : e' ∈ (p.repairEnabler obligations e).enablers) :
    ∃ added : Side → List Requirement,
      (∀ side, e'.conditions side = (e.conditions side).extend (added side)) ∧
      (added .actor).length + (added .target).length ≤ obligations.length := by
  choose added hadded _ using grownFrom_of_mem_repairEnabler h
  refine ⟨added, hadded, ?_⟩
  have hsize : ∀ side, (e'.conditions side).size =
      (e.conditions side).size + (added side).length := by
    intro side
    simp [hadded side, Conditions.size, Conditions.extend, Conditions.ofRequirements]
  have hle := size_le_of_mem_repairEnabler h
  simp only [Enabler.size, hsize] at hle
  omega

/-- What is made of an enabler when it is worked off. -/
structure Yields (p : Standpoint) (obligations : List Obligation) (e : Enabler)
    (family : List Enabler) : Prop where
  worked : ∃ passes log, p.WorksOff obligations [e] passes ⟨family, log⟩
  nonempty : 1 ≤ family.length
  length_le : family.length ≤ (obligations.map fun o => max 1 o.alternatives.length).prod
  added_le : ∀ e' ∈ family, ∃ added : Side → List Requirement,
    (∀ side, e'.conditions side = (e.conditions side).extend (added side)) ∧
    (added .actor).length + (added .target).length ≤ obligations.length

theorem yields_repairEnabler (p : Standpoint) (obligations : List Obligation) (e : Enabler) :
    p.Yields obligations e (p.repairEnabler obligations e).enablers where
  worked := by
    obtain ⟨passes, hpasses⟩ := exists_clears_repairEnabler p obligations
    exact ⟨passes e, _, (hpasses e).worksOff⟩
  nonempty := List.length_pos_iff.2 (repairEnabler_ne_nil p obligations e)
  length_le := length_repairEnabler_le p obligations e
  added_le _ := exists_added

/-- There is one way to work off the enablers of an action, and it makes the repair: for each of
them, in order, a family of at least one and at most as many as there are choices of alternatives,
in which nothing gets more requirements than there are obligations. -/
theorem worklist_ends (p : Standpoint) (obligations : List Obligation) (enablers : List Enabler) :
    ∃ passes families,
      (∀ run : List Pass × Repair, p.WorksOff obligations enablers run.1 run.2 ↔
        run = (passes, p.repairAction obligations enablers)) ∧
      (p.repairAction obligations enablers).enablers = families.flatten ∧
      List.Forall₂ (p.Yields obligations) enablers families := by
  obtain ⟨passes, hpasses⟩ := exists_worksOff p obligations enablers
  refine ⟨passes, enablers.map fun e => (p.repairEnabler obligations e).enablers, ?_, ?_, ?_⟩
  · rintro ⟨passes', repair⟩
    constructor
    · intro run
      obtain ⟨rfl, rfl⟩ := run.unique hpasses
      rfl
    · intro heq
      cases heq
      exact hpasses
  · rw [enablers_repairAction, List.flatMap_def]
  · rw [List.forall₂_map_right_iff, List.forall₂_same]
    exact fun e _ => yields_repairEnabler p obligations e

example :
    (classic.repairAction [crownOrLetters, { crownOrLetters with side := .target }]
      [{ name := "Act" }]).enablers.length = 4 := by decide

end Standpoint

end Rulebook
