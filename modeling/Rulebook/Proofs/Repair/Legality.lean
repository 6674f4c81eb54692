import Rulebook.Proofs.Evaluation.Met
import Rulebook.Proofs.Implication.Exactness
import Rulebook.Proofs.Repair.Step

/-!
What an action allows, before and after a repair.

Conditions only grow, so what a repaired enabler allows the original allows too.
Conversely a step makes a version for every alternative of its obligation, or
leaves the conditions as they are: where the original allows the action and each
obligation has an alternative that is met, the walk through the obligations can
be followed from one version that allows the action to the next.
-/

namespace Rulebook

namespace Conditions

variable {rs : Ruleset} {s : Situation} {reading : Reading}

theorem areMet_extend_iff {c : Conditions} {added : List Requirement} :
    Requirement.areMet rs (c.extend added).requirements s reading = .ok true ↔
      Requirement.areMet rs c.requirements s reading = .ok true ∧
        ∀ r ∈ added, r.isMet rs s reading = .ok true := by
  simp only [Requirement.areMet_eq_ok_true_iff, requirements_extend, List.forall_mem_append]

end Conditions

namespace Enabler

variable {rs : Ruleset} {place : Side → Situation} {reading : Reading}

def Allows (rs : Ruleset) (place : Side → Situation) (reading : Reading) (e : Enabler) : Prop :=
  ∀ side, Requirement.areMet rs (e.conditions side).requirements (place side) reading = .ok true

theorem Allows.of_conditions_eq {e e' : Enabler}
    (h : ∀ side, e'.conditions side = e.conditions side) (he : e.Allows rs place reading) :
    e'.Allows rs place reading := by
  intro side
  rw [h side]
  exact he side

theorem allows_demand {e : Enabler} {side : Side} {r : Requirement}
    (he : e.Allows rs place reading) (hr : r.isMet rs (place side) reading = .ok true) :
    (e.demand side r).Allows rs place reading := by
  intro other
  by_cases hside : other = side
  · subst hside
    rw [demand, conditions_withConditions, Conditions.push_eq_extend,
      Conditions.areMet_extend_iff]
    exact ⟨he other, by simpa using hr⟩
  · rw [demand, conditions_withConditions_of_ne _ _ hside]
    exact he other

theorem GrownFrom.allows {obligations : List Obligation} {e grown : Enabler}
    (h : GrownFrom obligations e grown) (hgrown : grown.Allows rs place reading) :
    e.Allows rs place reading := by
  intro side
  obtain ⟨added, heq, -⟩ := h side
  have hmet := hgrown side
  rw [heq, Conditions.areMet_extend_iff] at hmet
  exact hmet.1

end Enabler

def Obligation.Met (rs : Ruleset) (place : Side → Situation) (reading : Reading) (o : Obligation) :
    Prop :=
  ∃ r ∈ o.alternatives, r.isMet rs (place o.side) reading = .ok true

namespace Standpoint

variable {p : Standpoint} {place : Side → Situation} {reading : Reading}

/-! ## One step covers what the enabler allows -/

theorem exists_version {e : Enabler} {o : Obligation} {last r : Requirement}
    (hlast : o.alternatives.getLast? = some last) (hr : r ∈ o.alternatives) :
    ∃ name, (({ e with name } : Enabler).demand o.side r, r) ∈
      (e.demand o.side last, last) :: e.clones o := by
  obtain ⟨others, hsplit⟩ := List.getLast?_eq_some_iff.1 hlast
  rw [hsplit, List.mem_append, List.mem_singleton] at hr
  rcases hr with hr | rfl
  · obtain ⟨i, hi⟩ := List.mem_iff_getElem?.1 hr
    refine ⟨e.name ++ " #" ++ Text.ofNat (i + 1), List.mem_cons_of_mem _ ?_⟩
    refine List.mem_map.2 ⟨(r, i), ?_, rfl⟩
    rw [hsplit, List.dropLast_concat]
    exact List.mk_mem_zipIdx_iff_getElem?.2 hi
  · exact ⟨e.name, List.mem_cons_self⟩

theorem exists_mem_comply_allows {e : Enabler} {o : Obligation}
    (he : e.Allows p.ruleset place reading) (ho : o.Met p.ruleset place reading) :
    ∃ middle ∈ (p.comply e o).enablers, middle.Allows p.ruleset place reading := by
  cases p.course e o with
  | kept done result =>
      rw [result]
      exact ⟨e, List.mem_singleton.2 rfl, he⟩
  | switchedOff hopen hunmet stuck reason result =>
      rw [result]
      exact ⟨_, List.mem_singleton.2 rfl, he.of_conditions_eq (Enabler.conditions_switched e true)⟩
  | extended hopen hunmet extensible last hlast result =>
      rw [result]
      obtain ⟨r, hr, hmet⟩ := ho
      obtain ⟨name, hversion⟩ := exists_version (e := e) hlast hr
      refine ⟨_, List.mem_map.2 ⟨_, hversion, rfl⟩, ?_⟩
      have hrenamed : ({ e with name } : Enabler).Allows p.ruleset place reading :=
        he.of_conditions_eq (Enabler.conditions_renamed e name)
      exact (Enabler.allows_demand hrenamed hmet).of_conditions_eq (conditions_vetted _ _)

/-! ## A whole repair -/

theorem exists_mem_repairEnabler_allows {obligations : List Obligation} {e : Enabler}
    (he : e.Allows p.ruleset place reading)
    (hobligations : ∀ o ∈ obligations, o.Met p.ruleset place reading) :
    ∃ e' ∈ (p.repairEnabler obligations e).enablers, e'.Allows p.ruleset place reading := by
  induction obligations generalizing e with
  | nil => exact ⟨e, List.mem_singleton.2 rfl, he⟩
  | cons o rest ih =>
      obtain ⟨middle, hstep, hmiddle⟩ :=
        exists_mem_comply_allows he (hobligations o List.mem_cons_self)
      have hlater : ∀ o' ∈ rest, o'.Met p.ruleset place reading :=
        fun o' ho' => hobligations o' (List.mem_cons_of_mem o ho')
      obtain ⟨e', hrest, he'⟩ := ih hmiddle hlater
      exact ⟨e', mem_repairEnabler_cons.2 ⟨middle, hstep, hrest⟩, he'⟩

theorem mem_repairAll_single {table : ByAction Obligation} {action : Ref Action} {e e' : Enabler} :
    e' ∈ (p.repairAll table (ByAction.empty.add action e)).toList ↔
      e' ∈ (p.repairEnabler (table.forAction action) e).enablers := by
  simp [repairAll, ByAction.map, ByAction.toList, ByAction.add, ByAction.insert, ByAction.empty,
    mem_repairAction]

/-- An enabler is repaired into enablers that can be asked without a misuse.  What one of them
allows the enabler allowed before; and where it allowed the action and each obligation has an
alternative that is met, one of them does, be it one that was switched off. -/
theorem repairAll_allows (p : Standpoint) (table : ByAction Obligation) (action : Ref Action)
    (e : Enabler)
    (he : ∀ side, ∀ r ∈ (e.conditions side).requirements, r.survivesIsLegal = true)
    (hoffers : ∀ o ∈ table.forAction action, ∀ r ∈ o.alternatives, r.survivesIsLegal = true)
    (place : Side → Situation) (reading : Reading) :
    (∀ e' ∈ (p.repairAll table (ByAction.empty.add action e)).toList, ∀ side, ∃ met,
      Requirement.areMet p.ruleset (e'.conditions side).requirements (place side) reading =
        .ok met) ∧
    (∀ e' ∈ (p.repairAll table (ByAction.empty.add action e)).toList,
      e'.Allows p.ruleset place reading → e.Allows p.ruleset place reading) ∧
    (e.Allows p.ruleset place reading →
      (∀ o ∈ table.forAction action, o.Met p.ruleset place reading) →
        ∃ e' ∈ (p.repairAll table (ByAction.empty.add action e)).toList,
          e'.Allows p.ruleset place reading) := by
  simp only [mem_repairAll_single]
  refine ⟨?_, ?_, ?_⟩
  · intro e' he' side
    have hlegal := (grownFrom_of_mem_repairEnabler he').forall_requirements he hoffers
    exact Requirement.exists_areMet (hlegal side) _ _ _
  · intro e' he'
    exact (grownFrom_of_mem_repairEnabler he').allows
  · exact exists_mem_repairEnabler_allows

/-! ## An action for the monarch, and one for those who can write -/

def crownOrLetters : Obligation :=
  { side := .actor, alternatives := [monarchy, writing], reason := "of the court" }

theorem repairAll_allows_monarchy :
    (∀ e' ∈ (classic.repairAll (ByAction.empty.add ⟨0⟩ crownOrLetters)
        (ByAction.empty.add ⟨0⟩ { name := "Act" })).toList, e'.disabled = false) ∧
      writing.isMet classic.ruleset ({} : Scene).situation .certain = .ok false ∧
      ∃ e' ∈ (classic.repairAll (ByAction.empty.add ⟨0⟩ crownOrLetters)
          (ByAction.empty.add ⟨0⟩ { name := "Act" })).toList,
        e'.Allows classic.ruleset (fun _ => ({} : Scene).situation) .certain := by
  have hcrown : crownOrLetters.Met classic.ruleset (fun _ => ({} : Scene).situation) .certain :=
    ⟨monarchy, List.mem_cons_self, rfl⟩
  have hbare : ({ name := "Act" } : Enabler).Allows classic.ruleset
      (fun _ => ({} : Scene).situation) .certain := fun side => by cases side <;> rfl
  refine ⟨by decide, rfl, ?_⟩
  obtain ⟨-, -, hcovered⟩ := repairAll_allows classic (ByAction.empty.add ⟨0⟩ crownOrLetters) ⟨0⟩
    { name := "Act" } (fun side r hr => by cases side <;> contradiction)
    (by decide) (fun _ => ({} : Scene).situation) .certain
  refine hcovered hbare fun o ho => ?_
  rw [List.mem_singleton.1 ho]
  exact hcrown

end Standpoint

end Rulebook
