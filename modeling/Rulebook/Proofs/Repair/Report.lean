import Rulebook.Enabler.Report
import Rulebook.Proofs.Repair.Legality
import Rulebook.Proofs.Repair.Worklist

/-!
What a repair reports, action by action and enabler by enabler.

The report leaves out the actions with nothing recorded, so what it says of an
action is what it lists, or else nothing.  That comes from the enablers and the
obligations of the action alone, and is made up of what each of its enablers would
be reported with if it were the only one.
-/

namespace Rulebook

namespace ByAction

variable {γ : Type}

theorem lookup_eq_some_iff_mem {groups : List (Ref Action × γ)} {action : Ref Action} {x : γ}
    (h : groups.Pairwise (fun a b => a.1.toNat < b.1.toNat)) :
    groups.lookup action = some x ↔ (action, x) ∈ groups := by
  rw [List.lookup_eq_some_iff]
  constructor
  · rintro ⟨before, after, rfl, -⟩
    exact List.mem_append_right _ List.mem_cons_self
  · intro hmem
    obtain ⟨before, after, rfl⟩ := List.append_of_mem hmem
    refine ⟨before, after, rfl, fun group hgroup => ?_⟩
    have hlt := (List.pairwise_append.1 h).2.2 group hgroup _ List.mem_cons_self
    exact bne_iff_ne.2 fun heq => Nat.lt_irrefl _ (heq ▸ hlt)

theorem forAction_of_mem {t : ByAction γ} {action : Ref Action} {members : List γ}
    (h : (action, members) ∈ t.groups) : t.forAction action = members := by
  rw [forAction, (lookup_eq_some_iff_mem t.ascending).2 h, Option.getD_some]

end ByAction

theorem RepairLog.eq_empty_of_isEmpty {log : RepairLog} (h : log.isEmpty = true) : log = {} := by
  obtain ⟨repaired, cloned, disabled⟩ := log
  simpa [isEmpty, and_assoc] using h

def RepairReport.logOf (report : RepairReport) (action : Ref Action) : RepairLog :=
  (report.actions.lookup action).getD {}

namespace Standpoint

variable {p : Standpoint} {table : ByAction Obligation} {enablers : ByAction Enabler}
  {action : Ref Action}

/-! ## The record of an action -/

theorem ascending_report (p : Standpoint) (table : ByAction Obligation)
    (enablers : ByAction Enabler) :
    (p.report table enablers).actions.Pairwise (fun a b => a.1.toNat < b.1.toNat) := by
  refine List.Pairwise.filter _ (List.pairwise_map.2 ?_)
  exact enablers.ascending

theorem mem_report_iff {log : RepairLog} :
    (action, log) ∈ (p.report table enablers).actions ↔
      ∃ members, (action, members) ∈ enablers.groups ∧
        log = (p.repairAction (table.forAction action) members).log ∧ log.isEmpty = false := by
  simp only [report, List.mem_filter, List.mem_map, Prod.exists, Prod.mk.injEq,
    Bool.not_eq_true']
  constructor
  · rintro ⟨⟨key, members, hmem, rfl, rfl⟩, hlog⟩
    exact ⟨members, hmem, rfl, hlog⟩
  · rintro ⟨members, hmem, rfl, hlog⟩
    exact ⟨⟨action, members, hmem, rfl, rfl⟩, hlog⟩

theorem logOf_report (p : Standpoint) (table : ByAction Obligation) (enablers : ByAction Enabler)
    (action : Ref Action) :
    (p.report table enablers).logOf action =
      (p.repairAction (table.forAction action) (enablers.forAction action)).log := by
  unfold RepairReport.logOf
  cases hlisted : (p.report table enablers).actions.lookup action with
  | some log =>
      rw [ByAction.lookup_eq_some_iff_mem (ascending_report p table enablers)] at hlisted
      obtain ⟨members, hmem, rfl, -⟩ := mem_report_iff.1 hlisted
      rw [ByAction.forAction_of_mem hmem, Option.getD_some]
  | none =>
      rw [Option.getD_none]
      cases hgroup : enablers.groups.lookup action with
      | none =>
          have hnobody : enablers.forAction action = [] := by rw [ByAction.forAction, hgroup]; rfl
          rw [hnobody]
          rfl
      | some members =>
          rw [ByAction.lookup_eq_some_iff_mem enablers.ascending] at hgroup
          rw [ByAction.forAction_of_mem hgroup]
          cases hlog : (p.repairAction (table.forAction action) members).log.isEmpty with
          | true => exact (RepairLog.eq_empty_of_isEmpty hlog).symm
          | false =>
              have hmem := mem_report_iff.2 ⟨members, hgroup, rfl, hlog⟩
              rw [← ByAction.lookup_eq_some_iff_mem (ascending_report p table enablers),
                hlisted] at hmem
              contradiction

def repairFor (p : Standpoint) (table : ByAction Obligation) (enablers : ByAction Enabler)
    (action : Ref Action) : Repair where
  enablers := (p.repairAll table enablers).forAction action
  log := (p.report table enablers).logOf action

theorem repairFor_eq_repairAction (p : Standpoint) (table : ByAction Obligation)
    (enablers : ByAction Enabler) (action : Ref Action) :
    p.repairFor table enablers action =
      p.repairAction (table.forAction action) (enablers.forAction action) := by
  rw [repairFor, forAction_repairAll, logOf_report]

/-! ## Enabler by enabler -/

theorem repairFor_single (p : Standpoint) (table : ByAction Obligation) (action : Ref Action)
    (e : Enabler) :
    p.repairFor table (ByAction.empty.add action e) action =
      p.repairEnabler (table.forAction action) e := by
  rw [repairFor_eq_repairAction, ByAction.forAction_add_empty, repairAction, List.map_singleton,
    Repair.join_singleton]

/-- What becomes of the enablers of an action, and what is reported of them, is what becomes of each
of them in a collection of its own, put together in order; the passes over one are over before those
over the next begin.  Other actions have no part in it. -/
theorem repairs_are_independent (p : Standpoint) (table : ByAction Obligation)
    (enablers : ByAction Enabler) (action : Ref Action) :
    p.repairFor table enablers action =
      .join ((enablers.forAction action).map fun e =>
        p.repairFor table (ByAction.empty.add action e) action) ∧
    (∃ passes : Enabler → List Pass,
      (∀ e, p.WorksOff (table.forAction action) [e] (passes e)
        (p.repairFor table (ByAction.empty.add action e) action)) ∧
      p.WorksOff (table.forAction action) (enablers.forAction action)
        ((enablers.forAction action).flatMap passes) (p.repairFor table enablers action)) ∧
    ∀ (table' : ByAction Obligation) (enablers' : ByAction Enabler),
      table'.forAction action = table.forAction action →
        enablers'.forAction action = enablers.forAction action →
          p.repairFor table' enablers' action = p.repairFor table enablers action := by
  refine ⟨?_, ?_, ?_⟩
  · simp only [repairFor_single]
    rw [repairFor_eq_repairAction, repairAction]
  · obtain ⟨passes, hpasses⟩ := exists_clears_repairEnabler p (table.forAction action)
    refine ⟨passes, fun e => ?_, ?_⟩
    · rw [repairFor_single]
      exact (hpasses e).worksOff
    · rw [repairFor_eq_repairAction]
      exact (clears_all fun e _ => hpasses e).worksOff
  · intro table' enablers' htable henablers
    rw [repairFor_eq_repairAction, repairFor_eq_repairAction, htable, henablers]

theorem court_is_independent :
    let court := ByAction.empty.add ⟨0⟩ crownOrLetters
    let acts := ByAction.empty.add ⟨0⟩ ({ name := "Act" } : Enabler)
    let realm := court.add ⟨1⟩ { crownOrLetters with side := .target }
    let plots := acts.add ⟨1⟩ { name := "Plot" }
    realm.forAction ⟨0⟩ = court.forAction ⟨0⟩ ∧ plots.forAction ⟨0⟩ = acts.forAction ⟨0⟩ ∧
      (classic.repairFor court acts ⟨0⟩).enablers.length = 2 ∧
      classic.repairFor realm plots ⟨0⟩ = classic.repairFor court acts ⟨0⟩ := by
  intro court acts realm plots
  obtain ⟨-, -, hothers⟩ := repairs_are_independent classic court acts ⟨0⟩
  exact ⟨rfl, rfl, by decide, hothers _ _ rfl rfl⟩

end Standpoint

end Rulebook
