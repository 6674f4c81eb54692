import Mathlib.Data.List.Count
import Rulebook.Proofs.Repair.Report

/-!
The report of a repair accounts for all that has changed.

Records are written in the middle of the work, some about versions that are not
yet in the list of those done.  So the count is kept over the enablers that are
done and those that wait together: there every pass adds as many enablers as it
records clones, and switches off as many as it records.  At the end nothing waits
and the count is about the enablers that are handed back.
-/

namespace Rulebook

namespace RepairLog

theorem isEmpty_append {a b : RepairLog} :
    (a ++ b).isEmpty = true ↔ a.isEmpty = true ∧ b.isEmpty = true := by
  change isEmpty ⟨_, _, _⟩ = true ↔ _
  simp only [isEmpty, Bool.and_eq_true, List.isEmpty_iff, List.append_eq_nil_iff]
  tauto

theorem isEmpty_join {logs : List RepairLog} :
    (join logs).isEmpty = true ↔ ∀ log ∈ logs, log.isEmpty = true := by
  simp only [join, isEmpty, Bool.and_eq_true, List.isEmpty_iff,
    List.flatMap_eq_nil_iff]
  exact ⟨fun h log hlog => ⟨⟨h.1.1 log hlog, h.1.2 log hlog⟩, h.2 log hlog⟩,
    fun h => ⟨⟨fun log hlog => (h log hlog).1.1, fun log hlog => (h log hlog).1.2⟩,
      fun log hlog => (h log hlog).2⟩⟩

end RepairLog

/-- The records tally with the change from some enablers to others, made in a number of passes that
extended one. -/
structure Accounts (p : Standpoint) (obligations : List Obligation) (before after : List Enabler)
    (log : RepairLog) (extensions : Nat) : Prop where
  clones : after.length = before.length + log.cloned.length
  switches : after.countP (·.disabled) = before.countP (·.disabled) + log.disabled.length
  additions : log.repaired.length = log.cloned.length + extensions
  offered : ∀ entry ∈ log.repaired, ∃ o ∈ obligations, entry.side = o.side ∧
    ∃ r ∈ o.alternatives, entry.added = r.toEntry p.ruleset

namespace Accounts

variable {p : Standpoint} {obligations : List Obligation}
  {before middle after : List Enabler} {log later : RepairLog} {m n : Nat}

theorem refl (p : Standpoint) (obligations : List Obligation) (enablers : List Enabler) :
    Accounts p obligations enablers enablers {} 0 :=
  ⟨rfl, rfl, rfl, by simp⟩

theorem trans (first : Accounts p obligations before middle log m)
    (second : Accounts p obligations middle after later n) :
    Accounts p obligations before after (log ++ later) (m + n) where
  clones := by
    change _ = _ + (log.cloned ++ later.cloned).length
    rw [second.clones, first.clones, List.length_append, Nat.add_assoc]
  switches := by
    change _ = _ + (log.disabled ++ later.disabled).length
    rw [second.switches, first.switches, List.length_append, Nat.add_assoc]
  additions := by
    change (log.repaired ++ later.repaired).length = (log.cloned ++ later.cloned).length + _
    rw [List.length_append, List.length_append, first.additions, second.additions]
    omega
  offered entry hentry := by
    rcases List.mem_append.1 hentry with hentry | hentry
    · exact first.offered entry hentry
    · exact second.offered entry hentry

theorem frame (left right : List Enabler) (h : Accounts p obligations before after log n) :
    Accounts p obligations (left ++ (before ++ right)) (left ++ (after ++ right)) log n where
  clones := by
    simp only [List.length_append, h.clones]
    omega
  switches := by
    simp only [List.countP_append, h.switches]
    omega
  additions := h.additions
  offered := h.offered

end Accounts

namespace Standpoint

variable {p : Standpoint} {obligations : List Obligation}

/-! ## One pass -/

theorem disabled_vetted {before after : Enabler} (h : after.disabled = false) :
    (p.vetted before after).disabled = (p.introduced? before after).isSome := by
  unfold vetted
  split
  · next hnew => exact hnew.symm
  · next hnew => simpa [h] using hnew

theorem disabled_of_mem_versions {e version : Enabler} {o : Obligation} {last r : Requirement}
    (h : (version, r) ∈ (e.demand o.side last, last) :: e.clones o) :
    version.disabled = e.disabled := by
  have hdemand : ∀ (e : Enabler) (r : Requirement), (e.demand o.side r).disabled = e.disabled :=
    fun e r => by cases o.side <;> rfl
  rcases List.mem_cons.1 h with h | h
  · cases h
    exact hdemand e last
  · obtain ⟨-, name, rfl⟩ := mem_clones h
    exact hdemand _ r

theorem accounts_switchedOff {e : Enabler} (hopen : e.disabled = false) (reason : String) :
    Accounts p obligations [e] (e.switchedOff reason).enablers (e.switchedOff reason).log 0 where
  clones := rfl
  switches := by simp [Enabler.switchedOff, hopen]
  additions := rfl
  offered entry hentry := by simp [Enabler.switchedOff] at hentry

theorem accounts_extension {e : Enabler} {o : Obligation} {last : Requirement}
    (ho : o ∈ obligations) (hopen : e.disabled = false)
    (hlast : o.alternatives.getLast? = some last) :
    Accounts p obligations [e] (p.extension e o last).enablers (p.extension e o last).log 1 := by
  have hopen' : ∀ version ∈ (e.demand o.side last, last) :: e.clones o,
      version.1.disabled = false :=
    fun version hversion => (disabled_of_mem_versions hversion).trans hopen
  constructor
  · simp [extension, extensionLog, Nat.add_comm]
  · -- Versions that bring a problem are switched off and recorded, if in another order.
    simp only [extension, extensionLog, List.countP_map, List.length_filterMap_eq_countP,
      List.countP_reverse, List.countP_singleton, hopen, Bool.false_eq_true, if_false,
      Nat.zero_add, Option.isSome_map]
    refine List.countP_congr fun version hversion => ?_
    rw [Function.comp_apply, disabled_vetted (hopen' version hversion)]
  · simp [extension, extensionLog]
  · intro entry hentry
    simp only [extension, extensionLog, List.mem_map, Prod.exists] at hentry
    obtain ⟨version, r, hversion, rfl⟩ := hentry
    refine ⟨o, ho, rfl, r, ?_, rfl⟩
    rcases List.mem_append.1 hversion with hversion | hversion
    · exact (mem_clones hversion).1
    · cases List.mem_singleton.1 hversion
      exact List.mem_of_getLast? hlast

theorem accounts_advance {w w' : Worklist} {pass : Pass}
    (h : p.advance? obligations w = some (pass, w')) :
    ∃ log, w'.log = w.log ++ log ∧
      Accounts p obligations (w.done ++ w.waiting) (w'.done ++ w'.waiting) log
        ([pass].count .extended) := by
  obtain ⟨waiting, done, log⟩ := w
  cases waiting with
  | nil => simp [advance?] at h
  | cons e others =>
      cases hdue : p.due? obligations e with
      | none =>
          rw [advance?_of_complies (due?_eq_none_iff.1 hdue)] at h
          cases h
          refine ⟨{}, (RepairLog.append_empty log).symm, ?_⟩
          rw [List.append_assoc]
          exact .refl p obligations _
      | some o =>
          obtain ⟨hopen, hunmet, ho⟩ := of_due? hdue
          cases p.course e o with
          | kept done _ => simp [hopen, hunmet] at done
          | switchedOff _ _ stuck reason result =>
              rw [advance?_of_stuck hdue stuck, result] at h
              cases h
              refine ⟨_, rfl, ?_⟩
              rw [List.append_assoc]
              exact (accounts_switchedOff hopen reason).frame done others
          | extended _ _ extensible last hlast result =>
              rw [advance?_of_extensible hdue extensible, result] at h
              cases h
              exact ⟨_, rfl, (accounts_extension ho hopen hlast).frame done others⟩

/-! ## A whole run -/

theorem Runs.accounts {w final : Worklist} {passes : List Pass}
    (run : p.Runs obligations w passes final) :
    ∃ log, final.log = w.log ++ log ∧
      Accounts p obligations (w.done ++ w.waiting) (final.done ++ final.waiting) log
        (passes.count .extended) := by
  induction run with
  | refl w => exact ⟨{}, (RepairLog.append_empty _).symm, .refl p obligations _⟩
  | @next w middle final pass passes step _ ih =>
      obtain ⟨log, hlog, first⟩ := accounts_advance step
      obtain ⟨later, hlater, second⟩ := ih
      refine ⟨log ++ later, by rw [hlater, hlog, RepairLog.append_assoc], ?_⟩
      rw [← List.singleton_append, List.count_append]
      exact first.trans second

theorem WorksOff.accounts {enablers : List Enabler} {passes : List Pass} {repair : Repair}
    (run : p.WorksOff obligations enablers passes repair) :
    Accounts p obligations enablers repair.enablers repair.log (passes.count .extended) := by
  obtain ⟨log, hlog, accounts⟩ := Runs.accounts run
  rw [RepairLog.empty_append] at hlog
  obtain rfl : repair.log = log := hlog
  simpa using accounts

/-! ## What is listed -/

theorem done_of_isEmpty_comply {e : Enabler} {o : Obligation}
    (h : (p.comply e o).log.isEmpty = true) : e.disabled = true ∨ p.fulfils e o = true := by
  cases p.course e o with
  | kept done _ => exact done
  | switchedOff _ _ _ reason result =>
      rw [result] at h
      contradiction
  | extended _ _ _ last _ result =>
      rw [result] at h
      simp [RepairLog.isEmpty, extension, extensionLog] at h

theorem complies_of_isEmpty_repairEnabler {e : Enabler}
    (h : (p.repairEnabler obligations e).log.isEmpty = true) : p.Complies obligations e := by
  induction obligations generalizing e with
  | nil => exact .inr (by simp)
  | cons o rest ih =>
      have hstep := h
      rw [repairEnabler, RepairLog.isEmpty_append] at hstep
      have hdone := done_of_isEmpty_comply hstep.1
      rw [repairEnabler_of_done hdone] at h
      rcases hdone with hoff | hmet
      · exact .inl hoff
      · exact (ih h).imp id fun hall => List.forall_mem_cons.2 ⟨hmet, hall⟩

theorem isEmpty_log_repairAction_iff {enablers : List Enabler} :
    (p.repairAction obligations enablers).log.isEmpty = true ↔
      (p.repairAction obligations enablers).enablers = enablers := by
  constructor
  · intro h
    simp only [repairAction, Repair.join, RepairLog.isEmpty_join, List.forall_mem_map] at h
    rw [repairAction_of_complies fun e he => complies_of_isEmpty_repairEnabler (h e he)]
  · intro h
    have hcomply : ∀ e ∈ enablers, p.Complies obligations e := fun e he =>
      complies_of_mem_repairAction (h.symm ▸ he)
    rw [repairAction_of_complies hcomply]
    rfl

theorem mem_actions_report_iff {table : ByAction Obligation} {enablers : ByAction Enabler}
    {action : Ref Action} :
    action ∈ (p.report table enablers).actions.map (·.1) ↔
      (p.repairFor table enablers action).log.isEmpty = false := by
  simp only [List.mem_map, Prod.exists, exists_and_right, exists_eq_right]
  constructor
  · rintro ⟨log, hmem⟩
    obtain ⟨members, hgroup, rfl, hlog⟩ := mem_report_iff.1 hmem
    rwa [repairFor_eq_repairAction, ByAction.forAction_of_mem hgroup]
  · intro hlog
    cases hlisted : (p.report table enablers).actions.lookup action with
    | none => simp [repairFor, RepairReport.logOf, hlisted, RepairLog.isEmpty] at hlog
    | some log =>
        exact ⟨log, (ByAction.lookup_eq_some_iff_mem (ascending_report p table enablers)).1 hlisted⟩

/-- The report lists the actions whose enablers have changed, each once and in order.  The records
of an action, none if it is not listed, tally with the change: there are as many more enablers as
clones, as many more switched off as are reported so, and beside one addition for each clone one for
each pass that extended an enabler; what is added is an alternative that an obligation asks for on
that side. -/
theorem report_accounts (p : Standpoint) (table : ByAction Obligation)
    (enablers : ByAction Enabler) :
    ((p.report table enablers).actions.map (·.1)).Pairwise (fun a b => a.toNat < b.toNat) ∧
    ∀ action,
      (action ∈ (p.report table enablers).actions.map (·.1) ↔
        (p.repairAll table enablers).forAction action ≠ enablers.forAction action) ∧
      ∃ passes,
        p.WorksOff (table.forAction action) (enablers.forAction action) passes
          (p.repairFor table enablers action) ∧
        Accounts p (table.forAction action) (enablers.forAction action)
          ((p.repairAll table enablers).forAction action)
          ((p.report table enablers).logOf action) (passes.count .extended) := by
  refine ⟨List.pairwise_map.2 (ascending_report p table enablers), fun action => ⟨?_, ?_⟩⟩
  · rw [mem_actions_report_iff, repairFor_eq_repairAction, forAction_repairAll,
      ← Bool.not_eq_true, isEmpty_log_repairAction_iff]
  · obtain ⟨passes, run⟩ :=
      exists_worksOff p (table.forAction action) (enablers.forAction action)
    rw [← repairFor_eq_repairAction] at run
    exact ⟨passes, run, run.accounts⟩

end Standpoint

end Rulebook
