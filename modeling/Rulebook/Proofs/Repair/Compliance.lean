import Rulebook.Enabler.Report
import Rulebook.Proofs.Repair.Step

/-!
After a repair every enabler is switched off or meets the obligations of its
action, and repairing again finds nothing to do.

An obligation once met stays met, since conditions only grow; a step deals with
its own obligation, so the walk through the obligations leaves none open.  On an
enabler that complies the walk is idle, and so is its log.
-/

namespace Rulebook

/-! ## Groups of actions -/

namespace ByAction

variable {α β : Type}

theorem forAction_map (f : Ref Action → List α → List β) (hf : ∀ action, f action [] = [])
    (t : ByAction α) (action : Ref Action) :
    (t.map f).forAction action = f action (t.forAction action) := by
  obtain ⟨groups, ascending⟩ := t
  simp only [map, forAction]
  clear ascending
  induction groups with
  | nil => simp [hf]
  | cons group rest ih =>
      obtain ⟨key, members⟩ := group
      by_cases hkey : action == key
      · simp only [List.map_cons, List.lookup_cons, hkey, Option.getD_some]
        rw [beq_iff_eq.1 hkey]
      · simpa [List.lookup_cons, hkey] using ih

theorem forAction_add_empty (action : Ref Action) (a : α) :
    (empty.add action a).forAction action = [a] := by
  simp [forAction, add, insert, empty]

theorem eq_of_groups {t u : ByAction α} (h : t.groups = u.groups) : t = u := by
  cases t
  cases u
  cases h
  rfl

theorem map_eq_self {f : Ref Action → List α → List α} {t : ByAction α}
    (h : ∀ group ∈ t.groups, f group.1 group.2 = group.2) : t.map f = t := by
  apply eq_of_groups
  have hgroup : ∀ group ∈ t.groups, (group.1, f group.1 group.2) = group := by
    intro group hmem
    rw [h group hmem]
  calc
    t.groups.map (fun group => (group.1, f group.1 group.2))
        = t.groups.map id := List.map_congr_left hgroup
    _ = t.groups := List.map_id _

end ByAction

/-! ## Records put together -/

namespace RepairLog

theorem append_assoc (a b c : RepairLog) : a ++ b ++ c = a ++ (b ++ c) := by
  change RepairLog.mk _ _ _ = RepairLog.mk _ _ _
  simp only [RepairLog.mk.injEq]
  exact ⟨List.append_assoc .., List.append_assoc .., List.append_assoc ..⟩

theorem append_empty (a : RepairLog) : a ++ ({} : RepairLog) = a := by
  change RepairLog.mk _ _ _ = a
  simp

theorem empty_append (a : RepairLog) : ({} : RepairLog) ++ a = a := rfl

end RepairLog

namespace Repair

theorem join_nil : join [] = { enablers := [] } := rfl

theorem join_cons (first : Repair) (rest : List Repair) :
    join (first :: rest) =
      ⟨first.enablers ++ (join rest).enablers, first.log ++ (join rest).log⟩ := rfl

theorem join_singleton (r : Repair) : join [r] = r := by
  rw [join_cons, join_nil, List.append_nil, RepairLog.append_empty]

end Repair

namespace Standpoint

variable {p : Standpoint} {obligations : List Obligation}

def Complies (p : Standpoint) (obligations : List Obligation) (e : Enabler) : Prop :=
  e.disabled = true ∨ ∀ o ∈ obligations, p.fulfils e o = true

theorem missing?_eq_none_iff {e : Enabler} :
    p.missing? e obligations = none ↔ ∀ o ∈ obligations, p.fulfils e o = true := by
  simp [missing?]

/-! ## A repair leaves nothing open -/

theorem comply_of_done {e : Enabler} {o : Obligation}
    (h : e.disabled = true ∨ p.fulfils e o = true) : p.comply e o = { enablers := [e] } := by
  unfold comply
  rw [if_pos (by simpa using h)]

theorem repairEnabler_of_done {e : Enabler} {o : Obligation} {rest : List Obligation}
    (h : e.disabled = true ∨ p.fulfils e o = true) :
    p.repairEnabler (o :: rest) e = p.repairEnabler rest e := by
  rw [repairEnabler, comply_of_done h]
  exact Repair.join_singleton _

theorem repairEnabler_of_complies {e : Enabler} (h : p.Complies obligations e) :
    p.repairEnabler obligations e = { enablers := [e] } := by
  induction obligations with
  | nil => rfl
  | cons o rest ih =>
      have hstep : e.disabled = true ∨ p.fulfils e o = true :=
        h.imp id fun met => met o List.mem_cons_self
      have hrest : p.Complies rest e :=
        h.imp id fun met o' ho' => met o' (List.mem_cons_of_mem o ho')
      rw [repairEnabler_of_done hstep, ih hrest]

theorem complies_of_mem_repairEnabler {e e' : Enabler}
    (h : e' ∈ (p.repairEnabler obligations e).enablers) : p.Complies obligations e' := by
  induction obligations generalizing e with
  | nil => exact .inr (by simp)
  | cons o rest ih =>
      obtain ⟨middle, hstep, hrest⟩ := mem_repairEnabler_cons.1 h
      rcases (outcome_of_mem_comply hstep).disabled_or_fulfils with hoff | hmet
      · have hidle : p.repairEnabler rest middle = { enablers := [middle] } :=
          repairEnabler_of_complies (.inl hoff)
        rw [hidle, List.mem_singleton] at hrest
        rw [hrest]
        exact .inl hoff
      · rcases ih hrest with hoff | hmet'
        · exact .inl hoff
        · right
          intro o' ho'
          rcases List.mem_cons.1 ho' with rfl | ho'
          · exact fulfils_of_grownFrom (grownFrom_of_mem_repairEnabler hrest) hmet
          · exact hmet' o' ho'

theorem complies_of_mem_repairAction {enablers : List Enabler} {e' : Enabler}
    (h : e' ∈ (p.repairAction obligations enablers).enablers) : p.Complies obligations e' := by
  obtain ⟨e, -, he'⟩ := mem_repairAction.1 h
  exact complies_of_mem_repairEnabler he'

/-! ## Where all comply there is nothing to do -/

theorem join_idle (enablers : List Enabler) :
    Repair.join (enablers.map fun e => { enablers := [e] }) = { enablers } := by
  simp [Repair.join, RepairLog.join, List.flatMap_map, Function.comp_def]

theorem repairAction_of_complies {enablers : List Enabler}
    (h : ∀ e ∈ enablers, p.Complies obligations e) :
    p.repairAction obligations enablers = { enablers } := by
  have hmap : enablers.map (p.repairEnabler obligations) =
      enablers.map fun e => { enablers := [e] } :=
    List.map_congr_left fun e he => repairEnabler_of_complies (h e he)
  rw [repairAction, hmap, join_idle]

theorem repairAction_repairAction (obligations : List Obligation) (enablers : List Enabler) :
    p.repairAction obligations (p.repairAction obligations enablers).enablers =
      { enablers := (p.repairAction obligations enablers).enablers } :=
  repairAction_of_complies fun _ h => complies_of_mem_repairAction h

theorem forAction_repairAll (table : ByAction Obligation) (enablers : ByAction Enabler)
    (action : Ref Action) :
    (p.repairAll table enablers).forAction action =
      (p.repairAction (table.forAction action) (enablers.forAction action)).enablers :=
  ByAction.forAction_map _ (fun _ => rfl) enablers action

theorem mem_groups_repairAll {table : ByAction Obligation} {enablers : ByAction Enabler}
    {group : Ref Action × List Enabler} (h : group ∈ (p.repairAll table enablers).groups) :
    ∃ members, group.2 = (p.repairAction (table.forAction group.1) members).enablers := by
  simp only [repairAll, ByAction.map, List.mem_map] at h
  obtain ⟨old, -, rfl⟩ := h
  exact ⟨old.2, rfl⟩

/-- Every enabler of a repaired collection is switched off or misses no obligation of its action,
and a second repair reports nothing and changes nothing. -/
theorem repairAll_settles (p : Standpoint) (table : ByAction Obligation)
    (enablers : ByAction Enabler) :
    (∀ action, ∀ e ∈ (p.repairAll table enablers).forAction action,
      e.disabled = true ∨ p.missing? e (table.forAction action) = none) ∧
    (p.report table (p.repairAll table enablers)).isEmpty = true ∧
    p.repairAll table (p.repairAll table enablers) = p.repairAll table enablers := by
  refine ⟨?_, ?_, ?_⟩
  · intro action e he
    rw [forAction_repairAll] at he
    rw [missing?_eq_none_iff]
    exact complies_of_mem_repairAction he
  · simp only [RepairReport.isEmpty, report, List.isEmpty_iff, List.filter_eq_nil_iff,
      List.mem_map]
    rintro entry ⟨group, hgroup, rfl⟩
    obtain ⟨members, hmembers⟩ := mem_groups_repairAll hgroup
    simp only [hmembers, repairAction_repairAction]
    decide
  · apply ByAction.map_eq_self
    intro group hgroup
    obtain ⟨members, hmembers⟩ := mem_groups_repairAll hgroup
    rw [hmembers, repairAction_repairAction]

end Standpoint

end Rulebook
