import Rulebook.Proofs.Quiet.Judgement
import Rulebook.Proofs.Repair.Authorship
import Rulebook.Proofs.Repair.Legality

/-!
A repair does not look at what is left out of help texts.

What it does to an enabler are changes: a name, a switch, and requirements added
at the end of each side.  Which changes, and what is recorded of them, is decided
by what the enabler shows.  So collections that show the same are repaired in the
same way, and differ afterwards where they differed before: in what was written.
-/

namespace Rulebook

@[simp] theorem Conditions.shown_shown (c : Conditions) : c.shown.shown = c.shown := by
  simp [shown, Condition.shown, Requirement.shown]

theorem Conditions.shown_extend (c : Conditions) (added : List Requirement) :
    (c.extend added).shown = c.shown.extend (added.map Requirement.shown) := by
  simp [shown, extend, ofRequirements, Condition.shown]

/-! ## Changes of enablers -/

namespace Enabler

def shown (e : Enabler) : Enabler := { e with actor := e.actor.shown, target := e.target.shown }

@[simp] theorem conditions_shown (e : Enabler) (side : Side) :
    e.shown.conditions side = (e.conditions side).shown := by
  cases side <;> rfl

@[simp] theorem name_shown (e : Enabler) : e.shown.name = e.name := rfl

@[simp] theorem disabled_shown (e : Enabler) : e.shown.disabled = e.disabled := rfl

@[simp] theorem shown_shown (e : Enabler) : e.shown.shown = e.shown := by
  simp [shown]

/-- What a repair does to an enabler; no requirement is taken away or touched. -/
structure Change where
  name : String
  added : Side → List Requirement := fun _ => []
  disabled : Bool

def changed (e : Enabler) (change : Change) : Enabler where
  name := change.name
  actor := e.actor.extend (change.added .actor)
  target := e.target.extend (change.added .target)
  disabled := change.disabled

@[simp] theorem name_changed (e : Enabler) (change : Change) :
    (e.changed change).name = change.name := rfl

def Change.andThen (first second : Change) : Change :=
  { second with added := fun side => first.added side ++ second.added side }

theorem changed_changed (e : Enabler) (first second : Change) :
    (e.changed first).changed second = e.changed (first.andThen second) := by
  simp [changed, Change.andThen, Conditions.extend_extend]

theorem changed_unchanged (e : Enabler) (disabled : Bool) :
    e.changed { name := e.name, disabled } = { e with disabled } := by
  simp [changed]

theorem shown_changed (e : Enabler) (change : Change) :
    (e.shown.changed change).shown = (e.changed change).shown := by
  simp [shown, changed, Conditions.shown_extend]

def demandChange (e : Enabler) (name : String) (side : Side) (r : Requirement) : Change where
  name := name
  added other := if other = side then [r] else []
  disabled := e.disabled

theorem demand_renamed (e : Enabler) (name : String) (side : Side) (r : Requirement) :
    ({ e with name } : Enabler).demand side r = e.changed (e.demandChange name side r) := by
  cases side <;>
    simp [demand, withConditions, conditions, changed, demandChange, Conditions.push_eq_extend]

theorem demandChange_shown (e : Enabler) (side : Side) (r : Requirement) :
    e.shown.demandChange e.shown.name side r = e.demandChange e.name side r := rfl

def cloneChanges (e : Enabler) (o : Obligation) : List (Change × Requirement) :=
  o.alternatives.dropLast.zipIdx.map fun (r, i) =>
    (e.demandChange (e.name ++ " #" ++ Text.ofNat (i + 1)) o.side r, r)

theorem cloneChanges_shown (e : Enabler) (o : Obligation) :
    e.shown.cloneChanges o = e.cloneChanges o := rfl

theorem clones_eq_changed (e : Enabler) (o : Obligation) :
    e.clones o = (e.cloneChanges o).map fun (change, r) => (e.changed change, r) := by
  simp [clones, cloneChanges, demand_renamed]

end Enabler

/-! ## One step -/

namespace Standpoint

open Enabler

variable {p : Standpoint}

theorem fulfils_shown (e : Enabler) (o : Obligation) : p.fulfils e.shown o = p.fulfils e o := by
  simp only [fulfils, conditions_shown, funext (implies_shown_left (p := p) (e.conditions o.side))]

theorem suggestions_shown (e : Enabler) (o : Obligation) :
    p.suggestions e.shown o = p.suggestions e o := by
  simp only [suggestions, conditions_shown, conflicting_shown]

theorem introduced?_shown (before after : Enabler) :
    p.introduced? before.shown after.shown = p.introduced? before after := by
  simp only [introduced?, problems, conditions_shown, Conditions.problems_shown]

theorem introduced?_changed (e : Enabler) (change : Change) :
    p.introduced? e.shown (e.shown.changed change) = p.introduced? e (e.changed change) := by
  rw [← introduced?_shown e, ← introduced?_shown e.shown, shown_changed, shown_shown]

def vettedChange (p : Standpoint) (e : Enabler) (change : Change) : Change :=
  if (p.introduced? e (e.changed change)).isSome then { change with disabled := true } else change

theorem vetted_changed (e : Enabler) (change : Change) :
    p.vetted e (e.changed change) = e.changed (p.vettedChange e change) := by
  unfold vetted vettedChange
  split <;> rfl

theorem vettedChange_shown (e : Enabler) (change : Change) :
    p.vettedChange e.shown change = p.vettedChange e change := by
  simp only [vettedChange, introduced?_changed]

end Standpoint

/-! ## Repairs that do not look -/

/-- What an enabler shows decides the changes that are made of it and what is recorded. -/
def Blind (repair : Enabler → Repair) : Prop :=
  ∃ (changes : Enabler → List Enabler.Change) (log : Enabler → RepairLog), ∀ e,
    repair e = { enablers := (changes e.shown).map e.changed, log := log e.shown }

namespace Blind

open Enabler

variable {first second : Enabler → Repair}

theorem idle : Blind fun e => { enablers := [e] } := by
  refine ⟨fun x => [{ name := x.name, disabled := x.disabled }], fun _ => {}, fun e => ?_⟩
  simp [changed_unchanged]

theorem switchedOff (reason : String) : Blind fun e => e.switchedOff reason := by
  refine ⟨fun x => [{ name := x.name, disabled := true }],
    fun x => { disabled := [{ name := x.name, reason }] }, fun e => ?_⟩
  simp [Enabler.switchedOff, changed_unchanged]

theorem ite {guard : Enabler → Bool} (hguard : ∀ e, guard e.shown = guard e)
    (hfirst : Blind first) (hsecond : Blind second) :
    Blind fun e => if guard e then first e else second e := by
  obtain ⟨changes, log, hfirst⟩ := hfirst
  obtain ⟨changes', log', hsecond⟩ := hsecond
  refine ⟨fun x => if guard x then changes x else changes' x,
    fun x => if guard x then log x else log' x, fun e => ?_⟩
  cases h : guard e <;> simp [hguard, h, hfirst, hsecond]

theorem andThen (hfirst : Blind first) (hsecond : Blind second) :
    Blind fun e =>
      let later := Repair.join ((first e).enablers.map second)
      { enablers := later.enablers, log := (first e).log ++ later.log } := by
  obtain ⟨changes, log, hfirst⟩ := hfirst
  obtain ⟨changes', log', hsecond⟩ := hsecond
  -- The second repair sees what the first has made of the enabler that is shown.
  refine ⟨fun x => (changes x).flatMap fun c => (changes' (x.changed c).shown).map c.andThen,
    fun x => log x ++ .join ((changes x).map fun c => log' (x.changed c).shown), fun e => ?_⟩
  simp [hfirst, hsecond, Repair.join, shown_changed, ← changed_changed, List.flatMap_map,
    List.map_flatMap, Function.comp_def]

theorem log_shown {repair : Enabler → Repair} (h : Blind repair) (e : Enabler) :
    (repair e.shown).log = (repair e).log := by
  obtain ⟨changes, log, h⟩ := h
  rw [h e.shown, h e, shown_shown]

theorem map_shown_enablers {repair : Enabler → Repair} (h : Blind repair) (e : Enabler) :
    (repair e.shown).enablers.map shown = (repair e).enablers.map shown := by
  obtain ⟨changes, log, h⟩ := h
  simp [h e.shown, h e, shown_changed, Function.comp_def]

end Blind

namespace Standpoint

open Enabler

variable {p : Standpoint}

theorem extensionLog_shown (e : Enabler) (o : Obligation) (change : Change) (last : Requirement)
    (cloned : List (Change × Requirement)) :
    p.extensionLog e.shown o (e.shown.changed change, last)
        (cloned.map fun (change, r) => (e.shown.changed change, r)) =
      p.extensionLog e o (e.changed change, last)
        (cloned.map fun (change, r) => (e.changed change, r)) := by
  simp [extensionLog, introduced?_changed, List.filterMap_reverse, List.filterMap_cons,
    List.filterMap_map, Function.comp_def]

theorem blind_extend (p : Standpoint) (o : Obligation) (last : Requirement) :
    Blind fun e => {
      enablers := ((e.demand o.side last, last) :: e.clones o).map fun (version, _) =>
        p.vetted e version
      log := p.extensionLog e o (e.demand o.side last, last) (e.clones o) } := by
  have hdemand : ∀ e : Enabler, e.demand o.side last =
      e.changed (e.demandChange e.name o.side last) :=
    fun e => demand_renamed e e.name o.side last
  refine ⟨fun x => p.vettedChange x (x.demandChange x.name o.side last) ::
      (x.cloneChanges o).map fun (change, _) => p.vettedChange x change,
    fun x => p.extensionLog x o (x.demand o.side last, last) (x.clones o), fun e => ?_⟩
  simp only [hdemand, clones_eq_changed, extensionLog_shown, demandChange_shown,
    cloneChanges_shown, vettedChange_shown]
  simp [vetted_changed, Function.comp_def]

theorem blind_comply (p : Standpoint) (o : Obligation) : Blind fun e => p.comply e o := by
  refine .ite (fun e => by rw [disabled_shown, fulfils_shown]) .idle ?_
  cases o.alternatives.getLast? with
  | none => exact .switchedOff o.reason
  | some last =>
      exact .ite (fun e => by rw [suggestions_shown]) (blind_extend p o last) (.switchedOff _)

theorem blind_repairEnabler (p : Standpoint) (obligations : List Obligation) :
    Blind (p.repairEnabler obligations) := by
  induction obligations with
  | nil => exact .idle
  | cons o rest ih => exact (blind_comply p o).andThen ih

/-! ## Collections -/

theorem log_repairAction_shown (obligations : List Obligation) (enablers : List Enabler) :
    (p.repairAction obligations (enablers.map shown)).log =
      (p.repairAction obligations enablers).log := by
  simp only [repairAction, Repair.join, List.map_map, Function.comp_def,
    (blind_repairEnabler p obligations).log_shown]

theorem map_shown_repairAction (obligations : List Obligation) (enablers : List Enabler) :
    (p.repairAction obligations (enablers.map shown)).enablers.map shown =
      (p.repairAction obligations enablers).enablers.map shown := by
  simp only [enablers_repairAction, List.flatMap_map, List.map_flatMap,
    (blind_repairEnabler p obligations).map_shown_enablers]

end Standpoint

def ByAction.shown (t : ByAction Enabler) : ByAction Enabler :=
  t.map fun _ members => members.map Enabler.shown

namespace Standpoint

variable {p : Standpoint}

theorem report_shown (table : ByAction Obligation) (enablers : ByAction Enabler) :
    p.report table enablers.shown = p.report table enablers := by
  simp [report, ByAction.shown, ByAction.map, Function.comp_def, log_repairAction_shown]

theorem shown_repairAll_shown (table : ByAction Obligation) (enablers : ByAction Enabler) :
    (p.repairAll table enablers.shown).shown = (p.repairAll table enablers).shown := by
  simp [repairAll, ByAction.shown, ByAction.map, Function.comp_def, map_shown_repairAction]

/-- Requirements that differ at most in being left out of help texts act alike, and so do
conditions of them.  Enablers with such conditions are repaired with the same report; what comes
out shows the same again, since it is made by changes that what is shown decides. -/
theorem quiet_plays_no_part (p : Standpoint) :
    (∀ a b : Requirement, a.shown = b.shown → p.ruleset.ActAlike a b) ∧
    (∀ c d : Conditions, c.shown = d.shown → p.ActAlike c d) ∧
    ∀ table : ByAction Obligation,
      (∀ t u : ByAction Enabler, t.shown = u.shown →
        p.report table t = p.report table u ∧
        (p.repairAll table t).shown = (p.repairAll table u).shown) ∧
      ∀ action, ∃ changes : Enabler → List Enabler.Change, ∀ t : ByAction Enabler,
        (p.repairAll table t).forAction action =
          (t.forAction action).flatMap fun e => (changes e.shown).map e.changed := by
  refine ⟨fun _ _ => Ruleset.actAlike_of_shown_eq, fun _ _ => actAlike_of_shown_eq,
    fun table => ⟨fun t u h => ⟨?_, ?_⟩, fun action => ?_⟩⟩
  · rw [← report_shown, h, report_shown]
  · rw [← shown_repairAll_shown, h, shown_repairAll_shown]
  · obtain ⟨changes, log, hrepair⟩ := blind_repairEnabler p (table.forAction action)
    refine ⟨changes, fun t => ?_⟩
    rw [forAction_repairAll, enablers_repairAction]
    simp only [hrepair]

/-! ## An action against a state that is no democracy -/

def intrigue (quiet : Bool) : ByAction Enabler :=
  ByAction.empty.add ⟨0⟩ { name := "Act", target := .ofRequirements [{ noDemocracy with quiet }] }

theorem quiet_plays_no_part_at_court :
    classic.ruleset.ActAlike { noDemocracy with quiet := true } noDemocracy ∧
      intrigue true ≠ intrigue false ∧
      ((intrigue true).forAction ⟨0⟩).length = 1 ∧
      ((classic.repairAll (ByAction.empty.add ⟨0⟩ crownOrLetters)
        (intrigue true)).forAction ⟨0⟩).length = 2 ∧
      classic.report (ByAction.empty.add ⟨0⟩ crownOrLetters) (intrigue true) =
        classic.report (ByAction.empty.add ⟨0⟩ crownOrLetters) (intrigue false) := by
  obtain ⟨halike, -, hrepaired⟩ := quiet_plays_no_part classic
  obtain ⟨hsame, -⟩ := hrepaired (ByAction.empty.add ⟨0⟩ crownOrLetters)
  have hdiffer : (intrigue true).groups ≠ (intrigue false).groups := by decide
  have hshown : (intrigue true).shown = (intrigue false).shown := rfl
  refine ⟨halike _ _ (Requirement.shown_eq_iff.2 rfl),
    fun h => hdiffer (congrArg ByAction.groups h), rfl, by decide, ?_⟩
  exact (hsame _ _ hshown).1

end Standpoint

end Rulebook
