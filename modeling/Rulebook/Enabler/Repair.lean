import Rulebook.Enabler.Compliance
import Rulebook.Review.Basic

/-!
Repair: making enablers meet the obligations of their action.

The obligations are gone through in order.  An enabler that does not meet one is
given the missing requirement; where there are several ways to meet it, each way
but the last goes to a clone.  An enabler is disabled instead if nothing could
meet the obligation, if what its author wrote would have to change, or if the
addition makes for a new problem.  Conditions are only ever added, so an
obligation once met stays met and no enabler has to be looked at again.
-/

namespace Rulebook

/-! ## What a repair records -/

structure Repaired where
  name : String
  side : Side
  added : Requirement.Entry
  reason : String
  deriving DecidableEq, Repr

structure Cloned where
  name : String
  origin : String
  reason : String
  deriving DecidableEq, Repr

structure Disabled where
  name : String
  reason : String
  deriving DecidableEq, Repr

structure RepairLog where
  repaired : List Repaired := []
  cloned : List Cloned := []
  disabled : List Disabled := []
  deriving DecidableEq, Repr

namespace RepairLog

instance : Append RepairLog where
  append a b := ⟨a.repaired ++ b.repaired, a.cloned ++ b.cloned, a.disabled ++ b.disabled⟩

def isEmpty (l : RepairLog) : Bool :=
  l.repaired.isEmpty && l.cloned.isEmpty && l.disabled.isEmpty

def join (logs : List RepairLog) : RepairLog :=
  ⟨logs.flatMap (·.repaired), logs.flatMap (·.cloned), logs.flatMap (·.disabled)⟩

end RepairLog

structure Repair where
  enablers : List Enabler
  log : RepairLog := {}

def Repair.join (repairs : List Repair) : Repair :=
  ⟨repairs.flatMap (·.enablers), .join (repairs.map (·.log))⟩

namespace Enabler

def switchedOff (e : Enabler) (reason : String) : Repair where
  enablers := [{ e with disabled := true }]
  log := { disabled := [{ name := e.name, reason }] }

/-- The clones that an obligation calls for, one for each alternative but the last, with what
they are given. -/
def clones (e : Enabler) (o : Obligation) : List (Enabler × Requirement) :=
  o.alternatives.dropLast.zipIdx.map fun (r, i) =>
    (({ e with name := e.name ++ " #" ++ Text.ofNat (i + 1) } : Enabler).demand o.side r, r)

end Enabler

namespace Standpoint

variable (p : Standpoint)

def problems (c : Conditions) : List Problem :=
  c.problems p.ruleset true p.config.maxTiles

/-- The first problem on either side that was not there before.  Added conditions stand behind
the others, so old problems keep their places. -/
def introduced? (before after : Enabler) : Option Problem :=
  (Vocabulary.all : List Side).findSome? fun side =>
    let known := p.problems (before.conditions side)
    (p.problems (after.conditions side)).find? fun problem => !known.contains problem

def vetted (before after : Enabler) : Enabler :=
  if (p.introduced? before after).isSome then { after with disabled := true } else after

def extensionLog (e : Enabler) (o : Obligation) (extended : Enabler × Requirement)
    (clones : List (Enabler × Requirement)) : RepairLog where
  repaired := (clones ++ [extended]).map fun (version, r) =>
    { name := version.name, side := o.side, added := r.toEntry p.ruleset, reason := o.reason }
  cloned := clones.map fun (clone, _) =>
    { name := clone.name, origin := e.name, reason := o.reason }
  disabled := (extended :: clones).reverse.filterMap fun (version, _) =>
    (p.introduced? e version).map fun problem =>
      { name := version.name, reason := problem.message }

/-- The enabler brought into line with the obligation, in one step. -/
def comply (e : Enabler) (o : Obligation) : Repair :=
  if e.disabled || p.fulfils e o then { enablers := [e] }
  else match o.alternatives.getLast? with
    | none => e.switchedOff o.reason
    | some last =>
        if (p.suggestions e o).all (·.isAppend) then
          let extended := (e.demand o.side last, last)
          let clones := e.clones o
          { enablers := (extended :: clones).map fun (version, _) => p.vetted e version
            log := p.extensionLog e o extended clones }
        else e.switchedOff (o.reason ++ " (repair would change existing requirements)")

def repairEnabler : List Obligation → Enabler → Repair
  | [], e => { enablers := [e] }
  | o :: rest, e =>
      let step := p.comply e o
      let later := Repair.join (step.enablers.map (repairEnabler rest))
      { enablers := later.enablers, log := step.log ++ later.log }

def repairAction (obligations : List Obligation) (enablers : List Enabler) : Repair :=
  .join (enablers.map (p.repairEnabler obligations))

def repairAll (obligations : ByAction Obligation) (enablers : ByAction Enabler) :
    ByAction Enabler :=
  enablers.map fun action members =>
    (p.repairAction (obligations.forAction action) members).enablers

end Standpoint

end Rulebook
