import Rulebook.Enabler.Repair
import Rulebook.Sheet.Entry

/-!
The report of a repair as a document and in words.
-/

namespace Rulebook

namespace Repaired

def node (r : Repaired) : Node := .record [
  ("name", .text r.name), ("side", .text (Vocabulary.identifier r.side)),
  ("added", r.added.node), ("reason", .text r.reason)]

end Repaired

namespace Cloned

def node (c : Cloned) : Node := .record [
  ("name", .text c.name), ("from", .text c.origin), ("reason", .text c.reason)]

end Cloned

namespace Disabled

def node (d : Disabled) : Node := .record [("name", .text d.name), ("reason", .text d.reason)]

end Disabled

structure RepairReport where
  actions : List (Ref Action × RepairLog) := []

namespace RepairReport

def isEmpty (report : RepairReport) : Bool := report.actions.isEmpty

def repaired (report : RepairReport) : List Repaired := report.actions.flatMap (·.2.repaired)

def cloned (report : RepairReport) : List Cloned := report.actions.flatMap (·.2.cloned)

def disabled (report : RepairReport) : List Disabled := report.actions.flatMap (·.2.disabled)

def actionName (rs : Ruleset) (action : Ref Action) : String :=
  (rs.actions.name? action).getD Fact.unknownName

def node (rs : Ruleset) (report : RepairReport) : Node := .record [
  ("actions", .ofList (fun (action, log) => .record [
    ("action", .text (actionName rs action)),
    ("repaired", .ofList Repaired.node log.repaired),
    ("cloned", .ofList Cloned.node log.cloned),
    ("disabled", .ofList Disabled.node log.disabled)]) report.actions)]

def actionLines (action : String) (log : RepairLog) : List String :=
  (log.repaired.map fun r =>
    "  " ++ action ++ ": " ++ r.name ++ " += " ++ r.added.kind ++ " (" ++ r.reason ++ ")") ++
  (log.cloned.map fun c => "  " ++ action ++ ": " ++ c.name ++ " cloned from " ++ c.origin) ++
  (log.disabled.map fun d => "  " ++ action ++ ": " ++ d.name ++ " disabled: " ++ d.reason)

def lines (rs : Ruleset) (report : RepairReport) : List String :=
  let repaired := Text.ofNat report.repaired.length
  let cloned := Text.ofNat report.cloned.length
  let disabled := Text.ofNat report.disabled.length
  s!"{repaired} repaired, {cloned} cloned, {disabled} disabled" ::
    report.actions.flatMap fun (action, log) => actionLines (actionName rs action) log

end RepairReport

def Standpoint.report (p : Standpoint) (obligations : ByAction Obligation)
    (enablers : ByAction Enabler) : RepairReport where
  actions := (enablers.groups.map fun (action, members) =>
    (action, (p.repairAction (obligations.forAction action) members).log)).filter
      fun (_, log) => !log.isEmpty

end Rulebook
