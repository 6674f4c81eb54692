import Rulebook.Enabler.Basic
import Rulebook.Review.Basic
import Rulebook.Sheet.Basic

/-!
The review of whole sheets: how many rules and enablers there are, and which of
them fail.
-/

namespace Rulebook

/-- Both sides of an enabler reviewed as one rule; the problems of the actor come first. -/
def Ruleset.checkEnabler (rs : Ruleset) (config : Config) (e : Enabler) :
    Except Rejection RuleStatus := do
  match ← rs.checkRule config e.name e.actor true, ← rs.checkRule config e.name e.target true with
  | .enabled, status | status, .enabled => return status
  | .disabled actor, .disabled target => return .disabled (actor ++ target)

structure ReviewReport where
  checked : Nat := 0
  disabled : List (String × List Problem) := []

namespace ReviewReport

def record (report : ReviewReport) (owner : String) : RuleStatus → ReviewReport
  | .enabled => { report with checked := report.checked + 1 }
  | .disabled problems =>
      { checked := report.checked + 1, disabled := report.disabled ++ [(owner, problems)] }

def addRules (rs : Ruleset) (config : Config) (report : ReviewReport) (sheet : RuleSheet) :
    Except Rejection ReviewReport :=
  sheet.rules.foldlM (fun report rule => do
    let status ← rs.checkRule config rule.name (rule.conditions rs) rule.conjunctive
    return report.record rule.name status) report

def addEnablers (rs : Ruleset) (config : Config) (report : ReviewReport)
    (enablers : ByAction Enabler) : Except Rejection ReviewReport :=
  enablers.toList.foldlM (fun report e => do
    return report.record e.name (← rs.checkEnabler config e)) report

def node (report : ReviewReport) : Node := .record [
  ("checked", .ofNat report.checked),
  ("disabled", .ofList (fun (owner, problems) => .record [
    ("owner", .text owner), ("problems", .ofList Problem.node problems)]) report.disabled)]

def lines (report : ReviewReport) : List String :=
  let checked := Text.ofNat report.checked
  let disabled := Text.ofNat report.disabled.length
  s!"{checked} vectors checked, {disabled} disabled" ::
    report.disabled.flatMap fun (owner, problems) =>
      problems.map fun problem => "  " ++ owner ++ ": " ++ problem.message

end ReviewReport

end Rulebook
