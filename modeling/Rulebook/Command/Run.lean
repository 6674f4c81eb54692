import Rulebook.Command.Help
import Rulebook.Enabler.Report
import Rulebook.Enabler.Standard
import Rulebook.Json.Print
import Rulebook.Review.Report
import Rulebook.Ruleset.Base
import Rulebook.Yaml.Print

/-!
What the program does for a command line, given what the files hold: what it
prints, and how it ends.
-/

namespace Rulebook.Command

abbrev Files := (path : String) → Option String

inductive Ending where
  | done
  | failed (reason : String)
  | writes (path text : String)
  deriving DecidableEq, Repr

structure Outcome where
  output : String := ""
  ending : Ending
  deriving DecidableEq, Repr

def writeFailure (path : String) : String := "writing " ++ path

def orFail {α : Type} (reason : String) : Option α → Except String α
  | some a => .ok a
  | none => .error reason

def rulesetFiles (directory : String) : List String :=
  ["terrain", "units", "techs", "cities", "game"].map fun name =>
    directory ++ "/" ++ name ++ ".yaml"

def loadRuleset (files : Files) : Option String → Except String Ruleset
  | none => .ok Ruleset.base
  | some directory => orFail "loading ruleset" do
      match ← (rulesetFiles directory).mapM files with
      | [terrain, units, techs, cities, game] =>
          (Ruleset.ofSources { terrain, units, techs, cities, game }).toOption
      | _ => none

def loadConfig (files : Files) : Option String → Except String Config
  | none => .ok {}
  | some path => orFail ("loading config " ++ path) ((files path).bind Config.ofText?)

def readSheet {α : Type} (files : Files) (path : String) (read : String → Option α) :
    Except String α :=
  orFail ("reading " ++ path) ((files path).bind read)

def readEnablers (rs : Ruleset) (files : Files) (path : String) :
    Except String (ByAction Enabler) :=
  readSheet files path fun text => do
    ((← EnablerSheet.ofText? text).compile rs).toOption

def readObligations (rs : Ruleset) (files : Files) (path : String) :
    Except String (ByAction Obligation) :=
  readSheet files path fun text => do
    ((← ObligationSheet.ofText? text).compile rs).toOption

def reviewed (result : Except Rejection ReviewReport) : Except String ReviewReport :=
  result.mapError Rejection.message

def printed (json : Bool) (node : Node) (lines : List String) : String :=
  if json then Json.render node ++ "\n" else ofLines lines

def check (rs : Ruleset) (config : Config) (files : Files) (json : Bool) (rules : List String)
    (enablers : Option String) : Except String Outcome := do
  let ofRules ← rules.foldlM (fun report path => do
    let sheet ← readSheet files path RuleSheet.ofText?
    reviewed (report.addRules rs config sheet)) {}
  let report ← match enablers with
    | none => pure ofRules
    | some path => reviewed (ofRules.addEnablers rs config (← readEnablers rs files path))
  return { output := printed json report.node report.lines, ending := .done }

def repair (rs : Ruleset) (config : Config) (files : Files) (json : Bool) (path : String)
    (obligations output : Option String) : Except String Outcome := do
  let enablers ← readEnablers rs files path
  let obligations ← match obligations with
    | none => pure (Obligation.standard rs)
    | some path => readObligations rs files path
  let standpoint : Standpoint := { ruleset := rs, config }
  let report := standpoint.report obligations enablers
  let written := EnablerSheet.ofEnablers rs (standpoint.repairAll obligations enablers)
  return {
    output := printed json (report.node rs) (report.lines rs)
    ending := match output with
      | none => .done
      | some path => .writes path (Yaml.render written.node) }

def perform (files : Files) (settings : Settings) (task : Task) : Except String Outcome := do
  let rs ← loadRuleset files settings.ruleset
  let config ← loadConfig files settings.config
  match task with
  | .check rules enablers => check rs config files settings.json rules enablers
  | .repair enablers obligations output =>
      repair rs config files settings.json enablers obligations output

def inputs (settings : Settings) (task : Task) : List String :=
  (settings.ruleset.map rulesetFiles).getD [] ++ settings.config.toList ++
    match task with
    | .check rules enablers => rules ++ enablers.toList
    | .repair enablers obligations _ => enablers :: obligations.toList

def run (files : Files) (settings : Settings) (task : Task) : Outcome :=
  match perform files settings task with
  | .ok outcome => outcome
  | .error reason => { ending := .failed reason }

end Rulebook.Command
