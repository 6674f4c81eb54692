import Rulebook.Enabler.Basic
import Rulebook.Requirement.Conditions
import Rulebook.Sheet.Entry
import Rulebook.Yaml.Parse

/-!
Sheets of rules, of enablers and of obligations: what files hold, before names
are looked up in a ruleset.

Requirements of rules and enablers that cannot be read are kept as they are
written, and whoever owns them will fail the review.  Obligations are part of
the game, so all that they name has to be there.
-/

namespace Rulebook

/-- Why a sheet does not fit the ruleset.  The owner is the enabler or the reason of the
obligation, or else the action. -/
inductive SheetError where
  | unknownAction (owner action : String)
  | badRequirement (owner : String) (flaw : Requirement.Flaw)
  deriving DecidableEq

def SheetError.message : SheetError → String
  | .unknownAction owner action => s!"{owner}: unknown action '{action}'"
  | .badRequirement owner flaw => owner ++ ": " ++ flaw.message

/-! ## Rules -/

structure RuleEntry where
  name : String
  /-- All requirements have to be met, rather than one of them. -/
  conjunctive : Bool := true
  requirements : List Requirement.Entry := []
  deriving DecidableEq, Repr

structure RuleSheet where
  rules : List RuleEntry := []
  deriving DecidableEq, Repr

namespace RuleEntry

def ofNode? (n : Node) : Option RuleEntry := do
  let f ← n.fields? ["name", "conjunctive", "reqs"]
  return {
    name := ← f.required "name" Reader.text
    conjunctive := ← f.default "conjunctive" true Reader.bool
    requirements := ← f.default "reqs" [] (Reader.list Requirement.Entry.ofNode?) }

def node (r : RuleEntry) : Node := .record [
  ("name", .text r.name), ("conjunctive", .bool r.conjunctive),
  ("reqs", .ofList Requirement.Entry.node r.requirements)]

def conditions (rs : Ruleset) (r : RuleEntry) : Conditions :=
  .ofEntriesKept rs r.requirements

end RuleEntry

namespace RuleSheet

def ofNode? (n : Node) : Option RuleSheet := do
  let f ← n.fields? ["rules"]
  return { rules := ← f.default "rules" [] (Reader.list RuleEntry.ofNode?) }

def ofText? (text : String) : Option RuleSheet := (Yaml.parse? text).bind ofNode?

end RuleSheet

/-! ## Enablers -/

structure EnablerEntry where
  name : String
  action : String
  actor : List Requirement.Entry := []
  target : List Requirement.Entry := []
  disabled : Bool := false
  deriving DecidableEq, Repr

structure EnablerSheet where
  enablers : List EnablerEntry := []
  deriving DecidableEq, Repr

namespace EnablerEntry

def ofNode? (n : Node) : Option EnablerEntry := do
  let f ← n.fields? ["name", "action", "actor_reqs", "target_reqs", "disabled"]
  return {
    name := ← f.required "name" Reader.text
    action := ← f.required "action" Reader.text
    actor := ← f.default "actor_reqs" [] (Reader.list Requirement.Entry.ofNode?)
    target := ← f.default "target_reqs" [] (Reader.list Requirement.Entry.ofNode?)
    disabled := ← f.default "disabled" false Reader.bool }

def node (e : EnablerEntry) : Node := .record (
  [("name", .text e.name), ("action", .text e.action),
    ("actor_reqs", .ofList Requirement.Entry.node e.actor),
    ("target_reqs", .ofList Requirement.Entry.node e.target)] ++
    if e.disabled then [("disabled", .bool true)] else [])

def enabler (rs : Ruleset) (e : EnablerEntry) : Enabler where
  name := e.name
  actor := .ofEntriesKept rs e.actor
  target := .ofEntriesKept rs e.target
  disabled := e.disabled

def ofEnabler (rs : Ruleset) (action : Ref Action) (e : Enabler) : EnablerEntry where
  name := e.name
  action := (rs.actions.name? action).getD ""
  actor := e.actor.toEntries rs
  target := e.target.toEntries rs
  disabled := e.disabled

end EnablerEntry

namespace EnablerSheet

def ofNode? (n : Node) : Option EnablerSheet := do
  let f ← n.fields? ["enablers"]
  return { enablers := ← f.default "enablers" [] (Reader.list EnablerEntry.ofNode?) }

def ofText? (text : String) : Option EnablerSheet := (Yaml.parse? text).bind ofNode?

def node (s : EnablerSheet) : Node := .record [
  ("enablers", .ofList EnablerEntry.node s.enablers)]

def compile (rs : Ruleset) (s : EnablerSheet) : Except SheetError (ByAction Enabler) :=
  s.enablers.foldlM (fun enablers e =>
    match rs.actions.find? e.action with
    | none => .error (.unknownAction e.name e.action)
    | some action => .ok (enablers.add action (e.enabler rs))) .empty

def ofEnablers (rs : Ruleset) (enablers : ByAction Enabler) : EnablerSheet where
  enablers := enablers.groups.flatMap fun (action, members) =>
    members.map (EnablerEntry.ofEnabler rs action)

end EnablerSheet

/-! ## Obligations -/

structure ObligationEntry where
  action : String
  side : Side
  alternatives : List Requirement.Entry
  reason : String := ""
  deriving DecidableEq, Repr

structure ObligationSheet where
  obligations : List ObligationEntry := []
  deriving DecidableEq, Repr

namespace ObligationEntry

def ofNode? (n : Node) : Option ObligationEntry := do
  let f ← n.fields? ["action", "side", "alternatives", "reason"]
  return {
    action := ← f.required "action" Reader.text
    side := ← f.required "side" Reader.member
    alternatives := ← f.required "alternatives" (Reader.list Requirement.Entry.ofNode?)
    reason := ← f.default "reason" "" Reader.text }

def compile (rs : Ruleset) (e : ObligationEntry) :
    Except SheetError (Ref Action × Obligation) :=
  match rs.actions.find? e.action with
  | none => .error (.unknownAction e.reason e.action)
  | some action =>
      match Conditions.ofEntries rs e.alternatives with
      | .error flaw => .error (.badRequirement e.action flaw)
      | .ok alternatives =>
          .ok (action, {
            side := e.side, alternatives := alternatives.requirements, reason := e.reason })

end ObligationEntry

namespace ObligationSheet

def ofNode? (n : Node) : Option ObligationSheet := do
  let f ← n.fields? ["hard_requirements"]
  return {
    obligations := ← f.default "hard_requirements" [] (Reader.list ObligationEntry.ofNode?) }

def ofText? (text : String) : Option ObligationSheet := (Yaml.parse? text).bind ofNode?

def compile (rs : Ruleset) (s : ObligationSheet) : Except SheetError (ByAction Obligation) :=
  s.obligations.foldlM (fun table e =>
    (e.compile rs).map fun compiled => table.add compiled.1 compiled.2) .empty

end ObligationSheet

end Rulebook
