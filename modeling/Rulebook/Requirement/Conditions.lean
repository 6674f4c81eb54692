import Rulebook.Requirement.Written

/-!
The conditions of a rule: an ordered list of requirements, all of which have to
be met.

A requirement that could not be read keeps its place as the invalid requirement,
together with the entry as its author wrote it, so that writing the conditions
back loses nothing.
-/

namespace Rulebook

/-- A requirement and, if it could not be read, what was written for it. -/
structure Condition where
  requirement : Requirement
  written : Option Requirement.Entry := none
  deriving DecidableEq

structure Conditions where
  toList : List Condition := []
  deriving DecidableEq

namespace Conditions

def ofRequirements (rs : List Requirement) : Conditions :=
  ⟨rs.map fun r => { requirement := r }⟩

def requirements (c : Conditions) : List Requirement :=
  c.toList.map (·.requirement)

def size (c : Conditions) : Nat := c.toList.length

def isEmpty (c : Conditions) : Bool := c.toList.isEmpty

def get? (c : Conditions) (i : Nat) : Option Requirement :=
  (c.toList[i]?).map (·.requirement)

def push (c : Conditions) (r : Requirement) : Conditions :=
  ⟨c.toList ++ [{ requirement := r }]⟩

/-- The requirement at a place, and the conditions without it; past the end nothing changes. -/
def remove (c : Conditions) (i : Nat) : Option Requirement × Conditions :=
  (c.get? i, ⟨c.toList.eraseIdx i⟩)

def contains (c : Conditions) (r : Requirement) : Bool := c.requirements.contains r

def mentions (c : Conditions) (f : Fact) : Bool := c.requirements.any fun r => r.fact == f

def hasInvalid (c : Conditions) : Bool := c.requirements.any (·.isInvalid)

def ofEntries (rs : Ruleset) (entries : List Requirement.Entry) :
    Except Requirement.Flaw Conditions :=
  match entries.mapM (Requirement.ofEntry rs) with
  | .ok reqs => .ok (ofRequirements reqs)
  | .error flaw => .error flaw

def conditionOf (rs : Ruleset) (e : Requirement.Entry) : Condition :=
  match Requirement.ofEntry rs e with
  | .ok r => { requirement := r }
  | .error _ => { requirement := .invalid, written := some e }

/-- All entries, those that cannot be read kept as written. -/
def ofEntriesKept (rs : Ruleset) (entries : List Requirement.Entry) : Conditions :=
  ⟨entries.map (conditionOf rs)⟩

def entryOf (rs : Ruleset) (c : Condition) : Requirement.Entry :=
  c.written.getD (c.requirement.toEntry rs)

def toEntries (rs : Ruleset) (c : Conditions) : List Requirement.Entry :=
  c.toList.map (entryOf rs)

@[simp] theorem requirements_push (c : Conditions) (r : Requirement) :
    (c.push r).requirements = c.requirements ++ [r] := by
  simp [requirements, push]

@[simp] theorem requirements_ofRequirements (rs : List Requirement) :
    (ofRequirements rs).requirements = rs := by
  simp [requirements, ofRequirements, Function.comp_def]

end Conditions

end Rulebook
