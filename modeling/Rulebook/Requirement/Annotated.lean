import Rulebook.Requirement.Conditions

/-!
Conditions in two parts: the requirements, and beside them what was written for
those that could not be read.

A kept entry is found by the place of its requirement.  An addition leaves the
kept entries alone; a removal drops the one at the place, if there is one, and
moves those behind it up.
-/

namespace Rulebook

namespace Conditions

inductive Edit where
  | push (requirement : Requirement)
  | remove (place : Nat)
  deriving DecidableEq

/-- Edits one after another: what each of them took out, and what is left. -/
def Edit.run {σ : Type} (edit : σ → Edit → Option Requirement × σ) :
    List Edit → σ → List (Option Requirement) × σ
  | [], s => ([], s)
  | e :: rest, s =>
      let (taken, s) := edit s e
      let (others, s) := run edit rest s
      (taken :: others, s)

def edit (c : Conditions) : Edit → Option Requirement × Conditions
  | .push r => (none, c.push r)
  | .remove place => c.remove place

/-! ## Kept entries by place -/

def keep (place : Nat) (entry : Requirement.Entry) :
    List (Nat × Requirement.Entry) → List (Nat × Requirement.Entry)
  | [] => [(place, entry)]
  | first :: rest =>
      if place < first.1 then (place, entry) :: first :: rest
      else if place = first.1 then (place, entry) :: rest
      else first :: keep place entry rest

/-- The kept entries when a place is removed: what stands behind it moves up by one. -/
def closeGap (removed : Nat) (kept : List (Nat × Requirement.Entry)) :
    List (Nat × Requirement.Entry) :=
  kept.filterMap fun (place, entry) =>
    if place = removed then none
    else some (if removed < place then place - 1 else place, entry)

structure Annotated where
  requirements : List Requirement := []
  kept : List (Nat × Requirement.Entry) := []
  deriving DecidableEq

namespace Annotated

variable (a : Annotated)

def push (r : Requirement) : Annotated := { a with requirements := a.requirements ++ [r] }

def remove (place : Nat) : Option Requirement × Annotated :=
  if place < a.requirements.length then
    (a.requirements[place]?,
      { requirements := a.requirements.eraseIdx place, kept := closeGap place a.kept })
  else (none, a)

def edit : Edit → Option Requirement × Annotated
  | .push r => (none, a.push r)
  | .remove place => a.remove place

def read (rs : Ruleset) (entry : Requirement.Entry) (place : Nat) : Annotated :=
  let r :=
    match Requirement.ofEntry rs entry with
    | .ok r => r
    | .error _ => .invalid
  let noted := if r.isInvalid then { a with kept := keep place entry a.kept } else a
  noted.push r

def ofEntriesKept (rs : Ruleset) (entries : List Requirement.Entry) : Annotated :=
  entries.zipIdx.foldl (fun a next => a.read rs next.1 next.2) {}

def toEntries (rs : Ruleset) : List Requirement.Entry :=
  a.requirements.zipIdx.map fun (r, place) => (a.kept.lookup place).getD (r.toEntry rs)

end Annotated

end Conditions

end Rulebook
