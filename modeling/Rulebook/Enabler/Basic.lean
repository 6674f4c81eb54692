import Rulebook.Enabler.ByAction
import Rulebook.Requirement.Conditions

/-!
Enablers and obligations of actions.

An enabler makes an action legal when both its lists of conditions are met, one
for the actor and one for the target.  An obligation is inherent to an action:
each of its enablers has to imply one of the alternatives.
-/

namespace Rulebook

inductive Side where
  | actor
  | target
  deriving DecidableEq, Repr

instance : Vocabulary Side where
  all := [.actor, .target]
  word
    | .actor => "actor"
    | .target => "target"
  mem_all s := by cases s <;> decide

structure Enabler where
  name : String
  actor : Conditions := {}
  target : Conditions := {}
  disabled : Bool := false
  deriving DecidableEq

namespace Enabler

def conditions (e : Enabler) : Side → Conditions
  | .actor => e.actor
  | .target => e.target

def withConditions (e : Enabler) (side : Side) (c : Conditions) : Enabler :=
  match side with
  | .actor => { e with actor := c }
  | .target => { e with target := c }

def demand (e : Enabler) (side : Side) (r : Requirement) : Enabler :=
  e.withConditions side ((e.conditions side).push r)

@[simp] theorem conditions_withConditions (e : Enabler) (side : Side) (c : Conditions) :
    (e.withConditions side c).conditions side = c := by
  cases side <;> rfl

end Enabler

/-- One of the alternatives has to be implied on the side. -/
structure Obligation where
  side : Side
  alternatives : List Requirement
  reason : String
  deriving DecidableEq

end Rulebook
