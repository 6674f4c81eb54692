import Rulebook.Enabler.Basic

/-!
The obligations of the actions that the game itself knows.  What speaks of
actions or facts that the ruleset does not have is left out.
-/

namespace Rulebook

namespace Obligation

/-- An obligation written with names of actions and facts, all judged on the spot. -/
structure Draft where
  action : String
  side : Side := .actor
  alternatives : List (FactKind × String × Bool)
  reason : String

def standardDrafts : List Draft := [
  { action := "Conquer City"
    alternatives := [(.flag .unitClass, "CanOccupyCity", true)]
    reason := "only units of a class that can occupy cities may conquer them" },
  { action := "Conquer City"
    alternatives := [(.flag .unitType, "NonMil", false)]
    reason := "non-military units cannot conquer cities" },
  { action := "Conquer City"
    alternatives := [(.measure .moveFragments, "1", true)]
    reason := "moving into the city needs moves left" },
  { action := "Conquer City"
    alternatives := [
      (.choice .unitState, "OnLivableTile", true), (.choice .unitState, "Transported", true)]
    reason := "the attack starts from a livable tile or from a transport" },
  { action := "Capture Units"
    alternatives := [(.flag .unitType, "Capturer", true)]
    reason := "only capturer units may capture" },
  { action := "Capture Units"
    side := .target
    alternatives := [(.flag .unitType, "Capturable", true)]
    reason := "only capturable units may be captured" },
  { action := "Establish Embassy"
    alternatives := [(.choice .relation, "Foreign", true)]
    reason := "an embassy is established with another player" },
  { action := "Establish Embassy"
    alternatives := [(.choice .relation, "Has embassy", false)]
    reason := "an embassy can only be established once" },
  { action := "Bombard"
    alternatives := [(.flag .unitType, "NonMil", false)]
    reason := "non-military units cannot bombard" }]

def ofDraft? (rs : Ruleset) (d : Draft) : Option (Ref Action × Obligation) := do
  let action ← rs.actions.find? d.action
  let alternatives ← d.alternatives.mapM fun (kind, name, present) => do
    let fact := Fact.ofName rs kind name
    if fact.isInvalid then none else some { fact, scope := .here, present }
  return (action, { side := d.side, alternatives, reason := d.reason })

def standard (rs : Ruleset) : ByAction Obligation :=
  (standardDrafts.filterMap (ofDraft? rs)).foldl
    (fun table (action, obligation) => table.add action obligation) .empty

end Obligation

end Rulebook
