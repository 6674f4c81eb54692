import Rulebook.Config
import Rulebook.Conflict.Basic
import Rulebook.Review.Problem

/-!
The review of the conditions of a rule.

Every requirement has to ask something that has a meaning.  If the conditions
are meant to hold together, they must also be able to: a fact that can have one
value only is demanded once, terrains fit into the tiles there are, and no two
requirements conflict.
-/

namespace Rulebook

/-- Does a fact of this kind hold of one value only, wherever it is looked for? -/
def FactKind.isSole : FactKind → Bool
  | .entity .government | .entity .action | .entity .specialist | .choice .activity
  | .choice .output | .choice .aiLevel | .choice .vision | .choice .intelligence
  | .measure _ => true
  | _ => false

def FactKind.isSoleHere : FactKind → Bool
  | .entity .unitType | .entity .unitClass | .entity .terrain | .choice .terrainClass => true
  | _ => false

namespace Requirement

def problems (r : Requirement) (place : Nat) : List Problem :=
  if r.isInvalid then [.unresolved place]
  else
    (if r.scopeIsLegal then [] else [.badScope place r.kind r.scope]) ++
      (if r.survivesIsLegal then [] else [.badSurvives place r.kind r.scope])

end Requirement

namespace Conditions

variable (c : Conditions)

def demands (kind : FactKind) : Nat :=
  c.requirements.countP fun r => r.present && r.kind == kind

def demandsHere (kind : FactKind) : Nat :=
  c.requirements.countP fun r => r.present && r.kind == kind && r.scope == .here

def memberProblems : List Problem :=
  c.requirements.zipIdx.flatMap fun (r, place) => r.problems place

def countProblems : List Problem :=
  repeated FactKind.isSole c.demands ++ repeated FactKind.isSoleHere c.demandsHere
where
  repeated (sole : FactKind → Bool) (count : FactKind → Nat) : List Problem :=
    ((Vocabulary.all : List FactKind).filter fun kind => sole kind && 1 < count kind).map
      fun kind => .tooMany kind (count kind)

def terrainProblems : List Problem :=
  if 0 < c.demandsHere (.entity .terrain) && 0 < c.demandsHere (.choice .terrainClass) then
    [.terrainAndClass]
  else []

/-- More terrains or terrain classes than tiles, or than there are classes. -/
def tileProblems (maxTiles : Int) : List Problem :=
  match maxTiles.toNat? with
  | none => []
  | some tiles =>
      above (.entity .terrain) tiles ++
        above (.choice .terrainClass) (min tiles (Vocabulary.all : List TerrainClass).length)
where
  above (kind : FactKind) (most : Nat) : List Problem :=
    if most < c.demands kind then [.tooManyTiles kind (c.demands kind) most] else []

def conflictProblems (rs : Ruleset) : List Problem :=
  (c.conflictPairs rs).map fun (first, second) => .conflict first second

/-- Everything the review finds.  Conditions of which one suffices are only read one by one. -/
def problems (rs : Ruleset) (conjunctive : Bool) (maxTiles : Int) : List Problem :=
  c.memberProblems ++
    if conjunctive then
      c.countProblems ++ c.terrainProblems ++ c.tileProblems maxTiles ++ c.conflictProblems rs
    else []

end Conditions

/-! ## Verdicts -/

inductive RuleStatus where
  | enabled
  | disabled (problems : List Problem)
  deriving DecidableEq, Repr

/-- A rule on whose account all rules are refused. -/
structure Rejection where
  owner : String
  problems : List Problem
  deriving DecidableEq, Repr

def Rejection.message (r : Rejection) : String :=
  r.owner ++ ": " ++ ((r.problems.head?).map Problem.message).getD ""

def Ruleset.checkRule (rs : Ruleset) (config : Config) (owner : String) (c : Conditions)
    (conjunctive : Bool) : Except Rejection RuleStatus :=
  match c.problems rs conjunctive config.maxTiles, config.policy with
  | [], _ => .ok .enabled
  | problems, .disableRule => .ok (.disabled problems)
  | problems, .rejectRuleset => .error { owner, problems }

end Rulebook
