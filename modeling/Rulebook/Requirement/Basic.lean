import Rulebook.Fact.Basic
import Rulebook.Requirement.Scope

/-!
Requirements: a fact, the scope in which it is looked for, and whether it must
hold or must not.

Not every kind of fact has a meaning in every scope, and only some facts leave a
history that outlives what they were about.  The two tables at the end say which;
`Requirement.flaw?` applies them.
-/

namespace Rulebook

structure Requirement where
  fact : Fact
  scope : Scope
  /-- Asks about the past too. -/
  survives : Bool := false
  /-- The fact must hold, rather than must not. -/
  present : Bool := true
  /-- Left out of help texts. -/
  quiet : Bool := false
  deriving DecidableEq

namespace Requirement

def kind (r : Requirement) : FactKind := r.fact.kind

def invalid : Requirement := { fact := .invalid, scope := .here }

def isInvalid (r : Requirement) : Bool := r.fact.isInvalid

def negated (r : Requirement) : Requirement := { r with present := !r.present }

/-- Do the two ask the same, whether shown in help texts or not? -/
def sameTest (a b : Requirement) : Bool :=
  a.fact == b.fact && a.scope == b.scope && a.survives == b.survives && a.present == b.present

theorem negated_negated (r : Requirement) : r.negated.negated = r := by
  cases r; simp [negated]

theorem sameTest_iff {a b : Requirement} :
    a.sameTest b = true ↔ { a with quiet := b.quiet } = b := by
  cases a; cases b; simp [sameTest, and_assoc]

end Requirement

/-! ## Scopes of a kind -/

namespace FactKind

def scopes : FactKind → List Scope
  | .none | .invalid => Vocabulary.all
  | .entity .terrain | .choice .terrainClass | .flag .terrain | .entity .extra | .flag .extra
  | .flag .base | .flag .road => [.here, .cardinal, .adjacent, .city, .tradeRoute]
  | .measure .unitsOnTile | .choice .cityTile => [.here, .cardinal, .adjacent]
  | .measure .size | .entity .nationality | .choice .cityStatus | .measure .foreignPercent =>
      [.city, .tradeRoute]
  | .entity .good => [.city]
  | .measure .culture => [.city, .tradeRoute, .player, .team, .alliance, .world]
  | .choice .aiLevel | .entity .government => [.player]
  | .entity .tech | .flag .tech | .entity .achievement | .entity .nation
  | .entity .nationGroup => [.player, .team, .alliance, .world]
  | .measure .techs => [.player, .world]
  | .choice .relation => [.here, .player, .team, .alliance, .world]
  | .measure .year | .measure .calendarFragment | .choice .topology | .entity .serverSetting =>
      [.world]
  | .measure .age => [.here, .city, .player]
  | .entity .building =>
      [.here, .city, .tradeRoute, .continent, .player, .team, .alliance, .world]
  | .entity .specialist | .choice .output | .entity .action | .choice .vision
  | .choice .intelligence | .choice .genus | .choice .alteration | .entity .unitType
  | .flag .unitType | .entity .unitClass | .flag .unitClass | .measure .veteran
  | .choice .unitState | .choice .activity | .measure .moveFragments
  | .measure .hitPoints => [.here]

def survivingScopes : FactKind → List Scope
  | .entity .building => [.player, .team, .alliance, .world]
  | .entity .tech | .entity .nation => [.world]
  | _ => []

def defaultScope : FactKind → Scope
  | .entity .building | .measure .size | .measure .culture | .measure .foreignPercent
  | .entity .nationality | .choice .cityStatus | .entity .good => .city
  | .entity .government | .entity .achievement | .entity .tech | .flag .tech | .entity .nation
  | .entity .nationGroup | .choice .aiLevel => .player
  | .measure .year | .measure .calendarFragment | .choice .topology | .measure .techs
  | .entity .serverSetting => .world
  | _ => .here

theorem defaultScope_mem_scopes (k : FactKind) : k.defaultScope ∈ k.scopes := by
  have h : ∀ k ∈ (Vocabulary.all : List FactKind), k.defaultScope ∈ k.scopes := by decide
  exact h k (Vocabulary.mem_all k)

theorem survivingScopes_subset_scopes (k : FactKind) : k.survivingScopes ⊆ k.scopes := by
  have h : ∀ k ∈ (Vocabulary.all : List FactKind), ∀ s ∈ k.survivingScopes, s ∈ k.scopes := by
    decide
  exact h k (Vocabulary.mem_all k)

end FactKind

namespace Requirement

def scopeIsLegal (r : Requirement) : Bool := r.kind.scopes.contains r.scope

/-- If the past is asked about, is there a history to look it up in? -/
def survivesIsLegal (r : Requirement) : Bool :=
  !r.survives || r.kind.survivingScopes.contains r.scope

inductive Flaw where
  | unknownKind (text : String)
  | unknownScope (text : String)
  | unknownValue (kind : FactKind) (text : String)
  | badNumber (kind : FactKind) (number : Int)
  | badScope (kind : FactKind) (scope : Scope)
  | badSurvives (kind : FactKind) (scope : Scope)
  deriving DecidableEq

def Flaw.message : Flaw → String
  | .unknownKind text => s!"unknown requirement type '{text}'"
  | .unknownScope text => s!"unknown range '{text}'"
  | .unknownValue kind text =>
      let word := Vocabulary.word kind
      s!"unknown {word} '{text}'"
  | .badNumber kind number =>
      let word := Vocabulary.word kind
      let text := Text.ofInt number
      s!"unresolvable {word} number {text}"
  | .badScope _ _ => "bad range"
  | .badSurvives _ _ => "bad 'survives'"

def checked (r : Requirement) : Except Flaw Requirement :=
  if !r.scopeIsLegal then .error (.badScope r.kind r.scope)
  else if !r.survivesIsLegal then .error (.badSurvives r.kind r.scope)
  else .ok r

end Requirement

end Rulebook
