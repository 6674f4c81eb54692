import Rulebook.Help.Phrase
import Rulebook.Requirement.Conditions

/-!
Help sentences for requirements.

Each kind of fact has its wording in the scopes where it means something; for
the other scopes there is nothing to say.
-/

namespace Rulebook.Help

def entityWording (kind : EntityKind) (label : String) (scope : Scope) (survives : Bool) :
    Option Wording :=
  match kind, scope with
  | .tech, _ =>
      if survives && scope == .world then
        some (requiresOnce s!"the {label} technology has been known in the world")
      else
        (doing? scope "know" "knows").map fun who =>
          requiresThat s!"{who} the {label} technology"
  | .government, .player =>
      some ⟨s!"Requires the {label} government.",
        s!"Not available under the {label} government."⟩
  | .achievement, _ =>
      (doing? scope "have" "has").map fun who => requiresThat s!"{who} the \"{label}\" achievement"
  | .building, .here => some (appliesOnlyTo s!"the {label} building")
  | .building, .continent => some (requiresPresence s!"a {label} on the continent")
  | .building, .city | .building, .tradeRoute => inCities scope s!"a {label}"
  | .building, _ =>
      if survives then
        (doing? scope "have ever built" "has ever built").map fun who =>
          requiresThat s!"{who} the {label}"
      else (doing? scope "own" "owns").map fun who => requiresThat s!"{who} the {label}"
  | .extra, _ => onTiles scope s!"the {label} extra"
  | .terrain, _ => onTiles scope s!"{label} terrain"
  | .good, .city =>
      some ⟨s!"Requires {label} to be available in the city.",
        s!"Prevented if {label} is available in the city."⟩
  | .nation, _ =>
      if survives && scope == .world then
        some (requiresOnce s!"the {label} nation has been in play")
      else (doing? scope "play" "plays").map fun who => requiresThat s!"{who} the {label} nation"
  | .nationGroup, _ =>
      (doing? scope "play" "plays").map fun who =>
        requiresThat s!"{who} a nation in the {label} group"
  | .nationality, _ => inCities scope s!"citizens of {label} nationality"
  | .unitType, .here => some ⟨s!"Requires a {label} unit.", s!"Not for {label} units."⟩
  | .unitClass, .here => some (requiresUnit s!"of the {label} class" s!"of the {label} class")
  | .action, .here => some (appliesTo s!"the \"{label}\" action")
  | .specialist, .here => some (appliesOnlyTo s!"{label} specialists")
  | .serverSetting, .world =>
      some (requiresEither s!"the '{label}' server setting to be enabled"
        s!"the '{label}' server setting to be disabled")
  | _, _ => none

def flagWording (kind : FlagKind) (name : String) (scope : Scope) : Option Wording :=
  let flag := s!"the \"{name}\" flag"
  match kind, scope with
  | .tech, _ =>
      (doing? scope "know" "knows").map fun who =>
        requiresThat s!"{who} a technology with {flag}"
  | .extra, _ | .base, _ | .road, _ => onTiles scope s!"an extra with {flag}"
  | .terrain, _ => onTiles scope s!"terrain with {flag}"
  | .unitType, .here => some (requiresUnit s!"with {flag}" s!"with {flag}")
  | .unitClass, .here => some (requiresUnit s!"whose class has {flag}" s!"whose class has {flag}")
  | _, _ => none

def statusWording (status : CityStatus) : Scope → Option Wording
  | .city => some (requiresToBe "the city" (cityStatus status))
  | .tradeRoute =>
      let state := cityStatus status
      some (requiresEither s!"the city or a trade partner to be {state}"
        s!"neither the city nor a trade partner to be {state}")
  | _ => none

def choiceWording (kind : ChoiceKind) (value : kind.Value) (scope : Scope) : Option Wording :=
  let word := Vocabulary.word value
  match kind, value, scope with
  | .genus, value, .here =>
      let genus := genus value
      some (appliesOnlyTo s!"{genus} buildings")
  | .terrainClass, value, _ =>
      let terrainClass := terrainClass value
      onTiles scope s!"{terrainClass} terrain"
  | .alteration, value, .here =>
      let alteration := alteration value
      some (requiresEither s!"terrain where {alteration} is possible"
        s!"terrain where {alteration} is impossible")
  | .cityTile, value, _ => onTiles scope (cityTile value)
  | .relation, _, .here =>
      some (requiresThat s!"you have the \"{word}\" relation with the other player")
  | .relation, _, _ =>
      (doing? scope "have" "has").map fun who =>
        requiresThat s!"{who} the \"{word}\" relation with another player"
  | .aiLevel, _, .player =>
      some ⟨s!"Requires an AI player at {word} level.", s!"Not for AI players at {word} level."⟩
  | .cityStatus, value, _ => statusWording value scope
  | .unitState, value, .here => some (requiresToBe "the unit" (unitState value))
  | .activity, _, .here => some (requiresToBe "the unit's activity" (Text.fold word))
  | .output, _, .here =>
      let output := Text.fold word
      some (appliesOnlyTo s!"{output} output")
  | .vision, _, .here => some (appliesTo s!"the {word} vision layer")
  | .intelligence, _, .here => some (appliesTo s!"{word} intelligence")
  | .topology, _, .world =>
      some ⟨s!"Requires a {word} map.", s!"Not available on {word} maps."⟩
  | _, _, _ => none

/-- The wording for at least `n`, or at most `n` units on a tile; a year is told as described. -/
def measureWording (measure : Measure) (n : Int) (description : String) (scope : Scope) :
    Option Wording :=
  let count := Text.ofInt n
  match measure, scope with
  | .unitsOnTile, .here =>
      some (requiresEither s!"at most {count} units on the tile"
        s!"more than {count} units on the tile")
  | .unitsOnTile, .cardinal | .unitsOnTile, .adjacent =>
      (onTiles? scope).map fun place =>
        requiresEither s!"at most {count} units {place}"
          s!"more than {count} units on the tile and every neighbour"
  | .techs, .player =>
      some (requiresEither s!"at least {count} known technologies"
        s!"fewer than {count} known technologies")
  | .techs, .world =>
      some ⟨s!"Requires a player in the world with at least {count} technologies.",
        s!"Prevented once any player knows {count} technologies."⟩
  | .culture, _ =>
      (nation? scope).map fun place =>
        ⟨s!"Requires at least {count} culture points {place}.",
          s!"Prevented by {count} or more culture points {place}."⟩
  | .foreignPercent, _ =>
      (inCities? scope).map fun place =>
        ⟨s!"Requires at least {count}% foreign citizens {place}.",
          s!"Prevented by {count}% or more foreign citizens {place}."⟩
  | .size, .city =>
      some (requiresEither s!"a city of size {count} or larger"
        s!"a city smaller than size {count}")
  | .size, .tradeRoute =>
      some (requiresEither s!"the city or a trade partner to be size {count} or larger"
        s!"the city and its trade partners to be smaller than size {count}")
  | .veteran, .here =>
      some (requiresEither s!"a unit with veteran level {count} or higher"
        s!"a unit below veteran level {count}")
  | .moveFragments, .here => some (left s!"{count} move fragments")
  | .hitPoints, .here => some (left s!"{count} hit points")
  | .age, .here => some (old "unit" count)
  | .age, .city => some (old "city" count)
  | .age, .player => some (old "player" count)
  | .year, .world =>
      some (requiresEither s!"the game to have reached {description}"
        s!"the game not to have reached {description}")
  | .calendarFragment, .world =>
      some (requiresEither s!"calendar fragment {count} or later"
        s!"a calendar fragment before {count}")
  | _, _ => none
where
  nation? (scope : Scope) : Option String :=
    match scope with
    | .player => some "for your nation"
    | .team => some "for a nation on your team"
    | .alliance => some "for an allied nation"
    | .world => some "for some nation in the world"
    | _ => inCities? scope
  left (amount : String) : Wording :=
    requiresEither s!"at least {amount} left" s!"fewer than {amount} left"
  old (subject turns : String) : Wording :=
    requiresEither s!"a {subject} at least {turns} turns old"
      s!"a {subject} less than {turns} turns old"

def wording? (rs : Ruleset) (description : String) (r : Requirement) : Option Wording :=
  match r.fact with
  | .none | .invalid => none
  | .entity kind _ => entityWording kind description r.scope r.survives
  | .flag kind _ => flagWording kind (r.fact.name rs) r.scope
  | .choice kind value => choiceWording kind value r.scope
  | .measure measure bound => measureWording measure (measure.toInt bound) description r.scope

def sentenceM? (rs : Ruleset) (r : Requirement) : Calculation (Option String) := do
  let description ← r.fact.descriptionM rs
  return (wording? rs description r).map fun w => if r.present then w.demanded else w.excluded

def sentence? (rs : Ruleset) (r : Requirement) : Option String := (sentenceM? rs r).modular

inductive Verbosity where
  /-- For players: quiet requirements are left out. -/
  | default
  | actual
  deriving DecidableEq, Repr

instance : Vocabulary Verbosity where
  all := [.default, .actual]
  word
    | .default => "default"
    | .actual => "actual"
  mem_all v := by cases v <;> decide

def hides (verbosity : Verbosity) (r : Requirement) : Bool := r.quiet && verbosity == .default

def lineM? (rs : Ruleset) (verbosity : Verbosity) (r : Requirement) :
    Calculation (Option String) :=
  if hides verbosity r then return none else sentenceM? rs r

def line? (rs : Ruleset) (verbosity : Verbosity) (r : Requirement) : Option String :=
  (lineM? rs verbosity r).modular

/-- Is this a requirement that players should be told of, but for which there is no sentence? -/
def isUnworded (rs : Ruleset) (verbosity : Verbosity) (r : Requirement) : Bool :=
  verbosity == .default && !r.quiet && !r.isInvalid && (sentence? rs r).isNone

def text (rs : Ruleset) (verbosity : Verbosity) (c : Conditions) : String :=
  String.join ((c.requirements.filterMap (line? rs verbosity)).map fun line => s!"* {line}\n")

end Rulebook.Help
