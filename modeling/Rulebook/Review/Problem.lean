import Rulebook.Document.Node
import Rulebook.Requirement.Basic

/-!
What a review can find wrong with the conditions of a rule, in words and as a
document.
-/

namespace Rulebook

/-- Requirements are told by their places in the list of conditions. -/
inductive Problem where
  | badScope (place : Nat) (kind : FactKind) (scope : Scope)
  | badSurvives (place : Nat) (kind : FactKind) (scope : Scope)
  | unresolved (place : Nat)
  | tooMany (kind : FactKind) (count : Nat)
  | terrainAndClass
  | tooManyTiles (kind : FactKind) (count most : Nat)
  | conflict (first second : Nat)
  deriving DecidableEq, Repr

namespace Problem

def message : Problem → String
  | .badScope place kind scope =>
      let n := Text.ofNat place
      let kind := Vocabulary.word kind
      let scope := Vocabulary.word scope
      s!"requirement {n}: {kind} is not supported at {scope} range"
  | .badSurvives place kind scope =>
      let n := Text.ofNat place
      let kind := Vocabulary.word kind
      let scope := Vocabulary.word scope
      s!"requirement {n}: 'survives' is not supported for {kind} at {scope} range"
  | .unresolved place =>
      let n := Text.ofNat place
      s!"requirement {n} could not be resolved"
  | .tooMany kind count =>
      let n := Text.ofNat count
      let kind := Vocabulary.word kind
      s!"{n} positive {kind} requirements where at most one is possible"
  | .terrainAndClass => "both Local Terrain and Local TerrainClass requirements"
  | .tooManyTiles kind count most =>
      let n := Text.ofNat count
      let kind := Vocabulary.word kind
      let most := Text.ofNat most
      s!"{n} positive {kind} requirements but only {most} tiles can satisfy them"
  | .conflict first second =>
      let i := Text.ofNat first
      let j := Text.ofNat second
      s!"requirements {i} and {j} contradict each other"

def node : Problem → Node
  | .badScope place kind scope => placed "bad_range" place kind scope
  | .badSurvives place kind scope => placed "bad_survives" place kind scope
  | .unresolved place => .record [problem "invalid_universal", ("index", .ofNat place)]
  | .tooMany kind count =>
      .record [problem "too_many", identified "kind" kind, ("count", .ofNat count)]
  | .terrainAndClass => .record [problem "terrain_and_class"]
  | .tooManyTiles kind count most => .record [
      problem "too_many_tiles", identified "kind" kind, ("count", .ofNat count),
      ("max", .ofNat most)]
  | .conflict first second => .record [
      problem "contradiction", ("first", .ofNat first), ("second", .ofNat second)]
where
  problem (name : String) : String × Node := ("problem", .text name)
  identified {α : Type} [Vocabulary α] (field : String) (a : α) : String × Node :=
    (field, .text (Vocabulary.identifier a))
  placed (name : String) (place : Nat) (kind : FactKind) (scope : Scope) : Node := .record [
    problem name, ("index", .ofNat place), identified "kind" kind, identified "range" scope]

end Problem

end Rulebook
