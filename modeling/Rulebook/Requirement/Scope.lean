import Rulebook.Vocabulary

/-!
Scopes: how far around the rule's place or player a requirement looks, from one
tile or unit out to the whole world.
-/

namespace Rulebook

inductive Scope where
  /-- The tile, unit, building or pair of players at hand. -/
  | here
  | cardinal
  | adjacent
  | city
  | tradeRoute
  | continent
  | player
  | team
  | alliance
  | world
  deriving DecidableEq, Repr

instance : Vocabulary Scope where
  all := [.here, .cardinal, .adjacent, .city, .tradeRoute, .continent, .player, .team, .alliance,
    .world]
  word
    | .here => "Local"
    | .cardinal => "CAdjacent"
    | .adjacent => "Adjacent"
    | .city => "City"
    | .tradeRoute => "Traderoute"
    | .continent => "Continent"
    | .player => "Player"
    | .team => "Team"
    | .alliance => "Alliance"
    | .world => "World"
  identifier
    | .here => "Local"
    | .cardinal => "CAdjacent"
    | .adjacent => "Adjacent"
    | .city => "City"
    | .tradeRoute => "TradeRoute"
    | .continent => "Continent"
    | .player => "Player"
    | .team => "Team"
    | .alliance => "Alliance"
    | .world => "World"
  mem_all s := by cases s <;> decide

/-- Scopes that look at players rather than places. -/
def Scope.isSocial : Scope → Bool
  | .player | .team | .alliance | .world => true
  | _ => false

end Rulebook
