import Rulebook.Requirement.Basic

/-!
Phrases of help texts: who or where a scope speaks of, what the members of
vocabularies are called in a sentence, and the pairs of sentences that say that
something has to hold and that it must not.
-/

namespace Rulebook.Help

structure Wording where
  demanded : String
  excluded : String
  deriving DecidableEq, Repr

/-! ## Pairs of sentences -/

def requiresThat (clause : String) : Wording :=
  ⟨s!"Requires that {clause}.", s!"Prevented if {clause}."⟩

def requiresOnce (clause : String) : Wording :=
  ⟨s!"Requires that {clause}.", s!"Prevented once {clause}."⟩

def requiresPresence (thing : String) : Wording :=
  ⟨s!"Requires {thing}.", s!"Prevented by {thing}."⟩

def requiresEither (demanded excluded : String) : Wording :=
  ⟨s!"Requires {demanded}.", s!"Requires {excluded}."⟩

def requiresToBe (subject state : String) : Wording :=
  ⟨s!"Requires {subject} to be {state}.", s!"Requires {subject} not to be {state}."⟩

def requiresUnit (demanded excluded : String) : Wording :=
  ⟨s!"Requires a unit {demanded}.", s!"Not for units {excluded}."⟩

def appliesTo (thing : String) : Wording :=
  ⟨s!"Applies to {thing}.", s!"Does not apply to {thing}."⟩

def appliesOnlyTo (thing : String) : Wording :=
  ⟨s!"Applies only to {thing}.", s!"Does not apply to {thing}."⟩

/-! ## Scopes -/

/-- The player that a scope speaks of does something, said in the plain form of the verb or in
the third person. -/
def doing? (scope : Scope) (plain third : String) : Option String :=
  match scope with
  | .player => some s!"you {plain}"
  | .team => some s!"a player on your team {third}"
  | .alliance => some s!"an allied player {third}"
  | .world => some s!"some player in the world {third}"
  | _ => none

def onTiles? : Scope → Option String
  | .here => some "on the tile"
  | .cardinal => some "on the tile or a cardinally adjacent tile"
  | .adjacent => some "on the tile or an adjacent tile"
  | .city => some "within the city radius"
  | .tradeRoute => some "within the radius of the city or a trade partner"
  | .continent => some "on the continent"
  | _ => none

def inCities? : Scope → Option String
  | .city => some "in the city"
  | .tradeRoute => some "in the city or a trade partner"
  | _ => none

def onTiles (scope : Scope) (thing : String) : Option Wording :=
  (onTiles? scope).map fun place => requiresPresence s!"{thing} {place}"

def inCities (scope : Scope) (thing : String) : Option Wording :=
  (inCities? scope).map fun place => requiresPresence s!"{thing} {place}"

/-! ## Vocabularies -/

def genus : BuildingGenus → String
  | .greatWonder => "great wonder"
  | .smallWonder => "small wonder"
  | .improvement => "improvement"
  | .special => "special"
  | .convert => "conversion"

def terrainClass : TerrainClass → String
  | .land => "land"
  | .oceanic => "oceanic"

def alteration : Alteration → String
  | .irrigate => "irrigation"
  | .mine => "mining"
  | .road => "road building"
  | .transform => "transformation"

def unitState : UnitState → String
  | .transported => "transported"
  | .transporting => "transporting other units"
  | .onNativeTile => "on native terrain"
  | .onLivableTile => "on a tile where it can exist"
  | .hasHomeCity => "supported by a home city"
  | .onDomesticTile => "on a tile its owner claims"

def cityTile : CityTile → String
  | .center => "a city center"
  | .claimed => "a claimed tile"
  | .extrasOwned => "a tile with owned extras"
  | .worked => "a worked tile"
  | .sameContinent => "a tile on the city's continent"

def cityStatus : CityStatus → String
  | .ownedByOriginal => "owned by its founder"
  | .starved => "starved"
  | .disorder => "in disorder"
  | .celebration => "celebrating"

end Rulebook.Help
