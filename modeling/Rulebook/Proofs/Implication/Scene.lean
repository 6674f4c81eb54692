import Rulebook.Proofs.Evaluation.Relation
import Rulebook.Proofs.Map.Within

/-!
A small world in which much holds at once.

Two players share a team, a map has two tiles next to each other, and one city
stands on the first of them with a unit in every state.  What the players know,
what has been built and what lies on the tiles is for the reader to choose; so
whatever can hold together does so in some scene.
-/

namespace Rulebook

/-- What is left open about the world of a scene. -/
structure Scene where
  techs : List (Ref Technology) := []
  techsBefore : List (Ref Technology) := []
  achievements : List (Ref Achievement) := []
  nation : Ref Nation := default
  partnerNation : Ref Nation := default
  buildings : List (Ref Building) := []
  records : List (Ref Building) := []
  goods : List (Ref Good) := []
  settings : List (Ref ServerSetting) := []
  terrain : Ref Terrain := default
  farTerrain : Ref Terrain := default
  extras : List (Ref Extra) := []
  unitType : Ref UnitType := default

namespace Scene

variable (c : Scene)

def leader : Player where
  id := ⟨0⟩
  nation := c.nation
  team := ⟨0⟩
  government := default
  knownTechs := c.techs
  achievements := c.achievements
  everBuilt := c.records

def partner : Player where
  id := ⟨1⟩
  nation := c.partnerNation
  team := ⟨0⟩
  government := default

def near : Tile where
  terrain := c.terrain
  extras := c.extras
  owner := some ⟨0⟩
  cityCenter := some ⟨0, 0⟩

def far : Tile where
  terrain := c.farTerrain

def capital : City where
  id := ⟨0, 0⟩
  owner := ⟨0⟩
  originalOwner := ⟨0⟩
  tile := 0
  size := 1
  radiusSq := 1
  buildings := c.buildings
  goods := c.goods
  mood := ⟨true, true, true⟩

def warrior : GameUnit where
  id := ⟨0, 0⟩
  owner := ⟨0⟩
  unitType := c.unitType
  movesLeft := 0
  hitPoints := 0
  tile := 0
  homeCity := some ⟨0, 0⟩
  transportedBy := some ⟨1, 0⟩
  transporting := [⟨2, 0⟩]

def geometry : Geometry := ⟨2, 1, ⟨true, true, true, true⟩⟩

def world : World where
  info := { turn := 0, year := 0, settings := c.settings.map fun setting => (setting, true) }
  map := ⟨geometry, #[c.near, c.far]⟩
  players := [c.leader, c.partner]
  cities := [c.capital]
  history := { buildingsBuilt := c.records, techsEverKnown := c.techsBefore }

def situation : Situation where
  world := some c.world
  player := some c.leader
  city := some c.capital
  tile := some 0
  unit := some c.warrior

variable {c}

theorem placed : c.situation.Placed := by
  constructor
  · rintro _ ⟨⟩ _ ⟨⟩
    exact List.mem_cons_self
  · rintro _ _ _ ⟨⟩

/-! ## Players -/

theorem covered_eq {scope : Scope} (hscope : scope.isSocial = true) (hwide : scope ≠ .player) :
    c.world.covered c.leader scope = [c.leader, c.partner] := by
  cases scope <;> first | rfl | contradiction

theorem leader_mem_covered {scope : Scope} (hscope : scope.isSocial = true) :
    c.leader ∈ c.world.covered c.leader scope := by
  by_cases hplayer : scope = .player
  · subst hplayer
    exact List.mem_cons_self
  · rw [covered_eq hscope hplayer]
    exact List.mem_cons_self

theorem somePlayer_yes {scope : Scope} (hscope : scope.isSocial = true) {test : Player → Bool}
    {p : Player} (hp : p ∈ c.world.covered c.leader scope) (htest : test p = true) :
    c.situation.somePlayer scope test = some .yes := by
  rw [Situation.somePlayer_eq_covered rfl rfl hscope, List.any_eq_true.2 ⟨p, hp, htest⟩]
  rfl

/-! ## Tiles -/

theorem one_mem_neighbourhood (scope : Scope) : 1 ∈ Situation.neighbourhood geometry scope 0 := by
  cases scope <;> decide

theorem geometry_inWords : geometry.InWords := by
  constructor <;> decide

theorem mem_cityTiles {i : TileIndex} (hi : i = 0 ∨ i = 1) :
    i ∈ c.world.cityTiles c.capital := by
  change i ∈ geometry.tilesWithin 0 1
  rw [geometry_inWords.mem_tilesWithin_iff (by decide) (by decide)]
  rcases hi with rfl | rfl <;> decide

theorem anyTile_of_mem {w : World} {tiles : List TileIndex} {i : TileIndex} {t : Tile}
    {test : Tile → Bool} (hi : i ∈ tiles) (ht : w.tile? i = some t) (htest : test t = true) :
    Situation.anyTile w tiles test = true := by
  simp only [Situation.anyTile, List.any_eq_true]
  exact ⟨i, hi, by rw [ht]; exact htest⟩

theorem someTile_yes {scope : Scope} {i : TileIndex} {t : Tile} {test : Tile → Bool}
    (hscope : (FactKind.entity .terrain).scopes.contains scope = true)
    (hi : i = 0 ∨ i = 1 ∧ scope ≠ .here) (ht : c.world.tile? i = some t) (htest : test t = true) :
    c.situation.someTile scope test = some .yes := by
  have hneighbour : i ∈ Situation.neighbourhood geometry scope 0 := by
    rcases hi with rfl | ⟨rfl, -⟩
    · exact List.mem_cons_self
    · exact one_mem_neighbourhood scope
  have hcity : i ∈ c.world.cityTiles c.capital := mem_cityTiles (hi.imp id And.left)
  cases scope <;> try exact absurd hscope (by decide)
  case here =>
    obtain rfl : i = 0 := by simpa using hi
    change some (Truth.known (c.world.tile? 0) test) = some .yes
    rw [ht, Truth.known, htest]
    rfl
  case cardinal | adjacent =>
    exact congrArg (some ∘ Truth.ofBool) (anyTile_of_mem hneighbour ht htest)
  case city =>
    change some (Truth.ofBool (Situation.anyTile c.world (c.world.cityTiles c.capital) test)) = _
    rw [anyTile_of_mem hcity ht htest]
    rfl
  case tradeRoute =>
    change some (Truth.ofBool ((c.capital :: c.world.tradePartners c.capital).any fun city =>
      Situation.anyTile c.world (c.world.cityTiles city) test)) = _
    rw [List.any_cons, anyTile_of_mem hcity ht htest, Bool.true_or]
    rfl

theorem someTile_near {scope : Scope} {test : Tile → Bool}
    (hscope : (FactKind.entity .terrain).scopes.contains scope = true)
    (htest : test c.near = true) : c.situation.someTile scope test = some .yes :=
  someTile_yes hscope (.inl rfl) rfl htest

theorem someTile_far {scope : Scope} {test : Tile → Bool}
    (hscope : (FactKind.entity .terrain).scopes.contains scope = true) (hwide : scope ≠ .here)
    (htest : test c.far = true) : c.situation.someTile scope test = some .yes :=
  someTile_yes hscope (.inr ⟨rfl, hwide⟩) rfl htest

/-! ## The city and its buildings -/

theorem someCity_yes {scope : Scope}
    (hscope : (FactKind.choice .cityStatus).scopes.contains scope = true) (test : City → Bool)
    (htest : test c.capital = true) : c.situation.someCity scope test = some .yes := by
  cases scope <;> try contradiction
  case city => exact congrArg (some ∘ Truth.ofBool) htest
  case tradeRoute =>
    change (if test c.capital then some Truth.yes else _) = some .yes
    rw [if_pos htest]

theorem leader_mem_playersIn {scope : Scope} (hscope : scope.isSocial = true) :
    c.leader ∈ c.world.playersIn c.leader.id scope := by
  cases scope <;> first | contradiction | exact List.mem_cons_self

theorem buildingTruth?_social {scope : Scope} (hscope : scope.isSocial = true)
    (hwide : scope ≠ .world) {survives : Bool} {building : Ref Building}
    (h : hasBuilding c.world c.leader building survives = true) :
    buildingTruth? c.situation scope survives building = some .yes := by
  have hany : (c.world.playersIn c.leader.id scope).any
      (fun p => hasBuilding c.world p building survives) = true :=
    List.any_eq_true.2 ⟨c.leader, leader_mem_playersIn hscope, h⟩
  cases scope <;> first
    | contradiction
    | exact congrArg (some ∘ Truth.ofBool) hany

theorem buildingTruth?_stands {scope : Scope}
    (hscope : (FactKind.entity .building).scopes.contains scope = true) (hwide : scope ≠ .here)
    {building : Ref Building} (hbuilt : building ∈ c.buildings) :
    buildingTruth? c.situation scope false building = some .yes := by
  have hcapital : c.capital.hasBuilding building = true := List.contains_iff_mem.2 hbuilt
  have hcities : c.world.citiesOf ⟨0⟩ = [c.capital] := rfl
  have hleader : hasBuilding c.world c.leader building false = true := by
    simp [hasBuilding, World.countBuildingOf, leader, hcities, hcapital]
  cases scope
  case city | tradeRoute =>
    simp only [buildingTruth?]
    exact someCity_yes (by decide) (fun city => city.hasBuilding building) hcapital
  case continent =>
    have hcontinent : c.world.continentOf? c.capital = some 0 := rfl
    have hcount : c.world.countBuildingOn 0 building > 0 := by
      refine List.countP_pos_iff.2 ⟨c.capital, List.mem_singleton.2 rfl, ?_⟩
      rw [hcapital, hcontinent]
      rfl
    exact congrArg (some ∘ Truth.ofBool) (decide_eq_true hcount)
  case player | team | alliance => exact buildingTruth?_social rfl (by decide) hleader
  case world =>
    have hcount : c.world.countBuilding building > 0 := by
      simp [World.countBuilding, world, hcapital]
    exact congrArg (some ∘ Truth.ofBool) (decide_eq_true hcount)
  all_goals contradiction

theorem buildingTruth?_recorded {scope : Scope} (hscope : scope.isSocial = true)
    {building : Ref Building} (hrecord : building ∈ c.records) :
    buildingTruth? c.situation scope true building = some .yes := by
  by_cases hworld : scope = .world
  · subst hworld
    have hcount : c.world.countBuildingEver building > 0 := List.count_pos_iff.2 hrecord
    exact congrArg (some ∘ Truth.ofBool) (decide_eq_true hcount)
  · exact buildingTruth?_social hscope hworld (List.contains_iff_mem.2 hrecord)

theorem buildingTruth?_no {scope : Scope} (hscope : scope.isSocial = true) {survives : Bool}
    {building : Ref Building} (hbuilt : survives = false → c.buildings = [])
    (hrecord : survives = true → c.records = []) :
    buildingTruth? c.situation scope survives building = some .no := by
  have hcities : survives = false → ∀ cities ⊆ [c.capital],
      cities.countP (fun city => city.hasBuilding building) = 0 := by
    intro hnow cities hsub
    rw [List.countP_eq_zero]
    intro city hcity
    rw [List.mem_singleton.1 (hsub hcity)]
    simp [City.hasBuilding, capital, hbuilt hnow]
  have hplayer : ∀ p ∈ c.world.players, hasBuilding c.world p building survives = false := by
    intro p hp
    cases survives with
    | false =>
        have hcount := hcities rfl (c.world.citiesOf p.id) (List.filter_sublist (l := c.world.cities)).subset
        simp [hasBuilding, World.countBuildingOf, hcount]
    | true =>
        simp only [world, List.mem_cons, List.not_mem_nil, or_false] at hp
        rcases hp with rfl | rfl <;> simp [hasBuilding, leader, partner, hrecord rfl]
  have hany : (c.world.playersIn c.leader.id scope).any
      (fun p => hasBuilding c.world p building survives) = false := by
    rw [List.any_eq_false]
    intro p hp
    rw [hplayer p (World.mem_alivePlayers.1 (List.mem_filter.1 hp).1).1]
    decide
  cases scope <;> try contradiction
  case player | team | alliance => exact congrArg (some ∘ Truth.ofBool) hany
  case world =>
    cases survives with
    | false =>
        have hcount : c.world.countBuilding building = 0 :=
          hcities rfl c.world.cities (List.Subset.refl _)
        simp [buildingTruth?, situation, Truth.known, hcount, Truth.ofBool]
    | true =>
        have hcount : c.world.countBuildingEver building = 0 := by
          simp [World.countBuildingEver, world, hrecord rfl]
        simp [buildingTruth?, situation, Truth.known, hcount, Truth.ofBool]

/-! ## The unit -/

theorem onNativeTile?_warrior {rs : Ruleset} {k : Ref UnitClass}
    (hclass : rs.classOfUnitType? c.unitType = some k) :
    onNativeTile? rs c.world c.warrior = some (rs.isNative k c.terrain) := by
  have htile : c.world.tile? c.warrior.tile = some c.near := rfl
  unfold onNativeTile?
  rw [htile, show c.warrior.unitType = c.unitType from rfl, hclass]
  rfl

theorem livable_of_class {rs : Ruleset} {k : Ref UnitClass}
    (hclass : rs.classOfUnitType? c.unitType = some k) :
    unitStateTruth rs c.situation c.warrior .onLivableTile = .yes := by
  change Truth.known₂ (onNativeTile? rs c.world c.warrior) (some c.near) _ = .yes
  rw [onNativeTile?_warrior hclass]
  exact congrArg Truth.ofBool (Bool.or_true _)

theorem native_of_class {rs : Ruleset} {k : Ref UnitClass}
    (hclass : rs.classOfUnitType? c.unitType = some k) :
    unitStateTruth rs c.situation c.warrior .onNativeTile =
      .ofBool (rs.isNative k c.terrain) := by
  change Truth.known (onNativeTile? rs c.world c.warrior) id = _
  rw [onNativeTile?_warrior hclass]
  rfl

theorem open_of_no_class {rs : Ruleset} (hclass : rs.classOfUnitType? c.unitType = none) :
    unitStateTruth rs c.situation c.warrior .onNativeTile = .maybe ∧
      unitStateTruth rs c.situation c.warrior .onLivableTile = .maybe := by
  have hopen : onNativeTile? rs c.world c.warrior = none := by
    unfold onNativeTile?
    rw [show c.warrior.unitType = c.unitType from rfl, hclass]
  constructor
  · change Truth.known (onNativeTile? rs c.world c.warrior) id = .maybe
    rw [hopen]
    rfl
  · change Truth.known₂ (onNativeTile? rs c.world c.warrior) (some c.near) _ = .maybe
    rw [hopen]
    rfl

theorem state_yes {rs : Ruleset} {k : Ref UnitClass}
    (hclass : rs.classOfUnitType? c.unitType = some k) (hnative : rs.isNative k c.terrain = true)
    (state : UnitState) : unitStateTruth rs c.situation c.warrior state = .yes := by
  cases state
  case onNativeTile => rw [native_of_class hclass, hnative]; rfl
  case onLivableTile => exact livable_of_class hclass
  all_goals rfl

theorem state_ne_no {rs : Ruleset} {state : UnitState} (hstate : state ≠ .onNativeTile) :
    unitStateTruth rs c.situation c.warrior state ≠ .no := by
  cases state
  case onNativeTile => contradiction
  case onLivableTile =>
    cases hclass : rs.classOfUnitType? c.unitType with
    | none =>
        rw [(open_of_no_class hclass).2]
        decide
    | some k =>
        rw [livable_of_class hclass]
        decide
  all_goals rintro ⟨⟩

end Scene

end Rulebook
