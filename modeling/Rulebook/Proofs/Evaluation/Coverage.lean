import Rulebook.Proofs.Evaluation.Arithmetic
import Rulebook.Proofs.Evaluation.Met
import Rulebook.Proofs.Implication.Scene
import Rulebook.Ruleset.Base

/-!
The table of scopes and the searches cover each other.

Every kind of fact is looked for in each scope that the table has for it, and
where everything is known and on the map nothing is left open.  `Answered` says
both of an answer at once: there is one, and completeness settles it.
-/

namespace Rulebook

/-- Everything is known, and what is referred to is there. -/
structure Situation.Complete (rs : Ruleset) (s : Situation) : Prop where
  world : s.world.isSome = true
  player : s.player.isSome = true
  otherPlayer : s.otherPlayer.isSome = true
  city : s.city.isSome = true
  building : s.building.isSome = true
  tile : s.tile.isSome = true
  unit : s.unit.isSome = true
  unitType : s.unitType.isSome = true
  output : s.output.isSome = true
  specialist : s.specialist.isSome = true
  action : s.action.isSome = true
  vision : s.vision.isSome = true
  intelligence : s.intelligence.isSome = true
  tileOnMap : ∀ w ∈ s.world, ∀ i ∈ s.tile, (w.tile? i).isSome = true
  cityOnMap : ∀ w ∈ s.world, ∀ c ∈ s.city, (w.tile? c.tile).isSome = true
  unitOnMap : ∀ w ∈ s.world, ∀ u ∈ s.unit, (w.tile? u.tile).isSome = true
  typeOfUnit : ∀ u ∈ s.unit, (rs.unitTypes.get? u.unitType).isSome = true

/-! ## Answers that completeness settles -/

namespace Truth

theorem ofBool_ne_maybe (b : Bool) : ofBool b ≠ .maybe := by
  cases b <;> simp [ofBool]

/-- There is an answer, and it is open only if `full` fails. -/
def Answered (full : Prop) (answer : Option Truth) : Prop :=
  ∃ truth, answer = some truth ∧ (full → truth ≠ .maybe)

namespace Answered

variable {full : Prop}

theorem ofBool (b : Bool) : Answered full (some (.ofBool b)) :=
  ⟨_, rfl, fun _ => ofBool_ne_maybe b⟩

theorem of_not (h : ¬ full) : Answered full (some .maybe) :=
  ⟨_, rfl, fun hfull => absurd hfull h⟩

theorem known {α : Type} {value : Option α} (h : full → value.isSome = true) (test : α → Bool) :
    Answered full (some (known value test)) := by
  refine ⟨_, rfl, fun hfull => ?_⟩
  obtain ⟨a, ha⟩ := Option.isSome_iff_exists.1 (h hfull)
  rw [ha]
  exact ofBool_ne_maybe (test a)

theorem known₂ {α β : Type} {x : Option α} {y : Option β} (hx : full → x.isSome = true)
    (hy : full → y.isSome = true) (test : α → β → Bool) :
    Answered full (some (known₂ x y test)) := by
  refine ⟨_, rfl, fun hfull => ?_⟩
  obtain ⟨a, ha⟩ := Option.isSome_iff_exists.1 (hx hfull)
  obtain ⟨b, hb⟩ := Option.isSome_iff_exists.1 (hy hfull)
  rw [ha, hb]
  exact ofBool_ne_maybe (test a b)

end Answered

end Truth

namespace Situation

variable {rs : Ruleset} {s : Situation}

/-! ## What can be looked up in a complete situation -/

theorem isSome_bind {α β : Type} {value : Option α} {f : α → Option β}
    (h : value.isSome = true) (hf : ∀ a ∈ value, (f a).isSome = true) :
    (value.bind f).isSome = true := by
  obtain ⟨a, ha⟩ := Option.isSome_iff_exists.1 h
  rw [ha]
  exact hf a ha

namespace Complete

theorem tileData? (h : s.Complete rs) : s.tileData?.isSome = true := by
  rw [tileData?_eq_bind]
  exact isSome_bind h.world fun w hw => isSome_bind h.tile fun i hi => h.tileOnMap w hw i hi

theorem typeOfUnit? (h : s.Complete rs) : s.typeOfUnit?.isSome = true := by
  obtain ⟨u, hu⟩ := Option.isSome_iff_exists.1 h.unit
  rw [Situation.typeOfUnit?, hu]
  rfl

theorem continentAt? (h : s.Complete rs) : (s.world.bind (continentAt? s)).isSome = true := by
  refine isSome_bind h.world fun w hw => ?_
  obtain ⟨t, ht⟩ := Option.isSome_iff_exists.1 h.tileData?
  rw [Rulebook.continentAt?, ht]
  rfl

theorem continentOf? (h : s.Complete rs) :
    (s.world.bind fun w => s.city.bind w.continentOf?).isSome = true := by
  refine isSome_bind h.world fun w hw => isSome_bind h.city fun c hc => ?_
  rw [World.continentOf?, Option.isSome_map]
  exact h.cityOnMap w hw c hc

theorem tileOfUnit? (h : s.Complete rs) {u : GameUnit} (hu : s.unit = some u) :
    (s.world.bind fun w => w.tile? u.tile).isSome = true :=
  isSome_bind h.world fun w hw => h.unitOnMap w hw u hu

theorem onNativeTile? (h : s.Complete rs) {u : GameUnit} (hu : s.unit = some u) :
    (s.world.bind fun w => onNativeTile? rs w u).isSome = true := by
  refine isSome_bind h.world fun w hw => ?_
  obtain ⟨t, ht⟩ := Option.isSome_iff_exists.1 (h.unitOnMap w hw u hu)
  obtain ⟨entry, hentry⟩ := Option.isSome_iff_exists.1 (h.typeOfUnit u hu)
  rw [Rulebook.onNativeTile?, Ruleset.classOfUnitType?, hentry, ht]
  rfl

end Complete

/-! ## Each search in the scopes it is for -/

open Truth (Answered)

variable {scope : Scope}

theorem answered_someTile (h : scope ∈ [Scope.here, .cardinal, .adjacent, .city, .tradeRoute])
    (test : Tile → Bool) : Answered (s.Complete rs) (s.someTile scope test) := by
  cases scope with
  | here => exact .known Complete.tileData? test
  | cardinal | adjacent => exact .known₂ Complete.world Complete.tile _
  | city | tradeRoute => exact .known₂ Complete.world Complete.city _
  | continent | player | team | alliance | world => exact absurd h (by decide)

theorem answered_someCity (h : scope ∈ [Scope.city, .tradeRoute]) (test : City → Bool) :
    Answered (s.Complete rs) (s.someCity scope test) := by
  cases scope with
  | city => exact .known Complete.city test
  | tradeRoute =>
      cases hcity : s.city with
      | none =>
          simp only [someCity, hcity]
          exact .of_not fun hs => by simpa [hcity] using hs.city
      | some c =>
          simp only [someCity, hcity]
          split
          · exact .ofBool true
          · exact .known Complete.world _
  | here | cardinal | adjacent | continent | player | team | alliance | world =>
      exact absurd h (by decide)

theorem answered_somePlayer (h : scope ∈ [Scope.player, .team, .alliance, .world])
    (test : Player → Bool) : Answered (s.Complete rs) (s.somePlayer scope test) := by
  cases scope with
  | player => exact .known Complete.player test
  | team | alliance => exact .known₂ Complete.world Complete.player _
  | world => exact .known Complete.world _
  | here | cardinal | adjacent | city | tradeRoute | continent => exact absurd h (by decide)

theorem answered_unitState {u : GameUnit} (hu : s.unit = some u) (state : UnitState) :
    Answered (s.Complete rs) (some (unitStateTruth rs s u state)) := by
  cases state with
  | transported | transporting | hasHomeCity => exact .ofBool _
  | onNativeTile => exact .known (fun hs => hs.onNativeTile? hu) _
  | onLivableTile => exact .known₂ (fun hs => hs.onNativeTile? hu) (fun hs => hs.tileOfUnit? hu) _
  | onDomesticTile => exact .known (fun hs => hs.tileOfUnit? hu) _

theorem answered_building (h : scope ∈ (FactKind.entity .building).scopes) (survives : Bool)
    (b : Ref Building) : Answered (s.Complete rs) (buildingTruth? s scope survives b) := by
  cases scope with
  | here => exact .known Complete.building _
  | city | tradeRoute =>
      simp only [buildingTruth?]
      exact answered_someCity (by decide) _
  | continent => exact .known₂ Complete.world Complete.continentAt? _
  | player | team | alliance => exact .known₂ Complete.world Complete.player _
  | world => exact .known Complete.world _
  | cardinal | adjacent => exact absurd h (by decide)

theorem answered_relation (h : scope ∈ (FactKind.choice .relation).scopes) (relation : Relation) :
    Answered (s.Complete rs) (relationTruth? s scope relation) := by
  unfold relationTruth?
  cases hworld : s.world with
  | none => exact .of_not fun hs => by simpa [hworld] using hs.world
  | some w =>
      cases hplayer : s.player with
      | none => exact .of_not fun hs => by simpa [hplayer] using hs.player
      | some p =>
          cases scope with
          | here => exact .known Complete.otherPlayer _
          | player | team | alliance | world => exact .ofBool _
          | cardinal | adjacent | city | tradeRoute | continent => exact absurd h (by decide)

theorem answered_culture (h : scope ∈ (FactKind.measure .culture).scopes) (least : Int) :
    Answered (s.Complete rs) (cultureTruth? s scope least) := by
  cases scope with
  | city | tradeRoute =>
      simp only [cultureTruth?]
      exact answered_someCity (by decide) _
  | player | team | alliance | world =>
      simp only [cultureTruth?]
      cases hworld : s.world with
      | none => exact .of_not fun hs => by simpa [hworld] using hs.world
      | some w => exact answered_somePlayer (by decide) _
  | here | cardinal | adjacent | continent => exact absurd h (by decide)

theorem answered_age (h : scope ∈ (FactKind.measure .age).scopes) (least : Int) :
    Answered (s.Complete rs) (ageTruth? s scope least) := by
  cases scope with
  | here => exact .known₂ Complete.world (fun hs => by simpa using hs.unit) _
  | city => exact .known₂ Complete.world (fun hs => by simpa using hs.city) _
  | player => exact .known₂ Complete.world (fun hs => by simpa using hs.player) _
  | cardinal | adjacent | tradeRoute | continent | team | alliance | world =>
      exact absurd h (by decide)

theorem answered_cityTile (h : scope ∈ (FactKind.choice .cityTile).scopes) (property : CityTile) :
    Answered (s.Complete rs) (cityTileTruth? s scope property) := by
  have hscope := List.mem_append_left [.city, .tradeRoute] h
  cases property with
  | center | claimed | extrasOwned | worked => exact answered_someTile hscope _
  | sameContinent =>
      unfold cityTileTruth?
      cases hcontinent : s.world.bind fun w => s.city.bind w.continentOf? with
      | none => exact .of_not fun hs => by simpa [hcontinent] using hs.continentOf?
      | some continent => exact answered_someTile hscope _

end Situation

/-! ## Every kind in each of its scopes -/

namespace Requirement

open Calculation Situation

variable {rs : Ruleset}

theorem answered_judge? {r : Requirement} (h : r.scopeIsLegal = true) (rs : Ruleset)
    (s : Situation) : Truth.Answered (s.Complete rs) (judge? rs r s) := by
  obtain ⟨fact, scope, survives, present, quiet⟩ := r
  have hscope : scope ∈ fact.kind.scopes := List.contains_iff_mem.1 h
  cases fact with
  | none => exact .ofBool true
  | invalid => exact .ofBool false
  | entity kind ref =>
      cases kind with
      | terrain | extra => exact answered_someTile hscope _
      | achievement | nationGroup => exact answered_somePlayer hscope _
      | government =>
          exact answered_somePlayer (List.mem_append_left [.team, .alliance, .world] hscope) _
      | tech | nation =>
          cases survives with
          | true => exact .known Complete.world _
          | false => exact answered_somePlayer hscope _
      | building => exact answered_building hscope _ _
      | good => exact answered_someCity (List.mem_append_left [.tradeRoute] hscope) _
      | nationality =>
          simp only [judge?]
          cases hworld : s.world with
          | none => exact .of_not fun hs => by simpa [hworld] using hs.world
          | some w => exact answered_someCity hscope _
      | unitType | unitClass => exact .known Complete.typeOfUnit? _
      | action => exact .known Complete.action _
      | specialist => exact .known Complete.specialist _
      | serverSetting => exact .known Complete.world _
  | flag kind flag =>
      cases kind with
      | terrain | extra | base | road => exact answered_someTile hscope _
      | tech => exact answered_somePlayer hscope _
      | unitType | unitClass => exact .known Complete.typeOfUnit? _
  | choice kind value =>
      cases kind with
      | terrainClass => exact answered_someTile hscope _
      | alteration =>
          have hwider := List.mem_append_left [.cardinal, .adjacent, .city, .tradeRoute] hscope
          exact answered_someTile hwider _
      | cityTile => exact answered_cityTile hscope _
      | aiLevel =>
          exact answered_somePlayer (List.mem_append_left [.team, .alliance, .world] hscope) _
      | relation => exact answered_relation hscope _
      | genus => exact .known Complete.building _
      | cityStatus => exact answered_someCity hscope _
      | output => exact .known Complete.output _
      | vision => exact .known Complete.vision _
      | intelligence => exact .known Complete.intelligence _
      | unitState =>
          simp only [judge?]
          cases hunit : s.unit with
          | none => exact .of_not fun hs => by simpa [hunit] using hs.unit
          | some u => exact answered_unitState hunit _
      | activity => exact .known Complete.unit _
      | topology => exact .known Complete.world _
  | measure measure bound =>
      cases measure with
      | unitsOnTile =>
          exact answered_someTile (List.mem_append_left [.city, .tradeRoute] hscope) _
      | techs =>
          rcases List.mem_cons.1 hscope with rfl | hscope
          · exact .known Complete.player _
          · obtain rfl := List.mem_singleton.1 hscope
            exact .known Complete.world _
      | culture => exact answered_culture hscope _
      | size | foreignPercent => exact answered_someCity hscope _
      | veteran | moveFragments | hitPoints => exact .known Complete.unit _
      | age => exact answered_age hscope _
      | year | calendarFragment => exact .known Complete.world _

/-- The leader's unit stands in the city of the scene, and everything else is known too. -/
def fullScene : Situation :=
  { ({} : Scene).situation with
    otherPlayer := some ({} : Scene).partner
    building := some ⟨0⟩
    unitType := some ⟨0⟩
    output := some .food
    specialist := some ⟨0⟩
    action := some ⟨0⟩
    vision := some .main
    intelligence := some .wonders }

theorem fullScene_inWords : fullScene.InWords ({} : Scene).world where
  map := Scene.geometry_inWords
  tile := by rintro _ ⟨⟩; decide
  unitAge := by rintro _ ⟨⟩; decide
  city := by rintro _ ⟨⟩; constructor <;> decide
  cities := by
    intro c hc
    obtain rfl := List.mem_singleton.1 hc
    constructor <;> decide
  player := by rintro _ ⟨⟩; constructor <;> decide
  players := by
    intro p hp
    rcases List.mem_cons.1 hp with rfl | hp
    · constructor <;> decide
    · obtain rfl := List.mem_singleton.1 hp
      constructor <;> decide

end Requirement

end Rulebook
