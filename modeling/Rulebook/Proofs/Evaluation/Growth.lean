import Rulebook.Proofs.Evaluation.Met

/-!
Settled answers as a situation grows.

A situation grows when parts that were missing come to be known.  A search that
has settled an answer had all the parts it asks for, and finds them the same in
the grown situation.  So the answers to all questions stay, but for one that
falls back from a missing part to another: on a continent a building is looked
for around the city as long as no tile is at hand.
-/

namespace Rulebook

namespace Situation

def Kept {α : Type} (first last : Option α) : Prop := ∀ a ∈ first, a ∈ last

structure GrowsTo (s more : Situation) : Prop where
  world : Kept s.world more.world
  player : Kept s.player more.player
  otherPlayer : Kept s.otherPlayer more.otherPlayer
  city : Kept s.city more.city
  building : Kept s.building more.building
  tile : Kept s.tile more.tile
  unit : Kept s.unit more.unit
  unitType : Kept s.unitType more.unitType
  output : Kept s.output more.output
  specialist : Kept s.specialist more.specialist
  action : Kept s.action more.action
  vision : Kept s.vision more.vision
  intelligence : Kept s.intelligence more.intelligence

/-- A bare unit type that stands beside a unit is the type of the unit. -/
def TypesAgree (s : Situation) : Prop := ∀ u ∈ s.unit, ∀ t ∈ s.unitType, t = u.unitType

end Situation

def Requirement.SeeksOnContinent (r : Requirement) (building : Ref Building) : Prop :=
  r.fact = .entity .building building ∧ r.scope = .continent

/-! ## Parts that are kept -/

namespace Situation

variable {s more : Situation}

namespace Kept

variable {α β : Type} {first last : Option α}

theorem eq_some (h : Kept first last) {a : α} (ha : first = some a) : last = some a :=
  h a ha

theorem none_or_some (h : Kept first last) :
    first = none ∨ ∃ a, first = some a ∧ last = some a := by
  cases first with
  | none => exact .inl rfl
  | some a => exact .inr ⟨a, rfl, h a rfl⟩

theorem bind {f g : α → Option β} (h : Kept first last) (hf : ∀ a, Kept (f a) (g a)) :
    Kept (first.bind f) (last.bind g) := by
  intro b hb
  obtain ⟨a, ha, hfa⟩ := Option.bind_eq_some_iff.1 hb
  exact Option.bind_eq_some_iff.2 ⟨a, h a ha, hf a b hfa⟩

theorem map {f : α → β} (h : Kept first last) : Kept (first.map f) (last.map f) := by
  intro b hb
  obtain ⟨a, ha, hfa⟩ := Option.map_eq_some_iff.1 hb
  exact Option.map_eq_some_iff.2 ⟨a, h a ha, hfa⟩

theorem refl (value : Option α) : Kept value value := fun _ => id

end Kept

theorem GrowsTo.tileData? (h : s.GrowsTo more) : Kept s.tileData? more.tileData? := by
  rw [tileData?_eq_bind, tileData?_eq_bind]
  exact h.world.bind fun _ => h.tile.bind fun _ => .refl _

theorem GrowsTo.typeOfUnit? (h : s.GrowsTo more) (htypes : more.TypesAgree) :
    Kept s.typeOfUnit? more.typeOfUnit? := by
  intro t ht
  unfold Situation.typeOfUnit? at ht ⊢
  cases hunit : s.unit with
  | some u =>
      rw [hunit] at ht
      rw [h.unit.eq_some hunit]
      exact ht
  | none =>
      rw [hunit] at ht
      have hbare : t ∈ more.unitType := h.unitType t ht
      cases hmore : more.unit with
      | none => exact hbare
      | some u => exact congrArg some (htypes u hmore t hbare).symm

end Situation

/-! ## Answers that stay -/

namespace Truth

def Stays (first second : Option Truth) : Prop :=
  ∀ b : Bool, first = some (.ofBool b) → second = some (.ofBool b)

namespace Stays

theorem refl (answer : Option Truth) : Stays answer answer := fun _ => id

theorem of_maybe (second : Option Truth) : Stays (some .maybe) second := by
  intro b h
  cases b <;> contradiction

theorem known {α : Type} {first last : Option α} (h : Situation.Kept first last)
    (test : α → Bool) : Stays (some (known first test)) (some (known last test)) := by
  intro b hb
  obtain ⟨a, ha, htest⟩ := known_eq_ofBool_iff.1 (Option.some.inj hb)
  exact congrArg some (known_eq_ofBool_iff.2 ⟨a, h a ha, htest⟩)

theorem known₂ {α β : Type} {first last : Option α} {first' last' : Option β}
    (h : Situation.Kept first last) (h' : Situation.Kept first' last') (test : α → β → Bool) :
    Stays (some (known₂ first first' test)) (some (known₂ last last' test)) := by
  intro b hb
  obtain ⟨a, c, ha, hc, htest⟩ := known₂_eq_ofBool_iff.1 (Option.some.inj hb)
  exact congrArg some (known₂_eq_ofBool_iff.2 ⟨a, c, h a ha, h' c hc, htest⟩)

end Stays

end Truth

namespace Situation.GrowsTo

open Truth

variable {s more : Situation}

theorem stays_someTile (h : s.GrowsTo more) (scope : Scope) (test : Tile → Bool) :
    Stays (s.someTile scope test) (more.someTile scope test) := by
  cases scope with
  | here => exact .known h.tileData? test
  | cardinal | adjacent => exact .known₂ h.world h.tile _
  | city | tradeRoute => exact .known₂ h.world h.city _
  | continent | player | team | alliance | world => exact .refl _

theorem stays_someCity (h : s.GrowsTo more) (scope : Scope) (test : City → Bool) :
    Stays (s.someCity scope test) (more.someCity scope test) := by
  cases scope with
  | city => exact .known h.city test
  | tradeRoute =>
      unfold someCity
      rcases h.city.none_or_some with hnone | ⟨c, hfirst, hlast⟩
      · rw [hnone]
        exact .of_maybe _
      · rw [hfirst, hlast]
        by_cases htest : test c = true
        · simp only [htest, if_true]
          exact .refl _
        · simp only [htest]
          exact .known h.world _
  | here | cardinal | adjacent | continent | player | team | alliance | world => exact .refl _

theorem stays_somePlayer (h : s.GrowsTo more) (scope : Scope) (test : Player → Bool) :
    Stays (s.somePlayer scope test) (more.somePlayer scope test) := by
  cases scope with
  | player => exact .known h.player test
  | team | alliance => exact .known₂ h.world h.player _
  | world => exact .known h.world _
  | here | cardinal | adjacent | city | tradeRoute | continent => exact .refl _

theorem stays_unitState (h : s.GrowsTo more) (rs : Ruleset) (u : GameUnit) (state : UnitState) :
    Stays (some (unitStateTruth rs s u state)) (some (unitStateTruth rs more u state)) := by
  cases state with
  | transported | transporting | hasHomeCity => exact .refl _
  | onNativeTile => exact .known (h.world.bind fun _ => .refl _) _
  | onLivableTile =>
      exact .known₂ (h.world.bind fun _ => .refl _) (h.world.bind fun _ => .refl _) _
  | onDomesticTile => exact .known (h.world.bind fun _ => .refl _) _

theorem stays_building (h : s.GrowsTo more) {scope : Scope} (hscope : scope ≠ .continent)
    (survives : Bool) (b : Ref Building) :
    Stays (buildingTruth? s scope survives b) (buildingTruth? more scope survives b) := by
  cases scope with
  | here => exact .known h.building _
  | city => exact h.stays_someCity .city _
  | tradeRoute => exact h.stays_someCity .tradeRoute _
  | continent => contradiction
  | player | team | alliance => exact .known₂ h.world h.player _
  | world => exact .known h.world _
  | cardinal | adjacent => exact .refl _

theorem stays_relation (h : s.GrowsTo more) (scope : Scope) (relation : Relation) :
    Stays (relationTruth? s scope relation) (relationTruth? more scope relation) := by
  unfold relationTruth?
  rcases h.world.none_or_some with hnone | ⟨w, hworld, hworld'⟩
  · rw [hnone]
    exact .of_maybe _
  rcases h.player.none_or_some with hnone | ⟨p, hplayer, hplayer'⟩
  · rw [hworld, hnone]
    exact .of_maybe _
  rw [hworld, hworld', hplayer, hplayer']
  cases scope with
  | here => exact .known h.otherPlayer _
  | _ => exact .refl _

theorem stays_culture (h : s.GrowsTo more) (scope : Scope) (least : Int) :
    Stays (cultureTruth? s scope least) (cultureTruth? more scope least) := by
  unfold cultureTruth?
  split
  · exact h.stays_someCity _ _
  · exact h.stays_someCity _ _
  · rcases h.world.none_or_some with hnone | ⟨w, hworld, hworld'⟩
    · rw [hnone]
      exact .of_maybe _
    · rw [hworld, hworld']
      exact h.stays_somePlayer _ _

theorem stays_age (h : s.GrowsTo more) (scope : Scope) (least : Int) :
    Stays (ageTruth? s scope least) (ageTruth? more scope least) := by
  cases scope with
  | here => exact .known₂ h.world h.unit.map _
  | city => exact .known₂ h.world h.city.map _
  | player => exact .known₂ h.world h.player.map _
  | cardinal | adjacent | tradeRoute | continent | team | alliance | world => exact .refl _

theorem stays_cityTile (h : s.GrowsTo more) (scope : Scope) (property : CityTile) :
    Stays (cityTileTruth? s scope property) (cityTileTruth? more scope property) := by
  cases property with
  | center | claimed | extrasOwned | worked => exact h.stays_someTile _ _
  | sameContinent =>
      have hcontinent := h.world.bind fun w => h.city.bind fun c => .refl (w.continentOf? c)
      unfold cityTileTruth?
      rcases hcontinent.none_or_some with hnone | ⟨continent, hfirst, hlast⟩
      · rw [hnone]
        exact .of_maybe _
      · rw [hfirst, hlast]
        exact h.stays_someTile _ _

end Situation.GrowsTo

/-! ## What a requirement asks -/

namespace Requirement

variable {rs : Ruleset} {s more : Situation}

/-- Only a building on a continent can be moved by what comes in. -/
theorem stays_judge? (hgrows : s.GrowsTo more) (htypes : more.TypesAgree) (r : Requirement)
    (hcontinent : ∀ building, ¬ r.SeeksOnContinent building) :
    Truth.Stays (judge? rs r s) (judge? rs r more) := by
  obtain ⟨fact, scope, survives, present, quiet⟩ := r
  cases fact with
  | none | invalid => exact .refl _
  | entity kind ref =>
      cases kind with
      | terrain | extra => exact hgrows.stays_someTile _ _
      | government | achievement | nationGroup => exact hgrows.stays_somePlayer _ _
      | tech | nation =>
          cases survives with
          | true => exact .known hgrows.world _
          | false => exact hgrows.stays_somePlayer _ _
      | building => exact hgrows.stays_building (fun hscope => hcontinent ref ⟨rfl, hscope⟩) _ _
      | good => exact hgrows.stays_someCity _ _
      | nationality =>
          rcases hgrows.world.none_or_some with hnone | ⟨w, hworld, hworld'⟩
          · simp only [judge?, hnone]
            exact .of_maybe _
          · simp only [judge?, hworld, hworld']
            exact hgrows.stays_someCity _ _
      | unitType | unitClass => exact .known (hgrows.typeOfUnit? htypes) _
      | action => exact .known hgrows.action _
      | specialist => exact .known hgrows.specialist _
      | serverSetting => exact .known hgrows.world _
  | flag kind flag =>
      cases kind with
      | terrain | extra | base | road => exact hgrows.stays_someTile _ _
      | tech => exact hgrows.stays_somePlayer _ _
      | unitType | unitClass => exact .known (hgrows.typeOfUnit? htypes) _
  | choice kind value =>
      cases kind with
      | terrainClass | alteration => exact hgrows.stays_someTile _ _
      | cityTile => exact hgrows.stays_cityTile _ _
      | aiLevel => exact hgrows.stays_somePlayer _ _
      | relation => exact hgrows.stays_relation _ _
      | genus => exact .known hgrows.building _
      | cityStatus => exact hgrows.stays_someCity _ _
      | output => exact .known hgrows.output _
      | vision => exact .known hgrows.vision _
      | intelligence => exact .known hgrows.intelligence _
      | unitState =>
          rcases hgrows.unit.none_or_some with hnone | ⟨u, hunit, hunit'⟩
          · simp only [judge?, hnone]
            exact .of_maybe _
          · simp only [judge?, hunit, hunit']
            exact hgrows.stays_unitState _ _ _
      | activity => exact .known hgrows.unit _
      | topology => exact .known hgrows.world _
  | measure measure bound =>
      cases measure with
      | unitsOnTile => exact hgrows.stays_someTile _ _
      | techs =>
          simp only [judge?]
          split
          · exact .known hgrows.world _
          · exact hgrows.stays_somePlayer _ _
      | culture => exact hgrows.stays_culture _ _
      | size | foreignPercent => exact hgrows.stays_someCity _ _
      | veteran | moveFragments | hitPoints => exact .known hgrows.unit _
      | age => exact hgrows.stays_age _ _
      | year | calendarFragment => exact .known hgrows.world _

end Requirement

end Rulebook
