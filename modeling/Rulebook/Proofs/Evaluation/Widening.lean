import Mathlib.Data.List.Perm.Subperm
import Rulebook.Proofs.Evaluation.Coverage
import Rulebook.Proofs.Evaluation.Relation
import Rulebook.Proofs.Map.Radius

/-!
What holds in a scope holds in the next wider one.

Each scope of a chain looks at all that the one before it looks at, and a search
that has found something goes on finding it: neighbours across an edge are
neighbours, a city is among those on its trade routes, a player is in its team,
its team among its allies.  Only the players have to be where the relations look
for them, and technologies, which are counted once in the world, have to be
counted once for the player.
-/

namespace Rulebook

/-! ## Places -/

namespace Geometry

theorem cardinalNeighbours_subset_adjacentNeighbours (g : Geometry) (tile : TileIndex) :
    g.cardinalNeighbours tile ⊆ g.adjacentNeighbours tile := by
  unfold cardinalNeighbours adjacentNeighbours cardinalNeighboursM adjacentNeighboursM
  split
  · exact List.Subset.refl _
  · have hsteps : Grid.cardinalSteps ⊆ Grid.adjacentSteps := by decide
    intro t ht
    simp only [squareNeighboursM, Calculation.modular_bind, Calculation.modular_pure,
      Calculation.modular_filterMapM, Grid.mem_ordered, List.mem_filter, List.mem_filterMap]
      at ht ⊢
    obtain ⟨⟨step, hstep, hreached⟩, hother⟩ := ht
    exact ⟨⟨step, hsteps hstep, hreached⟩, hother⟩

end Geometry

namespace World

variable {w : World}

/-! ## Players and what they have -/

theorem playersIn_player_subset_team {p : Player} (hp : p ∈ w.players) :
    w.playersIn p.id .player ⊆ w.playersIn p.id .team := by
  intro q hq
  simp only [playersIn, List.mem_filter, beq_iff_eq] at hq ⊢
  exact ⟨hq.1, by rw [hq.2, sameTeam_self hp]⟩

theorem countBuilding_pos_of_owner {owner : PlayerId} {building : Ref Building}
    (h : 0 < w.countBuildingOf owner building) : 0 < w.countBuilding building := by
  simp only [countBuildingOf, countBuilding, citiesOf, List.countP_pos_iff, List.mem_filter] at h ⊢
  obtain ⟨c, ⟨hc, -⟩, hbuilding⟩ := h
  exact ⟨c, hc, hbuilding⟩

theorem countBuilding_pos_of_continent {continent : Int} {building : Ref Building}
    (h : 0 < w.countBuildingOn continent building) : 0 < w.countBuilding building := by
  simp only [countBuildingOn, countBuilding, List.countP_pos_iff, Bool.and_eq_true] at h ⊢
  obtain ⟨c, hc, hbuilding, -⟩ := h
  exact ⟨c, hc, hbuilding⟩

theorem length_knownTechs_le {p : Player} (hp : p ∈ w.players) (honce : p.knownTechs.Nodup) :
    p.knownTechs.length ≤ w.techsEverKnown.length := by
  refine (List.subperm_of_subset honce fun tech htech => ?_).length_le
  rw [techsEverKnown, List.mem_eraseDups, List.mem_append]
  exact .inl (List.mem_flatMap.2 ⟨p, hp, htech⟩)

end World

/-! ## The chains of scopes -/

namespace Situation

/-- For facts of the kind the second scope is the next of a chain, and the players that this step
looks at live in the world. -/
inductive Widens (s : Situation) (w : World) (kind : FactKind) : Scope → Scope → Prop
  | cardinal : Widens s w kind .here .cardinal
  | adjacent : Widens s w kind .cardinal .adjacent
  | tradeRoute : Widens s w kind .city .tradeRoute
  | continent : Widens s w kind .continent .world
  | team (hplayer : ∀ p ∈ s.player, p ∈ w.alivePlayers) : Widens s w kind .player .team
  | alliance : Widens s w kind .team .alliance
  | world : Widens s w kind .alliance .world
  | techs (hkind : kind = .measure .techs) (hplayer : ∀ p ∈ s.player, p ∈ w.alivePlayers)
      (honce : ∀ p ∈ s.player, p.knownTechs.Nodup) : Widens s w kind .player .world
  | relation (hkind : kind = .choice .relation)
      (hother : ∀ p ∈ s.otherPlayer, p ∈ w.alivePlayers) : Widens s w kind .here .player

end Situation

namespace Truth

def Reaches (first second : Option Truth) : Prop :=
  first = some .yes → second.isSome = true → second = some .yes

namespace Reaches

theorem refl (answer : Option Truth) : Reaches answer answer := fun h _ => h

theorem of_none_left (second : Option Truth) : Reaches none second := by
  intro h
  contradiction

theorem of_none_right (first : Option Truth) : Reaches first none := by
  intro _ h
  contradiction

end Reaches

end Truth

namespace Situation

open Truth

variable {s : Situation} {w : World} {kind : FactKind} {narrow wide : Scope}

theorem Widens.covered_subset (h : s.Widens w kind narrow wide) {p : Player}
    (hp : s.player = some p) (hsocial : narrow.isSocial = true) :
    wide.isSocial = true ∧ w.covered p narrow ⊆ w.covered p wide := by
  cases h with
  | cardinal | adjacent | tradeRoute | continent | relation => contradiction
  | team hplayer => exact ⟨rfl, World.covered_player_subset_team (hplayer p hp)⟩
  | alliance => exact ⟨rfl, w.covered_team_subset_alliance p⟩
  | world => exact ⟨rfl, w.covered_alliance_subset_world p⟩
  | techs _ hplayer =>
      exact ⟨rfl, World.covered_subset (hplayer p hp) rfl rfl (by decide)⟩

/-! ## Searches -/

theorem reaches_someTile (hw : s.world = some w) (hnext : s.Widens w kind narrow wide)
    (test : Tile → Bool) : Reaches (s.someTile narrow test) (s.someTile wide test) := by
  cases hnext with
  | cardinal =>
      intro h _
      obtain ⟨t, ht, htest⟩ := known_eq_yes_iff.1 h
      rw [tileData?_eq_bind, hw, Option.bind_some] at ht
      obtain ⟨centre, hcentre, ht⟩ := Option.bind_eq_some_iff.1 ht
      refine known₂_eq_yes_iff.2 ⟨w, centre, hw, hcentre, ?_⟩
      have hany : (w.tile? centre).any test = true := (Option.any_eq_true _ _).2 ⟨t, ht, htest⟩
      exact List.any_eq_true.2 ⟨centre, List.mem_cons_self, hany⟩
  | adjacent =>
      intro h _
      obtain ⟨w', centre, hw', hcentre, hany⟩ := known₂_eq_yes_iff.1 h
      refine known₂_eq_yes_iff.2 ⟨w', centre, hw', hcentre, ?_⟩
      obtain ⟨tile, htile, htest⟩ := List.any_eq_true.1 hany
      refine List.any_eq_true.2 ⟨tile, ?_, htest⟩
      exact List.cons_subset_cons centre
        (w'.map.geometry.cardinalNeighbours_subset_adjacentNeighbours centre) htile
  | tradeRoute =>
      intro h _
      obtain ⟨w', c, hw', hc, hany⟩ := known₂_eq_yes_iff.1 h
      refine known₂_eq_yes_iff.2 ⟨w', c, hw', hc, ?_⟩
      exact List.any_eq_true.2 ⟨c, List.mem_cons_self, hany⟩
  | continent | team | alliance | world | techs => exact .of_none_left _
  | relation => exact .of_none_right _

theorem reaches_someCity (hnext : s.Widens w kind narrow wide) (test : City → Bool) :
    Reaches (s.someCity narrow test) (s.someCity wide test) := by
  cases hnext with
  | tradeRoute =>
      intro h _
      obtain ⟨c, hc, htest⟩ := known_eq_yes_iff.1 h
      simp [someCity, hc, htest]
  | cardinal | adjacent | continent | team | alliance | world | techs | relation =>
      exact .of_none_left _

theorem reaches_somePlayer (hw : s.world = some w) (hnext : s.Widens w kind narrow wide)
    (test : Player → Bool) : Reaches (s.somePlayer narrow test) (s.somePlayer wide test) := by
  cases hp : s.player with
  | none =>
      -- no chain starts from the world, the one scope that needs no player
      cases hnext <;> first
        | exact .of_none_left _
        | intro h; simp [somePlayer, hp, known, known₂] at h
  | some p =>
      intro h _
      by_cases hsocial : narrow.isSocial = true
      · obtain ⟨hsocial', hsub⟩ := hnext.covered_subset hp hsocial
        rw [somePlayer_eq_covered hw hp hsocial] at h
        rw [somePlayer_eq_covered hw hp hsocial']
        simp only [Option.some.injEq, ofBool_eq_yes, List.any_eq_true] at h ⊢
        obtain ⟨q, hq, htest⟩ := h
        exact ⟨q, hsub hq, htest⟩
      · cases narrow <;> first
          | exact absurd rfl hsocial
          | contradiction

theorem reaches_cityTile (hw : s.world = some w) (hnext : s.Widens w kind narrow wide)
    (property : CityTile) :
    Reaches (cityTileTruth? s narrow property) (cityTileTruth? s wide property) := by
  cases property with
  | center | claimed | extrasOwned | worked => exact reaches_someTile hw hnext _
  | sameContinent =>
      unfold cityTileTruth?
      cases s.world.bind fun w => s.city.bind w.continentOf? with
      | none => exact .refl _
      | some continent => exact reaches_someTile hw hnext _

theorem reaches_culture (hw : s.world = some w) (hnext : s.Widens w kind narrow wide)
    (least : Int) : Reaches (cultureTruth? s narrow least) (cultureTruth? s wide least) := by
  have hplayers := reaches_somePlayer hw hnext fun p => w.cultureOf p ≥ least
  have hcities := reaches_someCity hnext fun c => c.culture ≥ least
  unfold cultureTruth?
  rw [hw]
  cases hnext with
  | tradeRoute => exact hcities
  | cardinal | adjacent | continent | team | alliance | world | techs | relation =>
      exact hplayers

theorem reaches_playersIn (hw : s.world = some w)
    (hsub : ∀ p ∈ s.player, w.playersIn p.id narrow ⊆ w.playersIn p.id wide)
    (test : World → Player → Bool) :
    Reaches (some (known₂ s.world s.player fun w p => (w.playersIn p.id narrow).any (test w)))
      (some (known₂ s.world s.player fun w p => (w.playersIn p.id wide).any (test w))) := by
  intro h _
  obtain ⟨w', p, hw', hp, hany⟩ := known₂_eq_yes_iff.1 h
  obtain rfl : w = w' := Option.some.inj (hw.symm.trans hw')
  obtain ⟨q, hq, htest⟩ := List.any_eq_true.1 hany
  refine known₂_eq_yes_iff.2 ⟨w, p, hw, hp, ?_⟩
  exact List.any_eq_true.2 ⟨q, hsub p hp hq, htest⟩

theorem reaches_building (hw : s.world = some w)
    (hnext : s.Widens w (.entity .building) narrow wide) (building : Ref Building) :
    Reaches (buildingTruth? s narrow false building) (buildingTruth? s wide false building) := by
  have hcities := reaches_someCity hnext fun c => c.hasBuilding building
  have hworld : ∀ w' ∈ s.world, 0 < w'.countBuilding building →
      buildingTruth? s .world false building = some .yes := fun w' hw' hcount =>
    known_eq_yes_iff.2 ⟨w', hw', by simpa using hcount⟩
  cases hnext with
  | cardinal => exact .of_none_right _
  | adjacent => exact .of_none_left _
  | tradeRoute => exact hcities
  | continent =>
      intro h _
      obtain ⟨w', continent, hw', -, hcount⟩ := known₂_eq_yes_iff.1 h
      exact hworld w' hw' (World.countBuilding_pos_of_continent (of_decide_eq_true hcount))
  | team hplayer =>
      refine reaches_playersIn hw (fun p hp => ?_) _
      exact World.playersIn_player_subset_team (World.mem_alivePlayers.1 (hplayer p hp)).1
  | alliance =>
      refine reaches_playersIn hw (fun p _ => ?_) _
      exact w.covered_team_subset_alliance p
  | world =>
      intro h _
      obtain ⟨w', p, hw', -, hany⟩ := known₂_eq_yes_iff.1 h
      obtain ⟨q, -, hcount⟩ := List.any_eq_true.1 hany
      exact hworld w' hw' (World.countBuilding_pos_of_owner (of_decide_eq_true hcount))
  | techs hkind | relation hkind => contradiction

theorem reaches_relation (hw : s.world = some w)
    (hnext : s.Widens w (.choice .relation) narrow wide) (relation : Relation) :
    Reaches (relationTruth? s narrow relation) (relationTruth? s wide relation) := by
  intro h hwide
  obtain ⟨⟨w', p, hw', hp⟩, hpartner⟩ :=
    RelationDemand.exists_of_answer (d := ⟨relation, narrow, true⟩) (b := true) h
  obtain rfl : w = w' := Option.some.inj (hw.symm.trans hw')
  have hsocial : ∀ scope : Scope, scope.isSocial = true → relationTruth? s scope relation =
      some (.ofBool ((w.covered p scope).any (relatedToSomeone w relation))) := fun scope hscope =>
    RelationDemand.answer_social (d := ⟨relation, scope, true⟩) hw hp hscope
  by_cases hnarrow : narrow.isSocial = true
  · obtain ⟨hwide', hsub⟩ := hnext.covered_subset hp hnarrow
    rw [hsocial narrow hnarrow] at h
    rw [hsocial wide hwide']
    simp only [Option.some.injEq, ofBool_eq_yes, List.any_eq_true] at h ⊢
    obtain ⟨q, hq, hrelated⟩ := h
    exact ⟨q, hsub hq, hrelated⟩
  · cases hnext with
    | team | alliance | world | techs => exact absurd rfl hnarrow
    | cardinal | adjacent | tradeRoute => simp [relationTruth?, hw, hp] at hwide
    | continent => simp [relationTruth?, hw, hp] at h
    | relation _ hother =>
        obtain ⟨other, hknown⟩ := hpartner rfl
        have hhere : relationTruth? s .here relation =
            some (.ofBool (w.related p.id other.id relation)) :=
          RelationDemand.answer_here hw hp hknown relation true
        rw [hhere] at h
        have hrelated : w.related p.id other.id relation = true := by simpa using h
        rw [hsocial .player rfl]
        simp only [World.covered, List.any_cons, List.any_nil, Bool.or_false, Option.some.injEq,
          ofBool_eq_yes]
        exact List.any_eq_true.2 ⟨other, hother other hknown, hrelated⟩

theorem reaches_techs (hw : s.world = some w)
    (hnext : s.Widens w (.measure .techs) .player .world) (least : Int) :
    Reaches (s.somePlayer .player fun p => (p.knownTechs.length : Int) ≥ least)
      (some (known s.world fun w => (w.techsEverKnown.length : Int) ≥ least)) := by
  cases hnext with
  | techs _ hplayer honce =>
      intro h _
      obtain ⟨p, hp, hcount⟩ := known_eq_yes_iff.1 h
      have hmem : p ∈ w.players := (World.mem_alivePlayers.1 (hplayer p hp)).1
      have hle := World.length_knownTechs_le hmem (honce p hp)
      refine known_eq_yes_iff.2 ⟨w, hw, ?_⟩
      simp only [decide_eq_true_eq] at hcount ⊢
      omega

theorem reaches_age (hnext : s.Widens w (.measure .age) narrow wide) (least : Int) :
    Reaches (ageTruth? s narrow least) (ageTruth? s wide least) := by
  cases hnext with
  | cardinal | tradeRoute | team => exact .of_none_right _
  | adjacent | continent | alliance | world => exact .of_none_left _
  | techs hkind | relation hkind => contradiction

end Situation

/-! ## What a requirement asks -/

namespace Requirement

open Situation

variable {rs : Ruleset} {s : Situation} {w : World} {wide : Scope}

theorem reaches_judge? (hw : s.world = some w) (r : Requirement) (hpast : r.survives = false)
    (hlegal : r.kind.scopes.contains r.scope = true) (hlegal' : r.kind.scopes.contains wide = true)
    (hnext : s.Widens w r.kind r.scope wide) :
    Truth.Reaches (judge? rs r s) (judge? rs { r with scope := wide } s) := by
  obtain ⟨fact, scope, survives, present, quiet⟩ := r
  cases hpast
  cases fact with
  | none | invalid => exact .refl _
  | entity kind ref =>
      cases kind with
      | terrain | extra => exact reaches_someTile hw hnext _
      | tech | nation | government | achievement | nationGroup =>
          exact reaches_somePlayer hw hnext _
      | building => exact reaches_building hw hnext _
      | good => exact reaches_someCity hnext _
      | nationality =>
          simp only [judge?, hw]
          exact reaches_someCity hnext _
      | unitType | unitClass | action | specialist | serverSetting => exact .refl _
  | flag kind flag =>
      cases kind with
      | terrain | extra | base | road => exact reaches_someTile hw hnext _
      | tech => exact reaches_somePlayer hw hnext _
      | unitType | unitClass => exact .refl _
  | choice kind value =>
      cases kind with
      | terrainClass | alteration => exact reaches_someTile hw hnext _
      | cityTile => exact reaches_cityTile hw hnext _
      | aiLevel => exact reaches_somePlayer hw hnext _
      | relation => exact reaches_relation hw hnext _
      | cityStatus => exact reaches_someCity hnext _
      | genus | output | vision | intelligence | unitState | activity | topology => exact .refl _
  | measure measure bound =>
      cases measure with
      | unitsOnTile => exact reaches_someTile hw hnext _
      | techs =>
          -- technologies are not counted between the player and the world
          have hends : ∀ scope : Scope, (FactKind.measure .techs).scopes.contains scope = true →
              scope = .player ∨ scope = .world := by
            intro scope hscope
            revert hscope
            cases scope <;> decide
          rcases hends scope hlegal with rfl | rfl
          · rcases hends wide hlegal' with rfl | rfl
            · cases hnext
            · exact reaches_techs hw hnext _
          · cases hnext
      | culture => exact reaches_culture hw hnext _
      | size | foreignPercent => exact reaches_someCity hnext _
      | age => exact reaches_age hnext _
      | veteran | moveFragments | hitPoints | year | calendarFragment => exact .refl _

theorem eval_widens (rs : Ruleset) (r : Requirement) (hpast : r.survives = false) {s : Situation}
    {w : World} (hw : s.world = some w) {wide : Scope}
    (hnext : s.Widens w r.kind r.scope wide) (hlegal : r.kind.scopes.contains wide = true)
    (h : r.eval rs s = .yes) : ({ r with scope := wide } : Requirement).eval rs s = .yes := by
  obtain ⟨hscope, hjudge⟩ := (eval_eq_ofBool_iff (b := true)).1 h
  have hwide : ({ r with scope := wide } : Requirement).scopeIsLegal = true := hlegal
  obtain ⟨answer, hanswer, -⟩ := answered_judge? hwide rs s
  have hyes := reaches_judge? hw r hpast hscope hlegal hnext hjudge (by rw [hanswer]; rfl)
  exact (eval_eq_ofBool_iff (b := true)).2 ⟨hwide, hyes⟩

/-- A fact that is found in a scope is found in the next wider one, if it has a meaning in both.
So says a program that checks its results as well, unless what the wider scope adds is too large
for its words. -/
theorem yes_widens (rs : Ruleset) (r : Requirement) (hpast : r.survives = false) {s : Situation}
    {w : World} (hw : s.world = some w) {wide : Scope}
    (hnext : s.Widens w r.kind r.scope wide) (hlegal : r.kind.scopes.contains wide = true)
    (h : r.eval rs s = .yes) :
    let wider : Requirement := { r with scope := wide }
    wider.eval rs s = .yes ∧
      (∀ truth, (wider.evalM rs s).checked = some truth → truth = .yes) ∧
      (s.InWords w → (wider.evalM rs s).checked = some .yes) := by
  intro wider
  have hyes : wider.eval rs s = .yes := eval_widens rs r hpast hw hnext hlegal h
  refine ⟨hyes, fun truth hanswer => (eval_of_checked hanswer).symm.trans hyes, fun hwords => ?_⟩
  rw [exact_evalM hw hwords wider, modular_evalM, hyes]

/-! ## A foreigner at hand -/

def foreigner (scope : Scope) : Requirement := { fact := .choice .relation .foreign, scope }

theorem foreigner_widens :
    (foreigner .here).eval Ruleset.base fullScene = .yes ∧
      (foreigner .player).eval Ruleset.base fullScene = .yes ∧
      (foreigner .team).eval Ruleset.base fullScene = .yes ∧
      (foreigner .alliance).eval Ruleset.base fullScene = .yes ∧
      fullScene.InWords ({} : Scene).world ∧
      ((foreigner .alliance).evalM Ruleset.base fullScene).checked = some .yes := by
  have hleader : ∀ p ∈ fullScene.player, p ∈ ({} : Scene).world.alivePlayers := by
    rintro _ ⟨⟩
    exact List.mem_cons_self
  have hpartner : ∀ p ∈ fullScene.otherPlayer, p ∈ ({} : Scene).world.alivePlayers := by
    rintro _ ⟨⟩
    exact List.mem_cons_of_mem _ List.mem_cons_self
  have hhere : (foreigner .here).eval Ruleset.base fullScene = .yes := by decide
  have hplayer := (yes_widens Ruleset.base (foreigner .here) rfl rfl
    (.relation rfl hpartner) (by decide) hhere).1
  have hteam := (yes_widens Ruleset.base (foreigner .player) rfl rfl (.team hleader) (by decide)
    hplayer).1
  obtain ⟨halliance, -, hsmall⟩ :=
    yes_widens Ruleset.base (foreigner .team) rfl rfl .alliance (by decide) hteam
  exact ⟨hhere, hplayer, hteam, halliance, fullScene_inWords, hsmall fullScene_inWords⟩

end Requirement

end Rulebook
