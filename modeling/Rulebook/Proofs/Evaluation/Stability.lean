import Rulebook.Proofs.Evaluation.Growth
import Rulebook.Ruleset.Base

/-!
Which settled answers stay as situations grow.

All do but those about a building on a continent.  There the city stands in for a
missing tile, and a tile that comes in moves the question to its own continent;
the answer stays exactly if the two continents agree about the building.
-/

namespace Rulebook

namespace Requirement

/-- A building is looked for on the continent of the city, then a tile comes in, and of the two
continents one has the building and the other has not. -/
def Displaced (r : Requirement) (s more : Situation) : Prop :=
  s.tile = none ∧
    ∃ building, r.SeeksOnContinent building ∧
      ∃ w ∈ s.world, ∃ c ∈ s.city, ∃ home ∈ w.continentOf? c, ∃ tile ∈ more.tileData?,
        ¬ (0 < w.countBuildingOn home building ↔ 0 < w.countBuildingOn tile.continent building)

def Stable (rs : Ruleset) (r : Requirement) : Prop :=
  ∀ s more : Situation, s.GrowsTo more → more.TypesAgree →
    ∀ b : Bool, r.eval rs s = .ofBool b → r.eval rs more = .ofBool b

end Requirement

/-! ## The continent at hand -/

namespace Situation

variable {s more : Situation} {w : World}

theorem continentAt?_of_tile {tile : Tile} (h : s.tileData? = some tile) :
    continentAt? s w = some tile.continent := by
  simp [continentAt?, h]

theorem continentAt?_of_city {c : City} (hnone : s.tileData? = none) (hcity : s.city = some c) :
    continentAt? s w = w.continentOf? c := by
  simp [continentAt?, hnone, hcity]

theorem exists_city_of_continentAt? {continent : Int} (hnone : s.tileData? = none)
    (h : continentAt? s w = some continent) :
    ∃ c, s.city = some c ∧ w.continentOf? c = some continent := by
  cases hcity : s.city with
  | none => simp [continentAt?, hnone, hcity] at h
  | some c => exact ⟨c, rfl, (continentAt?_of_city hnone hcity).symm.trans h⟩

theorem GrowsTo.tile_eq_none (h : s.GrowsTo more) (hworld : s.world = some w)
    (hnone : s.tileData? = none) {tile : Tile} (htile : more.tileData? = some tile) :
    s.tile = none := by
  cases hplace : s.tile with
  | none => rfl
  | some i =>
      have hsame : more.tileData? = s.tileData? := by
        rw [tileData?_eq_bind, tileData?_eq_bind, h.world.eq_some hworld, h.tile.eq_some hplace,
          hworld, hplace]
      rw [hsame, hnone] at htile
      contradiction

end Situation

namespace Requirement

open Situation

variable {rs : Ruleset} {s more : Situation} {r : Requirement} {building : Ref Building}

theorem judge?_continent_iff (h : r.SeeksOnContinent building) {b : Bool} :
    judge? rs r s = some (.ofBool b) ↔
      ∃ w continent, s.world = some w ∧ continentAt? s w = some continent ∧
        decide (0 < w.countBuildingOn continent building) = b := by
  simp only [judge?, h.1, h.2, buildingTruth?, Option.some.injEq,
    Truth.known₂_eq_ofBool_iff]
  constructor
  · rintro ⟨w, continent, hworld, hcontinent, hcount⟩
    rw [hworld] at hcontinent
    exact ⟨w, continent, hworld, hcontinent, hcount⟩
  · rintro ⟨w, continent, hworld, hcontinent, hcount⟩
    exact ⟨w, continent, hworld, by rw [hworld]; exact hcontinent, hcount⟩

theorem displaced_iff (h : r.SeeksOnContinent building) {w : World} {c : City} {home : Int} {tile : Tile}
    (hworld : s.world = some w) (hcity : s.city = some c) (hhome : w.continentOf? c = some home)
    (hnone : s.tile = none) (htile : more.tileData? = some tile) :
    r.Displaced s more ↔
      ¬ (0 < w.countBuildingOn home building ↔ 0 < w.countBuildingOn tile.continent building) := by
  constructor
  · rintro ⟨-, building', h', w', hw, c', hc, home', hhome', tile', ht, hdiffer⟩
    cases h.1.symm.trans h'.1
    cases hworld.symm.trans hw
    cases hcity.symm.trans hc
    cases hhome.symm.trans hhome'
    cases htile.symm.trans ht
    exact hdiffer
  · intro hdiffer
    exact ⟨hnone, building, h, w, hworld, c, hcity, home, hhome, tile, htile, hdiffer⟩

theorem Displaced.exists_tile (h : r.Displaced s more) :
    s.tileData? = none ∧ ∃ tile, more.tileData? = some tile := by
  obtain ⟨hnone, -, -, -, -, -, -, -, -, tile, htile, -⟩ := h
  refine ⟨?_, tile, htile⟩
  rw [tileData?_eq_bind, hnone]
  cases s.world <;> rfl

/-- The answer about a continent stays unless the question is moved to one where it is another. -/
theorem stays_continent_iff (hgrows : s.GrowsTo more)
    (hseeks : r.SeeksOnContinent building) {b : Bool} (h : judge? rs r s = some (.ofBool b)) :
    judge? rs r more = some (.ofBool b) ↔ ¬ r.Displaced s more := by
  obtain ⟨w, continent, hworld, hcontinent, hcount⟩ := (judge?_continent_iff hseeks).1 h
  have hworld' : more.world = some w := hgrows.world.eq_some hworld
  have stays (hsame : continentAt? more w = some continent) :
      judge? rs r more = some (.ofBool b) :=
    (judge?_continent_iff hseeks).2 ⟨w, continent, hworld', hsame, hcount⟩
  cases htile : s.tileData? with
  | some tile =>
      -- the tile decides in both situations
      have hsame : continentAt? more w = some continent := by
        rw [continentAt?_of_tile (hgrows.tileData?.eq_some htile), ← continentAt?_of_tile htile]
        exact hcontinent
      refine iff_of_true (stays hsame) fun hdisplaced => ?_
      rw [hdisplaced.exists_tile.1] at htile
      contradiction
  | none =>
      obtain ⟨c, hcity, hhome⟩ := exists_city_of_continentAt? htile hcontinent
      have hcity' : more.city = some c := hgrows.city.eq_some hcity
      cases htile' : more.tileData? with
      | none =>
          -- the city decides in both situations
          refine iff_of_true (stays ((continentAt?_of_city htile' hcity').trans hhome)) ?_
          intro hdisplaced
          obtain ⟨tile, hmore⟩ := hdisplaced.exists_tile.2
          rw [htile'] at hmore
          contradiction
      | some tile =>
          rw [judge?_continent_iff hseeks, displaced_iff hseeks hworld hcity hhome
            (hgrows.tile_eq_none hworld htile htile') htile', Decidable.not_not, ← hcount]
          simp [hworld', continentAt?_of_tile htile', decide_eq_decide, iff_comm]

theorem eval_stays_iff (hgrows : s.GrowsTo more) (htypes : more.TypesAgree) {b : Bool}
    (h : r.eval rs s = .ofBool b) :
    r.eval rs more = .ofBool b ↔ ¬ r.Displaced s more := by
  obtain ⟨hscope, hjudge⟩ := eval_eq_ofBool_iff.1 h
  rw [eval_eq_ofBool_iff, and_iff_right hscope]
  by_cases hseeks : ∃ building, r.SeeksOnContinent building
  · obtain ⟨building, hseeks⟩ := hseeks
    exact stays_continent_iff hgrows hseeks hjudge
  · have stays : Truth.Stays (judge? rs r s) (judge? rs r more) :=
      stays_judge? hgrows htypes r fun building h => hseeks ⟨building, h⟩
    refine iff_of_true (stays b hjudge) ?_
    rintro ⟨-, building, h, -⟩
    exact hseeks ⟨building, h⟩

theorem isMet_possible_eq_ok_false_iff :
    r.isMet rs s .possible = .ok false ↔ r.isInvalid = true ∨
      (r.survivesIsLegal = true ∧ r.eval rs s = .ofBool !r.present) := by
  unfold isMet
  by_cases hinvalid : r.isInvalid = true
  · simp [hinvalid]
  · by_cases hsurvives : r.survivesIsLegal = true <;>
      cases r.eval rs s <;> cases r.present <;>
      simp [hinvalid, hsurvives, Truth.meets, Truth.ofBool]

theorem met_stays (hgrows : s.GrowsTo more) (htypes : more.TypesAgree)
    (hplace : ¬ r.Displaced s more) (h : r.Met rs s) : r.Met rs more := by
  obtain ⟨hinvalid, hsurvives, hscope, hjudge⟩ := met_iff.1 h
  have heval := (eval_stays_iff hgrows htypes (eval_eq_ofBool_iff.2 ⟨hscope, hjudge⟩)).2 hplace
  exact met_iff.2 ⟨hinvalid, hsurvives, hscope, (eval_eq_ofBool_iff.1 heval).2⟩

theorem ruledOut_stays (hgrows : s.GrowsTo more) (htypes : more.TypesAgree)
    (hplace : ¬ r.Displaced s more) (h : r.isMet rs s .possible = .ok false) :
    r.isMet rs more .possible = .ok false := by
  rw [isMet_possible_eq_ok_false_iff] at h ⊢
  rcases h with hinvalid | ⟨hsurvives, heval⟩
  · exact .inl hinvalid
  · exact .inr ⟨hsurvives, (eval_stays_iff hgrows htypes heval).2 hplace⟩

end Requirement

/-! ## Two shores -/

namespace Situation

def twoShores (building : Ref Building) : World where
  info := { turn := 0, year := 0 }
  map := ⟨⟨2, 1, {}⟩, #[{ terrain := ⟨3⟩, continent := 1 }, { terrain := ⟨3⟩, continent := 2 }]⟩
  players := [{ id := ⟨0⟩, nation := ⟨0⟩, team := ⟨0⟩, government := ⟨0⟩ }]
  cities := [port]
where
  port : City :=
    { id := ⟨0, 0⟩, name := "Rome", owner := ⟨0⟩, originalOwner := ⟨0⟩, tile := 0, size := 1
      buildings := [building] }

def inPort (building : Ref Building) (tile : Option TileIndex) : Situation where
  world := some (twoShores building)
  city := some (twoShores.port building)
  tile := tile

variable {building : Ref Building} {i : TileIndex}

theorem inPort_grows : (inPort building none).GrowsTo (inPort building (some i)) := by
  constructor <;> first | exact .refl _ | exact fun _ h => nomatch h

theorem inPort_typesAgree {tile : Option TileIndex} : (inPort building tile).TypesAgree :=
  fun _ h => nomatch h

theorem countBuildingOn_twoShores (building : Ref Building) (continent : Int) :
    0 < (twoShores building).countBuildingOn continent building ↔ continent = 1 := by
  have hhome : (twoShores building).continentOf? (twoShores.port building) = some 1 := rfl
  have hcities : (twoShores building).cities = [twoShores.port building] := rfl
  have hbuilding : (twoShores.port building).hasBuilding building = true := by
    simp [City.hasBuilding, twoShores.port]
  have hcount : (twoShores building).countBuildingOn continent building =
      if 1 = continent then 1 else 0 := by
    simp [World.countBuildingOn, hcities, hhome, hbuilding, List.countP_cons]
  rw [hcount]
  split <;> omega

end Situation

namespace Requirement

open Situation

variable {building : Ref Building} {r : Requirement}

theorem scopeIsLegal_of_seeksOnContinent (h : r.SeeksOnContinent building) :
    r.scopeIsLegal = true := by
  rw [scopeIsLegal, kind, h.1, h.2]
  rfl

theorem eval_inPort (rs : Ruleset) (h : r.SeeksOnContinent building) :
    r.eval rs (inPort building none) = .yes ∧ r.eval rs (inPort building (some 1)) = .no := by
  have hlegal := scopeIsLegal_of_seeksOnContinent h
  constructor
  · refine (eval_eq_ofBool_iff (b := true)).2 ⟨hlegal, (judge?_continent_iff h).2 ?_⟩
    refine ⟨twoShores building, 1, rfl, rfl, ?_⟩
    exact decide_eq_true ((countBuildingOn_twoShores building 1).2 rfl)
  · refine (eval_eq_ofBool_iff (b := false)).2 ⟨hlegal, (judge?_continent_iff h).2 ?_⟩
    refine ⟨twoShores building, 2, rfl, rfl, ?_⟩
    exact decide_eq_false fun hcount => absurd ((countBuildingOn_twoShores building 2).1 hcount)
      (by decide)

theorem stable_iff {rs : Ruleset} : r.Stable rs ↔ ∀ building, ¬ r.SeeksOnContinent building := by
  constructor
  · intro hstable building hseeks
    obtain ⟨hyes, hno⟩ := eval_inPort rs hseeks
    have hstays := hstable _ _ (inPort_grows (i := 1)) inPort_typesAgree true hyes
    rw [hno] at hstays
    contradiction
  · intro hnever s more hgrows htypes b h
    refine (eval_stays_iff hgrows htypes h).2 ?_
    rintro ⟨-, building, hseeks, -⟩
    exact hnever building hseeks

end Requirement

namespace Situation

/-- Settled answers stay as situations grow unless they are about a building on a continent, and
about that they stay unless a tile moves the question to a continent that differs in it.  Then what
is met for certain stays met, and what is ruled out stays ruled out. -/
theorem settled_answers_stay (rs : Ruleset) :
    (∀ r : Requirement, r.Stable rs ↔ ∀ building, ¬ r.SeeksOnContinent building) ∧
    ∀ s more : Situation, s.GrowsTo more → more.TypesAgree →
      (∀ (r : Requirement) (b : Bool), r.eval rs s = .ofBool b →
        (r.eval rs more = .ofBool b ↔ ¬ r.Displaced s more)) ∧
      (∀ r : Requirement, ¬ r.Displaced s more →
        (r.isMet rs s .certain = .ok true → r.isMet rs more .certain = .ok true) ∧
        (r.isMet rs s .possible = .ok false → r.isMet rs more .possible = .ok false)) ∧
      ∀ reqs : List Requirement,
        (∀ r ∈ reqs, r.survivesIsLegal = true ∧ ¬ r.Displaced s more) →
          (Requirement.areMet rs reqs s .certain = .ok true →
            Requirement.areMet rs reqs more .certain = .ok true) ∧
          (Requirement.areMet rs reqs s .possible = .ok false →
            Requirement.areMet rs reqs more .possible = .ok false) := by
  refine ⟨fun r => Requirement.stable_iff, fun s more hgrows htypes => ⟨?_, ?_, ?_⟩⟩
  · exact fun r b h => Requirement.eval_stays_iff hgrows htypes h
  · exact fun r hplace => ⟨Requirement.met_stays hgrows htypes hplace,
      Requirement.ruledOut_stays hgrows htypes hplace⟩
  · intro reqs hreqs
    have hlegal : ∀ r ∈ reqs, r.survivesIsLegal = true := fun r hr => (hreqs r hr).1
    rw [Requirement.areMet_eq_ok_true_iff, Requirement.areMet_eq_ok_true_iff,
      Requirement.areMet_eq_ok_false_iff hlegal, Requirement.areMet_eq_ok_false_iff hlegal]
    constructor
    · intro hmet r hr
      exact Requirement.met_stays hgrows htypes (hreqs r hr).2 (hmet r hr)
    · rintro ⟨r, hr, hruledOut⟩
      exact ⟨r, hr, Requirement.ruledOut_stays hgrows htypes (hreqs r hr).2 hruledOut⟩

def palace : Requirement := { fact := .entity .building ⟨8⟩, scope := .continent }

theorem palace_stays_in_port :
    (inPort ⟨8⟩ none).GrowsTo (inPort ⟨8⟩ (some 0)) ∧ (inPort ⟨8⟩ (some 0)).TypesAgree ∧
      palace.survivesIsLegal = true ∧ ¬ palace.Displaced (inPort ⟨8⟩ none) (inPort ⟨8⟩ (some 0)) ∧
      palace.eval Ruleset.base (inPort ⟨8⟩ none) = .yes ∧
      palace.eval Ruleset.base (inPort ⟨8⟩ (some 0)) = .yes := by
  have hyes := (Requirement.eval_inPort (r := palace) Ruleset.base ⟨rfl, rfl⟩).1
  have hplace : ¬ palace.Displaced (inPort ⟨8⟩ none) (inPort ⟨8⟩ (some 0)) := by
    rw [Requirement.displaced_iff (r := palace) ⟨rfl, rfl⟩ rfl rfl rfl rfl rfl]
    exact fun hdiffer => hdiffer Iff.rfl
  obtain ⟨-, stays⟩ := settled_answers_stay Ruleset.base
  obtain ⟨hstays, -, -⟩ := stays _ _ (inPort_grows (i := 0)) inPort_typesAgree
  exact ⟨inPort_grows, inPort_typesAgree, rfl, hplace, hyes, (hstays palace true hyes).2 hplace⟩

theorem palace_lost_across_the_water :
    (inPort ⟨8⟩ none).GrowsTo (inPort ⟨8⟩ (some 1)) ∧ (inPort ⟨8⟩ none).TypesAgree ∧
      (inPort ⟨8⟩ (some 1)).TypesAgree ∧ palace.survivesIsLegal = true ∧
      palace.eval Ruleset.base (inPort ⟨8⟩ none) = .yes ∧
      palace.eval Ruleset.base (inPort ⟨8⟩ (some 1)) = .no ∧
      palace.isMet Ruleset.base (inPort ⟨8⟩ none) .certain = .ok true ∧
      palace.isMet Ruleset.base (inPort ⟨8⟩ (some 1)) .certain = .ok false := by
  obtain ⟨hyes, hno⟩ := Requirement.eval_inPort (r := palace) Ruleset.base ⟨rfl, rfl⟩
  refine ⟨inPort_grows, inPort_typesAgree, inPort_typesAgree, rfl, hyes, hno, ?_, ?_⟩
  · rw [Requirement.isMet, hyes]
    rfl
  · rw [Requirement.isMet, hno]
    rfl

end Situation

end Rulebook
