import Mathlib.Algebra.Order.BigOperators.Group.List
import Mathlib.Algebra.Order.Ring.Nat
import Rulebook.Evaluation.Arithmetic
import Rulebook.Proofs.Map.Checked

/-!
Answers as calculations.

Carried out modulo 2 ^ 32, the calculation behind an answer ends in the answer.  So
wherever a program that checks its results comes to an end, it gives that answer
too; and it does in every situation whose numbers are small.
-/

namespace Rulebook

open Calculation Truth

/-! ## What the calculations end in -/

namespace Truth

@[simp] theorem modular_knownM {α : Type} (value : Option α) (test : α → Calculation Bool) :
    (knownM value test).modular = known value fun a => (test a).modular := by
  cases value with
  | none => rfl
  | some a => exact modular_bind _ _

@[simp] theorem modular_known₂M {α β : Type} (a : Option α) (b : Option β)
    (test : α → β → Calculation Bool) :
    (known₂M a b test).modular = known₂ a b fun a b => (test a b).modular := by
  cases a with
  | none => rfl
  | some a =>
      cases b with
      | none => rfl
      | some b => exact modular_bind _ _

end Truth

namespace Situation

variable {s : Situation}

theorem modular_neighbourhoodM (g : Geometry) (scope : Scope) (centre : TileIndex) :
    (neighbourhoodM g scope centre).modular = neighbourhood g scope centre := by
  unfold neighbourhoodM neighbourhood
  split
  · rw [modular_bind]
    rfl
  · rw [modular_bind]
    rfl

theorem modular_anyCityTileM (w : World) (test : Tile → Bool) (c : City) :
    (anyCityTileM w test c).modular = anyTile w (w.cityTiles c) test := by
  rw [anyCityTileM, modular_bind, modular_pure, World.cityTiles]

theorem map_modular_someTileM? (s : Situation) (scope : Scope) (test : Tile → Bool) :
    (s.someTileM? scope test).map modular = s.someTile scope test := by
  cases scope with
  | here | continent | player | team | alliance | world => rfl
  | cardinal | adjacent =>
      simp only [someTileM?, someTile, Option.map_some, modular_known₂M, modular_bind,
        modular_pure, modular_neighbourhoodM]
  | city | tradeRoute =>
      simp only [someTileM?, someTile, Option.map_some, modular_known₂M, modular_anyM,
        modular_anyCityTileM]

theorem map_modular_someCityM? (s : Situation) (scope : Scope) (test : City → Calculation Bool) :
    (s.someCityM? scope test).map modular = s.someCity scope fun c => (test c).modular := by
  cases scope with
  | city => simp only [someCityM?, someCity, Option.map_some, modular_knownM]
  | tradeRoute =>
      cases hcity : s.city with
      | none => simp only [someCityM?, someCity, hcity]; rfl
      | some c =>
          simp only [someCityM?, someCity, hcity, Option.map_some, modular_bind]
          by_cases h : (test c).modular = true
          · rw [if_pos h, if_pos h, modular_pure]
          · rw [if_neg h, if_neg h, modular_knownM]
            simp only [modular_anyM]
  | here | cardinal | adjacent | continent | player | team | alliance | world => rfl

theorem map_modular_somePlayerM? (s : Situation) (scope : Scope)
    (test : Player → Calculation Bool) :
    (s.somePlayerM? scope test).map modular = s.somePlayer scope fun p => (test p).modular := by
  cases scope with
  | player | team | alliance | world =>
      simp only [somePlayerM?, somePlayer, Option.map_some, modular_knownM, modular_known₂M,
        modular_anyM]
  | here | cardinal | adjacent | city | tradeRoute | continent => rfl

theorem map_modular_cultureTruthM? (s : Situation) (scope : Scope) (least : Int) :
    (cultureTruthM? s scope least).map modular = cultureTruth? s scope least := by
  have hcities := map_modular_someCityM? s scope fun c => pure (decide (c.culture ≥ least))
  cases scope with
  | city | tradeRoute => exact hcities
  | here | cardinal | adjacent | continent | player | team | alliance | world =>
      simp only [cultureTruthM?, cultureTruth?]
      cases s.world with
      | none => rfl
      | some w =>
          rw [map_modular_somePlayerM?]
          simp only [modular_bind, modular_pure]
          rfl

theorem map_modular_ageTruthM? (s : Situation) (scope : Scope) (least : Int) :
    (ageTruthM? s scope least).map modular = ageTruth? s scope least := by
  cases scope with
  | here | city | player =>
      simp only [ageTruthM?, ageTruth?, Option.map_some, modular_known₂M, modular_bind,
        modular_pure]
  | cardinal | adjacent | tradeRoute | continent | team | alliance | world => rfl

end Situation

open Situation

theorem cityTileTruth?_of_test? {s : Situation} {scope : Scope} {property : CityTile}
    {test : Tile → Bool} (h : cityTileTest? s property = some test) :
    cityTileTruth? s scope property = s.someTile scope test := by
  cases property with
  | center | claimed | extrasOwned | worked =>
      obtain rfl := Option.some.inj h
      rfl
  | sameContinent =>
      obtain ⟨continent, hcontinent, rfl⟩ := Option.map_eq_some_iff.1 h
      simp only [cityTileTruth?, hcontinent]

theorem judge?_of_tileTest? {rs : Ruleset} {r : Requirement} {s : Situation} {test : Tile → Bool}
    (h : tileTest? rs s r.fact = some test) : judge? rs r s = s.someTile r.scope test := by
  obtain ⟨fact, scope, survives, present, quiet⟩ := r
  have hcityTile : ∀ property, fact = .choice .cityTile property →
      judge? rs ⟨fact, scope, survives, present, quiet⟩ s = s.someTile scope test := by
    rintro property rfl
    exact cityTileTruth?_of_test? h
  cases fact with
  | none | invalid => contradiction
  | entity kind ref | flag kind ref | choice kind ref | measure kind ref =>
      cases kind <;> first
        | contradiction
        | exact hcityTile _ rfl
        | obtain rfl := Option.some.inj h; rfl

theorem map_modular_judgeM? (rs : Ruleset) (r : Requirement) (s : Situation) :
    (judgeM? rs r s).map modular = judge? rs r s := by
  unfold judgeM?
  cases htest : tileTest? rs s r.fact with
  | some test => rw [map_modular_someTileM?, judge?_of_tileTest? htest]
  | none =>
      obtain ⟨fact, scope, survives, present, quiet⟩ := r
      dsimp only
      split
      · exact map_modular_cultureTruthM? s scope _
      · rw [map_modular_someCityM?]
        simp only [modular_bind, modular_pure]
        rfl
      · exact map_modular_ageTruthM? s scope _
      · cases judge? rs _ s <;> rfl

namespace Requirement

variable {rs : Ruleset}

theorem map_modular_evalM? (rs : Ruleset) (r : Requirement) (s : Situation) :
    (r.evalM? rs s).map modular = r.eval? rs s := by
  unfold evalM? eval?
  split
  · exact map_modular_judgeM? rs r s
  · rfl

@[simp] theorem modular_evalM (rs : Ruleset) (r : Requirement) (s : Situation) :
    (r.evalM rs s).modular = r.eval rs s := by
  rw [evalM, eval, ← map_modular_evalM?]
  cases r.evalM? rs s <;> rfl

theorem eval_of_checked {r : Requirement} {s : Situation} {truth : Truth}
    (h : (r.evalM rs s).checked = some truth) : r.eval rs s = truth := by
  rw [← modular_evalM, modular_of_checked h]

end Requirement

/-! ## Small numbers -/

structure City.InWords (c : City) (w : World) : Prop where
  tile : c.tile < w.map.geometry.tileCount
  radius : c.radiusSq < 2 ^ 31
  age : IsWord (w.info.turn - c.foundedTurn)
  citizens : (c.citizens.map fun (_, count) => count.natAbs).sum * 100 < 2 ^ 31

structure Player.InWords (p : Player) (w : World) : Prop where
  age : IsWord (w.info.turn - p.birthTurn)
  culture : p.culture.natAbs + ((w.citiesOf p.id).map (·.culture.natAbs)).sum < 2 ^ 31

/-- The numbers of the situation are so small that nothing computed about it leaves the words. -/
structure Situation.InWords (s : Situation) (w : World) : Prop where
  map : w.map.geometry.InWords
  tile : ∀ i ∈ s.tile, i < w.map.geometry.tileCount
  unitAge : ∀ u ∈ s.unit, IsWord (w.info.turn - u.birthTurn)
  city : ∀ c ∈ s.city, c.InWords w
  cities : ∀ c ∈ w.cities, c.InWords w
  player : ∀ p ∈ s.player, p.InWords w
  players : ∀ p ∈ w.players, p.InWords w

namespace Calculation

theorem checked_foldlM_word {numbers : List Int} {total : Int}
    (h : total.natAbs + (numbers.map Int.natAbs).sum < 2147483648) :
    (numbers.foldlM (fun total n => word (total + n)) total).checked =
      some (total + numbers.sum) := by
  induction numbers generalizing total with
  | nil => simp
  | cons n numbers ih =>
      rw [List.map_cons, List.sum_cons] at h
      have hword : IsWord (total + n) := ⟨by omega, by omega⟩
      rw [List.foldlM_cons, checked_bind_of (checked_word hword), ih (by omega), List.sum_cons,
        Int.add_assoc]

theorem checked_sum {numbers : List Int} (h : (numbers.map Int.natAbs).sum < 2147483648) :
    (sum numbers).checked = some numbers.sum := by
  rw [sum, checked_foldlM_word (by simpa using h), Int.zero_add]

theorem natAbs_sum_le (numbers : List Int) :
    numbers.sum.natAbs ≤ (numbers.map Int.natAbs).sum := by
  induction numbers with
  | nil => simp
  | cons n numbers ih =>
      rw [List.sum_cons, List.map_cons, List.sum_cons]
      omega

end Calculation

theorem City.InWords.exact_foreignPercentM {c : City} {w : World} (h : c.InWords w) :
    c.foreignPercentM.Exact := by
  unfold foreignPercentM
  split
  · exact exact_pure 0
  · let foreign := c.citizens.filter fun (nationality, _) => nationality != c.owner
    have hfewer : ((foreign.map (·.2)).map Int.natAbs).sum ≤
        (c.citizens.map fun (_, count) => count.natAbs).sum := by
      rw [List.map_map]
      exact (List.filter_sublist.map _).sum_le_sum fun _ _ => Nat.zero_le _
    have hcitizens := h.citizens
    have hsum : (sum (foreign.map (·.2))).checked = some (foreign.map (·.2)).sum :=
      checked_sum (by omega)
    refine (Exact.of_checked hsum).bind ?_
    rw [modular_of_checked hsum]
    have hcount := natAbs_sum_le (foreign.map (·.2))
    have hword : IsWord ((foreign.map (·.2)).sum * 100) := by
      constructor <;> omega
    exact (Exact.of_checked (checked_word hword)).bind (exact_pure _)

theorem Player.InWords.exact_cultureOfM {p : Player} {w : World} (h : p.InWords w) :
    (w.cultureOfM p).Exact := by
  have hculture := h.culture
  have hmap : ((w.citiesOf p.id).map (·.culture.natAbs)).sum =
      (((w.citiesOf p.id).map (·.culture)).map Int.natAbs).sum := by
    rw [List.map_map]
    rfl
  rw [hmap] at hculture
  have hsum : (sum ((w.citiesOf p.id).map (·.culture))).checked =
      some ((w.citiesOf p.id).map (·.culture)).sum := checked_sum (by omega)
  have hbound := natAbs_sum_le ((w.citiesOf p.id).map (·.culture))
  refine (Exact.of_checked hsum).bind ?_
  rw [modular_of_checked hsum]
  exact .of_checked (checked_word ⟨by omega, by omega⟩)

namespace Truth

theorem exact_knownM {α : Type} {value : Option α} {test : α → Calculation Bool}
    (h : ∀ a ∈ value, (test a).Exact) : (knownM value test).Exact := by
  cases value with
  | none => exact exact_pure _
  | some a => exact (h a rfl).bind (exact_pure _)

theorem exact_known₂M {α β : Type} {a : Option α} {b : Option β} {test : α → β → Calculation Bool}
    (h : ∀ x ∈ a, ∀ y ∈ b, (test x y).Exact) : (known₂M a b test).Exact := by
  cases a with
  | none => exact exact_pure _
  | some a =>
      cases b with
      | none => exact exact_pure _
      | some b => exact (h a rfl b rfl).bind (exact_pure _)

end Truth

namespace Situation

variable {s : Situation} {w : World}

theorem InWords.tradePartners (hs : s.InWords w) (c : City) :
    ∀ partner ∈ w.tradePartners c, partner.InWords w := by
  intro partner hpartner
  obtain ⟨id, -, hid⟩ := List.mem_filterMap.1 hpartner
  exact hs.cities partner (List.mem_of_find?_eq_some hid)

theorem InWords.playersIn (hs : s.InWords w) (id : PlayerId) (scope : Scope) :
    ∀ p ∈ w.playersIn id scope, p.InWords w := fun p hp =>
  hs.players p (List.mem_of_mem_filter (List.mem_of_mem_filter hp))

theorem InWords.exact_neighbourhoodM (hs : s.InWords w) {centre : TileIndex}
    (hcentre : centre ∈ s.tile) (scope : Scope) :
    (neighbourhoodM w.map.geometry scope centre).Exact := by
  have htile := hs.tile centre hcentre
  unfold neighbourhoodM
  split
  · have hcardinal := Geometry.checked_cardinalNeighboursM htile hs.map.tiles
    exact (Exact.of_checked hcardinal).bind (exact_pure _)
  · have hadjacent := Geometry.checked_adjacentNeighboursM htile hs.map.tiles
    exact (Exact.of_checked hadjacent).bind (exact_pure _)

theorem InWords.exact_anyCityTileM (hs : s.InWords w) {c : City} (hc : c.InWords w)
    (test : Tile → Bool) : (anyCityTileM w test c).Exact :=
  (Exact.of_checked (hs.map.checked_tilesWithinM hc.tile hc.radius)).bind (exact_pure _)

theorem InWords.exact_someTileM? (hw : s.world = some w) (hs : s.InWords w) (scope : Scope)
    (test : Tile → Bool) : ∀ c ∈ s.someTileM? scope test, c.Exact := by
  have heach : ∀ w' ∈ s.world, w' = w := fun w' hw' => Option.mem_unique hw' hw
  cases scope with
  | here =>
      rintro _ ⟨⟩
      exact exact_pure _
  | cardinal | adjacent =>
      rintro _ ⟨⟩
      refine exact_known₂M fun w' hw' centre hcentre => ?_
      obtain rfl := heach w' hw'
      exact (hs.exact_neighbourhoodM hcentre _).bind (exact_pure _)
  | city =>
      rintro _ ⟨⟩
      refine exact_known₂M fun w' hw' c hc => ?_
      obtain rfl := heach w' hw'
      exact hs.exact_anyCityTileM (hs.city c hc) test
  | tradeRoute =>
      rintro _ ⟨⟩
      refine exact_known₂M fun w' hw' c hc => exact_anyM fun c' hc' => ?_
      obtain rfl := heach w' hw'
      rcases List.mem_cons.1 hc' with rfl | hpartner
      · exact hs.exact_anyCityTileM (hs.city c' hc) test
      · exact hs.exact_anyCityTileM (hs.tradePartners c c' hpartner) test
  | continent | player | team | alliance | world =>
      rintro _ ⟨⟩

theorem InWords.exact_someCityM? (hw : s.world = some w) (hs : s.InWords w) (scope : Scope)
    {test : City → Calculation Bool} (htest : ∀ c : City, c.InWords w → (test c).Exact) :
    ∀ c ∈ s.someCityM? scope test, c.Exact := by
  cases scope with
  | city =>
      rintro _ ⟨⟩
      exact exact_knownM fun c hc => htest c (hs.city c hc)
  | tradeRoute =>
      unfold someCityM?
      cases hcity : s.city with
      | none =>
          rintro _ ⟨⟩
          exact exact_pure _
      | some c =>
          rintro _ ⟨⟩
          refine (htest c (hs.city c hcity)).bind (.ite (fun _ => exact_pure _) fun _ => ?_)
          refine exact_knownM fun w' hw' => exact_anyM fun c' hc' => ?_
          obtain rfl := Option.mem_unique hw' hw
          exact htest c' (hs.tradePartners c c' hc')
  | here | cardinal | adjacent | continent | player | team | alliance | world =>
      rintro _ ⟨⟩

theorem InWords.exact_somePlayerM? (hw : s.world = some w) (hs : s.InWords w) (scope : Scope)
    {test : Player → Calculation Bool} (htest : ∀ p : Player, p.InWords w → (test p).Exact) :
    ∀ c ∈ s.somePlayerM? scope test, c.Exact := by
  cases scope with
  | player =>
      rintro _ ⟨⟩
      exact exact_knownM fun p hp => htest p (hs.player p hp)
  | team | alliance =>
      rintro _ ⟨⟩
      refine exact_known₂M fun w' hw' p _ => exact_anyM fun p' hp' => ?_
      obtain rfl := Option.mem_unique hw' hw
      exact htest p' (hs.playersIn p.id _ p' hp')
  | world =>
      rintro _ ⟨⟩
      refine exact_knownM fun w' hw' => exact_anyM fun p hp => ?_
      obtain rfl := Option.mem_unique hw' hw
      exact htest p (hs.players p (List.mem_of_mem_filter hp))
  | here | cardinal | adjacent | city | tradeRoute | continent =>
      rintro _ ⟨⟩

theorem InWords.exact_cultureTruthM? (hw : s.world = some w) (hs : s.InWords w) (scope : Scope)
    (least : Int) : ∀ c ∈ cultureTruthM? s scope least, c.Exact := by
  cases scope with
  | city | tradeRoute =>
      simp only [cultureTruthM?]
      exact hs.exact_someCityM? hw _ fun c _ => exact_pure _
  | here | cardinal | adjacent | continent | player | team | alliance | world =>
      simp only [cultureTruthM?, hw]
      exact hs.exact_somePlayerM? hw _ fun p hp => hp.exact_cultureOfM.bind (exact_pure _)

theorem InWords.exact_ageTruthM? (hw : s.world = some w) (hs : s.InWords w) (scope : Scope)
    (least : Int) : ∀ c ∈ ageTruthM? s scope least, c.Exact := by
  have hsince : ∀ {born : Option Int}, (∀ n ∈ born, IsWord (w.info.turn - n)) →
      (known₂M s.world born fun w born => do return (← ageM w born) ≥ least).Exact := by
    intro born hborn
    refine exact_known₂M fun w' hw' n hn => ?_
    obtain rfl := Option.mem_unique hw' hw
    exact (Exact.of_checked (checked_word (hborn n hn))).bind (exact_pure _)
  cases scope with
  | here =>
      rintro _ ⟨⟩
      exact hsince (Option.forall_mem_map.2 hs.unitAge)
  | city =>
      rintro _ ⟨⟩
      exact hsince (Option.forall_mem_map.2 fun c hc => (hs.city c hc).age)
  | player =>
      rintro _ ⟨⟩
      exact hsince (Option.forall_mem_map.2 fun p hp => (hs.player p hp).age)
  | cardinal | adjacent | tradeRoute | continent | team | alliance | world =>
      rintro _ ⟨⟩

theorem InWords.exact_judgeM? (hw : s.world = some w) (hs : s.InWords w) (rs : Ruleset)
    (r : Requirement) : ∀ c ∈ judgeM? rs r s, c.Exact := by
  unfold judgeM?
  split
  · exact hs.exact_someTileM? hw _ _
  · split
    · exact hs.exact_cultureTruthM? hw _ _
    · exact hs.exact_someCityM? hw _ fun c hc => hc.exact_foreignPercentM.bind (exact_pure _)
    · exact hs.exact_ageTruthM? hw _ _
    · intro c hc
      obtain ⟨truth, -, rfl⟩ := Option.map_eq_some_iff.1 hc
      exact exact_pure truth

end Situation

namespace Requirement

variable {rs : Ruleset} {s : Situation} {w : World}

theorem exact_evalM (hw : s.world = some w) (hs : s.InWords w) (r : Requirement) :
    (r.evalM rs s).Exact := by
  unfold evalM evalM?
  split
  · cases hjudge : judgeM? rs r s with
    | none => exact exact_pure _
    | some c => exact hs.exact_judgeM? hw rs r c hjudge
  · exact exact_pure _

end Requirement

end Rulebook
