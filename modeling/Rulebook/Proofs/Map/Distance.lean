import Mathlib.Algebra.Order.Ring.Int
import Mathlib.Data.Nat.Sqrt
import Rulebook.Proofs.Map.Coordinates

/-!
Distances on a map.

A distance does not depend on which of two tiles is named first, and a tile is at
no distance from itself only.  Whoever is so far away is reached by moving that
far at most along each axis and wrapping where the map wraps.
-/

namespace Rulebook

/-! ## Hexes -/

namespace Hex

theorem distance_comm (a b : Hex) : a.distance b = b.distance a := by
  unfold distance s
  omega

theorem distance_ofOffset_eq_zero_iff {x y x' y' : Int} :
    (ofOffset x y).distance (ofOffset x' y') = 0 ↔ x = x' ∧ y = y' := by
  simp only [distance, ofOffset, s]
  omega

theorem natAbs_sub_le_distance (x y x' y' : Int) :
    (x' - x).natAbs ≤ (ofOffset x y).distance (ofOffset x' y') ∧
      (y' - y).natAbs ≤ (ofOffset x y).distance (ofOffset x' y') := by
  simp only [distance, ofOffset, s]
  omega

theorem distance_ofOffset_add (x y x' y' shift : Int) :
    (ofOffset (x + shift) y).distance (ofOffset (x' + shift) y') =
      (ofOffset x y).distance (ofOffset x' y') := by
  simp only [distance, ofOffset, s]
  omega

end Hex

namespace Grid

variable {g : Grid} {tile other : TileIndex}

/-! ## One axis -/

section

variable {wraps : Bool} {extent : Nat} {a b : Int}

theorem axisDistance_comm (wraps : Bool) (extent : Nat) (a b : Int) :
    axisDistance wraps extent a b = axisDistance wraps extent b a := by
  unfold axisDistance
  rw [← Int.natAbs_neg, Int.neg_sub]

theorem axisDistance_self (wraps : Bool) (extent : Nat) (a : Int) :
    axisDistance wraps extent a a = 0 := by
  simp only [axisDistance]
  split <;> omega

theorem axisDistance_nonneg (wraps : Bool) (ha : 0 ≤ a) (halt : a < extent) (hb : 0 ≤ b)
    (hblt : b < extent) : 0 ≤ axisDistance wraps extent a b := by
  simp only [axisDistance]
  split <;> omega

theorem exists_axisDistance (wraps : Bool) (ha : 0 ≤ a) (halt : a < extent) (hb : 0 ≤ b)
    (hblt : b < extent) :
    ∃ step : Int, (step.natAbs : Int) = axisDistance wraps extent a b ∧
      wrapped wraps extent (a + step) = b := by
  -- some number of turns makes the way as short as the distance
  obtain ⟨turns, hturns, hdistance⟩ : ∃ turns : Int, Turns wraps turns ∧
      ((b + turns * extent - a).natAbs : Int) = axisDistance wraps extent a b := by
    simp only [axisDistance]
    split
    · next hwraps =>
        by_cases hshort : 2 * (a - b).natAbs ≤ extent
        · exact ⟨0, .none, by omega⟩
        · by_cases hle : b ≤ a
          · exact ⟨1, .inr ⟨hwraps, .inl rfl⟩, by omega⟩
          · exact ⟨-1, .inr ⟨hwraps, .inr rfl⟩, by omega⟩
    · exact ⟨0, .none, by omega⟩
  refine ⟨b + turns * extent - a, hdistance, ?_⟩
  rw [Int.add_comm, Int.sub_add_cancel, wrapped_add_turns hturns hb hblt]

end

/-! ## Steps on a hexagonal map -/

theorem hexSteps_le_iff {p q : Int × Int} {n : Nat} :
    g.hexSteps p q ≤ n ↔ ∃ turns, Turns g.topology.wrapX turns ∧
      (Hex.ofOffset p.1 p.2).distance (Hex.ofOffset (q.1 + turns * g.width) q.2) ≤ n := by
  unfold hexSteps Turns
  cases g.topology.wrapX with
  | false => simp
  | true =>
      simp only [if_true, true_and, Std.min_le]
      constructor
      · rintro (h | h | h)
        · exact ⟨-1, .inr (.inr rfl), h⟩
        · exact ⟨0, .inl rfl, h⟩
        · exact ⟨1, .inr (.inl rfl), h⟩
      · rintro ⟨turns, rfl | rfl | rfl, h⟩
        · exact .inr (.inl h)
        · exact .inr (.inr h)
        · exact .inl h

theorem hexSteps_comm (g : Grid) (p q : Int × Int) : g.hexSteps p q = g.hexSteps q p := by
  have hle : ∀ p q : Int × Int, g.hexSteps p q ≤ g.hexSteps q p := by
    intro p q
    obtain ⟨turns, hturns, hdistance⟩ := hexSteps_le_iff.1 (Nat.le_refl (g.hexSteps q p))
    refine hexSteps_le_iff.2 ⟨-turns, hturns.neg, ?_⟩
    rw [Hex.distance_comm, ← Hex.distance_ofOffset_add _ _ _ _ (turns * g.width), Int.neg_mul,
      Int.neg_add_cancel_right]
    exact hdistance
  exact Nat.le_antisymm (hle p q) (hle q p)

/-! ## Squared distances -/

theorem sqDistance_of_hex (hhex : g.topology.hex = true) (tile other : TileIndex) :
    g.sqDistance tile other = (g.hexSteps (g.coords tile) (g.coords other) : Int) *
      g.hexSteps (g.coords tile) (g.coords other) := by
  simp [sqDistance, hhex]

theorem sqDistance_of_square (hsquare : g.topology.hex = false) (tile other : TileIndex) :
    g.sqDistance tile other =
      axisDistance g.topology.wrapX g.width (g.coords tile).1 (g.coords other).1 *
          axisDistance g.topology.wrapX g.width (g.coords tile).1 (g.coords other).1 +
        axisDistance g.topology.wrapY g.height (g.coords tile).2 (g.coords other).2 *
          axisDistance g.topology.wrapY g.height (g.coords tile).2 (g.coords other).2 := by
  simp [sqDistance, hsquare]

theorem sqDistance_nonneg (g : Grid) (tile other : TileIndex) :
    0 ≤ g.sqDistance tile other := by
  unfold sqDistance
  dsimp only
  split
  · exact mul_self_nonneg _
  · exact Int.add_nonneg (mul_self_nonneg _) (mul_self_nonneg _)

theorem sqDistance_comm (g : Grid) (tile other : TileIndex) :
    g.sqDistance tile other = g.sqDistance other tile := by
  cases hhex : g.topology.hex with
  | true => rw [sqDistance_of_hex hhex, sqDistance_of_hex hhex, hexSteps_comm]
  | false =>
      rw [sqDistance_of_square hhex, sqDistance_of_square hhex,
        axisDistance_comm _ _ (g.coords tile).1, axisDistance_comm _ _ (g.coords tile).2]

theorem sqDistance_self (g : Grid) (tile : TileIndex) : g.sqDistance tile tile = 0 := by
  have hsteps : g.hexSteps (g.coords tile) (g.coords tile) = 0 := by
    refine Nat.le_zero.1 (hexSteps_le_iff.2 ⟨0, .none, Nat.le_zero.2 ?_⟩)
    exact Hex.distance_ofOffset_eq_zero_iff.2 ⟨by omega, rfl⟩
  simp [sqDistance, hsteps, axisDistance_self]

theorem axisDistance_le_natAbs {wraps : Bool} {turns : Int} (h : Turns wraps turns)
    (extent : Nat) (a b : Int) :
    axisDistance wraps extent a b ≤ (b + turns * extent - a).natAbs := by
  simp only [axisDistance]
  rcases h with rfl | ⟨hwraps, rfl | rfl⟩
  · split <;> omega
  · rw [if_pos hwraps]
    omega
  · rw [if_pos hwraps]
    omega

theorem axisDistances_le (h : tile < g.tileCount) (hother : other < g.tileCount) :
    axisDistance g.topology.wrapX g.width (g.coords tile).1 (g.coords other).1 *
        axisDistance g.topology.wrapX g.width (g.coords tile).1 (g.coords other).1 ≤
      g.sqDistance tile other ∧
    axisDistance g.topology.wrapY g.height (g.coords tile).2 (g.coords other).2 *
        axisDistance g.topology.wrapY g.height (g.coords tile).2 (g.coords other).2 ≤
      g.sqDistance tile other := by
  cases hhex : g.topology.hex with
  | false =>
      rw [sqDistance_of_square hhex]
      exact ⟨le_add_of_nonneg_right (mul_self_nonneg _), le_add_of_nonneg_left (mul_self_nonneg _)⟩
  | true =>
      obtain ⟨turns, hturns, hsteps⟩ := hexSteps_le_iff.1
        (Nat.le_refl (g.hexSteps (g.coords tile) (g.coords other)))
      obtain ⟨hdx, hdy⟩ := Hex.natAbs_sub_le_distance (g.coords tile).1 (g.coords tile).2
        ((g.coords other).1 + turns * g.width) (g.coords other).2
      have hcolumns := axisDistance_le_natAbs hturns g.width (g.coords tile).1 (g.coords other).1
      have hrows := axisDistance_le_natAbs (.none : Turns g.topology.wrapY 0) g.height
        (g.coords tile).2 (g.coords other).2
      obtain ⟨hx, hxlt, hy, hylt⟩ := coords_bounds h
      obtain ⟨hx', hxlt', hy', hylt'⟩ := coords_bounds hother
      have hcolumns' := axisDistance_nonneg g.topology.wrapX hx hxlt hx' hxlt'
      have hrows' := axisDistance_nonneg g.topology.wrapY hy hylt hy' hylt'
      rw [sqDistance_of_hex hhex]
      exact ⟨mul_self_le_mul_self hcolumns' (by omega), mul_self_le_mul_self hrows' (by omega)⟩

/-- What is not further away than a radius is reached by steps of that size along the axes. -/
theorem exists_steps (h : tile < g.tileCount) (hother : other < g.tileCount) {radiusSq : Int}
    (hnear : g.sqDistance tile other ≤ radiusSq) :
    ∃ dx dy : Int, dx.natAbs ≤ radiusSq.toNat.sqrt ∧ dy.natAbs ≤ radiusSq.toNat.sqrt ∧
      g.tileAt? ((g.coords tile).1 + dx) ((g.coords tile).2 + dy) = some other := by
  obtain ⟨hx, hxlt, hy, hylt⟩ := coords_bounds h
  obtain ⟨hx', hxlt', hy', hylt'⟩ := coords_bounds hother
  have hnamed : ∀ {x y : Int}, g.tileAt? x y = some other ↔
      wrapped g.topology.wrapX g.width x = (g.coords other).1 ∧
        wrapped g.topology.wrapY g.height y = (g.coords other).2 := by
    intro x y
    rw [tileAt?_eq_some_iff (width_pos h) (height_pos h), and_iff_right hother]
  cases hhex : g.topology.hex with
  | true =>
      rw [sqDistance_of_hex hhex] at hnear
      obtain ⟨turns, hturns, hsteps⟩ := hexSteps_le_iff.1
        (Nat.le_refl (g.hexSteps (g.coords tile) (g.coords other)))
      have hroot : g.hexSteps (g.coords tile) (g.coords other) ≤ radiusSq.toNat.sqrt :=
        Nat.le_sqrt.2 (by omega)
      obtain ⟨hdx, hdy⟩ := Hex.natAbs_sub_le_distance (g.coords tile).1 (g.coords tile).2
        ((g.coords other).1 + turns * g.width) (g.coords other).2
      have hreach := Nat.le_trans hsteps hroot
      refine ⟨_, _, Nat.le_trans hdx hreach, Nat.le_trans hdy hreach, ?_⟩
      rw [hnamed, Int.add_comm (g.coords tile).1, Int.sub_add_cancel,
        Int.add_comm (g.coords tile).2, Int.sub_add_cancel]
      exact ⟨wrapped_add_turns hturns hx' hxlt', wrapped_of_bounds hy' hylt'⟩
  | false =>
      rw [sqDistance_of_square hhex] at hnear
      obtain ⟨dx, hdx, hcolumn⟩ := exists_axisDistance g.topology.wrapX hx hxlt hx' hxlt'
      obtain ⟨dy, hdy, hrow⟩ := exists_axisDistance g.topology.wrapY hy hylt hy' hylt'
      rw [← hdx, ← hdy] at hnear
      have hsum : dx.natAbs * dx.natAbs + dy.natAbs * dy.natAbs ≤ radiusSq.toNat :=
        Int.ofNat_le.1 (Int.le_trans hnear (Int.self_le_toNat radiusSq))
      exact ⟨dx, dy, Nat.le_sqrt.2 (by omega), Nat.le_sqrt.2 (by omega), hnamed.2 ⟨hcolumn, hrow⟩⟩

end Grid

end Rulebook
