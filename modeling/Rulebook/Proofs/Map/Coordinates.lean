import Rulebook.Map.Grid

/-!
Tiles and their coordinates.

A tile of the map and its column and row determine each other.  Any other column
or row names a tile only by wrapping, and then the tile whose own column and row
it is brought back to.
-/

namespace Rulebook

namespace Grid

variable {g : Grid} {tile : TileIndex} {x y : Int}

/-! ## One axis -/

section

variable {wraps : Bool} {extent : Nat} {n a b : Int}

theorem wrapped_of_bounds (hn : 0 ≤ n) (hlt : n < extent) : wrapped wraps extent n = n := by
  unfold wrapped
  split
  · exact Int.emod_eq_of_lt hn hlt
  · rfl

/-- How often an axis is gone round to bring back a place one step off the map: once in either
direction, if it wraps. -/
def Turns (wraps : Bool) (turns : Int) : Prop :=
  turns = 0 ∨ wraps = true ∧ (turns = 1 ∨ turns = -1)

theorem Turns.none : Turns wraps 0 :=
  .inl rfl

theorem Turns.of_wraps {turns : Int} (h : wraps = true) (hlow : -1 ≤ turns) (hhigh : turns ≤ 1) :
    Turns wraps turns := by
  by_cases hnone : turns = 0
  · exact .inl hnone
  · exact .inr ⟨h, by omega⟩

theorem Turns.neg {turns : Int} (h : Turns wraps turns) : Turns wraps (-turns) := by
  rcases h with rfl | ⟨hwraps, rfl | rfl⟩
  · exact .inl rfl
  · exact .inr ⟨hwraps, .inr rfl⟩
  · exact .inr ⟨hwraps, .inl rfl⟩

theorem wrapped_add_turns {turns : Int} (h : Turns wraps turns) (ha : 0 ≤ a) (halt : a < extent) :
    wrapped wraps extent (a + turns * extent) = a := by
  rcases h with rfl | ⟨rfl, -⟩
  · rw [Int.zero_mul, Int.add_zero, wrapped_of_bounds ha halt]
  · exact (Int.add_mul_emod_self_right a turns extent).trans (Int.emod_eq_of_lt ha halt)

theorem wrapped_eq_iff (hlow : -1 ≤ n) (hhigh : n ≤ extent) (ha : 0 ≤ a) (halt : a < extent) :
    wrapped wraps extent n = a ↔ ∃ turns, Turns wraps turns ∧ n = a + turns * extent := by
  constructor
  · intro h
    cases wraps with
    | false => exact ⟨0, .none, by simpa [wrapped] using h⟩
    | true =>
        obtain ⟨turns, hturns, hn, hlt⟩ :
            ∃ turns, Turns true turns ∧ 0 ≤ n - turns * extent ∧ n - turns * extent < extent := by
          by_cases hneg : n < 0
          · exact ⟨-1, .inr ⟨rfl, .inr rfl⟩, by omega, by omega⟩
          · by_cases hend : n = extent
            · exact ⟨1, .inr ⟨rfl, .inl rfl⟩, by omega, by omega⟩
            · exact ⟨0, .none, by omega, by omega⟩
        rw [← Int.sub_add_cancel n (turns * extent), wrapped_add_turns hturns hn hlt] at h
        exact ⟨turns, hturns, by omega⟩
  · rintro ⟨turns, hturns, rfl⟩
    exact wrapped_add_turns hturns ha halt

end

/-! ## Tiles of the map -/

theorem width_pos (h : tile < g.tileCount) : 0 < g.width :=
  Nat.pos_of_mul_pos_right (Nat.zero_lt_of_lt h : 0 < g.width * g.height)

theorem height_pos (h : tile < g.tileCount) : 0 < g.height :=
  Nat.pos_of_mul_pos_left (Nat.zero_lt_of_lt h : 0 < g.width * g.height)

theorem coords_eq (hwidth : 0 < g.width) (tile : TileIndex) :
    g.coords tile = (((tile % g.width : Nat) : Int), ((tile / g.width : Nat) : Int)) := by
  simp only [coords, Nat.max_eq_left hwidth]

theorem coords_bounds (h : tile < g.tileCount) :
    0 ≤ (g.coords tile).1 ∧ (g.coords tile).1 < g.width ∧
      0 ≤ (g.coords tile).2 ∧ (g.coords tile).2 < g.height := by
  have hcolumn : tile % g.width < g.width := Nat.mod_lt _ (width_pos h)
  have hrow : tile / g.width < g.height := Nat.div_lt_of_lt_mul h
  rw [coords_eq (width_pos h)]
  exact ⟨Int.natCast_nonneg _, Int.ofNat_lt.2 hcolumn, Int.natCast_nonneg _, Int.ofNat_lt.2 hrow⟩

/-- A column and row name the tile whose own they are after wrapping. -/
theorem tileAt?_eq_some_iff (hwidth : 0 < g.width) (hheight : 0 < g.height) :
    g.tileAt? x y = some tile ↔
      tile < g.tileCount ∧ wrapped g.topology.wrapX g.width x = (g.coords tile).1 ∧
        wrapped g.topology.wrapY g.height y = (g.coords tile).2 := by
  unfold tileAt?
  rw [if_neg (by omega)]
  generalize wrapped g.topology.wrapX g.width x = column
  generalize wrapped g.topology.wrapY g.height y = row
  dsimp only
  constructor
  · intro h
    split at h
    · cases h
    · next hbounds =>
        obtain ⟨column, rfl⟩ := Int.eq_ofNat_of_zero_le (by omega : 0 ≤ column)
        obtain ⟨row, rfl⟩ := Int.eq_ofNat_of_zero_le (by omega : 0 ≤ row)
        have hcolumn : column < g.width := by omega
        obtain rfl : row * g.width + column = tile := Option.some.inj h
        refine ⟨?_, ?_⟩
        · calc
            row * g.width + column < (row + 1) * g.width := by rw [Nat.succ_mul]; omega
            _ ≤ g.height * g.width := Nat.mul_le_mul_right _ (by omega)
            _ = g.tileCount := Nat.mul_comm _ _
        · rw [coords_eq hwidth, Nat.mul_add_mod', Nat.mod_eq_of_lt hcolumn, Nat.add_comm,
            Nat.add_mul_div_right _ _ hwidth, Nat.div_eq_of_lt hcolumn, Nat.zero_add]
          exact ⟨rfl, rfl⟩
  · rintro ⟨hmap, rfl, rfl⟩
    have hbounds := coords_bounds hmap
    rw [if_neg (by omega), Option.some.injEq, coords_eq hwidth]
    exact congrArg Int.toNat (congrArg Nat.cast (Nat.div_add_mod' tile g.width))

theorem tileAt?_coords (h : tile < g.tileCount) :
    g.tileAt? (g.coords tile).1 (g.coords tile).2 = some tile := by
  obtain ⟨hx, hxlt, hy, hylt⟩ := coords_bounds h
  exact (tileAt?_eq_some_iff (width_pos h) (height_pos h)).2
    ⟨h, wrapped_of_bounds hx hxlt, wrapped_of_bounds hy hylt⟩

theorem exists_coords_eq (hx : 0 ≤ x) (hxlt : x < g.width) (hy : 0 ≤ y) (hylt : y < g.height) :
    ∃ tile < g.tileCount, g.coords tile = (x, y) := by
  obtain ⟨tile, htile⟩ : ∃ tile, g.tileAt? x y = some tile := by
    unfold tileAt?
    rw [if_neg (by omega), wrapped_of_bounds hx hxlt, wrapped_of_bounds hy hylt]
    exact ⟨_, if_neg (by omega)⟩
  obtain ⟨hmap, hcolumn, hrow⟩ := (tileAt?_eq_some_iff (by omega) (by omega)).1 htile
  rw [wrapped_of_bounds hx hxlt] at hcolumn
  rw [wrapped_of_bounds hy hylt] at hrow
  exact ⟨tile, hmap, Prod.ext hcolumn.symm hrow.symm⟩

end Grid

end Rulebook
