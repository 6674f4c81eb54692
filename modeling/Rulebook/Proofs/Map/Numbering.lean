import Rulebook.Proofs.Map.Words

/-!
The numbering of tiles.

A column and row are off the map only along an axis that does not wrap; everywhere
else they name the tile that they are brought back to.  If the number of tiles fits
into a signed word, the same is computed in words, since all that turns up on the
way are coordinates and numbers of tiles of the map.
-/

namespace Rulebook

namespace Grid

variable {g : Grid} {tile : TileIndex} {x y : Int}

/-! ## Off the map -/

theorem wrapped_inside_iff {wraps : Bool} {extent : Nat} {n : Int} (hextent : 0 < extent) :
    (0 ≤ wrapped wraps extent n ∧ wrapped wraps extent n < extent) ↔
      (wraps = false → 0 ≤ n ∧ n < extent) := by
  cases wraps with
  | false => simp [wrapped]
  | true =>
      have hpos : (0 : Int) < extent := Int.ofNat_lt.2 hextent
      have hbounds := And.intro (Int.emod_nonneg n (Int.ne_of_gt hpos)) (Int.emod_lt_of_pos n hpos)
      simpa [wrapped] using hbounds

theorem tileAt?_eq_none_iff_wrapped (hwidth : 0 < g.width) (hheight : 0 < g.height) :
    g.tileAt? x y = none ↔
      ¬ ((0 ≤ wrapped g.topology.wrapX g.width x ∧ wrapped g.topology.wrapX g.width x < g.width) ∧
        0 ≤ wrapped g.topology.wrapY g.height y ∧
          wrapped g.topology.wrapY g.height y < g.height) := by
  unfold tileAt?
  rw [if_neg (by omega)]
  dsimp only
  split
  · simp only [true_iff]
    omega
  · simp only [reduceCtorEq, false_iff]
    omega

theorem tileAt?_eq_none_iff (hwidth : 0 < g.width) (hheight : 0 < g.height) :
    g.tileAt? x y = none ↔
      g.topology.wrapX = false ∧ ¬ (0 ≤ x ∧ x < g.width) ∨
        g.topology.wrapY = false ∧ ¬ (0 ≤ y ∧ y < g.height) := by
  rw [tileAt?_eq_none_iff_wrapped hwidth hheight, wrapped_inside_iff hwidth,
    wrapped_inside_iff hheight, not_and_or, Classical.not_imp, Classical.not_imp]

/-! ## The number of a place -/

theorem coords_number (hwidth : 0 < g.width) (tile : TileIndex) :
    (g.coords tile).2 * g.width + (g.coords tile).1 = tile := by
  rw [coords_eq hwidth]
  exact congrArg Nat.cast (Nat.div_add_mod' tile g.width)

end Grid

namespace Geometry

variable {g : Geometry}

/-! ## In words -/

theorem wordCoords_eq {tile : UInt32} (hsize : g.tileCount < 2 ^ 31)
    (h : tile.toNat < g.tileCount) :
    Prod.map Int32.toInt Int32.toInt (g.wordCoords tile) = g.grid.coords tile.toNat := by
  have hwidth : (max (UInt32.ofNat g.width) 1).toNat = max g.width 1 := by
    rw [UInt32.toNat_max, toNat_extent (width_lt (Grid.height_pos (g := g.grid) h) hsize)]
    rfl
  have hcolumn : (tile % max (UInt32.ofNat g.width) 1).toNat = tile.toNat % max g.width 1 := by
    rw [UInt32.toNat_mod, hwidth]
  have hrow : (tile / max (UInt32.ofNat g.width) 1).toNat = tile.toNat / max g.width 1 := by
    rw [UInt32.toNat_div, hwidth]
  have hmod := Nat.mod_le tile.toNat (max g.width 1)
  have hdiv := Nat.div_le_self tile.toNat (max g.width 1)
  unfold wordCoords Grid.coords
  dsimp only [Prod.map]
  rw [Word.toInt_toInt32 (by omega), Word.toInt_toInt32 (by omega), hcolumn, hrow, grid_width]

theorem wordTileAt?_eq (hwidth : 0 < g.width) (hheight : 0 < g.height)
    (hsize : g.tileCount < 2 ^ 31) (x y : Int32) :
    (g.wordTileAt? x y).map UInt32.toNat = g.grid.tileAt? x.toInt y.toInt := by
  have hcolumns := toInt_extent (width_lt hheight hsize)
  have hrows := toInt_extent (height_lt hwidth hsize)
  have hcolumn := toInt_wordWrapped g.topology.wrapX (n := x) hwidth hcolumns
  have hrow := toInt_wordWrapped g.topology.wrapY (n := y) hheight hrows
  unfold wordTileAt?
  generalize (UInt32.ofNat g.width).toInt32 = width at *
  generalize (UInt32.ofNat g.height).toInt32 = height at *
  have hempty : ¬ (width = 0 ∨ height = 0) := by
    rw [← Int32.toInt_inj, ← Int32.toInt_inj, Int32.toInt_zero]
    omega
  rw [if_neg hempty]
  dsimp only
  generalize wordWrapped g.topology.wrapX width x = column at *
  generalize wordWrapped g.topology.wrapY height y = row at *
  simp only [ge_iff_le, Int32.lt_iff_toInt_lt, Int32.le_iff_toInt_le, Int32.toInt_zero, hcolumns,
    hrows]
  cases htile : g.grid.tileAt? x.toInt y.toInt with
  | none =>
      have hout := (Grid.tileAt?_eq_none_iff_wrapped (g := g.grid) hwidth hheight).1 htile
      simp only [grid_width, grid_height, grid_topology] at hout
      rw [if_pos (by omega)]
      rfl
  | some tile =>
      obtain ⟨hmap, hx, hy⟩ := (Grid.tileAt?_eq_some_iff (g := g.grid) hwidth hheight).1 htile
      have hinside := Grid.coords_bounds hmap
      have hnumbered := Grid.coords_number (g := g.grid) hwidth tile
      simp only [grid_width, grid_height, grid_topology] at hx hy hinside hnumbered
      have hnumber : row.toInt * width.toInt + column.toInt = tile := by
        rw [hrow, hcolumn, hx, hy, hcolumns, hnumbered]
      have hfits : (tile : Int) < 2 ^ 31 := Int.ofNat_lt.2 (Nat.lt_trans hmap hsize)
      have hword : (row * width + column).toInt = row.toInt * width.toInt + column.toInt :=
        Word.toInt_mul_add (by omega) (by omega)
      rw [if_neg (by omega), Option.map_some, Option.some.injEq]
      exact Int.ofNat_inj.1 ((Word.toNat_toUInt32 (by omega)).trans (hword.trans hnumber))

/-! ## Both ways -/

/-- On a map that has tiles, a tile is named by its own coordinates; a column and row name no tile
just where they are off the map along an axis that does not wrap, and otherwise the tile of the map
whose coordinates they are, up to the extents of the axes that wrap.  Words of 32 bits say the same
if the number of tiles fits into a signed one. -/
theorem tiles_numbered (hwidth : 0 < g.width) (hheight : 0 < g.height)
    (hsize : g.width * g.height < 2 ^ 31) :
    (∀ tile < g.tileCount, g.tileAt? (g.coords tile).1 (g.coords tile).2 = some tile) ∧
      (∀ x y, g.tileAt? x y = none ↔
        g.topology.wrapX = false ∧ ¬ (0 ≤ x ∧ x < g.width) ∨
          g.topology.wrapY = false ∧ ¬ (0 ≤ y ∧ y < g.height)) ∧
      (∀ x y tile, g.tileAt? x y = some tile → tile < g.tileCount ∧
        g.coords tile =
          (if g.topology.wrapX then x % g.width else x,
            if g.topology.wrapY then y % g.height else y)) ∧
      (∀ x y : Int32, (g.wordTileAt? x y).map UInt32.toNat = g.tileAt? x.toInt y.toInt) ∧
      ∀ tile : UInt32, tile.toNat < g.tileCount →
        Prod.map Int32.toInt Int32.toInt (g.wordCoords tile) = g.coords tile.toNat := by
  refine ⟨fun tile h => ?_, fun x y => ?_, fun x y tile h => ?_, fun x y => ?_, fun tile h => ?_⟩
  · rw [tileAt?_eq_grid hwidth hheight hsize, coords_eq_grid (Nat.lt_trans h hsize)]
    exact Grid.tileAt?_coords h
  · rw [tileAt?_eq_grid hwidth hheight hsize]
    exact Grid.tileAt?_eq_none_iff (g := g.grid) hwidth hheight
  · rw [tileAt?_eq_grid hwidth hheight hsize] at h
    obtain ⟨hmap, hcolumn, hrow⟩ := (Grid.tileAt?_eq_some_iff (g := g.grid) hwidth hheight).1 h
    rw [coords_eq_grid (Nat.lt_trans hmap hsize)]
    exact ⟨hmap, Prod.ext hcolumn.symm hrow.symm⟩
  · rw [tileAt?_eq_grid hwidth hheight hsize]
    exact wordTileAt?_eq hwidth hheight hsize x y
  · rw [coords_eq_grid (Nat.lt_trans h hsize)]
    exact wordCoords_eq hsize h

theorem tiles_numbered_across_seam :
    let g : Geometry := ⟨5, 3, { wrapX := true }⟩
    0 < g.width ∧ 0 < g.height ∧ g.width * g.height < 2 ^ 31 ∧
      g.tileAt? (g.coords 9).1 (g.coords 9).2 = some 9 ∧ g.tileAt? (-1) 1 = some 9 ∧
      g.coords 9 = (-1 % 5, 1) ∧ g.tileAt? (-1) 3 = none ∧
      (g.wordTileAt? (-1) 1).map UInt32.toNat = some 9 := by
  intro g
  obtain ⟨hback, hnone, hnamed, hwords, -⟩ :=
    tiles_numbered (g := g) (by decide) (by decide) (by decide)
  have hstep : g.tileAt? (-1) 1 = some 9 := by decide
  refine ⟨by decide, by decide, by decide, hback 9 (by decide), hstep, (hnamed (-1) 1 9 hstep).2,
    (hnone (-1) 3).2 (.inr ⟨rfl, by decide⟩), (hwords (-1) 1).trans hstep⟩

end Geometry

end Rulebook
