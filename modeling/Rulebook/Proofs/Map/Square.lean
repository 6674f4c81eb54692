import Rulebook.Proofs.Map.Within

/-!
Neighbours on a square map.

A step changes the column and the row by one at most, and leads as far along each
axis as it changes the coordinate, or less: on an axis of one or two tiles that
wraps, steps both ways come to the same tile, or to where they started.  Whatever
is so near is reached by a step in turn.  So neighbours across an edge are the
tiles at squared distance one, and those across a corner come at two.  In words
this holds if the number of tiles is a word; an extent of 2 ^ 31 or more, read as a
signed word, is negative, and leaves every tile without neighbours.
-/

namespace Rulebook

namespace Grid

variable {g : Grid} {tile other : TileIndex}

/-! ## One axis -/

section

variable {wraps : Bool} {extent : Nat} {a b : Int}

theorem axisDistance_le_iff {n : Nat} (hn : n ≤ 1) (ha : 0 ≤ a) (halt : a < extent) (hb : 0 ≤ b)
    (hblt : b < extent) :
    axisDistance wraps extent a b ≤ n ↔
      ∃ step : Int, step.natAbs ≤ n ∧ wrapped wraps extent (a + step) = b := by
  constructor
  · intro hnear
    obtain ⟨step, hstep, hreached⟩ := exists_axisDistance wraps ha halt hb hblt
    exact ⟨step, by omega, hreached⟩
  · rintro ⟨step, hstep, hreached⟩
    obtain ⟨turns, hturns, hsum⟩ := (wrapped_eq_iff (by omega) (by omega) hb hblt).1 hreached
    simp only [axisDistance]
    rcases hturns with rfl | ⟨rfl, rfl | rfl⟩
    · split <;> omega
    · rw [if_pos rfl]
      omega
    · rw [if_pos rfl]
      omega

end

/-! ## Two axes -/

def columnDistance (g : Grid) (tile other : TileIndex) : Int :=
  axisDistance g.topology.wrapX g.width (g.coords tile).1 (g.coords other).1

def rowDistance (g : Grid) (tile other : TileIndex) : Int :=
  axisDistance g.topology.wrapY g.height (g.coords tile).2 (g.coords other).2

def Reaches (g : Grid) (columns rows : Nat) (tile other : TileIndex) : Prop :=
  ∃ dx dy : Int, (dx.natAbs ≤ columns ∧ dy.natAbs ≤ rows) ∧
    g.tileAt? ((g.coords tile).1 + dx) ((g.coords tile).2 + dy) = some other

theorem reaches_iff (h : tile < g.tileCount) {columns rows : Nat} (hcolumns : columns ≤ 1)
    (hrows : rows ≤ 1) :
    g.Reaches columns rows tile other ↔ other < g.tileCount ∧
      g.columnDistance tile other ≤ columns ∧ g.rowDistance tile other ≤ rows := by
  obtain ⟨hx, hxlt, hy, hylt⟩ := coords_bounds h
  simp only [Reaches, tileAt?_eq_some_iff (width_pos h) (height_pos h)]
  constructor
  · rintro ⟨dx, dy, ⟨hdx, hdy⟩, hother, hcolumn, hrow⟩
    obtain ⟨hx', hxlt', hy', hylt'⟩ := coords_bounds hother
    exact ⟨hother, (axisDistance_le_iff hcolumns hx hxlt hx' hxlt').2 ⟨dx, hdx, hcolumn⟩,
      (axisDistance_le_iff hrows hy hylt hy' hylt').2 ⟨dy, hdy, hrow⟩⟩
  · rintro ⟨hother, hcolumn, hrow⟩
    obtain ⟨hx', hxlt', hy', hylt'⟩ := coords_bounds hother
    obtain ⟨dx, hdx, hcolumn⟩ := (axisDistance_le_iff hcolumns hx hxlt hx' hxlt').1 hcolumn
    obtain ⟨dy, hdy, hrow⟩ := (axisDistance_le_iff hrows hy hylt hy' hylt').1 hrow
    exact ⟨dx, dy, ⟨hdx, hdy⟩, hother, hcolumn, hrow⟩

theorem reaches_zero_iff (h : tile < g.tileCount) : g.Reaches 0 0 tile other ↔ other = tile := by
  constructor
  · rintro ⟨dx, dy, ⟨hdx, hdy⟩, hreached⟩
    rw [Int.natAbs_eq_zero.1 (Nat.le_zero.1 hdx), Int.natAbs_eq_zero.1 (Nat.le_zero.1 hdy),
      Int.add_zero, Int.add_zero, tileAt?_coords h] at hreached
    exact (Option.some.inj hreached).symm
  · rintro rfl
    exact ⟨0, 0, by decide, by simpa using tileAt?_coords h⟩

/-! ## Neighbours -/

/-- Steps of some shape lead to what the shape reaches, if the only other step of the shape is to
stay. -/
theorem mem_squareNeighbours {steps : List (Int × Int)} {shape : Int → Int → Prop}
    (hsteps : ∀ dx dy, (dx, dy) ∈ steps ↔ shape dx dy ∧ ¬ (dx = 0 ∧ dy = 0))
    (h : tile < g.tileCount) :
    other ∈ g.squareNeighbours steps tile ↔
      (∃ dx dy, shape dx dy ∧
        g.tileAt? ((g.coords tile).1 + dx) ((g.coords tile).2 + dy) = some other) ∧
      other ≠ tile := by
  simp only [squareNeighbours, mem_ordered, List.mem_filter, List.mem_filterMap, Prod.exists,
    hsteps, bne_iff_ne]
  constructor
  · rintro ⟨⟨dx, dy, ⟨hshape, -⟩, hreached⟩, hne⟩
    exact ⟨⟨dx, dy, hshape, hreached⟩, hne⟩
  · rintro ⟨⟨dx, dy, hshape, hreached⟩, hne⟩
    refine ⟨⟨dx, dy, ⟨hshape, ?_⟩, hreached⟩, hne⟩
    rintro ⟨rfl, rfl⟩
    exact hne ((reaches_zero_iff h).1 ⟨0, 0, by decide, hreached⟩)

theorem mem_cardinalSteps_iff (dx dy : Int) :
    (dx, dy) ∈ cardinalSteps ↔
      ((dx.natAbs ≤ 1 ∧ dy.natAbs ≤ 0) ∨ (dx.natAbs ≤ 0 ∧ dy.natAbs ≤ 1)) ∧
        ¬ (dx = 0 ∧ dy = 0) := by
  simp only [cardinalSteps, List.mem_cons, Prod.mk.injEq, List.not_mem_nil, or_false]
  omega

theorem mem_adjacentSteps_iff (dx dy : Int) :
    (dx, dy) ∈ adjacentSteps ↔
      (dx.natAbs ≤ 1 ∧ dy.natAbs ≤ 1) ∧ ¬ (dx = 0 ∧ dy = 0) := by
  simp only [adjacentSteps, List.mem_cons, Prod.mk.injEq, List.not_mem_nil, or_false]
  omega

/-! ## Neighbours and distance -/

theorem sqDistance_eq_add (hsquare : g.topology.hex = false) (tile other : TileIndex) :
    g.sqDistance tile other = g.columnDistance tile other * g.columnDistance tile other +
      g.rowDistance tile other * g.rowDistance tile other :=
  sqDistance_of_square hsquare tile other

theorem distances_nonneg (h : tile < g.tileCount) (hother : other < g.tileCount) :
    0 ≤ g.columnDistance tile other ∧ 0 ≤ g.rowDistance tile other := by
  obtain ⟨hx, hxlt, hy, hylt⟩ := coords_bounds h
  obtain ⟨hx', hxlt', hy', hylt'⟩ := coords_bounds hother
  exact ⟨axisDistance_nonneg _ hx hxlt hx' hxlt', axisDistance_nonneg _ hy hylt hy' hylt'⟩

section

variable {m n : Int}

theorem zero_or_one_or_large (hn : 0 ≤ n) : n = 0 ∨ n = 1 ∨ 2 ≤ n ∧ 4 ≤ n * n := by
  by_cases hlarge : 2 ≤ n
  · exact .inr (.inr ⟨hlarge, Int.mul_le_mul hlarge hlarge (by decide) hn⟩)
  · omega

theorem sq_add_sq_eq_one_iff (hm : 0 ≤ m) (hn : 0 ≤ n) :
    m * m + n * n = 1 ↔ (m ≤ 1 ∧ n ≤ 0 ∨ m ≤ 0 ∧ n ≤ 1) ∧ ¬ (m ≤ 0 ∧ n ≤ 0) := by
  rcases zero_or_one_or_large hm with rfl | rfl | hlarge <;>
    rcases zero_or_one_or_large hn with rfl | rfl | hlarge' <;> omega

theorem sq_add_sq_eq_one_or_two_iff (hm : 0 ≤ m) (hn : 0 ≤ n) :
    m * m + n * n = 1 ∨ m * m + n * n = 2 ↔ (m ≤ 1 ∧ n ≤ 1) ∧ ¬ (m ≤ 0 ∧ n ≤ 0) := by
  rcases zero_or_one_or_large hm with rfl | rfl | hlarge <;>
    rcases zero_or_one_or_large hn with rfl | rfl | hlarge' <;> omega

end

theorem mem_cardinalNeighbours_iff (hsquare : g.topology.hex = false) (h : tile < g.tileCount) :
    other ∈ g.cardinalNeighbours tile ↔
      other < g.tileCount ∧ g.sqDistance tile other = 1 := by
  have hreaches : (∃ dx dy : Int,
      (dx.natAbs ≤ 1 ∧ dy.natAbs ≤ 0 ∨ dx.natAbs ≤ 0 ∧ dy.natAbs ≤ 1) ∧
        g.tileAt? ((g.coords tile).1 + dx) ((g.coords tile).2 + dy) = some other) ↔
      g.Reaches 1 0 tile other ∨ g.Reaches 0 1 tile other := by
    simp only [Reaches, or_and_right, exists_or]
  rw [cardinalNeighbours, if_neg (by simp [hsquare]), mem_squareNeighbours mem_cardinalSteps_iff h,
    hreaches, Ne, ← reaches_zero_iff h, reaches_iff h (by decide) (by decide),
    reaches_iff h (by decide) (by decide), reaches_iff h (by decide) (by decide), ← and_or_left,
    and_assoc, and_congr_right_iff]
  intro hother
  obtain ⟨hcolumns, hrows⟩ := distances_nonneg h hother
  rw [sqDistance_eq_add hsquare, sq_add_sq_eq_one_iff hcolumns hrows, and_iff_right hother]
  rfl

theorem mem_adjacentNeighbours_iff (hsquare : g.topology.hex = false) (h : tile < g.tileCount) :
    other ∈ g.adjacentNeighbours tile ↔
      other < g.tileCount ∧ (g.sqDistance tile other = 1 ∨ g.sqDistance tile other = 2) := by
  have hreaches : (∃ dx dy : Int, (dx.natAbs ≤ 1 ∧ dy.natAbs ≤ 1) ∧
      g.tileAt? ((g.coords tile).1 + dx) ((g.coords tile).2 + dy) = some other) ↔
      g.Reaches 1 1 tile other := .rfl
  rw [adjacentNeighbours, if_neg (by simp [hsquare]), mem_squareNeighbours mem_adjacentSteps_iff h,
    hreaches, Ne, ← reaches_zero_iff h, reaches_iff h (by decide) (by decide),
    reaches_iff h (by decide) (by decide), and_assoc, and_congr_right_iff]
  intro hother
  obtain ⟨hcolumns, hrows⟩ := distances_nonneg h hother
  rw [sqDistance_eq_add hsquare, sq_add_sq_eq_one_or_two_iff hcolumns hrows, and_iff_right hother]
  rfl

theorem pairwise_cardinalNeighbours (hsquare : g.topology.hex = false) (tile : TileIndex) :
    (g.cardinalNeighbours tile).Pairwise (· < ·) := by
  rw [cardinalNeighbours, if_neg (by simp [hsquare])]
  exact pairwise_ordered _

theorem pairwise_adjacentNeighbours (hsquare : g.topology.hex = false) (tile : TileIndex) :
    (g.adjacentNeighbours tile).Pairwise (· < ·) := by
  rw [adjacentNeighbours, if_neg (by simp [hsquare])]
  exact pairwise_ordered _

end Grid

namespace Geometry

open Calculation

variable {g : Geometry} {tile other : TileIndex}

/-- On a square map whose tiles are counted in words the neighbours across an edge are the tiles at
squared distance one, and those across an edge or a corner the tiles at one or two: for a program
that checks its results without exception, for one that does not wherever the squared distance is a
word.  Both lists are in storage order and have each tile once, but not the tile itself; the first
is part of the second, and being a neighbour is mutual.  Neither of them leaves the words. -/
theorem squareNeighbours_exact (hsquare : g.topology.hex = false) (hsize : g.tileCount < 2 ^ 31)
    (h : tile < g.tileCount) :
    (∀ other < g.tileCount,
        (other ∈ g.cardinalNeighbours tile ↔ (g.sqDistanceM tile other).checked = some 1) ∧
        (other ∈ g.adjacentNeighbours tile ↔
          (g.sqDistanceM tile other).checked = some 1 ∨
            (g.sqDistanceM tile other).checked = some 2)) ∧
      (∀ other < g.tileCount, g.grid.sqDistance tile other < 2 ^ 31 →
        (other ∈ g.cardinalNeighbours tile ↔ g.sqDistance tile other = 1) ∧
        (other ∈ g.adjacentNeighbours tile ↔
          g.sqDistance tile other = 1 ∨ g.sqDistance tile other = 2)) ∧
      (∀ other ∈ g.adjacentNeighbours tile, other < g.tileCount) ∧
      (g.cardinalNeighbours tile).Pairwise (· < ·) ∧
      (g.adjacentNeighbours tile).Pairwise (· < ·) ∧
      (∀ other < g.tileCount,
        (other ∈ g.cardinalNeighbours tile ↔ tile ∈ g.cardinalNeighbours other) ∧
        (other ∈ g.adjacentNeighbours tile ↔ tile ∈ g.adjacentNeighbours other)) ∧
      tile ∉ g.cardinalNeighbours tile ∧ tile ∉ g.adjacentNeighbours tile ∧
      g.cardinalNeighbours tile ⊆ g.adjacentNeighbours tile ∧
      (g.cardinalNeighboursM tile).checked = some (g.cardinalNeighbours tile) ∧
      (g.adjacentNeighboursM tile).checked = some (g.adjacentNeighbours tile) := by
  have hcardinal : ∀ {tile other}, tile < g.tileCount → (other ∈ g.cardinalNeighbours tile ↔
      other < g.tileCount ∧ g.grid.sqDistance tile other = 1) := fun h => by
    rw [cardinalNeighbours_eq_grid h hsize]
    exact Grid.mem_cardinalNeighbours_iff hsquare h
  have hadjacent : ∀ {tile other}, tile < g.tileCount → (other ∈ g.adjacentNeighbours tile ↔
      other < g.tileCount ∧
        (g.grid.sqDistance tile other = 1 ∨ g.grid.sqDistance tile other = 2)) := fun h => by
    rw [adjacentNeighbours_eq_grid h hsize]
    exact Grid.mem_adjacentNeighbours_iff hsquare h
  have hdistance : ∀ other < g.tileCount, (g.sqDistanceM tile other).checked =
      if g.grid.sqDistance tile other < 2 ^ 31 then some (g.grid.sqDistance tile other) else none :=
    fun other hother => checked_sqDistanceM_of_square hsquare h hother hsize
  refine ⟨fun other hother => ?_, fun other hother hnear => ?_, fun other hother => ?_, ?_, ?_,
    fun other hother => ⟨?_, ?_⟩, ?_, ?_, fun other hother => ?_, ?_, ?_⟩
  · rw [hcardinal h, hadjacent h, hdistance other hother, and_iff_right hother,
      and_iff_right hother]
    split
    · simp only [Option.some.injEq, and_self]
    · simp only [reduceCtorEq, or_self, iff_false]
      omega
  · have hfound := (hdistance other hother).trans (if_pos hnear)
    rw [hcardinal h, hadjacent h, and_iff_right hother, and_iff_right hother,
      sqDistance, modular_of_checked hfound]
    exact ⟨.rfl, .rfl⟩
  · exact ((hadjacent h).1 hother).1
  · rw [cardinalNeighbours_eq_grid h hsize]
    exact Grid.pairwise_cardinalNeighbours hsquare tile
  · rw [adjacentNeighbours_eq_grid h hsize]
    exact Grid.pairwise_adjacentNeighbours hsquare tile
  · rw [hcardinal h, hcardinal hother, Grid.sqDistance_comm, and_iff_right h, and_iff_right hother]
  · rw [hadjacent h, hadjacent hother, Grid.sqDistance_comm, and_iff_right h, and_iff_right hother]
  · simp [hcardinal h, Grid.sqDistance_self]
  · simp [hadjacent h, Grid.sqDistance_self]
  · obtain ⟨hmap, hone⟩ := (hcardinal h).1 hother
    exact (hadjacent h).2 ⟨hmap, .inl hone⟩
  · rw [cardinalNeighbours_eq_grid h hsize]
    exact checked_cardinalNeighboursM h hsize
  · rw [adjacentNeighbours_eq_grid h hsize]
    exact checked_adjacentNeighboursM h hsize

theorem squareNeighbours_across_seam :
    let g : Geometry := ⟨2, 3, { wrapX := true }⟩
    g.topology.hex = false ∧ g.tileCount < 2 ^ 31 ∧ 2 < g.tileCount ∧
      3 ∈ g.cardinalNeighbours 2 ∧ 5 ∈ g.adjacentNeighbours 2 ∧ 5 ∉ g.cardinalNeighbours 2 ∧
      (g.adjacentNeighbours 2).Pairwise (· < ·) := by
  intro g
  have hsquare : g.topology.hex = false := rfl
  have hsize : g.tileCount < 2 ^ 31 := by decide
  have hinside : 2 < g.tileCount := by decide
  obtain ⟨-, hexact, -, -, hpairwise, -⟩ := squareNeighbours_exact hsquare hsize hinside
  obtain ⟨hbeside, -⟩ := hexact 3 (by decide) (by decide)
  obtain ⟨hcorner, hcorner'⟩ := hexact 5 (by decide) (by decide)
  refine ⟨hsquare, hsize, hinside, hbeside.2 (by decide), hcorner'.2 (by decide), ?_, hpairwise⟩
  exact fun hmem => absurd (hcorner.1 hmem) (by decide)

/-- In a row of 3000000000 tiles the first has no neighbours, though the next one is at distance
one; and on two rows of 65537 tiles the square of a distance wraps round to one. -/
theorem squareNeighbours_of_long_rows :
    let row : Geometry := ⟨3000000000, 1, {}⟩
    let rows : Geometry := ⟨65537, 2, {}⟩
    1 < row.tileCount ∧ row.sqDistance 0 1 = 1 ∧ (row.sqDistanceM 0 1).checked = some 1 ∧
      row.cardinalNeighbours 0 = [] ∧ (row.cardinalNeighboursM 0).checked = some [] ∧
      131073 < rows.tileCount ∧ rows.sqDistance 0 131073 = 1 ∧
      (rows.sqDistanceM 0 131073).checked = none ∧ 131073 ∉ rows.cardinalNeighbours 0 := by
  intro row rows
  have hnowhere : (row.cardinalNeighboursM 0).checked = some [] := by
    have hreached : (Grid.cardinalSteps.filterMapM (row.stepM? 0)).checked = some [] := by decide
    rw [cardinalNeighboursM, if_neg (by decide), squareNeighboursM, checked_bind_of hreached,
      checked_pure]
    simp [Grid.ordered, List.eraseReps, List.eraseRepsBy]
  refine ⟨by decide, by decide, by decide, modular_of_checked hnowhere, hnowhere, by decide,
    by decide, by decide, ?_⟩
  rw [cardinalNeighbours_eq_grid (by decide) (by decide),
    Grid.mem_cardinalNeighbours_iff rfl (by decide)]
  decide

end Geometry

end Rulebook
