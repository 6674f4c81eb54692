import Mathlib.Data.List.Pairwise
import Rulebook.Proofs.Map.Checked

/-!
Neighbours on a hexagonal map.

The six places around a hex are the places at distance one.  A neighbour is a tile
seen at one of them, after going round the map along either axis; a distance takes
only the columns for wrapping.  So whoever is one step away is a neighbour, and the
two agree unless the rows wrap at the tile's own row, or the columns wrap and are
fewer than three.  Neighbours are found in words if the number of tiles is one.
-/

namespace Rulebook

namespace Hex

variable {x y : Int} {p : Int × Int}

def around (x y : Int) : List (Int × Int) :=
  directions.map fun d => ((ofOffset x y).add d).toOffset

theorem around_eq (x y : Int) :
    around x y = [(x + 1, y), (x + y % 2, y - 1), (x + y % 2 - 1, y - 1), (x - 1, y),
      (x + y % 2 - 1, y + 1), (x + y % 2, y + 1)] := by
  simp only [around, directions, List.map_cons, List.map_nil, add, ofOffset, toOffset,
    List.cons.injEq, Prod.mk.injEq, and_true]
  omega

theorem mem_around_iff :
    p ∈ around x y ↔ p.2 = y ∧ (p.1 = x + 1 ∨ p.1 = x - 1) ∨
      (p.2 = y - 1 ∨ p.2 = y + 1) ∧ (p.1 = x + y % 2 ∨ p.1 = x + y % 2 - 1) := by
  simp only [around_eq, List.mem_cons, List.not_mem_nil, or_false, Prod.ext_iff]
  omega

theorem nodup_around (x y : Int) : (around x y).Nodup := by
  simp only [around_eq, List.nodup_cons, List.mem_cons, List.not_mem_nil, or_false,
    List.nodup_nil, Prod.mk.injEq, not_false_eq_true, and_true]
  omega

theorem mem_around_iff_distance :
    p ∈ around x y ↔ (ofOffset x y).distance (ofOffset p.1 p.2) = 1 := by
  rw [mem_around_iff]
  simp only [distance, ofOffset, s]
  omega

end Hex

namespace Grid

variable {g : Grid} {tile other : TileIndex}

/-! ## Places of tiles -/

/-- Where a tile is seen after going round the map so often along each axis. -/
def image (g : Grid) (tile : TileIndex) (i j : Int) : Int × Int :=
  ((g.coords tile).1 + i * g.width, (g.coords tile).2 + j * g.height)

def around (g : Grid) (tile : TileIndex) : List (Int × Int) :=
  Hex.around (g.coords tile).1 (g.coords tile).2

theorem image_mem_around_iff {i j : Int} :
    g.image other i j ∈ g.around tile ↔
      (g.coords other).2 + j * g.height = (g.coords tile).2 ∧
          ((g.coords other).1 + i * g.width = (g.coords tile).1 + 1 ∨
            (g.coords other).1 + i * g.width = (g.coords tile).1 - 1) ∨
        ((g.coords other).2 + j * g.height = (g.coords tile).2 - 1 ∨
            (g.coords other).2 + j * g.height = (g.coords tile).2 + 1) ∧
          ((g.coords other).1 + i * g.width = (g.coords tile).1 + (g.coords tile).2 % 2 ∨
            (g.coords other).1 + i * g.width = (g.coords tile).1 + (g.coords tile).2 % 2 - 1) :=
  Hex.mem_around_iff

theorem tileAt?_image (h : tile < g.tileCount) {i j : Int} (hi : Turns g.topology.wrapX i)
    (hj : Turns g.topology.wrapY j) :
    g.tileAt? (g.image tile i j).1 (g.image tile i j).2 = some tile := by
  obtain ⟨hx, hxlt, hy, hylt⟩ := coords_bounds h
  exact (tileAt?_eq_some_iff (width_pos h) (height_pos h)).2
    ⟨h, wrapped_add_turns hi hx hxlt, wrapped_add_turns hj hy hylt⟩

theorem image_inj (h : tile < g.tileCount) {i j i' j' : Int} :
    g.image tile i j = g.image tile i' j' ↔ i = i' ∧ j = j' := by
  have hwidth : (g.width : Int) ≠ 0 := Int.natCast_ne_zero.2 (Nat.ne_of_gt (width_pos h))
  have hheight : (g.height : Int) ≠ 0 := Int.natCast_ne_zero.2 (Nat.ne_of_gt (height_pos h))
  rw [image, image, Prod.mk.injEq, Int.add_right_inj, Int.add_right_inj,
    Int.mul_eq_mul_right_iff hwidth, Int.mul_eq_mul_right_iff hheight]

theorem hexNeighbours_eq (g : Grid) (tile : TileIndex) :
    g.hexNeighbours tile = (g.around tile).filterMap fun p => g.tileAt? p.1 p.2 := by
  rw [around, Hex.around, List.filterMap_map]
  rfl

theorem tileAt?_around (h : tile < g.tileCount) {p : Int × Int} (hp : p ∈ g.around tile) :
    g.tileAt? p.1 p.2 = some other ↔ other < g.tileCount ∧ ∃ i j,
      Turns g.topology.wrapX i ∧ Turns g.topology.wrapY j ∧ p = g.image other i j := by
  obtain ⟨hx, hxlt, hy, hylt⟩ := coords_bounds h
  have hmod := Int.emod_two_eq (g.coords tile).2
  rw [around, Hex.mem_around_iff] at hp
  rw [tileAt?_eq_some_iff (width_pos h) (height_pos h), and_congr_right_iff]
  intro hother
  obtain ⟨hx', hxlt', hy', hylt'⟩ := coords_bounds hother
  rw [wrapped_eq_iff (by omega) (by omega) hx' hxlt',
    wrapped_eq_iff (by omega) (by omega) hy' hylt']
  constructor
  · rintro ⟨⟨i, hi, hcolumn⟩, j, hj, hrow⟩
    exact ⟨i, j, hi, hj, Prod.ext hcolumn hrow⟩
  · rintro ⟨i, j, hi, hj, rfl⟩
    exact ⟨⟨i, hi, rfl⟩, j, hj, rfl⟩

theorem mem_hexNeighbours (h : tile < g.tileCount) :
    other ∈ g.hexNeighbours tile ↔ other < g.tileCount ∧ ∃ i j,
      Turns g.topology.wrapX i ∧ Turns g.topology.wrapY j ∧ g.image other i j ∈ g.around tile := by
  rw [hexNeighbours_eq, List.mem_filterMap]
  constructor
  · rintro ⟨p, hp, hnamed⟩
    obtain ⟨hother, i, j, hi, hj, rfl⟩ := (tileAt?_around h hp).1 hnamed
    exact ⟨hother, i, j, hi, hj, hp⟩
  · rintro ⟨hother, i, j, hi, hj, hp⟩
    exact ⟨_, hp, (tileAt?_around h hp).2 ⟨hother, i, j, hi, hj, rfl⟩⟩

theorem nodup_hexNeighbours_iff (h : tile < g.tileCount) :
    (g.hexNeighbours tile).Nodup ↔ ∀ other < g.tileCount, ∀ i j i' j',
      Turns g.topology.wrapX i → Turns g.topology.wrapY j →
      Turns g.topology.wrapX i' → Turns g.topology.wrapY j' →
      g.image other i j ∈ g.around tile → g.image other i' j' ∈ g.around tile →
        i = i' ∧ j = j' := by
  have hnodup := Hex.nodup_around (g.coords tile).1 (g.coords tile).2
  rw [hexNeighbours_eq, List.Nodup, List.pairwise_filterMap]
  constructor
  · intro hdistinct other hother i j i' j' hi hj hi' hj' hp hq
    have hsymm : Std.Symm fun p q : Int × Int => ∀ a, g.tileAt? p.1 p.2 = some a →
        ∀ b, g.tileAt? q.1 q.2 = some b → a ≠ b := ⟨fun p q hpq b hb a ha => (hpq a ha b hb).symm⟩
    refine (image_inj hother).1 ?_
    by_contra hne
    exact hdistinct.forall hp hq hne _ ((tileAt?_around h hp).2 ⟨hother, i, j, hi, hj, rfl⟩) _
      ((tileAt?_around h hq).2 ⟨hother, i', j', hi', hj', rfl⟩) rfl
  · intro hequal
    refine hnodup.imp_of_mem fun hp hq hne a ha b hb hab => hne ?_
    subst hab
    obtain ⟨hother, i, j, hi, hj, rfl⟩ := (tileAt?_around h hp).1 ha
    obtain ⟨-, i', j', hi', hj', rfl⟩ := (tileAt?_around h hq).1 hb
    exact (image_inj hother).2 (hequal a hother i j i' j' hi hj hi' hj' hp hq)

/-! ## Neighbours and distance -/

theorem distance_image_ne_zero (h : tile < g.tileCount) (hother : other < g.tileCount)
    (hne : other ≠ tile) {i : Int} (hi : Turns g.topology.wrapX i) :
    (Hex.ofOffset (g.coords tile).1 (g.coords tile).2).distance
      (Hex.ofOffset (g.image other i 0).1 (g.image other i 0).2) ≠ 0 := by
  intro hzero
  obtain ⟨hcolumn, hrow⟩ := Hex.distance_ofOffset_eq_zero_iff.1 hzero
  have hsame := tileAt?_image hother hi .none
  rw [← hcolumn, ← hrow, tileAt?_coords h] at hsame
  exact hne (Option.some.inj hsame).symm

/-- Distances take the columns for wrapping, but not the rows. -/
theorem sqDistance_eq_one_iff (hhex : g.topology.hex = true) (h : tile < g.tileCount)
    (hother : other < g.tileCount) (hne : other ≠ tile) :
    g.sqDistance tile other = 1 ↔
      ∃ i, Turns g.topology.wrapX i ∧ g.image other i 0 ∈ g.around tile := by
  have hsteps : ∀ n : Nat, g.hexSteps (g.coords tile) (g.coords other) ≤ n ↔
      ∃ i, Turns g.topology.wrapX i ∧ (Hex.ofOffset (g.coords tile).1 (g.coords tile).2).distance
        (Hex.ofOffset (g.image other i 0).1 (g.image other i 0).2) ≤ n := by
    simp only [hexSteps_le_iff, image, Int.zero_mul, Int.add_zero, implies_true]
  simp only [sqDistance_of_hex hhex, around, Hex.mem_around_iff_distance]
  constructor
  · intro hsquare
    have hone := Int.eq_one_of_mul_eq_one_right (Int.natCast_nonneg _) hsquare
    obtain ⟨i, hi, hle⟩ := (hsteps 1).1 (by omega)
    have := distance_image_ne_zero h hother hne hi
    exact ⟨i, hi, by omega⟩
  · rintro ⟨i, hi, hone⟩
    have hle := (hsteps 1).2 ⟨i, hi, Nat.le_of_eq hone⟩
    have hpos : ¬ g.hexSteps (g.coords tile) (g.coords other) ≤ 0 := by
      intro hzero
      obtain ⟨i, hi, hle⟩ := (hsteps 0).1 hzero
      exact distance_image_ne_zero h hother hne hi (Nat.le_zero.1 hle)
    rw [show g.hexSteps (g.coords tile) (g.coords other) = 1 by omega]
    rfl

/-- A list holds each other tile one step away once, and nothing else. -/
def Surrounds (g : Grid) (tile : TileIndex) (neighbours : List TileIndex) : Prop :=
  neighbours.Nodup ∧ ∀ other, other ∈ neighbours ↔
    other < g.tileCount ∧ other ≠ tile ∧ g.sqDistance tile other = 1

theorem turns_eq_zero_of_row (h : tile < g.tileCount) (hother : other < g.tileCount)
    (hinner : g.topology.wrapY = true → 0 < (g.coords tile).2 ∧ (g.coords tile).2 + 1 < g.height)
    {i j : Int} (hj : Turns g.topology.wrapY j) (hp : g.image other i j ∈ g.around tile) :
    j = 0 := by
  obtain ⟨-, -, hy, hylt⟩ := coords_bounds h
  obtain ⟨-, -, hy', hylt'⟩ := coords_bounds hother
  rcases hj with rfl | ⟨hwraps, rfl | rfl⟩
  · rfl
  all_goals
    have := hinner hwraps
    simp only [image_mem_around_iff] at hp
    omega

theorem turns_eq_of_columns (hwide : g.topology.wrapX = true → 3 ≤ g.width) {i i' j : Int}
    (hi : Turns g.topology.wrapX i) (hi' : Turns g.topology.wrapX i')
    (hp : g.image other i j ∈ g.around tile) (hq : g.image other i' j ∈ g.around tile) :
    i = i' := by
  simp only [image_mem_around_iff] at hp hq
  rcases hi with rfl | ⟨hwraps, rfl | rfl⟩ <;> rcases hi' with rfl | ⟨hwraps, rfl | rfl⟩ <;>
    first
    | rfl
    | have := hwide hwraps
      omega

theorem mem_hexNeighbours_of_sqDistance (hhex : g.topology.hex = true) (h : tile < g.tileCount)
    (hother : other < g.tileCount) (hne : other ≠ tile) (hone : g.sqDistance tile other = 1) :
    other ∈ g.hexNeighbours tile := by
  obtain ⟨i, hi, hp⟩ := (sqDistance_eq_one_iff hhex h hother hne).1 hone
  exact (mem_hexNeighbours h).2 ⟨hother, i, 0, hi, .none, hp⟩

theorem surrounds_hexNeighbours (hhex : g.topology.hex = true) (h : tile < g.tileCount)
    (hwide : g.topology.wrapX = true → 3 ≤ g.width)
    (hinner : g.topology.wrapY = true →
      0 < (g.coords tile).2 ∧ (g.coords tile).2 + 1 < g.height) :
    g.Surrounds tile (g.hexNeighbours tile) := by
  constructor
  · refine (nodup_hexNeighbours_iff h).2 fun other hother i j i' j' hi hj hi' hj' hp hq => ?_
    obtain rfl := turns_eq_zero_of_row h hother hinner hj hp
    obtain rfl := turns_eq_zero_of_row h hother hinner hj' hq
    exact ⟨turns_eq_of_columns hwide hi hi' hp hq, rfl⟩
  · refine fun other => ⟨fun hmem => ?_, fun ⟨hother, hne, hone⟩ =>
      mem_hexNeighbours_of_sqDistance hhex h hother hne hone⟩
    obtain ⟨hother, i, j, hi, hj, hp⟩ := (mem_hexNeighbours h).1 hmem
    obtain rfl := turns_eq_zero_of_row h hother hinner hj hp
    have hne : other ≠ tile := by
      rintro rfl
      simp only [image_mem_around_iff] at hp
      rcases hi with rfl | ⟨hwraps, rfl | rfl⟩
      · omega
      all_goals
        have := hwide hwraps
        omega
    exact ⟨hother, hne, (sqDistance_eq_one_iff hhex h hother hne).2 ⟨i, hi, hp⟩⟩

/-- On one column a tile is its own neighbour, and on two the neighbours in its row are one tile. -/
theorem columns_of_surrounds (h : tile < g.tileCount)
    (hsurrounds : g.Surrounds tile (g.hexNeighbours tile)) (hwraps : g.topology.wrapX = true) :
    3 ≤ g.width := by
  obtain ⟨hnodup, hmem⟩ := hsurrounds
  obtain ⟨hx, hxlt, hy, hylt⟩ := coords_bounds h
  by_contra hnarrow
  have hwidth : g.width = 1 ∨ g.width = 2 := by omega
  rcases hwidth with hone | htwo
  · have hself : tile ∈ g.hexNeighbours tile := by
      refine (mem_hexNeighbours h).2 ⟨h, 1, 0, .of_wraps hwraps (by omega) (by omega), .none, ?_⟩
      simp only [image_mem_around_iff]
      omega
    exact ((hmem tile).1 hself).2.1 rfl
  · obtain ⟨other, hother, hcoords⟩ := exists_coords_eq (g := g)
      (x := 1 - (g.coords tile).1) (y := (g.coords tile).2) (by omega) (by omega) hy hylt
    -- to the east the other column is met after as many turns as this one's number
    have hequal := (nodup_hexNeighbours_iff h).1 hnodup other hother
      (g.coords tile).1 0 ((g.coords tile).1 - 1) 0 (.of_wraps hwraps (by omega) (by omega)) .none
      (.of_wraps hwraps (by omega) (by omega)) .none
    simp only [image_mem_around_iff, hcoords, htwo] at hequal
    omega

/-- On one row a tile is its own neighbour, on two the rows above and below are one, and on more
the row across the seam is far away. -/
theorem row_of_surrounds (hhex : g.topology.hex = true) (h : tile < g.tileCount)
    (hsurrounds : g.Surrounds tile (g.hexNeighbours tile)) (hwraps : g.topology.wrapY = true) :
    0 < (g.coords tile).2 ∧ (g.coords tile).2 + 1 < g.height := by
  obtain ⟨hnodup, hmem⟩ := hsurrounds
  obtain ⟨hx, hxlt, hy, hylt⟩ := coords_bounds h
  have hmod := Int.emod_two_eq (g.coords tile).2
  by_contra hedge
  have hheight : g.height = 1 ∨ g.height = 2 ∨ 3 ≤ g.height := by omega
  rcases hheight with hone | htwo | hmore
  · have hself : tile ∈ g.hexNeighbours tile := by
      refine (mem_hexNeighbours h).2 ⟨h, 0, 1, .none, .of_wraps hwraps (by omega) (by omega), ?_⟩
      simp only [image_mem_around_iff]
      omega
    exact ((hmem tile).1 hself).2.1 rfl
  · obtain ⟨other, hother, hcoords⟩ := exists_coords_eq (g := g)
      (x := (g.coords tile).1) (y := 1 - (g.coords tile).2) hx hxlt (by omega) (by omega)
    have hequal := (nodup_hexNeighbours_iff h).1 hnodup other hother
      0 (g.coords tile).2 0 ((g.coords tile).2 - 1) .none (.of_wraps hwraps (by omega) (by omega))
      .none (.of_wraps hwraps (by omega) (by omega))
    simp only [image_mem_around_iff, hcoords, htwo] at hequal
    omega
  · obtain ⟨other, hother, hcoords⟩ := exists_coords_eq (g := g)
      (x := (g.coords tile).1) (y := g.height - 1 - (g.coords tile).2) hx hxlt (by omega) (by omega)
    obtain ⟨j, hj, hbeyond⟩ :
        ∃ j, Turns g.topology.wrapY j ∧ g.image other 0 j ∈ g.around tile := by
      simp only [image_mem_around_iff, hcoords]
      by_cases hfirst : (g.coords tile).2 = 0
      · exact ⟨-1, .of_wraps hwraps (by omega) (by omega), by omega⟩
      · exact ⟨1, .of_wraps hwraps (by omega) (by omega), by omega⟩
    obtain ⟨-, hne, hnear⟩ :=
      (hmem other).1 ((mem_hexNeighbours h).2 ⟨hother, 0, j, .none, hj, hbeyond⟩)
    obtain ⟨i, hi, hp⟩ := (sqDistance_eq_one_iff hhex h hother hne).1 hnear
    simp only [image_mem_around_iff, hcoords] at hp
    omega

/-! ## Mutual neighbours -/

theorem image_mem_around_neg {i j : Int} (heven : (j * g.height) % 2 = 0)
    (hp : g.image other i j ∈ g.around tile) :
    g.image tile (-i) (-j) ∈ g.around other := by
  simp only [image_mem_around_iff, Int.neg_mul] at hp ⊢
  omega

theorem mem_hexNeighbours_comm (h : tile < g.tileCount) (hother : other < g.tileCount)
    (hrows : g.topology.wrapY = true → g.height % 2 = 0 ∨ g.height = 1 ∨ g.width = 1 ∨
      g.topology.wrapX = true ∧ g.width = 2)
    (hmem : other ∈ g.hexNeighbours tile) : tile ∈ g.hexNeighbours other := by
  obtain ⟨hx, hxlt, hy, hylt⟩ := coords_bounds h
  obtain ⟨hx', hxlt', hy', hylt'⟩ := coords_bounds hother
  have hmod := Int.emod_two_eq (g.coords other).2
  obtain ⟨-, i, j, hi, hj, hp⟩ := (mem_hexNeighbours h).1 hmem
  rw [mem_hexNeighbours hother, and_iff_right h]
  by_cases heven : (j * g.height) % 2 = 0
  · exact ⟨-i, -j, hi.neg, hj.neg, image_mem_around_neg heven hp⟩
  have hturned : g.topology.wrapY = true ∧
      (j * g.height = g.height ∨ j * g.height = -g.height) := by
    rcases hj with rfl | ⟨hwraps, rfl | rfl⟩
    · omega
    · exact ⟨hwraps, by omega⟩
    · exact ⟨hwraps, by omega⟩
  rcases hrows hturned.1 with hheight | hheight | hwidth | ⟨hcolumns, hwidth⟩
  · omega
  · by_cases habove : (g.coords other).1 + i * g.width = (g.coords tile).1
    · refine ⟨-i, -j, hi.neg, hj.neg, ?_⟩
      simp only [image_mem_around_iff, Int.neg_mul] at hp ⊢
      omega
    · refine ⟨-i, 0, hi.neg, .none, ?_⟩
      simp only [image_mem_around_iff, Int.neg_mul] at hp ⊢
      omega
  · refine ⟨0, -j, .none, hj.neg, ?_⟩
    simp only [image_mem_around_iff, Int.neg_mul] at hp ⊢
    omega
  · -- the two columns take turns, so one of two places side by side is the tile's
    obtain ⟨i', hi', hcolumn⟩ : ∃ i', Turns g.topology.wrapX i' ∧
        ((g.coords tile).1 + i' * 2 = (g.coords other).1 + (g.coords other).2 % 2 ∨
          (g.coords tile).1 + i' * 2 = (g.coords other).1 + (g.coords other).2 % 2 - 1) := by
      by_cases hless : (g.coords tile).1 + 1 < (g.coords other).1 + (g.coords other).2 % 2
      · exact ⟨1, .of_wraps hcolumns (by omega) (by omega), by omega⟩
      · by_cases hmore : (g.coords other).1 + (g.coords other).2 % 2 < (g.coords tile).1
        · exact ⟨-1, .of_wraps hcolumns (by omega) (by omega), by omega⟩
        · exact ⟨0, .none, by omega⟩
    refine ⟨i', -j, hi', hj.neg, ?_⟩
    simp only [image_mem_around_iff, hwidth, Int.neg_mul] at hp ⊢
    omega

/-- Where an odd number of rows wraps, the first row and the last are shifted alike, so a step up
from the second tile leads to the last row's first, but no step down leads back. -/
theorem rows_of_mutual (hwidth : 0 < g.width) (hheight : 0 < g.height)
    (hmutual : ∀ tile < g.tileCount, ∀ other < g.tileCount,
      other ∈ g.hexNeighbours tile → tile ∈ g.hexNeighbours other)
    (hwraps : g.topology.wrapY = true) :
    g.height % 2 = 0 ∨ g.height = 1 ∨ g.width = 1 ∨ g.topology.wrapX = true ∧ g.width = 2 := by
  by_contra hodd
  obtain ⟨heven, hone, hnarrow, htwo⟩ :
      g.height % 2 ≠ 0 ∧ g.height ≠ 1 ∧ g.width ≠ 1 ∧
        ¬ (g.topology.wrapX = true ∧ g.width = 2) := by
    simpa only [not_or] using hodd
  obtain ⟨tile, h, hcoords⟩ := exists_coords_eq (g := g) (x := 1) (y := 0)
    (by omega) (by omega) (by omega) (by omega)
  obtain ⟨other, hother, hcoords'⟩ := exists_coords_eq (g := g) (x := 0) (y := g.height - 1)
    (by omega) (by omega) (by omega) (by omega)
  have hup : other ∈ g.hexNeighbours tile := by
    refine (mem_hexNeighbours h).2
      ⟨hother, 0, -1, .none, .of_wraps hwraps (by omega) (by omega), ?_⟩
    simp only [image_mem_around_iff, hcoords, hcoords']
    omega
  obtain ⟨-, i, j, hi, hj, hp⟩ := (mem_hexNeighbours hother).1 (hmutual tile h other hother hup)
  simp only [image_mem_around_iff, hcoords, hcoords'] at hp
  rcases hi with rfl | ⟨hcolumns, rfl | rfl⟩
  · rcases hj with rfl | ⟨-, rfl | rfl⟩ <;> omega
  all_goals
    have hwide : g.width ≠ 2 := fun hwidth => htwo ⟨hcolumns, hwidth⟩
    rcases hj with rfl | ⟨-, rfl | rfl⟩ <;> omega

theorem surrounds_iff (hhex : g.topology.hex = true) (h : tile < g.tileCount) :
    g.Surrounds tile (g.hexNeighbours tile) ↔
      (g.topology.wrapX = true → 3 ≤ g.width) ∧
        (g.topology.wrapY = true →
          0 < (g.coords tile).2 ∧ (g.coords tile).2 + 1 < g.height) :=
  ⟨fun hsurrounds => ⟨columns_of_surrounds h hsurrounds, row_of_surrounds hhex h hsurrounds⟩,
    fun ⟨hwide, hinner⟩ => surrounds_hexNeighbours hhex h hwide hinner⟩

theorem mutual_iff (hwidth : 0 < g.width) (hheight : 0 < g.height) :
    (∀ tile < g.tileCount, ∀ other < g.tileCount,
        (other ∈ g.hexNeighbours tile ↔ tile ∈ g.hexNeighbours other)) ↔
      (g.topology.wrapY = true → g.height % 2 = 0 ∨ g.height = 1 ∨ g.width = 1 ∨
        g.topology.wrapX = true ∧ g.width = 2) := by
  constructor
  · intro hmutual
    exact rows_of_mutual hwidth hheight fun tile h other hother => (hmutual tile h other hother).1
  · intro hrows tile h other hother
    exact ⟨mem_hexNeighbours_comm h hother hrows, mem_hexNeighbours_comm hother h hrows⟩

end Grid

namespace Geometry

variable {g : Geometry}

/-- On a hexagonal map whose tiles are counted in words the neighbours of a tile are listed exactly,
each once, unless the columns wrap and are fewer than three, or the rows wrap and the tile's is the
first or the last; none is ever left out.  Being a neighbour is mutual unless the rows wrap and an
odd number of them, three or more, meets on columns enough to tell shifted rows from others.  The
lists are found without leaving the words, and so are the distances if their squares are words. -/
theorem hexNeighbours_exact_iff (hhex : g.topology.hex = true) (hwidth : 0 < g.width)
    (hheight : 0 < g.height) (hsize : g.tileCount < 2 ^ 31) :
    (∀ tile, g.adjacentNeighbours tile = g.cardinalNeighbours tile) ∧
      (∀ tile < g.tileCount, g.grid.Surrounds tile (g.cardinalNeighbours tile) ↔
        (g.topology.wrapX = true → 3 ≤ g.width) ∧
          (g.topology.wrapY = true →
            0 < (g.coords tile).2 ∧ (g.coords tile).2 + 1 < g.height)) ∧
      (∀ tile < g.tileCount, ∀ other < g.tileCount, other ≠ tile →
        g.grid.sqDistance tile other = 1 → other ∈ g.cardinalNeighbours tile) ∧
      ((∀ tile < g.tileCount, ∀ other < g.tileCount,
          (other ∈ g.cardinalNeighbours tile ↔ tile ∈ g.cardinalNeighbours other)) ↔
        (g.topology.wrapY = true → g.height % 2 = 0 ∨ g.height = 1 ∨ g.width = 1 ∨
          g.topology.wrapX = true ∧ g.width = 2)) ∧
      (∀ tile < g.tileCount,
        (g.cardinalNeighboursM tile).checked = some (g.cardinalNeighbours tile) ∧
          (g.adjacentNeighboursM tile).checked = some (g.adjacentNeighbours tile)) ∧
      (g.InWords → ∀ tile < g.tileCount, ∀ other < g.tileCount,
        g.sqDistance tile other = g.grid.sqDistance tile other ∧
          (g.sqDistanceM tile other).checked = some (g.sqDistance tile other)) := by
  have hcardinal : ∀ tile < g.tileCount, g.cardinalNeighbours tile = g.grid.hexNeighbours tile :=
    fun tile h => (cardinalNeighbours_eq_grid h hsize).trans (if_pos hhex)
  refine ⟨fun tile => ?_, fun tile h => ?_, fun tile h other hother hne hone => ?_, ?_,
    fun tile h => ⟨?_, ?_⟩, fun hwords tile h other hother => ⟨?_, ?_⟩⟩
  · unfold adjacentNeighbours cardinalNeighbours adjacentNeighboursM cardinalNeighboursM
    rw [if_pos hhex, if_pos hhex]
  · rw [hcardinal tile h, coords_eq_grid (Nat.lt_trans h hsize)]
    exact Grid.surrounds_iff hhex h
  · rw [hcardinal tile h]
    exact Grid.mem_hexNeighbours_of_sqDistance hhex h hother hne hone
  · refine Iff.trans ?_ (Grid.mutual_iff (g := g.grid) hwidth hheight)
    refine forall₄_congr fun tile h other hother => ?_
    rw [hcardinal tile h, hcardinal other hother]
  · rw [cardinalNeighbours_eq_grid h hsize]
    exact checked_cardinalNeighboursM h hsize
  · rw [adjacentNeighbours_eq_grid h hsize]
    exact checked_adjacentNeighboursM h hsize
  · exact hwords.sqDistance_eq_grid h hother
  · rw [hwords.sqDistance_eq_grid h hother]
    exact hwords.checked_sqDistanceM h hother

theorem surrounds_inner_row :
    let g : Geometry := ⟨5, 4, { hex := true, wrapX := true, wrapY := true }⟩
    g.topology.hex = true ∧ 0 < g.width ∧ 0 < g.height ∧ g.tileCount < 2 ^ 31 ∧
      g.grid.Surrounds 5 [6, 1, 0, 9, 10, 11] ∧ ¬ g.grid.Surrounds 0 (g.cardinalNeighbours 0) ∧
      (∀ tile < g.tileCount, ∀ other < g.tileCount,
        (other ∈ g.cardinalNeighbours tile ↔ tile ∈ g.cardinalNeighbours other)) ∧
      (g.cardinalNeighboursM 5).checked = some [6, 1, 0, 9, 10, 11] := by
  intro g
  obtain ⟨-, hexact, -, hmutual, hchecked, -⟩ :=
    hexNeighbours_exact_iff (g := g) rfl (by decide) (by decide) (by decide)
  have hlist : g.cardinalNeighbours 5 = [6, 1, 0, 9, 10, 11] := by decide
  refine ⟨rfl, by decide, by decide, by decide, ?_, ?_, hmutual.2 fun _ => .inl (by decide), ?_⟩
  · rw [← hlist]
    exact (hexact 5 (by decide)).2 ⟨by decide, by decide⟩
  · exact fun hsurrounds => absurd ((hexact 0 (by decide)).1 hsurrounds) (by decide)
  · rw [← hlist]
    exact (hchecked 5 (by decide)).1

/-- The two neighbours in a row of two wrapping columns are listed twice; three wrapping rows bring
in a tile two steps away, which has no such neighbour itself. -/
theorem hexNeighbours_across_seams :
    let columns : Geometry := ⟨2, 1, { hex := true, wrapX := true }⟩
    let rows : Geometry := ⟨2, 3, { hex := true, wrapY := true }⟩
    columns.cardinalNeighbours 0 = [1, 1] ∧ columns.sqDistance 0 1 = 1 ∧
      ¬ columns.grid.Surrounds 0 (columns.cardinalNeighbours 0) ∧
      4 ∈ rows.cardinalNeighbours 1 ∧ rows.sqDistance 1 4 = 4 ∧
      1 ∉ rows.cardinalNeighbours 4 := by
  intro columns rows
  refine ⟨by decide, by decide, fun hsurrounds => ?_, by decide⟩
  exact absurd hsurrounds.1 (by decide)

end Geometry

end Rulebook
