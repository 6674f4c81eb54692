import Rulebook.Map.Geometry
import Rulebook.Proofs.Map.Distance
import Rulebook.Proofs.Map.Radius

/-!
Calculations on a map that go into words.

If the number of tiles fits into a signed word, so do the extents, the coordinates
and whatever a step leads to.  If the squares of all distances do as well, the map
is small, and nothing that comes up in a distance or in a search is too large.  A
program that checks its results then comes to the end, and to what the map in whole
numbers says.
-/

namespace Rulebook

open Calculation

/-! ## Hexes -/

namespace Hex

theorem checked_ofOffsetM {x y : Int} (hy : IsWord y) (hq : IsWord (x - (y - y % 2) / 2)) :
    (ofOffsetM x y).checked = some (ofOffset x y) := by
  have heven : IsWord (y - y % 2) := by
    simp only [IsWord] at hy ⊢
    omega
  rw [ofOffsetM, checked_bind_of (checked_word heven), checked_bind_of (checked_word hq)]
  rfl

theorem checked_toOffsetM {a : Hex} (hr : IsWord a.r) (hx : IsWord (a.q + (a.r - a.r % 2) / 2)) :
    a.toOffsetM.checked = some a.toOffset := by
  have heven : IsWord (a.r - a.r % 2) := by
    simp only [IsWord] at hr ⊢
    omega
  rw [toOffsetM, checked_bind_of (checked_word heven), checked_bind_of (checked_word hx)]
  rfl

theorem checked_addM {a b : Hex} (hq : IsWord (a.q + b.q)) (hr : IsWord (a.r + b.r)) :
    (a.addM b).checked = some (a.add b) := by
  rw [addM, checked_bind_of (checked_word hq), checked_bind_of (checked_word hr)]
  rfl

/-- Coordinates so small that no sum of their differences is too large for a word. -/
def Small (a : Hex) : Prop := a.q.natAbs ≤ 2 ^ 26 ∧ a.r.natAbs ≤ 2 ^ 26

theorem distance_lt_of_small {a b : Hex} (ha : a.Small) (hb : b.Small) :
    a.distance b < 2147483647 := by
  simp only [Small] at ha hb
  simp only [distance, s]
  omega

theorem checked_sM {a : Hex} (h : a.Small) : a.sM.checked = some a.s := by
  simp only [Small] at h
  have hnegative : IsWord (-a.q) := ⟨by omega, by omega⟩
  rw [sM, checked_bind_of (checked_word hnegative)]
  exact checked_word ⟨by omega, by omega⟩

theorem checked_distanceM {a b : Hex} (ha : a.Small) (hb : b.Small) :
    (a.distanceM b).checked = some (a.distance b : Int) := by
  have hsa := checked_sM ha
  have hsb := checked_sM hb
  simp only [Small] at ha hb
  have hs : (a.s - b.s).natAbs ≤ (a.q - b.q).natAbs + (a.r - b.r).natAbs := by
    simp only [s]
    omega
  have htwo : IsWord ((a.q - b.q).natAbs + (a.r - b.r).natAbs) := ⟨by omega, by omega⟩
  have hthree : IsWord ((a.q - b.q).natAbs + (a.r - b.r).natAbs + (a.s - b.s).natAbs) :=
    ⟨by omega, by omega⟩
  rw [distanceM, checked_bind_of (checked_gap (by omega)), checked_bind_of (checked_gap (by omega)),
    checked_bind_of (checked_word htwo), checked_bind_of hsa, checked_bind_of hsb,
    checked_bind_of (checked_gap (by omega)), checked_bind_of (checked_word hthree), checked_pure,
    Int.tdiv_eq_ediv_of_nonneg (by omega), distance, Option.some.injEq]
  omega

end Hex

namespace Geometry

variable {g : Geometry} {tile other centre : TileIndex} {x y radiusSq : Int}

@[simp] theorem grid_width (g : Geometry) : g.grid.width = g.width := rfl

@[simp] theorem grid_height (g : Geometry) : g.grid.height = g.height := rfl

@[simp] theorem grid_topology (g : Geometry) : g.grid.topology = g.topology := rfl

@[simp] theorem grid_tileCount (g : Geometry) : g.grid.tileCount = g.tileCount := rfl

/-! ## Tiles -/

theorem width_lt (hheight : 0 < g.height) (hsize : g.tileCount < 2 ^ 31) : g.width < 2 ^ 31 :=
  Nat.lt_of_le_of_lt (Nat.le_mul_of_pos_right g.width hheight) hsize

theorem height_lt (hwidth : 0 < g.width) (hsize : g.tileCount < 2 ^ 31) : g.height < 2 ^ 31 :=
  Nat.lt_of_le_of_lt (Nat.le_mul_of_pos_left g.height hwidth) hsize

theorem coords_eq_grid (h : tile < 2 ^ 31) : g.coords tile = g.grid.coords tile := by
  have hcolumn := Nat.lt_of_le_of_lt (Nat.mod_le tile (max g.width 1)) h
  have hrow := Nat.lt_of_le_of_lt (Nat.div_le_self tile (max g.width 1)) h
  unfold coords Grid.coords
  dsimp only
  rw [toWord_natCast hcolumn, toWord_natCast hrow]
  rfl

theorem number_bounds (hxlt : x < g.width) (hy : 0 ≤ y) (hylt : y < g.height) :
    0 ≤ y * g.width ∧ y * g.width + x < g.tileCount := by
  obtain ⟨y, rfl⟩ := Int.eq_ofNat_of_zero_le hy
  have hrows : (y + 1) * g.width ≤ g.height * g.width := Nat.mul_le_mul_right _ (by omega)
  rw [Nat.succ_mul, Nat.mul_comm g.height] at hrows
  have hcount : g.tileCount = g.width * g.height := rfl
  rw [← Int.natCast_mul]
  omega

theorem checked_number (hsize : g.tileCount < 2 ^ 31) (column row : Int) :
    (if column < 0 ∨ row < 0 ∨ column ≥ g.width ∨ row ≥ g.height then pure none
      else do
        let before ← word (row * g.width)
        let number ← word (before + column)
        return some (number % 4294967296).toNat : Calculation (Option TileIndex)).checked =
      some (if column < 0 ∨ row < 0 ∨ column ≥ g.width ∨ row ≥ g.height then none
        else some (row * g.width + column).toNat) := by
  split
  · rfl
  · next hinside =>
      obtain ⟨hrow, hnumber⟩ := number_bounds (g := g) (x := column) (y := row)
        (by omega) (by omega) (by omega)
      have hrow' : IsWord (row * g.width) := ⟨by omega, by omega⟩
      have hnumber' : IsWord (row * g.width + column) := ⟨by omega, by omega⟩
      rw [checked_bind_of (checked_word hrow'), checked_bind_of (checked_word hnumber'),
        checked_pure, Int.emod_eq_of_lt (by omega) (by omega)]

theorem checked_tileAtM? (hwidth : 0 < g.width) (hheight : 0 < g.height)
    (hsize : g.tileCount < 2 ^ 31) (x y : Int) :
    (g.tileAtM? x y).checked = some (g.grid.tileAt? x y) := by
  have hempty : ¬ ((g.width : Int) = 0 ∨ (g.height : Int) = 0) := by omega
  have hempty' : ¬ (g.width = 0 ∨ g.height = 0) := by omega
  unfold tileAtM? Grid.tileAt?
  rw [toWord_natCast (width_lt hheight hsize), toWord_natCast (height_lt hwidth hsize),
    if_neg hempty]
  refine (checked_number hsize _ _).trans (congrArg some ?_)
  exact (if_neg hempty').symm

theorem checked_tileAtM?_of_lt (h : tile < g.tileCount) (hsize : g.tileCount < 2 ^ 31) (x y : Int) :
    (g.tileAtM? x y).checked = some (g.grid.tileAt? x y) :=
  checked_tileAtM? (Grid.width_pos (g := g.grid) h) (Grid.height_pos (g := g.grid) h) hsize x y

theorem tileAt?_eq_grid (hwidth : 0 < g.width) (hheight : 0 < g.height)
    (hsize : g.tileCount < 2 ^ 31) (x y : Int) : g.tileAt? x y = g.grid.tileAt? x y :=
  modular_of_checked (checked_tileAtM? hwidth hheight hsize x y)

theorem coords_lt (h : tile < g.tileCount) (hsize : g.tileCount < 2 ^ 31) :
    0 ≤ (g.grid.coords tile).1 ∧ (g.grid.coords tile).1 < 2147483647 ∧
      0 ≤ (g.grid.coords tile).2 ∧ (g.grid.coords tile).2 < 2147483647 := by
  have hwidth := width_lt (Grid.height_pos (g := g.grid) h) hsize
  have hheight := height_lt (Grid.width_pos (g := g.grid) h) hsize
  have hbounds := Grid.coords_bounds (g := g.grid) h
  simp only [grid_width, grid_height] at hbounds
  omega

theorem checked_stepM? (h : tile < g.tileCount) (hsize : g.tileCount < 2 ^ 31) {step : Int × Int}
    (hx : IsWord ((g.grid.coords tile).1 + step.1))
    (hy : IsWord ((g.grid.coords tile).2 + step.2)) :
    (g.stepM? tile step).checked = some
      (g.grid.tileAt? ((g.grid.coords tile).1 + step.1) ((g.grid.coords tile).2 + step.2)) := by
  rw [stepM?, coords_eq_grid (Nat.lt_trans h hsize)]
  rw [checked_bind_of (checked_word hx), checked_bind_of (checked_word hy)]
  exact checked_tileAtM?_of_lt h hsize _ _

/-! ## Neighbours -/

theorem checked_squareNeighboursM (h : tile < g.tileCount) (hsize : g.tileCount < 2 ^ 31)
    {steps : List (Int × Int)} (hsteps : ∀ step ∈ steps, step.1.natAbs ≤ 1 ∧ step.2.natAbs ≤ 1) :
    (g.squareNeighboursM steps tile).checked = some (g.grid.squareNeighbours steps tile) := by
  obtain ⟨hx, hxlt, hy, hylt⟩ := coords_lt h hsize
  have hreached := checked_filterMapM (l := steps) (f := g.stepM? tile) fun step hstep => by
    obtain ⟨hdx, hdy⟩ := hsteps step hstep
    exact checked_stepM? h hsize ⟨by omega, by omega⟩ ⟨by omega, by omega⟩
  rw [squareNeighboursM, checked_bind_of hreached]
  rfl

theorem checked_hexNeighboursM (h : tile < g.tileCount) (hsize : g.tileCount < 2 ^ 31) :
    (g.hexNeighboursM tile).checked = some (g.grid.hexNeighbours tile) := by
  obtain ⟨hx, hxlt, hy, hylt⟩ := coords_lt h hsize
  rw [hexNeighboursM, coords_eq_grid (Nat.lt_trans h hsize), Grid.hexNeighbours]
  generalize g.grid.coords tile = place at *
  obtain ⟨x, y⟩ := place
  dsimp only at hx hxlt hy hylt ⊢
  have hcentre := Hex.checked_ofOffsetM (x := x) (y := y) ⟨by omega, by omega⟩
    ⟨by omega, by omega⟩
  rw [checked_bind_of hcentre]
  refine checked_filterMapM fun d hd => ?_
  have hd' : d.q.natAbs ≤ 1 ∧ d.r.natAbs ≤ 1 ∧ (d.q + d.r).natAbs ≤ 1 := by
    revert d
    decide
  have hadd := Hex.checked_addM (a := Hex.ofOffset x y) (b := d)
    (by simp only [IsWord, Hex.ofOffset]; omega) (by simp only [IsWord, Hex.ofOffset]; omega)
  have hback := Hex.checked_toOffsetM (a := (Hex.ofOffset x y).add d)
    (by simp only [IsWord, Hex.add, Hex.ofOffset]; omega)
    (by simp only [IsWord, Hex.add, Hex.ofOffset]; omega)
  rw [checked_bind_of hadd, checked_bind_of hback]
  exact checked_tileAtM?_of_lt h hsize _ _

theorem checked_cardinalNeighboursM (h : tile < g.tileCount) (hsize : g.tileCount < 2 ^ 31) :
    (g.cardinalNeighboursM tile).checked = some (g.grid.cardinalNeighbours tile) := by
  unfold cardinalNeighboursM Grid.cardinalNeighbours
  change _ = some (if g.topology.hex then _ else _)
  split
  · exact checked_hexNeighboursM h hsize
  · exact checked_squareNeighboursM h hsize (by decide)

theorem checked_adjacentNeighboursM (h : tile < g.tileCount) (hsize : g.tileCount < 2 ^ 31) :
    (g.adjacentNeighboursM tile).checked = some (g.grid.adjacentNeighbours tile) := by
  unfold adjacentNeighboursM Grid.adjacentNeighbours
  change _ = some (if g.topology.hex then _ else _)
  split
  · exact checked_hexNeighboursM h hsize
  · exact checked_squareNeighboursM h hsize (by decide)

theorem cardinalNeighbours_eq_grid (h : tile < g.tileCount) (hsize : g.tileCount < 2 ^ 31) :
    g.cardinalNeighbours tile = g.grid.cardinalNeighbours tile :=
  modular_of_checked (checked_cardinalNeighboursM h hsize)

theorem adjacentNeighbours_eq_grid (h : tile < g.tileCount) (hsize : g.tileCount < 2 ^ 31) :
    g.adjacentNeighbours tile = g.grid.adjacentNeighbours tile :=
  modular_of_checked (checked_adjacentNeighboursM h hsize)

/-! ## Distances -/

theorem checked_axisDistanceM (wraps : Bool) {extent : Nat} (hextent : extent < 2 ^ 31) {a b : Int}
    (ha : 0 ≤ a) (halt : a < extent) (hb : 0 ≤ b) (hblt : b < extent) :
    (axisDistanceM wraps extent a b).checked = some (Grid.axisDistance wraps extent a b) := by
  rw [axisDistanceM, checked_bind_of (checked_gap (by omega))]
  cases wraps with
  | false => rfl
  | true =>
      have hother : IsWord (toWord extent - (a - b).natAbs) := by
        rw [toWord_natCast hextent]
        exact ⟨by omega, by omega⟩
      rw [if_pos rfl, checked_bind_of (checked_word hother), toWord_natCast hextent]
      rfl

theorem checked_sumOfSquares (dx dy : Int) :
    (do
      let dx ← word (dx * dx)
      let dy ← word (dy * dy)
      word (dx + dy)).checked =
        if dx * dx + dy * dy < 2 ^ 31 then some (dx * dx + dy * dy) else none := by
  have hdx := mul_self_nonneg dx
  have hdy := mul_self_nonneg dy
  by_cases hdx' : IsWord (dx * dx)
  · rw [checked_bind_of (checked_word hdx')]
    by_cases hdy' : IsWord (dy * dy)
    · rw [checked_bind_of (checked_word hdy')]
      split
      · exact checked_word ⟨by omega, by omega⟩
      · next hfar => exact if_neg fun hword => hfar hword.2
    · rw [checked_word_bind_of_not hdy', if_neg fun hnear => hdy' ⟨by omega, by omega⟩]
  · rw [checked_word_bind_of_not hdx', if_neg fun hnear => hdx' ⟨by omega, by omega⟩]

theorem checked_sqDistanceM_of_square (hsquare : g.topology.hex = false) (h : tile < g.tileCount)
    (hother : other < g.tileCount) (hsize : g.tileCount < 2 ^ 31) :
    (g.sqDistanceM tile other).checked =
      if g.grid.sqDistance tile other < 2 ^ 31 then some (g.grid.sqDistance tile other)
      else none := by
  have hsquare' : ¬ g.topology.hex = true := by simp [hsquare]
  obtain ⟨hx, hxlt, hy, hylt⟩ := Grid.coords_bounds (g := g.grid) h
  obtain ⟨hx', hxlt', hy', hylt'⟩ := Grid.coords_bounds (g := g.grid) hother
  have hcolumns := checked_axisDistanceM g.topology.wrapX
    (width_lt (Grid.height_pos (g := g.grid) h) hsize) hx hxlt hx' hxlt'
  have hrows := checked_axisDistanceM g.topology.wrapY
    (height_lt (Grid.width_pos (g := g.grid) h) hsize) hy hylt hy' hylt'
  rw [Grid.sqDistance_of_square hsquare]
  rw [sqDistanceM, coords_eq_grid (Nat.lt_trans h hsize),
    coords_eq_grid (Nat.lt_trans hother hsize), if_neg hsquare', checked_bind_of hcolumns,
    checked_bind_of hrows]
  exact checked_sumOfSquares _ _

/-! ## Small maps -/

/-- The tiles of the map, and the squares of the distances between them, are counted in words. -/
structure InWords (g : Geometry) : Prop where
  tiles : g.tileCount < 2 ^ 31
  distances : ∀ tile < g.tileCount, ∀ other < g.tileCount, g.grid.sqDistance tile other < 2 ^ 31

theorem InWords.extents_le (hwords : g.InWords) (h : tile < g.tileCount) :
    g.width ≤ 2 ^ 17 ∧ g.height ≤ 2 ^ 17 := by
  have hwidth : 0 < g.width := Grid.width_pos (g := g.grid) h
  have hheight : 0 < g.height := Grid.height_pos (g := g.grid) h
  have hroot : ∀ n : Int, n * n < 2 ^ 31 → n ≤ 46340 := by
    intro n hn
    by_contra hlarge
    have hsquare := mul_self_le_mul_self (show (0 : Int) ≤ 46341 by decide)
      (show 46341 ≤ n by omega)
    omega
  have hhalf : ∀ (wraps : Bool) (extent : Nat),
      Grid.axisDistance wraps extent 0 (extent / 2 : Nat) = (extent / 2 : Nat) := by
    intro wraps extent
    simp only [Grid.axisDistance]
    split <;> omega
  obtain ⟨first, hfirst, hcoords⟩ := Grid.exists_coords_eq (g := g.grid) (x := 0) (y := 0)
    (by omega) (by simp; omega) (by omega) (by simp; omega)
  obtain ⟨right, hright, hcoords'⟩ := Grid.exists_coords_eq (g := g.grid)
    (x := (g.width / 2 : Nat)) (y := 0) (by omega) (by simp; omega) (by omega) (by simp; omega)
  obtain ⟨below, hbelow, hcoords''⟩ := Grid.exists_coords_eq (g := g.grid)
    (x := 0) (y := (g.height / 2 : Nat)) (by omega) (by simp; omega) (by omega) (by simp; omega)
  have hcolumns := (Grid.axisDistances_le hfirst hright).1
  have hrows := (Grid.axisDistances_le hfirst hbelow).2
  rw [hcoords, hcoords', grid_width, hhalf] at hcolumns
  rw [hcoords, hcoords'', grid_height, hhalf] at hrows
  have hcolumns' := hroot _ (lt_of_le_of_lt hcolumns (hwords.distances first hfirst right hright))
  have hrows' := hroot _ (lt_of_le_of_lt hrows (hwords.distances first hfirst below hbelow))
  omega

theorem InWords.natAbs_coords_le (hwords : g.InWords) (h : tile < g.tileCount) :
    (g.grid.coords tile).1.natAbs ≤ 2 ^ 17 ∧ (g.grid.coords tile).2.natAbs ≤ 2 ^ 17 := by
  obtain ⟨hwidth, hheight⟩ := hwords.extents_le h
  obtain ⟨hx, hxlt, hy, hylt⟩ := Grid.coords_bounds (g := g.grid) h
  rw [grid_width] at hxlt
  rw [grid_height] at hylt
  omega

theorem small_ofOffset {x y : Int} (hx : x.natAbs ≤ 2 ^ 20) (hy : y.natAbs ≤ 2 ^ 20) :
    (Hex.ofOffset x y).Small := by
  simp only [Hex.Small, Hex.ofOffset]
  omega

def stepsRound (g : Geometry) (p q : Int × Int) (turns : Int) : Nat :=
  (Hex.ofOffset p.1 p.2).distance (Hex.ofOffset (q.1 + turns * g.width) q.2)

section

variable {p q : Int × Int} (hwidth : g.width ≤ 2 ^ 17)
  (hp : p.1.natAbs ≤ 2 ^ 17 ∧ p.2.natAbs ≤ 2 ^ 17) (hq : q.1.natAbs ≤ 2 ^ 17 ∧ q.2.natAbs ≤ 2 ^ 17)

include hwidth hp hq

theorem checked_stepsRoundM (turns : Int) (hturns : turns.natAbs ≤ 1) :
    (g.stepsRoundM (Hex.ofOffset p.1 p.2) q turns).checked = some (g.stepsRound p q turns : Int) ∧
      g.stepsRound p q turns < 2147483647 := by
  have hmoved : (turns * (g.width : Int)).natAbs ≤ 2 ^ 17 := by
    rw [Int.natAbs_mul, Int.natAbs_natCast]
    exact (Nat.mul_le_mul hturns hwidth).trans (by decide)
  have hmoved' : IsWord (turns * g.width) := ⟨by omega, by omega⟩
  have hx : IsWord (q.1 + turns * g.width) := ⟨by omega, by omega⟩
  have hgoal := Hex.checked_ofOffsetM (x := q.1 + turns * g.width) (y := q.2)
    ⟨by omega, by omega⟩ ⟨by omega, by omega⟩
  have hsteps := Hex.checked_distanceM (small_ofOffset (x := p.1) (y := p.2) (by omega) (by omega))
    (small_ofOffset (x := q.1 + turns * g.width) (y := q.2) (by omega) (by omega))
  constructor
  · rw [stepsRoundM, toWord_natCast (by omega), checked_bind_of (checked_word hmoved'),
      checked_bind_of (checked_word hx), checked_bind_of hgoal]
    exact hsteps
  · exact Hex.distance_lt_of_small (small_ofOffset (by omega) (by omega))
      (small_ofOffset (by omega) (by omega))

theorem checked_hexStepsM : (g.hexStepsM p q).checked = some (g.grid.hexSteps p q : Int) := by
  have hstart := Hex.checked_ofOffsetM (x := p.1) (y := p.2) ⟨by omega, by omega⟩
    ⟨by omega, by omega⟩
  have hstep : ∀ least turns : Int, turns.natAbs ≤ 1 →
      (do return min least (← g.stepsRoundM (Hex.ofOffset p.1 p.2) q turns)).checked =
        some (min least (g.stepsRound p q turns)) := fun least turns hturns => by
    rw [checked_bind_of (checked_stepsRoundM hwidth hp hq turns hturns).1, checked_pure]
  have hwest := (checked_stepsRoundM hwidth hp hq (-1) (by decide)).2
  have hhere := (checked_stepsRoundM hwidth hp hq 0 (by decide)).2
  have heast := (checked_stepsRoundM hwidth hp hq 1 (by decide)).2
  have hgrid : g.grid.hexSteps p q = if g.topology.wrapX then
      min (g.stepsRound p q (-1)) (min (g.stepsRound p q 0) (g.stepsRound p q 1))
    else g.stepsRound p q 0 := rfl
  rw [hexStepsM, checked_bind_of hstart, hgrid]
  cases g.topology.wrapX with
  | true =>
      rw [if_pos rfl, if_pos rfl, List.foldlM_cons, checked_bind_of (hstep _ _ (by decide)),
        List.foldlM_cons, checked_bind_of (hstep _ _ (by decide)), List.foldlM_cons,
        checked_bind_of (hstep _ _ (by decide)), List.foldlM_nil, checked_pure,
        Option.some.injEq]
      omega
  | false =>
      rw [if_neg (by decide), if_neg (by decide), List.foldlM_cons,
        checked_bind_of (hstep _ _ (by decide)), List.foldlM_nil, checked_pure, Option.some.injEq]
      omega

end

theorem InWords.checked_sqDistanceM (hwords : g.InWords) (h : tile < g.tileCount)
    (hother : other < g.tileCount) :
    (g.sqDistanceM tile other).checked = some (g.grid.sqDistance tile other) := by
  have hnear := hwords.distances tile h other hother
  cases hhex : g.topology.hex with
  | false => rw [checked_sqDistanceM_of_square hhex h hother hwords.tiles, if_pos hnear]
  | true =>
      have hsteps := checked_hexStepsM (hwords.extents_le h).1 (hwords.natAbs_coords_le h)
        (hwords.natAbs_coords_le hother)
      have hnonneg := Grid.sqDistance_nonneg g.grid tile other
      rw [Grid.sqDistance_of_hex hhex] at hnear hnonneg ⊢
      rw [sqDistanceM, coords_eq_grid (Nat.lt_trans h hwords.tiles),
        coords_eq_grid (Nat.lt_trans hother hwords.tiles), if_pos hhex, checked_bind_of hsteps]
      exact checked_word ⟨by omega, by omega⟩

theorem InWords.sqDistance_eq_grid (hwords : g.InWords) (h : tile < g.tileCount)
    (hother : other < g.tileCount) : g.sqDistance tile other = g.grid.sqDistance tile other :=
  modular_of_checked (hwords.checked_sqDistanceM h hother)

/-! ## Searches -/

theorem mem_stepsWithin {step : Int × Int} (h : step ∈ stepsWithin radiusSq)
    (hradius : radiusSq < 2 ^ 31) : step.1.natAbs ≤ 2 ^ 17 ∧ step.2.natAbs ≤ 2 ^ 17 := by
  have hroot : radiusSq.toNat.sqrt < 46341 := Nat.sqrt_lt.2 (by omega)
  simp only [stepsWithin, List.mem_flatMap, List.mem_map, Grid.mem_span] at h
  obtain ⟨dy, hdy, dx, hdx, rfl⟩ := h
  dsimp only
  omega

theorem InWords.checked_nearM? (hwords : g.InWords) (h : centre < g.tileCount)
    (hradius : radiusSq < 2 ^ 31) {step : Int × Int} (hstep : step ∈ stepsWithin radiusSq) :
    (g.nearM? centre radiusSq step).checked =
      some ((g.grid.tileAt? ((g.grid.coords centre).1 + step.1)
        ((g.grid.coords centre).2 + step.2)).filter
          fun tile => g.grid.sqDistance centre tile ≤ radiusSq) := by
  obtain ⟨hx, hy⟩ := hwords.natAbs_coords_le h
  obtain ⟨hdx, hdy⟩ := mem_stepsWithin hstep hradius
  rw [nearM?, checked_bind_of (checked_stepM? h hwords.tiles ⟨by omega, by omega⟩
    ⟨by omega, by omega⟩)]
  cases htile : g.grid.tileAt? ((g.grid.coords centre).1 + step.1)
      ((g.grid.coords centre).2 + step.2) with
  | none => rfl
  | some tile =>
      obtain ⟨hmap, -⟩ := (Grid.tileAt?_eq_some_iff (Grid.width_pos (g := g.grid) h)
        (Grid.height_pos (g := g.grid) h)).1 htile
      rw [checked_bind_of (hwords.checked_sqDistanceM h hmap), checked_pure, Option.filter_some]
      simp only [decide_eq_true_eq]

theorem InWords.checked_tilesWithinM (hwords : g.InWords) (h : centre < g.tileCount)
    (hradius : radiusSq < 2 ^ 31) :
    (g.tilesWithinM centre radiusSq).checked = some (g.grid.tilesWithin centre radiusSq) := by
  unfold tilesWithinM Grid.tilesWithin
  split
  · rfl
  · rw [checked_bind_of (checked_filterMapM fun step => hwords.checked_nearM? h hradius),
      checked_pure, stepsWithin, List.filterMap_flatMap]
    simp only [List.filterMap_map]
    rfl

theorem InWords.tilesWithin_eq_grid (hwords : g.InWords) (h : centre < g.tileCount)
    (hradius : radiusSq < 2 ^ 31) :
    g.tilesWithin centre radiusSq = g.grid.tilesWithin centre radiusSq :=
  modular_of_checked (hwords.checked_tilesWithinM h hradius)

end Geometry

end Rulebook
