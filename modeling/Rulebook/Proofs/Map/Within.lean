import Mathlib.Data.List.Sort
import Rulebook.Proofs.Map.Checked

/-!
The tiles within a radius, in order.

A search looks at the square of coordinates around a tile.  Since whatever is
near enough is reached by a step of that square, on any map, the search leaves
nothing out; and since it names tiles in storage order, each once, its outcome is
one fixed list.  On a small map the same is found in words.  An extent of 2 ^ 31 is
no word: nothing is found there.
-/

namespace Rulebook

namespace Grid

variable {g : Grid} {centre tile : TileIndex} {radiusSq : Int}

/-! ## Storage order -/

theorem pairwise_eraseReps_loop {b : TileIndex} {rest seen : List TileIndex}
    (hrest : (b :: rest).Pairwise (· ≤ ·)) (hseen : (b :: seen).Pairwise (· > ·)) :
    (List.eraseRepsBy.loop (· == ·) b rest seen).Pairwise (· < ·) := by
  induction rest generalizing b seen with
  | nil => exact List.pairwise_reverse.2 hseen
  | cons c rest ih =>
      obtain ⟨hleast, hsorted⟩ := List.pairwise_cons.1 hrest
      rw [List.eraseRepsBy.loop]
      split
      · next heq =>
          obtain rfl := beq_iff_eq.1 heq
          exact ih hsorted hseen
      · next hne =>
          have hlt : b < c :=
            Nat.lt_of_le_of_ne (hleast c List.mem_cons_self) (ne_of_beq_false hne)
          have hgreatest := (List.pairwise_cons.1 hseen).1
          refine ih hsorted (List.pairwise_cons.2 ⟨?_, hseen⟩)
          intro kept hkept
          rcases List.mem_cons.1 hkept with rfl | hkept
          · exact hlt
          · exact Nat.lt_trans (hgreatest kept hkept) hlt

theorem pairwise_ordered (tiles : List TileIndex) : (ordered tiles).Pairwise (· < ·) := by
  have hsorted : (tiles.mergeSort fun a b => a ≤ b).Pairwise (· ≤ ·) :=
    (List.pairwise_mergeSort (by simpa using fun a b c => Nat.le_trans)
      (by simpa using Nat.le_total) tiles).imp (by simp)
  unfold ordered
  cases heq : tiles.mergeSort fun a b => a ≤ b with
  | nil => exact List.Pairwise.nil
  | cons first rest =>
      rw [heq] at hsorted
      exact pairwise_eraseReps_loop hsorted (List.pairwise_singleton _ _)

theorem pairwise_tilesWithin (g : Grid) (centre : TileIndex) (radiusSq : Int) :
    (g.tilesWithin centre radiusSq).Pairwise (· < ·) := by
  unfold tilesWithin
  split
  · exact List.Pairwise.nil
  · exact pairwise_ordered _

/-! ## What a search finds -/

theorem mem_tilesWithin_iff_near (h : centre < g.tileCount) :
    tile ∈ g.tilesWithin centre radiusSq ↔
      tile < g.tileCount ∧ g.sqDistance centre tile ≤ radiusSq := by
  rw [mem_tilesWithin]
  constructor
  · rintro ⟨-, hnear, dx, -, dy, -, htile⟩
    exact ⟨((tileAt?_eq_some_iff (width_pos h) (height_pos h)).1 htile).1, hnear⟩
  · rintro ⟨htile, hnear⟩
    obtain ⟨dx, dy, hdx, hdy, hreached⟩ := exists_steps h htile hnear
    exact ⟨Int.le_trans (sqDistance_nonneg g centre tile) hnear, hnear, dx, mem_span.2 (by omega),
      dy, mem_span.2 (by omega), hreached⟩

theorem tilesWithin_eq_filter (h : centre < g.tileCount) (radiusSq : Int) :
    g.tilesWithin centre radiusSq =
      (List.range g.tileCount).filter (fun tile => g.sqDistance centre tile ≤ radiusSq) := by
  refine (pairwise_tilesWithin g centre radiusSq).eq_of_mem_iff
    (List.pairwise_lt_range.filter _) fun tile => ?_
  simp [mem_tilesWithin_iff_near h]

end Grid

namespace Geometry

open Calculation

variable {g : Geometry} {centre tile : TileIndex} {radiusSq : Int}

theorem InWords.mem_tilesWithin_iff (hwords : g.InWords) (h : centre < g.tileCount)
    (hradius : radiusSq < 2 ^ 31) :
    tile ∈ g.tilesWithin centre radiusSq ↔
      tile < g.tileCount ∧ g.sqDistance centre tile ≤ radiusSq := by
  rw [hwords.tilesWithin_eq_grid h hradius, Grid.mem_tilesWithin_iff_near (g := g.grid) h]
  refine and_congr_right fun htile => ?_
  rw [hwords.sqDistance_eq_grid h htile]

/-- On a small map a search finds, in storage order and each once, all tiles that are near enough:
the tile itself unless the radius is negative, and one tile from another just when the other from
it.  Neither the search nor the distances leave the words. -/
theorem tilesWithin_exact (hwords : g.InWords) (h : centre < g.tileCount)
    (hradius : radiusSq < 2 ^ 31) :
    g.tilesWithin centre radiusSq =
        (List.range g.tileCount).filter (fun tile => g.sqDistance centre tile ≤ radiusSq) ∧
      (g.tilesWithin centre radiusSq).Pairwise (· < ·) ∧
      (∀ tile, tile ∈ g.tilesWithin centre radiusSq ↔
        tile < g.tileCount ∧ g.sqDistance centre tile ≤ radiusSq) ∧
      (centre ∈ g.tilesWithin centre radiusSq ↔ 0 ≤ radiusSq) ∧
      (∀ tile < g.tileCount,
        (tile ∈ g.tilesWithin centre radiusSq ↔ centre ∈ g.tilesWithin tile radiusSq)) ∧
      (g.tilesWithinM centre radiusSq).checked = some (g.tilesWithin centre radiusSq) ∧
      ∀ tile < g.tileCount,
        (g.sqDistanceM centre tile).checked = some (g.sqDistance centre tile) := by
  refine ⟨?_, ?_, fun tile => hwords.mem_tilesWithin_iff h hradius, ?_, fun tile htile => ?_, ?_,
    fun tile htile => ?_⟩
  · rw [hwords.tilesWithin_eq_grid h hradius, Grid.tilesWithin_eq_filter (g := g.grid) h]
    refine List.filter_congr fun tile htile => ?_
    rw [hwords.sqDistance_eq_grid h (List.mem_range.1 htile)]
  · rw [hwords.tilesWithin_eq_grid h hradius]
    exact Grid.pairwise_tilesWithin g.grid centre radiusSq
  · rw [hwords.mem_tilesWithin_iff h hradius, hwords.sqDistance_eq_grid h h, Grid.sqDistance_self,
      and_iff_right h]
  · rw [hwords.mem_tilesWithin_iff h hradius, hwords.mem_tilesWithin_iff htile hradius,
      hwords.sqDistance_eq_grid h htile, hwords.sqDistance_eq_grid htile h, Grid.sqDistance_comm,
      and_iff_right htile, and_iff_right h]
  · rw [hwords.tilesWithin_eq_grid h hradius]
    exact hwords.checked_tilesWithinM h hradius
  · rw [hwords.sqDistance_eq_grid h htile]
    exact hwords.checked_sqDistanceM h htile

theorem tilesWithin_across_seam :
    let g : Geometry := ⟨5, 3, { hex := true, wrapX := true }⟩
    g.InWords ∧ 5 < g.tileCount ∧ (1 : Int) < 2 ^ 31 ∧
      g.tilesWithin 5 1 = [0, 1, 5, 6, 9, 10, 11] ∧
      (g.tilesWithinM 5 1).checked = some [0, 1, 5, 6, 9, 10, 11] := by
  intro g
  have hwords : g.InWords := ⟨by decide, by decide⟩
  obtain ⟨hlist, -, -, -, -, hchecked, -⟩ :=
    tilesWithin_exact hwords (show 5 < g.tileCount by decide) (show (1 : Int) < 2 ^ 31 by decide)
  have hfound : g.tilesWithin 5 1 = [0, 1, 5, 6, 9, 10, 11] := by
    rw [hlist]
    decide
  exact ⟨hwords, by decide, by decide, hfound, by rw [hchecked, hfound]⟩

/-- A row of 2 ^ 31 tiles has coordinates that are words, but its extent, read as a signed word, is
negative: no tile is found, not even the one that is at no distance. -/
theorem tilesWithin_of_long_row :
    let g : Geometry := ⟨2147483648, 1, {}⟩
    0 < g.tileCount ∧ (∀ tile < g.tileCount, IsWord (g.grid.coords tile).1) ∧
      g.sqDistance 0 0 = 0 ∧ (g.sqDistanceM 0 0).checked = some 0 ∧
      g.tilesWithin 0 0 = [] ∧ (g.tilesWithinM 0 0).checked = some [] := by
  intro g
  have hfound : ((stepsWithin 0).filterMapM (g.nearM? 0 0)).checked = some [] := by decide
  have hnothing : (g.tilesWithinM 0 0).checked = some [] := by
    rw [tilesWithinM, if_neg (by decide), checked_bind_of hfound, checked_pure]
    simp [Grid.ordered, List.eraseReps, List.eraseRepsBy]
  refine ⟨by decide, fun tile h => ?_, by decide, by decide, modular_of_checked hnothing, hnothing⟩
  obtain ⟨hx, hxlt, -, -⟩ := Grid.coords_bounds (g := g.grid) h
  exact ⟨by omega, hxlt⟩

end Geometry

end Rulebook
