import Rulebook.Map.Grid

/-!
The tiles within a radius, as a set.

Putting tiles in storage order, each once, keeps which tiles they are; so a tile
is within the radius if it is reached by a step of the square of coordinates
that is searched, and is near enough.
-/

namespace Rulebook

namespace Grid

theorem mem_eraseReps_loop {a b : TileIndex} {rest seen : List TileIndex} :
    a ∈ List.eraseRepsBy.loop (· == ·) b rest seen ↔ a = b ∨ a ∈ rest ∨ a ∈ seen := by
  induction rest generalizing b seen with
  | nil => simp [List.eraseRepsBy.loop, or_comm]
  | cons c rest ih =>
      rw [List.eraseRepsBy.loop]
      split
      · next heq =>
          rw [ih, beq_iff_eq.1 heq, List.mem_cons, or_assoc, or_self_left]
      · rw [ih, List.mem_cons, List.mem_cons]
        constructor
        · rintro (h | h | h | h) <;> simp [h]
        · rintro (h | (h | h) | h) <;> simp [h]

theorem mem_ordered {tile : TileIndex} {tiles : List TileIndex} :
    tile ∈ ordered tiles ↔ tile ∈ tiles := by
  have hreps : ∀ l : List TileIndex, tile ∈ l.eraseReps ↔ tile ∈ l := by
    intro l
    cases l with
    | nil => simp [List.eraseReps, List.eraseRepsBy]
    | cons first rest =>
        simp only [List.eraseReps, List.eraseRepsBy, mem_eraseReps_loop, List.mem_cons]
        simp
  rw [ordered, hreps, List.mem_mergeSort]

theorem mem_span {n : Nat} {z : Int} : z ∈ span n ↔ -n ≤ z ∧ z ≤ n := by
  simp only [span, List.mem_map, List.mem_range]
  constructor
  · rintro ⟨i, hi, rfl⟩
    omega
  · rintro ⟨hlow, hhigh⟩
    exact ⟨(z + n).toNat, by omega, by omega⟩

theorem mem_tilesWithin {g : Grid} {centre tile : TileIndex} {radiusSq : Int} :
    tile ∈ g.tilesWithin centre radiusSq ↔
      0 ≤ radiusSq ∧ g.sqDistance centre tile ≤ radiusSq ∧
        ∃ dx ∈ span (radiusSq.toNat.sqrt + 1), ∃ dy ∈ span (radiusSq.toNat.sqrt + 1),
          g.tileAt? ((g.coords centre).1 + dx) ((g.coords centre).2 + dy) = some tile := by
  unfold tilesWithin
  split
  · next hneg =>
      simp only [List.not_mem_nil, false_iff, not_and]
      omega
  · next hneg =>
      simp only [mem_ordered, List.mem_flatMap, List.mem_filterMap, Option.filter_eq_some_iff,
        decide_eq_true_eq]
      constructor
      · rintro ⟨dy, hdy, dx, hdx, htile, hnear⟩
        exact ⟨Int.not_lt.1 hneg, hnear, dx, hdx, dy, hdy, htile⟩
      · rintro ⟨-, hnear, dx, hdx, dy, hdy, htile⟩
        exact ⟨dy, hdy, dx, hdx, htile, hnear⟩

end Grid

end Rulebook
