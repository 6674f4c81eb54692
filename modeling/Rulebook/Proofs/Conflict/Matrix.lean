import Mathlib.Data.List.ProdSigma
import Rulebook.Conflict.Matrix
import Rulebook.Proofs.Conflict.Refutation
import Rulebook.Proofs.Conflict.Symmetry

/-!
The matrix of relations answers as the rule does.

Places tell demands apart and lie within the matrix, so a mark is seen in its
own cell and in no other.  What has been entered is thus marked, in both orders,
and nothing else.  With the relations looked up, the conflict of two requirements
is still one that holds in either order, never of a requirement with itself, and
always with its opposite.
-/

namespace Rulebook

/-! ## Cells of a square, row by row -/

theorem cell_lt {i j n : Nat} (hi : i < n) (hj : j < n) : i * n + j < n * n :=
  calc
    i * n + j < (i + 1) * n := by rw [Nat.succ_mul]; omega
    _ ≤ n * n := Nat.mul_le_mul_right n hi

theorem cell_inj {i j k l n : Nat} (hj : j < n) (hl : l < n) (h : i * n + j = k * n + l) :
    i = k ∧ j = l := by
  have hcolumn : j = l := by
    simpa [Nat.mul_comm _ n, Nat.mul_add_mod, Nat.mod_eq_of_lt, hj, hl] using congrArg (· % n) h
  subst hcolumn
  exact ⟨Nat.eq_of_mul_eq_mul_right (Nat.zero_lt_of_lt hj) (Nat.add_right_cancel h), rfl⟩

namespace RelationDemand

variable {a b d : RelationDemand} {i : Nat}

theorem inScope_of_conflicts (h : a.conflicts b = true) : a.inScope = true ∧ b.inScope = true := by
  simp only [conflicts, Bool.and_eq_true] at h
  exact h.1

/-! ## Places -/

theorem mem_scopes_iff : d.scope ∈ scopes ↔ d.inScope = true := List.contains_iff_mem.symm

theorem mem_all_iff : d ∈ all ↔ d.inScope = true := by
  obtain ⟨relation, scope, present⟩ := d
  cases present <;> simp [all, ← mem_scopes_iff, Vocabulary.mem_all]

theorem length_all :
    all.length = (Vocabulary.all : List Relation).length * scopes.length * 2 := by
  simp only [all, List.length_flatMap, List.length_map, List.length_cons, List.length_nil,
    List.map_const', List.sum_replicate_nat, Nat.mul_assoc]

theorem place?_eq_some_iff :
    d.place? = some i ↔ ∃ k, scopes.idxOf? d.scope = some k ∧
      (Vocabulary.index d.relation * scopes.length + k) * 2 + d.present.toNat = i :=
  Option.map_eq_some_iff

theorem exists_place (h : d.inScope = true) : ∃ i, d.place? = some i := by
  obtain ⟨k, hk⟩ := Option.isSome_iff_exists.1 (List.isSome_idxOf?.2 (mem_scopes_iff.2 h))
  exact ⟨_, place?_eq_some_iff.2 ⟨k, hk, rfl⟩⟩

theorem eq_of_place? (ha : a.place? = some i) (hb : b.place? = some i) : a = b := by
  obtain ⟨k, hk, hplace⟩ := place?_eq_some_iff.1 ha
  obtain ⟨l, hl, heq⟩ := place?_eq_some_iff.1 hb
  obtain ⟨hkbound, hscope, -⟩ := List.idxOf?_eq_some_iff.1 hk
  obtain ⟨hlbound, hscope', -⟩ := List.idxOf?_eq_some_iff.1 hl
  have hsigns : a.present.toNat = b.present.toNat ∧
      Vocabulary.index a.relation * scopes.length + k =
        Vocabulary.index b.relation * scopes.length + l := by
    have := a.present.toNat_lt
    have := b.present.toNat_lt
    omega
  obtain ⟨hrelation, rfl⟩ := cell_inj hkbound hlbound hsigns.2
  have hrelations := Vocabulary.eq_of_index_eq hrelation
  have hscopes : a.scope = b.scope := hscope.symm.trans hscope'
  have hpresent : a.present = b.present := by
    have hsign := hsigns.1
    cases ha : a.present <;> cases hb : b.present <;> simp_all
  cases a; cases b
  simp_all

theorem place?_lt (h : d.place? = some i) : i < all.length := by
  obtain ⟨k, hk, rfl⟩ := place?_eq_some_iff.1 h
  obtain ⟨hkbound, -⟩ := List.idxOf?_eq_some_iff.1 hk
  have hrelation := Vocabulary.index_lt d.relation
  have hsign := d.present.toNat_lt
  rw [length_all]
  calc
    (Vocabulary.index d.relation * scopes.length + k) * 2 + d.present.toNat
        < (Vocabulary.index d.relation * scopes.length + k) * 2 + 2 := by omega
    _ ≤ (Vocabulary.index d.relation + 1) * scopes.length * 2 := by rw [Nat.succ_mul]; omega
    _ ≤ _ := Nat.mul_le_mul_right _ (Nat.mul_le_mul_right _ hrelation)

end RelationDemand

namespace RelationMatrix

open RelationDemand

variable {m : RelationMatrix} {a b c d : RelationDemand}

/-! ## Marks -/

structure IsSquare (m : RelationMatrix) : Prop where
  size_eq : m.size = all.length
  size_marks : m.marks.size = all.length * all.length

theorem isSquare_blank : blank.IsSquare := ⟨rfl, Array.size_replicate⟩

theorem isSquare_mark (h : m.IsSquare) : (m.mark a b).IsSquare := by
  unfold mark
  split
  · exact ⟨h.size_eq, by simpa using h.size_marks⟩
  · exact h

theorem isSquare_enter (h : m.IsSquare) (pair : RelationDemand × RelationDemand) :
    (m.enter pair).IsSquare := by
  unfold enter
  split
  · exact isSquare_mark (isSquare_mark h)
  · exact h

theorem isMarked_mark (h : m.IsSquare) (ha : a.inScope = true) (hb : b.inScope = true) :
    (m.mark a b).isMarked c d = true ↔ m.isMarked c d = true ∨ (a = c ∧ b = d) := by
  obtain ⟨i, hi⟩ := exists_place ha
  obtain ⟨j, hj⟩ := exists_place hb
  unfold mark isMarked
  rw [hi, hj]
  cases hk : c.place? with
  | none =>
      have hne : a ≠ c := by
        rintro rfl
        rw [hk] at hi
        cases hi
      simp [hne]
  | some k =>
      cases hl : d.place? with
      | none =>
          have hne : b ≠ d := by
            rintro rfl
            rw [hl] at hj
            cases hj
          simp [hne]
      | some l =>
          have hcell : i * m.size + j < m.marks.size := by
            rw [h.size_eq, h.size_marks]
            exact cell_lt (place?_lt hi) (place?_lt hj)
          by_cases hsame : a = c ∧ b = d
          · obtain ⟨rfl, rfl⟩ := hsame
            obtain rfl := Option.some.inj (hk.symm.trans hi)
            obtain rfl := Option.some.inj (hl.symm.trans hj)
            simp [hcell]
          · have hother : i * m.size + j ≠ k * m.size + l := by
              rw [h.size_eq]
              intro heq
              obtain ⟨rfl, rfl⟩ := cell_inj (place?_lt hj) (place?_lt hl) heq
              exact hsame ⟨eq_of_place? hi hk, eq_of_place? hj hl⟩
            simp [hother, hsame]

theorem isMarked_blank : blank.isMarked c d = false := by
  unfold isMarked
  split
  · rw [blank, Array.getElem?_replicate]
    split <;> rfl
  · rfl

theorem isMarked_enter (h : m.IsSquare) {pair : RelationDemand × RelationDemand} :
    (m.enter pair).isMarked c d = true ↔
      m.isMarked c d = true ∨ pair.1.conflicts pair.2 = true ∧ (pair = (c, d) ∨ pair = (d, c)) := by
  obtain ⟨a, b⟩ := pair
  unfold enter
  split
  · next hconflict =>
      obtain ⟨ha, hb⟩ := inScope_of_conflicts hconflict
      rw [isMarked_mark (isSquare_mark h) hb ha, isMarked_mark h ha hb]
      simp [hconflict, or_assoc, and_comm (a := b = c)]
  · next hconflict => simp [hconflict]

/-! ## The whole matrix -/

theorem isMarked_foldl (pairs : List (RelationDemand × RelationDemand)) (h : m.IsSquare) :
    (pairs.foldl enter m).isMarked c d = true ↔
      m.isMarked c d = true ∨
        ∃ pair ∈ pairs, pair.1.conflicts pair.2 = true ∧ (pair = (c, d) ∨ pair = (d, c)) := by
  induction pairs generalizing m with
  | nil => simp
  | cons pair rest ih =>
      rw [List.foldl_cons, ih (isSquare_enter h pair), isMarked_enter h, or_assoc]
      simp only [List.mem_cons, exists_eq_or_imp]

theorem filled_eq : filled = (all.product all).foldl enter blank := by
  simp only [filled, List.product, List.foldl_flatMap, List.foldl_map]

theorem isMarked_filled (a b : RelationDemand) : filled.isMarked a b = a.conflicts b := by
  rw [Bool.eq_iff_iff, filled_eq, isMarked_foldl _ isSquare_blank]
  constructor
  · rintro (hblank | ⟨pair, -, hconflict, rfl | rfl⟩)
    · rw [isMarked_blank] at hblank
      cases hblank
    · exact hconflict
    · rwa [conflicts_comm]
  · intro hconflict
    obtain ⟨ha, hb⟩ := inScope_of_conflicts hconflict
    exact .inr
      ⟨(a, b), List.mem_product.2 ⟨mem_all_iff.2 ha, mem_all_iff.2 hb⟩, hconflict, .inl rfl⟩

end RelationMatrix

/-! ## Conflicts with the relations looked up -/

namespace Requirement

theorem boundsCross_eq (a b : Requirement) : a.boundsCross b = (a.exceeds b || b.exceeds a) := by
  unfold boundsCross exceeds
  cases a.fact.lowerBound? with
  | none => cases b.fact.lowerBound? <;> simp
  | some lower =>
      cases b.fact.lowerBound? with
      | none => simp
      | some upper =>
          -- the sign of the first says which of the two bounds is the lower
          cases a.present <;> cases b.present <;>
            simp [BEq.comm (a := b.scope), BEq.comm (a := b.survives), BEq.comm (a := upper.1)] <;>
            ac_rfl

theorem relationDemand?_eq_some_iff {r : Requirement} {d : RelationDemand} :
    r.relationDemand? = some d ↔
      ∃ relation, r.fact = .choice .relation relation ∧ ⟨relation, r.scope, r.present⟩ = d := by
  unfold relationDemand?
  split
  · next relation hfact => simp [hfact]
  · next hfact => simpa using fun relation h => (hfact relation h).elim

theorem opposes_negated (r : Requirement) : r.opposes r.negated = true := by
  simp [opposes, negated]

end Requirement

namespace Ruleset

open Requirement

variable (rs : Ruleset)

theorem conflictByKind_filled (a b : Requirement) :
    rs.conflictByKind .filled a b = true ↔
      rs.genusConflicts a b = true ∨ rs.genusConflicts b a = true ∨
        rs.groupConflicts a b = true ∨ rs.groupConflicts b a = true ∨
        a.relationsConflict b = true := by
  constructor
  · intro h
    unfold conflictByKind at h
    split at h
    · exact .inl h
    · exact .inr (.inl h)
    · exact .inr (.inr (.inl h))
    · exact .inr (.inr (.inr (.inl h)))
    · next x y ha hb =>
        rw [RelationMatrix.isMarked_filled] at h
        refine .inr (.inr (.inr (.inr (relationsConflict_iff.2 ⟨_, _, ?_, ?_, h⟩))))
        · exact relationDemand?_eq_some_iff.2 ⟨x, ha, rfl⟩
        · exact relationDemand?_eq_some_iff.2 ⟨y, hb, rfl⟩
    · cases h
  · rintro (h | h | h | h | h)
    · obtain ⟨_, _, _, ha, hb, -⟩ := genusConflicts_iff.1 h
      simpa only [conflictByKind, ha, hb] using h
    · obtain ⟨_, _, _, hb, ha, -⟩ := genusConflicts_iff.1 h
      simpa only [conflictByKind, ha, hb] using h
    · obtain ⟨_, _, ha, hb, -⟩ := groupConflicts_iff.1 h
      simpa only [conflictByKind, ha, hb] using h
    · obtain ⟨_, _, hb, ha, -⟩ := groupConflicts_iff.1 h
      simpa only [conflictByKind, ha, hb] using h
    · obtain ⟨_, _, hx, hy, h⟩ := relationsConflict_iff.1 h
      obtain ⟨x, ha, rfl⟩ := relationDemand?_eq_some_iff.1 hx
      obtain ⟨y, hb, rfl⟩ := relationDemand?_eq_some_iff.1 hy
      simpa only [conflictByKind, ha, hb, RelationMatrix.isMarked_filled] using h

theorem conflictIn_filled (a b : Requirement) :
    rs.conflictIn .filled a b = rs.conflict a b := by
  rw [Bool.eq_iff_iff]
  simp only [conflictIn, conflict, boundsCross_eq, Bool.or_eq_true, conflictByKind_filled, or_assoc]

/-- Two requirements conflict in either order or in none, and whether the conflicts of relations
are looked up or worked out; no requirement conflicts with itself, and each does with its
opposite. -/
theorem conflict_is_proper (a b : Requirement) :
    rs.conflict a b = rs.conflict b a ∧ rs.conflict a a = false ∧
      rs.conflict a a.negated = true ∧
      rs.conflictIn .filled a b = rs.conflict a b := by
  refine ⟨rs.conflict_comm a b, rs.conflict_self a, ?_, rs.conflictIn_filled a b⟩
  simp [conflict, opposes_negated]

end Ruleset

end Rulebook
