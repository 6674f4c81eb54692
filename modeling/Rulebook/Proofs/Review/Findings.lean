import Rulebook.Review.Basic

/-!
What a review finds.

Counting finds problems of the conditions as a whole; the problems that name
requirements by their places come from looking at each one and at each pair.  So
a conflict is reported where two requirements conflict, an entry as unresolved
where the invalid requirement stands for it, and nowhere else.
-/

namespace Rulebook

def Problem.isPlaced : Problem → Bool
  | .badScope .. | .badSurvives .. | .unresolved _ | .conflict .. => true
  | .tooMany .. | .terrainAndClass | .tooManyTiles .. => false

theorem Requirement.unresolved_mem_problems_iff {r : Requirement} {place i : Nat} :
    Problem.unresolved place ∈ r.problems i ↔ place = i ∧ r.isInvalid = true := by
  unfold problems
  by_cases hinvalid : r.isInvalid = true
  · simp [hinvalid]
  · cases r.scopeIsLegal <;> cases r.survivesIsLegal <;> simp [hinvalid]

theorem FactKind.isSole_of_isSoleHere {kind : FactKind} (h : kind.isSoleHere = true) :
    kind.isSole = false := by
  unfold isSoleHere at h
  split at h <;> first | rfl | contradiction

/-- The most facts of a kind that the tiles there are can have; only terrains are limited. -/
def FactKind.tileLimit? (maxTiles : Int) : FactKind → Option Nat
  | .entity .terrain => maxTiles.toNat?
  | .choice .terrainClass =>
      maxTiles.toNat?.map (min · (Vocabulary.all : List TerrainClass).length)
  | _ => Option.none

theorem Requirement.isPlaced_of_mem_problems {r : Requirement} {place : Nat} {problem : Problem}
    (h : problem ∈ r.problems place) : problem.isPlaced = true := by
  unfold problems at h
  split at h
  · rw [List.mem_singleton.1 h]
    rfl
  · rcases List.mem_append.1 h with h | h
    · split at h
      · contradiction
      · rw [List.mem_singleton.1 h]
        rfl
    · split at h
      · contradiction
      · rw [List.mem_singleton.1 h]
        rfl

namespace Conditions

def soleDemands (c : Conditions) (kind : FactKind) : Nat :=
  if kind.isSole then c.demands kind
  else if kind.isSoleHere then c.demandsHere kind
  else 0

variable {rs : Ruleset} {c : Conditions} {conjunctive : Bool} {maxTiles : Int} {problem : Problem}

/-! ## What counting finds -/

theorem mem_countProblems_iff :
    problem ∈ c.countProblems ↔
      ∃ kind, problem = .tooMany kind (c.soleDemands kind) ∧ 1 < c.soleDemands kind := by
  simp only [countProblems, countProblems.repeated, List.mem_append, List.mem_map,
    List.mem_filter, Bool.and_eq_true, decide_eq_true_eq]
  constructor
  · rintro (⟨kind, ⟨-, hsole, hcount⟩, rfl⟩ | ⟨kind, ⟨-, hsole, hcount⟩, rfl⟩)
    · exact ⟨kind, by simp [soleDemands, hsole], by simpa [soleDemands, hsole]⟩
    · have hnot := FactKind.isSole_of_isSoleHere hsole
      exact ⟨kind, by simp [soleDemands, hnot, hsole], by simpa [soleDemands, hnot, hsole]⟩
  · rintro ⟨kind, rfl, hcount⟩
    unfold soleDemands at hcount ⊢
    split at hcount
    · next hsole =>
        rw [if_pos hsole]
        exact .inl ⟨kind, ⟨Vocabulary.mem_all kind, hsole, hcount⟩, rfl⟩
    · next hnot =>
        split at hcount
        · next hsole =>
            rw [if_neg hnot, if_pos hsole]
            exact .inr ⟨kind, ⟨Vocabulary.mem_all kind, hsole, hcount⟩, rfl⟩
        · contradiction

theorem mem_terrainProblems_iff :
    problem ∈ c.terrainProblems ↔ problem = .terrainAndClass ∧
      0 < c.demandsHere (.entity .terrain) ∧ 0 < c.demandsHere (.choice .terrainClass) := by
  unfold terrainProblems
  split <;> simp_all

theorem mem_tileProblems_iff :
    problem ∈ c.tileProblems maxTiles ↔
      ∃ kind most, problem = .tooManyTiles kind (c.demands kind) most ∧
        kind.tileLimit? maxTiles = some most ∧ most < c.demands kind := by
  have habove : ∀ kind most, problem ∈ tileProblems.above c kind most ↔
      problem = .tooManyTiles kind (c.demands kind) most ∧ most < c.demands kind := by
    intro kind most
    unfold tileProblems.above
    split <;> simp_all
  constructor
  · intro h
    unfold tileProblems at h
    split at h
    · contradiction
    · next tiles htiles =>
        rcases List.mem_append.1 h with h | h
        · obtain ⟨rfl, hmost⟩ := (habove _ _).1 h
          exact ⟨_, _, rfl, htiles, hmost⟩
        · obtain ⟨rfl, hmost⟩ := (habove _ _).1 h
          exact ⟨_, _, rfl, by simp [FactKind.tileLimit?, htiles], hmost⟩
  · rintro ⟨kind, most, rfl, hlimit, hmost⟩
    unfold tileProblems
    unfold FactKind.tileLimit? at hlimit
    split at hlimit
    · rw [hlimit]
      exact List.mem_append_left _ ((habove _ _).2 ⟨rfl, hmost⟩)
    · obtain ⟨tiles, htiles, rfl⟩ := Option.map_eq_some_iff.1 hlimit
      rw [htiles]
      exact List.mem_append_right _ ((habove _ _).2 ⟨rfl, hmost⟩)
    · contradiction

theorem isPlaced_of_mem_memberProblems (h : problem ∈ c.memberProblems) :
    problem.isPlaced = true := by
  obtain ⟨⟨r, place⟩, -, h⟩ := List.mem_flatMap.1 h
  exact Requirement.isPlaced_of_mem_problems h

theorem mem_problems_of_not_isPlaced (h : problem.isPlaced = false) :
    problem ∈ c.problems rs conjunctive maxTiles ↔ conjunctive = true ∧
      (problem ∈ c.countProblems ∨ problem ∈ c.terrainProblems ∨
        problem ∈ c.tileProblems maxTiles) := by
  have hmember : problem ∉ c.memberProblems := fun hmem => by
    simp [isPlaced_of_mem_memberProblems hmem] at h
  have hconflict : problem ∉ c.conflictProblems rs := fun hmem => by
    obtain ⟨pair, -, rfl⟩ := List.mem_map.1 hmem
    contradiction
  cases conjunctive <;> simp [problems, hmember, hconflict]

theorem tooMany_mem_problems_iff {kind : FactKind} {count : Nat} :
    .tooMany kind count ∈ c.problems rs conjunctive maxTiles ↔
      conjunctive = true ∧ count = c.soleDemands kind ∧ 1 < count := by
  rw [mem_problems_of_not_isPlaced rfl, mem_countProblems_iff, mem_terrainProblems_iff,
    mem_tileProblems_iff]
  refine and_congr_right fun _ => ⟨?_, ?_⟩
  · rintro (⟨_, h, hcount⟩ | ⟨h, -⟩ | ⟨_, _, h, -⟩) <;> cases h
    exact ⟨rfl, hcount⟩
  · rintro ⟨rfl, hcount⟩
    exact .inl ⟨kind, rfl, hcount⟩

theorem terrainAndClass_mem_problems_iff :
    .terrainAndClass ∈ c.problems rs conjunctive maxTiles ↔ conjunctive = true ∧
      0 < c.demandsHere (.entity .terrain) ∧ 0 < c.demandsHere (.choice .terrainClass) := by
  simp [mem_problems_of_not_isPlaced (rfl : Problem.terrainAndClass.isPlaced = false),
    mem_countProblems_iff, mem_terrainProblems_iff, mem_tileProblems_iff]

theorem tooManyTiles_mem_problems_iff {kind : FactKind} {count most : Nat} :
    .tooManyTiles kind count most ∈ c.problems rs conjunctive maxTiles ↔ conjunctive = true ∧
      count = c.demands kind ∧ kind.tileLimit? maxTiles = some most ∧ most < count := by
  rw [mem_problems_of_not_isPlaced rfl, mem_countProblems_iff, mem_terrainProblems_iff,
    mem_tileProblems_iff]
  refine and_congr_right fun _ => ⟨?_, ?_⟩
  · rintro (⟨_, h, -⟩ | ⟨h, -⟩ | ⟨_, _, h, hmost⟩) <;> cases h
    exact ⟨rfl, hmost⟩
  · rintro ⟨rfl, hmost⟩
    exact .inr (.inr ⟨kind, most, rfl, hmost⟩)

/-! ## What is found at places -/

theorem mem_problems_iff (h : problem.isPlaced = true) :
    problem ∈ c.problems rs conjunctive maxTiles ↔
      problem ∈ c.memberProblems ∨ conjunctive = true ∧ problem ∈ c.conflictProblems rs := by
  have hcount : problem ∉ c.countProblems := fun hmem => by
    obtain ⟨kind, rfl, -⟩ := mem_countProblems_iff.1 hmem
    contradiction
  have hterrain : problem ∉ c.terrainProblems := fun hmem => by
    obtain ⟨rfl, -⟩ := mem_terrainProblems_iff.1 hmem
    contradiction
  have htile : problem ∉ c.tileProblems maxTiles := fun hmem => by
    obtain ⟨kind, most, rfl, -⟩ := mem_tileProblems_iff.1 hmem
    contradiction
  cases conjunctive <;> simp [problems, hcount, hterrain, htile]

/-! ## Conflicts -/

theorem mem_conflictPairs_iff {i j : Nat} :
    (i, j) ∈ c.conflictPairs rs ↔
      ∃ a b, c.requirements[i]? = some a ∧ c.requirements[j]? = some b ∧ i < j ∧
        rs.conflict a b = true := by
  simp only [conflictPairs, List.mem_flatMap, List.mem_map, List.mem_filter, Prod.exists,
    Bool.and_eq_true, decide_eq_true_eq, Prod.mk.injEq, List.mem_zipIdx_iff_getElem?]
  constructor
  · rintro ⟨a, _, ha, b, _, ⟨hb, hlt, hconflict⟩, rfl, rfl⟩
    exact ⟨a, b, ha, hb, hlt, hconflict⟩
  · rintro ⟨a, b, ha, hb, hlt, hconflict⟩
    exact ⟨a, i, ha, b, j, ⟨hb, hlt, hconflict⟩, rfl, rfl⟩

theorem filter_behind (reqs : List Requirement) (i : Nat) (p : Requirement → Bool) :
    reqs.zipIdx.filter (fun x => i < x.2 && p x.1) =
      (reqs.zipIdx.drop (i + 1)).filter fun x => p x.1 := by
  have hbefore : (reqs.zipIdx.take (i + 1)).filter (fun x => i < x.2 && p x.1) = [] := by
    refine List.filter_eq_nil_iff.2 fun x hx => ?_
    obtain ⟨j, hj, rfl⟩ := List.mem_take_iff_getElem.1 hx
    simp only [List.getElem_zipIdx, Bool.and_eq_true, decide_eq_true_eq, not_and]
    omega
  have hbehind : ∀ x ∈ reqs.zipIdx.drop (i + 1), (decide (i < x.2) && p x.1) = p x.1 := by
    intro x hx
    obtain ⟨j, hj, rfl⟩ := List.mem_drop_iff_getElem.1 hx
    rw [List.getElem_zipIdx, decide_eq_true (by omega), Bool.true_and]
  have hsplit := List.filter_append (p := fun x => i < x.2 && p x.1)
    (reqs.zipIdx.take (i + 1)) (reqs.zipIdx.drop (i + 1))
  rwa [List.take_append_drop, hbefore, List.nil_append, List.filter_congr hbehind] at hsplit

theorem firstConflict?_eq_head? (rs : Ruleset) (c : Conditions) :
    c.firstConflict? rs = (c.conflictPairs rs).head? := by
  rw [firstConflict?, conflictPairs, List.head?_flatMap]
  congr 1
  funext x
  rw [List.head?_map, filter_behind, List.head?_filter]

theorem conflict_not_mem_memberProblems {i j : Nat} : Problem.conflict i j ∉ c.memberProblems := by
  simp only [memberProblems, List.mem_flatMap, Prod.exists, not_exists, not_and]
  intro r place _
  unfold Requirement.problems
  split
  · simp
  · split <;> split <;> simp

theorem conflict_mem_problems_iff {i j : Nat} :
    Problem.conflict i j ∈ c.problems rs conjunctive maxTiles ↔
      conjunctive = true ∧ (i, j) ∈ c.conflictPairs rs := by
  rw [mem_problems_iff rfl, or_iff_right conflict_not_mem_memberProblems]
  simp [conflictProblems]

/-! ## Unresolved entries -/

theorem unresolved_mem_problems_iff {place : Nat} :
    Problem.unresolved place ∈ c.problems rs conjunctive maxTiles ↔
      ∃ r, c.requirements[place]? = some r ∧ r.isInvalid = true := by
  have hconflict : Problem.unresolved place ∉ c.conflictProblems rs := by
    simp [conflictProblems]
  rw [mem_problems_iff rfl, or_iff_left fun h => hconflict h.2]
  simp only [memberProblems, List.mem_flatMap, Prod.exists, List.mem_zipIdx_iff_getElem?,
    Requirement.unresolved_mem_problems_iff]
  constructor
  · rintro ⟨r, _, hr, rfl, hinvalid⟩
    exact ⟨r, hr, hinvalid⟩
  · rintro ⟨r, hr, hinvalid⟩
    exact ⟨r, place, hr, rfl, hinvalid⟩

end Conditions

end Rulebook
