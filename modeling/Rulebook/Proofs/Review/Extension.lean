import Rulebook.Proofs.Repair.Step
import Rulebook.Proofs.Review.Heredity

/-!
What a review finds after requirements have been added.

A problem does not go away by additions, but the counts in it can rise, and with
another count it is another problem.  So problems are compared by what they are
about, and of that each list of conditions has one problem at most.  If additions
make for no new problem, none of the old ones can have risen, and all are there.
-/

namespace Rulebook

def Problem.subject : Problem → Problem
  | .tooMany kind _ => .tooMany kind 0
  | .tooManyTiles kind _ _ => .tooManyTiles kind 0 0
  | problem => problem

namespace Conditions

variable {rs : Ruleset} {c : Conditions} {maxTiles : Int} {problem other : Problem}

theorem eq_of_subject_eq (h : problem ∈ c.problems rs true maxTiles)
    (h' : other ∈ c.problems rs true maxTiles) (hsubject : problem.subject = other.subject) :
    problem = other := by
  cases problem with
  | badScope | badSurvives | unresolved | terrainAndClass | conflict =>
      cases other <;> first | exact hsubject | contradiction
  | tooMany kind count =>
      cases other <;> cases hsubject
      rw [(tooMany_mem_problems_iff.1 h).2.1, (tooMany_mem_problems_iff.1 h').2.1]
  | tooManyTiles kind count most =>
      cases other <;> cases hsubject
      obtain ⟨-, rfl, hlimit, -⟩ := tooManyTiles_mem_problems_iff.1 h
      obtain ⟨-, rfl, hlimit', -⟩ := tooManyTiles_mem_problems_iff.1 h'
      rw [hlimit] at hlimit'
      cases hlimit'
      rfl

/-! ## Additions -/

theorem subperm_extend (c : Conditions) (added : List Requirement) :
    c.requirements.Subperm (c.extend added).requirements := by
  rw [requirements_extend]
  exact (List.sublist_append_left _ _).subperm

theorem memberProblems_subset_extend (c : Conditions) (added : List Requirement) :
    c.memberProblems ⊆ (c.extend added).memberProblems := by
  simp [memberProblems, List.zipIdx_append]

theorem conflictPairs_subset_extend (c : Conditions) (added : List Requirement) :
    c.conflictPairs rs ⊆ (c.extend added).conflictPairs rs := by
  rintro ⟨i, j⟩ h
  obtain ⟨a, b, ha, hb, hlt, hconflict⟩ := mem_conflictPairs_iff.1 h
  refine mem_conflictPairs_iff.2 ⟨a, b, ?_, ?_, hlt, hconflict⟩
  · rw [requirements_extend]
    exact List.getElem?_append_left (List.getElem?_eq_some_iff.1 ha).1 ▸ ha
  · rw [requirements_extend]
    exact List.getElem?_append_left (List.getElem?_eq_some_iff.1 hb).1 ▸ hb

theorem exists_problem_extend (added : List Requirement)
    (h : problem ∈ c.problems rs true maxTiles) :
    ∃ risen ∈ (c.extend added).problems rs true maxTiles, risen.subject = problem.subject := by
  cases problem with
  | badScope | badSurvives | unresolved =>
      rw [mem_problems_iff rfl] at h
      have hmember := h.resolve_right fun h => by simp [conflictProblems] at h
      exact ⟨_, (mem_problems_iff rfl).2 (.inl (memberProblems_subset_extend c added hmember)), rfl⟩
  | tooMany kind count =>
      obtain ⟨-, rfl, hcount⟩ := tooMany_mem_problems_iff.1 h
      have hle := soleDemands_le_of_subperm (subperm_extend c added) kind
      exact ⟨_, tooMany_mem_problems_iff.2 ⟨rfl, rfl, Nat.lt_of_lt_of_le hcount hle⟩, rfl⟩
  | terrainAndClass =>
      obtain ⟨-, hterrain, hclass⟩ := terrainAndClass_mem_problems_iff.1 h
      have hle := demandsHere_le_of_subperm (subperm_extend c added)
      exact ⟨_, terrainAndClass_mem_problems_iff.2
        ⟨rfl, Nat.lt_of_lt_of_le hterrain (hle _), Nat.lt_of_lt_of_le hclass (hle _)⟩, rfl⟩
  | tooManyTiles kind count most =>
      obtain ⟨-, rfl, hlimit, hmost⟩ := tooManyTiles_mem_problems_iff.1 h
      have hle := demands_le_of_subperm (subperm_extend c added) kind
      have hmost' := Nat.lt_of_lt_of_le hmost hle
      exact ⟨_, tooManyTiles_mem_problems_iff.2 ⟨rfl, rfl, hlimit, hmost'⟩, rfl⟩
  | conflict first second =>
      have hpair := (conflict_mem_problems_iff.1 h).2
      exact ⟨_, conflict_mem_problems_iff.2 ⟨rfl, conflictPairs_subset_extend c added hpair⟩, rfl⟩

/-- Additions that bring no problem hide none either. -/
theorem mem_problems_extend_iff {added : List Requirement}
    (h : (c.extend added).problems rs true maxTiles ⊆ c.problems rs true maxTiles) :
    problem ∈ (c.extend added).problems rs true maxTiles ↔
      problem ∈ c.problems rs true maxTiles := by
  refine ⟨fun hnew => h hnew, fun hold => ?_⟩
  obtain ⟨risen, hrisen, hsubject⟩ := exists_problem_extend added hold
  rwa [← eq_of_subject_eq (h hrisen) hold hsubject]

end Conditions

end Rulebook
