import Rulebook.Proofs.Conflict.Refutation
import Rulebook.Proofs.Review.Findings

/-!
Conflicts are sound: requirements that conflict are never both met, and
conditions in which a review finds a conflict are never met.
-/

namespace Rulebook

namespace Requirement

variable {rs : Ruleset} {s : Situation}

theorem not_met_of_conflict (hs : s.Placed) {a b : Requirement} (h : rs.conflict a b = true)
    (ha : a.Met rs s) : ¬ b.Met rs s := by
  intro hb
  have hrefuted : b.Refuted rs s := by
    apply refuted_of_conflict hs h ha hb.survivesIsLegal
    intro hrelations hhere
    obtain ⟨-, y, -, hy, -⟩ := relationsConflict_iff.1 hrelations
    exact hb.exists_other hy hhere
  exact hrefuted.not_met hb

end Requirement

namespace Ruleset

/-- Requirements that conflict are not both met, and conditions that a review finds to conflict
are not met. -/
theorem conflict_excludes (rs : Ruleset) (s : Situation) (hs : s.Placed) :
    (∀ a b : Requirement, rs.conflict a b = true →
      ¬ (a.isMet rs s .certain = .ok true ∧ b.isMet rs s .certain = .ok true)) ∧
    (∀ (c : Conditions) (conjunctive : Bool) (maxTiles : Int) (i j : Nat),
      Problem.conflict i j ∈ c.problems rs conjunctive maxTiles →
        Requirement.areMet rs c.requirements s .certain ≠ .ok true) := by
  refine ⟨fun a b h both => Requirement.not_met_of_conflict hs h both.1 both.2, ?_⟩
  intro c conjunctive maxTiles i j hproblem hmet
  obtain ⟨-, hpair⟩ := Conditions.conflict_mem_problems_iff.1 hproblem
  obtain ⟨a, b, ha, hb, -, hconflict⟩ := Conditions.mem_conflictPairs_iff.1 hpair
  have each := Requirement.areMet_eq_ok_true_iff.1 hmet
  exact Requirement.not_met_of_conflict hs hconflict (each a (List.mem_of_getElem? ha))
    (each b (List.mem_of_getElem? hb))

/-! ## Two players at war -/

def atWar : Situation :=
  let attacker : Player :=
    { id := ⟨0⟩, nation := ⟨0⟩, team := ⟨0⟩, government := ⟨0⟩
      diplomacy := [{ other := ⟨1⟩, state := .war }] }
  let defender : Player := { id := ⟨1⟩, nation := ⟨1⟩, team := ⟨1⟩, government := ⟨0⟩ }
  { world := some
      { info := { turn := 0, year := 0 }, map := ⟨⟨1, 1, {}⟩, #[]⟩
        players := [attacker, defender] }
    player := some attacker
    otherPlayer := some defender }

def war : Requirement := { fact := .choice .relation .war, scope := .here }

def noForeigners : Requirement :=
  { fact := .choice .relation .foreign, scope := .world, present := false }

theorem war_excludes_noForeigners :
    war.isMet {} atWar .certain = .ok true ∧ noForeigners.isMet {} atWar .certain ≠ .ok true ∧
      Requirement.areMet {} [war, noForeigners] atWar .certain ≠ .ok true := by
  have hplaced : atWar.Placed := by
    constructor
    · rintro _ ⟨⟩ _ ⟨⟩
      exact List.mem_cons_self
    · rintro _ ⟨⟩ _ ⟨⟩
      exact List.mem_cons_of_mem _ List.mem_cons_self
  have hmet : war.isMet {} atWar .certain = .ok true := rfl
  obtain ⟨hpair, hconditions⟩ := conflict_excludes {} atWar hplaced
  refine ⟨hmet, fun hnobody => hpair war noForeigners rfl ⟨hmet, hnobody⟩, ?_⟩
  apply hconditions (.ofRequirements [war, noForeigners]) true (-1) 0 1
  rw [Conditions.conflict_mem_problems_iff]
  exact ⟨rfl, List.mem_singleton.2 rfl⟩

end Ruleset

end Rulebook
