import Rulebook.Conflict.Basic

/-!
Conflict as a relation between requirements.

It does not matter which of two requirements is named first, and none conflicts
with itself: every rule asks for opposite signs, for facts of different kinds, or
for different relations.
-/

namespace Rulebook

namespace RelationDemand

theorem narrowWithoutWide_comm {a b : RelationDemand} (h : a.scope ≠ b.scope) :
    a.narrowWithoutWide b = b.narrowWithoutWide a := by
  have hne : Vocabulary.index a.scope ≠ Vocabulary.index b.scope :=
    fun heq => h (Vocabulary.eq_of_index_eq heq)
  unfold narrowWithoutWide
  by_cases hlt : Vocabulary.index a.scope < Vocabulary.index b.scope
  · rw [if_pos hlt, if_neg (Nat.lt_asymm hlt)]
  · rw [if_neg hlt, if_pos (Nat.lt_of_le_of_ne (Nat.le_of_not_lt hlt) hne.symm)]

theorem conflicts_comm (a b : RelationDemand) : a.conflicts b = b.conflicts a := by
  unfold conflicts
  rw [Bool.and_comm a.inScope]
  congr 1
  by_cases hrelation : a.relation = b.relation
  · by_cases hscope : a.scope = b.scope
    · simp [hrelation, hscope, bne_comm]
    · simp [hrelation, hscope, Ne.symm hscope, narrowWithoutWide_comm hscope]
  · simp only [beq_eq_false_iff_ne.2 hrelation, beq_eq_false_iff_ne.2 (Ne.symm hrelation)]
    grind

theorem conflicts_self (a : RelationDemand) : a.conflicts a = false := by
  simp [conflicts]

end RelationDemand

namespace Requirement

theorem opposes_comm (a b : Requirement) : a.opposes b = b.opposes a := by
  simp only [opposes, BEq.comm (a := a.fact), BEq.comm (a := a.scope),
    BEq.comm (a := a.survives), bne_comm (a := a.present)]

theorem relationsConflict_comm (a b : Requirement) :
    a.relationsConflict b = b.relationsConflict a := by
  unfold relationsConflict
  cases a.relationDemand? <;> cases b.relationDemand? <;>
    first | rfl | exact RelationDemand.conflicts_comm _ _

end Requirement

namespace Ruleset

variable (rs : Ruleset)

theorem conflict_comm (a b : Requirement) : rs.conflict a b = rs.conflict b a := by
  unfold conflict
  rw [Requirement.opposes_comm a b, Requirement.relationsConflict_comm a b]
  ac_rfl

theorem conflict_self (r : Requirement) : rs.conflict r r = false := by
  have hopposes : r.opposes r = false := by simp [Requirement.opposes]
  have hexceeds : r.exceeds r = false := by simp [Requirement.exceeds]
  have hgenus : rs.genusConflicts r r = false := by
    unfold genusConflicts
    split
    · next hbuilding hgenus => rw [hbuilding] at hgenus; cases hgenus
    · rfl
  have hgroup : rs.groupConflicts r r = false := by
    unfold groupConflicts
    split
    · next hnation hgroup => rw [hnation] at hgroup; cases hgroup
    · rfl
  have hrelation : r.relationsConflict r = false := by
    unfold Requirement.relationsConflict
    cases r.relationDemand? with
    | none => rfl
    | some d => exact d.conflicts_self
  simp [conflict, hopposes, hexceeds, hgenus, hgroup, hrelation]

end Ruleset

end Rulebook
