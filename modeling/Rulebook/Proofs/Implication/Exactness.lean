import Rulebook.Proofs.Implication.Countermodel
import Rulebook.Proofs.Implication.Soundness

/-!
What implication is worth.

Conditions imply a requirement through a member that settles it.  The static test
is meant to say that the requirement is met wherever the conditions are.  It is
right about a member exactly when the member does not overreach.
-/

namespace Rulebook

namespace Requirement

variable {rs : Ruleset} {m r : Requirement}

theorem conflict_negated_of_sameTest (h : m.sameTest r = true) :
    rs.conflict m r.negated = true := by
  have hopposes : m.opposes r.negated = true := by
    simp only [sameTest, Bool.and_eq_true, beq_iff_eq] at h
    simp [opposes, negated, h]
  simp [Ruleset.conflict, hopposes]

end Requirement

namespace Standpoint

variable {p : Standpoint} {c : Conditions} {r : Requirement}

theorem exists_settles_of_implies (h : p.implies c r = true) :
    ∃ m ∈ c.requirements, p.settles m r = true := by
  simp only [implies, Bool.or_eq_true, Conditions.hasTest, List.any_eq_true] at h
  rcases h with ⟨m, hm, hsame⟩ | ⟨m, hm, hsettles⟩
  · refine ⟨m, hm, ?_⟩
    rw [settles, Requirement.conflict_negated_of_sameTest hsame, Bool.true_or]
  · exact ⟨m, hm, hsettles⟩

theorem guarantee_of_settles (hreasoners : p.reasoners = .standard) (hchecked : r.checked = .ok r)
    {m : Requirement} (hm : m ∈ c.requirements) (hsettles : p.settles m r = true)
    (hno : ¬ p.ruleset.Overreaches m r) : c.Guarantee p.ruleset r := by
  intro s hs hmet
  exact Requirement.met_of_settles hreasoners hs hchecked hsettles hno
    (Requirement.areMet_eq_ok_true_iff.1 hmet m hm)

/-- A member that overreaches does not even make sure of the requirement on its own. -/
theorem not_guarantee_of_overreaches (hchecked : r.checked = .ok r) {rs : Ruleset}
    {m : Requirement} (h : rs.Overreaches m r) :
    ¬ (Conditions.ofRequirements [m]).Guarantee rs r := by
  intro hguarantee
  obtain ⟨s, hs, hm, hr⟩ := Requirement.separated_of_overreaches h hchecked
  apply hr (hguarantee s hs _)
  rw [Conditions.requirements_ofRequirements, Requirement.areMet_eq_ok_true_iff]
  intro member hmember
  rw [List.mem_singleton.1 hmember]
  exact hm

/-- Implied requirements are met wherever the conditions are if some member that settles them
does not overreach, and such members are the only ones that make sure of them. -/
theorem implies_exact (p : Standpoint) (hreasoners : p.reasoners = .standard) (r : Requirement)
    (hchecked : r.checked = .ok r) :
    (∀ c : Conditions, p.implies c r = true →
      (∃ m ∈ c.requirements, p.settles m r = true ∧ ¬ p.ruleset.Overreaches m r) →
        c.Guarantee p.ruleset r) ∧
    (∀ c : Conditions, p.implies c r = true → ∃ m ∈ c.requirements, p.settles m r = true) ∧
    (∀ m : Requirement, p.settles m r = true →
      ((∀ c : Conditions, m ∈ c.requirements → c.Guarantee p.ruleset r) ↔
        ¬ p.ruleset.Overreaches m r)) := by
  refine ⟨?_, fun c => exists_settles_of_implies, ?_⟩
  · rintro c - ⟨m, hm, hsettles, hno⟩
    exact guarantee_of_settles hreasoners hchecked hm hsettles hno
  · intro m hsettles
    constructor
    · intro hguarantee h
      exact not_guarantee_of_overreaches hchecked h (hguarantee _ (by simp))
    · intro hno c hm
      exact guarantee_of_settles hreasoners hchecked hm hsettles hno

/-! ## One of several technologies, and the one government -/

def classic : Standpoint where
  ruleset :=
    { techs := ⟨[⟨⟨"Alphabet", "Alphabet"⟩, []⟩, ⟨⟨"Writing", "Writing"⟩, []⟩]⟩
      governments := ⟨[⟨⟨"Monarchy", "Monarchy"⟩⟩, ⟨⟨"Democracy", "Democracy"⟩⟩]⟩ }

def writing : Requirement := { fact := .entity .tech ⟨1⟩, scope := .player }

def noAlphabet : Requirement := { fact := .entity .tech ⟨0⟩, scope := .player, present := false }

def monarchy : Requirement := { fact := .entity .government ⟨0⟩, scope := .player }

def noDemocracy : Requirement :=
  { fact := .entity .government ⟨1⟩, scope := .player, present := false }

theorem monarchy_guarantees_noDemocracy :
    classic.implies (.ofRequirements [monarchy]) noDemocracy = true ∧
      (Conditions.ofRequirements [monarchy]).Guarantee classic.ruleset noDemocracy := by
  have hno : ¬ classic.ruleset.Overreaches monarchy noDemocracy := by
    rintro ⟨-, leap⟩
    cases leap with
    | toOther hconflict => contradiction
    | fromPast _ _ hr => contradiction
    | toPast _ _ hr => contradiction
    | fromOne _ _ _ hcoexist => exact hcoexist
  refine ⟨rfl, (implies_exact classic rfl noDemocracy rfl).1 _ rfl ⟨monarchy, ?_, rfl, hno⟩⟩
  exact List.mem_singleton.2 rfl

/-- Who knows writing is taken not to know the alphabet, and may well know it. -/
theorem writing_implies_noAlphabet_without_guarantee :
    noAlphabet.checked = .ok noAlphabet ∧
      classic.implies (.ofRequirements [writing]) noAlphabet = true ∧
      ∃ s : Situation, s.Placed ∧
        Requirement.areMet classic.ruleset [writing] s .certain = .ok true ∧
        noAlphabet.isMet classic.ruleset s .certain = .ok false := by
  let scholars : Scene := { techs := [⟨0⟩, ⟨1⟩] }
  exact ⟨rfl, rfl, scholars.situation, Scene.placed, rfl, rfl⟩

end Standpoint

end Rulebook
