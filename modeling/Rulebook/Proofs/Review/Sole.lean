import Mathlib.Data.List.Perm.Subperm
import Rulebook.Proofs.Conflict.Refutation
import Rulebook.Proofs.Review.Findings

/-!
Facts of which there is one at most.

A player has one government, a tile one terrain, a unit one type.  Of each such
kind a situation has one fact, or none, and a requirement that demands another
one is not met.  So the review is right to refuse conditions that demand two of
them: nothing could meet both.  It also counts bounds on numbers, of which it
wants one only although a number can keep many.
-/

namespace Rulebook

namespace FactKind

/-- Is there one fact at most that could meet a requirement of the kind in the scope? -/
def isExclusiveIn : FactKind → Scope → Bool
  | .entity .government, _ | .entity .action, _ | .entity .specialist, _ | .choice .activity, _
  | .choice .output, _ | .choice .aiLevel, _ | .choice .vision, _ | .choice .intelligence, _ => true
  | .entity .unitType, .here | .entity .unitClass, .here | .entity .terrain, .here
  | .choice .terrainClass, .here => true
  | _, _ => false

theorem isSole_of_isExclusiveIn {kind : FactKind} {scope : Scope}
    (h : kind.isExclusiveIn scope = true) :
    kind.isSole = true ∨ kind.isSoleHere = true ∧ scope = .here := by
  unfold isExclusiveIn at h
  split at h <;> simp_all [isSole, isSoleHere]

end FactKind

def Situation.sole? (rs : Ruleset) (s : Situation) : FactKind → Option Fact
  | .entity .government => s.player.map fun p => .entity .government p.government
  | .choice .aiLevel => (s.player.bind (·.aiLevel)).map (.choice .aiLevel)
  | .entity .action => s.action.map (.entity .action)
  | .entity .specialist => s.specialist.map (.entity .specialist)
  | .choice .output => s.output.map (.choice .output)
  | .choice .vision => s.vision.map (.choice .vision)
  | .choice .intelligence => s.intelligence.map (.choice .intelligence)
  | .choice .activity => s.unit.map fun u => .choice .activity u.activity
  | .entity .unitType => s.typeOfUnit?.map (.entity .unitType)
  | .entity .unitClass => (s.typeOfUnit?.bind rs.classOfUnitType?).map (.entity .unitClass)
  | .entity .terrain => s.tileData?.map fun t => .entity .terrain t.terrain
  | .choice .terrainClass =>
      (s.tileData?.bind fun t => rs.terrainClass? t.terrain).map (.choice .terrainClass)
  | _ => none

namespace Requirement

variable {rs : Ruleset} {s : Situation} {r : Requirement}

theorem sole?_of_yes (h : r.kind.isExclusiveIn r.scope = true) (hscope : r.scopeIsLegal = true)
    (hyes : judge? rs r s = some .yes) : s.sole? rs r.kind = some r.fact := by
  obtain ⟨fact, scope, survives, present, quiet⟩ := r
  cases fact with
  | none | invalid | flag | measure => contradiction
  | entity k x =>
      cases k
      case government =>
        obtain rfl : scope = .player := scope_eq_of_scopes hscope rfl rfl
        obtain ⟨p, hp, hx⟩ := Truth.known_eq_yes_iff.1 hyes
        simp [Situation.sole?, kind, Fact.kind, hp, beq_iff_eq.1 hx]
      case action | specialist | unitType | unitClass =>
        obtain ⟨a, ha, hx⟩ := Truth.known_eq_yes_iff.1 hyes
        simp [Situation.sole?, kind, Fact.kind, ha, beq_iff_eq.1 hx]
      case terrain =>
        obtain rfl : scope = .here := by cases scope <;> first | rfl | contradiction
        obtain ⟨t, ht, hx⟩ := Truth.known_eq_yes_iff.1 hyes
        simp [Situation.sole?, kind, Fact.kind, ht, beq_iff_eq.1 hx]
      all_goals contradiction
  | choice k x =>
      cases k
      case aiLevel =>
        obtain rfl : scope = .player := scope_eq_of_scopes hscope rfl rfl
        obtain ⟨p, hp, hx⟩ := Truth.known_eq_yes_iff.1 hyes
        simp [Situation.sole?, kind, Fact.kind, hp, beq_iff_eq.1 hx]
      case activity | output | vision | intelligence =>
        obtain ⟨a, ha, hx⟩ := Truth.known_eq_yes_iff.1 hyes
        simp [Situation.sole?, kind, Fact.kind, ha, beq_iff_eq.1 hx]
      case terrainClass =>
        obtain rfl : scope = .here := by cases scope <;> first | rfl | contradiction
        obtain ⟨t, ht, hx⟩ := Truth.known_eq_yes_iff.1 hyes
        simp [Situation.sole?, kind, Fact.kind, ht, beq_iff_eq.1 hx]
      all_goals contradiction

theorem sole?_of_met (h : r.kind.isExclusiveIn r.scope = true) (hmet : r.Met rs s)
    (hpresent : r.present = true) : s.sole? rs r.kind = some r.fact :=
  sole?_of_yes h hmet.scopeIsLegal (hmet.yes hpresent)

end Requirement

namespace Conditions

variable {rs : Ruleset} {c : Conditions} {a b : Requirement}

theorem one_lt_countP {α : Type} {items : List α} {a b : α} {p : α → Bool} (ha : a ∈ items)
    (hb : b ∈ items) (hne : a ≠ b) (hpa : p a = true) (hpb : p b = true) :
    1 < items.countP p := by
  have hpair : [a, b].Subperm items :=
    List.subperm_of_subset (by simpa using hne) (by simp [ha, hb])
  calc
    1 < [a, b].countP p := by simp [hpa, hpb]
    _ ≤ items.countP p := hpair.countP_le p

theorem one_lt_soleDemands (ha : a ∈ c.requirements) (hb : b ∈ c.requirements)
    (hpresent : a.present = true) (hpresent' : b.present = true) (hkind : a.kind = b.kind)
    (hne : a.fact ≠ b.fact) (h : a.kind.isExclusiveIn a.scope = true)
    (h' : b.kind.isExclusiveIn b.scope = true) : 1 < c.soleDemands a.kind := by
  have hdifferent : a ≠ b := fun heq => hne (congrArg Requirement.fact heq)
  have hcounted := FactKind.isSole_of_isExclusiveIn h
  have hcounted' := FactKind.isSole_of_isExclusiveIn h'
  unfold soleDemands
  cases hsole : a.kind.isSole with
  | true =>
      rw [if_pos rfl]
      exact one_lt_countP ha hb hdifferent (by simp [hpresent]) (by simp [hpresent', hkind])
  | false =>
      obtain ⟨hhere, hscope⟩ := hcounted.resolve_left (by simp [hsole])
      obtain ⟨-, hscope'⟩ := hcounted'.resolve_left (by simp [← hkind, hsole])
      rw [if_neg Bool.false_ne_true, if_pos hhere]
      exact one_lt_countP ha hb hdifferent (by simp [hpresent, hscope])
        (by simp [hpresent', hkind, hscope'])

/-- If conditions demand two facts of an exclusive kind, the review says so, and no situation meets
the conditions. -/
theorem second_fact_excludes (rs : Ruleset) (c : Conditions) (maxTiles : Int)
    (hpast : ∀ r ∈ c.requirements, r.survivesIsLegal = true) (ha : a ∈ c.requirements)
    (hb : b ∈ c.requirements) (hpresent : a.present = true) (hpresent' : b.present = true)
    (hkind : a.kind = b.kind) (hne : a.fact ≠ b.fact) (h : a.kind.isExclusiveIn a.scope = true)
    (h' : b.kind.isExclusiveIn b.scope = true) :
    (∃ count, .tooMany a.kind count ∈ c.problems rs true maxTiles) ∧
      ∀ s, Requirement.areMet rs c.requirements s .certain = .ok false := by
  constructor
  · have hcount := one_lt_soleDemands ha hb hpresent hpresent' hkind hne h h'
    exact ⟨_, tooMany_mem_problems_iff.2 ⟨rfl, rfl, hcount⟩⟩
  · intro s
    obtain ⟨met, hmet⟩ := Requirement.exists_areMet hpast rs s .certain
    cases met with
    | false => exact hmet
    | true =>
        have each := Requirement.areMet_eq_ok_true_iff.1 hmet
        have hfirst := Requirement.sole?_of_met h (each a ha) hpresent
        have hsecond := Requirement.sole?_of_met h' (each b hb) hpresent'
        rw [hkind, hsecond] at hfirst
        exact absurd (Option.some.inj hfirst).symm hne

theorem second_terrain_excludes :
    let grass : Requirement := { fact := .entity .terrain ⟨0⟩, scope := .here }
    let hills : Requirement := { fact := .entity .terrain ⟨1⟩, scope := .here, quiet := true }
    let wonder : Requirement := { fact := .entity .building ⟨0⟩, scope := .world, survives := true }
    let c : Conditions := .ofRequirements [grass, wonder, hills]
    grass.kind.isExclusiveIn .here = true ∧ grass.fact ≠ hills.fact ∧
      (∃ count, .tooMany (.entity .terrain) count ∈ c.problems {} true (-1)) ∧
      ∀ s, Requirement.areMet {} c.requirements s .certain = .ok false := by
  intro grass hills wonder c
  have hpast : ∀ r ∈ c.requirements, r.survivesIsLegal = true := by decide
  have hgrass : grass ∈ c.requirements := by decide
  have hhills : hills ∈ c.requirements := by decide
  have hne : grass.fact ≠ hills.fact := by decide
  exact ⟨rfl, hne, second_fact_excludes {} c (-1) hpast hgrass hhills rfl rfl rfl hne rfl rfl⟩

end Conditions

end Rulebook
