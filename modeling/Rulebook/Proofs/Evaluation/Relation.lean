import Rulebook.Conflict.Relation
import Rulebook.Proofs.Evaluation.Met

/-!
Relations between players as seen from narrower and wider scopes.

A social scope covers a list of players, and asks whether one of them has the
relation to somebody.  Around a living player the lists grow from the player
itself to its team, its allies and the world, so a relation that holds in one
scope holds in every wider one.  Demands that conflict refute one another.
-/

namespace Rulebook

namespace Scope

theorem here_or_isSocial {scope : Scope}
    (h : (FactKind.choice .relation).scopes.contains scope = true) :
    scope = .here ∨ scope.isSocial = true := by
  revert h
  cases scope <;> decide

theorem index_player_le {scope : Scope} (h : scope.isSocial = true) :
    Vocabulary.index Scope.player ≤ Vocabulary.index scope := by
  revert h
  cases scope <;> decide

theorem index_le_world (scope : Scope) :
    Vocabulary.index scope ≤ Vocabulary.index Scope.world := by
  cases scope <;> decide

theorem not_isSocial_of_le_here {scope : Scope}
    (h : Vocabulary.index scope ≤ Vocabulary.index Scope.here) : scope.isSocial = false := by
  revert h
  cases scope <;> decide

end Scope

namespace World

variable {w : World}

/-! ## Two players -/

theorem ne_of_related {a b : PlayerId} {relation : Relation} (h : w.related a b relation = true) :
    a ≠ b := by
  rintro rfl
  simp [related] at h

theorem related_foreign_of_related {a b : PlayerId} {relation : Relation}
    (h : w.related a b relation = true) : w.related a b .foreign = true := by
  simp [related, ne_of_related h]

theorem state?_of_related {a b : PlayerId} {relation : Relation} (hstate : relation.isState = true)
    (h : w.related a b relation = true) : w.state? a b = some relation := by
  have hne := ne_of_related h
  cases relation <;> first
    | (simp only [Relation.isState] at hstate; contradiction)
    | simpa [related, hne] using h

theorem eq_of_related_of_isState {a b : PlayerId} {first second : Relation}
    (hfirst : first.isState = true) (hsecond : second.isState = true)
    (h : w.related a b first = true) (h' : w.related a b second = true) : first = second := by
  have hstate := state?_of_related hfirst h
  rw [state?_of_related hsecond h'] at hstate
  exact (Option.some.inj hstate).symm

/-! ## The players of a social scope -/

theorem mem_alivePlayers {p : Player} : p ∈ w.alivePlayers ↔ p ∈ w.players ∧ p.isAlive = true := by
  simp [alivePlayers]

theorem sameTeam_self {p : Player} (h : p ∈ w.players) : w.sameTeam p.id p.id = true := by
  have hfound : (w.player? p.id).isSome := by
    simp only [player?, List.find?_isSome]
    exact ⟨p, h, by simp⟩
  obtain ⟨q, hq⟩ := Option.isSome_iff_exists.1 hfound
  simp [sameTeam, hq]

theorem areAllied_of_sameTeam {a b : PlayerId} (h : w.sameTeam a b = true) :
    w.areAllied a b = true := by
  by_cases hab : a = b
  · simp [areAllied, hab]
  · simp [areAllied, state?, hab, h]

def covered (w : World) (p : Player) : Scope → List Player
  | .player => [p]
  | .team => w.playersIn p.id .team
  | .alliance => w.playersIn p.id .alliance
  | .world => w.alivePlayers
  | _ => []

theorem covered_player_subset_team {p : Player} (hp : p ∈ w.alivePlayers) :
    w.covered p .player ⊆ w.covered p .team := by
  intro q hq
  rw [List.mem_singleton.1 hq]
  simp [covered, playersIn, hp, sameTeam_self (mem_alivePlayers.1 hp).1]

theorem covered_team_subset_alliance (p : Player) :
    w.covered p .team ⊆ w.covered p .alliance := by
  intro q hq
  simp only [covered, playersIn, List.mem_filter] at hq ⊢
  exact ⟨hq.1, areAllied_of_sameTeam hq.2⟩

theorem covered_alliance_subset_world (p : Player) :
    w.covered p .alliance ⊆ w.covered p .world := by
  intro q hq
  simp only [covered, playersIn, List.mem_filter] at hq ⊢
  exact hq.1

theorem covered_subset {p : Player} (hp : p ∈ w.alivePlayers) {narrow wide : Scope}
    (hnarrow : narrow.isSocial = true) (hwide : wide.isSocial = true)
    (hle : Vocabulary.index narrow ≤ Vocabulary.index wide) :
    w.covered p narrow ⊆ w.covered p wide := by
  have pt := covered_player_subset_team hp
  have ta := w.covered_team_subset_alliance p
  have aw := w.covered_alliance_subset_world p
  cases narrow <;> cases wide <;> first
    | exact List.Subset.refl _
    | assumption
    | exact List.Subset.trans pt ta
    | exact List.Subset.trans ta aw
    | exact List.Subset.trans pt (List.Subset.trans ta aw)
    | contradiction

end World

theorem Situation.somePlayer_eq_covered {s : Situation} {w : World} {p : Player}
    (hw : s.world = some w) (hp : s.player = some p) {scope : Scope}
    (hscope : scope.isSocial = true) (test : Player → Bool) :
    s.somePlayer scope test = some (.ofBool ((w.covered p scope).any test)) := by
  cases scope <;> first
    | contradiction
    | simp [somePlayer, hw, hp, Truth.known, Truth.known₂, World.covered]

/-! ## Relations in a scope -/

namespace RelationDemand

variable {s : Situation}

def answer (d : RelationDemand) (s : Situation) : Option Truth :=
  relationTruth? s d.scope d.relation

theorem here_or_isSocial {d : RelationDemand} (h : d.inScope = true) :
    d.scope = .here ∨ d.scope.isSocial = true :=
  Scope.here_or_isSocial h

theorem answer_here {w : World} {p other : Player} (hw : s.world = some w)
    (hp : s.player = some p) (hother : s.otherPlayer = some other) (relation : Relation)
    (present : Bool) :
    answer ⟨relation, .here, present⟩ s = some (.ofBool (w.related p.id other.id relation)) := by
  simp [answer, relationTruth?, hw, hp, hother, Truth.known]

theorem answer_social {w : World} {p : Player} (hw : s.world = some w) (hp : s.player = some p)
    {d : RelationDemand} (hscope : d.scope.isSocial = true) :
    d.answer s = some (.ofBool ((w.covered p d.scope).any (relatedToSomeone w d.relation))) := by
  obtain ⟨relation, scope, present⟩ := d
  cases scope <;> first
    | contradiction
    | simp [answer, relationTruth?, hw, hp, World.covered]

theorem exists_of_answer {d : RelationDemand} {b : Bool} (h : d.answer s = some (.ofBool b)) :
    (∃ w p, s.world = some w ∧ s.player = some p) ∧
      (d.scope = .here → ∃ other, s.otherPlayer = some other) := by
  cases hw : s.world with
  | none => cases b <;> simp [answer, relationTruth?, hw, Truth.ofBool] at h
  | some w =>
      cases hp : s.player with
      | none => cases b <;> simp [answer, relationTruth?, hw, hp, Truth.ofBool] at h
      | some p =>
          refine ⟨⟨w, p, rfl, rfl⟩, ?_⟩
          intro hscope
          cases hother : s.otherPlayer with
          | none =>
              cases b <;>
                simp [answer, relationTruth?, hw, hp, hscope, hother, Truth.known, Truth.ofBool] at h
          | some other => exact ⟨other, rfl⟩

theorem exists_answer {d : RelationDemand} {w : World} {p : Player} (hscope : d.inScope = true)
    (hw : s.world = some w) (hp : s.player = some p)
    (hother : d.scope = .here → ∃ other, s.otherPlayer = some other) :
    ∃ b, d.answer s = some (.ofBool b) := by
  rcases here_or_isSocial hscope with hhere | hsocial
  · obtain ⟨other, hknown⟩ := hother hhere
    obtain ⟨relation, scope, present⟩ := d
    cases hhere
    exact ⟨_, answer_here hw hp hknown relation present⟩
  · exact ⟨_, answer_social hw hp hsocial⟩

/-- What holds in a scope holds in every wider one. -/
theorem answer_widen (hs : s.Placed) {narrow wide : RelationDemand}
    (hrelation : narrow.relation = wide.relation) (hnarrow : narrow.inScope = true)
    (hwide : wide.inScope = true)
    (hle : Vocabulary.index narrow.scope ≤ Vocabulary.index wide.scope)
    (h : narrow.answer s = some .yes) : wide.answer s = some .yes := by
  obtain ⟨⟨w, p, hw, hp⟩, hother⟩ := exists_of_answer (b := true) h
  have hplayer : p ∈ w.alivePlayers := hs.player w hw p hp
  rcases here_or_isSocial hnarrow with hhere | hsocial
  · obtain ⟨other, hknown⟩ := hother hhere
    obtain ⟨relation, scope, present⟩ := narrow
    cases hhere
    rw [answer_here hw hp hknown] at h
    have hrelated : w.related p.id other.id relation = true := by simpa using h
    rcases here_or_isSocial hwide with hhere' | hsocial'
    · obtain ⟨relation', scope', present'⟩ := wide
      cases hhere'
      cases hrelation
      rw [answer_here hw hp hknown, hrelated]
      rfl
    · have hself : p ∈ w.covered p wide.scope :=
        World.covered_subset hplayer rfl hsocial' (Scope.index_player_le hsocial')
          (List.mem_singleton.2 rfl)
      have hsomeone : relatedToSomeone w wide.relation p = true := by
        simp only [relatedToSomeone, List.any_eq_true]
        exact ⟨other, hs.otherPlayer w hw other hknown, hrelation ▸ hrelated⟩
      rw [answer_social hw hp hsocial', List.any_eq_true.2 ⟨p, hself, hsomeone⟩]
      rfl
  · have hsocial' : wide.scope.isSocial = true := by
      rcases here_or_isSocial hwide with hhere' | hsocial'
      · rw [hhere'] at hle
        rw [Scope.not_isSocial_of_le_here hle] at hsocial
        contradiction
      · exact hsocial'
    rw [answer_social hw hp hsocial] at h
    rw [answer_social hw hp hsocial']
    simp only [Option.some.injEq, Truth.ofBool_eq_yes, List.any_eq_true] at h ⊢
    obtain ⟨q, hq, hrelated⟩ := h
    exact ⟨q, World.covered_subset hplayer hsocial hsocial' hle hq, hrelation ▸ hrelated⟩

end RelationDemand

end Rulebook
