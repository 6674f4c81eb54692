import Rulebook.Proofs.Evaluation.Coverage
import Rulebook.Proofs.Implication.Inference

/-!
What is asked of the whole world.

In the widest scope the world is all that is looked at, whoever asks: the searches
through its players, its buildings and its past read nothing else.  Relations
between players are the exception.  They ask for the player at hand before they
look at the scope, so without one the question stays open, although the players of
the world are the ones who are asked.
-/

namespace Rulebook

namespace Truth

variable {α β : Type} {a : Option α} {x y : Option β} {test : α → Bool}

theorem known₂_left_eq_iff :
    known₂ a x (fun a _ => test a) = known₂ a y (fun a _ => test a) ↔
      (a.isSome = true → x.isSome = y.isSome) := by
  cases a <;> cases x <;> cases y <;> simp [known₂, ofBool_ne_maybe, (ofBool_ne_maybe _).symm]

theorem known₂_left_agree {b b' : Bool} (h : known₂ a x (fun a _ => test a) = .ofBool b)
    (h' : known₂ a y (fun a _ => test a) = .ofBool b') : b = b' := by
  obtain ⟨value, -, ha, -, hb⟩ := known₂_eq_ofBool_iff.1 h
  obtain ⟨value', -, ha', -, hb'⟩ := known₂_eq_ofBool_iff.1 h'
  cases ha.symm.trans ha'
  exact hb.symm.trans hb'

end Truth

namespace Situation

variable {s other : Situation}

theorem somePlayer_world (h : s.world = other.world) (test : Player → Bool) :
    s.somePlayer .world test = other.somePlayer .world test := by
  simp only [somePlayer, h]

theorem cultureTruth?_world (h : s.world = other.world) (least : Int) :
    cultureTruth? s .world least = cultureTruth? other .world least := by
  simp only [cultureTruth?, somePlayer, h]

theorem relationTruth?_world (s : Situation) (relation : Relation) :
    relationTruth? s .world relation =
      some (.known₂ s.world s.player fun w _ =>
        w.alivePlayers.any (relatedToSomeone w relation)) := by
  unfold relationTruth?
  cases s.world <;> cases s.player <;> rfl

end Situation

namespace Requirement

open Situation

variable {rs : Ruleset} {r : Requirement} {s other : Situation}

/-- All kinds but relations read nothing but the world. -/
theorem judge?_world (hscope : r.scope = .world) (hlegal : r.scopeIsLegal = true)
    (hkind : r.kind ≠ .choice .relation) (h : s.world = other.world) :
    judge? rs r s = judge? rs r other := by
  obtain ⟨fact, scope, survives, present, quiet⟩ := r
  obtain rfl : scope = .world := hscope
  have hworld : Scope.world ∈ fact.kind.scopes := List.contains_iff_mem.1 hlegal
  cases fact with
  | none | invalid => rfl
  | entity kind ref =>
      cases kind with
      | achievement | nationGroup => exact somePlayer_world h _
      | tech | nation =>
          cases survives with
          | true => simp only [judge?, h, if_true]
          | false => exact somePlayer_world h _
      | building | serverSetting => simp only [judge?, buildingTruth?, h]
      | government | extra | good | terrain | nationality | unitType | unitClass | action
      | specialist => simp [Fact.kind, FactKind.scopes] at hworld
  | flag kind flag =>
      cases kind with
      | tech => exact somePlayer_world h _
      | terrain | unitType | unitClass | extra | base | road =>
          simp [Fact.kind, FactKind.scopes] at hworld
  | choice kind value =>
      cases kind with
      | relation => exact absurd rfl hkind
      | topology => simp only [judge?, h]
      | genus | terrainClass | unitState | activity | output | aiLevel | alteration | cityTile
      | cityStatus | vision | intelligence => simp [Fact.kind, FactKind.scopes] at hworld
  | measure measure bound =>
      cases measure with
      | techs | year | calendarFragment => simp [judge?, h]
      | culture => exact cultureTruth?_world h _
      | veteran | moveFragments | hitPoints | age | size | foreignPercent | unitsOnTile =>
          simp [Fact.kind, FactKind.scopes] at hworld

theorem eval_relation_world (rs : Ruleset) (hscope : r.scope = .world)
    (hkind : r.kind = .choice .relation) :
    ∃ test : World → Bool, ∀ s : Situation,
      r.eval rs s = .known₂ s.world s.player fun w _ => test w := by
  obtain ⟨fact, scope, survives, present, quiet⟩ := r
  obtain rfl : scope = .world := hscope
  obtain ⟨relation, rfl⟩ := Fact.eq_choice_of_kind hkind
  refine ⟨fun w => w.alivePlayers.any (relatedToSomeone w relation), fun s => ?_⟩
  have hjudge := relationTruth?_world s relation
  simp only [eval, eval?, scopeIsLegal, kind, Fact.kind, judge?, hjudge]
  rfl

/-- Asked of the whole world, a requirement is answered alike in all situations in one world; only
a question about a relation stays open where no player is at hand, and where it is settled the
answers agree too. -/
theorem worldwide_answers_agree (rs : Ruleset) (hscope : r.scope = .world)
    (h : s.world = other.world) :
    (r.eval rs s = r.eval rs other ↔
      (r.kind = .choice .relation → s.world.isSome = true →
        s.player.isSome = other.player.isSome)) ∧
    ∀ b b' : Bool, r.eval rs s = .ofBool b → r.eval rs other = .ofBool b' → b = b' := by
  by_cases hkind : r.kind = .choice .relation
  · obtain ⟨test, heval⟩ := eval_relation_world rs hscope hkind
    rw [heval, heval, ← h, Truth.known₂_left_eq_iff]
    exact ⟨by simp [hkind], fun b b' => Truth.known₂_left_agree⟩
  · have hsame : r.eval rs s = r.eval rs other := by
      by_cases hlegal : r.scopeIsLegal = true
      · simp only [eval, eval?, judge?_world hscope hlegal hkind h]
      · simp only [eval, eval?, hlegal]
        rfl
    rw [hsame]
    refine ⟨by simp [hkind], fun b b' hb hb' => Truth.ofBool_injective (hb.symm.trans hb')⟩

/-! ## Foreigners -/

def foreigners : Requirement := { fact := .choice .relation .foreign, scope := .world }

def partnersView : Situation := { world := fullScene.world, player := some ({} : Scene).partner }

theorem foreigners_for_partner :
    foreigners.scope = .world ∧ fullScene.world = partnersView.world ∧
      foreigners.eval Ruleset.base fullScene = .yes ∧
      foreigners.eval Ruleset.base partnersView = .yes := by
  have hyes : foreigners.eval Ruleset.base fullScene = .yes := rfl
  have hworld : fullScene.world = partnersView.world := rfl
  obtain ⟨hagree, -⟩ := worldwide_answers_agree (r := foreigners) Ruleset.base rfl hworld
  exact ⟨rfl, hworld, hyes, (hagree.2 fun _ _ => rfl).symm.trans hyes⟩

theorem foreigners_unseen :
    foreigners.checked = .ok foreigners ∧ foreigners.scope = .world ∧
      ({ world := fullScene.world } : Situation).world = fullScene.world ∧
      foreigners.eval Ruleset.base fullScene = .yes ∧
      foreigners.eval Ruleset.base { world := fullScene.world } = .maybe :=
  ⟨rfl, rfl, rfl, rfl, rfl⟩

end Requirement

end Rulebook
