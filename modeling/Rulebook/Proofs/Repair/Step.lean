import Rulebook.Enabler.Worklist

/-!
What a repair can make of an enabler.

One step keeps the enabler, switches it off, or adds an alternative of the
obligation at the end of one side; `Course` lists these cases with their guards,
and `Outcome` what can come out of them.  A whole repair is a chain of such steps,
so whatever comes out has grown from what went in: each side continues the old
conditions with alternatives that the obligations offer for that side.
-/

namespace Rulebook

namespace Conditions

def extend (c : Conditions) (added : List Requirement) : Conditions :=
  ⟨c.toList ++ (ofRequirements added).toList⟩

@[simp] theorem extend_nil (c : Conditions) : c.extend [] = c := by
  simp [extend, ofRequirements]

theorem extend_extend (c : Conditions) (first second : List Requirement) :
    (c.extend first).extend second = c.extend (first ++ second) := by
  simp [extend, ofRequirements]

theorem push_eq_extend (c : Conditions) (r : Requirement) : c.push r = c.extend [r] := by
  simp [push, extend, ofRequirements]

@[simp] theorem requirements_extend (c : Conditions) (added : List Requirement) :
    (c.extend added).requirements = c.requirements ++ added := by
  simp [requirements, extend, ofRequirements, Function.comp_def]

end Conditions

namespace Enabler

theorem conditions_withConditions_of_ne (e : Enabler) {side other : Side} (c : Conditions)
    (h : other ≠ side) : (e.withConditions side c).conditions other = e.conditions other := by
  cases side <;> cases other <;> first | rfl | contradiction

theorem conditions_renamed (e : Enabler) (name : String) (side : Side) :
    ({ e with name } : Enabler).conditions side = e.conditions side := by
  cases side <;> rfl

theorem conditions_switched (e : Enabler) (disabled : Bool) (side : Side) :
    ({ e with disabled } : Enabler).conditions side = e.conditions side := by
  cases side <;> rfl

/-- Each side continues that of `e` with alternatives that the obligations offer for the side. -/
def GrownFrom (obligations : List Obligation) (e grown : Enabler) : Prop :=
  ∀ side, ∃ added : List Requirement,
    grown.conditions side = (e.conditions side).extend added ∧
      ∀ r ∈ added, ∃ o ∈ obligations, o.side = side ∧ r ∈ o.alternatives

namespace GrownFrom

variable {obligations : List Obligation}

theorem of_conditions_eq {e grown : Enabler}
    (h : ∀ side, grown.conditions side = e.conditions side) : GrownFrom obligations e grown := by
  intro side
  exact ⟨[], by simp [h side], by simp⟩

theorem refl (e : Enabler) : GrownFrom obligations e e :=
  of_conditions_eq fun _ => rfl

theorem trans {e middle grown : Enabler} (first : GrownFrom obligations e middle)
    (second : GrownFrom obligations middle grown) : GrownFrom obligations e grown := by
  intro side
  obtain ⟨added, heq, offered⟩ := first side
  obtain ⟨later, heq', offered'⟩ := second side
  refine ⟨added ++ later, by rw [heq', heq, Conditions.extend_extend], ?_⟩
  intro r hr
  rcases List.mem_append.1 hr with hr | hr
  · exact offered r hr
  · exact offered' r hr

theorem mono {more : List Obligation} {e grown : Enabler} (hsub : obligations ⊆ more)
    (h : GrownFrom obligations e grown) : GrownFrom more e grown := by
  intro side
  obtain ⟨added, heq, offered⟩ := h side
  refine ⟨added, heq, fun r hr => ?_⟩
  obtain ⟨o, ho, offer⟩ := offered r hr
  exact ⟨o, hsub ho, offer⟩

theorem demand {e : Enabler} {o : Obligation} {r : Requirement} (ho : o ∈ obligations)
    (hr : r ∈ o.alternatives) : GrownFrom obligations e (e.demand o.side r) := by
  intro side
  by_cases hside : side = o.side
  · subst hside
    refine ⟨[r], by simp [Enabler.demand, Conditions.push_eq_extend], ?_⟩
    intro added hadded
    rw [List.mem_singleton.1 hadded]
    exact ⟨o, ho, rfl, hr⟩
  · exact ⟨[], by simp [Enabler.demand, conditions_withConditions_of_ne _ _ hside], by simp⟩

theorem forall_requirements {P : Requirement → Prop} {e grown : Enabler}
    (h : GrownFrom obligations e grown)
    (he : ∀ side, ∀ r ∈ (e.conditions side).requirements, P r)
    (hoffers : ∀ o ∈ obligations, ∀ r ∈ o.alternatives, P r) :
    ∀ side, ∀ r ∈ (grown.conditions side).requirements, P r := by
  intro side r hr
  obtain ⟨added, heq, offered⟩ := h side
  rw [heq, Conditions.requirements_extend, List.mem_append] at hr
  rcases hr with hr | hr
  · exact he side r hr
  · obtain ⟨o, ho, -, hoffer⟩ := offered r hr
    exact hoffers o ho r hoffer

end GrownFrom

end Enabler

namespace Standpoint

variable {p : Standpoint}

/-! ## Growing keeps what is implied -/

theorem implies_extend {c : Conditions} {r : Requirement} (added : List Requirement)
    (h : p.implies c r = true) : p.implies (c.extend added) r = true := by
  induction added generalizing c with
  | nil => simpa using h
  | cons first rest ih =>
      have hpush := ih (implies_push_of_implies first h)
      rwa [Conditions.push_eq_extend, Conditions.extend_extend] at hpush

theorem fulfils_of_grownFrom {obligations : List Obligation} {e grown : Enabler} {o : Obligation}
    (hgrown : Enabler.GrownFrom obligations e grown) (h : p.fulfils e o = true) :
    p.fulfils grown o = true := by
  simp only [fulfils, List.any_eq_true] at h ⊢
  obtain ⟨r, hr, himplies⟩ := h
  obtain ⟨added, heq, -⟩ := hgrown o.side
  exact ⟨r, hr, by rw [heq]; exact implies_extend added himplies⟩

/-! ## One step -/

def extension (p : Standpoint) (e : Enabler) (o : Obligation) (last : Requirement) : Repair where
  enablers := ((e.demand o.side last, last) :: e.clones o).map
    fun (version, _) => p.vetted e version
  log := p.extensionLog e o (e.demand o.side last, last) (e.clones o)

inductive Course (p : Standpoint) (e : Enabler) (o : Obligation) : Prop
  | kept (done : e.disabled = true ∨ p.fulfils e o = true)
      (result : p.comply e o = { enablers := [e] })
  | switchedOff (hopen : e.disabled = false) (hunmet : p.fulfils e o = false)
      (stuck : p.isExtensible e o = false) (reason : String)
      (result : p.comply e o = e.switchedOff reason)
  | extended (hopen : e.disabled = false) (hunmet : p.fulfils e o = false)
      (extensible : p.isExtensible e o = true) (last : Requirement)
      (hlast : o.alternatives.getLast? = some last) (result : p.comply e o = p.extension e o last)

theorem isExtensible_iff {e : Enabler} {o : Obligation} :
    p.isExtensible e o = true ↔
      o.alternatives ≠ [] ∧ (p.suggestions e o).all (·.isAppend) = true := by
  simp [isExtensible]

theorem course (p : Standpoint) (e : Enabler) (o : Obligation) : p.Course e o := by
  cases hguard : e.disabled || p.fulfils e o with
  | true => exact .kept (by simpa using hguard) (by simp only [comply, hguard, if_true])
  | false =>
      obtain ⟨hopen, hunmet⟩ : e.disabled = false ∧ p.fulfils e o = false := by
        simpa using hguard
      cases hextensible : p.isExtensible e o with
      | true =>
          obtain ⟨hways, happend⟩ := isExtensible_iff.1 hextensible
          have hlast := List.getLast?_eq_some_getLast hways
          refine .extended hopen hunmet hextensible _ hlast ?_
          simp only [comply, hguard, hlast, happend, Bool.false_eq_true, if_false, if_true]
          rfl
      | false =>
          cases hlast : o.alternatives.getLast? with
          | none =>
              refine .switchedOff hopen hunmet hextensible o.reason ?_
              simp only [comply, hguard, hlast, Bool.false_eq_true, if_false]
          | some last =>
              have hways : o.alternatives ≠ [] := fun h => by simp [h] at hlast
              have htouched : (p.suggestions e o).all (·.isAppend) = false := by
                simpa [isExtensible, hways] using hextensible
              refine .switchedOff hopen hunmet hextensible
                (o.reason ++ " (repair would change existing requirements)") ?_
              simp only [comply, hguard, hlast, htouched, Bool.false_eq_true, if_false]

inductive Outcome (p : Standpoint) (e : Enabler) (o : Obligation) : Enabler → Prop
  | kept (h : e.disabled = true ∨ p.fulfils e o = true) : Outcome p e o e
  | switchedOff (hopen : e.disabled = false) (hunmet : p.fulfils e o = false)
      (hstuck : o.alternatives = [] ∨ (p.suggestions e o).all (·.isAppend) = false) :
      Outcome p e o { e with disabled := true }
  | extended {r : Requirement} (hopen : e.disabled = false) (hunmet : p.fulfils e o = false)
      (happend : (p.suggestions e o).all (·.isAppend) = true) (hr : r ∈ o.alternatives)
      (name : String) :
      Outcome p e o (p.vetted e (({ e with name } : Enabler).demand o.side r))

/-- The clones of a step carry an alternative each, and nothing but their name is new besides. -/
theorem mem_clones {e clone : Enabler} {o : Obligation} {r : Requirement}
    (h : (clone, r) ∈ e.clones o) :
    r ∈ o.alternatives ∧ ∃ name, clone = ({ e with name } : Enabler).demand o.side r := by
  simp only [Enabler.clones, List.mem_map, Prod.exists, Prod.mk.injEq] at h
  obtain ⟨alternative, i, hmem, rfl, rfl⟩ := h
  have hdrop : alternative ∈ o.alternatives.dropLast :=
    List.fst_mem_of_mem_zipIdx hmem
  exact ⟨List.dropLast_subset _ hdrop, _, rfl⟩

theorem outcome_of_mem_comply {e e' : Enabler} {o : Obligation}
    (h : e' ∈ (p.comply e o).enablers) : p.Outcome e o e' := by
  cases p.course e o with
  | kept done result =>
      rw [result] at h
      rw [List.mem_singleton.1 h]
      exact .kept done
  | switchedOff hopen hunmet stuck reason result =>
      have hstuck : o.alternatives = [] ∨ (p.suggestions e o).all (·.isAppend) = false := by
        cases happend : (p.suggestions e o).all (·.isAppend) with
        | false => exact .inr rfl
        | true => exact .inl (by simpa [isExtensible, happend] using stuck)
      rw [result] at h
      rw [List.mem_singleton.1 h]
      exact .switchedOff hopen hunmet hstuck
  | extended hopen hunmet extensible last hlast result =>
      rw [result] at h
      have happend := (isExtensible_iff.1 extensible).2
      obtain ⟨⟨version, r⟩, hversion, rfl⟩ := List.mem_map.1 h
      rcases List.mem_cons.1 hversion with hversion | hversion
      · cases hversion
        exact .extended hopen hunmet happend (List.mem_of_getLast? hlast) e.name
      · obtain ⟨hr, name, rfl⟩ := mem_clones hversion
        exact .extended hopen hunmet happend hr name

@[simp] theorem conditions_vetted (before after : Enabler) (side : Side) :
    (p.vetted before after).conditions side = after.conditions side := by
  unfold vetted
  split
  · exact Enabler.conditions_switched after true side
  · rfl

theorem Outcome.disabled_or_fulfils {e e' : Enabler} {o : Obligation} (h : p.Outcome e o e') :
    e'.disabled = true ∨ p.fulfils e' o = true := by
  cases h with
  | kept h => exact h
  | switchedOff => exact .inl rfl
  | extended _ _ _ hr name =>
      right
      simp only [fulfils, List.any_eq_true]
      refine ⟨_, hr, ?_⟩
      rw [conditions_vetted]
      simp [Enabler.demand, implies_push_self]

theorem Outcome.grownFrom {obligations : List Obligation} {e e' : Enabler} {o : Obligation}
    (ho : o ∈ obligations) (h : p.Outcome e o e') : Enabler.GrownFrom obligations e e' := by
  cases h with
  | kept => exact .refl e
  | switchedOff => exact .of_conditions_eq (Enabler.conditions_switched e true)
  | extended _ _ _ hr name =>
      have hrenamed : Enabler.GrownFrom obligations e { e with name } :=
        .of_conditions_eq (Enabler.conditions_renamed e name)
      have hgrown := hrenamed.trans (.demand ho hr)
      exact hgrown.trans (.of_conditions_eq fun side => conditions_vetted _ _ side)

/-! ## A whole repair -/

theorem enablers_join_map {α : Type} (repair : α → Repair) (sources : List α) :
    (Repair.join (sources.map repair)).enablers =
      sources.flatMap fun source => (repair source).enablers := by
  simp [Repair.join, List.flatMap_map]

theorem enablers_repairEnabler_cons (o : Obligation) (rest : List Obligation) (e : Enabler) :
    (p.repairEnabler (o :: rest) e).enablers =
      (p.comply e o).enablers.flatMap fun middle => (p.repairEnabler rest middle).enablers :=
  enablers_join_map _ _

theorem enablers_repairAction (obligations : List Obligation) (enablers : List Enabler) :
    (p.repairAction obligations enablers).enablers =
      enablers.flatMap fun e => (p.repairEnabler obligations e).enablers :=
  enablers_join_map _ _

theorem mem_repairEnabler_cons {o : Obligation} {rest : List Obligation} {e e' : Enabler} :
    e' ∈ (p.repairEnabler (o :: rest) e).enablers ↔
      ∃ middle ∈ (p.comply e o).enablers, e' ∈ (p.repairEnabler rest middle).enablers := by
  rw [enablers_repairEnabler_cons, List.mem_flatMap]

theorem mem_repairAction {obligations : List Obligation} {enablers : List Enabler} {e' : Enabler} :
    e' ∈ (p.repairAction obligations enablers).enablers ↔
      ∃ e ∈ enablers, e' ∈ (p.repairEnabler obligations e).enablers := by
  rw [enablers_repairAction, List.mem_flatMap]

theorem grownFrom_of_mem_repairEnabler {obligations : List Obligation} {e e' : Enabler}
    (h : e' ∈ (p.repairEnabler obligations e).enablers) :
    Enabler.GrownFrom obligations e e' := by
  induction obligations generalizing e with
  | nil =>
      rw [List.mem_singleton.1 h]
      exact .refl e
  | cons o rest ih =>
      obtain ⟨middle, hstep, hrest⟩ := mem_repairEnabler_cons.1 h
      have first := (outcome_of_mem_comply hstep).grownFrom (List.mem_cons_self (l := rest))
      exact first.trans ((ih hrest).mono (List.subset_cons_self o rest))

end Standpoint

end Rulebook
