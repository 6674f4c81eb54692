import Rulebook.Proofs.Implication.Exactness
import Rulebook.Proofs.Repair.Compliance

/-!
A repair delivers at run time what the obligations ask for.

The repair works with the static test, which can overreach.  It does not where
obligations ask for things that are there, and nobody asks for the past: such a
requirement is met wherever a member that settles it is.
-/

namespace Rulebook

structure Requirement.Plain (r : Requirement) : Prop where
  present : r.present = true
  survives : r.survives = false

def Conditions.Timeless (c : Conditions) : Prop := ∀ r ∈ c.requirements, r.survives = false

namespace Requirement

variable {rs : Ruleset} {m r : Requirement}

theorem Plain.not_overreaches (h : r.Plain) (hm : m.survives = false) :
    ¬ rs.Overreaches m r := by
  rintro ⟨-, leap⟩
  cases leap with
  | toOther hconflict hhere hwide =>
      obtain ⟨x, y, hx, hy, hconflicts⟩ := relationsConflict_iff.1 hconflict
      obtain ⟨-, -, hscope⟩ := judge?_of_relationDemand? rs {} hx
      obtain ⟨-, hpresent, hscope'⟩ := judge?_of_relationDemand? rs {} hy
      rw [hscope] at hwide
      obtain ⟨-, -, hdemanded⟩ :=
        RelationDemand.signs_of_conflicts hconflicts (hscope'.symm.trans hhere) hwide
      rw [← hpresent, negated, h.present] at hdemanded
      contradiction
  | fromPast _ _ _ _ hpast =>
      rw [hm] at hpast
      contradiction
  | toPast _ _ _ _ _ _ hpast =>
      rw [h.survives] at hpast
      contradiction
  | fromOne _ _ habsent =>
      rw [h.present] at habsent
      contradiction

end Requirement

namespace Standpoint

variable {p : Standpoint}

theorem guarantee_of_implies (hreasoners : p.reasoners = .standard) {c : Conditions}
    {r : Requirement} (hplain : r.Plain) (hchecked : r.checked = .ok r) (hc : c.Timeless)
    (h : p.implies c r = true) : c.Guarantee p.ruleset r := by
  obtain ⟨m, hm, hsettles⟩ := exists_settles_of_implies h
  exact guarantee_of_settles hreasoners hchecked hm hsettles (hplain.not_overreaches (hc m hm))

/-- What a repair adds are alternatives, so it brings no past into the conditions. -/
theorem timeless_of_grownFrom {obligations : List Obligation} {e grown : Enabler}
    (hplain : ∀ o ∈ obligations, ∀ r ∈ o.alternatives, r.Plain)
    (he : ∀ side, (e.conditions side).Timeless) (h : Enabler.GrownFrom obligations e grown)
    (side : Side) : (grown.conditions side).Timeless :=
  h.forall_requirements he (fun o ho r hr => (hplain o ho r hr).survives) side

/-- After a repair an enabled enabler whose conditions are met has an alternative of every
obligation met, if members ask for nothing past and obligations for what is there now. -/
theorem repairAll_delivers (p : Standpoint) (hreasoners : p.reasoners = .standard)
    (table : ByAction Obligation) (enablers : ByAction Enabler)
    (hmembers : ∀ action, ∀ e ∈ enablers.forAction action, ∀ side, (e.conditions side).Timeless)
    (halternatives : ∀ action, ∀ o ∈ table.forAction action, ∀ r ∈ o.alternatives,
      r.Plain ∧ r.checked = .ok r) :
    ∀ action, ∀ e ∈ (p.repairAll table enablers).forAction action, e.disabled = false →
      ∀ o ∈ table.forAction action, ∀ s : Situation, s.Placed →
        Requirement.areMet p.ruleset (e.conditions o.side).requirements s .certain = .ok true →
          ∃ r ∈ o.alternatives, r.isMet p.ruleset s .certain = .ok true := by
  intro action e he henabled o ho s hs hmet
  rw [forAction_repairAll] at he
  have hfulfils : p.fulfils e o = true := by
    rcases complies_of_mem_repairAction he with hdisabled | hall
    · rw [henabled] at hdisabled
      contradiction
    · exact hall o ho
  obtain ⟨original, horiginal, hrepair⟩ := mem_repairAction.1 he
  have htimeless : (e.conditions o.side).Timeless :=
    timeless_of_grownFrom (fun o ho r hr => (halternatives action o ho r hr).1)
      (hmembers action original horiginal) (grownFrom_of_mem_repairEnabler hrepair) o.side
  obtain ⟨r, hr, himplies⟩ := List.any_eq_true.1 hfulfils
  obtain ⟨hplain, hchecked⟩ := halternatives action o ho r hr
  exact ⟨r, hr, guarantee_of_implies hreasoners hplain hchecked htimeless himplies s hs hmet⟩

/-! ## One obligation on one enabler -/

def crown : Obligation := { side := .actor, alternatives := [monarchy], reason := "of the crown" }

theorem eq_of_mem_forAction_single {α : Type} {action other : Ref Action} {a b : α}
    (h : b ∈ (ByAction.empty.add action a).forAction other) : b = a := by
  have hgroups : (ByAction.empty.add action a).groups = [(action, [a])] := rfl
  rw [ByAction.forAction, hgroups, List.lookup_cons] at h
  split at h
  · exact List.mem_singleton.1 h
  · contradiction

theorem repairAll_delivers_monarchy :
    ∃ e ∈ (classic.repairAll (ByAction.empty.add ⟨0⟩ crown)
        (ByAction.empty.add ⟨0⟩ { name := "Act" })).forAction ⟨0⟩,
      e.disabled = false ∧
        Requirement.areMet classic.ruleset (e.conditions .actor).requirements
          ({} : Scene).situation .certain = .ok true ∧
        ∃ r ∈ crown.alternatives,
          r.isMet classic.ruleset ({} : Scene).situation .certain = .ok true := by
  let repaired : Enabler := { name := "Act", actor := .ofRequirements [monarchy] }
  have hrepaired : repaired ∈ (classic.repairAll (ByAction.empty.add ⟨0⟩ crown)
      (ByAction.empty.add ⟨0⟩ { name := "Act" })).forAction ⟨0⟩ := List.mem_singleton.2 rfl
  refine ⟨repaired, hrepaired, rfl, rfl, ?_⟩
  refine repairAll_delivers classic rfl _ _ ?_ ?_ ⟨0⟩ repaired hrepaired rfl crown
    (List.mem_singleton.2 rfl) _ Scene.placed rfl
  · intro action e he side r hr
    rw [eq_of_mem_forAction_single he] at hr
    cases side <;> contradiction
  · intro action o ho r hr
    rw [eq_of_mem_forAction_single ho, crown, List.mem_singleton] at hr
    rw [hr]
    exact ⟨⟨rfl, rfl⟩, rfl⟩

end Standpoint

end Rulebook
