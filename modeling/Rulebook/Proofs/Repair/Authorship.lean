import Rulebook.Proofs.Repair.Compliance

/-!
Every repaired enabler goes back to one that was written.

A repair goes through the enablers of an action one by one, so what comes out is a
row of families, one for each enabler that went in.  A family is headed by the
enabler itself, under its own name; its clones have longer names at every step.
What the author wrote stands at the front of both sides in all of them, and a
family of an enabler with which nothing is wrong is that enabler alone.
-/

namespace Rulebook

namespace Enabler

/-- What a repair may make of an enabler: the first keeps its name, and all add to it. -/
structure Family (p : Standpoint) (obligations : List Obligation) (e : Enabler)
    (family : List Enabler) : Prop where
  headed : ∃ first clones, family = first :: clones ∧ first.name = e.name ∧
    ∀ clone ∈ clones, clone.name ≠ e.name
  grown : ∀ member ∈ family, GrownFrom obligations e member
  idle : e.disabled = true ∨ p.missing? e obligations = none ∨ obligations = [] → family = [e]

/-! ## Names -/

def Headed (name : String) (family : List Enabler) : Prop :=
  ∃ first clones, family = first :: clones ∧ first.name = name ∧
    ∀ clone ∈ clones, name.length < clone.name.length

namespace Headed

variable {name : String} {family : List Enabler}

theorem single {e : Enabler} (h : e.name = name) : Headed name [e] :=
  ⟨e, [], rfl, h, by simp⟩

theorem length_le (h : Headed name family) {e : Enabler} (he : e ∈ family) :
    name.length ≤ e.name.length := by
  obtain ⟨first, clones, rfl, hfirst, hclones⟩ := h
  rcases List.mem_cons.1 he with rfl | he
  · exact Nat.le_of_eq (congrArg String.length hfirst).symm
  · exact Nat.le_of_lt (hclones e he)

theorem flatMap {repair : Enabler → List Enabler} (h : Headed name family)
    (hrepair : ∀ e, Headed e.name (repair e)) : Headed name (family.flatMap repair) := by
  obtain ⟨first, clones, rfl, rfl, hclones⟩ := h
  obtain ⟨head, others, hfamily, hname, hothers⟩ := hrepair first
  refine ⟨head, others ++ clones.flatMap repair, by simp [hfamily], hname, ?_⟩
  intro e he
  rcases List.mem_append.1 he with he | he
  · exact hothers e he
  · obtain ⟨clone, hclone, he⟩ := List.mem_flatMap.1 he
    exact Nat.lt_of_lt_of_le (hclones clone hclone) ((hrepair clone).length_le he)

end Headed

theorem name_demand (e : Enabler) (side : Side) (r : Requirement) :
    (e.demand side r).name = e.name := by
  cases side <;> rfl

theorem length_name_of_mem_clones {e clone : Enabler} {o : Obligation} {r : Requirement}
    (h : (clone, r) ∈ e.clones o) : e.name.length < clone.name.length := by
  simp only [clones, List.mem_map, Prod.exists, Prod.mk.injEq] at h
  obtain ⟨alternative, i, -, rfl, rfl⟩ := h
  have hmark : " #".length = 2 := rfl
  rw [name_demand, String.length_append, String.length_append, hmark]
  omega

end Enabler

namespace Standpoint

open Enabler

variable {p : Standpoint}

theorem name_vetted (p : Standpoint) (before after : Enabler) :
    (p.vetted before after).name = after.name := by
  unfold vetted
  split <;> rfl

theorem headed_comply (p : Standpoint) (e : Enabler) (o : Obligation) :
    Headed e.name (p.comply e o).enablers := by
  cases p.course e o with
  | kept done result =>
      rw [result]
      exact .single rfl
  | switchedOff hopen hunmet stuck reason result =>
      rw [result]
      exact .single rfl
  | extended hopen hunmet extensible last hlast result =>
      rw [result]
      refine ⟨_, _, rfl, (name_vetted p e _).trans (name_demand e o.side last), ?_⟩
      intro clone hclone
      obtain ⟨⟨version, r⟩, hversion, rfl⟩ := List.mem_map.1 hclone
      rw [name_vetted]
      exact length_name_of_mem_clones hversion

theorem headed_repairEnabler (p : Standpoint) (obligations : List Obligation) (e : Enabler) :
    Headed e.name (p.repairEnabler obligations e).enablers := by
  induction obligations generalizing e with
  | nil => exact .single rfl
  | cons o rest ih =>
      rw [enablers_repairEnabler_cons]
      exact (headed_comply p e o).flatMap ih

theorem repairEnabler_ne_nil (p : Standpoint) (obligations : List Obligation) (e : Enabler) :
    (p.repairEnabler obligations e).enablers ≠ [] := by
  obtain ⟨first, clones, hfamily, -⟩ := headed_repairEnabler p obligations e
  rw [hfamily]
  exact List.cons_ne_nil first clones

/-! ## Families -/

theorem family_repairEnabler (p : Standpoint) (obligations : List Obligation) (e : Enabler) :
    Family p obligations e (p.repairEnabler obligations e).enablers where
  headed := by
    obtain ⟨first, clones, hfamily, hfirst, hclones⟩ := headed_repairEnabler p obligations e
    refine ⟨first, clones, hfamily, hfirst, fun clone hclone hname => ?_⟩
    have hlonger := hclones clone hclone
    rw [hname] at hlonger
    exact Nat.lt_irrefl _ hlonger
  grown _ := grownFrom_of_mem_repairEnabler
  idle h := by
    have hcomplies : p.Complies obligations e := by
      rcases h with hoff | hmet | rfl
      · exact .inl hoff
      · exact .inr (missing?_eq_none_iff.1 hmet)
      · exact .inr (by simp)
    rw [repairEnabler_of_complies hcomplies]

theorem forAction_repairAll_single (table : ByAction Obligation) (action : Ref Action)
    (e : Enabler) :
    (p.repairAll table (ByAction.empty.add action e)).forAction action =
      (p.repairEnabler (table.forAction action) e).enablers := by
  rw [forAction_repairAll, ByAction.forAction_add_empty, enablers_repairAction]
  simp

/-- A repair leaves the actions as they are and turns the enablers of each, in their order, into
families: those that it makes of each enabler alone.  The first of a family keeps the name, both
sides of all of them begin with what was written, kept entries included, and go on with
alternatives that the action asks for on that side; where nothing is wrong, or nothing is asked,
the family is the enabler itself. -/
theorem repairAll_keeps_authorship (p : Standpoint) (table : ByAction Obligation)
    (enablers : ByAction Enabler) :
    (p.repairAll table enablers).actions = enablers.actions ∧
    ∀ action,
      (p.repairAll table enablers).forAction action =
        ((enablers.forAction action).flatMap fun e =>
          (p.repairAll table (ByAction.empty.add action e)).forAction action) ∧
      ∀ e, Family p (table.forAction action) e
        ((p.repairAll table (ByAction.empty.add action e)).forAction action) := by
  refine ⟨by simp [ByAction.actions, repairAll, ByAction.map], fun action => ⟨?_, fun e => ?_⟩⟩
  · simp only [forAction_repairAll_single]
    rw [forAction_repairAll, enablers_repairAction]
  · rw [forAction_repairAll_single]
    exact family_repairEnabler p _ e

end Standpoint

end Rulebook
