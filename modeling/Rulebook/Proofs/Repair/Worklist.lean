import Mathlib.Tactic.Choose
import Rulebook.Enabler.Worklist
import Rulebook.Proofs.Repair.Compliance

/-!
Working off the enablers of an action makes the repair of each of them, in order.

What is made of an enabler goes back to the front, so nothing behind it is touched
before all of it is done.  The obligations that stand before the one that is due
are met for good, so the walk through the list of obligations, which is the
recursion of the repair, says which passes follow.  Passes leave no choice, so
there is one way only to work off a line of enablers.
-/

namespace Rulebook

namespace Standpoint

variable {p : Standpoint} {obligations : List Obligation}

/-! ## What is due -/

theorem due?_eq_none_iff {e : Enabler} :
    p.due? obligations e = none ↔ p.Complies obligations e := by
  unfold due? Complies
  cases e.disabled <;> simp [missing?_eq_none_iff]

theorem due?_append {before rest : List Obligation} {e : Enabler} {o : Obligation}
    (hbefore : p.Complies before e) (hopen : e.disabled = false)
    (hunmet : p.fulfils e o = false) : p.due? (before ++ o :: rest) e = some o := by
  have hmet : p.missing? e before = none :=
    missing?_eq_none_iff.2 (hbefore.resolve_left (by simp [hopen]))
  rw [missing?] at hmet
  simp [due?, hopen, missing?, List.find?_append, hmet, hunmet]

theorem of_due? {e : Enabler} {o : Obligation} (h : p.due? obligations e = some o) :
    e.disabled = false ∧ p.fulfils e o = false ∧ o ∈ obligations := by
  unfold due? at h
  cases hopen : e.disabled with
  | true => simp [hopen] at h
  | false =>
      simp only [hopen, Bool.false_eq_true, if_false] at h
      exact ⟨rfl, by simpa using List.find?_some h, List.mem_of_find?_eq_some h⟩

/-! ## One pass -/

variable {e : Enabler} {waiting done : List Enabler} {log : RepairLog}

theorem advance?_of_complies (h : p.Complies obligations e) :
    p.advance? obligations ⟨e :: waiting, done, log⟩ =
      some (.kept, ⟨waiting, done ++ [e], log⟩) := by
  simp [advance?, due?_eq_none_iff.2 h]

theorem advance?_of_stuck {o : Obligation} (hdue : p.due? obligations e = some o)
    (hstuck : p.isExtensible e o = false) :
    p.advance? obligations ⟨e :: waiting, done, log⟩ =
      some (.switchedOff,
        ⟨waiting, done ++ (p.comply e o).enablers, log ++ (p.comply e o).log⟩) := by
  simp [advance?, hdue, hstuck]

theorem advance?_of_extensible {o : Obligation} (hdue : p.due? obligations e = some o)
    (hextensible : p.isExtensible e o = true) :
    p.advance? obligations ⟨e :: waiting, done, log⟩ =
      some (.extended,
        ⟨(p.comply e o).enablers ++ waiting, done, log ++ (p.comply e o).log⟩) := by
  simp [advance?, hdue, hextensible]

/-! ## Runs -/

theorem Runs.trans {w middle final : Worklist} {passes later : List Pass}
    (first : p.Runs obligations w passes middle) (second : p.Runs obligations middle later final) :
    p.Runs obligations w (passes ++ later) final := by
  induction first with
  | refl => exact second
  | next step _ ih => exact .next step (ih second)

theorem Runs.unique {w final final' : Worklist} {passes passes' : List Pass}
    (first : p.Runs obligations w passes final) (second : p.Runs obligations w passes' final')
    (hend : final.waiting = []) (hend' : final'.waiting = []) :
    passes = passes' ∧ final = final' := by
  have stops : ∀ w : Worklist, w.waiting = [] → p.advance? obligations w = none :=
    fun w h => by simp [advance?, h]
  induction first generalizing passes' with
  | refl w =>
      cases second with
      | refl => exact ⟨rfl, rfl⟩
      | next step _ =>
          rw [stops w hend] at step
          contradiction
  | next step _ ih =>
      cases second with
      | refl =>
          rw [stops _ hend'] at step
          contradiction
      | next step' rest' =>
          rw [step, Option.some.injEq, Prod.mk.injEq] at step'
          obtain ⟨rfl, rfl⟩ := step'
          obtain ⟨rfl, rfl⟩ := ih rest' hend
          exact ⟨rfl, rfl⟩

/-- Standing in front of others, the enablers are worked off first, and to the repair. -/
def Clears (p : Standpoint) (obligations : List Obligation) (front : List Enabler)
    (passes : List Pass) (repair : Repair) : Prop :=
  ∀ waiting done log, p.Runs obligations ⟨front ++ waiting, done, log⟩ passes
    ⟨waiting, done ++ repair.enablers, log ++ repair.log⟩

theorem Clears.worksOff {front : List Enabler} {passes : List Pass} {repair : Repair}
    (h : p.Clears obligations front passes repair) :
    p.WorksOff obligations front passes repair := by
  have run := h [] [] {}
  rwa [List.append_nil, List.nil_append, RepairLog.empty_append] at run

theorem clears_kept (h : p.Complies obligations e) :
    p.Clears obligations [e] [.kept] { enablers := [e] } := by
  intro waiting done log
  rw [RepairLog.append_empty]
  exact .next (advance?_of_complies h) (.refl _)

theorem clears_all {passes : Enabler → List Pass} {repair : Enabler → Repair}
    {front : List Enabler} (h : ∀ e ∈ front, p.Clears obligations [e] (passes e) (repair e)) :
    p.Clears obligations front (front.flatMap passes) (.join (front.map repair)) := by
  induction front with
  | nil =>
      intro waiting done log
      rw [List.map_nil, Repair.join_nil, List.append_nil, RepairLog.append_empty]
      exact .refl _
  | cons e rest ih =>
      have hrest := ih fun e' he' => h e' (List.mem_cons_of_mem e he')
      intro waiting done log
      rw [List.map_cons, Repair.join_cons, List.flatMap_cons, ← List.append_assoc,
        ← RepairLog.append_assoc]
      exact (h e List.mem_cons_self (rest ++ waiting) done log).trans (hrest waiting _ _)

theorem complies_of_mem_comply {before : List Obligation} {o : Obligation} {e' : Enabler}
    (h : p.Complies before e) (he' : e' ∈ (p.comply e o).enablers) :
    p.Complies (before ++ [o]) e' := by
  have outcome := outcome_of_mem_comply he'
  have hgrown := outcome.grownFrom (List.mem_singleton.2 rfl : o ∈ [o])
  rcases outcome.disabled_or_fulfils with hoff | hmet
  · exact .inl hoff
  · rcases h with hoff | hall
    · rw [comply_of_done (.inl hoff), List.mem_singleton] at he'
      exact .inl (he' ▸ hoff)
    · right
      intro o' ho'
      rcases List.mem_append.1 ho' with ho' | ho'
      · exact fulfils_of_grownFrom hgrown (hall o' ho')
      · rwa [List.mem_singleton.1 ho']

/-- An enabler that meets the obligations before the others is worked off to its repair by those.
The induction is on the obligations that are left. -/
theorem exists_clears {before : List Obligation} (rest : List Obligation)
    (h : p.Complies before e) :
    ∃ passes, p.Clears (before ++ rest) [e] passes (p.repairEnabler rest e) := by
  induction rest generalizing before e with
  | nil => exact ⟨[.kept], clears_kept (by rwa [List.append_nil])⟩
  | cons o rest ih =>
      have hsplit : before ++ o :: rest = (before ++ [o]) ++ rest := by simp
      cases p.course e o with
      | kept done result =>
          rw [hsplit, repairEnabler_of_done done]
          exact ih (complies_of_mem_comply h (result ▸ List.mem_singleton.2 rfl))
      | switchedOff hopen hunmet stuck reason result =>
          have hdue : p.due? (before ++ o :: rest) e = some o := due?_append h hopen hunmet
          -- What is switched off is not looked at again.
          have hoff : p.repairEnabler (o :: rest) e = p.comply e o := by
            rw [repairEnabler, result]
            simp only [Enabler.switchedOff, List.map_singleton, Repair.join_singleton,
              repairEnabler_of_complies (.inl rfl : p.Complies rest { e with disabled := true }),
              RepairLog.append_empty]
          refine ⟨[.switchedOff], fun waiting done log => ?_⟩
          rw [hoff]
          exact .next (advance?_of_stuck hdue stuck) (.refl _)
      | extended hopen hunmet extensible last hlast result =>
          have hdue : p.due? (before ++ o :: rest) e = some o := due?_append h hopen hunmet
          have hversions : ∀ version ∈ (p.comply e o).enablers, ∃ passes,
              p.Clears (before ++ o :: rest) [version] passes (p.repairEnabler rest version) := by
            intro version hversion
            rw [hsplit]
            exact ih (complies_of_mem_comply h hversion)
          choose! passes hpasses using hversions
          refine ⟨.extended :: (p.comply e o).enablers.flatMap passes, fun waiting done log => ?_⟩
          have hlater := clears_all hpasses waiting done (log ++ (p.comply e o).log)
          rw [RepairLog.append_assoc] at hlater
          exact .next (advance?_of_extensible hdue extensible) hlater

theorem exists_clears_repairEnabler (p : Standpoint) (obligations : List Obligation) :
    ∃ passes : Enabler → List Pass, ∀ e,
      p.Clears obligations [e] (passes e) (p.repairEnabler obligations e) := by
  have hsingle : ∀ e, ∃ passes,
      p.Clears obligations [e] passes (p.repairEnabler obligations e) := by
    intro e
    have hnothing : p.Complies [] e := .inr (by simp)
    exact exists_clears obligations hnothing
  choose passes hpasses using hsingle
  exact ⟨passes, hpasses⟩

theorem exists_worksOff (p : Standpoint) (obligations : List Obligation)
    (enablers : List Enabler) :
    ∃ passes, p.WorksOff obligations enablers passes (p.repairAction obligations enablers) := by
  obtain ⟨passes, hpasses⟩ := exists_clears_repairEnabler p obligations
  exact ⟨_, (clears_all fun e _ => hpasses e).worksOff⟩

theorem WorksOff.unique {enablers : List Enabler} {passes passes' : List Pass}
    {repair repair' : Repair} (first : p.WorksOff obligations enablers passes repair)
    (second : p.WorksOff obligations enablers passes' repair') :
    passes = passes' ∧ repair = repair' := by
  obtain ⟨hpasses, hfinal⟩ := Runs.unique first second rfl rfl
  refine ⟨hpasses, ?_⟩
  cases repair
  cases repair'
  cases hfinal
  rfl

end Standpoint

end Rulebook
