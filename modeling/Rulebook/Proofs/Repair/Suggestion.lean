import Mathlib.Data.List.Perm.Subperm
import Rulebook.Proofs.Conflict.Symmetry
import Rulebook.Proofs.Implication.Exactness
import Rulebook.Proofs.Repair.Compliance
import Rulebook.Proofs.Written.Kept

/-!
What comes of following a suggestion.

A suggestion names the places of the conditions that conflict with what it adds.
Removing them one by one, the last first, moves no place that is still to go; so
what stays are the conditions without a conflict, in their order and each with
what was written for it.  The added requirement stands behind them, meets the
obligation, and conflicts with nothing, itself included.
-/

namespace Rulebook

/-! ## Removal at places -/

section

variable {α : Type}

theorem map_snd_filter_zipIdx (test : α → Bool) (items : List α) :
    (items.zipIdx.filter fun entry => test entry.1).map (·.2) = items.findIdxs test := by
  rw [List.findIdxs_eq_filterMap_zipIdx, ← List.filterMap_eq_map, List.filterMap_filter]
  refine List.filterMap_congr fun entry _ => ?_
  cases test entry.1 <;> simp

theorem foldr_eraseIdx_succ (places : List Nat) (a : α) (rest : List α) :
    (places.map (· + 1)).foldr (fun i items => items.eraseIdx i) (a :: rest) =
      a :: places.foldr (fun i items => items.eraseIdx i) rest := by
  induction places with
  | nil => rfl
  | cons i places ih =>
      rw [List.map_cons, List.foldr_cons, ih, List.eraseIdx_cons_succ, List.foldr_cons]

/-- Erasing what passes a test, the last place first, leaves what does not pass. -/
theorem foldr_eraseIdx_findIdxs (test : α → Bool) (items : List α) :
    (items.findIdxs test).foldr (fun i rest => rest.eraseIdx i) items =
      items.filter fun a => !test a := by
  induction items with
  | nil => rfl
  | cons a rest ih =>
      -- the head is the last to go, if it goes at all
      have hrest : (rest.findIdxs test 1).foldr (fun i rest => rest.eraseIdx i) (a :: rest) =
          a :: rest.filter fun a => !test a := by
        rw [List.findIdxs_start, foldr_eraseIdx_succ, ih]
      cases htest : test a <;> simp [List.findIdxs_cons, htest, hrest]

theorem filter_not_findIdxs (test : α → Bool) (items : List α) :
    (items.zipIdx.filter fun entry => !(items.findIdxs test).contains entry.2).map (·.1) =
      items.filter fun a => !test a := by
  have hpassed : ∀ entry ∈ items.zipIdx,
      (items.findIdxs test).contains entry.2 = test entry.1 := by
    rintro ⟨a, i⟩ hentry
    obtain ⟨hi, rfl⟩ := List.getElem?_eq_some_iff.1 (List.mk_mem_zipIdx_iff_getElem?.1 hentry)
    rw [Bool.eq_iff_iff, List.contains_iff_mem, List.mem_findIdxs_iff_pos_getElem hi]
  calc
    (items.zipIdx.filter fun entry => !(items.findIdxs test).contains entry.2).map (·.1)
        = (items.zipIdx.filter fun entry => !test entry.1).map (·.1) := by
          rw [List.filter_congr fun entry hentry => congrArg (!·) (hpassed entry hentry)]
    _ = (items.zipIdx.map (·.1)).filter fun a => !test a := by rw [List.filter_map]; rfl
    _ = items.filter fun a => !test a := by rw [List.zipIdx_map_fst]

end

namespace Conditions

variable {rs : Ruleset} {c : Conditions} {r : Requirement}

def removeEach (c : Conditions) (places : List Nat) : Conditions :=
  places.foldr (fun place rest => (rest.remove place).2) c

def sparedBy (rs : Ruleset) (c : Conditions) (r : Requirement) : Conditions :=
  ⟨c.toList.filter fun member => !rs.conflict member.requirement r⟩

theorem removeEach_eq (c : Conditions) (places : List Nat) :
    c.removeEach places = ⟨places.foldr (fun i rest => rest.eraseIdx i) c.toList⟩ := by
  induction places with
  | nil => rfl
  | cons i places ih => exact congrArg (fun rest : Conditions => (rest.remove i).2) ih

theorem conflict_of_mem_sparedBy {member : Requirement}
    (h : member ∈ (c.sparedBy rs r).requirements) : rs.conflict member r = false := by
  obtain ⟨condition, hspared, rfl⟩ := List.mem_map.1 h
  simpa using (List.mem_filter.1 hspared).2

/-! ## Entries kept as they were written -/

theorem kept_removeEach (c : Conditions) (places : List Nat) :
    (c.removeEach places).kept = places.foldr closeGap c.kept := by
  induction places with
  | nil => rfl
  | cons i places ih =>
      rw [List.foldr_cons, ← ih, ← kept_remove]
      rfl

end Conditions

/-! ## The places of conflicts -/

namespace Standpoint

variable {p : Standpoint} {e : Enabler} {o : Obligation} {s : Suggestion}

theorem conflicting_eq_findIdxs (p : Standpoint) (c : Conditions) (r : Requirement) :
    p.conflicting c r = c.toList.findIdxs fun member => p.ruleset.conflict member.requirement r := by
  rw [conflicting, map_snd_filter_zipIdx fun member => p.ruleset.conflict member r,
    Conditions.requirements, List.findIdxs_map]
  rfl

theorem without_conflicting (p : Standpoint) (c : Conditions) (r : Requirement) :
    c.without (p.conflicting c r) = c.sparedBy p.ruleset r := by
  rw [conflicting_eq_findIdxs]
  exact congrArg Conditions.mk (filter_not_findIdxs _ c.toList)

theorem removeEach_conflicting (p : Standpoint) (c : Conditions) (r : Requirement) :
    c.removeEach (p.conflicting c r) = c.sparedBy p.ruleset r := by
  rw [conflicting_eq_findIdxs, Conditions.removeEach_eq]
  exact congrArg Conditions.mk (foldr_eraseIdx_findIdxs _ c.toList)

theorem conflicting_eq_nil_iff {c : Conditions} {r : Requirement} :
    p.conflicting c r = [] ↔ ∀ member ∈ c.requirements, p.ruleset.conflict member r = false := by
  rw [conflicting_eq_findIdxs, List.findIdxs_eq_nil_iff, Conditions.requirements,
    List.forall_mem_map]

/-! ## What following a suggestion does -/

structure Resolves (p : Standpoint) (e : Enabler) (o : Obligation) (s : Suggestion) : Prop where
  result : e.follow s = e.withConditions o.side
    (((e.conditions o.side).sparedBy p.ruleset s.requirement).push s.requirement)
  untouched : ∀ side, side ≠ o.side → (e.follow s).conditions side = e.conditions side
  ascending : s.remove.Pairwise (· < ·)
  stepwise : (e.follow s).conditions o.side =
    ((e.conditions o.side).removeEach s.remove).push s.requirement
  kept : ((e.follow s).conditions o.side).kept =
    s.remove.foldr Conditions.closeGap (e.conditions o.side).kept
  met : p.missing? (e.follow s) [o] = none
  peaceful : ∀ member ∈ ((e.follow s).conditions o.side).requirements,
    p.ruleset.conflict member s.requirement = false ∧
      p.ruleset.conflict s.requirement member = false
  append : s.isAppend = true ↔ ∀ member ∈ (e.conditions o.side).requirements,
    p.ruleset.conflict member s.requirement = false

theorem of_mem_suggestions (h : s ∈ p.suggestions e o) :
    s.requirement ∈ o.alternatives ∧ s.side = o.side ∧
      s.remove = p.conflicting (e.conditions o.side) s.requirement := by
  obtain ⟨r, hr, rfl⟩ := List.mem_map.1 h
  exact ⟨hr, rfl, rfl⟩

theorem follow_suggestion (h : s ∈ p.suggestions e o) :
    e.follow s = e.withConditions o.side
      (((e.conditions o.side).sparedBy p.ruleset s.requirement).push s.requirement) := by
  obtain ⟨-, hside, hremove⟩ := of_mem_suggestions h
  rw [Enabler.follow, hside, hremove, without_conflicting]

theorem resolves_suggestion (h : s ∈ p.suggestions e o) : p.Resolves e o s := by
  obtain ⟨hoffered, -, hremove⟩ := of_mem_suggestions h
  have result := follow_suggestion h
  have hconditions : (e.follow s).conditions o.side =
      ((e.conditions o.side).sparedBy p.ruleset s.requirement).push s.requirement := by
    rw [result, Enabler.conditions_withConditions]
  have stepwise : (e.follow s).conditions o.side =
      ((e.conditions o.side).removeEach s.remove).push s.requirement := by
    rw [hconditions, hremove, removeEach_conflicting]
  refine { result, stepwise, untouched := ?_, ascending := ?_, kept := ?_, met := ?_,
           peaceful := ?_, append := ?_ }
  · intro side hside
    rw [result, Enabler.conditions_withConditions_of_ne e _ hside]
  · rw [hremove, conflicting_eq_findIdxs]
    exact List.pairwise_findIdxs
  · rw [stepwise, Conditions.kept_push, Conditions.kept_removeEach]
  · refine missing?_eq_none_iff.2 fun o' ho' => ?_
    obtain rfl := List.mem_singleton.1 ho'
    refine List.any_eq_true.2 ⟨s.requirement, hoffered, ?_⟩
    rw [hconditions]
    exact implies_push_self p _ s.requirement
  · intro member hmember
    rw [p.ruleset.conflict_comm s.requirement member, and_self]
    rw [hconditions, Conditions.requirements_push] at hmember
    rcases List.mem_append.1 hmember with hspared | hadded
    · exact Conditions.conflict_of_mem_sparedBy hspared
    · rw [List.mem_singleton.1 hadded]
      exact p.ruleset.conflict_self s.requirement
  · rw [Suggestion.isAppend, List.isEmpty_iff, hremove, conflicting_eq_nil_iff]

/-- There is one suggestion for each alternative, and following any of them meets the obligation,
at the cost of the conditions that conflict with it and of no others. -/
theorem suggestions_resolve (p : Standpoint) (e : Enabler) (o : Obligation) :
    (p.suggestions e o).map (·.requirement) = o.alternatives ∧
      ∀ s ∈ p.suggestions e o, p.Resolves e o s := by
  refine ⟨?_, fun s => resolves_suggestion⟩
  simp [suggestions, Function.comp_def]

theorem crowning_resolves :
    let illegible : Condition :=
      { requirement := .invalid, written := some { kind := "Crown", name := "Iron" } }
    let court : Enabler :=
      { name := "court"
        actor := ⟨[{ requirement := writing }, { requirement := monarchy.negated }, illegible]⟩ }
    let crowned : Obligation :=
      { side := .actor, alternatives := [monarchy], reason := "only a monarch holds court" }
    let crowning : Suggestion := { side := .actor, requirement := monarchy, remove := [1] }
    classic.missing? court [crowned] = some crowned ∧
      classic.suggestions court crowned = [crowning] ∧
      (court.follow crowning).actor =
        ⟨[{ requirement := writing }, illegible, { requirement := monarchy }]⟩ ∧
      classic.missing? (court.follow crowning) [crowned] = none ∧
      crowning.isAppend = false := by
  intro illegible court crowned crowning
  have hsuggested : classic.suggestions court crowned = [crowning] := by decide
  obtain ⟨-, resolves⟩ := suggestions_resolve classic court crowned
  have hcrowning : classic.Resolves court crowned crowning :=
    resolves crowning (hsuggested ▸ List.mem_singleton_self crowning)
  refine ⟨by decide, hsuggested, ?_, hcrowning.met, rfl⟩
  rw [hcrowning.result]
  decide

end Standpoint

end Rulebook
