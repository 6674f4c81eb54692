import Rulebook.Proofs.Evaluation.Met
import Rulebook.Proofs.Review.Findings
import Rulebook.Ruleset.Base

/-!
Conditions that are read although entries in them cannot be.

An entry that can be read gives a checked requirement, one that cannot the
invalid requirement in its place.  So the conditions are those of a strict
reading where there is one; otherwise nothing meets them and every review finds
fault with them.  In no case is it a misuse to ask them.
-/

namespace Rulebook

/-! ## Reading one by one -/

section

variable {α β ε : Type} {f : α → Except ε β}

theorem mapM_cons_eq_ok {a : α} {rest : List α} {read : List β}
    (h : (a :: rest).mapM f = .ok read) :
    ∃ b others, f a = .ok b ∧ rest.mapM f = .ok others ∧ read = b :: others := by
  rw [List.mapM_cons] at h
  cases hfirst : f a with
  | error flaw => simp [hfirst, bind, Except.bind] at h
  | ok b =>
      cases hrest : rest.mapM f with
      | error flaw => simp [hfirst, hrest, bind, Except.bind] at h
      | ok others =>
          simp only [hfirst, hrest, bind, Except.bind, pure, Except.pure, Except.ok.injEq] at h
          exact ⟨b, others, rfl, rfl, h.symm⟩

theorem exists_error_of_mapM {as : List α} {flaw : ε} (h : as.mapM f = .error flaw) :
    ∃ a ∈ as, f a = .error flaw := by
  induction as with
  | nil => cases h
  | cons a rest ih =>
      rw [List.mapM_cons] at h
      cases hfirst : f a with
      | error first =>
          simp only [hfirst, bind, Except.bind, Except.error.injEq] at h
          exact ⟨a, List.mem_cons_self, by rw [hfirst, h]⟩
      | ok b =>
          cases hrest : rest.mapM f with
          | error later =>
              simp only [hfirst, hrest, bind, Except.bind, Except.error.injEq] at h
              obtain ⟨a', hmem, herror⟩ := ih (by rw [hrest, h])
              exact ⟨a', List.mem_cons_of_mem a hmem, herror⟩
          | ok others => simp [hfirst, hrest, bind, Except.bind, pure, Except.pure] at h

end

/-! ## One entry -/

namespace Requirement

variable {rs : Ruleset} {e : Entry}

theorem eq_of_checked {r r' : Requirement} (h : r.checked = .ok r') : r' = r := by
  unfold checked at h
  split at h
  · contradiction
  · split at h
    · contradiction
    · cases h
      rfl

theorem ofEntry_of_unknown (h : kindNamed? e.kind = none) :
    ofEntry rs e = .error (.unknownKind e.kind) := by
  -- proving the equation of `ofEntry` would run through the vocabularies
  delta ofEntry
  rw [h]

theorem exists_parts_of_ofEntry {r : Requirement} (h : ofEntry rs e = .ok r) :
    ∃ kind, kindNamed? e.kind = some kind ∧ scopeOf kind e.scope = .ok r.scope ∧
      r.fact = Fact.ofName rs kind e.name ∧ r.isInvalid = false ∧ r.checked = .ok r := by
  delta ofEntry at h
  cases hkind : kindNamed? e.kind with
  | none => simp only [hkind, reduceCtorEq] at h
  | some kind =>
      cases hscope : scopeOf kind e.scope with
      | error flaw => simp only [hkind, hscope, reduceCtorEq] at h
      | ok scope =>
          cases hfact : (Fact.ofName rs kind e.name).isInvalid with
          | true => simp only [hkind, hscope, hfact, if_true, reduceCtorEq] at h
          | false =>
              simp only [hkind, hscope, hfact, Bool.false_eq_true, if_false] at h
              obtain rfl := eq_of_checked h
              exact ⟨kind, rfl, hscope, rfl, hfact, h⟩

theorem of_ofEntry {r : Requirement} (h : ofEntry rs e = .ok r) :
    r.isInvalid = false ∧ r.checked = .ok r := by
  obtain ⟨-, -, -, -, hvalid, hchecked⟩ := exists_parts_of_ofEntry h
  exact ⟨hvalid, hchecked⟩

end Requirement

namespace Conditions

variable {rs : Ruleset} {e : Requirement.Entry} {entries : List Requirement.Entry}

theorem conditionOf_of_ok {r : Requirement} (h : Requirement.ofEntry rs e = .ok r) :
    conditionOf rs e = { requirement := r } := by
  delta conditionOf
  rw [h]

theorem conditionOf_of_error {flaw : Requirement.Flaw} (h : Requirement.ofEntry rs e = .error flaw) :
    conditionOf rs e = { requirement := .invalid, written := some e } := by
  delta conditionOf
  rw [h]

theorem isInvalid_conditionOf_iff :
    (conditionOf rs e).requirement.isInvalid = true ↔
      ∃ flaw, Requirement.ofEntry rs e = .error flaw := by
  cases hread : Requirement.ofEntry rs e with
  | ok r => simp [conditionOf_of_ok hread, (Requirement.of_ofEntry hread).1]
  | error flaw =>
      rw [conditionOf_of_error hread]
      exact iff_of_true rfl ⟨flaw, rfl⟩

theorem survivesIsLegal_conditionOf (rs : Ruleset) (e : Requirement.Entry) :
    (conditionOf rs e).requirement.survivesIsLegal = true := by
  cases hread : Requirement.ofEntry rs e with
  | ok r =>
      rw [conditionOf_of_ok hread]
      exact (Requirement.checked_eq_ok_iff.1 (Requirement.of_ofEntry hread).2).2
  | error flaw =>
      rw [conditionOf_of_error hread]
      rfl

/-! ## All entries -/

theorem map_conditionOf_of_mapM {reqs : List Requirement}
    (h : entries.mapM (Requirement.ofEntry rs) = .ok reqs) :
    entries.map (conditionOf rs) = reqs.map fun r => { requirement := r } := by
  induction entries generalizing reqs with
  | nil =>
      cases h
      rfl
  | cons e rest ih =>
      obtain ⟨r, others, hread, hrest, rfl⟩ := mapM_cons_eq_ok h
      rw [List.map_cons, List.map_cons, conditionOf_of_ok hread, ih hrest]

theorem requirements_ofEntriesKept (rs : Ruleset) (entries : List Requirement.Entry) :
    (ofEntriesKept rs entries).requirements = entries.map fun e => (conditionOf rs e).requirement := by
  simp [requirements, ofEntriesKept, Function.comp_def]

theorem survivesIsLegal_ofEntriesKept (rs : Ruleset) (entries : List Requirement.Entry) :
    ∀ r ∈ (ofEntriesKept rs entries).requirements, r.survivesIsLegal = true := by
  intro r hr
  rw [requirements_ofEntriesKept, List.mem_map] at hr
  obtain ⟨e, -, rfl⟩ := hr
  exact survivesIsLegal_conditionOf rs e

theorem ofEntriesKept_of_ok {c : Conditions} (h : ofEntries rs entries = .ok c) :
    ofEntriesKept rs entries = c ∧ ∀ condition ∈ c.toList, condition.written = none := by
  unfold ofEntries at h
  cases hread : entries.mapM (Requirement.ofEntry rs) with
  | error flaw => simp [hread] at h
  | ok reqs =>
      simp only [hread, Except.ok.injEq] at h
      subst h
      rw [ofEntriesKept, map_conditionOf_of_mapM hread]
      exact ⟨rfl, by simp [ofRequirements]⟩

theorem exists_flaw_of_error {flaw : Requirement.Flaw} (h : ofEntries rs entries = .error flaw) :
    ∃ e ∈ entries, Requirement.ofEntry rs e = .error flaw := by
  unfold ofEntries at h
  cases hread : entries.mapM (Requirement.ofEntry rs) with
  | error first =>
      simp only [hread, Except.error.injEq] at h
      exact exists_error_of_mapM (by rw [hread, h])
  | ok reqs => simp [hread] at h

theorem unresolved_mem_ofEntriesKept_iff {conjunctive : Bool} {maxTiles : Int} {place : Nat} :
    Problem.unresolved place ∈ (ofEntriesKept rs entries).problems rs conjunctive maxTiles ↔
      ∃ e, entries[place]? = some e ∧ ∃ flaw, Requirement.ofEntry rs e = .error flaw := by
  simp only [unresolved_mem_problems_iff, requirements_ofEntriesKept, List.getElem?_map,
    Option.map_eq_some_iff, ← isInvalid_conditionOf_iff]
  constructor
  · rintro ⟨r, ⟨e, he, rfl⟩, hinvalid⟩
    exact ⟨e, he, hinvalid⟩
  · rintro ⟨e, he, hinvalid⟩
    exact ⟨_, ⟨e, he, rfl⟩, hinvalid⟩

theorem not_met_of_invalid {c : Conditions} {r : Requirement} (hr : r ∈ c.requirements)
    (hinvalid : r.isInvalid = true)
    (hlegal : ∀ r ∈ c.requirements, r.survivesIsLegal = true) (s : Situation)
    (reading : Reading) : Requirement.areMet rs c.requirements s reading = .ok false :=
  (Requirement.areMet_eq_ok_false_iff hlegal).2 ⟨r, hr, by simp [Requirement.isMet, hinvalid]⟩

/-- Reading that keeps going gives what a strict reading gives, and where that fails conditions that
nothing meets and every review rejects, for just the entries that cannot be read.  Asking is a
misuse in neither case. -/
theorem ofEntriesKept_never_looser (rs : Ruleset) (entries : List Requirement.Entry) :
    (∀ c, ofEntries rs entries = .ok c →
      ofEntriesKept rs entries = c ∧ ∀ condition ∈ c.toList, condition.written = none) ∧
    (∀ flaw, ofEntries rs entries = .error flaw →
      (ofEntriesKept rs entries).size = entries.length ∧
      (∀ (s : Situation) (reading : Reading),
        Requirement.areMet rs (ofEntriesKept rs entries).requirements s reading = .ok false) ∧
      ∀ (conjunctive : Bool) (maxTiles : Int),
        (ofEntriesKept rs entries).problems rs conjunctive maxTiles ≠ [] ∧
        ∀ place, .unresolved place ∈ (ofEntriesKept rs entries).problems rs conjunctive maxTiles ↔
          ∃ e, entries[place]? = some e ∧ ∃ flaw, Requirement.ofEntry rs e = .error flaw) ∧
    ∀ (s : Situation) (reading : Reading), ∃ met,
      Requirement.areMet rs (ofEntriesKept rs entries).requirements s reading = .ok met := by
  have hlegal := survivesIsLegal_ofEntriesKept rs entries
  refine ⟨fun c => ofEntriesKept_of_ok, fun flaw hflaw => ⟨?_, ?_, ?_⟩, ?_⟩
  · simp [size, ofEntriesKept]
  · obtain ⟨e, he, herror⟩ := exists_flaw_of_error hflaw
    have hmem : (conditionOf rs e).requirement ∈ (ofEntriesKept rs entries).requirements := by
      rw [requirements_ofEntriesKept]
      exact List.mem_map.2 ⟨e, he, rfl⟩
    exact not_met_of_invalid hmem (isInvalid_conditionOf_iff.2 ⟨flaw, herror⟩) hlegal
  · intro conjunctive maxTiles
    obtain ⟨e, he, herror⟩ := exists_flaw_of_error hflaw
    obtain ⟨place, hplace⟩ := List.mem_iff_getElem?.1 he
    have hunresolved : Problem.unresolved place ∈
        (ofEntriesKept rs entries).problems rs conjunctive maxTiles :=
      unresolved_mem_ofEntriesKept_iff.2 ⟨e, hplace, flaw, herror⟩
    exact ⟨List.ne_nil_of_mem hunresolved, fun place => unresolved_mem_ofEntriesKept_iff⟩
  · exact Requirement.exists_areMet hlegal rs

/-! ## A misspelt kind -/

def misspelt : Requirement.Entry := { kind := "Gvo", name := "Monarchy" }

theorem misspelt_is_kept :
    ofEntries Ruleset.base [misspelt] = .error (.unknownKind "Gvo") ∧
      (∀ conjunctive, (ofEntriesKept Ruleset.base [misspelt]).problems Ruleset.base conjunctive
        (-1) ≠ []) ∧
      ∀ reading, Requirement.areMet Ruleset.base
        (ofEntriesKept Ruleset.base [misspelt]).requirements {} reading = .ok false := by
  have hkind : Requirement.kindNamed? misspelt.kind = none := by decide +kernel
  have hflaw : ofEntries Ruleset.base [misspelt] = .error (.unknownKind "Gvo") := by
    simp only [ofEntries, List.mapM_cons, Requirement.ofEntry_of_unknown hkind]
    rfl
  obtain ⟨-, hkept, -⟩ := ofEntriesKept_never_looser Ruleset.base [misspelt]
  obtain ⟨-, hunmet, hproblems⟩ := hkept _ hflaw
  exact ⟨hflaw, fun conjunctive => (hproblems conjunctive (-1)).1, hunmet {}⟩

end Conditions

end Rulebook
