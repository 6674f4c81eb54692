import Mathlib.Data.List.InsertIdx
import Rulebook.Proofs.Review.Kept
import Rulebook.Proofs.Written.Kept

/-!
Edits of conditions whose kept entries are set apart.

Setting the kept entries apart goes along with every edit: what is added and what
is removed on one side is added and removed on the other.  So after any edits the
two parts hold the conditions that the same edits make of the plain list, each
kept entry at the place of the requirement it was read for.
-/

namespace Rulebook

namespace Conditions

variable {rs : Ruleset} {c : Conditions}

/-! ## Runs -/

theorem Edit.run_map {σ τ : Type} {f : σ → τ} {editFrom : σ → Edit → Option Requirement × σ}
    {editTo : τ → Edit → Option Requirement × τ}
    (h : ∀ s e, editTo (f s) e = ((editFrom s e).1, f (editFrom s e).2)) (edits : List Edit)
    (s : σ) :
    run editTo edits (f s) = ((run editFrom edits s).1, f (run editFrom edits s).2) := by
  induction edits generalizing s with
  | nil => rfl
  | cons e rest ih => simp only [run, h, ih]

theorem Edit.run_invariant {σ : Type} {edit : σ → Edit → Option Requirement × σ} {P : σ → Prop}
    (h : ∀ s e, P s → P (edit s e).2) (edits : List Edit) {s : σ} (hs : P s) :
    P (run edit edits s).2 := by
  induction edits generalizing s with
  | nil => exact hs
  | cons e rest ih => exact ih (h s e hs)

/-! ## Setting the kept entries apart -/

def annotated (c : Conditions) : Annotated := ⟨c.requirements, c.kept⟩

theorem push_annotated (c : Conditions) (r : Requirement) :
    c.annotated.push r = (c.push r).annotated := by
  simp [Annotated.push, annotated, kept_push]

theorem remove_annotated (c : Conditions) (place : Nat) :
    c.annotated.remove place = ((c.remove place).1, (c.remove place).2.annotated) := by
  unfold Annotated.remove
  split
  · next hplace =>
      have hkept := c.kept_remove place
      simp only [remove] at hkept
      simp [annotated, hkept, remove, requirements, get?, List.eraseIdx_map]
  · next hplace =>
      have hend : c.toList.length ≤ place := by
        simpa [annotated, requirements] using hplace
      simp [annotated, remove, get?, List.eraseIdx_of_length_le hend, hend]

theorem edit_annotated (c : Conditions) (e : Edit) :
    c.annotated.edit e = ((c.edit e).1, (c.edit e).2.annotated) := by
  cases e with
  | push r => exact congrArg (Prod.mk none) (c.push_annotated r)
  | remove place => exact c.remove_annotated place

theorem read_annotated (c : Conditions) (entry : Requirement.Entry) :
    c.annotated.read rs entry c.size = annotated ⟨c.toList ++ [conditionOf rs entry]⟩ := by
  unfold Annotated.read
  cases hread : Requirement.ofEntry rs entry with
  | ok r =>
      have hvalid : r.isInvalid = false := (Requirement.of_ofEntry hread).1
      simp only [hvalid, Bool.false_eq_true, if_false, conditionOf_of_ok hread]
      exact c.push_annotated r
  | error flaw =>
      have hinvalid : Requirement.invalid.isInvalid = true := rfl
      have hlast : keep c.toList.length entry c.kept = c.kept ++ [(c.toList.length, entry)] := by
        refine keep_last fun first hfirst => ?_
        obtain ⟨member, hmember, -⟩ := mem_kept_iff.1 hfirst
        exact (List.getElem?_eq_some_iff.1 hmember).1
      simp only [hinvalid, if_true, conditionOf_of_error hread]
      simp [annotated, Annotated.push, hlast, kept_append_condition, requirements, size]

theorem ofEntriesKept_annotated (rs : Ruleset) (entries : List Requirement.Entry) :
    Annotated.ofEntriesKept rs entries = (ofEntriesKept rs entries).annotated := by
  -- what has been read so far decides the place of the next entry
  have hread : ∀ (rest : List Requirement.Entry) (c : Conditions),
      (rest.zipIdx c.size).foldl (fun a next => a.read rs next.1 next.2) c.annotated =
        annotated ⟨c.toList ++ rest.map (conditionOf rs)⟩ := by
    intro rest
    induction rest with
    | nil => simp
    | cons entry rest ih =>
        intro c
        have hnext := ih ⟨c.toList ++ [conditionOf rs entry]⟩
        rw [List.zipIdx_cons, List.foldl_cons, read_annotated]
        simpa [size] using hnext
  exact hread entries {}

theorem toEntries_annotated (c : Conditions) (rs : Ruleset) :
    c.annotated.toEntries rs = c.toEntries rs := by
  apply List.ext_getElem?
  intro place
  simp only [Annotated.toEntries, toEntries, annotated, requirements, lookup_kept,
    List.getElem?_map, List.getElem?_zipIdx, Option.map_map]
  cases hmember : c.toList[place]? with
  | none => rfl
  | some member => simp [hmember, entryOf]

/-! ## What is kept is kept for what could not be read -/

def KeepsInvalid (c : Conditions) : Prop :=
  ∀ member ∈ c.toList, member.written.isSome → member.requirement = .invalid

theorem keepsInvalid_ofEntriesKept (rs : Ruleset) (entries : List Requirement.Entry) :
    (ofEntriesKept rs entries).KeepsInvalid := by
  intro member hmember hwritten
  obtain ⟨entry, -, rfl⟩ := List.mem_map.1 hmember
  cases hread : Requirement.ofEntry rs entry with
  | ok r => simp [conditionOf_of_ok hread] at hwritten
  | error flaw => rw [conditionOf_of_error hread]

theorem KeepsInvalid.edit (h : c.KeepsInvalid) (e : Edit) : (c.edit e).2.KeepsInvalid := by
  intro member hmember hwritten
  cases e with
  | push r =>
      rcases List.mem_append.1 hmember with hold | hnew
      · exact h member hold hwritten
      · rw [List.mem_singleton.1 hnew] at hwritten
        cases hwritten
  | remove place => exact h member (List.mem_of_mem_eraseIdx hmember) hwritten

/-- After any additions and removals, in bounds or not, the two parts are the plain list of
conditions: the same requirements, the same ones taken out, the same entries written.  At each
place the entry of the list is kept, if it has one, and then the invalid requirement stands
there. -/
theorem edits_keep_entries (rs : Ruleset) (entries : List Requirement.Entry) (edits : List Edit) :
    let plain := Edit.run edit edits (ofEntriesKept rs entries)
    let parted := Edit.run Annotated.edit edits (Annotated.ofEntriesKept rs entries)
    parted.1 = plain.1 ∧
      parted.2.requirements = plain.2.requirements ∧
      parted.2.toEntries rs = plain.2.toEntries rs ∧
      parted.2.kept.Pairwise (fun first later => first.1 < later.1) ∧
      (∀ place, parted.2.kept.lookup place = plain.2.toList[place]?.bind (·.written)) ∧
      ∀ place entry, (place, entry) ∈ parted.2.kept →
        parted.2.requirements[place]? = some .invalid := by
  intro plain parted
  have hparted : parted = (plain.1, plain.2.annotated) := by
    simp only [parted, ofEntriesKept_annotated]
    exact Edit.run_map edit_annotated edits (ofEntriesKept rs entries)
  have hinvalid : plain.2.KeepsInvalid :=
    Edit.run_invariant (fun _ e h => h.edit e) edits (keepsInvalid_ofEntriesKept rs entries)
  rw [hparted]
  refine ⟨rfl, rfl, toEntries_annotated _ _, pairwise_kept _, lookup_kept _, ?_⟩
  intro place entry hkept
  obtain ⟨member, hmember, hwritten⟩ := mem_kept_iff.1 hkept
  have hrequirement := hinvalid member (List.mem_of_getElem? hmember) (by simp [hwritten])
  simp [annotated, requirements, hmember, hrequirement]

theorem misspelt_moves_up :
    let crown : Requirement.Entry := { kind := "Crown", name := "Iron" }
    let large : Requirement := { fact := .measure .size 16, scope := .city }
    let parted := Edit.run Annotated.edit [.remove 0, .remove 7, .push large]
      (Annotated.ofEntriesKept {} [misspelt, crown])
    parted.1 = [some .invalid, none, none] ∧ (0, crown) ∈ parted.2.kept ∧
      parted.2.requirements[0]? = some .invalid ∧
      parted.2.toEntries {} = [crown, large.toEntry {}] := by
  intro crown large
  dsimp only
  have hmisspelt : Requirement.kindNamed? misspelt.kind = none := by decide +kernel
  have hcrown : Requirement.kindNamed? crown.kind = none := by decide +kernel
  have hread : ofEntriesKept {} [misspelt, crown] = ⟨[
      { requirement := .invalid, written := some misspelt },
      { requirement := .invalid, written := some crown }]⟩ := by
    simp [ofEntriesKept, conditionOf_of_error (Requirement.ofEntry_of_unknown hmisspelt),
      conditionOf_of_error (Requirement.ofEntry_of_unknown hcrown)]
  have hplain : Edit.run edit [.remove 0, .remove 7, .push large]
      (ofEntriesKept {} [misspelt, crown]) =
        ([some .invalid, none, none],
          ⟨[{ requirement := .invalid, written := some crown }, { requirement := large }]⟩) := by
    rw [hread]
    rfl
  obtain ⟨htaken, -, hentries, -, hlookup, hinvalid⟩ :=
    edits_keep_entries {} [misspelt, crown] [.remove 0, .remove 7, .push large]
  rw [hplain] at htaken hentries hlookup
  obtain ⟨before, behind, hparts, -⟩ := List.lookup_eq_some_iff.1 (hlookup 0)
  have hkept := hparts ▸ List.mem_append_right before List.mem_cons_self
  exact ⟨htaken, hkept, hinvalid 0 crown hkept, hentries⟩

end Conditions

end Rulebook
