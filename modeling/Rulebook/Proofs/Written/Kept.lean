import Mathlib.Data.List.Basic
import Rulebook.Requirement.Annotated

/-!
The entries that conditions keep, by the places of their requirements.

What was written for a requirement stands with it in the conditions; listed by
place, the kept entries are those of an ascending table from which removals close
the gap.
-/

namespace Rulebook

namespace Conditions

variable {c : Conditions}

def kept (c : Conditions) : List (Nat × Requirement.Entry) :=
  c.toList.zipIdx.filterMap fun (member, place) => member.written.map fun entry => (place, entry)

def openGap (kept : List (Nat × Requirement.Entry)) : List (Nat × Requirement.Entry) :=
  kept.map fun (place, entry) => (place + 1, entry)

theorem kept_cons (member : Condition) (rest : List Condition) :
    kept ⟨member :: rest⟩ =
      (member.written.map fun entry => (0, entry)).toList ++ openGap (kept ⟨rest⟩) := by
  unfold kept openGap
  rw [List.zipIdx_cons', List.filterMap_cons, List.filterMap_map, List.map_filterMap]
  cases hwritten : member.written <;> simp [hwritten, Function.comp_def]

theorem closeGap_zero_openGap (kept : List (Nat × Requirement.Entry)) :
    closeGap 0 (openGap kept) = kept := by
  simp [closeGap, openGap, List.filterMap_map]

theorem closeGap_succ_openGap (i : Nat) (kept : List (Nat × Requirement.Entry)) :
    closeGap (i + 1) (openGap kept) = openGap (closeGap i kept) := by
  unfold closeGap openGap
  rw [List.filterMap_map, List.map_filterMap]
  refine List.filterMap_congr fun entry _ => ?_
  rcases Nat.lt_trichotomy entry.1 i with hlt | rfl | hgt
  · simp [Nat.ne_of_lt hlt, Nat.lt_asymm hlt]
  · simp
  · have hmoved : entry.1 - 1 + 1 = entry.1 := by omega
    simp [Nat.ne_of_gt hgt, hgt, hmoved]

theorem kept_push (c : Conditions) (r : Requirement) : (c.push r).kept = c.kept := by
  simp [kept, push, List.zipIdx_append]

theorem kept_remove (c : Conditions) (i : Nat) : (c.remove i).2.kept = closeGap i c.kept := by
  obtain ⟨members⟩ := c
  simp only [remove]
  induction members generalizing i with
  | nil => rfl
  | cons member rest ih =>
      rw [kept_cons, closeGap, List.filterMap_append, ← closeGap, ← closeGap]
      cases i with
      | zero =>
          rw [List.eraseIdx_cons_zero, closeGap_zero_openGap]
          cases member.written <;> rfl
      | succ i =>
          rw [List.eraseIdx_cons_succ, kept_cons, ih, closeGap_succ_openGap]
          cases member.written <;> rfl

/-! ## What is found at a place -/

theorem lookup_openGap_zero (kept : List (Nat × Requirement.Entry)) :
    (openGap kept).lookup 0 = none := by
  induction kept with
  | nil => rfl
  | cons first rest ih =>
      rw [openGap, List.map_cons, ← openGap, List.lookup_cons, ih]
      simp

theorem lookup_openGap_succ (place : Nat) (kept : List (Nat × Requirement.Entry)) :
    (openGap kept).lookup (place + 1) = kept.lookup place := by
  induction kept with
  | nil => rfl
  | cons first rest ih =>
      rw [openGap, List.map_cons, ← openGap, List.lookup_cons, List.lookup_cons, ih]
      simp

theorem lookup_kept (c : Conditions) (place : Nat) :
    c.kept.lookup place = c.toList[place]?.bind (·.written) := by
  obtain ⟨members⟩ := c
  induction members generalizing place with
  | nil => rfl
  | cons member rest ih =>
      rw [kept_cons, List.lookup_append]
      cases place with
      | zero =>
          rw [lookup_openGap_zero, Option.or_none]
          cases hwritten : member.written <;> simp [hwritten]
      | succ place =>
          rw [lookup_openGap_succ, ih]
          cases member.written <;> simp [List.lookup_cons]

theorem mem_kept_iff {place : Nat} {entry : Requirement.Entry} :
    (place, entry) ∈ c.kept ↔
      ∃ member, c.toList[place]? = some member ∧ member.written = some entry := by
  simp [kept, List.mem_filterMap, List.mk_mem_zipIdx_iff_getElem?]

theorem kept_append_condition (members : List Condition) (member : Condition) :
    kept ⟨members ++ [member]⟩ =
      kept ⟨members⟩ ++ (member.written.map fun entry => (members.length, entry)).toList := by
  simp only [kept, List.zipIdx_append, List.filterMap_append]
  cases hwritten : member.written <;> simp [hwritten]

theorem pairwise_kept (c : Conditions) : c.kept.Pairwise fun first later => first.1 < later.1 := by
  obtain ⟨members⟩ := c
  induction members with
  | nil => exact .nil
  | cons member rest ih =>
      have hrest : (openGap (kept ⟨rest⟩)).Pairwise fun first later => first.1 < later.1 :=
        List.pairwise_map.2 (ih.imp Nat.succ_lt_succ)
      have hlater : ∀ later ∈ openGap (kept ⟨rest⟩), 0 < later.1 := by
        intro later hmem
        obtain ⟨_, -, rfl⟩ := List.mem_map.1 hmem
        exact Nat.succ_pos _
      rw [kept_cons]
      cases member.written with
      | none => exact hrest
      | some entry => exact List.pairwise_cons.2 ⟨hlater, hrest⟩

theorem keep_last {place : Nat} {entry : Requirement.Entry} {kept : List (Nat × Requirement.Entry)}
    (h : ∀ first ∈ kept, first.1 < place) : keep place entry kept = kept ++ [(place, entry)] := by
  induction kept with
  | nil => rfl
  | cons first rest ih =>
      have hfirst := h first List.mem_cons_self
      rw [keep, if_neg (Nat.lt_asymm hfirst), if_neg (Nat.ne_of_gt hfirst),
        ih fun later hlater => h later (List.mem_cons_of_mem first hlater), List.cons_append]

end Conditions

end Rulebook
