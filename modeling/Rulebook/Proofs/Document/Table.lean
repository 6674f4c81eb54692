import Mathlib.Data.String.Basic
import Rulebook.Document.Read

/-!
The keys of a table that has been read.

Entries are sorted by their keys, and of neighbours with one key the last is kept,
so the keys ascend and no key is there twice.
-/

namespace Rulebook

namespace Reader

variable {κ α : Type}

/-- The entry is kept with those before it, which are stored last one first; it takes the place of
one with its key. -/
def keepLast [BEq κ] (kept : List (κ × α)) (e : κ × α) : List (κ × α) :=
  match kept with
  | k :: rest => if k.1 == e.1 then e :: rest else e :: kept
  | [] => [e]

theorem lastOfEach_eq [BEq κ] (entries : List (κ × α)) :
    table.lastOfEach entries = (entries.foldl keepLast []).reverse := rfl

theorem eq_or_mem_of_mem_keepLast [BEq κ] {kept : List (κ × α)} {e k : κ × α}
    (h : k ∈ keepLast kept e) : k = e ∨ k ∈ kept := by
  unfold keepLast at h
  split at h
  · split at h
    · exact (List.mem_cons.1 h).imp_right (List.mem_cons_of_mem _)
    · exact List.mem_cons.1 h
  · exact .inl (List.mem_singleton.1 h)

variable [LinearOrder κ]

theorem pairwise_keepLast {kept : List (κ × α)} {e : κ × α}
    (hkept : (kept.map Prod.fst).Pairwise (· > ·)) (hle : ∀ k ∈ kept, k.1 ≤ e.1) :
    ((keepLast kept e).map Prod.fst).Pairwise (· > ·) := by
  cases kept with
  | nil => exact List.pairwise_singleton _ _
  | cons k rest =>
      obtain ⟨hgreatest, hdescending⟩ := List.pairwise_cons.1 hkept
      rw [keepLast]
      split
      · next heq =>
          rw [beq_iff_eq] at heq
          exact List.pairwise_cons.2 ⟨heq ▸ hgreatest, hdescending⟩
      · next hne =>
          have hlt : k.1 < e.1 := lt_of_le_of_ne (hle k List.mem_cons_self) (by simpa using hne)
          refine List.pairwise_cons.2 ⟨List.forall_mem_cons.2 ⟨hlt, ?_⟩, hkept⟩
          exact fun key hkey => lt_trans (hgreatest key hkey) hlt

theorem pairwise_foldl_keepLast {entries kept : List (κ × α)}
    (hentries : (entries.map Prod.fst).Pairwise (· ≤ ·))
    (hkept : (kept.map Prod.fst).Pairwise (· > ·))
    (hle : ∀ k ∈ kept, ∀ e ∈ entries, k.1 ≤ e.1) :
    ((entries.foldl keepLast kept).map Prod.fst).Pairwise (· > ·) := by
  induction entries generalizing kept with
  | nil => exact hkept
  | cons e entries ih =>
      obtain ⟨hleast, hsorted⟩ := List.pairwise_cons.1 hentries
      refine ih hsorted (pairwise_keepLast hkept fun k hk => hle k hk e List.mem_cons_self) ?_
      intro k hk later hlater
      rcases eq_or_mem_of_mem_keepLast hk with rfl | hk
      · exact hleast later.1 (List.mem_map_of_mem hlater)
      · exact hle k hk later (List.mem_cons_of_mem _ hlater)

theorem pairwise_lastOfEach {entries : List (κ × α)}
    (h : (entries.map Prod.fst).Pairwise (· ≤ ·)) :
    ((table.lastOfEach entries).map Prod.fst).Pairwise (· < ·) := by
  rw [lastOfEach_eq, List.map_reverse, List.pairwise_reverse]
  exact pairwise_foldl_keepLast h List.Pairwise.nil (by simp)

theorem lastOfEach_of_pairwise {entries : List (κ × α)}
    (h : (entries.map Prod.fst).Pairwise (· < ·)) : table.lastOfEach entries = entries := by
  have hall : ∀ kept : List (κ × α), (∀ k ∈ kept, ∀ e ∈ entries, k.1 < e.1) →
      entries.foldl keepLast kept = entries.reverse ++ kept := by
    induction entries with
    | nil => exact fun _ _ => rfl
    | cons e entries ih =>
        obtain ⟨hleast, hsorted⟩ := List.pairwise_cons.1 h
        intro kept hkept
        have hstep : keepLast kept e = e :: kept := by
          cases kept with
          | nil => rfl
          | cons k rest =>
              have hne := (hkept k List.mem_cons_self e List.mem_cons_self).ne
              simp [keepLast, hne]
        rw [List.foldl_cons, hstep, ih hsorted, List.reverse_cons, List.append_assoc]
        · rfl
        · refine List.forall_mem_cons.2 ⟨?_, fun k hk later hlater => ?_⟩
          · exact fun later hlater => hleast later.1 (List.mem_map_of_mem hlater)
          · exact hkept k hk later (List.mem_cons_of_mem _ hlater)
  rw [lastOfEach_eq, hall [] (by simp), List.append_nil, List.reverse_reverse]

/-! ## Tables -/

def written (key : Reader κ) (value : Reader α) : Reader (List (κ × α))
  | .mapping entries => entries.mapM fun (k, v) => do return (← key k, ← value v)
  | .plain "" => some []
  | _ => none

variable {key : Reader κ} {value : Reader α} {le : κ → κ → Bool} {node : Node}
  {entries : List (κ × α)}

theorem table_eq (le : κ → κ → Bool) (key : Reader κ) (value : Reader α) (node : Node) :
    table le key value node = (written key value node).map fun entries =>
      table.lastOfEach (entries.mergeSort fun a b => le a.1 b.1) := by
  unfold table
  split
  · exact bind_pure_comp _ _
  · rw [written, Option.map_some, List.mergeSort_nil]
    rfl
  · next hmapping hblank =>
      rw [written, Option.map_none]
      · exact hmapping
      · exact hblank

theorem pairwise_table (hle : ∀ a b, le a b = true ↔ a ≤ b)
    (h : table le key value node = some entries) : (entries.map Prod.fst).Pairwise (· < ·) := by
  rw [table_eq] at h
  obtain ⟨read, -, rfl⟩ := Option.map_eq_some_iff.1 h
  refine pairwise_lastOfEach (List.pairwise_map.2 ?_)
  refine (List.pairwise_mergeSort ?_ ?_ read).imp fun hab => (hle _ _).1 hab
  · intro a b c hab hbc
    exact (hle _ _).2 (((hle _ _).1 hab).trans ((hle _ _).1 hbc))
  · intro a b
    simpa [hle] using le_total a.1 b.1

/-- A table that is written in ascending order is read as it stands. -/
theorem table_of_written (hle : ∀ a b, le a b = true ↔ a ≤ b)
    (h : written key value node = some entries)
    (hascends : (entries.map Prod.fst).Pairwise (· < ·)) :
    table le key value node = some entries := by
  have hsorted : entries.mergeSort (fun a b => le a.1 b.1) = entries :=
    List.mergeSort_of_pairwise ((List.pairwise_map.1 hascends).imp fun hab => (hle _ _).2 hab.le)
  rw [table_eq, h, Option.map_some, hsorted, lastOfEach_of_pairwise hascends]

theorem textLe_iff (a b : String) : (!decide (b < a)) = true ↔ a ≤ b := by
  rw [Bool.not_eq_true', decide_eq_false_iff_not, not_lt]

theorem pairwise_named {value : Reader α} {node : Node} {entries : List (String × α)}
    (h : named value node = some entries) : (entries.map Prod.fst).Pairwise (· < ·) :=
  pairwise_table textLe_iff h

end Reader

end Rulebook
