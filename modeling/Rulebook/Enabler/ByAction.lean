import Rulebook.Ruleset.Entry

/-!
Things that belong to actions: for each action a nonempty list in the order in
which its members were added, and the actions in the order of the ruleset.
-/

namespace Rulebook

/-- Lists under their actions, each action once and in ascending order. -/
structure ByAction (α : Type) where
  groups : List (Ref Action × List α)
  ascending : groups.Pairwise (fun a b => a.1.toNat < b.1.toNat)

namespace ByAction

variable {α β : Type}

def empty : ByAction α := ⟨[], .nil⟩

def actions (t : ByAction α) : List (Ref Action) := t.groups.map (·.1)

def forAction (t : ByAction α) (action : Ref Action) : List α :=
  (t.groups.lookup action).getD []

def toList (t : ByAction α) : List α := t.groups.flatMap (·.2)

def size (t : ByAction α) : Nat := t.toList.length

def isEmpty (t : ByAction α) : Bool := t.groups.isEmpty

def insert (action : Ref Action) (a : α) :
    List (Ref Action × List α) → List (Ref Action × List α)
  | [] => [(action, [a])]
  | (k, members) :: rest =>
      if action.toNat < k.toNat then (action, [a]) :: (k, members) :: rest
      else if action = k then (k, members ++ [a]) :: rest
      else (k, members) :: insert action a rest

theorem action_of_mem_insert {action : Ref Action} {a : α} {groups : List (Ref Action × List α)}
    {g : Ref Action × List α} (h : g ∈ insert action a groups) :
    g.1 = action ∨ ∃ old ∈ groups, old.1 = g.1 := by
  induction groups with
  | nil => simp only [insert, List.mem_singleton] at h; exact .inl (by rw [h])
  | cons head rest ih =>
      obtain ⟨k, members⟩ := head
      simp only [insert] at h
      split at h
      · rcases List.mem_cons.1 h with rfl | h
        · exact .inl rfl
        · exact .inr ⟨g, h, rfl⟩
      · split at h
        · rcases List.mem_cons.1 h with rfl | h
          · exact .inr ⟨(k, members), List.mem_cons_self, rfl⟩
          · exact .inr ⟨g, List.mem_cons_of_mem _ h, rfl⟩
        · rcases List.mem_cons.1 h with rfl | h
          · exact .inr ⟨_, List.mem_cons_self, rfl⟩
          · rcases ih h with h | ⟨old, hmem, heq⟩
            · exact .inl h
            · exact .inr ⟨old, List.mem_cons_of_mem _ hmem, heq⟩

theorem pairwise_insert (action : Ref Action) (a : α) {groups : List (Ref Action × List α)}
    (h : groups.Pairwise (fun a b => a.1.toNat < b.1.toNat)) :
    (insert action a groups).Pairwise (fun a b => a.1.toNat < b.1.toNat) := by
  induction groups with
  | nil => exact List.pairwise_singleton _ _
  | cons head rest ih =>
      obtain ⟨k, members⟩ := head
      obtain ⟨below, hrest⟩ := List.pairwise_cons.1 h
      simp only [insert]
      split
      · next lt =>
          refine List.pairwise_cons.2 ⟨fun g hg => ?_, h⟩
          rcases List.mem_cons.1 hg with rfl | hg
          · exact lt
          · exact Nat.lt_trans lt (below g hg)
      · next notLt =>
          split
          · exact List.pairwise_cons.2 ⟨below, hrest⟩
          · next ne =>
              refine List.pairwise_cons.2 ⟨fun g hg => ?_, ih hrest⟩
              rcases action_of_mem_insert hg with hg | ⟨old, hmem, heq⟩
              · have : action.toNat ≠ k.toNat := fun h => ne (Ref.toNat_inj.1 h)
                rw [hg]
                exact Nat.lt_of_le_of_ne (Nat.le_of_not_lt notLt) (Ne.symm this)
              · rw [← heq]
                exact below old hmem

def add (t : ByAction α) (action : Ref Action) (a : α) : ByAction α where
  groups := insert action a t.groups
  ascending := pairwise_insert action a t.ascending

def map (f : Ref Action → List α → List β) (t : ByAction α) : ByAction β where
  groups := t.groups.map fun (action, members) => (action, f action members)
  ascending := List.pairwise_map.2 t.ascending

end ByAction

end Rulebook
