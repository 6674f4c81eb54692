import Rulebook.Proofs.Repair.Compliance

/-!
Groups of actions are what their members make of them, one after the other.

Adding the members of nonempty groups in their order builds the same groups
again: each member goes to the last group, or opens the next one.  What holds of
every member that is added holds of all members.
-/

namespace Rulebook

/-! ## Folds that may fail -/

section

variable {σ α ε : Type} {f : σ → α → Except ε σ} {as : List α} {s s' : σ}

theorem foldlM_eq_ok_foldl {g : σ → α → σ} (h : ∀ s, ∀ a ∈ as, f s a = .ok (g s a)) (s : σ) :
    as.foldlM f s = .ok (as.foldl g s) := by
  induction as generalizing s with
  | nil => rfl
  | cons a rest ih =>
      rw [List.foldlM_cons, h s a List.mem_cons_self]
      exact ih (fun s a ha => h s a (List.mem_cons_of_mem _ ha)) (g s a)

theorem foldlM_invariant {P : σ → Prop} (hstep : ∀ s a s', P s → f s a = .ok s' → P s')
    (hs : P s) (h : as.foldlM f s = .ok s') : P s' := by
  induction as generalizing s with
  | nil =>
      cases h
      exact hs
  | cons a rest ih =>
      rw [List.foldlM_cons] at h
      cases hfirst : f s a with
      | error flaw =>
          rw [hfirst] at h
          contradiction
      | ok middle =>
          rw [hfirst] at h
          exact ih (hstep s a middle hs hfirst) h

end

namespace ByAction

variable {α : Type} {action : Ref Action} {a : α} {groups : List (Ref Action × List α)}
  {P : Ref Action → α → Prop} {t : ByAction α}

/-! ## Members in their order -/

def pairs (t : ByAction α) : List (Ref Action × α) :=
  t.groups.flatMap fun (action, members) => members.map (action, ·)

def addAll (t : ByAction α) (added : List (Ref Action × α)) : ByAction α :=
  added.foldl (fun t x => t.add x.1 x.2) t

theorem groups_addAll (t : ByAction α) (added : List (Ref Action × α)) :
    (t.addAll added).groups = added.foldl (fun groups x => insert x.1 x.2 groups) t.groups := by
  induction added generalizing t with
  | nil => rfl
  | cons x rest ih => exact ih (t.add x.1 x.2)

theorem insert_above (h : ∀ g ∈ groups, g.1.toNat < action.toNat) :
    insert action a groups = groups ++ [(action, [a])] := by
  induction groups with
  | nil => rfl
  | cons g rest ih =>
      have hlt : g.1.toNat < action.toNat := h g List.mem_cons_self
      have hne : action ≠ g.1 := by
        rintro rfl
        exact Nat.lt_irrefl _ hlt
      rw [insert, if_neg (Nat.lt_asymm hlt), if_neg hne,
        ih fun g hg => h g (List.mem_cons_of_mem _ hg)]
      rfl

theorem insert_last {members : List α} (h : ∀ g ∈ groups, g.1.toNat < action.toNat) :
    insert action a (groups ++ [(action, members)]) = groups ++ [(action, members ++ [a])] := by
  induction groups with
  | nil => simp [insert]
  | cons g rest ih =>
      have hlt : g.1.toNat < action.toNat := h g List.mem_cons_self
      have hne : action ≠ g.1 := by
        rintro rfl
        exact Nat.lt_irrefl _ hlt
      rw [List.cons_append, insert, if_neg (Nat.lt_asymm hlt), if_neg hne,
        ih fun g hg => h g (List.mem_cons_of_mem _ hg)]
      rfl

theorem foldl_insert_members (h : ∀ g ∈ groups, g.1.toNat < action.toNat)
    (members more : List α) :
    more.foldl (fun groups a => insert action a groups) (groups ++ [(action, members)]) =
      groups ++ [(action, members ++ more)] := by
  induction more generalizing members with
  | nil => simp
  | cons a rest ih =>
      rw [List.foldl_cons, insert_last h, ih, List.append_assoc]
      rfl

theorem foldl_insert_group (h : ∀ g ∈ groups, g.1.toNat < action.toNat) {members : List α}
    (hmembers : members ≠ []) :
    members.foldl (fun groups a => insert action a groups) groups =
      groups ++ [(action, members)] := by
  obtain ⟨a, rest, rfl⟩ := List.exists_cons_of_ne_nil hmembers
  rw [List.foldl_cons, insert_above h, foldl_insert_members h]
  rfl

theorem foldl_insert_groups {before : List (Ref Action × List α)}
    (hascending : (before ++ groups).Pairwise fun a b => a.1.toNat < b.1.toNat)
    (hmembers : ∀ g ∈ groups, g.2 ≠ []) :
    groups.foldl (fun groups g => g.2.foldl (fun groups a => insert g.1 a groups) groups) before =
      before ++ groups := by
  induction groups generalizing before with
  | nil => simp
  | cons g rest ih =>
      have hbelow : ∀ b ∈ before, b.1.toNat < g.1.toNat := fun b hb =>
        (List.pairwise_append.1 hascending).2.2 b hb g List.mem_cons_self
      rw [List.append_cons] at hascending
      rw [List.foldl_cons, foldl_insert_group hbelow (hmembers g List.mem_cons_self),
        ih hascending fun g hg => hmembers g (List.mem_cons_of_mem _ hg), List.append_assoc]
      rfl

theorem addAll_pairs (h : ∀ g ∈ t.groups, g.2 ≠ []) : empty.addAll t.pairs = t := by
  apply eq_of_groups
  rw [groups_addAll, pairs, List.foldl_flatMap]
  simp only [List.foldl_map]
  exact foldl_insert_groups t.ascending h

/-! ## What holds of all members -/

def Holds (P : Ref Action → α → Prop) (t : ByAction α) : Prop :=
  ∀ g ∈ t.groups, g.2 ≠ [] ∧ ∀ a ∈ g.2, P g.1 a

theorem holds_empty : (empty : ByAction α).Holds P := by
  intro g hg
  cases hg

theorem forall_insert (ha : P action a) (h : ∀ g ∈ groups, g.2 ≠ [] ∧ ∀ a ∈ g.2, P g.1 a) :
    ∀ g ∈ insert action a groups, g.2 ≠ [] ∧ ∀ a ∈ g.2, P g.1 a := by
  have hnew : ∀ b ∈ [a], P action b := by
    intro b hb
    rwa [List.mem_singleton.1 hb]
  induction groups with
  | nil =>
      intro g hg
      rw [List.mem_singleton.1 hg]
      exact ⟨List.cons_ne_nil _ _, hnew⟩
  | cons head rest ih =>
      obtain ⟨hhead, hrest⟩ := List.forall_mem_cons.1 h
      unfold insert
      split
      · exact List.forall_mem_cons.2 ⟨⟨List.cons_ne_nil _ _, hnew⟩, h⟩
      · split
        · next hkey =>
            subst hkey
            have hmembers := List.forall_mem_append.2 ⟨hhead.2, hnew⟩
            exact List.forall_mem_cons.2 ⟨⟨by simp, hmembers⟩, hrest⟩
        · exact List.forall_mem_cons.2 ⟨hhead, ih hrest⟩

theorem Holds.add (h : t.Holds P) (ha : P action a) : (t.add action a).Holds P :=
  forall_insert ha h

theorem Holds.addAll {added : List (Ref Action × α)} (h : t.Holds P)
    (hadded : ∀ x ∈ added, P x.1 x.2) : (t.addAll added).Holds P := by
  induction added generalizing t with
  | nil => exact h
  | cons x rest ih =>
      obtain ⟨hx, hrest⟩ := List.forall_mem_cons.1 hadded
      exact ih (h.add hx) hrest

theorem Holds.forAction (h : t.Holds P) (ha : a ∈ t.forAction action) : P action a := by
  unfold ByAction.forAction at ha
  cases hlookup : t.groups.lookup action with
  | none =>
      rw [hlookup] at ha
      cases ha
  | some members =>
      rw [hlookup] at ha
      obtain ⟨before, after, hgroups, -⟩ := List.lookup_eq_some_iff.1 hlookup
      have hmem : (action, members) ∈ t.groups := by simp [hgroups]
      exact (h _ hmem).2 a ha

theorem Holds.pairs (h : t.Holds P) : ∀ x ∈ t.pairs, P x.1 x.2 := by
  intro x hx
  obtain ⟨g, hg, hx⟩ := List.mem_flatMap.1 hx
  obtain ⟨a, ha, rfl⟩ := List.mem_map.1 hx
  exact (h g hg).2 a ha

end ByAction

end Rulebook
