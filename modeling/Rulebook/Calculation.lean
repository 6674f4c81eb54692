/-!
Calculations in machine words.

Numbers are kept in signed words of 32 bits.  A calculation says which results go
into words; what becomes of a result that no word holds is up to the program that
carries it out.  One goes on with what is left of the result modulo 2 ^ 32, another
checks its results and stops.  Where the second does not stop, both come to the
same end.
-/

namespace Rulebook

def IsWord (n : Int) : Prop := -2147483648 ≤ n ∧ n < 2147483648

instance : DecidablePred IsWord := fun _ => inferInstanceAs (Decidable (_ ∧ _))

def toWord (n : Int) : Int := n.bmod 4294967296

theorem toWord_of_isWord {n : Int} (h : IsWord n) : toWord n = n :=
  Int.bmod_eq_of_le h.1 h.2

theorem toWord_natCast {n : Nat} (h : n < 2147483648) : toWord n = n :=
  toWord_of_isWord ⟨by omega, by omega⟩

inductive Calculation (α : Type) where
  | done (value : α)
  /-- A result goes into a word, from which the calculation goes on. -/
  | keep (result : Int) (next : Int → Calculation α)

namespace Calculation

variable {α β : Type}

def bind (c : Calculation α) (f : α → Calculation β) : Calculation β :=
  match c with
  | done a => f a
  | keep n next => keep n fun word => (next word).bind f

instance : Monad Calculation where
  pure := done
  bind := bind

theorem bind_done (c : Calculation α) : c.bind done = c := by
  induction c with
  | done a => rfl
  | keep n next ih => exact congrArg (keep n) (funext ih)

theorem bind_bind {γ : Type} (c : Calculation α) (f : α → Calculation β)
    (f' : β → Calculation γ) : (c.bind f).bind f' = c.bind fun a => (f a).bind f' := by
  induction c with
  | done a => rfl
  | keep n next ih => exact congrArg (keep n) (funext ih)

instance : LawfulMonad Calculation :=
  LawfulMonad.mk' Calculation bind_done (fun _ _ => rfl) bind_bind

/-! ## Both ways to carry it out -/

def modular : Calculation α → α
  | done a => a
  | keep n next => (next (toWord n)).modular

/-- The outcome if results are checked; none if one of them is not a word. -/
def checked : Calculation α → Option α
  | done a => some a
  | keep n next => if IsWord n then (next n).checked else none

theorem modular_of_checked {c : Calculation α} {a : α} (h : c.checked = some a) :
    c.modular = a := by
  induction c with
  | done b => exact Option.some.inj h
  | keep n next ih =>
      unfold checked at h
      split at h
      · next hword =>
          unfold modular
          rw [toWord_of_isWord hword]
          exact ih n h
      · cases h

@[simp] theorem modular_pure (a : α) : (pure a : Calculation α).modular = a := rfl

@[simp] theorem checked_pure (a : α) : (pure a : Calculation α).checked = some a := rfl

@[simp] theorem modular_bind (c : Calculation α) (f : α → Calculation β) :
    (c >>= f).modular = (f c.modular).modular := by
  induction c with
  | done a => rfl
  | keep n next ih => exact ih _

@[simp] theorem checked_bind (c : Calculation α) (f : α → Calculation β) :
    (c >>= f).checked = c.checked.bind fun a => (f a).checked := by
  induction c with
  | done a => rfl
  | keep n next ih =>
      change (if IsWord n then (next n >>= f).checked else none) =
        (if IsWord n then (next n).checked else none).bind _
      split
      · exact ih n
      · rfl

theorem checked_bind_of {c : Calculation α} {a : α} (h : c.checked = some a)
    (f : α → Calculation β) : (c >>= f).checked = (f a).checked := by
  rw [checked_bind, h, Option.bind_some]

/-- No result leaves the words: whoever checks them comes to the end all the same. -/
def Exact (c : Calculation α) : Prop := c.checked = some c.modular

theorem Exact.of_checked {c : Calculation α} {a : α} (h : c.checked = some a) : c.Exact := by
  rw [Exact, h, modular_of_checked h]

theorem exact_pure (a : α) : (pure a : Calculation α).Exact := rfl

theorem Exact.bind {c : Calculation α} {f : α → Calculation β} (h : c.Exact)
    (hf : (f c.modular).Exact) : (c >>= f).Exact := by
  rw [Exact, checked_bind_of h, hf, modular_bind]

theorem Exact.ite {p : Prop} [Decidable p] {c c' : Calculation α} (h : p → c.Exact)
    (h' : ¬ p → c'.Exact) : (if p then c else c').Exact := by
  split
  · next hp => exact h hp
  · next hp => exact h' hp

/-! ## Results -/

def word (n : Int) : Calculation Int := keep n done

def gap (a b : Int) : Calculation Int := do
  let difference ← word (a - b)
  word difference.natAbs

def sum (numbers : List Int) : Calculation Int :=
  numbers.foldlM (fun total n => word (total + n)) 0

@[simp] theorem modular_word (n : Int) : (word n).modular = toWord n := rfl

theorem checked_word {n : Int} (h : IsWord n) : (word n).checked = some n := if_pos h

theorem checked_word_bind_of_not {n : Int} (h : ¬ IsWord n) (f : Int → Calculation β) :
    (word n >>= f).checked = none := by
  have hstops : (word n).checked = none := if_neg h
  rw [checked_bind, hstops, Option.bind_none]

theorem checked_gap {a b : Int} (h : (a - b).natAbs < 2147483648) :
    (gap a b).checked = some ((a - b).natAbs : Int) := by
  have hdifference : IsWord (a - b) := ⟨by omega, by omega⟩
  rw [gap, checked_bind_of (checked_word hdifference)]
  exact checked_word ⟨by omega, by omega⟩

/-! ## Lists -/

theorem modular_filterMapM (f : α → Calculation (Option β)) (l : List α) :
    (l.filterMapM f).modular = l.filterMap fun a => (f a).modular := by
  induction l with
  | nil => rfl
  | cons a l ih =>
      rw [List.filterMapM_cons, modular_bind, List.filterMap_cons]
      cases (f a).modular with
      | none => exact ih
      | some b => rw [modular_bind, ih]; rfl

theorem checked_filterMapM {f : α → Calculation (Option β)} {f' : α → Option β} {l : List α}
    (h : ∀ a ∈ l, (f a).checked = some (f' a)) :
    (l.filterMapM f).checked = some (l.filterMap f') := by
  induction l with
  | nil => rfl
  | cons a l ih =>
      have hrest := ih fun b hb => h b (List.mem_cons_of_mem a hb)
      rw [List.filterMapM_cons, checked_bind_of (h a List.mem_cons_self), List.filterMap_cons]
      cases f' a with
      | none => exact hrest
      | some b => rw [checked_bind_of hrest, checked_pure]

theorem modular_anyM (f : α → Calculation Bool) (l : List α) :
    (l.anyM f).modular = l.any fun a => (f a).modular := by
  induction l with
  | nil => rfl
  | cons a l ih =>
      rw [List.anyM_cons, modular_bind, List.any_cons]
      cases (f a).modular with
      | false => exact ih
      | true => rfl

theorem exact_anyM {f : α → Calculation Bool} {l : List α} (h : ∀ a ∈ l, (f a).Exact) :
    (l.anyM f).Exact := by
  induction l with
  | nil => exact exact_pure false
  | cons a l ih =>
      rw [List.anyM_cons]
      refine (h a List.mem_cons_self).bind ?_
      cases (f a).modular with
      | false => exact ih fun b hb => h b (List.mem_cons_of_mem a hb)
      | true => exact exact_pure true

end Calculation

end Rulebook
