import Mathlib.Order.Bounds.Defs
import Rulebook.Map.Hex

/-!
Walks over hexes.

Each of the six directions changes two of the three coordinates by one, so a step
brings nobody nearer by more than one, and neither does a walk by more than its
length.  Whoever is not there yet can take a step towards the place.  So the
distance is the length of the shortest walks.
-/

namespace Rulebook

namespace Hex

variable {a b d : Hex} {n : Nat} {steps : List Hex}

def walk (a : Hex) (steps : List Hex) : Hex := steps.foldl add a

@[simp] theorem walk_nil (a : Hex) : a.walk [] = a := rfl

@[simp] theorem walk_cons (a d : Hex) (steps : List Hex) :
    a.walk (d :: steps) = (a.add d).walk steps := rfl

def WalksTo (a b : Hex) (n : Nat) : Prop :=
  ∃ steps : List Hex, steps.length = n ∧ (∀ d ∈ steps, d ∈ directions) ∧ a.walk steps = b

/-! ## The distance without its half -/

theorem two_mul_distance (a b : Hex) :
    2 * a.distance b = (a.q - b.q).natAbs + (a.r - b.r).natAbs + (a.s - b.s).natAbs := by
  unfold distance s
  omega

theorem distance_self (a : Hex) : a.distance a = 0 := by
  simp [distance]

theorem eq_of_distance_eq_zero (h : a.distance b = 0) : a = b := by
  have hsum := two_mul_distance a b
  obtain ⟨q, r⟩ := a
  obtain ⟨q', r'⟩ := b
  rw [mk.injEq]
  dsimp only at hsum
  omega

theorem natAbs_of_mem_directions (hd : d ∈ directions) :
    d.q.natAbs + d.r.natAbs + d.s.natAbs = 2 := by
  have hall : ∀ d ∈ directions, d.q.natAbs + d.r.natAbs + d.s.natAbs = 2 := by decide
  exact hall d hd

/-! ## No walk is shorter -/

theorem distance_le_add (hd : d ∈ directions) (a b : Hex) :
    a.distance b ≤ (a.add d).distance b + 1 := by
  have hstep := natAbs_of_mem_directions hd
  have hbefore := two_mul_distance a b
  have hafter := two_mul_distance (a.add d) b
  simp only [add, s] at *
  omega

theorem distance_le_walk (hsteps : ∀ d ∈ steps, d ∈ directions) (a b : Hex) :
    a.distance b ≤ (a.walk steps).distance b + steps.length := by
  induction steps generalizing a with
  | nil => exact Nat.le_refl _
  | cons d steps ih =>
      obtain ⟨hd, hrest⟩ := List.forall_mem_cons.1 hsteps
      calc
        a.distance b ≤ (a.add d).distance b + 1 := distance_le_add hd a b
        _ ≤ (a.walk (d :: steps)).distance b + steps.length + 1 :=
          Nat.succ_le_succ (ih hrest (a.add d))

/-! ## A walk of that length -/

/-- A direction that brings two of the three coordinates nearer to those of another hex. -/
def toward (a b : Hex) : Hex :=
  if a.q < b.q then if b.r < a.r then ⟨1, -1⟩ else ⟨1, 0⟩
  else if b.q < a.q then if a.r < b.r then ⟨-1, 1⟩ else ⟨-1, 0⟩
  else if a.r < b.r then ⟨0, 1⟩ else ⟨0, -1⟩

theorem toward_mem_directions (a b : Hex) : toward a b ∈ directions := by
  unfold toward
  repeat' split
  all_goals decide

theorem distance_add_toward (h : a.distance b = n + 1) :
    (a.add (toward a b)).distance b = n := by
  have hbefore := two_mul_distance a b
  have hafter := two_mul_distance (a.add (toward a b)) b
  revert hafter
  unfold toward
  -- one case for each sextant, where the step takes one off the sizes of two differences
  repeat' split
  all_goals
    simp only [add, s] at *
    omega

theorem walksTo_of_distance_eq (h : a.distance b = n) : a.WalksTo b n := by
  induction n generalizing a with
  | zero => exact ⟨[], rfl, by simp, eq_of_distance_eq_zero h⟩
  | succ n ih =>
      obtain ⟨steps, hlength, hsteps, hend⟩ := ih (distance_add_toward h)
      refine ⟨toward a b :: steps, by rw [List.length_cons, hlength], ?_, hend⟩
      exact List.forall_mem_cons.2 ⟨toward_mem_directions a b, hsteps⟩

/-- The distance of two hexes is the least number of steps from one to the other. -/
theorem distance_isLeast (a b : Hex) : IsLeast {n | a.WalksTo b n} (a.distance b) := by
  refine ⟨walksTo_of_distance_eq rfl, ?_⟩
  rintro n ⟨steps, rfl, hsteps, rfl⟩
  have hbound := distance_le_walk hsteps a (a.walk steps)
  rwa [distance_self, Nat.zero_add] at hbound

end Hex

end Rulebook
