import Mathlib.Data.List.Infix

/-!
Texts apart.

Two texts are apart if neither begins with the other.  They differ then, and go on
doing so whatever is written behind them, or the same before both.
-/

namespace Rulebook

namespace Text

variable {a b c d : String}

def Apart (a b : String) : Prop := ¬ a.toList <+: b.toList ∧ ¬ b.toList <+: a.toList

instance (a b : String) : Decidable (Apart a b) :=
  inferInstanceAs (Decidable (¬ a.toList <+: b.toList ∧ ¬ b.toList <+: a.toList))

namespace Apart

theorem ne (h : Apart a b) : a ≠ b := by
  rintro rfl
  exact h.1 (List.prefix_refl _)

theorem symm (h : Apart a b) : Apart b a := ⟨h.2, h.1⟩

theorem append_left (h : Apart a b) : Apart (a ++ c) b := by
  have hbegin : a.toList <+: (a ++ c).toList := by
    rw [String.toList_append]
    exact List.prefix_append _ _
  refine ⟨fun hlonger => h.1 (hbegin.trans hlonger), fun hshorter => ?_⟩
  rcases List.prefix_or_prefix_of_prefix hbegin hshorter with hab | hba
  · exact h.1 hab
  · exact h.2 hba

theorem append_right (h : Apart a b) : Apart a (b ++ d) := h.symm.append_left.symm

theorem append (h : Apart a b) : Apart (a ++ c) (b ++ d) := h.append_left.append_right

/-- However gaps in texts are filled, it is enough that the texts before them are apart. -/
theorem fill {e f : String} (h : Apart a b) : Apart (a ++ c ++ e) (b ++ d ++ f) := h.append.append

theorem prepend (h : Apart b c) : Apart (a ++ b) (a ++ c) := by
  rw [Apart, String.toList_append, String.toList_append, List.prefix_append_right_inj,
    List.prefix_append_right_inj]
  exact h

end Apart

end Text

end Rulebook
