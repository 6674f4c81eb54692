import Mathlib.Data.List.Induction
import Rulebook.Proofs.Text.Decimal

/-!
Names with numbers behind them.

A clone is called after what it was cloned from, with a number.  Such a name can
be taken apart: the digits at its end are the number, since the sign before them
is no digit, and what stands before the sign is the name that was cloned.  So a
name that has been numbered several times is known by the numbers, and where two
names with numbers behind them meet, one of the two begins with the other.
-/

namespace Rulebook

def cloneName (name : String) (n : Nat) : String := name ++ " #" ++ Text.ofNat n

def numbered (name : String) (numbers : List Nat) : String := numbers.foldl cloneName name

namespace Text

theorem takeWhile_isDigit (n : Nat) (before : List Char) :
    ((before ++ '#' :: Nat.toDigits 10 n).reverse.takeWhile Char.isDigit) =
      (Nat.toDigits 10 n).reverse := by
  have hdigits : ∀ c ∈ (Nat.toDigits 10 n).reverse, c.isDigit = true := by
    intro c hc
    exact Nat.isDigit_of_mem_toDigits (by decide) (by decide) (List.mem_reverse.1 hc)
  rw [List.reverse_append, List.reverse_cons, List.append_assoc,
    List.takeWhile_append_of_pos hdigits]
  simp

end Text

theorem cloneName_inj {a b : String} {m n : Nat} :
    cloneName a m = cloneName b n ↔ a = b ∧ m = n := by
  constructor
  · intro h
    have hchars : (a.toList ++ [' ']) ++ '#' :: Nat.toDigits 10 m =
        (b.toList ++ [' ']) ++ '#' :: Nat.toDigits 10 n := by
      simpa [cloneName, Text.ofNat, String.toList_append] using congrArg String.toList h
    have hdigits : Nat.toDigits 10 m = Nat.toDigits 10 n := by
      have htake := congrArg (fun cs => cs.reverse.takeWhile Char.isDigit) hchars
      simpa only [Text.takeWhile_isDigit, List.reverse_inj] using htake
    have hread := Text.digits?_toDigits m
    rw [hdigits, Text.digits?_toDigits] at hread
    rw [hdigits] at hchars
    refine ⟨?_, (Option.some.inj hread).symm⟩
    exact String.toList_inj.1 (List.append_cancel_right (List.append_cancel_right hchars))
  · rintro ⟨rfl, rfl⟩
    rfl

theorem numbered_append (name : String) (l l' : List Nat) :
    numbered name (l ++ l') = numbered (numbered name l) l' :=
  List.foldl_append

theorem length_numbered (name : String) (l : List Nat) :
    name.length + l.length ≤ (numbered name l).length := by
  induction l generalizing name with
  | nil => exact Nat.le_refl _
  | cons n l ih =>
      have hmark : " #".length = 2 := rfl
      have hstep := ih (cloneName name n)
      rw [cloneName, String.length_append, String.length_append, hmark] at hstep
      rw [List.length_cons]
      exact Nat.le_trans (by omega) hstep

theorem eq_nil_of_numbered {name : String} {l : List Nat} (h : numbered name l = name) :
    l = [] := by
  have hlength := length_numbered name l
  rw [h] at hlength
  exact List.eq_nil_of_length_eq_zero (by omega)

/-- Where names that began differently are the same in the end, one began as a clone of the other. -/
theorem eq_numbered_of_numbered_eq {a b : String} {l l' : List Nat}
    (h : numbered a l = numbered b l') :
    (∃ m, b = numbered a m ∧ l = m ++ l') ∨ ∃ m, a = numbered b m ∧ l' = m ++ l := by
  induction l' using List.reverseRecOn generalizing l with
  | nil => exact .inl ⟨l, h.symm, (List.append_nil l).symm⟩
  | append_singleton l' n ih =>
      rcases List.eq_nil_or_concat l with rfl | ⟨l, m, rfl⟩
      · exact .inr ⟨l' ++ [n], h, (List.append_nil _).symm⟩
      · rw [List.concat_eq_append, numbered_append, numbered_append] at h
        obtain ⟨hbegin, rfl⟩ := cloneName_inj.1 h
        rcases ih hbegin with ⟨k, hb, rfl⟩ | ⟨k, ha, rfl⟩
        · exact .inl ⟨k, hb, by simp⟩
        · exact .inr ⟨k, ha, by simp⟩

theorem numbered_inj {name : String} {l l' : List Nat} :
    numbered name l = numbered name l' ↔ l = l' := by
  constructor
  · intro h
    rcases eq_numbered_of_numbered_eq h with ⟨m, hm, rfl⟩ | ⟨m, hm, rfl⟩
    · rw [eq_nil_of_numbered hm.symm, List.nil_append]
    · rw [eq_nil_of_numbered hm.symm, List.nil_append]
  · rintro rfl
    rfl

end Rulebook
