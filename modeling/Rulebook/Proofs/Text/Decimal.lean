import Rulebook.Proofs.Text.Word
import Rulebook.Text.Decimal

/-!
Decimal numbers are read as they are written.

What is written begins with a digit or with a minus sign, so no sign is mistaken
for a digit, and there is nothing around it to trim.
-/

namespace Rulebook.Text

theorem digits?_toDigits (n : Nat) : digits? (Nat.toDigits 10 n) = some n := by
  have hnonempty : (Nat.toDigits 10 n).isEmpty = false := by simp
  have hdigits : (Nat.toDigits 10 n).all Char.isDigit = true :=
    List.all_eq_true.2 fun _ hc => Nat.isDigit_of_mem_toDigits (by decide) (by decide) hc
  rw [digits?, hnonempty, hdigits, Nat.ofDigitChars_toDigits (by decide) (by decide)]
  rfl

theorem exists_toDigits_eq_cons (n : Nat) :
    ∃ c cs, Nat.toDigits 10 n = c :: cs ∧ c ≠ '-' ∧ c ≠ '+' := by
  cases hdigits : Nat.toDigits 10 n with
  | nil => exact absurd hdigits Nat.toDigits_ne_nil
  | cons c cs =>
      have hdigit : c.isDigit = true :=
        Nat.isDigit_of_mem_toDigits (by decide) (by decide) (hdigits ▸ List.mem_cons_self)
      refine ⟨c, cs, rfl, ?_, ?_⟩
      · rintro rfl
        contradiction
      · rintro rfl
        contradiction

theorem unsigned?_ofNat (n : Nat) : unsigned? (ofNat n) = some n := by
  obtain ⟨c, cs, hdigits, -, hplus⟩ := exists_toDigits_eq_cons n
  have hread := digits?_toDigits n
  rw [hdigits] at hread
  simp [unsigned?, ofNat, hdigits, hplus, hread]

theorem signed?_ofNat (n : Nat) : signed? (ofNat n) = some (n : Int) := by
  obtain ⟨c, cs, hdigits, hminus, hplus⟩ := exists_toDigits_eq_cons n
  have hread := digits?_toDigits n
  rw [hdigits] at hread
  simp [signed?, ofNat, hdigits, hminus, hplus, hread]

theorem ofInt_natCast (n : Nat) : ofInt n = ofNat n := by
  simp [ofInt]

theorem signed?_ofInt (n : Int) : signed? (ofInt n) = some n := by
  by_cases hneg : n < 0
  · have htext : (ofInt n).toList = '-' :: Nat.toDigits 10 n.natAbs := by
      simp [ofInt, hneg, ofNat]
    have habs : -(n.natAbs : Int) = n := by omega
    rw [signed?, htext]
    simp only [digits?_toDigits]
    exact congrArg some habs
  · obtain ⟨m, rfl⟩ := Int.eq_ofNat_of_zero_le (Int.not_lt.1 hneg)
    rw [ofInt_natCast, signed?_ofNat]

theorem trim_ofInt (n : Int) : trim (ofInt n) = ofInt n := by
  have hdigits : ∀ c ∈ Nat.toDigits 10 n.natAbs, isBlank c = false := by
    intro c hc
    have hdigit : c.isDigit = true := Nat.isDigit_of_mem_toDigits (by decide) (by decide) hc
    have hrange : 48 ≤ c.toNat ∧ c.toNat ≤ 57 := by
      simpa [Char.isDigit, UInt32.le_iff_toNat_le] using hdigit
    exact isBlank_eq_false (by omega) (by omega)
  rw [trim_eq_self_iff]
  apply trimChars_eq_self
  by_cases hneg : n < 0
  · simpa [ofInt, hneg, ofNat] using ⟨by decide, hdigits⟩
  · simpa [ofInt, hneg, ofNat] using hdigits

end Rulebook.Text
