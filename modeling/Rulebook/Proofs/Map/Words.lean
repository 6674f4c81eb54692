import Mathlib.Data.UInt
import Rulebook.Map.Words
import Rulebook.Proofs.Map.Checked

/-!
Words that hold what they stand for.

A word within its bounds is added, multiplied and converted like the number it
stands for.  So coordinates are wrapped in words as they are in whole numbers, and
extents are read as they are if the number of tiles fits into a signed word.
-/

namespace Rulebook

/-! ## Words in bounds -/

namespace Word

variable {a b c : Int32} {n : UInt32}

theorem toInt_toInt32 (h : n.toNat < 2 ^ 31) : n.toInt32.toInt = n.toNat := by
  have hword : n.toInt32.toInt = n.toBitVec.toInt := rfl
  rw [hword, BitVec.toInt_eq_toNat_of_lt (by rw [UInt32.toNat_toBitVec]; omega),
    UInt32.toNat_toBitVec]

theorem toNat_toUInt32 (h : 0 ≤ a.toInt) : (a.toUInt32.toNat : Int) = a.toInt := by
  rw [Int32.toNat_toUInt32_of_le (Int32.le_iff_toInt_le.2 h)]
  exact Int.toNat_of_nonneg h

theorem abs_of_nonneg (h : 0 ≤ a.toInt) : a.abs = a := by
  have hmsb : a.toBitVec.msb = false := by
    rw [BitVec.msb_eq_toInt, decide_eq_false_iff_not, Int32.toInt_toBitVec]
    omega
  rw [← Int32.toBitVec_inj, Int32.toBitVec_abs, BitVec.abs, if_neg (by simp [hmsb])]

theorem toInt_add (hlow : -2 ^ 31 ≤ a.toInt + b.toInt) (hhigh : a.toInt + b.toInt < 2 ^ 31) :
    (a + b).toInt = a.toInt + b.toInt := by
  rw [Int32.toInt_add]
  exact Int.bmod_eq_of_le (by omega) (by omega)

theorem toInt_mul_add (hlow : -2 ^ 31 ≤ a.toInt * b.toInt + c.toInt)
    (hhigh : a.toInt * b.toInt + c.toInt < 2 ^ 31) :
    (a * b + c).toInt = a.toInt * b.toInt + c.toInt := by
  rw [Int32.toInt_add, Int32.toInt_mul, Int.bmod_add_bmod]
  exact Int.bmod_eq_of_le (by omega) (by omega)

end Word

namespace Geometry

/-! ## One axis -/

theorem toInt_wordRemainder {n extent : Int32} (h : 0 < extent.toInt) :
    (wordRemainder n extent).toInt = n.toInt % extent.toInt := by
  have hnonneg := Int.emod_nonneg n.toInt (Int.ne_of_gt h)
  have hlt := Int.emod_lt_of_pos n.toInt h
  have hbound := Int32.toInt_lt extent
  have hmod : (n % extent).toInt = n.toInt % extent.toInt ∨
      (n % extent).toInt = n.toInt % extent.toInt - extent.toInt := by
    rw [Int32.toInt_mod, Int.tmod_eq_emod]
    split <;> omega
  unfold wordRemainder
  rw [Word.abs_of_nonneg (Int.le_of_lt h)]
  dsimp only
  split
  · next hneg =>
      have hneg : (n % extent).toInt < 0 := Int32.lt_iff_toInt_lt.1 hneg
      rw [Word.toInt_add (by omega) (by omega)]
      omega
  · next hneg =>
      have hneg : ¬ (n % extent).toInt < 0 := fun hlt => hneg (Int32.lt_iff_toInt_lt.2 hlt)
      omega

theorem toInt_wordWrapped (wraps : Bool) {n extent : Int32} {size : Nat} (hsize : 0 < size)
    (h : extent.toInt = size) :
    (wordWrapped wraps extent n).toInt = Grid.wrapped wraps size n.toInt := by
  cases wraps with
  | true =>
      change (wordRemainder n extent).toInt = n.toInt % size
      rw [toInt_wordRemainder (by omega), h]
  | false => rfl

/-! ## Extents -/

theorem toNat_extent {n : Nat} (h : n < 2 ^ 31) : (UInt32.ofNat n).toNat = n := by
  have hsize : UInt32.size = 2 ^ 32 := rfl
  exact UInt32.toNat_ofNat_of_lt' (by omega)

theorem toInt_extent {n : Nat} (h : n < 2 ^ 31) : (UInt32.ofNat n).toInt32.toInt = n := by
  rw [Word.toInt_toInt32 (by rwa [toNat_extent h]), toNat_extent h]

end Geometry

end Rulebook
