import Mathlib.Data.List.DropRight
import Rulebook.Text.Word

/-!
Words without white space around them.

Trimming twice is trimming once.  Whether there is anything to trim does not
depend on the case of letters, so every word that counts as the same as a
trimmed one is trimmed itself.
-/

namespace Rulebook.Text

theorem isBlank_eq_false {c : Char} (hlow : 33 ≤ c.toNat) (hhigh : c.toNat ≤ 126) :
    isBlank c = false := by
  simp only [isBlank, Bool.or_eq_false_iff, Bool.and_eq_false_iff, decide_eq_false_iff_not,
    beq_eq_false_iff_ne]
  omega

theorem isBlank_toLower (c : Char) : isBlank c.toLower = isBlank c := by
  unfold Char.toLower
  split
  · next hcapital =>
      have hlow : 65 ≤ c.toNat := hcapital.1
      have hhigh : c.toNat ≤ 90 := hcapital.2
      have hsmall : (c.val + ('a'.val - 'A'.val)).toNat = c.toNat + 32 := by
        have hval : c.val.toNat = c.toNat := rfl
        have hgap : 'a'.val - 'A'.val = 32 := rfl
        rw [UInt32.toNat_add, hgap, hval]
        exact Nat.mod_eq_of_lt (by simp; omega)
      have hblank : isBlank c = false := isBlank_eq_false (by omega) (by omega)
      rw [hblank]
      apply isBlank_eq_false
      · exact (show 33 ≤ c.toNat + 32 by omega).trans_eq hsmall.symm
      · exact hsmall.trans_le (show c.toNat + 32 ≤ 126 by omega)
  · rfl

/-! ## Trimming characters -/

theorem trimChars_eq_rdropWhile (cs : List Char) :
    trimChars cs = (cs.dropWhile isBlank).rdropWhile isBlank := rfl

theorem trimChars_sublist (cs : List Char) : (trimChars cs).Sublist cs := by
  rw [trimChars_eq_rdropWhile]
  exact (List.rdropWhile_prefix _ _).sublist.trans (List.dropWhile_sublist _)

theorem trimChars_eq_self {cs : List Char} (h : ∀ c ∈ cs, isBlank c = false) :
    trimChars cs = cs := by
  have hfront : cs.dropWhile isBlank = cs := by
    rw [List.dropWhile_eq_self_iff]
    intro hpos
    simp [h _ (List.getElem_mem hpos)]
  rw [trimChars_eq_rdropWhile, hfront, List.rdropWhile_eq_self_iff]
  intro hne
  simp [h _ (List.getLast_mem hne)]

theorem trimChars_trimChars (cs : List Char) : trimChars (trimChars cs) = trimChars cs := by
  have hbegins := List.rdropWhile_prefix isBlank (cs.dropWhile isBlank)
  -- what is left begins like the characters from the first that is not blank
  have hfront : ((cs.dropWhile isBlank).rdropWhile isBlank).dropWhile isBlank =
      (cs.dropWhile isBlank).rdropWhile isBlank := by
    rw [List.dropWhile_eq_self_iff]
    intro hpos
    rw [hbegins.getElem]
    exact List.dropWhile_get_zero_not _ _ _
  rw [trimChars_eq_rdropWhile, trimChars_eq_rdropWhile, hfront, List.rdropWhile_idempotent]

theorem trimChars_map_toLower (cs : List Char) :
    trimChars (cs.map Char.toLower) = (trimChars cs).map Char.toLower := by
  have hblank : isBlank ∘ Char.toLower = isBlank := funext isBlank_toLower
  simp only [trimChars, List.dropWhile_map, ← List.map_reverse, hblank]

theorem trimChars_map_eq_self_iff {cs : List Char} :
    trimChars (cs.map Char.toLower) = cs.map Char.toLower ↔ trimChars cs = cs := by
  rw [trimChars_map_toLower]
  constructor
  · intro h
    have hlength : (trimChars cs).length = cs.length := by simpa using congrArg List.length h
    exact (trimChars_sublist cs).eq_of_length hlength
  · intro h
    rw [h]

/-! ## Trimming words -/

@[simp] theorem trim_trim (word : String) : trim (trim word) = trim word := by
  simp [trim, trimChars_trimChars]

theorem trim_eq_self_iff {word : String} : trim word = word ↔ trimChars word.toList = word.toList := by
  rw [trim, ← String.toList_inj, String.toList_ofList]

theorem trim_eq_self_of_sameWord {a b : String} (h : sameWord a b = true) (hb : trim b = b) :
    trim a = a := by
  have hfold : a.toList.map Char.toLower = b.toList.map Char.toLower := by
    simpa [fold, ← String.toList_inj] using sameWord_iff.1 h
  rw [trim_eq_self_iff, ← trimChars_map_eq_self_iff] at hb ⊢
  rw [hfold, hb]

end Rulebook.Text
