import Mathlib.Data.List.Nodup
import Rulebook.Fact.Kind
import Rulebook.Proofs.Text.Word
import Rulebook.Requirement.Scope

/-!
Vocabularies are read as they are written.

In each of them the words differ in more than case and have nothing to trim, so
a member is found by its word; and since each is listed once, its place in the
list is its number.
-/

namespace Rulebook

namespace Vocabulary

class Legible (α : Type) [Vocabulary α] : Prop where
  distinct : ((all : List α).map fun a => Text.fold (word a)).Nodup
  trimmed : ∀ a ∈ (all : List α), Text.trim (word a) = word a

instance : Legible FactKind := ⟨by decide +kernel, by decide +kernel⟩

instance : Legible Scope := ⟨by decide +kernel, by decide +kernel⟩

instance (kind : ChoiceKind) : Legible kind.Value := by
  cases kind <;> exact ⟨by decide +kernel, by decide +kernel⟩

section

variable {α : Type} [Vocabulary α] [Legible α]

theorem trim_word (a : α) : Text.trim (word a) = word a :=
  Legible.trimmed a (mem_all a)

theorem named?_word (a : α) : named? (word a) = some a := by
  have hfound : (named? (word a) : Option α).isSome = true := by
    rw [named?, List.find?_isSome]
    exact ⟨a, mem_all a, Text.sameWord_refl _⟩
  obtain ⟨b, hb⟩ := Option.isSome_iff_exists.1 hfound
  have hsame : Text.sameWord (word b) (word a) = true := by
    rw [named?] at hb
    exact List.find?_some (p := fun b => Text.sameWord (word b) (word a)) hb
  have heq : b = a := List.inj_on_of_nodup_map Legible.distinct (mem_all b) (mem_all a)
    (Text.sameWord_iff.1 hsame)
  rw [hb, heq]

theorem index_of_at? [BEq α] [LawfulBEq α] {a : α} {n : Nat} (h : at? n = some a) :
    index a = n := by
  obtain ⟨hn, rfl⟩ := List.getElem?_eq_some_iff.1 h
  have hnodup : (all : List α).Nodup := .of_map _ Legible.distinct
  exact hnodup.idxOf_getElem n hn

end

end Vocabulary

end Rulebook
