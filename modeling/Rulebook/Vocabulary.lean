import Rulebook.Text.Word

/-!
Closed vocabularies: finite types whose members are listed in a fixed order and
carry a word that rule files use for them.

A member is found by its word without regard to ASCII case, by its exact
identifier (the spelling used in structured documents), or by its place in the
list.  `mem_all` says that the list leaves nobody out.
-/

namespace Rulebook

class Vocabulary (α : Type) where
  all : List α
  /-- The word of a member in rule files. -/
  word : α → String
  /-- The spelling of a member in structured documents. -/
  identifier : α → String := word
  mem_all : ∀ a : α, a ∈ all

namespace Vocabulary

variable {α : Type} [Vocabulary α]

/-- The first member whose word is `text` up to ASCII case. -/
def named? (text : String) : Option α :=
  (all : List α).find? fun a => Text.sameWord (word a) text

def identified? (text : String) : Option α :=
  (all : List α).find? fun a => identifier a == text

def index [BEq α] (a : α) : Nat :=
  (all : List α).idxOf a

def at? (n : Nat) : Option α :=
  (all : List α)[n]?

theorem at?_index [BEq α] [LawfulBEq α] (a : α) : at? (index a) = some a := by
  have h : (all : List α).idxOf a < (all : List α).length :=
    List.idxOf_lt_length_of_mem (mem_all a)
  simp [at?, index, List.getElem?_eq_getElem h]

theorem index_lt [BEq α] [LawfulBEq α] (a : α) : index a < (all : List α).length :=
  List.idxOf_lt_length_of_mem (mem_all a)

theorem eq_of_index_eq [BEq α] [LawfulBEq α] {a b : α} (h : index a = index b) : a = b := by
  have hat := at?_index a
  rw [h, at?_index] at hat
  exact (Option.some.inj hat).symm

end Vocabulary

end Rulebook
