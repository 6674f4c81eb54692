/-!
Words of rule files.

Names in rule files are compared without regard to the case of ASCII letters,
and surrounding white space is dropped before a name is looked up.  White space
is the Unicode property `White_Space`; every other character, accented letters
included, counts as written.
-/

namespace Rulebook.Text

def fold (word : String) : String :=
  String.ofList (word.toList.map Char.toLower)

def sameWord (a b : String) : Bool :=
  fold a == fold b

/-- The Unicode property `White_Space`. -/
def isBlank (c : Char) : Bool :=
  let n := c.toNat
  (0x09 ≤ n && n ≤ 0x0D) || n == 0x20 || n == 0x85 || n == 0xA0 || n == 0x1680 ||
    (0x2000 ≤ n && n ≤ 0x200A) || n == 0x2028 || n == 0x2029 || n == 0x202F ||
    n == 0x205F || n == 0x3000

def trimChars (cs : List Char) : List Char :=
  ((cs.dropWhile isBlank).reverse.dropWhile isBlank).reverse

def trim (word : String) : String :=
  String.ofList (trimChars word.toList)

theorem sameWord_refl (a : String) : sameWord a a = true := by
  simp [sameWord]

theorem sameWord_comm (a b : String) : sameWord a b = sameWord b a := by
  simp only [sameWord]
  exact BEq.comm

theorem sameWord_iff {a b : String} : sameWord a b = true ↔ fold a = fold b := by
  simp [sameWord]

end Rulebook.Text
