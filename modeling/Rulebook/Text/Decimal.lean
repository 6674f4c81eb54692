/-!
Decimal integers as they stand in names: an optional sign and at least one
digit, with nothing around or between them.  Bounds are checked by the caller.
-/

namespace Rulebook.Text

def digits? (cs : List Char) : Option Nat :=
  if cs.isEmpty || !cs.all Char.isDigit then none
  else some (Nat.ofDigitChars 10 cs 0)

/-- A number without a minus sign; a plus sign may lead it. -/
def unsigned? (word : String) : Option Nat :=
  match word.toList with
  | '+' :: cs => digits? cs
  | cs => digits? cs

def signed? (word : String) : Option Int :=
  match word.toList with
  | '-' :: cs => (digits? cs).map fun n => -(n : Int)
  | '+' :: cs => (digits? cs).map Int.ofNat
  | cs => (digits? cs).map Int.ofNat

def ofNat (n : Nat) : String :=
  String.ofList (Nat.toDigits 10 n)

def ofInt (n : Int) : String :=
  if n < 0 then "-" ++ ofNat n.natAbs else ofNat n.natAbs

end Rulebook.Text
