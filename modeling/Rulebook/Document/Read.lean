import Rulebook.Document.Node
import Rulebook.Text.Decimal
import Rulebook.Vocabulary

/-!
Reading typed values from document trees.

A reader answers `none` when the node does not fit.  An unquoted scalar fits a
text field as written, a truth value when it is spelled `true` or `false` (also
capitalised), and a number when it is an integer literal.  Where nothing was
written an empty list, an empty table or a record of defaults is read.
-/

namespace Rulebook

abbrev Reader (α : Type) := Node → Option α

namespace Literal

def null? (s : String) : Bool :=
  s == "~" || s == "null" || s == "Null" || s == "NULL"

def bool? (s : String) : Option Bool :=
  if s == "true" || s == "True" || s == "TRUE" then some true
  else if s == "false" || s == "False" || s == "FALSE" then some false
  else none

def digitsIn? (base : Nat) (cs : List Char) : Option Nat :=
  if cs.isEmpty then none
  else cs.foldlM (fun n c => do
    let d ←
      if c.isDigit then some (c.toNat - '0'.toNat)
      else if 'a' ≤ c ∧ c ≤ 'f' then some (c.toNat - 'a'.toNat + 10)
      else if 'A' ≤ c ∧ c ≤ 'F' then some (c.toNat - 'A'.toNat + 10)
      else none
    if d < base then some (n * base + d) else none) 0

/-- A leading zero before further digits makes a word of them, not a number. -/
def paddedDigits : List Char → Bool
  | '0' :: c :: cs => (c :: cs).all Char.isDigit
  | _ => false

def magnitude? : List Char → Option Nat
  | '0' :: 'x' :: cs => digitsIn? 16 cs
  | '0' :: 'o' :: cs => digitsIn? 8 cs
  | '0' :: 'b' :: cs => digitsIn? 2 cs
  | cs => if paddedDigits cs then none else digitsIn? 10 cs

def natural? (s : String) : Option Nat :=
  match s.toList with
  | '+' :: cs => magnitude? cs
  | cs => magnitude? cs

def integer? (s : String) : Option Int :=
  match s.toList with
  | '-' :: cs => (magnitude? cs).map fun n => -(n : Int)
  | '+' :: cs => (magnitude? cs).map Int.ofNat
  | cs => (magnitude? cs).map Int.ofNat

end Literal

namespace Reader

def text : Reader String
  | .plain s | .text s => some s
  | _ => none

def bool : Reader Bool
  | .bool b => some b
  | .plain s => Literal.bool? s
  | _ => none

def int32 (node : Node) : Option Int :=
  let value? := match node with
    | .integer n => some n
    | .plain s => Literal.integer? s
    | _ => none
  value?.filter fun n => -2147483648 ≤ n && n < 2147483648

def natBelow (bound : Nat) (node : Node) : Option Nat :=
  let value? := match node with
    | .integer n => n.toNat?
    | .plain s => Literal.natural? s
    | _ => none
  value?.filter fun n => n < bound

def list {α : Type} (item : Reader α) : Reader (List α)
  | .list items | .sequence items => items.mapM item
  | .plain "" => some []
  | _ => none

def optional {α : Type} (item : Reader α) : Reader (Option α)
  | .null => some none
  | .plain s => if s.isEmpty || Literal.null? s then some none else some <$> item (.plain s)
  | node => some <$> item node

/-- A member of a vocabulary by its exact spelling; in a typed document it may also be the key
of a one-entry mapping to null. -/
def member {α : Type} [Vocabulary α] : Reader α
  | .plain s | .text s => Vocabulary.identified? s
  | .mapping [(.text s, .null)] => Vocabulary.identified? s
  | _ => none

/-- The entries of a table, sorted by key; of several entries with one key the last stays. -/
def table {κ α : Type} [BEq κ] (le : κ → κ → Bool) (key : Reader κ) (value : Reader α) :
    Reader (List (κ × α))
  | .mapping entries => do
      let read ← entries.mapM fun (k, v) => do return (← key k, ← value v)
      return lastOfEach (read.mergeSort fun a b => le a.1 b.1)
  | .plain "" => some []
  | _ => none
where
  lastOfEach (entries : List (κ × α)) : List (κ × α) :=
    (entries.foldl (fun kept e => match kept with
      | k :: rest => if k.1 == e.1 then e :: rest else e :: kept
      | [] => [e]) []).reverse

def named {α : Type} (value : Reader α) : Reader (List (String × α)) :=
  table (fun a b => !decide (b < a)) text value

def numbered {α : Type} (bound : Nat) (value : Reader α) : Reader (List (Nat × α)) :=
  table (· ≤ ·) key value
where
  key (node : Node) : Option Nat := do
    let cs := (← text node).toList
    if Literal.paddedDigits cs then none
    else (Text.digits? cs).filter (· < bound)

end Reader

structure Fields where
  entries : List (String × Node)

/-- The fields of a record that has the given field names, in that order.  Other names are
ignored; one of the given names twice does not fit. -/
def Node.fields? (names : List String) : Node → Option Fields
  | .mapping entries => do
      let named ← entries.mapM fun (k, v) => do return (← Reader.text k, v)
      if names.all fun name => (named.countP fun e => e.1 == name) ≤ 1 then some ⟨named⟩
      else none
  | .list items => if items.length ≤ names.length then some ⟨names.zip items⟩ else none
  | .plain "" => some ⟨[]⟩
  | _ => none

namespace Fields

variable {α : Type}

def required (f : Fields) (name : String) (read : Reader α) : Option α :=
  (f.entries.lookup name).bind read

def default (f : Fields) (name : String) (value : α) (read : Reader α) : Option α :=
  match f.entries.lookup name with
  | none => some value
  | some node => read node

def optional (f : Fields) (name : String) (read : Reader α) : Option (Option α) :=
  f.default name none (Reader.optional read)

end Fields

end Rulebook
