/-!
Structured documents as trees.

Documents come from two formats.  In one of them every scalar has a type (text,
truth value, number, null); in the other a scalar may stand without quotes and
is read as whatever its place asks for.  `plain` is such an unquoted scalar, and
the empty plain scalar is a place where nothing was written.  A `list` is a
sequence of the typed format, a `sequence` one of the other: only the former may
also stand for a record, its items being the fields in order.
-/

namespace Rulebook

inductive Node where
  | plain (text : String)
  | text (value : String)
  | null
  | bool (value : Bool)
  | integer (value : Int)
  /-- A number with a fractional part or an exponent; no field accepts one. -/
  | fraction
  | list (items : List Node)
  | sequence (items : List Node)
  | mapping (entries : List (Node × Node))
  deriving Inhabited

namespace Node

def record (fields : List (String × Node)) : Node :=
  .mapping (fields.map fun (name, value) => (.text name, value))

def ofNat (n : Nat) : Node := .integer n

def ofOption {α : Type} (f : α → Node) : Option α → Node
  | none => .null
  | some a => f a

def ofList {α : Type} (f : α → Node) (items : List α) : Node :=
  .list (items.map f)

end Node

end Rulebook
