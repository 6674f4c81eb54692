/-!
Three-valued answers, and the two ways to read an open one.
-/

namespace Rulebook

inductive Truth where
  | yes
  | no
  | maybe
  deriving DecidableEq, Repr

namespace Truth

def ofBool : Bool → Truth
  | true => .yes
  | false => .no

def any (answers : List Truth) : Truth :=
  if answers.contains .yes then .yes
  else if answers.contains .maybe then .maybe
  else .no

def known {α : Type} (value : Option α) (test : α → Bool) : Truth :=
  match value with
  | some a => .ofBool (test a)
  | none => .maybe

def known₂ {α β : Type} (a : Option α) (b : Option β) (test : α → β → Bool) : Truth :=
  match a, b with
  | some a, some b => .ofBool (test a b)
  | _, _ => .maybe

end Truth

inductive Reading where
  /-- What is not ruled out counts. -/
  | possible
  /-- Only what is settled counts. -/
  | certain
  deriving DecidableEq, Repr

def Truth.meets (answer : Truth) (present : Bool) (reading : Reading) : Bool :=
  match answer with
  | .yes => present
  | .no => !present
  | .maybe => reading == .possible

end Rulebook
