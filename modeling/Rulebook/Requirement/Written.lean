import Rulebook.Requirement.Basic

/-!
Requirements as they are written down: by names in rule files, by numbers in
saved games.

Reading either form checks that the requirement has a meaning.  The first thing
wrong is reported: the kind, then the scope, then the value, then whether the
three go together.
-/

namespace Rulebook

namespace Requirement

structure Entry where
  kind : String
  name : String := ""
  /-- Left out, or blank, for the usual scope of the kind. -/
  scope : Option String := none
  survives : Bool := false
  present : Bool := true
  quiet : Bool := false
  deriving DecidableEq, Repr, Inhabited

/-- The kind with this word; nothing written may be the invalid kind. -/
def kindNamed? (word : String) : Option FactKind :=
  (Vocabulary.named? (Text.trim word)).filter (· != .invalid)

def scopeOf (kind : FactKind) (written : Option String) : Except Flaw Scope :=
  let word := Text.trim (written.getD "")
  if word.isEmpty then .ok kind.defaultScope
  else match Vocabulary.named? word with
    | some scope => .ok scope
    | none => .error (.unknownScope word)

def ofEntry (rs : Ruleset) (e : Entry) : Except Flaw Requirement :=
  match kindNamed? e.kind with
  | none => .error (.unknownKind e.kind)
  | some kind =>
      match scopeOf kind e.scope with
      | .error flaw => .error flaw
      | .ok scope =>
          let fact := Fact.ofName rs kind e.name
          if fact.isInvalid then .error (.unknownValue kind e.name)
          else checked {
            fact, scope, survives := e.survives, present := e.present, quiet := e.quiet }

def toEntry (rs : Ruleset) (r : Requirement) : Entry where
  kind := Vocabulary.word r.kind
  name := r.fact.name rs
  scope := some (Vocabulary.word r.scope)
  survives := r.survives
  present := r.present
  quiet := r.quiet

structure Code where
  kind : Int
  scope : Int
  value : Int
  survives : Bool
  present : Bool
  quiet : Bool
  deriving DecidableEq, Repr

def at? {α : Type} [Vocabulary α] (n : Int) : Option α :=
  n.toNat?.bind Vocabulary.at?

def ofCode (rs : Ruleset) (c : Code) : Except Flaw Requirement :=
  match (at? c.kind : Option FactKind).filter (· != .invalid) with
  | none => .error (.unknownKind (Text.ofInt c.kind))
  | some kind =>
      match (at? c.scope : Option Scope) with
      | none => .error (.unknownScope (Text.ofInt c.scope))
      | some scope =>
          let fact := Fact.ofNumber rs kind c.value
          if fact.isInvalid then .error (.badNumber kind c.value)
          else checked {
            fact, scope, survives := c.survives, present := c.present, quiet := c.quiet }

def toCode (r : Requirement) : Code where
  kind := Vocabulary.index r.kind
  scope := Vocabulary.index r.scope
  value := r.fact.number
  survives := r.survives
  present := r.present
  quiet := r.quiet

end Requirement

end Rulebook
