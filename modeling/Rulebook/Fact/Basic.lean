import Rulebook.Calculation
import Rulebook.Fact.Kind
import Rulebook.Text.Decimal

/-!
Facts: what a requirement examines.

A fact has a name in rule files, a number in saved games and a description for
players.  Reading a name or a number of a given kind against a ruleset yields
the invalid fact when nothing of that kind answers to it.
-/

namespace Rulebook

inductive Fact where
  /-- Holds everywhere. -/
  | none
  | entity (kind : EntityKind) (ref : Ref kind.Entry)
  | flag (kind : FlagKind) (flag : Flag kind)
  | choice (kind : ChoiceKind) (value : kind.Value)
  | measure (measure : Measure) (bound : measure.Bound)
  /-- What could not be read; holds nowhere. -/
  | invalid
  deriving DecidableEq

namespace Fact

def kind : Fact → FactKind
  | .none => .none
  | .entity k _ => .entity k
  | .flag k _ => .flag k
  | .choice k _ => .choice k
  | .measure m _ => .measure m
  | .invalid => .invalid

theorem eq_entity_of_kind {f : Fact} {k : EntityKind} (h : f.kind = .entity k) :
    ∃ x, f = .entity k x := by
  cases f with
  | entity k' x =>
      cases h
      exact ⟨x, rfl⟩
  | _ => contradiction

theorem eq_flag_of_kind {f : Fact} {k : FlagKind} (h : f.kind = .flag k) :
    ∃ x, f = .flag k x := by
  cases f with
  | flag k' x =>
      cases h
      exact ⟨x, rfl⟩
  | _ => contradiction

theorem eq_choice_of_kind {f : Fact} {k : ChoiceKind} (h : f.kind = .choice k) :
    ∃ x, f = .choice k x := by
  cases f with
  | choice k' x =>
      cases h
      exact ⟨x, rfl⟩
  | _ => contradiction

theorem eq_measure_of_kind {f : Fact} {m : Measure} (h : f.kind = .measure m) :
    ∃ x, f = .measure m x := by
  cases f with
  | measure m' x =>
      cases h
      exact ⟨x, rfl⟩
  | _ => contradiction

def isInvalid (f : Fact) : Bool := f == .invalid

/-! ## Numbers -/

/-- References and flags are their positions, members of vocabularies their places. -/
def number : Fact → Int
  | .none | .invalid => 0
  | .entity _ r => r.toNat
  | .flag _ f => f.toNat
  | .choice _ v => Vocabulary.index v
  | .measure m n => m.toInt n

def numbered? (rs : Ruleset) (kind : FactKind) (n : Int) : Option Fact :=
  match kind with
  | .none => some .none
  | .invalid => some .invalid
  | .entity k => if 0 ≤ n ∧ n < (rs.table k).size then some (.entity k (.ofNat n.toNat)) else .none
  | .flag k => if 0 ≤ n ∧ n < (rs.flags k).size then some (.flag k (.ofNat n.toNat)) else .none
  | .choice k => if 0 ≤ n then (Vocabulary.at? n.toNat).map (.choice k) else .none
  | .measure m => (m.ofInt? n).map (.measure m)

def ofNumber (rs : Ruleset) (kind : FactKind) (n : Int) : Fact :=
  (numbered? rs kind n).getD .invalid

/-! ## Names -/

def named? (rs : Ruleset) (kind : FactKind) (name : String) : Option Fact :=
  match kind with
  | .none => some .none
  | .invalid => .none
  | .entity k => ((rs.table k).find? name).map (.entity k)
  | .flag k => ((rs.flags k).find? name).map (.flag k)
  | .choice k => (Vocabulary.named? name).map (.choice k)
  | .measure .veteran =>
      (Text.unsigned? name).bind fun n => (Measure.veteran.ofInt? n).map (.measure .veteran)
  | .measure m => (Text.signed? name).bind fun n => (m.ofInt? n).map (.measure m)

def ofName (rs : Ruleset) (kind : FactKind) (name : String) : Fact :=
  (named? rs kind (Text.trim name)).getD .invalid

def unknownName : String := "(unknown)"

def name (rs : Ruleset) : Fact → String
  | .none => "None"
  | .invalid => "Invalid"
  | .entity k r => ((rs.table k).name? r).getD unknownName
  | .flag k f => ((rs.flags k).name? f).getD unknownName
  | .choice _ v => Vocabulary.word v
  | .measure m n => Text.ofInt (m.toInt n)

/-! ## Descriptions -/

/-- Years before the common era count backwards. -/
def yearTextM (year : Int) : Calculation String :=
  if year < 0 then do
    let before ← Calculation.word (-year)
    return Text.ofInt before ++ " BC"
  else return Text.ofInt year ++ " AD"

def yearText (year : Int) : String := (yearTextM year).modular

def measureText (m : Measure) (n : Int) : String :=
  let text := Text.ofInt n
  match m with
  | .veteran => "veteran level " ++ text
  | .moveFragments => text ++ " move fragments"
  | .hitPoints => text ++ " HP"
  | .age => "age " ++ text
  | .techs => text ++ " techs"
  | .size => "size " ++ text
  | .culture => text ++ " culture points"
  | .foreignPercent => text ++ "% foreign citizens"
  | .unitsOnTile => text ++ " units"
  | .year => yearText n
  | .calendarFragment => "calendar fragment " ++ text

def description (rs : Ruleset) (f : Fact) : String :=
  match f with
  | .entity k r => ((rs.table k).label? r).getD (f.name rs)
  | .measure m n => measureText m (m.toInt n)
  | _ => f.name rs

def descriptionM (rs : Ruleset) (f : Fact) : Calculation String :=
  match f with
  | .measure .year n => yearTextM n.toInt
  | f => return f.description rs

theorem modular_descriptionM (rs : Ruleset) (f : Fact) :
    (f.descriptionM rs).modular = f.description rs := by
  unfold descriptionM
  split <;> rfl

end Fact

end Rulebook
