import Rulebook.Evaluation.Judgement

/-!
What it takes for a requirement to be met for certain.

`met_iff` unpacks the certain reading: the requirement has a meaning, and the
answer agrees with its sign.  The rest compares the answers of two searches
through the same things: if every hit of the first is a hit of the second, an
answer of yes carries over, and an answer of no carries back.
-/

namespace Rulebook

/-- The players at hand are living players of the world, where there is one. -/
structure Situation.Placed (s : Situation) : Prop where
  player : ∀ w ∈ s.world, ∀ p ∈ s.player, p ∈ w.alivePlayers
  otherPlayer : ∀ w ∈ s.world, ∀ p ∈ s.otherPlayer, p ∈ w.alivePlayers

namespace Truth

@[simp] theorem ofBool_eq_yes {b : Bool} : ofBool b = .yes ↔ b = true := by
  cases b <;> simp [ofBool]

@[simp] theorem ofBool_eq_no {b : Bool} : ofBool b = .no ↔ b = false := by
  cases b <;> simp [ofBool]

theorem ofBool_injective {a b : Bool} (h : ofBool a = ofBool b) : a = b := by
  cases a <;> cases b <;> first | rfl | cases h

theorem meets_certain_iff {answer : Truth} {present : Bool} :
    answer.meets present .certain = true ↔ answer = .ofBool present := by
  cases answer <;> cases present <;> decide

theorem known_eq_ofBool_iff {α : Type} {value : Option α} {test : α → Bool} {b : Bool} :
    known value test = ofBool b ↔ ∃ a, value = some a ∧ test a = b := by
  cases value with
  | none => cases b <;> simp [known, ofBool]
  | some a =>
      constructor
      · intro h
        exact ⟨a, rfl, ofBool_injective h⟩
      · rintro ⟨_, heq, rfl⟩
        cases heq
        rfl

theorem known₂_eq_ofBool_iff {α β : Type} {x : Option α} {y : Option β} {test : α → β → Bool}
    {b : Bool} :
    known₂ x y test = ofBool b ↔ ∃ a c, x = some a ∧ y = some c ∧ test a c = b := by
  cases x with
  | none => cases b <;> simp [known₂, ofBool]
  | some a =>
      cases y with
      | none => cases b <;> simp [known₂, ofBool]
      | some c =>
          constructor
          · intro h
            exact ⟨a, c, rfl, rfl, ofBool_injective h⟩
          · rintro ⟨_, _, hx, hy, rfl⟩
            cases hx
            cases hy
            rfl

theorem known_eq_yes_iff {α : Type} {value : Option α} {test : α → Bool} :
    some (known value test) = some .yes ↔ ∃ a, value = some a ∧ test a = true := by
  rw [Option.some.injEq]
  exact known_eq_ofBool_iff (b := true)

theorem known₂_eq_yes_iff {α β : Type} {x : Option α} {y : Option β} {test : α → β → Bool} :
    some (known₂ x y test) = some .yes ↔
      ∃ a c, x = some a ∧ y = some c ∧ test a c = true := by
  rw [Option.some.injEq]
  exact known₂_eq_ofBool_iff (b := true)

theorem known_of_known_yes {α : Type} {value : Option α} {first second : α → Bool} {b : Bool}
    (h : some (known value first) = some .yes) (hb : ∀ a, first a = true → second a = b) :
    some (known value second) = some (ofBool b) := by
  obtain ⟨a, hvalue, hfirst⟩ :=
    (known_eq_ofBool_iff (b := true)).1 (Option.some.inj h)
  rw [hvalue, ← hb a hfirst]
  rfl

/-! ## Answers that carry over -/

/-- Yes to the first is yes to the second, and no to the second is no to the first. -/
structure Carries (first second : Option Truth) : Prop where
  yes : first = some .yes → second = some .yes
  no : second = some .no → first = some .no

theorem Carries.refl (answer : Option Truth) : Carries answer answer := ⟨id, id⟩

theorem carries_ofBool {a b : Bool} (h : a = true → b = true) :
    Carries (some (ofBool a)) (some (ofBool b)) := by
  cases a <;> cases b <;> first | contradiction | exact ⟨by simp, by simp⟩

theorem carries_known {α : Type} {value : Option α} {first second : α → Bool}
    (h : ∀ a, first a = true → second a = true) :
    Carries (some (known value first)) (some (known value second)) := by
  cases value with
  | none => exact .refl _
  | some a => exact carries_ofBool (h a)

theorem carries_known₂ {α β : Type} {x : Option α} {y : Option β} {first second : α → β → Bool}
    (h : ∀ a b, first a b = true → second a b = true) :
    Carries (some (known₂ x y first)) (some (known₂ x y second)) := by
  cases x with
  | none => exact .refl _
  | some a =>
      cases y with
      | none => exact .refl _
      | some b => exact carries_ofBool (h a b)

end Truth

namespace Situation

variable {s : Situation} {scope : Scope}

theorem tileData?_eq_bind (s : Situation) :
    s.tileData? = s.world.bind fun w => s.tile.bind w.tile? := by
  unfold tileData?
  cases s.world <;> cases s.tile <;> rfl

theorem anyTile_mono {w : World} {tiles : List TileIndex} {first second : Tile → Bool}
    (h : ∀ t, first t = true → second t = true) :
    anyTile w tiles first = true → anyTile w tiles second = true := by
  simp only [anyTile, List.any_eq_true, Option.any_eq_true]
  rintro ⟨i, hi, t, ht, hfirst⟩
  exact ⟨i, hi, t, ht, h t hfirst⟩

theorem any_mono {α : Type} {items : List α} {first second : α → Bool}
    (h : ∀ a, first a = true → second a = true) :
    items.any first = true → items.any second = true := by
  simp only [List.any_eq_true]
  rintro ⟨a, ha, hfirst⟩
  exact ⟨a, ha, h a hfirst⟩

theorem carries_someTile {first second : Tile → Bool} (h : ∀ t, first t = true → second t = true) :
    Truth.Carries (someTile s scope first) (someTile s scope second) := by
  cases scope <;> simp only [someTile]
  case here => exact Truth.carries_known h
  case cardinal | adjacent | city => exact Truth.carries_known₂ fun _ _ => anyTile_mono h
  case tradeRoute =>
    exact Truth.carries_known₂ fun _ _ => any_mono fun _ => anyTile_mono h
  all_goals exact .refl _

theorem carries_someCity {first second : City → Bool} (h : ∀ c, first c = true → second c = true) :
    Truth.Carries (someCity s scope first) (someCity s scope second) := by
  cases scope <;> simp only [someCity]
  case city => exact Truth.carries_known h
  case tradeRoute =>
    cases s.city with
    | none => exact .refl _
    | some c =>
        -- the city itself may pass the second test only, which then needs no world
        by_cases hfirst : first c = true
        · simp [hfirst, h c hfirst, Truth.Carries.refl]
        · by_cases hsecond : second c = true
          · constructor <;> cases s.world <;> simp [hfirst, hsecond, Truth.known]
          · simp only [hfirst, hsecond]
            exact Truth.carries_known fun _ => any_mono h
  all_goals exact .refl _

theorem carries_somePlayer {first second : Player → Bool}
    (h : ∀ p, first p = true → second p = true) :
    Truth.Carries (somePlayer s scope first) (somePlayer s scope second) := by
  cases scope <;> simp only [somePlayer]
  case player => exact Truth.carries_known h
  case team | alliance => exact Truth.carries_known₂ fun _ _ => any_mono h
  case world => exact Truth.carries_known fun _ => any_mono h
  all_goals exact .refl _

end Situation

namespace Requirement

variable {rs : Ruleset} {s : Situation}

theorem eval_eq_ofBool_iff {r : Requirement} {b : Bool} :
    r.eval rs s = .ofBool b ↔ r.scopeIsLegal = true ∧ judge? rs r s = some (.ofBool b) := by
  unfold eval eval?
  by_cases hscope : r.scopeIsLegal = true
  · cases hjudge : judge? rs r s with
    | none => cases b <;> simp [hscope, Truth.ofBool]
    | some answer => simp [hscope]
  · cases b <;> simp [hscope, Truth.ofBool]

/-- Met under the certain reading, without a misuse. -/
def Met (rs : Ruleset) (r : Requirement) (s : Situation) : Prop :=
  r.isMet rs s .certain = .ok true

theorem met_iff {r : Requirement} :
    r.Met rs s ↔ r.isInvalid = false ∧ r.survivesIsLegal = true ∧ r.scopeIsLegal = true ∧
      judge? rs r s = some (.ofBool r.present) := by
  unfold Met isMet
  by_cases hinvalid : r.isInvalid = true
  · simp [hinvalid]
  by_cases hsurvives : r.survivesIsLegal = true
  · simp [hinvalid, hsurvives, Truth.meets_certain_iff, eval_eq_ofBool_iff]
  · simp [hinvalid, hsurvives]

theorem areMet_eq_ok_true_iff {reqs : List Requirement} {reading : Reading} :
    areMet rs reqs s reading = .ok true ↔ ∀ r ∈ reqs, r.isMet rs s reading = .ok true := by
  induction reqs with
  | nil => simp [areMet]
  | cons r rest ih =>
      cases hmet : r.isMet rs s reading with
      | error misuse => simp [areMet, hmet]
      | ok met =>
          cases met with
          | false => simp [areMet, hmet]
          | true => simp [areMet, hmet, ih]

theorem exists_isMet_iff {r : Requirement} {reading : Reading} :
    (∃ met, r.isMet rs s reading = .ok met) ↔ r.isInvalid = true ∨ r.survivesIsLegal = true := by
  unfold isMet
  by_cases hinvalid : r.isInvalid = true
  · simp [hinvalid]
  · by_cases hsurvives : r.survivesIsLegal = true <;> simp [hinvalid, hsurvives]

theorem exists_isMet {r : Requirement} (h : r.survivesIsLegal = true) (rs : Ruleset)
    (s : Situation) (reading : Reading) : ∃ met, r.isMet rs s reading = .ok met :=
  exists_isMet_iff.2 (.inr h)

theorem exists_areMet {reqs : List Requirement} (h : ∀ r ∈ reqs, r.survivesIsLegal = true)
    (rs : Ruleset) (s : Situation) (reading : Reading) :
    ∃ met, areMet rs reqs s reading = .ok met := by
  induction reqs with
  | nil => exact ⟨true, rfl⟩
  | cons r rest ih =>
      obtain ⟨met, hmet⟩ := exists_isMet (h r List.mem_cons_self) rs s reading
      simp only [areMet, hmet]
      cases met with
      | false => exact ⟨false, rfl⟩
      | true => exact ih fun r hr => h r (List.mem_cons_of_mem _ hr)

theorem areMet_eq_ok_false_iff {reqs : List Requirement} {reading : Reading}
    (h : ∀ r ∈ reqs, r.survivesIsLegal = true) :
    areMet rs reqs s reading = .ok false ↔ ∃ r ∈ reqs, r.isMet rs s reading = .ok false := by
  constructor
  · intro hfalse
    refine Classical.byContradiction fun hnone => ?_
    have hall : areMet rs reqs s reading = .ok true := by
      rw [areMet_eq_ok_true_iff]
      intro r hr
      obtain ⟨met, hmet⟩ := exists_isMet (h r hr) rs s reading
      cases met with
      | true => exact hmet
      | false => exact absurd ⟨r, hr, hmet⟩ hnone
    rw [hfalse] at hall
    cases hall
  · rintro ⟨r, hr, hfalse⟩
    obtain ⟨met, hmet⟩ := exists_areMet h rs s reading
    cases met with
    | false => exact hmet
    | true =>
        have hall := areMet_eq_ok_true_iff.1 hmet r hr
        rw [hfalse] at hall
        cases hall

theorem checked_eq_ok_iff {r : Requirement} :
    r.checked = .ok r ↔ r.scopeIsLegal = true ∧ r.survivesIsLegal = true := by
  unfold checked
  by_cases hscope : r.scopeIsLegal = true <;> by_cases hsurvives : r.survivesIsLegal = true <;>
    simp [hscope, hsurvives]

theorem judge?_congr {a b : Requirement} (hfact : a.fact = b.fact) (hscope : a.scope = b.scope)
    (hsurvives : a.survives = b.survives) : judge? rs a s = judge? rs b s := by
  unfold judge?
  rw [hfact, hscope, hsurvives]

end Requirement

end Rulebook
