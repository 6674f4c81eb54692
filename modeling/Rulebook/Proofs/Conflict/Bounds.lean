import Rulebook.Proofs.Conflict.Refutation
import Rulebook.Proofs.Conflict.Symmetry

/-!
Bounds on one number.

Many measures read a single number of the situation: the moves left to the unit,
the size of the city, the year.  A number that is at least so much and less than
no more cannot be, and every other pair of bounds has a number between them; so
requirements that bound such a measure from both sides conflict exactly if they
are never met together.  The open pairs are met where the number is the lower
bound itself.
-/

namespace Rulebook

/-! ## What is read -/

/-- The scopes in which a measure reads a single number of the situation, which may be any. -/
def Measure.readScopes : Measure → List Scope
  | .moveFragments | .hitPoints | .veteran => [.here]
  | .age => [.here, .city, .player]
  | .size | .culture => [.city]
  | .year | .calendarFragment => [.world]
  | .techs | .foreignPercent | .unitsOnTile => []

theorem Measure.readScopes_subset_scopes (m : Measure) :
    m.readScopes ⊆ (FactKind.measure m).scopes := by
  cases m <;> decide

namespace Situation

def turnsSince? (s : Situation) (born : Option Int) : Option Int :=
  s.world.bind fun w => born.map fun born => (ageM w born).modular

theorem known_turnsSince? (s : Situation) (born : Option Int) (least : Int) :
    Truth.known₂ s.world born (fun w born => decide ((ageM w born).modular ≥ least)) =
      .known (s.turnsSince? born) fun turns => turns ≥ least := by
  unfold turnsSince?
  cases s.world <;> cases born <;> rfl

def reading? (s : Situation) : Measure → Scope → Option Int
  | .moveFragments, .here => s.unit.map (·.movesLeft)
  | .hitPoints, .here => s.unit.map (·.hitPoints)
  | .veteran, .here => s.unit.map fun u => (u.veteran.toNat : Int)
  | .age, .here => s.turnsSince? (s.unit.map (·.birthTurn))
  | .age, .city => s.turnsSince? (s.city.map (·.foundedTurn))
  | .age, .player => s.turnsSince? (s.player.map (·.birthTurn))
  | .size, .city => s.city.map (·.size)
  | .culture, .city => s.city.map (·.culture)
  | .year, .world => s.world.map (·.info.year)
  | .calendarFragment, .world => s.world.map (·.info.calendarFragment)
  | _, _ => none

/-- A situation in which all that is measured reads the same. -/
def showing (n : Int) : Situation :=
  { world := some
      { info := { turn := n, year := n, calendarFragment := n }, map := ⟨⟨1, 1, {}⟩, #[]⟩ }
    player := some { id := ⟨0⟩, nation := ⟨0⟩, team := ⟨0⟩, government := ⟨0⟩ }
    city := some
      { id := ⟨0, 0⟩, owner := ⟨0⟩, originalOwner := ⟨0⟩, tile := 0, size := n, culture := n }
    unit := some
      { id := ⟨0, 0⟩, owner := ⟨0⟩, unitType := ⟨0⟩, tile := 0
        veteran := UInt8.ofNat n.toNat, movesLeft := n, hitPoints := n } }

theorem reading?_showing {m : Measure} {scope : Scope} (h : scope ∈ m.readScopes)
    (bound : m.Bound) : (showing (m.toInt bound)).reading? m scope = some (m.toInt bound) := by
  cases m <;> simp only [Measure.readScopes, List.mem_cons, List.not_mem_nil, or_false] at h
  case veteran =>
    subst h
    change some (((UInt8.ofNat bound.toNat).toNat : Int)) = some (bound.toNat : Int)
    rw [UInt8.ofNat_toNat]
  case age =>
    -- What came into being on turn 0 is as old as the turn says, which is a word.
    have hage : toWord ((bound.toInt : Int) - 0) = bound.toInt := by
      rw [Int.sub_zero]
      exact toWord_of_isWord ⟨bound.le_toInt, bound.toInt_lt⟩
    rcases h with rfl | rfl | rfl <;> exact congrArg some hage
  all_goals
    subst h
    rfl

end Situation

namespace Requirement

variable {rs : Ruleset} {s : Situation} {m : Measure} {scope : Scope}

def atLeast (m : Measure) (bound : m.Bound) (scope : Scope) (quiet : Bool := false) : Requirement :=
  { fact := .measure m bound, scope, quiet }

def below (m : Measure) (bound : m.Bound) (scope : Scope) (quiet : Bool := false) : Requirement :=
  (atLeast m bound scope quiet).negated

theorem judge?_measure {r : Requirement} {bound : m.Bound} (hfact : r.fact = .measure m bound)
    (h : r.scope ∈ m.readScopes) :
    judge? rs r s = some (.known (s.reading? m r.scope) fun n => n ≥ m.toInt bound) := by
  cases m <;> simp only [Measure.readScopes, List.mem_cons, List.not_mem_nil, or_false] at h
  case veteran =>
    rw [h]
    simp only [judge?, hfact, Situation.reading?]
    cases s.unit <;> simp [Truth.known, Measure.toInt, UInt8.le_iff_toNat_le]
  case age =>
    rcases h with h | h | h <;> rw [h] <;> simp only [judge?, hfact, h, ageTruth?] <;>
      exact congrArg some (s.known_turnsSince? _ _)
  case moveFragments | hitPoints =>
    rw [h]
    simp only [judge?, hfact, Situation.reading?]
    cases s.unit <;> rfl
  case year | calendarFragment =>
    rw [h]
    simp only [judge?, hfact, Situation.reading?]
    cases s.world <;> rfl
  case size | culture =>
    rw [h]
    simp only [judge?, hfact, h, cultureTruth?, Situation.someCity, Situation.reading?]
    cases s.city <;> rfl

theorem met_measure_iff {r : Requirement} {bound : m.Bound} (hfact : r.fact = .measure m bound)
    (h : r.scope ∈ m.readScopes) (hnow : r.survives = false) :
    r.Met rs s ↔ ∃ n ∈ s.reading? m r.scope, decide (m.toInt bound ≤ n) = r.present := by
  have hinvalid : r.isInvalid = false := by rw [isInvalid, hfact]; rfl
  have hsurvives : r.survivesIsLegal = true := by rw [survivesIsLegal, hnow]; rfl
  have hscope : r.scopeIsLegal = true := by
    rw [scopeIsLegal, kind, hfact]
    exact List.contains_iff_mem.2 (m.readScopes_subset_scopes h)
  rw [met_iff, judge?_measure hfact h, Option.some.injEq, Truth.known_eq_ofBool_iff]
  simp [hinvalid, hsurvives, hscope]

theorem met_atLeast_iff {bound : m.Bound} {quiet : Bool} (h : scope ∈ m.readScopes) :
    (atLeast m bound scope quiet).Met rs s ↔ ∃ n ∈ s.reading? m scope, m.toInt bound ≤ n := by
  rw [met_measure_iff (r := atLeast m bound scope quiet) rfl h rfl]
  simp [atLeast]

theorem met_below_iff {bound : m.Bound} {quiet : Bool} (h : scope ∈ m.readScopes) :
    (below m bound scope quiet).Met rs s ↔ ∃ n ∈ s.reading? m scope, n < m.toInt bound := by
  rw [met_measure_iff (r := below m bound scope quiet) rfl h rfl]
  simp [below, negated, atLeast]

theorem exists_met_iff {least most : m.Bound} {quiet quiet' : Bool} (h : scope ∈ m.readScopes) :
    (∃ s, (atLeast m least scope quiet).Met rs s ∧ (below m most scope quiet').Met rs s) ↔
      m.toInt least < m.toInt most := by
  simp only [met_atLeast_iff h, met_below_iff h]
  constructor
  · rintro ⟨s, ⟨n, hn, hleast⟩, ⟨n', hn', hmost⟩⟩
    obtain rfl : n = n' := Option.mem_unique hn hn'
    exact Int.lt_of_le_of_lt hleast hmost
  · intro hlt
    have hread := Situation.reading?_showing h least
    exact ⟨.showing (m.toInt least), ⟨_, hread, Int.le_refl _⟩, ⟨_, hread, hlt⟩⟩

/-! ## Which bounds conflict -/

theorem conflict_measures {a b : Requirement} {k : Measure} (ha : a.kind = .measure m)
    (hb : b.kind = .measure k) :
    rs.conflict a b = (a.opposes b || a.exceeds b || b.exceeds a) := by
  obtain ⟨x, hx⟩ := Fact.eq_measure_of_kind ha
  obtain ⟨y, hy⟩ := Fact.eq_measure_of_kind hb
  simp [Ruleset.conflict, Ruleset.genusConflicts, Ruleset.groupConflicts, relationsConflict,
    relationDemand?, hx, hy]

theorem lowerBound?_measure (h : scope ∈ m.readScopes) (bound : m.Bound) :
    Fact.lowerBound? (.measure m bound) = some (m, m.toInt bound) := by
  cases m <;> first | rfl | contradiction

theorem conflict_atLeast_below_iff {least most : m.Bound} {quiet quiet' : Bool}
    (h : scope ∈ m.readScopes) :
    rs.conflict (atLeast m least scope quiet) (below m most scope quiet') = true ↔
      m.toInt most ≤ m.toInt least := by
  have hequal : least = most → m.toInt most ≤ m.toInt least := by
    rintro rfl
    exact Int.le_refl _
  rw [conflict_measures rfl rfl]
  simpa [opposes, exceeds, atLeast, below, negated, lowerBound?_measure h] using hequal

theorem conflict_same_sign {a b : Requirement} {k : Measure} (ha : a.kind = .measure m)
    (hb : b.kind = .measure k) (hsign : a.present = b.present) : rs.conflict a b = false := by
  rw [conflict_measures ha hb]
  simp [opposes, exceeds, hsign]

end Requirement

namespace Ruleset

open Requirement

/-- Bounds from opposite sides conflict, whichever is named first, exactly if no situation keeps
both; bounds from the same side never do. -/
theorem bounds_conflict_exactly (rs : Ruleset) {m : Measure} {scope : Scope}
    (h : scope ∈ m.readScopes) :
    (∀ (least most : m.Bound) (quiet quiet' : Bool),
      let lower := atLeast m least scope quiet
      let upper := below m most scope quiet'
      (rs.conflict lower upper = true ↔ ¬ ∃ s, lower.Met rs s ∧ upper.Met rs s) ∧
        (rs.conflict upper lower = true ↔ ¬ ∃ s, lower.Met rs s ∧ upper.Met rs s)) ∧
    ∀ a b : Requirement, a.kind = .measure m → b.kind = .measure m → a.present = b.present →
      rs.conflict a b = false := by
  refine ⟨fun least most quiet quiet' => ?_, fun a b ha hb => conflict_same_sign ha hb⟩
  have hexact : rs.conflict (atLeast m least scope quiet) (below m most scope quiet') = true ↔
      ¬ ∃ s, (atLeast m least scope quiet).Met rs s ∧ (below m most scope quiet').Met rs s := by
    rw [conflict_atLeast_below_iff h, exists_met_iff h, Int.not_lt]
  exact ⟨hexact, by rw [conflict_comm]; exact hexact⟩

theorem moves_conflict_exactly :
    let three := atLeast .moveFragments 3 .here
    let one := below .moveFragments 1 .here
    let five := below .moveFragments 5 .here
    Scope.here ∈ Measure.moveFragments.readScopes ∧
      (∀ s, ¬ (three.Met {} s ∧ one.Met {} s)) ∧ (∃ s, three.Met {} s ∧ five.Met {} s) ∧
      Ruleset.conflict {} one five = false := by
  have h : Scope.here ∈ Measure.moveFragments.readScopes := List.mem_singleton.2 rfl
  obtain ⟨opposite, same⟩ := bounds_conflict_exactly {} h
  have hone := (opposite 3 1 false false).1.1 (by decide)
  have hfive := mt (opposite 3 5 false false).1.2 (by decide)
  refine ⟨h, fun s hs => hone ⟨s, hs⟩, Classical.not_not.1 hfive, same _ _ rfl rfl rfl⟩

end Ruleset

end Rulebook
