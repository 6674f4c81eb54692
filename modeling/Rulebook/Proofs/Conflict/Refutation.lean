import Rulebook.Conflict.Basic
import Rulebook.Proofs.Evaluation.Relation

/-!
A requirement that is met refutes what it conflicts with.

Refuted is more than not met: the answer is settled, against the sign.  Each rule
of `Ruleset.conflict` is taken in both directions, since the requirement that is
met may stand on either side.  Only a relation towards the other player at hand
can stay open, when it conflicts with a demand in a wider scope and there is no
other player; `refuted_of_conflict` asks for one in that case.
-/

namespace Rulebook

namespace Requirement

variable {rs : Ruleset} {s : Situation} {a b : Requirement}

def Refuted (rs : Ruleset) (r : Requirement) (s : Situation) : Prop :=
  judge? rs r s = some (.ofBool !r.present)

theorem Met.answer {r : Requirement} (h : r.Met rs s) :
    judge? rs r s = some (.ofBool r.present) :=
  (met_iff.1 h).2.2.2

theorem Met.yes {r : Requirement} (h : r.Met rs s) (hpresent : r.present = true) :
    judge? rs r s = some .yes := by
  have hanswer := h.answer
  rwa [hpresent] at hanswer

theorem Met.survivesIsLegal {r : Requirement} (h : r.Met rs s) : r.survivesIsLegal = true :=
  (met_iff.1 h).2.1

theorem Met.scopeIsLegal {r : Requirement} (h : r.Met rs s) : r.scopeIsLegal = true :=
  (met_iff.1 h).2.2.1

theorem Refuted.not_met {r : Requirement} (h : r.Refuted rs s) : ¬ r.Met rs s := by
  intro hmet
  have hanswer := hmet.answer
  rw [h] at hanswer
  have hsign := Truth.ofBool_injective (Option.some.inj hanswer)
  simp at hsign

theorem survives_eq_false {r : Requirement} (h : r.survivesIsLegal = true)
    (hscope : r.kind.survivingScopes.contains r.scope = false) : r.survives = false := by
  simpa only [survivesIsLegal, hscope, Bool.or_false, Bool.not_eq_true'] using h

theorem scope_eq_of_scopes {r : Requirement} {f : Fact} {scope : Scope} (hlegal : r.scopeIsLegal = true)
    (hfact : r.fact = f) (hone : f.kind.scopes = [scope]) : r.scope = scope := by
  rw [scopeIsLegal, kind, hfact, hone] at hlegal
  simpa using hlegal

theorem kind_of_survives {r : Requirement} (hlegal : r.survivesIsLegal = true) (hsurvives : r.survives = true) :
    r.kind = .entity .building ∨
      ((r.kind = .entity .tech ∨ r.kind = .entity .nation) ∧ r.scope = .world) := by
  have hscope : r.kind.survivingScopes.contains r.scope = true := by
    simpa [survivesIsLegal, hsurvives] using hlegal
  unfold FactKind.survivingScopes at hscope
  split at hscope
  · exact .inl ‹_›
  · exact .inr ⟨.inl ‹_›, by simpa using hscope⟩
  · exact .inr ⟨.inr ‹_›, by simpa using hscope⟩
  · contradiction

theorem scopeIsLegal_of_survives {r : Requirement} (hlegal : r.survivesIsLegal = true)
    (hsurvives : r.survives = true) : r.scopeIsLegal = true := by
  have hscope : r.kind.survivingScopes.contains r.scope = true := by
    simpa [survivesIsLegal, hsurvives] using hlegal
  exact List.contains_iff_mem.2
    (r.kind.survivingScopes_subset_scopes (List.contains_iff_mem.1 hscope))

theorem isSocial_of_survives {r : Requirement} (hlegal : r.survivesIsLegal = true)
    (hsurvives : r.survives = true) : r.scope.isSocial = true := by
  have hscope : r.kind.survivingScopes.contains r.scope = true := by
    simpa [survivesIsLegal, hsurvives] using hlegal
  revert hscope
  unfold FactKind.survivingScopes
  split <;> cases r.scope <;> decide

/-! ## Opposites and bounds -/

theorem refuted_of_opposes (h : a.opposes b = true) (ha : a.Met rs s) : b.Refuted rs s := by
  simp only [opposes, Bool.and_eq_true, beq_iff_eq, bne_iff_ne] at h
  obtain ⟨⟨⟨hfact, hscope⟩, hsurvives⟩, hsign⟩ := h
  have hpresent : a.present = !b.present := by
    revert hsign
    cases a.present <;> cases b.present <;> simp
  rw [Refuted, ← judge?_congr hfact hscope hsurvives, ha.answer, hpresent]

theorem lowerBound?_eq_some {f : Fact} {m : Measure} {n : Int}
    (h : f.lowerBound? = some (m, n)) :
    m ≠ .unitsOnTile ∧ ∃ bound, f = .measure m bound ∧ n = m.toInt bound := by
  cases f with
  | measure k bound =>
      cases k <;> simp only [Fact.lowerBound?, Option.some.injEq, Prod.mk.injEq, reduceCtorEq] at h
      all_goals
        obtain ⟨rfl, rfl⟩ := h
        exact ⟨by decide, bound, rfl, rfl⟩
  | _ => simp [Fact.lowerBound?] at h

theorem carries_measure {m : Measure} {x y : m.Bound} (hm : m ≠ .unitsOnTile)
    (hle : m.toInt y ≤ m.toInt x) (ha : a.fact = .measure m x) (hb : b.fact = .measure m y)
    (hscope : a.scope = b.scope) : Truth.Carries (judge? rs a s) (judge? rs b s) := by
  have trans : ∀ {value : Int}, decide (value ≥ m.toInt x) = true →
      decide (value ≥ m.toInt y) = true := by
    intro value h
    simp only [ge_iff_le, decide_eq_true_eq] at h ⊢
    exact Int.le_trans hle h
  cases m <;> simp only [judge?, ha, hb, hscope]
  case unitsOnTile => contradiction
  case veteran =>
    apply Truth.carries_known
    intro u h
    have hbound : y.toNat ≤ x.toNat := Int.ofNat_le.1 hle
    simp only [ge_iff_le, decide_eq_true_eq, UInt8.le_iff_toNat_le] at h ⊢
    exact Nat.le_trans hbound h
  case moveFragments | hitPoints => exact Truth.carries_known fun _ => trans
  case year | calendarFragment => exact Truth.carries_known fun _ => trans
  case size | foreignPercent => exact Situation.carries_someCity fun _ => trans
  case techs =>
    split
    · exact Truth.carries_known fun _ => trans
    · exact Situation.carries_somePlayer fun _ => trans
  case age =>
    unfold ageTruth?
    split
    all_goals first
      | exact Truth.carries_known₂ fun _ _ => trans
      | exact .refl _
  case culture =>
    unfold cultureTruth?
    split
    · exact Situation.carries_someCity fun _ => trans
    · exact Situation.carries_someCity fun _ => trans
    · split
      · exact .refl _
      · exact Situation.carries_somePlayer fun _ => trans

theorem carries_of_exceeds (rs : Ruleset) (s : Situation) (h : a.exceeds b = true) :
    a.present = true ∧ b.present = false ∧ Truth.Carries (judge? rs a s) (judge? rs b s) := by
  simp only [exceeds, Bool.and_eq_true, Bool.not_eq_true', beq_iff_eq] at h
  obtain ⟨⟨⟨⟨hpresent, habsent⟩, hscope⟩, -⟩, hbounds⟩ := h
  split at hbounds
  · next m least k most hleast hmost =>
      simp only [Bool.and_eq_true, beq_iff_eq, decide_eq_true_eq] at hbounds
      obtain ⟨rfl, hle⟩ := hbounds
      obtain ⟨hm, x, hx, rfl⟩ := lowerBound?_eq_some hleast
      obtain ⟨-, y, hy, rfl⟩ := lowerBound?_eq_some hmost
      exact ⟨hpresent, habsent, carries_measure hm hle hx hy hscope⟩
  · contradiction

theorem refuted_of_exceeds (h : a.exceeds b = true) (ha : a.Met rs s) : b.Refuted rs s := by
  obtain ⟨hpresent, habsent, carries⟩ := carries_of_exceeds rs s h
  have hyes := ha.answer
  rw [hpresent] at hyes
  rw [Refuted, habsent]
  exact carries.yes hyes

theorem refuted_of_exceeded (h : b.exceeds a = true) (ha : a.Met rs s) : b.Refuted rs s := by
  obtain ⟨hpresent, habsent, carries⟩ := carries_of_exceeds rs s h
  have hno := ha.answer
  rw [habsent] at hno
  rw [Refuted, hpresent]
  exact carries.no hno

/-! ## Buildings and nations -/

theorem judge?_building_here {r : Requirement} {building : Ref Building}
    (hfact : r.fact = .entity .building building) (hscope : r.scope = .here) :
    judge? rs r s = some (.known s.building (· == building)) := by
  simp [judge?, buildingTruth?, hfact, hscope]

theorem judge?_genus {r : Requirement} {genus : BuildingGenus}
    (hfact : r.fact = .choice .genus genus) :
    judge? rs r s = some (.known s.building fun b => rs.buildingGenus? b == some genus) := by
  simp [judge?, hfact]

theorem judge?_nation_player {r : Requirement} {nation : Ref Nation}
    (hfact : r.fact = .entity .nation nation) (hscope : r.scope = .player)
    (hlegal : r.survivesIsLegal = true) :
    judge? rs r s = some (.known s.player fun p => p.nation == nation) := by
  have hsurvives : r.survives = false := by
    apply survives_eq_false hlegal
    rw [kind, hfact, hscope]
    rfl
  simp [judge?, Situation.somePlayer, hfact, hscope, hsurvives]

theorem judge?_nationGroup_player {r : Requirement} {group : Ref NationGroup}
    (hfact : r.fact = .entity .nationGroup group) (hscope : r.scope = .player) :
    judge? rs r s = some (.known s.player fun p => rs.nationInGroup p.nation group) := by
  simp [judge?, Situation.somePlayer, hfact, hscope]

theorem genusConflicts_iff {building genus : Requirement} :
    rs.genusConflicts building genus = true ↔
      ∃ b g actual, building.fact = .entity .building b ∧ genus.fact = .choice .genus g ∧
        building.present = true ∧ building.scope = .here ∧ genus.scope = .here ∧
        rs.buildingGenus? b = some actual ∧ genus.present = !(actual == g) := by
  unfold Ruleset.genusConflicts
  constructor
  · intro h
    split at h
    · next b g hbuilding hgenus =>
        simp only [Bool.and_eq_true, beq_iff_eq, Option.any_eq_true, bne_iff_ne] at h
        obtain ⟨⟨⟨hpresent, hscope⟩, hscope'⟩, actual, hactual, hsign⟩ := h
        exact ⟨b, g, actual, hbuilding, hgenus, hpresent, hscope, hscope', hactual,
          Bool.eq_not.2 hsign⟩
    · contradiction
  · rintro ⟨b, g, actual, hbuilding, hgenus, hpresent, hscope, hscope', hactual, hsign⟩
    simp [hbuilding, hgenus, hpresent, hscope, hscope', hactual, hsign]

theorem refuted_of_genusConflicts (h : rs.genusConflicts a b = true) (ha : a.Met rs s) :
    b.Refuted rs s := by
  obtain ⟨building, g, actual, hfact, hgenus, hpresent, hscope, -, hactual, hsign⟩ :=
    genusConflicts_iff.1 h
  have hyes := ha.answer
  rw [hpresent, judge?_building_here hfact hscope] at hyes
  rw [Refuted, judge?_genus hgenus]
  apply Truth.known_of_known_yes hyes
  intro known hknown
  rw [beq_iff_eq.1 hknown, hactual, hsign]
  simp

theorem refuted_of_genusConflicted (h : rs.genusConflicts b a = true) (ha : a.Met rs s) :
    b.Refuted rs s := by
  obtain ⟨building, g, actual, hfact, hgenus, hpresent, hscope, -, hactual, hsign⟩ :=
    genusConflicts_iff.1 h
  have hanswer := ha.answer
  rw [judge?_genus hgenus, Option.some.injEq, Truth.known_eq_ofBool_iff] at hanswer
  obtain ⟨known, hknown, hmatches⟩ := hanswer
  -- the building at hand does not have the genus of the one that is demanded
  have hne : known ≠ building := by
    rintro rfl
    rw [hactual, hsign] at hmatches
    simp at hmatches
  have hother : (known == building) = false := beq_eq_false_iff_ne.2 hne
  rw [Refuted, judge?_building_here hfact hscope, hpresent, hknown, Truth.known, hother]
  rfl

theorem groupConflicts_iff {nation group : Requirement} :
    rs.groupConflicts nation group = true ↔
      ∃ n g, nation.fact = .entity .nation n ∧ group.fact = .entity .nationGroup g ∧
        nation.present = true ∧ nation.scope = .player ∧ group.scope = .player ∧
        group.present = !rs.nationInGroup n g := by
  unfold Ruleset.groupConflicts
  constructor
  · intro h
    split at h
    · next n g hnation hgroup =>
        simp only [Bool.and_eq_true, beq_iff_eq, bne_iff_ne] at h
        obtain ⟨⟨⟨hpresent, hscope⟩, hscope'⟩, hsign⟩ := h
        exact ⟨n, g, hnation, hgroup, hpresent, hscope, hscope', Bool.eq_not.2 hsign⟩
    · contradiction
  · rintro ⟨n, g, hnation, hgroup, hpresent, hscope, hscope', hsign⟩
    simp [hnation, hgroup, hpresent, hscope, hscope', hsign]

theorem refuted_of_groupConflicts (h : rs.groupConflicts a b = true) (ha : a.Met rs s) :
    b.Refuted rs s := by
  obtain ⟨n, g, hnation, hgroup, hpresent, hscope, hscope', hsign⟩ := groupConflicts_iff.1 h
  have hyes := ha.answer
  rw [hpresent, judge?_nation_player hnation hscope ha.survivesIsLegal] at hyes
  rw [Refuted, judge?_nationGroup_player hgroup hscope']
  apply Truth.known_of_known_yes hyes
  intro p hp
  rw [beq_iff_eq.1 hp, hsign, Bool.not_not]

theorem refuted_of_groupConflicted (h : rs.groupConflicts b a = true) (ha : a.Met rs s)
    (hb : b.survivesIsLegal = true) : b.Refuted rs s := by
  obtain ⟨n, g, hnation, hgroup, hpresent, hscope, hscope', hsign⟩ := groupConflicts_iff.1 h
  have hanswer := ha.answer
  rw [judge?_nationGroup_player hgroup hscope', Option.some.injEq,
    Truth.known_eq_ofBool_iff] at hanswer
  obtain ⟨p, hp, hmatches⟩ := hanswer
  have hne : p.nation ≠ n := by
    intro heq
    rw [heq, hsign] at hmatches
    simp at hmatches
  have hother : (p.nation == n) = false := beq_eq_false_iff_ne.2 hne
  rw [Refuted, judge?_nation_player hnation hscope hb, hpresent, hp, Truth.known, hother]
  rfl

/-! ## Relations -/

theorem judge?_of_relationDemand? (rs : Ruleset) (s : Situation) {r : Requirement}
    {d : RelationDemand} (h : r.relationDemand? = some d) :
    judge? rs r s = d.answer s ∧ r.present = d.present ∧ r.scope = d.scope := by
  unfold relationDemand? at h
  split at h
  · next relation hfact =>
      cases Option.some.inj h
      simp [judge?, RelationDemand.answer, hfact]
  · contradiction

end Requirement

namespace RelationDemand

variable {s : Situation} {x y : RelationDemand}

theorem refuted_of_narrow (hs : s.Placed) (hx : x.inScope = true) (hy : y.inScope = true)
    (hrelation : x.relation = y.relation)
    (hlt : Vocabulary.index x.scope < Vocabulary.index y.scope)
    (hpresent : x.present = true) (habsent : y.present = false)
    (h : x.answer s = some (.ofBool x.present)) : y.answer s = some (.ofBool !y.present) := by
  rw [hpresent] at h
  rw [habsent]
  exact answer_widen hs hrelation hx hy (Nat.le_of_lt hlt) h

theorem refuted_of_yes_carries (hy : y.inScope = true) (hpresent : y.present = true)
    (habsent : x.present = false) (h : x.answer s = some (.ofBool x.present))
    (hother : y.scope = .here → ∃ other, s.otherPlayer = some other)
    (carries : y.answer s = some .yes → x.answer s = some .yes) :
    y.answer s = some (.ofBool !y.present) := by
  obtain ⟨⟨w, p, hw, hp⟩, -⟩ := exists_of_answer h
  obtain ⟨b, hb⟩ := exists_answer hy hw hp hother
  rw [habsent] at h
  rw [hb, hpresent]
  cases b with
  | false => rfl
  | true =>
      rw [carries hb] at h
      cases h

theorem foreign_of_here (hs : s.Placed) {relation : Relation} {present : Bool}
    (hy : y.inScope = true) (hforeign : y.relation = .foreign)
    (h : answer ⟨relation, .here, present⟩ s = some .yes) : y.answer s = some .yes := by
  obtain ⟨⟨w, p, hw, hp⟩, hother⟩ := exists_of_answer (b := true) h
  obtain ⟨other, hknown⟩ := hother rfl
  rw [answer_here hw hp hknown] at h
  have hrelated : w.related p.id other.id relation = true := by simpa using h
  let here : RelationDemand := ⟨.foreign, .here, true⟩
  have hhere : here.answer s = some .yes := by
    rw [answer_here hw hp hknown, World.related_foreign_of_related hrelated]
    rfl
  have hrelation : here.relation = y.relation := hforeign.symm
  exact answer_widen hs hrelation rfl hy (Nat.zero_le _) hhere

theorem refuted_of_conflicts (hs : s.Placed) (hconflict : x.conflicts y = true)
    (h : x.answer s = some (.ofBool x.present))
    (hother : y.scope = .here → ∃ other, s.otherPlayer = some other) :
    y.answer s = some (.ofBool !y.present) := by
  simp only [conflicts, Bool.and_eq_true] at hconflict
  obtain ⟨⟨hx, hy⟩, hrule⟩ := hconflict
  split at hrule
  · next hrelation =>
      have hrelation := beq_iff_eq.1 hrelation
      split at hrule
      · next hscope =>
          have hpresent : x.present = !y.present := Bool.eq_not.2 (bne_iff_ne.1 hrule)
          rw [← hpresent, ← h]
          simp only [answer, hrelation, beq_iff_eq.1 hscope]
      · next hscope =>
          unfold narrowWithoutWide at hrule
          split at hrule
          · next hlt =>
              simp only [Bool.and_eq_true, Bool.not_eq_true'] at hrule
              exact refuted_of_narrow hs hx hy hrelation hlt hrule.1 hrule.2 h
          · next hlt =>
              simp only [Bool.and_eq_true, Bool.not_eq_true'] at hrule
              exact refuted_of_yes_carries hy hrule.1 hrule.2 h hother
                (answer_widen hs hrelation.symm hy hx (Nat.le_of_not_lt hlt))
  · next hrelation =>
      obtain ⟨relation, scope, present⟩ := x
      obtain ⟨relation', scope', present'⟩ := y
      simp only [Bool.or_eq_true, Bool.and_eq_true, holdsHere, forbidsForeigners, beq_iff_eq,
        Bool.not_eq_true'] at hrule
      rcases hrule with (⟨⟨⟨⟨rfl, rfl⟩, rfl, rfl⟩, hstate⟩, hstate'⟩ | ⟨⟨rfl, rfl⟩, rfl, rfl⟩) |
        ⟨⟨rfl, rfl⟩, rfl, rfl⟩
      · obtain ⟨⟨w, p, hw, hp⟩, hknown⟩ := exists_of_answer h
        obtain ⟨other, hother⟩ := hknown rfl
        rw [answer_here hw hp hother] at h ⊢
        have hrelated : w.related p.id other.id relation = true :=
          Truth.ofBool_injective (Option.some.inj h)
        have hne : w.related p.id other.id relation' = false := by
          apply Bool.eq_false_iff.2
          intro hrelated'
          exact hrelation (beq_iff_eq.2
            (World.eq_of_related_of_isState hstate hstate' hrelated hrelated'))
        rw [hne]
        rfl
      · exact foreign_of_here hs hy rfl h
      · exact refuted_of_yes_carries hy rfl rfl h hother (foreign_of_here hs hx rfl)

/-- A demand in a wider scope conflicts with one on the spot only where it rules out what the
other asks for. -/
theorem signs_of_conflicts (h : x.conflicts y = true) (hhere : y.scope = .here)
    (hwide : x.scope ≠ .here) :
    x.scope.isSocial = true ∧ x.present = false ∧ y.present = true := by
  simp only [conflicts, Bool.and_eq_true] at h
  obtain ⟨⟨hx, -⟩, hrule⟩ := h
  refine ⟨(here_or_isSocial hx).resolve_left hwide, ?_⟩
  split at hrule
  · split at hrule
    · next hscope =>
        rw [hhere] at hscope
        exact absurd (beq_iff_eq.1 hscope) hwide
    · have hle : ¬ Vocabulary.index x.scope < Vocabulary.index y.scope := by
        rw [hhere]
        exact Nat.not_lt_zero _
      rw [narrowWithoutWide, if_neg hle] at hrule
      simpa [and_comm] using hrule
  · have hscope : (x.scope == Scope.here) = false := beq_eq_false_iff_ne.2 hwide
    simp only [holdsHere, forbidsForeigners, hscope, Bool.false_and, Bool.false_or,
      Bool.and_eq_true, Bool.not_eq_true'] at hrule
    exact ⟨hrule.2.2, hrule.1.2⟩

end RelationDemand

namespace Requirement

variable {rs : Ruleset} {s : Situation} {a b : Requirement}

theorem relationsConflict_iff :
    a.relationsConflict b = true ↔ ∃ x y, a.relationDemand? = some x ∧ b.relationDemand? = some y ∧
      x.conflicts y = true := by
  unfold relationsConflict
  cases ha : a.relationDemand? <;> cases hb : b.relationDemand? <;> simp

theorem refuted_of_relationsConflict (hs : s.Placed) (h : a.relationsConflict b = true)
    (ha : a.Met rs s) (hother : b.scope = .here → ∃ other, s.otherPlayer = some other) :
    b.Refuted rs s := by
  obtain ⟨x, y, hx, hy, hconflict⟩ := relationsConflict_iff.1 h
  obtain ⟨hanswer, hpresent, -⟩ := judge?_of_relationDemand? rs s hx
  obtain ⟨hanswer', hpresent', hscope'⟩ := judge?_of_relationDemand? rs s hy
  have hmet := ha.answer
  rw [hanswer, hpresent] at hmet
  rw [Refuted, hanswer', hpresent']
  exact RelationDemand.refuted_of_conflicts hs hconflict hmet fun hhere =>
    hother (hscope'.trans hhere)

theorem fact_of_relationDemand? {r : Requirement} {d : RelationDemand}
    (h : r.relationDemand? = some d) : r.fact = .choice .relation d.relation := by
  unfold relationDemand? at h
  split at h
  · next relation hfact =>
      cases Option.some.inj h
      exact hfact
  · contradiction

theorem Met.exists_other {r : Requirement} (h : r.Met rs s) {d : RelationDemand}
    (hdemand : r.relationDemand? = some d) (hhere : r.scope = .here) :
    ∃ other, s.otherPlayer = some other := by
  obtain ⟨hanswer, -, hscope⟩ := judge?_of_relationDemand? rs s hdemand
  have hmet := h.answer
  rw [hanswer] at hmet
  exact (RelationDemand.exists_of_answer hmet).2 (hscope.symm.trans hhere)

/-- What is met refutes what it conflicts with. -/
theorem refuted_of_conflict (hs : s.Placed) (h : rs.conflict a b = true) (ha : a.Met rs s)
    (hb : b.survivesIsLegal = true)
    (hother : a.relationsConflict b = true → b.scope = .here →
      ∃ other, s.otherPlayer = some other) : b.Refuted rs s := by
  simp only [Ruleset.conflict, Bool.or_eq_true] at h
  rcases h with ((((((h | h) | h) | h) | h) | h) | h) | h
  · exact refuted_of_opposes h ha
  · exact refuted_of_exceeds h ha
  · exact refuted_of_exceeded h ha
  · exact refuted_of_genusConflicts h ha
  · exact refuted_of_genusConflicted h ha
  · exact refuted_of_groupConflicts h ha
  · exact refuted_of_groupConflicted h ha hb
  · exact refuted_of_relationsConflict hs h ha (hother h)

end Requirement

end Rulebook
