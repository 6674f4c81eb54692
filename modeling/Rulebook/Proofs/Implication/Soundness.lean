import Rulebook.Proofs.Conflict.Refutation
import Rulebook.Proofs.Implication.Inference
import Rulebook.Proofs.Implication.Overreach

/-!
Where implication keeps its word.

A member that is met and settles a requirement without a leap makes sure that
the requirement is met.  By a conflict this is what refutation says.  By an
inference it is shown for each of its cases: a fact that is affirmed is found
wherever the candidate is found, and a fact that is denied is not found if the
thing at hand is the only one to look at, or if nothing in the ruleset has it.
-/

namespace Rulebook

/-! ## What one hit says about another search -/

namespace Truth

theorem known₂_of_known₂_yes {α β : Type} {x : Option α} {y : Option β}
    {first second : α → β → Bool} {b : Bool} (h : some (known₂ x y first) = some .yes)
    (hb : ∀ a c, first a c = true → second a c = b) :
    some (known₂ x y second) = some (ofBool b) := by
  obtain ⟨a, c, hx, hy, hfirst⟩ := (known₂_eq_ofBool_iff (b := true)).1 (Option.some.inj h)
  rw [hx, hy, ← hb a c hfirst]
  rfl

theorem known_other {α β : Type} [BEq β] [LawfulBEq β] {value : Option α} {property : α → β}
    {x y : β} (hne : y ≠ x) (h : some (known value fun a => property a == x) = some .yes) :
    some (known value fun a => property a == y) = some .no := by
  apply known_of_known_yes (b := false) h
  intro a ha
  rw [beq_iff_eq.1 ha, beq_eq_false_iff_ne]
  exact hne.symm

end Truth

namespace Situation

variable {s : Situation} {scope : Scope}

theorem someTile_no {first second : Tile → Bool} (h : someTile s scope first = some .yes)
    (hnone : ∀ t, second t = false) : someTile s scope second = some .no := by
  have hany : ∀ w tiles, anyTile w tiles second = false := by
    intro w tiles
    simp only [anyTile, List.any_eq_false, Bool.not_eq_true]
    intro i _
    cases w.tile? i with
    | none => rfl
    | some t => exact hnone t
  cases scope <;> simp only [someTile] at h ⊢
  case here => exact Truth.known_of_known_yes (b := false) h fun t _ => hnone t
  case cardinal | adjacent | city =>
    exact Truth.known₂_of_known₂_yes (b := false) h fun w _ _ => hany w _
  case tradeRoute =>
    apply Truth.known₂_of_known₂_yes (b := false) h
    intro w c _
    simp [hany]
  all_goals contradiction

theorem somePlayer_no {first second : Player → Bool} (h : somePlayer s scope first = some .yes)
    (hnone : ∀ p, second p = false) : somePlayer s scope second = some .no := by
  have hany : ∀ players : List Player, players.any second = false := by
    intro players
    simp [hnone]
  cases scope <;> simp only [somePlayer] at h ⊢
  case player => exact Truth.known_of_known_yes (b := false) h fun p _ => hnone p
  case team | alliance =>
    exact Truth.known₂_of_known₂_yes (b := false) h fun _ _ _ => hany _
  case world => exact Truth.known_of_known_yes (b := false) h fun _ _ => hany _
  all_goals contradiction

theorem someTile_of_terrain {terrain : Ref Terrain} (holds : Ref Terrain → Bool) {b : Bool}
    (h : someTile s scope (fun t => t.terrain == terrain) = some .yes) (hb : holds terrain = b)
    (hwide : b = false → scope ≠ .here → ∀ other, holds other = false) :
    someTile s scope (fun t => holds t.terrain) = some (.ofBool b) := by
  by_cases hhere : scope = .here
  · subst hhere
    apply Truth.known_of_known_yes h
    intro t ht
    rw [beq_iff_eq.1 ht, hb]
  · cases b with
    | true =>
        apply (carries_someTile _).yes h
        intro t ht
        rw [beq_iff_eq.1 ht, hb]
    | false => exact someTile_no h fun t => hwide rfl hhere t.terrain

theorem someTile_of_extra {extra : Ref Extra} (holds : Ref Extra → Bool) {b : Bool}
    (h : someTile s scope (fun t => t.hasExtra extra) = some .yes) (hb : holds extra = b)
    (hbeside : b = false → ∀ other, holds other = false) :
    someTile s scope (fun t => t.extras.any holds) = some (.ofBool b) := by
  cases b with
  | true =>
      apply (carries_someTile _).yes h
      intro t ht
      exact List.any_eq_true.2 ⟨extra, List.contains_iff_mem.1 ht, hb⟩
  | false =>
      apply someTile_no h
      intro t
      simp [hbeside rfl]

theorem somePlayer_of_nation {nation : Ref Nation} (holds : Ref Nation → Bool) {b : Bool}
    (h : somePlayer s scope (fun p => p.nation == nation) = some .yes) (hb : holds nation = b)
    (hwide : b = false → scope ≠ .player → ∀ other, holds other = false) :
    somePlayer s scope (fun p => holds p.nation) = some (.ofBool b) := by
  by_cases hplayer : scope = .player
  · subst hplayer
    apply Truth.known_of_known_yes h
    intro p hp
    rw [beq_iff_eq.1 hp, hb]
  · cases b with
    | true =>
        apply (carries_somePlayer _).yes h
        intro p hp
        rw [beq_iff_eq.1 hp, hb]
    | false => exact somePlayer_no h fun p => hwide rfl hplayer p.nation

end Situation

namespace Requirement

variable {rs : Ruleset} {s : Situation} {m r : Requirement}

theorem met_of_answer (hchecked : r.checked = .ok r) (hread : r.isInvalid = false)
    (h : judge? rs r s = some (.ofBool r.present)) : r.Met rs s :=
  met_iff.2 ⟨hread, (checked_eq_ok_iff.1 hchecked).2, (checked_eq_ok_iff.1 hchecked).1, h⟩

theorem scope_of_survives_nation {n : Ref Nation} (hfact : m.fact = .entity .nation n)
    (hlegal : m.survivesIsLegal = true) (hsurvives : m.survives = true) : m.scope = .world := by
  rcases kind_of_survives hlegal hsurvives with hkind | ⟨-, hworld⟩
  · rw [kind, hfact] at hkind
    cases hkind
  · exact hworld

theorem any_players_of_alive {w : World} {test : Player → Bool}
    (h : w.alivePlayers.any test = true) : w.players.any test = true := by
  obtain ⟨p, hp, htest⟩ := List.any_eq_true.1 h
  exact List.any_eq_true.2 ⟨p, (World.mem_alivePlayers.1 hp).1, htest⟩

theorem judge?_past (hfact : m.fact = r.fact) (hscope : m.scope = r.scope)
    (hnow : m.survives = false) (hpast : r.survives = true) (hlegal : r.survivesIsLegal = true)
    (hkind : r.kind ≠ .entity .building) (h : judge? rs m s = some .yes) :
    judge? rs r s = some .yes := by
  obtain hbuilding | ⟨hkind', hworld⟩ := kind_of_survives hlegal hpast
  · contradiction
  rw [hworld] at hscope
  rcases hkind' with htech | hnation
  · obtain ⟨tech, htech⟩ := Fact.eq_entity_of_kind htech
    simp only [judge?, hfact, htech, hscope, hnow, hpast, Situation.somePlayer] at h ⊢
    refine (Truth.carries_known ?_).yes h
    intro w hknown
    rw [World.techEverKnown, any_players_of_alive hknown, Bool.or_true]
  · obtain ⟨nation, hnation⟩ := Fact.eq_entity_of_kind hnation
    simp only [judge?, hfact, hnation, hscope, hnow, hpast, Situation.somePlayer] at h ⊢
    refine (Truth.carries_known ?_).yes h
    intro w hknown
    rw [World.nationEverInPlay, any_players_of_alive hknown, Bool.or_true]

/-! ## A fact of the same kind -/

/-- A fact that is found is found again, across past and present unless that is a leap. -/
theorem affirm_same (hfact : m.fact = r.fact) (hscope : m.scope = r.scope)
    (hpresent : m.present = true) (hr : r.present = true) (hchecked : r.checked = .ok r)
    (hverdict : m.fact.verdict rs .standard r = .yes) (hno : ¬ rs.Overreaches m r)
    (hm : m.Met rs s) : judge? rs r s = some .yes := by
  have hyes := hm.yes hpresent
  have hlegal := (checked_eq_ok_iff.1 hchecked).2
  cases hsurvives : m.survives <;> cases hsurvives' : r.survives
  case false.true =>
    apply judge?_past hfact hscope hsurvives hsurvives' hlegal _ hyes
    intro hkind
    exact hno ⟨hm.survivesIsLegal, .toPast hscope hpresent hr hverdict hkind hsurvives hsurvives'⟩
  case true.false =>
    exact absurd ⟨hm.survivesIsLegal, .fromPast hscope hpresent hr hverdict hsurvives hsurvives'⟩
      hno
  all_goals
    rw [← hyes]
    exact (judge?_congr hfact hscope (hsurvives.trans hsurvives'.symm)).symm

theorem onNativeTile?_eq_some_iff {w : World} {u : GameUnit} {b : Bool} :
    onNativeTile? rs w u = some b ↔
      ∃ c t, rs.classOfUnitType? u.unitType = some c ∧ w.tile? u.tile = some t ∧
        rs.isNative c t.terrain = b := by
  unfold onNativeTile?
  cases rs.classOfUnitType? u.unitType <;> cases w.tile? u.tile <;> simp

theorem someNative_of_yes {u : GameUnit} (h : unitStateTruth rs s u .onNativeTile = .yes) :
    rs.SomeNative := by
  obtain ⟨native, hknown, hnative⟩ := (Truth.known_eq_ofBool_iff (b := true)).1 h
  obtain ⟨w, -, hanswer⟩ := Option.bind_eq_some_iff.1 hknown
  obtain ⟨c, t, hc, -, hholds⟩ := onNativeTile?_eq_some_iff.1 hanswer
  exact ⟨u.unitType, c, t.terrain, hc, hholds.trans hnative⟩

theorem known_of_livable {u : GameUnit} (h : unitStateTruth rs s u .onLivableTile = .yes) :
    ∃ w c t, s.world = some w ∧ rs.classOfUnitType? u.unitType = some c ∧
      w.tile? u.tile = some t := by
  obtain ⟨native, -, hknown, -, -⟩ := (Truth.known₂_eq_ofBool_iff (b := true)).1 h
  obtain ⟨w, hw, hanswer⟩ := Option.bind_eq_some_iff.1 hknown
  obtain ⟨c, t, hc, ht, -⟩ := onNativeTile?_eq_some_iff.1 hanswer
  exact ⟨w, c, t, hw, hc, ht⟩

theorem known_of_domestic {u : GameUnit} (h : unitStateTruth rs s u .onDomesticTile = .yes) :
    ∃ w t, s.world = some w ∧ w.tile? u.tile = some t := by
  obtain ⟨t, hknown, -⟩ := (Truth.known_eq_ofBool_iff (b := true)).1 h
  obtain ⟨w, hw, ht⟩ := Option.bind_eq_some_iff.1 hknown
  exact ⟨w, t, hw, ht⟩

theorem native_no {u : GameUnit} (hnone : ¬ rs.SomeNative) {w : World} {c : Ref UnitClass}
    {t : Tile} (hw : s.world = some w) (hc : rs.classOfUnitType? u.unitType = some c)
    (ht : w.tile? u.tile = some t) : unitStateTruth rs s u .onNativeTile = .no := by
  have hnot : rs.isNative c t.terrain = false :=
    Bool.eq_false_iff.2 fun hnative => hnone ⟨u.unitType, c, t.terrain, hc, hnative⟩
  have hanswer : onNativeTile? rs w u = some false :=
    onNativeTile?_eq_some_iff.2 ⟨c, t, hc, ht, hnot⟩
  simp [unitStateTruth, hw, hanswer, Truth.known, Truth.ofBool]

theorem unitState_no {u : GameUnit} {first second : UnitState} (hne : second ≠ first)
    (hno : ¬ rs.StatesCoexist first second) (h : unitStateTruth rs s u first = .yes) :
    unitStateTruth rs s u second = .no := by
  cases first
  case transported | transporting | hasHomeCity => exact absurd trivial hno
  case onNativeTile => exact absurd (someNative_of_yes h) hno
  case onLivableTile =>
    obtain ⟨w, c, t, hw, hc, ht⟩ := known_of_livable h
    have hclass : ∃ t, rs.classOfUnitType? t ≠ none := ⟨u.unitType, by simp [hc]⟩
    cases second
    case onNativeTile => exact native_no hno hw hc ht
    case onLivableTile => contradiction
    all_goals exact absurd hclass hno
  case onDomesticTile =>
    cases second
    case onNativeTile =>
      obtain ⟨w, t, hw, ht⟩ := known_of_domestic h
      simp only [Ruleset.StatesCoexist, not_or, not_exists] at hno
      obtain ⟨c, hc⟩ := Option.ne_none_iff_exists'.1 (hno.2 u.unitType)
      exact native_no hno.1 hw hc ht
    case onDomesticTile => contradiction
    all_goals exact absurd trivial hno

theorem deny_other (hkind : r.kind = m.kind) (hreason : (Reasoners.standard m.kind).isSome)
    (hne : r.fact ≠ m.fact) (hscope : m.scope = r.scope) (hchecked : r.checked = .ok r)
    (hno : ¬ rs.Coexist m.scope m.fact r.fact) (hm : m.Met rs s)
    (hyes : judge? rs m s = some .yes) : judge? rs r s = some .no := by
  have hlegal := hm.scopeIsLegal
  cases hf : m.fact with
  | none | flag | measure | invalid =>
      rw [kind, hf] at hreason
      contradiction
  | choice k x =>
      rw [kind, kind, hf] at hkind
      obtain ⟨y, hg⟩ := Fact.eq_choice_of_kind hkind
      have hother : y ≠ x := fun heq => hne (by rw [hf, hg, heq])
      rw [hf, hg] at hno
      cases k
      case output | vision | intelligence | activity =>
        simp only [judge?, hf, hg] at hyes ⊢
        exact Truth.known_other hother hyes
      case aiLevel =>
        have hplayer : m.scope = .player := scope_eq_of_scopes hlegal hf rfl
        have hplayer' : r.scope = .player := hscope.symm.trans hplayer
        simp only [judge?, hf, hg, hplayer, hplayer', Situation.somePlayer] at hyes ⊢
        exact Truth.known_other (fun heq => hother (Option.some.inj heq)) hyes
      case unitState =>
        simp only [judge?, hf, hg] at hyes ⊢
        split at hyes
        · contradiction
        · exact congrArg some (unitState_no hother hno (Option.some.inj hyes))
      case topology | cityStatus => exact absurd trivial hno
      all_goals
        rw [kind, hf] at hreason
        contradiction
  | entity k x =>
      rw [kind, kind, hf] at hkind
      obtain ⟨y, hg⟩ := Fact.eq_entity_of_kind hkind
      have hother : y ≠ x := fun heq => hne (by rw [hf, hg, heq])
      rw [hf, hg] at hno
      cases k
      case action | specialist | unitType =>
        simp only [judge?, hf, hg] at hyes ⊢
        exact Truth.known_other hother hyes
      case unitClass =>
        simp only [judge?, hf, hg] at hyes ⊢
        exact Truth.known_other (fun heq => hother (Option.some.inj heq)) hyes
      case government =>
        have hplayer : m.scope = .player := scope_eq_of_scopes hlegal hf rfl
        have hplayer' : r.scope = .player := hscope.symm.trans hplayer
        simp only [judge?, hf, hg, hplayer, hplayer', Situation.somePlayer] at hyes ⊢
        exact Truth.known_other hother hyes
      case building =>
        have hhere : m.scope = .here := Decidable.not_not.1 hno
        rw [judge?_building_here hf hhere] at hyes
        rw [judge?_building_here hg (hscope.symm.trans hhere)]
        exact Truth.known_other hother hyes
      case terrain =>
        have hhere : m.scope = .here := Decidable.not_not.1 hno
        simp only [judge?, hf, hg, hhere, ← hscope] at hyes ⊢
        exact Truth.known_other hother hyes
      case nation =>
        have hplayer : m.scope = .player := Decidable.not_not.1 hno
        have hlegal' := (checked_eq_ok_iff.1 hchecked).2
        rw [judge?_nation_player hf hplayer hm.survivesIsLegal] at hyes
        rw [judge?_nation_player hg (hscope.symm.trans hplayer) hlegal']
        exact Truth.known_other hother hyes
      case tech | achievement | good | serverSetting | extra => exact absurd trivial hno
      all_goals
        rw [kind, hf] at hreason
        contradiction

/-! ## By an inference -/

theorem answer_group {n : Ref Nation} {g : Ref NationGroup} (hf : m.fact = .entity .nation n)
    (hg : r.fact = .entity .nationGroup g) (hscope : m.scope = r.scope)
    (hlegal : m.survivesIsLegal = true) (hpast : m.survives = true → rs.nationInGroup n g = false)
    (hnone : rs.nationInGroup n g = false → m.scope ≠ .player →
      ∀ other, rs.nationInGroup other g = false)
    (hyes : judge? rs m s = some .yes) : judge? rs r s = some (.ofBool (rs.nationInGroup n g)) := by
  cases hsurvives : m.survives with
  | false =>
      simp only [judge?, hf, hg, ← hscope, hsurvives] at hyes ⊢
      exact Situation.somePlayer_of_nation (fun n => rs.nationInGroup n g) hyes rfl hnone
  | true =>
      have hworld : m.scope = .world := scope_of_survives_nation hf hlegal hsurvives
      have hwide : m.scope ≠ .player := by
        rw [hworld]
        decide
      rw [hpast hsurvives]
      simp only [judge?, hf, hg, ← hscope, hworld, hsurvives, Situation.somePlayer] at hyes ⊢
      apply Truth.known_of_known_yes (b := false) hyes
      intro w _
      simp [hnone (hpast hsurvives) hwide]

theorem not_coexist (hscope : m.scope = r.scope) (hpresent : m.present = true)
    (hno : ¬ rs.Overreaches m r) (hm : m.Met rs s) (hr : r.present = false) :
    ¬ rs.Coexist m.scope m.fact r.fact := by
  intro hcoexist
  exact hno ⟨hm.survivesIsLegal, .fromOne hscope hpresent hr hcoexist⟩

theorem answer_of_verdict (hscope : m.scope = r.scope) (hpresent : m.present = true)
    (hchecked : r.checked = .ok r) (hverdict : m.fact.verdict rs .standard r = .yes)
    (hno : ¬ rs.Overreaches m r) (hm : m.Met rs s) : judge? rs r s = some (.ofBool r.present) := by
  have hyes := hm.yes hpresent
  have hlegal := (checked_eq_ok_iff.1 hchecked).1
  have hcoexist := not_coexist hscope hpresent hno hm
  have hinference := Inference.of_verdict hverdict
  generalize hf : m.fact = f at hinference
  generalize hg : r.fact = g at hinference
  generalize hsign : r.present = b at hinference ⊢
  rw [hsign, hf, hg] at hcoexist
  cases hinference with
  | sameKind hkind hreason =>
      by_cases hfact : g = f
      · have hr : r.present = true := by rw [hsign, hfact, beq_self_eq_true]
        rw [hfact, beq_self_eq_true]
        exact affirm_same (by rw [hf, hg, hfact]) hscope hpresent hr hchecked hverdict hno hm
      · have hother : (g == f) = false := beq_eq_false_iff_ne.2 hfact
        subst hf hg
        rw [hother]
        exact deny_other hkind hreason hfact hscope hchecked (hcoexist hother) hm hyes
  | genus building genus =>
      have hhere : r.scope = .here := scope_eq_of_scopes hlegal hg rfl
      rw [judge?_building_here hf (hscope.trans hhere)] at hyes
      rw [judge?_genus hg]
      apply Truth.known_of_known_yes hyes
      intro b hb
      rw [beq_iff_eq.1 hb]
  | unitFlag t flag | unitClass t flag | unitClassFlag t flag =>
      simp only [judge?, hf, hg] at hyes ⊢
      apply Truth.known_of_known_yes hyes
      intro t' ht'
      rw [beq_iff_eq.1 ht']
  | classFlag c flag =>
      simp only [judge?, hf, hg] at hyes ⊢
      apply Truth.known_of_known_yes hyes
      intro t ht
      rw [Ruleset.classOfUnitTypeHasFlag, beq_iff_eq.1 ht]
      rfl
  | terrainClass t c =>
      simp only [judge?, hf, hg, ← hscope] at hyes ⊢
      apply Situation.someTile_of_terrain (fun t => rs.terrainClass? t == some c) hyes rfl
      intro hfalse hwide other
      exact Bool.eq_false_iff.2 fun hclass =>
        hcoexist hfalse ⟨hwide, other, beq_iff_eq.1 hclass⟩
  | terrainFlag t flag =>
      simp only [judge?, hf, hg, ← hscope] at hyes ⊢
      apply Situation.someTile_of_terrain (fun t => rs.terrainHasFlag t flag) hyes rfl
      intro hfalse hwide other
      exact Bool.eq_false_iff.2 fun hflag => hcoexist hfalse ⟨hwide, other, hflag⟩
  | alteration t a =>
      have hhere : r.scope = .here := scope_eq_of_scopes hlegal hg rfl
      simp only [judge?, hf, hg, hscope, hhere] at hyes ⊢
      apply Situation.someTile_of_terrain (fun t => rs.terrainAllows t a) hyes rfl
      intro _ hwide
      contradiction
  | extraFlag e flag | baseFlag e flag | roadFlag e flag =>
      simp only [judge?, hf, hg, ← hscope] at hyes ⊢
      apply Situation.someTile_of_extra _ hyes rfl
      intro hfalse other
      exact Bool.eq_false_iff.2 fun hflag => hcoexist hfalse ⟨other, hflag⟩
  | group n g =>
      apply answer_group hf hg hscope hm.survivesIsLegal _ _ hyes
      · -- the nation may be on record only, so to affirm its group would be a leap
        intro hpast
        have hnow : r.survives = false := by
          apply survives_eq_false (checked_eq_ok_iff.1 hchecked).2
          rw [kind, hg]
          rfl
        rw [← hsign]
        exact Bool.eq_false_iff.2 fun hr =>
          hno ⟨hm.survivesIsLegal, .fromPast hscope hpresent hr hverdict hpast hnow⟩
      · intro hfalse hwide other
        exact Bool.eq_false_iff.2 fun hgroup => hcoexist hfalse ⟨hwide, other, hgroup⟩

/-! ## By a conflict -/

theorem isInvalid_of_conflict (h : rs.conflict m r = true) (hr : r.isInvalid = true) :
    m.isInvalid = true := by
  have hfact : r.fact = .invalid := beq_iff_eq.1 hr
  have hbound : r.fact.lowerBound? = none := by rw [hfact]; rfl
  have hdemand : r.relationDemand? = none := by rw [relationDemand?, hfact]
  simp only [Ruleset.conflict, Bool.or_eq_true] at h
  rcases h with ((((((h | h) | h) | h) | h) | h) | h) | h
  · simp only [opposes, Bool.and_eq_true, beq_iff_eq] at h
    rw [isInvalid, h.1.1.1, hfact]
    rfl
  · simp [exceeds, hbound] at h
  · simp [exceeds, hbound] at h
  · simp [Ruleset.genusConflicts, hfact] at h
  · simp [Ruleset.genusConflicts, hfact] at h
  · simp [Ruleset.groupConflicts, hfact] at h
  · simp [Ruleset.groupConflicts, hfact] at h
  · simp [relationsConflict, hdemand] at h

theorem met_of_conflict (hs : s.Placed) (hchecked : r.checked = .ok r)
    (hconflict : rs.conflict m r.negated = true) (hno : ¬ rs.Overreaches m r) (hm : m.Met rs s) :
    r.Met rs s := by
  have hread : r.isInvalid = false := by
    apply Bool.eq_false_iff.2
    intro hinvalid
    have hmember := isInvalid_of_conflict hconflict hinvalid
    rw [(met_iff.1 hm).1] at hmember
    contradiction
  have hrefuted : r.negated.Refuted rs s := by
    apply refuted_of_conflict hs hconflict hm (checked_eq_ok_iff.1 hchecked).2
    intro hrelations hhere
    by_cases hmember : m.scope = .here
    · obtain ⟨x, -, hx, -⟩ := relationsConflict_iff.1 hrelations
      exact hm.exists_other hx hmember
    · exact absurd ⟨hm.survivesIsLegal, .toOther hrelations hhere hmember⟩ hno
  apply met_of_answer hchecked hread
  have hanswer : judge? rs r.negated s = some (.ofBool !r.negated.present) := hrefuted
  rwa [judge?_congr (a := r.negated) (b := r) rfl rfl rfl, negated, Bool.not_not] at hanswer

/-! ## Both ways -/

/-- A member that is met and settles the requirement without a leap has it met. -/
theorem met_of_settles {p : Standpoint} (hreasoners : p.reasoners = .standard) (hs : s.Placed)
    (hchecked : r.checked = .ok r) (hsettles : p.settles m r = true)
    (hno : ¬ p.ruleset.Overreaches m r) (hm : m.Met p.ruleset s) : r.Met p.ruleset s := by
  simp only [Standpoint.settles, Bool.or_eq_true, Bool.and_eq_true, beq_iff_eq, hreasoners]
    at hsettles
  rcases hsettles with hconflict | ⟨⟨hpresent, hscope⟩, hverdict⟩
  · exact met_of_conflict hs hchecked hconflict hno hm
  · exact met_of_answer hchecked (Inference.of_verdict hverdict).target_ne_invalid
      (answer_of_verdict hscope hpresent hchecked hverdict hno hm)

end Requirement

end Rulebook
