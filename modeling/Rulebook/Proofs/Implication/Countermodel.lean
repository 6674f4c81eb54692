import Rulebook.Proofs.Conflict.Refutation
import Rulebook.Proofs.Implication.Inference
import Rulebook.Proofs.Implication.Overreach
import Rulebook.Proofs.Implication.Scene

/-!
Where implication does not keep its word.

For every leap there is a situation in which the member is met and the
requirement is not.  Where two facts can coexist it is a scene that has both;
for the past it is a world that has the record only, or the thing only; towards
another player it is a world with nobody else in it.
-/

namespace Rulebook

/-- A situation in which the member is met and the requirement is not. -/
def Requirement.Separated (rs : Ruleset) (m r : Requirement) : Prop :=
  ∃ s : Situation, s.Placed ∧ m.Met rs s ∧ ¬ r.Met rs s

/-! ## What holds in a scene -/

namespace Scene

variable {rs : Ruleset} {c : Scene} {r : Requirement}

theorem isSocial_of_legal {f : Fact} (hfact : r.fact = f)
    (hscopes : f.kind.scopes = [.player, .team, .alliance, .world])
    (hlegal : r.scopeIsLegal = true) : r.scope.isSocial = true := by
  rw [Requirement.scopeIsLegal, Requirement.kind, hfact, hscopes] at hlegal
  revert hlegal
  cases r.scope <;> decide

theorem scopes_of_legal {f : Fact} {k : FactKind} (hfact : r.fact = f)
    (hscopes : f.kind.scopes = k.scopes) (hlegal : r.scopeIsLegal = true) :
    k.scopes.contains r.scope = true := by
  rwa [Requirement.scopeIsLegal, Requirement.kind, hfact, hscopes] at hlegal

theorem judge?_tech {tech : Ref Technology} (hfact : r.fact = .entity .tech tech)
    (hlegal : r.scopeIsLegal = true) (h : tech ∈ c.techs) :
    judge? rs r c.situation = some .yes := by
  have hknows : c.leader.knowsTech tech = true := List.contains_iff_mem.2 h
  simp only [judge?, hfact]
  split
  · have hever : c.world.techEverKnown tech = true := by
      simp [World.techEverKnown, world, hknows]
    exact congrArg (some ∘ Truth.ofBool) hever
  · exact somePlayer_yes (isSocial_of_legal hfact rfl hlegal)
      (leader_mem_covered (isSocial_of_legal hfact rfl hlegal)) hknows

theorem judge?_achievement {a : Ref Achievement} (hfact : r.fact = .entity .achievement a)
    (hlegal : r.scopeIsLegal = true) (h : a ∈ c.achievements) :
    judge? rs r c.situation = some .yes := by
  simp only [judge?, hfact]
  exact somePlayer_yes (isSocial_of_legal hfact rfl hlegal)
    (leader_mem_covered (isSocial_of_legal hfact rfl hlegal)) (List.contains_iff_mem.2 h)

theorem judge?_nation {p : Player} (hfact : r.fact = .entity .nation p.nation)
    (hlegal : r.scopeIsLegal = true) (hp : p ∈ c.world.covered c.leader r.scope) :
    judge? rs r c.situation = some .yes := by
  have hsocial := isSocial_of_legal hfact rfl hlegal
  have hsame : (p.nation == p.nation) = true := beq_self_eq_true _
  simp only [judge?, hfact]
  split
  · have hplayers : p ∈ c.world.players := by
      have halive : p ∈ c.world.covered c.leader .world :=
        World.covered_subset (placed.player _ rfl _ rfl) hsocial rfl (Scope.index_le_world _) hp
      exact (World.mem_alivePlayers.1 halive).1
    have hever : c.world.nationEverInPlay p.nation = true := by
      rw [World.nationEverInPlay, List.any_eq_true.2 ⟨p, hplayers, hsame⟩, Bool.or_true]
    exact congrArg (some ∘ Truth.ofBool) hever
  · exact somePlayer_yes hsocial hp hsame

theorem judge?_building {building : Ref Building} (hfact : r.fact = .entity .building building)
    (hlegal : r.scopeIsLegal = true) (hsurvives : r.survivesIsLegal = true)
    (hwide : r.scope ≠ .here) (hbuilt : r.survives = false → building ∈ c.buildings)
    (hrecord : r.survives = true → building ∈ c.records) :
    judge? rs r c.situation = some .yes := by
  rw [Requirement.scopeIsLegal, Requirement.kind, hfact] at hlegal
  simp only [judge?, hfact]
  cases h : r.survives with
  | false => exact buildingTruth?_stands hlegal hwide (hbuilt h)
  | true =>
      have hsocial : r.scope.isSocial = true := by
        rw [Requirement.survivesIsLegal, h, Requirement.kind, hfact] at hsurvives
        change (FactKind.entity .building).survivingScopes.contains r.scope = true at hsurvives
        revert hsurvives
        cases r.scope <;> decide
      exact buildingTruth?_recorded hsocial (hrecord h)

theorem judge?_good {good : Ref Good} (hfact : r.fact = .entity .good good)
    (hlegal : r.scopeIsLegal = true) (h : good ∈ c.goods) :
    judge? rs r c.situation = some .yes := by
  have hcity : r.scope = .city := by
    rw [Requirement.scopeIsLegal, Requirement.kind, hfact] at hlegal
    exact List.mem_singleton.1 (List.contains_iff_mem.1 hlegal)
  simp only [judge?, hfact, hcity]
  exact someCity_yes (by decide) (fun city => city.goods.contains good) (List.contains_iff_mem.2 h)

theorem judge?_cityStatus {status : CityStatus} (hfact : r.fact = .choice .cityStatus status)
    (hlegal : r.scopeIsLegal = true) : judge? rs r c.situation = some .yes := by
  simp only [judge?, hfact]
  apply someCity_yes (scopes_of_legal hfact rfl hlegal)
  cases status <;> rfl

theorem lookup_setting {setting : Ref ServerSetting} {settings : List (Ref ServerSetting)}
    (h : setting ∈ settings) :
    (settings.map fun setting => (setting, true)).lookup setting = some true := by
  induction settings with
  | nil => contradiction
  | cons first rest ih =>
      rw [List.map_cons, List.lookup_cons]
      split
      · rfl
      · next hne => exact ih (List.mem_of_ne_of_mem (by simpa using hne) h)

theorem judge?_setting {setting : Ref ServerSetting}
    (hfact : r.fact = .entity .serverSetting setting) (h : setting ∈ c.settings) :
    judge? rs r c.situation = some .yes := by
  have henabled : c.world.info.settingEnabled rs setting = true := by
    simp only [GameInfo.settingEnabled, world, lookup_setting h]
  simp only [judge?, hfact]
  exact congrArg (some ∘ Truth.ofBool) henabled

theorem judge?_topology {flag : TopologyFlag} (hfact : r.fact = .choice .topology flag) :
    judge? rs r c.situation = some .yes := by
  simp only [judge?, hfact]
  cases flag <;> rfl

theorem judge?_extra {extra : Ref Extra} (hfact : r.fact = .entity .extra extra)
    (hlegal : r.scopeIsLegal = true) (h : extra ∈ c.extras) :
    judge? rs r c.situation = some .yes := by
  simp only [judge?, hfact]
  exact someTile_near (scopes_of_legal hfact rfl hlegal) (List.contains_iff_mem.2 h)

end Scene

namespace Requirement

variable {rs : Ruleset} {m r : Requirement}

theorem met_of_yes {s : Situation} {f : Fact} (hfact : m.fact = f) (hread : f.isInvalid = false)
    (hpresent : m.present = true) (hlegal : m.scopeIsLegal = true)
    (hsurvives : m.survivesIsLegal = true) (hyes : judge? rs m s = some .yes) : m.Met rs s := by
  refine met_iff.2 ⟨?_, hsurvives, hlegal, ?_⟩
  · rw [isInvalid, hfact, hread]
  · rw [hyes, hpresent]
    rfl

theorem not_met_of_answer {s : Situation} (h : judge? rs r s ≠ some (.ofBool r.present)) :
    ¬ r.Met rs s :=
  fun hmet => h hmet.answer

theorem scopeIsLegal_of_scopes {f g : Fact} (hf : m.fact = f) (hg : r.fact = g)
    (hscopes : f.kind.scopes = g.kind.scopes) (hscope : m.scope = r.scope)
    (hlegal : r.scopeIsLegal = true) : m.scopeIsLegal = true := by
  rw [scopeIsLegal, kind, hf, hscopes, hscope]
  rwa [scopeIsLegal, kind, hg] at hlegal

/-! ## One value and the absence of another -/

structure Denies (m r : Requirement) : Prop where
  scope : m.scope = r.scope
  present : m.present = true
  absent : r.present = false
  survivesIsLegal : m.survivesIsLegal = true
  checked : r.checked = .ok r

namespace Denies

theorem scopeIsLegal (h : Denies m r) : r.scopeIsLegal = true := (checked_eq_ok_iff.1 h.checked).1

theorem scopeIsLegal_member (h : Denies m r) {f g : Fact} (hf : m.fact = f) (hg : r.fact = g)
    (hscopes : f.kind.scopes = g.kind.scopes) : m.scopeIsLegal = true :=
  scopeIsLegal_of_scopes hf hg hscopes h.scope h.scopeIsLegal

theorem separated_of_both (h : Denies m r) {f g : Fact} (hf : m.fact = f) (hg : r.fact = g)
    (hread : f.isInvalid = false) (hscopes : f.kind.scopes = g.kind.scopes) {s : Situation}
    (hs : s.Placed) (hyes : judge? rs m s = some .yes) (hno : judge? rs r s ≠ some .no) :
    Separated rs m r := by
  have hlegal : m.scopeIsLegal = true := h.scopeIsLegal_member hf hg hscopes
  refine ⟨s, hs, met_of_yes hf hread h.present hlegal h.survivesIsLegal hyes, ?_⟩
  apply not_met_of_answer
  rw [h.absent]
  exact hno

theorem separated_in_scene (h : Denies m r) {f g : Fact} (hf : m.fact = f) (hg : r.fact = g)
    (hread : f.isInvalid = false) (hscopes : f.kind.scopes = g.kind.scopes) (c : Scene)
    (hyes : judge? rs m c.situation = some .yes) (hyes' : judge? rs r c.situation = some .yes) :
    Separated rs m r := by
  refine h.separated_of_both hf hg hread hscopes Scene.placed hyes ?_
  rw [hyes']
  decide

theorem separated_of_states (h : Denies m r) {first second : UnitState}
    (hf : m.fact = .choice .unitState first) (hg : r.fact = .choice .unitState second)
    (hcoexist : rs.StatesCoexist first second) : Separated rs m r := by
  have both : ∀ s u, s.Placed → s.unit = some u → unitStateTruth rs s u first = .yes →
      unitStateTruth rs s u second ≠ .no → Separated rs m r := by
    intro s u hs hu hyes hno
    refine h.separated_of_both hf hg rfl rfl hs ?_ ?_
    · simp [judge?, hf, hu, hyes]
    · simp [judge?, hg, hu, hno]
  have native : rs.SomeNative → Separated rs m r := by
    rintro ⟨t, k, terrain, hclass, hnative⟩
    let c : Scene := { unitType := t, terrain }
    refine both c.situation c.warrior Scene.placed rfl (Scene.state_yes hclass hnative first) ?_
    rw [Scene.state_yes hclass hnative second]
    decide
  cases first
  case transported | transporting | hasHomeCity =>
    -- without a world nothing is known about the tile of the unit
    refine both { unit := some ({} : Scene).warrior } _ ⟨by simp, by simp⟩ rfl rfl ?_
    cases second <;> rintro ⟨⟩
  case onNativeTile => exact native hcoexist
  case onLivableTile =>
    by_cases hnative : second = .onNativeTile
    · subst hnative
      exact native hcoexist
    · have hclass : ∃ t, rs.classOfUnitType? t ≠ none := by
        cases second <;> first | contradiction | exact hcoexist
      obtain ⟨t, hclass⟩ := hclass
      obtain ⟨k, hclass⟩ := Option.ne_none_iff_exists'.1 hclass
      let c : Scene := { unitType := t }
      exact both c.situation c.warrior Scene.placed rfl (Scene.livable_of_class hclass)
        (Scene.state_ne_no hnative)
  case onDomesticTile =>
    by_cases hnative : second = .onNativeTile
    · subst hnative
      rcases hcoexist with hsome | ⟨t, hclass⟩
      · exact native hsome
      · -- of a unit without a class it stays open whether it is at home on the terrain
        let c : Scene := { unitType := t }
        refine both c.situation c.warrior Scene.placed rfl rfl ?_
        rw [(Scene.open_of_no_class hclass).1]
        decide
    · let c : Scene := {}
      exact both c.situation c.warrior Scene.placed rfl rfl (Scene.state_ne_no hnative)

theorem separated_of_extra (h : Denies m r) {x y : Ref Extra} {g : Fact}
    (hf : m.fact = .entity .extra x) (hg : r.fact = g)
    (hscopes : (FactKind.entity .extra).scopes = g.kind.scopes) (holds : Ref Extra → Bool)
    (hjudge : ∀ s, judge? rs r s = s.someTile r.scope fun t => t.extras.any holds)
    (hholds : holds y = true) : Separated rs m r := by
  have hlegal := h.scopeIsLegal_member hf hg hscopes
  let c : Scene := { extras := [x, y] }
  refine h.separated_in_scene hf hg rfl hscopes c ?_ ?_
  · exact Scene.judge?_extra hf hlegal List.mem_cons_self
  · rw [hjudge]
    apply Scene.someTile_near
    · rw [← h.scope]
      exact Scene.scopes_of_legal hf rfl hlegal
    · exact List.any_eq_true.2 ⟨y, List.mem_cons_of_mem _ List.mem_cons_self, hholds⟩

theorem separated_of_terrain (h : Denies m r) {x y : Ref Terrain} {g : Fact}
    (hf : m.fact = .entity .terrain x) (hg : r.fact = g)
    (hscopes : (FactKind.entity .terrain).scopes = g.kind.scopes) (hwide : m.scope ≠ .here)
    (holds : Ref Terrain → Bool)
    (hjudge : ∀ s, judge? rs r s = s.someTile r.scope fun t => holds t.terrain)
    (hholds : holds y = true) : Separated rs m r := by
  have hlegal := h.scopeIsLegal_member hf hg hscopes
  have hplaces := Scene.scopes_of_legal hf rfl hlegal
  let c : Scene := { terrain := x, farTerrain := y }
  refine h.separated_in_scene hf hg rfl hscopes c ?_ ?_
  · simp only [judge?, hf]
    exact Scene.someTile_near hplaces (beq_self_eq_true x)
  · rw [hjudge, ← h.scope]
    exact Scene.someTile_far hplaces hwide hholds

theorem separated_of_nation (h : Denies m r) {x y : Ref Nation} {g : Fact}
    (hf : m.fact = .entity .nation x) (hg : r.fact = g)
    (hscopes : (FactKind.entity .nation).scopes = g.kind.scopes) (hwide : m.scope ≠ .player)
    (hpartner : ∀ c : Scene, c.partnerNation = y → c.partner ∈ c.world.covered c.leader r.scope →
      judge? rs r c.situation = some .yes) : Separated rs m r := by
  have hlegal := h.scopeIsLegal_member hf hg hscopes
  let c : Scene := { nation := x, partnerNation := y }
  have hcovered : c.world.covered c.leader m.scope = [c.leader, c.partner] :=
    Scene.covered_eq (Scene.isSocial_of_legal hf rfl hlegal) hwide
  refine h.separated_in_scene hf hg rfl hscopes c ?_ (hpartner c rfl ?_)
  · exact Scene.judge?_nation (p := c.leader) hf hlegal (by simp [hcovered])
  · rw [← h.scope, hcovered]
    exact List.mem_cons_of_mem _ List.mem_cons_self

theorem separated_of_coexist (h : Denies m r) (hcoexist : rs.Coexist m.scope m.fact r.fact) :
    Separated rs m r := by
  have hlegal := h.scopeIsLegal
  generalize hf : m.fact = f at hcoexist
  generalize hg : r.fact = g at hcoexist
  have hlegal' : f.kind.scopes = g.kind.scopes → m.scopeIsLegal = true :=
    h.scopeIsLegal_member hf hg
  unfold Ruleset.Coexist at hcoexist
  split at hcoexist
  next x y =>
    apply h.separated_in_scene hf hg rfl rfl { techs := [x, y] }
    · exact Scene.judge?_tech hf (hlegal' rfl) (by simp)
    · exact Scene.judge?_tech hg hlegal (by simp)
  next x y =>
    apply h.separated_in_scene hf hg rfl rfl { achievements := [x, y] }
    · exact Scene.judge?_achievement hf (hlegal' rfl) (by simp)
    · exact Scene.judge?_achievement hg hlegal (by simp)
  next x y =>
    apply h.separated_in_scene hf hg rfl rfl { goods := [x, y] }
    · exact Scene.judge?_good hf (hlegal' rfl) (by simp)
    · exact Scene.judge?_good hg hlegal (by simp)
  next x y =>
    apply h.separated_in_scene hf hg rfl rfl { settings := [x, y] }
    · exact Scene.judge?_setting hf (by simp)
    · exact Scene.judge?_setting hg (by simp)
  next x y =>
    apply h.separated_in_scene hf hg rfl rfl { extras := [x, y] }
    · exact Scene.judge?_extra hf (hlegal' rfl) (by simp)
    · exact Scene.judge?_extra hg hlegal (by simp)
  next x y =>
    apply h.separated_in_scene hf hg rfl rfl {}
    · exact Scene.judge?_topology hf
    · exact Scene.judge?_topology hg
  next x y =>
    apply h.separated_in_scene hf hg rfl rfl {}
    · exact Scene.judge?_cityStatus hf (hlegal' rfl)
    · exact Scene.judge?_cityStatus hg hlegal
  next x y => exact h.separated_of_states hf hg hcoexist
  next x flag =>
    obtain ⟨y, hholds⟩ := hcoexist
    apply h.separated_of_extra hf hg rfl (fun e => rs.extraHasFlag e flag) _ hholds
    simp only [judge?, hg, implies_true]
  next x flag =>
    obtain ⟨y, hholds⟩ := hcoexist
    apply h.separated_of_extra hf hg rfl (fun e => rs.extraHasBaseFlag e flag) _ hholds
    simp only [judge?, hg, implies_true]
  next x flag =>
    obtain ⟨y, hholds⟩ := hcoexist
    apply h.separated_of_extra hf hg rfl (fun e => rs.extraHasRoadFlag e flag) _ hholds
    simp only [judge?, hg, implies_true]
  next x y =>
    have hwide : r.scope ≠ .here := h.scope ▸ hcoexist
    have hsurvives := (checked_eq_ok_iff.1 h.checked).2
    apply h.separated_in_scene hf hg rfl rfl { buildings := [x, y], records := [x, y] }
    · exact Scene.judge?_building hf (hlegal' rfl) h.survivesIsLegal hcoexist (by simp) (by simp)
    · exact Scene.judge?_building hg hlegal hsurvives hwide (by simp) (by simp)
  next x y =>
    apply h.separated_of_terrain hf hg rfl hcoexist (fun t => t == y) _ (beq_self_eq_true y)
    simp only [judge?, hg, implies_true]
  next x k =>
    obtain ⟨hwide, y, hholds⟩ := hcoexist
    apply h.separated_of_terrain hf hg rfl hwide (fun t => rs.terrainClass? t == some k) _
      (beq_iff_eq.2 hholds)
    simp only [judge?, hg, implies_true]
  next x flag =>
    obtain ⟨hwide, y, hholds⟩ := hcoexist
    apply h.separated_of_terrain hf hg rfl hwide (fun t => rs.terrainHasFlag t flag) _ hholds
    simp only [judge?, hg, implies_true]
  next x y =>
    apply h.separated_of_nation (y := y) hf hg rfl hcoexist
    rintro c rfl hpartner
    exact Scene.judge?_nation (p := c.partner) hg hlegal hpartner
  next x group =>
    obtain ⟨hwide, y, hholds⟩ := hcoexist
    apply h.separated_of_nation (y := y) hf hg rfl hwide
    rintro c rfl hpartner
    simp only [judge?, hg]
    exact Scene.somePlayer_yes (Scene.isSocial_of_legal hg rfl hlegal) hpartner hholds
  next => contradiction

end Denies

/-! ## The past and the present -/

def ruins (history : History) : Situation where
  world := some { info := { turn := 0, year := 0 }, map := ⟨Scene.geometry, #[]⟩, history }

theorem ruins_placed (history : History) : (ruins history).Placed := by
  constructor <;> rintro _ _ _ ⟨⟩

theorem not_met_in_ruins {history : History} {test : Player → Bool} (hr : r.present = true)
    (h : judge? rs r (ruins history) = (ruins history).somePlayer .world test) :
    ¬ r.Met rs (ruins history) := by
  apply not_met_of_answer
  rw [h, hr]
  rintro ⟨⟩

theorem separated_of_past (hscope : m.scope = r.scope) (hpresent : m.present = true)
    (hr : r.present = true) (hverdict : m.fact.verdict rs .standard r = .yes)
    (hpast : m.survives = true) (hnow : r.survives = false)
    (hsurvives : m.survivesIsLegal = true) (hchecked : r.checked = .ok r) : Separated rs m r := by
  have hlegal := (checked_eq_ok_iff.1 hchecked).1
  have hlegal' : m.scopeIsLegal = true := scopeIsLegal_of_survives hsurvives hpast
  have hinference := Inference.of_verdict hverdict
  rw [hr] at hinference
  rcases kind_of_survives hsurvives hpast with hbuilding | ⟨htech | hnation, hworld⟩
  · obtain ⟨b, hf⟩ := Fact.eq_entity_of_kind hbuilding
    have hsocial : m.scope.isSocial = true := isSocial_of_survives hsurvives hpast
    rw [hf] at hinference
    have hfact : r.fact = .entity .building b := by
      rcases hinference.kind_of_building with hkind | hgenus
      · exact hinference.eq_of_kind hkind
      · -- a genus is asked for on the spot, where there is no history
        rw [hscope, scope_eq_of_scopes hlegal rfl (by rw [hgenus]; rfl)] at hsocial
        contradiction
    let c : Scene := { records := [b] }
    refine ⟨c.situation, Scene.placed, ?_, ?_⟩
    · apply met_of_yes hf rfl hpresent hlegal' hsurvives
      simp only [judge?, hf, hpast]
      exact Scene.buildingTruth?_recorded hsocial (List.mem_singleton.2 rfl)
    · have hno : buildingTruth? c.situation m.scope false b = some .no :=
        Scene.buildingTruth?_no hsocial (fun _ => rfl) (by simp)
      apply not_met_of_answer
      simp only [judge?, hfact, hnow, ← hscope]
      rw [hno, hr]
      decide
  · obtain ⟨tech, hf⟩ := Fact.eq_entity_of_kind htech
    rw [hf] at hinference
    have hfact : r.fact = .entity .tech tech := hinference.eq_of_kind hinference.kind_of_tech
    refine ⟨ruins { techsEverKnown := [tech] }, ruins_placed _, ?_, ?_⟩
    · apply met_of_yes hf rfl hpresent hlegal' hsurvives
      simp [judge?, hf, hpast, ruins, Truth.known, World.techEverKnown]
    · apply not_met_in_ruins hr
      simp only [judge?, hfact, hnow, ← hscope, hworld]
      rfl
  · obtain ⟨n, hf⟩ := Fact.eq_entity_of_kind hnation
    rw [hf] at hinference
    refine ⟨ruins { nationsEverInPlay := [n] }, ruins_placed _, ?_, ?_⟩
    · apply met_of_yes hf rfl hpresent hlegal' hsurvives
      simp [judge?, hf, hpast, ruins, Truth.known, World.nationEverInPlay]
    · rw [hscope] at hworld
      rcases hinference.kind_of_nation with hkind | hgroup
      · apply not_met_in_ruins hr
        simp only [judge?, hinference.eq_of_kind hkind, hnow, hworld]
        rfl
      · obtain ⟨group, hg⟩ := Fact.eq_entity_of_kind hgroup
        apply not_met_in_ruins hr
        simp only [judge?, hg, hworld]
        rfl

theorem separated_of_record (hscope : m.scope = r.scope) (hpresent : m.present = true)
    (hr : r.present = true) (hverdict : m.fact.verdict rs .standard r = .yes)
    (hkind : r.kind = .entity .building) (hnow : m.survives = false) (hpast : r.survives = true)
    (hsurvives : m.survivesIsLegal = true) (hchecked : r.checked = .ok r) : Separated rs m r := by
  obtain ⟨hlegal, hsurvives'⟩ := checked_eq_ok_iff.1 hchecked
  have hsocial : r.scope.isSocial = true := isSocial_of_survives hsurvives' hpast
  have hinference := Inference.of_verdict hverdict
  rw [hr] at hinference
  obtain ⟨b, hg⟩ := Fact.eq_entity_of_kind hkind
  have hf : m.fact = .entity .building b := by
    rw [← hg]
    exact (hinference.eq_of_kind (hinference.kind_to_building hkind)).symm
  have hlegal' : m.scopeIsLegal = true := scopeIsLegal_of_scopes hf hg rfl hscope hlegal
  have hwide : m.scope ≠ .here := by
    rw [hscope]
    rintro heq
    rw [heq] at hsocial
    contradiction
  let c : Scene := { buildings := [b] }
  refine ⟨c.situation, Scene.placed, ?_, ?_⟩
  · apply met_of_yes hf rfl hpresent hlegal' hsurvives
    apply Scene.judge?_building hf hlegal' hsurvives hwide <;> simp [c, hnow]
  · have hno : buildingTruth? c.situation r.scope true b = some .no :=
      Scene.buildingTruth?_no hsocial (by simp) (fun _ => rfl)
    apply not_met_of_answer
    simp only [judge?, hg, hpast]
    rw [hno, hr]
    decide

/-! ## Another player who is not there -/

def alone : Situation where
  world := some
    { info := { turn := 0, year := 0 }, map := ⟨Scene.geometry, #[]⟩
      players := [({} : Scene).leader] }
  player := some ({} : Scene).leader

theorem alone_placed : alone.Placed := by
  constructor
  · rintro _ ⟨⟩ _ ⟨⟩
    exact List.mem_cons_self
  · rintro _ _ _ ⟨⟩

theorem answer_alone {d : RelationDemand} (hscope : d.scope.isSocial = true) :
    d.answer alone = some .no := by
  obtain ⟨relation, scope, present⟩ := d
  cases scope <;> first | contradiction | rfl

theorem separated_of_other (hconflict : m.relationsConflict r.negated = true)
    (hhere : r.scope = .here) (hwide : m.scope ≠ .here) (hsurvives : m.survivesIsLegal = true) :
    Separated rs m r := by
  obtain ⟨x, y, hx, hy, hconflicts⟩ := relationsConflict_iff.1 hconflict
  obtain ⟨hanswer, hpresent, hscope⟩ := judge?_of_relationDemand? rs alone hx
  obtain ⟨hanswer', -, hscope'⟩ := judge?_of_relationDemand? rs alone hy
  have hfact := fact_of_relationDemand? hx
  rw [hscope] at hwide
  have hspot : y.scope = .here := hscope'.symm.trans hhere
  obtain ⟨hsocial, habsent, -⟩ := RelationDemand.signs_of_conflicts hconflicts hspot hwide
  refine ⟨alone, alone_placed, ?_, ?_⟩
  · refine met_iff.2 ⟨?_, hsurvives, ?_, ?_⟩
    · rw [isInvalid, hfact]
      rfl
    · rw [scopeIsLegal, kind, hfact, hscope]
      change (FactKind.choice .relation).scopes.contains x.scope = true
      revert hsocial
      cases x.scope <;> decide
    · rw [hanswer, answer_alone hsocial, hpresent, habsent]
      rfl
  · apply not_met_of_answer
    have hopen : y.answer alone = some .maybe := by
      obtain ⟨relation, scope, present⟩ := y
      cases hspot
      rfl
    rw [← hanswer', judge?_congr (a := r.negated) (b := r) rfl rfl rfl] at hopen
    rw [hopen]
    cases r.present <;> decide

/-! ## Every leap -/

theorem separated_of_overreaches (h : rs.Overreaches m r) (hchecked : r.checked = .ok r) :
    Separated rs m r := by
  have hsurvives := h.survivesIsLegal
  cases h.leap with
  | toOther hconflict hhere hwide => exact separated_of_other hconflict hhere hwide hsurvives
  | fromPast hscope hpresent hr hverdict hpast hnow =>
      exact separated_of_past hscope hpresent hr hverdict hpast hnow hsurvives hchecked
  | toPast hscope hpresent hr hverdict hkind hnow hpast =>
      exact separated_of_record hscope hpresent hr hverdict hkind hnow hpast hsurvives hchecked
  | fromOne hscope hpresent hr hcoexist =>
      exact Denies.separated_of_coexist ⟨hscope, hpresent, hr, hsurvives, hchecked⟩ hcoexist

end Requirement

end Rulebook
