import Rulebook.Proofs.Evaluation.Met
import Rulebook.Proofs.Implication.Inference

/-!
What is inferred from a fact, and what is found where the fact is known.

A situation pins a fact down if it says all that there is of its sort: the type
of the unit, the terrain of the tile, its only extra, the nation of the player.
Requirements about such a fact, or about what the ruleset says of it, are then
answered without doubt, and the reasoner for the fact gives the same answer from
the ruleset alone.
-/

namespace Rulebook

theorem any_of_only {α : Type} {items : List α} {a : α} (h : ∀ b, b ∈ items ↔ b = a)
    (test : α → Bool) : items.any test = test a := by
  rw [Bool.eq_iff_iff, List.any_eq_true]
  simp [h]

namespace Truth

variable {α : Type} {value : Option α} {a : α}

theorem known_of_mem (h : a ∈ value) (test : α → Bool) :
    some (known value test) = some (ofBool (test a)) := by
  rw [h]
  rfl

theorem known_beq_of_mem [BEq α] [LawfulBEq α] (h : a ∈ value) (b : α) :
    some (known value (· == b)) = some (ofBool (b == a)) := by
  rw [known_of_mem h, BEq.comm]

end Truth

/-! ## Facts that are pinned down -/

/-- The situation says all there is about the fact, so that requirements of these kinds in the scope
have their answers from it. -/
inductive Situation.PinsDown (s : Situation) : Fact → List FactKind → Scope → Prop
  | unitType {t : Ref UnitType} (h : t ∈ s.typeOfUnit?) :
      PinsDown s (.entity .unitType t)
        [.entity .unitType, .flag .unitType, .entity .unitClass, .flag .unitClass] .here
  | building {b : Ref Building} (h : b ∈ s.building) :
      PinsDown s (.entity .building b) [.entity .building, .choice .genus] .here
  | terrain {t : Tile} (h : t ∈ s.tileData?) :
      PinsDown s (.entity .terrain t.terrain)
        [.entity .terrain, .choice .terrainClass, .flag .terrain, .choice .alteration] .here
  | extra {t : Tile} {e : Ref Extra} (h : t ∈ s.tileData?) (honly : ∀ x, x ∈ t.extras ↔ x = e) :
      PinsDown s (.entity .extra e)
        [.entity .extra, .flag .extra, .flag .base, .flag .road] .here
  | nation {p : Player} (h : p ∈ s.player) :
      PinsDown s (.entity .nation p.nation) [.entity .nation, .entity .nationGroup] .player
  | government {p : Player} (h : p ∈ s.player) :
      PinsDown s (.entity .government p.government) [.entity .government] .player
  | action {a : Ref Action} (h : a ∈ s.action) :
      PinsDown s (.entity .action a) [.entity .action] .here
  | specialist {a : Ref Specialist} (h : a ∈ s.specialist) :
      PinsDown s (.entity .specialist a) [.entity .specialist] .here
  | output {a : OutputType} (h : a ∈ s.output) :
      PinsDown s (.choice .output a) [.choice .output] .here
  | vision {a : VisionLayer} (h : a ∈ s.vision) :
      PinsDown s (.choice .vision a) [.choice .vision] .here
  | intelligence {a : Intelligence} (h : a ∈ s.intelligence) :
      PinsDown s (.choice .intelligence a) [.choice .intelligence] .here

namespace Requirement

variable {rs : Ruleset} {s : Situation} {r : Requirement} {f : Fact} {holds : Bool}

def Agrees (rs : Ruleset) (s : Situation) (f : Fact) (r : Requirement) (holds : Bool) : Prop :=
  judge? rs r s = some (.ofBool holds) ∧
    ((Reasoners.standard f.kind).bind fun reason => reason rs r.fact f) = some holds

theorem agrees_unitType {t : Ref UnitType} (h : t ∈ s.typeOfUnit?)
    (hkind : r.kind ∈ [.entity .unitType, .flag .unitType, .entity .unitClass, .flag .unitClass]) :
    ∃ holds, r.Agrees rs s (.entity .unitType t) holds := by
  obtain ⟨fact, scope, survives, present, quiet⟩ := r
  simp only [List.mem_cons, List.not_mem_nil, or_false] at hkind
  rcases hkind with hkind | hkind | hkind | hkind
  · obtain ⟨x, rfl⟩ := Fact.eq_entity_of_kind hkind
    exact ⟨_, Truth.known_beq_of_mem h x, rfl⟩
  · obtain ⟨x, rfl⟩ := Fact.eq_flag_of_kind hkind
    exact ⟨_, Truth.known_of_mem h _, rfl⟩
  · obtain ⟨x, rfl⟩ := Fact.eq_entity_of_kind hkind
    exact ⟨_, Truth.known_of_mem h _, rfl⟩
  · obtain ⟨x, rfl⟩ := Fact.eq_flag_of_kind hkind
    exact ⟨_, Truth.known_of_mem h _, rfl⟩

theorem agrees_building {b : Ref Building} (h : b ∈ s.building) (hscope : r.scope = .here)
    (hkind : r.kind ∈ [.entity .building, .choice .genus]) :
    ∃ holds, r.Agrees rs s (.entity .building b) holds := by
  obtain ⟨fact, scope, survives, present, quiet⟩ := r
  cases hscope
  simp only [List.mem_cons, List.not_mem_nil, or_false] at hkind
  rcases hkind with hkind | hkind
  · obtain ⟨x, rfl⟩ := Fact.eq_entity_of_kind hkind
    exact ⟨_, Truth.known_beq_of_mem h x, rfl⟩
  · obtain ⟨x, rfl⟩ := Fact.eq_choice_of_kind hkind
    exact ⟨_, Truth.known_of_mem h _, rfl⟩

theorem agrees_terrain {t : Tile} (h : t ∈ s.tileData?) (hscope : r.scope = .here)
    (hkind : r.kind ∈
      [.entity .terrain, .choice .terrainClass, .flag .terrain, .choice .alteration]) :
    ∃ holds, r.Agrees rs s (.entity .terrain t.terrain) holds := by
  obtain ⟨fact, scope, survives, present, quiet⟩ := r
  cases hscope
  simp only [List.mem_cons, List.not_mem_nil, or_false] at hkind
  rcases hkind with hkind | hkind | hkind | hkind
  · obtain ⟨x, rfl⟩ := Fact.eq_entity_of_kind hkind
    exact ⟨_, Truth.known_of_mem h _, congrArg some BEq.comm⟩
  · obtain ⟨x, rfl⟩ := Fact.eq_choice_of_kind hkind
    exact ⟨_, Truth.known_of_mem h _, rfl⟩
  · obtain ⟨x, rfl⟩ := Fact.eq_flag_of_kind hkind
    exact ⟨_, Truth.known_of_mem h _, rfl⟩
  · obtain ⟨x, rfl⟩ := Fact.eq_choice_of_kind hkind
    exact ⟨_, Truth.known_of_mem h _, rfl⟩

theorem agrees_extra {t : Tile} {e : Ref Extra} (h : t ∈ s.tileData?)
    (honly : ∀ x, x ∈ t.extras ↔ x = e) (hscope : r.scope = .here)
    (hkind : r.kind ∈ [.entity .extra, .flag .extra, .flag .base, .flag .road]) :
    ∃ holds, r.Agrees rs s (.entity .extra e) holds := by
  obtain ⟨fact, scope, survives, present, quiet⟩ := r
  cases hscope
  simp only [List.mem_cons, List.not_mem_nil, or_false] at hkind
  rcases hkind with hkind | hkind | hkind | hkind
  · obtain ⟨x, rfl⟩ := Fact.eq_entity_of_kind hkind
    refine ⟨_, Truth.known_of_mem h _, congrArg some ?_⟩
    rw [Tile.hasExtra, List.contains_eq_any_beq, any_of_only honly]
  all_goals
    obtain ⟨x, rfl⟩ := Fact.eq_flag_of_kind hkind
    refine ⟨_, Truth.known_of_mem h _, congrArg some ?_⟩
    rw [any_of_only honly]

theorem agrees_nation {p : Player} (h : p ∈ s.player) (hscope : r.scope = .player)
    (hpast : r.survives = false) (hkind : r.kind ∈ [.entity .nation, .entity .nationGroup]) :
    ∃ holds, r.Agrees rs s (.entity .nation p.nation) holds := by
  obtain ⟨fact, scope, survives, present, quiet⟩ := r
  cases hscope
  cases hpast
  simp only [List.mem_cons, List.not_mem_nil, or_false] at hkind
  rcases hkind with hkind | hkind
  · obtain ⟨x, rfl⟩ := Fact.eq_entity_of_kind hkind
    exact ⟨_, Truth.known_of_mem h _, congrArg some BEq.comm⟩
  · obtain ⟨x, rfl⟩ := Fact.eq_entity_of_kind hkind
    exact ⟨_, Truth.known_of_mem h _, rfl⟩

theorem agrees_government {p : Player} (h : p ∈ s.player) (hscope : r.scope = .player)
    (hkind : r.kind ∈ [.entity .government]) :
    ∃ holds, r.Agrees rs s (.entity .government p.government) holds := by
  obtain ⟨fact, scope, survives, present, quiet⟩ := r
  cases hscope
  obtain ⟨x, rfl⟩ := Fact.eq_entity_of_kind (List.mem_singleton.1 hkind)
  refine ⟨_, Truth.known_of_mem h _, congrArg some ?_⟩
  rw [← Inference.entity_beq, BEq.comm]

theorem agrees_entity {k : EntityKind} {value : Option (Ref k.Entry)} {a : Ref k.Entry}
    (h : a ∈ value) (hreason : Reasoners.standard (.entity k) = some Reasoner.sameKind)
    (hjudge : ∀ x, r.fact = .entity k x → judge? rs r s = some (.known value (· == x)))
    (hkind : r.kind ∈ [.entity k]) : ∃ holds, r.Agrees rs s (.entity k a) holds := by
  obtain ⟨x, hx⟩ := Fact.eq_entity_of_kind (List.mem_singleton.1 hkind)
  refine ⟨_, (hjudge x hx).trans (Truth.known_beq_of_mem h x), ?_⟩
  simp [Fact.kind, hreason, hx, Reasoner.sameKind, Inference.entity_beq]

theorem agrees_choice {k : ChoiceKind} [BEq k.Value] [LawfulBEq k.Value] {value : Option k.Value}
    {a : k.Value} (h : a ∈ value)
    (hreason : Reasoners.standard (.choice k) = some Reasoner.sameKind)
    (hjudge : ∀ x, r.fact = .choice k x → judge? rs r s = some (.known value (· == x)))
    (hkind : r.kind ∈ [.choice k]) : ∃ holds, r.Agrees rs s (.choice k a) holds := by
  obtain ⟨x, hx⟩ := Fact.eq_choice_of_kind (List.mem_singleton.1 hkind)
  refine ⟨_, (hjudge x hx).trans (Truth.known_beq_of_mem h x), ?_⟩
  simp [Fact.kind, hreason, hx, Reasoner.sameKind, Inference.choice_beq]

theorem exists_agrees (rs : Ruleset) {kinds : List FactKind} {scope : Scope}
    (h : s.PinsDown f kinds scope) (hkind : r.kind ∈ kinds) (hscope : r.scope = scope)
    (hpast : r.survives = false) : ∃ holds, r.Agrees rs s f holds := by
  cases h with
  | unitType h => exact agrees_unitType h hkind
  | building h => exact agrees_building h hscope hkind
  | terrain h => exact agrees_terrain h hscope hkind
  | extra h honly => exact agrees_extra h honly hscope hkind
  | nation h => exact agrees_nation h hscope hpast hkind
  | government h => exact agrees_government h hscope hkind
  | action h => exact agrees_entity h rfl (fun x hx => by simp only [judge?, hx]) hkind
  | specialist h => exact agrees_entity h rfl (fun x hx => by simp only [judge?, hx]) hkind
  | output h => exact agrees_choice h rfl (fun x hx => by simp only [judge?, hx]) hkind
  | vision h => exact agrees_choice h rfl (fun x hx => by simp only [judge?, hx]) hkind
  | intelligence h => exact agrees_choice h rfl (fun x hx => by simp only [judge?, hx]) hkind

theorem scopes_of_pinsDown {kinds : List FactKind} {scope : Scope} (h : s.PinsDown f kinds scope) :
    ∀ kind ∈ kinds, kind.scopes.contains scope = true := by
  cases h <;> decide

theorem isMet_of_agrees (hlegal : r.scopeIsLegal = true) (hpast : r.survives = false)
    (h : r.Agrees rs s f holds) (reading : Reading) :
    r.isMet rs s reading = .ok (holds == r.present) := by
  have hvalid : r.isInvalid = false := (Inference.of_standard h.2).target_ne_invalid
  have heval : r.eval rs s = .ofBool holds := eval_eq_ofBool_iff.2 ⟨hlegal, h.1⟩
  simp only [isMet, hvalid, survivesIsLegal, hpast, heval]
  cases holds <;> cases r.present <;> rfl

theorem verdict_of_agrees (h : r.Agrees rs s f holds) :
    f.verdict rs Reasoners.standard r = if holds == r.present then .yes else .no := by
  rw [Fact.verdict, h.2]

theorem areMet_eq_all {reqs : List Requirement} {reading : Reading} {test : Requirement → Bool}
    (h : ∀ r ∈ reqs, r.isMet rs s reading = .ok (test r)) :
    areMet rs reqs s reading = .ok (reqs.all test) := by
  induction reqs with
  | nil => rfl
  | cons r rest ih =>
      have hrest := ih fun r hr => h r (List.mem_cons_of_mem _ hr)
      rw [areMet, h r List.mem_cons_self]
      cases htest : test r <;> simp [htest, hrest]

/-- Whatever a situation pins down settles requirements about it just as the situation does, and so
it suits just the conditions that are met there. -/
theorem verdict_agrees (rs : Ruleset) {s : Situation} {candidate : Fact} {kinds : List FactKind}
    {scope : Scope} (h : s.PinsDown candidate kinds scope) :
    (∀ r : Requirement, r.kind ∈ kinds → r.scope = scope → r.survives = false →
      ∃ met, (∀ reading, r.isMet rs s reading = .ok met) ∧
        candidate.verdict rs Reasoners.standard r = if met then .yes else .no) ∧
    ∀ c : Conditions,
      (∀ r ∈ c.requirements, r.kind ∈ kinds ∧ r.scope = scope ∧ r.survives = false) →
      ∀ reading, areMet rs c.requirements s reading =
        .ok (candidate.suits rs Reasoners.standard c false) := by
  have heach : ∀ r : Requirement, r.kind ∈ kinds → r.scope = scope → r.survives = false →
      ∃ met, (∀ reading, r.isMet rs s reading = .ok met) ∧
        candidate.verdict rs Reasoners.standard r = if met then .yes else .no := by
    intro r hkind hscope hpast
    obtain ⟨holds, hagrees⟩ := exists_agrees rs h hkind hscope hpast
    have hlegal : r.scopeIsLegal = true := by
      rw [scopeIsLegal, hscope]
      exact scopes_of_pinsDown h r.kind hkind
    exact ⟨_, isMet_of_agrees hlegal hpast hagrees, verdict_of_agrees hagrees⟩
  refine ⟨heach, fun c hc reading => ?_⟩
  rw [Fact.suits, Bool.not_false, Bool.true_or, Bool.and_true]
  refine areMet_eq_all fun r hr => ?_
  obtain ⟨hkind, hscope, hpast⟩ := hc r hr
  obtain ⟨met, hmet, hverdict⟩ := heach r hkind hscope hpast
  rw [hmet, hverdict]
  cases met <;> rfl

/-! ## Workers, who do not fight -/

def camp : Ruleset where
  unitClasses := ⟨[{ name := "Land", label := "Land", flags := [] }]⟩
  unitTypes := ⟨[{
    name := "Workers", label := "Workers", unitClass := ⟨0⟩, flags := [⟨0⟩]
    veteranLevels := 1, hitPoints := 10, moveRate := 1 }]⟩
  flags
    | .unitType => ⟨["NonMil"]⟩
    | _ => {}

def onLand : Requirement := { fact := .entity .unitClass ⟨0⟩, scope := .here }

def fighting : Requirement :=
  { fact := .flag .unitType ⟨0⟩, scope := .here, present := false }

def workers : Situation := { unitType := some ⟨0⟩ }

theorem workers_agree :
    (∀ reading, onLand.isMet camp workers reading = .ok true) ∧
      (Fact.entity .unitType ⟨0⟩).verdict camp Reasoners.standard onLand = .yes ∧
      (∀ reading, areMet camp [onLand, fighting] workers reading = .ok false) ∧
      (Fact.entity .unitType ⟨0⟩).suits camp Reasoners.standard
        (.ofRequirements [onLand, fighting]) false = false := by
  have hpins : workers.PinsDown (.entity .unitType ⟨0⟩)
      [.entity .unitType, .flag .unitType, .entity .unitClass, .flag .unitClass] .here :=
    .unitType rfl
  obtain ⟨heach, hall⟩ := verdict_agrees camp hpins
  obtain ⟨met, hmet, hverdict⟩ := heach onLand (by decide) rfl rfl
  have hyes : (Fact.entity .unitType ⟨0⟩).verdict camp Reasoners.standard onLand = .yes := by
    decide
  have hno : (Fact.entity .unitType ⟨0⟩).suits camp Reasoners.standard
      (.ofRequirements [onLand, fighting]) false = false := by decide
  have hconditions := hall (.ofRequirements [onLand, fighting]) (by decide)
  rw [hno] at hconditions
  cases met with
  | true => exact ⟨hmet, hyes, hconditions, hno⟩
  | false =>
      rw [hyes] at hverdict
      contradiction

end Requirement

end Rulebook
