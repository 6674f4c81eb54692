import Rulebook.Hypothesis

/-!
What the standard reasoners infer.

`Inference` lists their conclusions: a fact settles the facts of its own kind,
and some facts settle what the ruleset says about them.  A verdict of yes is an
inference that agrees with the sign of the requirement.
-/

namespace Rulebook

/-- The candidate decides whether the target holds. -/
inductive Inference (rs : Ruleset) : (candidate target : Fact) → Bool → Prop
  | sameKind {f g : Fact} (hkind : g.kind = f.kind) (hreason : (Reasoners.standard f.kind).isSome) :
      Inference rs f g (g == f)
  | genus (b : Ref Building) (g : BuildingGenus) :
      Inference rs (.entity .building b) (.choice .genus g) (rs.buildingGenus? b == some g)
  | unitFlag (t : Ref UnitType) (flag : Flag .unitType) :
      Inference rs (.entity .unitType t) (.flag .unitType flag) (rs.unitTypeHasFlag t flag)
  | unitClass (t : Ref UnitType) (c : Ref UnitClass) :
      Inference rs (.entity .unitType t) (.entity .unitClass c) (rs.classOfUnitType? t == some c)
  | unitClassFlag (t : Ref UnitType) (flag : Flag .unitClass) :
      Inference rs (.entity .unitType t) (.flag .unitClass flag) (rs.classOfUnitTypeHasFlag t flag)
  | classFlag (c : Ref UnitClass) (flag : Flag .unitClass) :
      Inference rs (.entity .unitClass c) (.flag .unitClass flag) (rs.unitClassHasFlag c flag)
  | terrainClass (t : Ref Terrain) (c : TerrainClass) :
      Inference rs (.entity .terrain t) (.choice .terrainClass c) (rs.terrainClass? t == some c)
  | terrainFlag (t : Ref Terrain) (flag : Flag .terrain) :
      Inference rs (.entity .terrain t) (.flag .terrain flag) (rs.terrainHasFlag t flag)
  | alteration (t : Ref Terrain) (a : Alteration) :
      Inference rs (.entity .terrain t) (.choice .alteration a) (rs.terrainAllows t a)
  | extraFlag (e : Ref Extra) (flag : Flag .extra) :
      Inference rs (.entity .extra e) (.flag .extra flag) (rs.extraHasFlag e flag)
  | baseFlag (e : Ref Extra) (flag : Flag .base) :
      Inference rs (.entity .extra e) (.flag .base flag) (rs.extraHasBaseFlag e flag)
  | roadFlag (e : Ref Extra) (flag : Flag .road) :
      Inference rs (.entity .extra e) (.flag .road flag) (rs.extraHasRoadFlag e flag)
  | group (n : Ref Nation) (g : Ref NationGroup) :
      Inference rs (.entity .nation n) (.entity .nationGroup g) (rs.nationInGroup n g)

namespace Inference

variable {rs : Ruleset}

theorem of_sameKind {f g : Fact} {b : Bool} (hreason : (Reasoners.standard f.kind).isSome)
    (h : Reasoner.sameKind rs g f = some b) : Inference rs f g b := by
  unfold Reasoner.sameKind at h
  split at h
  · next hkind =>
      cases Option.some.inj h
      exact .sameKind (beq_iff_eq.1 hkind) hreason
  · contradiction

theorem entity_beq {k : EntityKind} (x y : Ref k.Entry) :
    (x == y) = (Fact.entity k x == Fact.entity k y) := by
  rw [Bool.eq_iff_iff, beq_iff_eq, beq_iff_eq]
  constructor
  · rintro rfl
    rfl
  · intro h
    cases h
    rfl

theorem choice_beq {k : ChoiceKind} [BEq k.Value] [LawfulBEq k.Value] (x y : k.Value) :
    (x == y) = (Fact.choice k x == Fact.choice k y) := by
  rw [Bool.eq_iff_iff, beq_iff_eq, beq_iff_eq]
  constructor
  · rintro rfl
    rfl
  · intro h
    cases h
    rfl

theorem of_ref {k : EntityKind} {x y : Ref k.Entry} {b : Bool}
    (hreason : (Reasoners.standard (.entity k)).isSome) (h : some (y == x) = some b) :
    Inference rs (.entity k x) (.entity k y) b := by
  cases Option.some.inj h
  rw [entity_beq y x]
  exact .sameKind rfl hreason

theorem of_standard {f g : Fact} {b : Bool}
    (h : ((Reasoners.standard f.kind).bind fun reason => reason rs g f) = some b) :
    Inference rs f g b := by
  cases f with
  | none | flag | measure | invalid => simp [Fact.kind, Reasoners.standard] at h
  | choice k x =>
      cases k <;> simp only [Fact.kind, Reasoners.standard, Option.bind_some, Option.bind_none,
        reduceCtorEq] at h
      all_goals exact of_sameKind rfl h
  | entity k x =>
      cases k <;> simp only [Fact.kind, Reasoners.standard, Option.bind_some, Option.bind_none,
        reduceCtorEq] at h
      case building =>
        simp only [Reasoner.building] at h
        split at h
        · next hx =>
            cases hx
            exact of_ref rfl h
        · next hx =>
            cases hx
            cases h
            exact .genus _ _
        · contradiction
      case unitType =>
        simp only [Reasoner.unitType] at h
        split at h
        · next hx =>
            cases hx
            exact of_ref rfl h
        · next hx =>
            cases hx
            cases h
            exact .unitFlag _ _
        · next hx =>
            cases hx
            cases h
            exact .unitClass _ _
        · next hx =>
            cases hx
            cases h
            exact .unitClassFlag _ _
        · contradiction
      case unitClass =>
        simp only [Reasoner.unitClass] at h
        split at h
        · next hx =>
            cases hx
            exact of_ref rfl h
        · next hx =>
            cases hx
            cases h
            exact .classFlag _ _
        · contradiction
      case terrain =>
        simp only [Reasoner.terrain] at h
        split at h
        · next hx =>
            cases hx
            exact of_ref rfl h
        · next hx =>
            cases hx
            cases h
            exact .terrainClass _ _
        · next hx =>
            cases hx
            cases h
            exact .terrainFlag _ _
        · next hx =>
            cases hx
            cases h
            exact .alteration _ _
        · contradiction
      case extra =>
        simp only [Reasoner.extra] at h
        split at h
        · next hx =>
            cases hx
            exact of_ref rfl h
        · next hx =>
            cases hx
            cases h
            exact .extraFlag _ _
        · next hx =>
            cases hx
            cases h
            exact .baseFlag _ _
        · next hx =>
            cases hx
            cases h
            exact .roadFlag _ _
        · contradiction
      case nation =>
        simp only [Reasoner.nation] at h
        split at h
        · next hx =>
            cases hx
            exact of_ref rfl h
        · next hx =>
            cases hx
            cases h
            exact .group _ _
        · contradiction
      all_goals exact of_sameKind rfl h
theorem of_verdict {candidate : Fact} {r : Requirement}
    (h : candidate.verdict rs .standard r = .yes) : Inference rs candidate r.fact r.present := by
  unfold Fact.verdict at h
  split at h
  · contradiction
  · next holds hreason =>
      split at h
      · next hsign =>
          rw [← beq_iff_eq.1 hsign]
          exact of_standard hreason
      · contradiction

theorem target_ne_invalid {f g : Fact} {b : Bool} (h : Inference rs f g b) :
    g.isInvalid = false := by
  cases h with
  | sameKind hkind hreason =>
      rw [Fact.isInvalid, beq_eq_false_iff_ne]
      rintro rfl
      rw [← hkind] at hreason
      contradiction
  | _ => rfl

theorem eq_of_kind {f g : Fact} (h : Inference rs f g true) (hkind : g.kind = f.kind) : g = f := by
  generalize hb : true = b at h
  cases h with
  | sameKind => exact beq_iff_eq.1 hb.symm
  | _ => simp [Fact.kind] at hkind

theorem kind_of_building {b : Ref Building} {g : Fact} {holds : Bool}
    (h : Inference rs (.entity .building b) g holds) :
    g.kind = .entity .building ∨ g.kind = .choice .genus := by
  cases h with
  | sameKind hkind => exact .inl hkind
  | genus => exact .inr rfl

theorem kind_to_building {f g : Fact} {holds : Bool} (h : Inference rs f g holds)
    (hkind : g.kind = .entity .building) : g.kind = f.kind := by
  cases h with
  | sameKind hsame => exact hsame
  | _ => simp [Fact.kind] at hkind

theorem kind_of_tech {tech : Ref Technology} {g : Fact} {holds : Bool}
    (h : Inference rs (.entity .tech tech) g holds) : g.kind = .entity .tech := by
  cases h with
  | sameKind hkind => exact hkind

theorem kind_of_nation {n : Ref Nation} {g : Fact} {holds : Bool}
    (h : Inference rs (.entity .nation n) g holds) :
    g.kind = .entity .nation ∨ g.kind = .entity .nationGroup := by
  cases h with
  | sameKind hkind => exact .inl hkind
  | group => exact .inr rfl

end Inference

end Rulebook
