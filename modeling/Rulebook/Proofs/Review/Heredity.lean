import Mathlib.Data.List.Perm.Subperm
import Rulebook.Proofs.Conflict.Symmetry
import Rulebook.Proofs.Review.Findings

/-!
What a review accepts.

A review looks at members one by one, counts them, and looks at pairs.  Since
conflict is symmetric, none of this depends on the order of the conditions, and
what holds of them holds of fewer: counts can only fall, and pairs only go.  So
`Acceptable` says what is accepted without an order, and one lemma carries it to
any conditions whose requirements are among the accepted ones, in any order.

What the review reports does depend on the order.  It lists conflicts by the
first place and then the second, so the first conflict heads the list.
-/

namespace Rulebook

def Problem.places? : Problem → Option (Nat × Nat)
  | .conflict first second => some (first, second)
  | _ => none

theorem Requirement.problems_eq_nil_iff {r : Requirement} {place : Nat} :
    r.problems place = [] ↔
      r.isInvalid = false ∧ r.scopeIsLegal = true ∧ r.survivesIsLegal = true := by
  unfold problems
  cases r.isInvalid <;> cases r.scopeIsLegal <;> cases r.survivesIsLegal <;> simp

namespace Conditions

variable {rs : Ruleset} {c d : Conditions} {conjunctive : Bool} {maxTiles : Int}

/-! ## Acceptance without an order -/

structure Compatible (rs : Ruleset) (maxTiles : Int) (c : Conditions) : Prop where
  sole : ∀ kind, c.soleDemands kind ≤ 1
  terrain : c.demandsHere (.entity .terrain) = 0 ∨ c.demandsHere (.choice .terrainClass) = 0
  tiles : ∀ kind most, kind.tileLimit? maxTiles = some most → c.demands kind ≤ most
  peaceful : c.requirements.Pairwise fun a b => rs.conflict a b = false

structure Acceptable (rs : Ruleset) (conjunctive : Bool) (maxTiles : Int) (c : Conditions) :
    Prop where
  members : ∀ r ∈ c.requirements,
    r.isInvalid = false ∧ r.scopeIsLegal = true ∧ r.survivesIsLegal = true
  compatible : conjunctive = true → c.Compatible rs maxTiles

theorem memberProblems_eq_nil_iff :
    c.memberProblems = [] ↔ ∀ r ∈ c.requirements,
      r.isInvalid = false ∧ r.scopeIsLegal = true ∧ r.survivesIsLegal = true := by
  simp only [memberProblems, List.flatMap_eq_nil_iff, Requirement.problems_eq_nil_iff]
  constructor
  · intro h r hr
    obtain ⟨place, hplace⟩ := List.mem_iff_getElem?.1 hr
    exact h (r, place) (List.mk_mem_zipIdx_iff_getElem?.2 hplace)
  · rintro h ⟨r, place⟩ hplaced
    exact h r (List.fst_mem_of_mem_zipIdx hplaced)

theorem countProblems_eq_nil_iff : c.countProblems = [] ↔ ∀ kind, c.soleDemands kind ≤ 1 := by
  simp only [List.eq_nil_iff_forall_not_mem, mem_countProblems_iff, not_exists, not_and, Nat.not_lt]
  exact ⟨fun h kind => h _ kind rfl, fun h _ kind _ => h kind⟩

theorem terrainProblems_eq_nil_iff :
    c.terrainProblems = [] ↔
      c.demandsHere (.entity .terrain) = 0 ∨ c.demandsHere (.choice .terrainClass) = 0 := by
  rw [List.eq_nil_iff_forall_not_mem]
  simp only [mem_terrainProblems_iff, not_and, forall_eq]
  omega

theorem tileProblems_eq_nil_iff :
    c.tileProblems maxTiles = [] ↔
      ∀ kind most, kind.tileLimit? maxTiles = some most → c.demands kind ≤ most := by
  simp only [List.eq_nil_iff_forall_not_mem, mem_tileProblems_iff, not_exists, not_and, Nat.not_lt]
  exact ⟨fun h kind most => h _ kind most rfl, fun h _ kind most _ => h kind most⟩

theorem conflictProblems_eq_nil_iff :
    c.conflictProblems rs = [] ↔ c.requirements.Pairwise fun a b => rs.conflict a b = false := by
  rw [conflictProblems, List.map_eq_nil_iff, List.eq_nil_iff_forall_not_mem,
    List.pairwise_iff_getElem]
  constructor
  · intro h i j hi hj hlt
    refine Bool.eq_false_iff.2 fun hconflict => h (i, j) (mem_conflictPairs_iff.2 ?_)
    exact ⟨_, _, List.getElem?_eq_getElem hi, List.getElem?_eq_getElem hj, hlt, hconflict⟩
  · rintro h ⟨i, j⟩ hpair
    obtain ⟨a, b, ha, hb, hlt, hconflict⟩ := mem_conflictPairs_iff.1 hpair
    obtain ⟨hi, rfl⟩ := List.getElem?_eq_some_iff.1 ha
    obtain ⟨hj, rfl⟩ := List.getElem?_eq_some_iff.1 hb
    rw [h i j hi hj hlt] at hconflict
    contradiction

theorem problems_eq_nil_iff :
    c.problems rs conjunctive maxTiles = [] ↔ c.Acceptable rs conjunctive maxTiles := by
  have hmembers := memberProblems_eq_nil_iff (c := c)
  cases conjunctive with
  | false =>
      simp only [problems, Bool.false_eq_true, if_false, List.append_nil, hmembers]
      exact ⟨fun h => ⟨h, fun htrue => absurd htrue Bool.false_ne_true⟩, fun h => h.members⟩
  | true =>
      simp only [problems, if_true, List.append_eq_nil_iff, hmembers, countProblems_eq_nil_iff,
        terrainProblems_eq_nil_iff, tileProblems_eq_nil_iff, conflictProblems_eq_nil_iff]
      constructor
      · rintro ⟨members, ⟨⟨sole, terrain⟩, tiles⟩, peaceful⟩
        exact ⟨members, fun _ => ⟨sole, terrain, tiles, peaceful⟩⟩
      · rintro ⟨members, compatible⟩
        obtain ⟨sole, terrain, tiles, peaceful⟩ := compatible rfl
        exact ⟨members, ⟨⟨sole, terrain⟩, tiles⟩, peaceful⟩

/-! ## Fewer conditions, in another order -/

theorem demands_le_of_subperm (h : d.requirements.Subperm c.requirements) (kind : FactKind) :
    d.demands kind ≤ c.demands kind :=
  h.countP_le _

theorem demandsHere_le_of_subperm (h : d.requirements.Subperm c.requirements) (kind : FactKind) :
    d.demandsHere kind ≤ c.demandsHere kind :=
  h.countP_le _

theorem soleDemands_le_of_subperm (h : d.requirements.Subperm c.requirements) (kind : FactKind) :
    d.soleDemands kind ≤ c.soleDemands kind := by
  unfold soleDemands
  split
  · exact demands_le_of_subperm h kind
  · split
    · exact demandsHere_le_of_subperm h kind
    · exact Nat.le_refl 0

theorem Compatible.of_subperm (h : c.Compatible rs maxTiles)
    (hsub : d.requirements.Subperm c.requirements) : d.Compatible rs maxTiles where
  sole kind := Nat.le_trans (soleDemands_le_of_subperm hsub kind) (h.sole kind)
  terrain := by
    refine h.terrain.imp ?_ ?_ <;>
      exact fun hnone => Nat.le_zero.1 (hnone ▸ demandsHere_le_of_subperm hsub _)
  tiles kind most hlimit := Nat.le_trans (demands_le_of_subperm hsub kind) (h.tiles kind most hlimit)
  peaceful := by
    obtain ⟨kept, hperm, hsublist⟩ := hsub
    refine hperm.pairwise (h.peaceful.sublist hsublist) fun {a b} hab => ?_
    rwa [rs.conflict_comm]

theorem Acceptable.of_subperm (h : c.Acceptable rs conjunctive maxTiles)
    (hsub : d.requirements.Subperm c.requirements) : d.Acceptable rs conjunctive maxTiles where
  members r hr := h.members r (hsub.subset hr)
  compatible hconjunctive := (h.compatible hconjunctive).of_subperm hsub

/-! ## The order of conflicts -/

theorem conflictPairs_pairwise (rs : Ruleset) (c : Conditions) :
    (c.conflictPairs rs).Pairwise (Prod.Lex (· < ·) (· < ·)) := by
  have hplaces : c.requirements.zipIdx.Pairwise fun x y => x.2 < y.2 := by
    rw [← List.pairwise_map (f := Prod.snd), List.zipIdx_map_snd]
    exact List.pairwise_lt_range' 1
  unfold conflictPairs
  refine List.pairwise_flatMap.2 ⟨?_, ?_⟩
  · rintro ⟨a, i⟩ -
    exact List.pairwise_map.2 ((hplaces.filter _).imp fun h => .right _ h)
  · refine hplaces.imp ?_
    rintro ⟨a, i⟩ ⟨b, j⟩ hlt x hx y hy
    obtain ⟨_, -, rfl⟩ := List.mem_map.1 hx
    obtain ⟨_, -, rfl⟩ := List.mem_map.1 hy
    exact .left _ _ hlt

theorem filterMap_places?_eq_nil {problems : List Problem}
    (h : ∀ i j, Problem.conflict i j ∉ problems) : problems.filterMap Problem.places? = [] := by
  refine List.filterMap_eq_nil_iff.2 fun problem hmem => ?_
  cases problem with
  | conflict i j => exact absurd hmem (h i j)
  | _ => rfl

theorem filterMap_places?_problems (rs : Ruleset) (c : Conditions) (maxTiles : Int) :
    (c.problems rs true maxTiles).filterMap Problem.places? = c.conflictPairs rs := by
  have hcount : ∀ i j, Problem.conflict i j ∉ c.countProblems := by
    simp [mem_countProblems_iff]
  have hterrain : ∀ i j, Problem.conflict i j ∉ c.terrainProblems := by
    simp [mem_terrainProblems_iff]
  have htiles : ∀ i j, Problem.conflict i j ∉ c.tileProblems maxTiles := by
    simp [mem_tileProblems_iff]
  have hconflicts : (c.conflictProblems rs).filterMap Problem.places? = c.conflictPairs rs := by
    rw [conflictProblems, List.filterMap_map]
    exact List.filterMap_some
  simp only [problems, if_true, List.filterMap_append,
    filterMap_places?_eq_nil fun _ _ => conflict_not_mem_memberProblems,
    filterMap_places?_eq_nil hcount, filterMap_places?_eq_nil hterrain,
    filterMap_places?_eq_nil htiles, hconflicts, List.nil_append]

/-- What is accepted is accepted in every order, and with members left out.  The conflicts that are
found are the pairs that conflict, ordered by the first and then the second place. -/
theorem acceptance_is_hereditary (rs : Ruleset) (conjunctive : Bool) (maxTiles : Int)
    (c : Conditions) :
    (∀ d : Conditions, d.requirements.Perm c.requirements →
      (d.problems rs conjunctive maxTiles = [] ↔ c.problems rs conjunctive maxTiles = [])) ∧
    (∀ d : Conditions, d.requirements.Sublist c.requirements →
      c.problems rs conjunctive maxTiles = [] → d.problems rs conjunctive maxTiles = []) ∧
    let pairs := (c.problems rs true maxTiles).filterMap Problem.places?
    pairs.Pairwise (Prod.Lex (· < ·) (· < ·)) ∧
    (∀ i j, (i, j) ∈ pairs ↔
      ∃ a b, c.requirements[i]? = some a ∧ c.requirements[j]? = some b ∧ i < j ∧
        rs.conflict a b = true) ∧
    c.firstConflict? rs = pairs.head? := by
  refine ⟨fun d hperm => ?_, fun d hsub haccepted => ?_, ?_⟩
  · rw [problems_eq_nil_iff, problems_eq_nil_iff]
    exact ⟨fun h => h.of_subperm hperm.symm.subperm, fun h => h.of_subperm hperm.subperm⟩
  · rw [problems_eq_nil_iff] at haccepted ⊢
    exact haccepted.of_subperm hsub.subperm
  · rw [filterMap_places?_problems]
    exact ⟨conflictPairs_pairwise rs c, fun _ _ => mem_conflictPairs_iff,
      firstConflict?_eq_head? rs c⟩

theorem court_acceptance_is_hereditary :
    let crown : Requirement := { fact := .entity .government ⟨0⟩, scope := .player }
    let letters : Requirement := { fact := .entity .tech ⟨0⟩, scope := .team }
    let away : Requirement :=
      { fact := .choice .unitState .onDomesticTile, scope := .here, present := false }
    (ofRequirements [crown, letters, away]).problems {} true (-1) = [] ∧
      (ofRequirements [away, crown, letters]).problems {} true (-1) = [] ∧
      (ofRequirements [crown, away]).problems {} true (-1) = [] := by
  intro crown letters away
  have haccepted : (ofRequirements [crown, letters, away]).problems {} true (-1) = [] := by decide
  obtain ⟨reordered, fewer, -⟩ :=
    acceptance_is_hereditary {} true (-1) (ofRequirements [crown, letters, away])
  exact ⟨haccepted, (reordered _ (by decide)).2 haccepted, fewer _ (by decide) haccepted⟩

end Conditions

end Rulebook
