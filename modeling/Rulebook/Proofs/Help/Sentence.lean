import Rulebook.Help.Sentence
import Rulebook.Proofs.Evaluation.Met
import Rulebook.Proofs.Text.Apart
import Rulebook.Ruleset.Base

/-!
Help for every requirement.

The wordings keep step with the table of scopes: wherever a kind of fact has a
meaning there is something to say of it.  And whatever labels and numbers stand in
a sentence, the sentence for a demand and the one for an exclusion part before
either ends, so a reader can tell which of the two it is.
-/

namespace Rulebook

namespace Help

open Text (Apart)

variable {scope : Scope}

/-! ## Pairs of sentences -/

def Wording.ShowsSign (w : Wording) : Prop := Apart w.demanded w.excluded

theorem showsSign_requiresThat (clause : String) : (requiresThat clause).ShowsSign :=
  Apart.fill (by decide)

theorem showsSign_requiresOnce (clause : String) : (requiresOnce clause).ShowsSign :=
  Apart.fill (by decide)

theorem showsSign_requiresPresence (thing : String) : (requiresPresence thing).ShowsSign :=
  Apart.fill (by decide)

theorem showsSign_requiresEither {demanded excluded : String} (h : Apart demanded excluded) :
    (requiresEither demanded excluded).ShowsSign :=
  Apart.append (Apart.prepend h)

theorem showsSign_requiresToBe (subject state : String) :
    (requiresToBe subject state).ShowsSign :=
  Apart.fill (Apart.prepend (by decide))

theorem showsSign_requiresUnit (demanded excluded : String) :
    (requiresUnit demanded excluded).ShowsSign :=
  Apart.fill (by decide)

theorem showsSign_appliesTo (thing : String) : (appliesTo thing).ShowsSign :=
  Apart.fill (by decide)

theorem showsSign_appliesOnlyTo (thing : String) : (appliesOnlyTo thing).ShowsSign :=
  Apart.fill (by decide)

/-! ## Something to say -/

def Tells (wording? : Option Wording) : Prop := ∃ w, wording? = some w ∧ w.ShowsSign

theorem Tells.of {w : Wording} (h : w.ShowsSign) : Tells (some w) := ⟨w, rfl, h⟩

theorem Tells.map {place? : Option String} {wording : String → Wording}
    (hplace : place?.isSome = true) (h : ∀ place, (wording place).ShowsSign) :
    Tells (place?.map wording) := by
  obtain ⟨place, rfl⟩ := Option.isSome_iff_exists.1 hplace
  exact .of (h place)

theorem tells_doing (h : scope ∈ [Scope.player, .team, .alliance, .world]) (plain third : String)
    (clause : String → String) :
    Tells ((doing? scope plain third).map fun who => requiresThat (clause who)) := by
  refine .map ?_ fun who => showsSign_requiresThat (clause who)
  cases scope with
  | player | team | alliance | world => rfl
  | here | cardinal | adjacent | city | tradeRoute | continent => exact absurd h (by decide)

theorem isSome_onTiles? (h : scope ∈ [Scope.here, .cardinal, .adjacent, .city, .tradeRoute]) :
    (onTiles? scope).isSome = true := by
  cases scope with
  | here | cardinal | adjacent | city | tradeRoute => rfl
  | continent | player | team | alliance | world => exact absurd h (by decide)

theorem isSome_inCities? (h : scope ∈ [Scope.city, .tradeRoute]) :
    (inCities? scope).isSome = true := by
  cases scope with
  | city | tradeRoute => rfl
  | here | cardinal | adjacent | continent | player | team | alliance | world =>
      exact absurd h (by decide)

theorem tells_onTiles (h : scope ∈ [Scope.here, .cardinal, .adjacent, .city, .tradeRoute])
    (thing : String) : Tells (onTiles scope thing) :=
  .map (isSome_onTiles? h) fun _ => showsSign_requiresPresence _

theorem tells_inCities (h : scope ∈ [Scope.city, .tradeRoute]) (thing : String) :
    Tells (inCities scope thing) :=
  .map (isSome_inCities? h) fun _ => showsSign_requiresPresence _

/-! ## Every kind in each of its scopes -/

theorem tells_building (h : scope ∈ (FactKind.entity .building).scopes) (label : String)
    (survives : Bool) : Tells (entityWording .building label scope survives) := by
  cases scope with
  | here => exact .of (showsSign_appliesOnlyTo _)
  | continent => exact .of (showsSign_requiresPresence _)
  | city | tradeRoute => exact tells_inCities (by decide) _
  | player | team | alliance | world =>
      simp only [entityWording]
      split
      · exact tells_doing (by decide) _ _ _
      · exact tells_doing (by decide) _ _ _
  | cardinal | adjacent => exact absurd h (by decide)

theorem tells_entity {kind : EntityKind} (h : scope ∈ (FactKind.entity kind).scopes)
    (label : String) (survives : Bool) : Tells (entityWording kind label scope survives) := by
  cases kind with
  | tech | nation =>
      -- a history is told of in the one scope that has it
      simp only [entityWording]
      split
      · exact .of (showsSign_requiresOnce _)
      · exact tells_doing h _ _ _
  | achievement | nationGroup => exact tells_doing h _ _ _
  | building => exact tells_building h label survives
  | extra | terrain => exact tells_onTiles h _
  | nationality => exact tells_inCities h _
  | government | good | unitType =>
      obtain rfl := List.mem_singleton.1 h
      exact .of (Apart.fill (by decide))
  | unitClass =>
      obtain rfl := List.mem_singleton.1 h
      exact .of (showsSign_requiresUnit _ _)
  | action =>
      obtain rfl := List.mem_singleton.1 h
      exact .of (showsSign_appliesTo _)
  | specialist =>
      obtain rfl := List.mem_singleton.1 h
      exact .of (showsSign_appliesOnlyTo _)
  | serverSetting =>
      obtain rfl := List.mem_singleton.1 h
      exact .of (showsSign_requiresEither (Apart.prepend (by decide)))

example : entityWording .tech "Alphabet" .world true =
    some ⟨"Requires that the Alphabet technology has been known in the world.",
      "Prevented once the Alphabet technology has been known in the world."⟩ := rfl

theorem tells_flag {kind : FlagKind} (h : scope ∈ (FactKind.flag kind).scopes) (name : String) :
    Tells (flagWording kind name scope) := by
  cases kind with
  | tech => exact tells_doing h _ _ _
  | extra | base | road | terrain => exact tells_onTiles h _
  | unitType | unitClass =>
      obtain rfl := List.mem_singleton.1 h
      exact .of (showsSign_requiresUnit _ _)

theorem tells_status (h : scope ∈ (FactKind.choice .cityStatus).scopes) (status : CityStatus) :
    Tells (statusWording status scope) := by
  cases scope with
  | city => exact .of (showsSign_requiresToBe _ _)
  | tradeRoute => exact .of (showsSign_requiresEither (Apart.append (by decide)))
  | here | cardinal | adjacent | continent | player | team | alliance | world =>
      exact absurd h (by decide)

theorem tells_relation (h : scope ∈ (FactKind.choice .relation).scopes) (relation : Relation) :
    Tells (choiceWording .relation relation scope) := by
  rcases List.mem_cons.1 h with rfl | hsocial
  · exact .of (showsSign_requiresThat _)
  · cases scope with
    | player | team | alliance | world =>
        simp only [choiceWording]
        exact tells_doing hsocial _ _ _
    | here | cardinal | adjacent | city | tradeRoute | continent => exact absurd hsocial (by decide)

theorem tells_choice {kind : ChoiceKind} (h : scope ∈ (FactKind.choice kind).scopes)
    (value : kind.Value) : Tells (choiceWording kind value scope) := by
  cases kind with
  | relation => exact tells_relation h value
  | cityStatus => exact tells_status h value
  | terrainClass => exact tells_onTiles h _
  | cityTile => exact tells_onTiles (List.mem_append_left [.city, .tradeRoute] h) _
  | genus | output =>
      obtain rfl := List.mem_singleton.1 h
      exact .of (showsSign_appliesOnlyTo _)
  | vision | intelligence =>
      obtain rfl := List.mem_singleton.1 h
      exact .of (showsSign_appliesTo _)
  | unitState | activity =>
      obtain rfl := List.mem_singleton.1 h
      exact .of (showsSign_requiresToBe _ _)
  | aiLevel | topology =>
      obtain rfl := List.mem_singleton.1 h
      exact .of (Apart.fill (by decide))
  | alteration =>
      obtain rfl := List.mem_singleton.1 h
      exact .of (showsSign_requiresEither (Apart.prepend (by decide)))

theorem isSome_nation? (h : scope ∈ (FactKind.measure .culture).scopes) :
    (measureWording.nation? scope).isSome = true := by
  cases scope with
  | city | tradeRoute | player | team | alliance | world => rfl
  | here | cardinal | adjacent | continent => exact absurd h (by decide)

theorem showsSign_left (amount : String) : (measureWording.left amount).ShowsSign :=
  showsSign_requiresEither (Apart.fill (by decide))

theorem showsSign_old (subject turns : String) : (measureWording.old subject turns).ShowsSign :=
  showsSign_requiresEither (Apart.fill (Apart.prepend (by decide)))

theorem tells_unitsOnTile (h : scope ∈ (FactKind.measure .unitsOnTile).scopes) (most : Int)
    (description : String) : Tells (measureWording .unitsOnTile most description scope) := by
  cases scope with
  | here =>
      simp only [measureWording]
      exact .of (showsSign_requiresEither (Apart.fill (by decide)))
  | cardinal | adjacent =>
      simp only [measureWording]
      refine .map (isSome_onTiles? (by decide)) fun place => showsSign_requiresEither ?_
      exact Apart.append_left (Apart.fill (by decide))
  | city | tradeRoute | continent | player | team | alliance | world => exact absurd h (by decide)

theorem tells_measure {measure : Measure} (h : scope ∈ (FactKind.measure measure).scopes)
    (n : Int) (description : String) : Tells (measureWording measure n description scope) := by
  cases measure with
  | unitsOnTile => exact tells_unitsOnTile h n description
  | culture =>
      refine .map (isSome_nation? h) fun place => ?_
      exact Apart.fill (Apart.fill (by decide))
  | foreignPercent =>
      refine .map (isSome_inCities? h) fun place => ?_
      exact Apart.fill (Apart.fill (by decide))
  | techs =>
      simp only [measureWording]
      rcases List.mem_cons.1 h with rfl | h
      · exact .of (showsSign_requiresEither (Apart.fill (by decide)))
      · obtain rfl := List.mem_singleton.1 h
        exact .of (Apart.fill (by decide))
  | size =>
      -- the number ends one of the sentences, and stands inside the other
      rcases List.mem_cons.1 h with rfl | h
      · simp only [measureWording]
        exact .of (showsSign_requiresEither (Apart.append_left (Apart.append (by decide))))
      · obtain rfl := List.mem_singleton.1 h
        simp only [measureWording]
        exact .of (showsSign_requiresEither (Apart.append_left (Apart.append (by decide))))
  | age =>
      cases scope with
      | here | city | player => exact .of (showsSign_old _ _)
      | cardinal | adjacent | tradeRoute | continent | team | alliance | world =>
          exact absurd h (by decide)
  | moveFragments | hitPoints =>
      obtain rfl := List.mem_singleton.1 h
      exact .of (showsSign_left _)
  | veteran | calendarFragment =>
      obtain rfl := List.mem_singleton.1 h
      simp only [measureWording]
      exact .of (showsSign_requiresEither (Apart.append_left (Apart.append (by decide))))
  | year =>
      obtain rfl := List.mem_singleton.1 h
      exact .of (showsSign_requiresEither (Apart.append (by decide)))

theorem tells_wording? {r : Requirement} (h : r.scopeIsLegal = true) (hnone : r.fact ≠ .none)
    (hinvalid : r.fact ≠ .invalid) (rs : Ruleset) (description : String) :
    Tells (wording? rs description r) := by
  obtain ⟨fact, scope, survives, present, quiet⟩ := r
  have hscope : scope ∈ fact.kind.scopes := List.contains_iff_mem.1 h
  cases fact with
  | none => exact absurd rfl hnone
  | invalid => exact absurd rfl hinvalid
  | entity kind ref => exact tells_entity hscope _ survives
  | flag kind flag => exact tells_flag hscope _
  | choice kind value => exact tells_choice hscope value
  | measure measure bound => exact tells_measure hscope _ description

/-! ## Sentences and lines -/

open Calculation

theorem checked_yearTextM (year : Int32) :
    (Fact.yearTextM year.toInt).checked =
      if year = .minValue then none else some (Fact.yearText year.toInt) := by
  have hleast : year = .minValue ↔ year.toInt = -2147483648 := by
    rw [← Int32.toInt_inj]
    rfl
  have hlow := year.le_toInt
  unfold Fact.yearText Fact.yearTextM
  split
  · next hbefore =>
      split
      · next hyear =>
          rw [hleast] at hyear
          exact checked_word_bind_of_not (by simp only [IsWord]; omega) _
      · next hyear =>
          rw [hleast] at hyear
          have hword := checked_word (n := -year.toInt) ⟨by omega, by omega⟩
          rw [checked_bind_of hword, modular_bind, modular_of_checked hword]
          rfl
  · next hafter =>
      rw [if_neg (by rw [hleast]; omega)]
      rfl

theorem checked_descriptionM (rs : Ruleset) (f : Fact) :
    (f.descriptionM rs).checked =
      if f = .measure .year .minValue then none else some (f.description rs) := by
  by_cases hyear : ∃ n, f = .measure .year n
  · obtain ⟨n, rfl⟩ := hyear
    simp only [Fact.measure.injEq, heq_eq_eq, true_and]
    exact checked_yearTextM n
  · have hpure : f.descriptionM rs = pure (f.description rs) := by
      unfold Fact.descriptionM
      split
      · exact absurd ⟨_, rfl⟩ hyear
      · rfl
    rw [hpure, checked_pure, if_neg fun h => hyear ⟨_, h⟩]

variable {rs : Ruleset} {verbosity : Verbosity} {r : Requirement}

theorem sentence?_eq (rs : Ruleset) (r : Requirement) :
    sentence? rs r = (wording? rs (r.fact.description rs) r).map fun w =>
      if r.present then w.demanded else w.excluded := by
  rw [sentence?, sentenceM?, modular_bind, Fact.modular_descriptionM]
  rfl

theorem sentence?_of_wording {w : Wording}
    (h : wording? rs (r.fact.description rs) r = some w) :
    sentence? rs r = some (if r.present then w.demanded else w.excluded) := by
  rw [sentence?_eq, h]
  rfl

theorem checked_sentenceM? (rs : Ruleset) (r : Requirement) :
    (sentenceM? rs r).checked =
      if r.fact = .measure .year .minValue then none else some (sentence? rs r) := by
  rw [sentence?, sentenceM?, checked_bind, modular_bind, checked_descriptionM,
    Fact.modular_descriptionM]
  split <;> rfl

theorem exists_sentences (h : r.scopeIsLegal = true) (hnone : r.fact ≠ .none)
    (hinvalid : r.fact ≠ .invalid) (rs : Ruleset) :
    ∃ said denied, Apart said denied ∧
      sentence? rs r = some said ∧ sentence? rs r.negated = some denied := by
  obtain ⟨w, hwording, hsign⟩ := tells_wording? h hnone hinvalid rs (r.fact.description rs)
  have hsaid := sentence?_of_wording hwording
  have hdenied : sentence? rs r.negated = some (if !r.present then w.demanded else w.excluded) :=
    sentence?_of_wording hwording
  cases hpresent : r.present with
  | true =>
      rw [hpresent] at hsaid hdenied
      exact ⟨w.demanded, w.excluded, hsign, hsaid, hdenied⟩
  | false =>
      rw [hpresent] at hsaid hdenied
      exact ⟨w.excluded, w.demanded, hsign.symm, hsaid, hdenied⟩

theorem lineM?_of_shown (h : verbosity = .default → r.quiet = false) :
    lineM? rs verbosity r = sentenceM? rs r := by
  have hhides : hides verbosity r = false := by
    cases verbosity with
    | default => simp [hides, h rfl]
    | actual => simp [hides]
  rw [lineM?, hhides]
  rfl

theorem line?_of_shown (h : verbosity = .default → r.quiet = false) :
    line? rs verbosity r = sentence? rs r := by
  rw [line?, lineM?_of_shown h, sentence?]

/-- Among the checked requirements a sentence is missed only for the fact that always holds. -/
theorem isUnworded_iff (h : r.checked = .ok r) :
    isUnworded rs verbosity r = true ↔
      verbosity = .default ∧ r.quiet = false ∧ r.fact = .none := by
  obtain ⟨hscope, -⟩ := Requirement.checked_eq_ok_iff.1 h
  have hmissed : r.isInvalid = false ∧ sentence? rs r = none ↔ r.fact = .none := by
    constructor
    · rintro ⟨hvalid, hsilent⟩
      by_contra hnone
      have hinvalid : r.fact ≠ .invalid := by
        simpa [Requirement.isInvalid, Fact.isInvalid] using hvalid
      obtain ⟨said, -, -, hsaid, -⟩ := exists_sentences hscope hnone hinvalid rs
      rw [hsilent] at hsaid
      cases hsaid
    · intro hnone
      simp [Requirement.isInvalid, Fact.isInvalid, sentence?_eq, wording?, hnone]
  simp [isUnworded, and_assoc, hmissed]

/-- Whatever the ruleset calls its entries, a checked requirement on anything but the fact that
always holds and the one that could not be read has a line in every help text that does not hide
it, its opposite has one too, and the two lines differ.  A program that checks its results comes to
the same lines for all years but the one whose opposite is not a word. -/
theorem checked_is_told (rs : Ruleset) (h : r.checked = .ok r) (hnone : r.fact ≠ .none)
    (hinvalid : r.fact ≠ .invalid) :
    ∃ said denied : String, said ≠ denied ∧
      ∀ verbosity : Verbosity, (verbosity = .default → r.quiet = false) →
        line? rs verbosity r = some said ∧ line? rs verbosity r.negated = some denied ∧
          (lineM? rs verbosity r).checked =
            (if r.fact = .measure .year .minValue then none else some (some said)) ∧
          (lineM? rs verbosity r.negated).checked =
            (if r.fact = .measure .year .minValue then none else some (some denied)) := by
  obtain ⟨hscope, -⟩ := Requirement.checked_eq_ok_iff.1 h
  obtain ⟨said, denied, hapart, hsaid, hdenied⟩ := exists_sentences hscope hnone hinvalid rs
  refine ⟨said, denied, hapart.ne, fun verbosity hshown => ?_⟩
  have hshown' : verbosity = .default → r.negated.quiet = false := hshown
  rw [line?_of_shown hshown, line?_of_shown hshown', lineM?_of_shown hshown,
    lineM?_of_shown hshown', checked_sentenceM?, checked_sentenceM?, hsaid, hdenied]
  exact ⟨rfl, rfl, rfl, rfl⟩

/-! ## A technology that nobody must ever have known -/

def neverAlphabet : Requirement :=
  { fact := .entity .tech ⟨0⟩, scope := .world, survives := true, present := false }

theorem neverAlphabet_is_told :
    neverAlphabet.checked = .ok neverAlphabet ∧ neverAlphabet.fact ≠ .none ∧
      neverAlphabet.fact ≠ .invalid ∧ ∃ said denied : String, said ≠ denied ∧
        ∀ verbosity, line? Ruleset.base verbosity neverAlphabet = some said ∧
          line? Ruleset.base verbosity neverAlphabet.negated = some denied ∧
          (lineM? Ruleset.base verbosity neverAlphabet).checked = some (some said) ∧
          (lineM? Ruleset.base verbosity neverAlphabet.negated).checked = some (some denied) := by
  have hchecked : neverAlphabet.checked = .ok neverAlphabet := rfl
  have hnone : neverAlphabet.fact ≠ .none := by decide
  have hinvalid : neverAlphabet.fact ≠ .invalid := by decide
  obtain ⟨said, denied, hne, hlines⟩ := checked_is_told Ruleset.base hchecked hnone hinvalid
  exact ⟨hchecked, hnone, hinvalid, said, denied, hne,
    fun verbosity => hlines verbosity fun _ => rfl⟩

end Help

end Rulebook
