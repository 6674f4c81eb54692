import Rulebook.Proofs.Review.Kept
import Rulebook.Proofs.Written.Name

/-!
The two written forms of a requirement.

By names and by numbers alike, what is written for a requirement is read as that
requirement, or refused with just the flaw that its own check finds.  By numbers
a written form is the only one of what it is read as, but for the fact that
always holds, which any number stands for.
-/

namespace Rulebook

theorem FactKind.filter_eq_self {kind : FactKind} (h : kind ≠ .invalid) :
    (some kind).filter (· != .invalid) = some kind := by
  simp [Option.filter, h]

theorem Fact.kind_ne_invalid {f : Fact} (h : f.isInvalid = false) : f.kind ≠ .invalid := by
  cases f <;> first | contradiction | exact fun hkind => nomatch hkind

namespace Requirement

variable {rs : Ruleset} {r : Requirement} {kind : FactKind}

/-! ## By names -/

theorem kindNamed?_word (h : kind ≠ .invalid) : kindNamed? (Vocabulary.word kind) = some kind := by
  rw [kindNamed?, Vocabulary.trim_word, Vocabulary.named?_word, FactKind.filter_eq_self h]

theorem scopeOf_word (kind : FactKind) (scope : Scope) :
    scopeOf kind (some (Vocabulary.word scope)) = .ok scope := by
  have hnonempty : (Vocabulary.word scope).isEmpty = false := by cases scope <;> rfl
  simp only [scopeOf, Option.getD_some, Vocabulary.trim_word, hnonempty, Vocabulary.named?_word]
  rfl

theorem ofEntry_toEntry (h : r.fact.ReadsBack rs) : ofEntry rs (r.toEntry rs) = r.checked := by
  obtain ⟨hvalid, hname⟩ := h
  delta ofEntry
  simp only [toEntry, kindNamed?_word (Fact.kind_ne_invalid hvalid), scopeOf_word, kind, hname,
    hvalid]
  rfl

/-! ## By numbers -/

section

variable {α : Type} [Vocabulary α] [BEq α] [LawfulBEq α]

theorem at?_index (a : α) : at? (Vocabulary.index a : Int) = some a :=
  Vocabulary.at?_index a

theorem index_of_at? [Vocabulary.Legible α] {a : α} {n : Int} (h : at? n = some a) :
    (Vocabulary.index a : Int) = n := by
  obtain ⟨place, hplace, hmember⟩ := Option.bind_eq_some_iff.1 h
  rw [Vocabulary.index_of_at? hmember]
  exact Int.mem_toNat?.1 hplace |>.symm

end

theorem ofCode_toCode (hvalid : r.isInvalid = false) (h : r.fact.IsListed rs) :
    ofCode rs r.toCode = r.checked := by
  have hkind : r.kind ≠ .invalid := Fact.kind_ne_invalid hvalid
  have hnumber : Fact.ofNumber rs r.kind r.fact.number = r.fact := Fact.ofNumber_number hvalid h
  have hfact : r.fact.isInvalid = false := hvalid
  delta ofCode
  simp only [toCode, at?_index, FactKind.filter_eq_self hkind, hnumber, hfact]
  rfl

theorem exists_parts_of_ofCode {c : Code} (h : ofCode rs c = .ok r) :
    ∃ kind, at? c.kind = some kind ∧ at? c.scope = some r.scope ∧
      Fact.numbered? rs kind c.value = some r.fact ∧ r.fact.isInvalid = false ∧
      r.survives = c.survives ∧ r.present = c.present ∧ r.quiet = c.quiet := by
  delta ofCode at h
  cases hfilter : (at? c.kind : Option FactKind).filter (· != .invalid) with
  | none => simp only [hfilter, reduceCtorEq] at h
  | some kind =>
      cases hscope : (at? c.scope : Option Scope) with
      | none => simp only [hfilter, hscope, reduceCtorEq] at h
      | some scope =>
          cases hfact : (Fact.ofNumber rs kind c.value).isInvalid with
          | true => simp only [hfilter, hscope, hfact, if_true, reduceCtorEq] at h
          | false =>
              simp only [hfilter, hscope, hfact, Bool.false_eq_true, if_false] at h
              obtain rfl := eq_of_checked h
              have hkind := (Option.filter_eq_some_iff.1 hfilter).1
              exact ⟨kind, hkind, rfl, Fact.numbered?_of_ofNumber hfact, hfact, rfl, rfl, rfl⟩

theorem toCode_of_ofCode (hrs : rs.Addressable) {c : Code}
    (hkind : c.kind ≠ (Vocabulary.index FactKind.none : Nat)) (h : ofCode rs c = .ok r) :
    r.toCode = c := by
  obtain ⟨kind, hread, hscope, hfact, hvalid, hsurvives, hpresent, hquiet⟩ :=
    exists_parts_of_ofCode h
  have hplace := index_of_at? hread
  have hne : kind ≠ .none := by
    rintro rfl
    exact hkind hplace.symm
  obtain ⟨hsame, hnumber⟩ := Fact.number_of_numbered? hrs hne hvalid hfact
  obtain ⟨k, scope, value, survives, present, quiet⟩ := c
  simp only [toCode, Requirement.kind, hsame, hplace, index_of_at? hscope, hnumber, hsurvives,
    hpresent, hquiet]

/-- By names and by numbers a requirement is read as it was written, or refused with the flaw of its
own check; and a form by numbers is what is written for the requirement that it is read as. -/
theorem encodings_agree (rs : Ruleset) (hrs : rs.Tidy) :
    (∀ r : Requirement, r.isInvalid = false → r.fact.IsListed rs →
      ofCode rs r.toCode = r.checked ∧ ofEntry rs (r.toEntry rs) = r.checked ∧
        (r.checked = .ok r ∨ ∃ flaw, r.checked = .error flaw)) ∧
    ∀ (c : Code) (r : Requirement), c.kind ≠ (Vocabulary.index FactKind.none : Nat) →
      ofCode rs c = .ok r → r.toCode = c := by
  refine ⟨fun r hvalid hlisted => ⟨?_, ?_, ?_⟩, fun c r => toCode_of_ofCode hrs.addressable⟩
  · exact ofCode_toCode hvalid hlisted
  · exact ofEntry_toEntry (Fact.readsBack_of_isListed hrs hvalid hlisted)
  · cases hchecked : r.checked with
    | ok r' =>
        rw [eq_of_checked hchecked]
        exact .inl rfl
    | error flaw => exact .inr ⟨flaw, rfl⟩

/-! ## A ruleset of scribes -/

def scribes : Ruleset where
  techs := ⟨[⟨⟨"Alphabet", "Alphabet"⟩, []⟩, ⟨⟨"Writing", "Writing"⟩, []⟩]⟩
  flags
    | .unitType => ⟨["NonMil"]⟩
    | _ => {}

def literate : Requirement := { fact := .entity .tech ⟨1⟩, scope := .player }

def literateCity : Requirement := { literate with scope := .city }

theorem scribes_encodings_agree :
    scribes.Tidy ∧ literate.fact.IsListed scribes ∧
      ofCode scribes literate.toCode = .ok literate ∧
      ofEntry scribes (literate.toEntry scribes) = .ok literate ∧
      ofCode scribes literateCity.toCode = .error (.badScope (.entity .tech) .city) ∧
      ofEntry scribes (literateCity.toEntry scribes) = .error (.badScope (.entity .tech) .city) ∧
      literate.toCode = ⟨1, 6, 1, false, true, false⟩ := by
  have htidy : scribes.Tidy :=
    ⟨fun kind => by cases kind <;> decide +kernel, fun kind => by cases kind <;> decide +kernel⟩
  have hlisted : literate.fact.IsListed scribes := by decide +kernel
  obtain ⟨hforms, hcodes⟩ := encodings_agree scribes htidy
  obtain ⟨hcode, hentry, -⟩ := hforms literate rfl hlisted
  obtain ⟨hcode', hentry', -⟩ := hforms literateCity rfl hlisted
  exact ⟨htidy, hlisted, hcode, hentry, hcode', hentry', hcodes _ literate (by decide) hcode⟩

end Requirement

end Rulebook
