import Rulebook.Fact.Basic
import Rulebook.Proofs.Text.Decimal
import Rulebook.Proofs.Written.Vocabulary

/-!
Facts are found by their names and numbers.

What has been found by a name is found again by its own, since the two are the
same up to case: a table takes the last of several entries with one name and a
list of flags the first, whichever of them is asked for.  Where no two names are
the same up to case, everything is found by its name.
-/

namespace Rulebook

/-! ## Lists of names -/

/-- References of 16 bits reach all names; the names have nothing to trim, and differ in more than
case. -/
structure TidyNames (names : List String) : Prop where
  length_le : names.length ≤ 65536
  distinct : (names.map Text.fold).Nodup
  trimmed : ∀ name ∈ names, Text.trim name = name

instance (names : List String) : Decidable (TidyNames names) :=
  decidable_of_iff
    (names.length ≤ 65536 ∧ (names.map Text.fold).Nodup ∧ ∀ name ∈ names, Text.trim name = name)
    ⟨fun h => ⟨h.1, h.2.1, h.2.2⟩, fun h => ⟨h.length_le, h.distinct, h.trimmed⟩⟩

theorem TidyNames.place_eq {names : List String} (h : TidyNames names) {i j : Nat} {a b : String}
    (hi : names[i]? = some a) (hj : names[j]? = some b) (hsame : Text.sameWord a b = true) :
    i = j := by
  have hlt : i < (names.map Text.fold).length := by
    simpa using (List.getElem?_eq_some_iff.1 hi).1
  apply (List.getElem?_inj hlt h.distinct).1
  rw [List.getElem?_map, List.getElem?_map, hi, hj]
  exact congrArg some (Text.sameWord_iff.1 hsame)

/-! ## Tables -/

namespace Table

variable {α : Type} [Titled α] {t : Table α} {name : String} {r : Ref α}

def names (t : Table α) : List String := t.entries.map fun e => (Titled.title e).name

theorem length_names : t.names.length = t.size := List.length_map _

theorem name?_eq_getElem? (t : Table α) (r : Ref α) : t.name? r = t.names[r.toNat]? :=
  List.getElem?_map.symm

theorem find?_congr {a b : String} (h : Text.sameWord a b = true) : t.find? a = t.find? b := by
  simp only [find?, Text.sameWord, Text.sameWord_iff.1 h]

theorem exists_place_of_find? (h : t.find? name = some r) :
    ∃ i found, t.names[i]? = some found ∧ r = .ofNat i ∧ Text.sameWord found name = true := by
  obtain ⟨⟨e, i⟩, hlast, rfl⟩ := Option.map_eq_some_iff.1 h
  obtain ⟨hmem, hname⟩ := List.mem_filter.1 (List.mem_of_getLast? hlast)
  refine ⟨i, _, ?_, rfl, hname⟩
  rw [names, List.getElem?_map, List.mk_mem_zipIdx_iff_getElem?.1 hmem]
  rfl

theorem exists_find? (h : name ∈ t.names) : ∃ r, t.find? name = some r := by
  obtain ⟨e, he, rfl⟩ := List.mem_map.1 h
  obtain ⟨i, hi⟩ := List.mem_iff_getElem?.1 he
  have hmem : (e, i) ∈ t.entries.zipIdx.filter fun entry =>
      Text.sameWord (Titled.title entry.1).name (Titled.title e).name :=
    List.mem_filter.2 ⟨List.mk_mem_zipIdx_iff_getElem?.2 hi, Text.sameWord_refl _⟩
  rw [find?, List.getLast?_eq_some_getLast (List.ne_nil_of_mem hmem)]
  exact ⟨_, rfl⟩

theorem name?_of_find? (hsize : t.size ≤ 65536) (h : t.find? name = some r) :
    ∃ found, t.name? r = some found ∧ Text.sameWord found name = true := by
  obtain ⟨i, found, hi, rfl, hname⟩ := exists_place_of_find? h
  have hlt : i < t.size := (List.getElem?_eq_some_iff.1 hi).1.trans_eq length_names
  refine ⟨found, ?_, hname⟩
  rw [name?_eq_getElem?, Ref.toNat_ofNat (hlt.trans_le hsize), hi]

theorem find?_of_name? (ht : TidyNames t.names) (h : t.name? r = some name) :
    t.find? name = some r := by
  rw [name?_eq_getElem?] at h
  obtain ⟨found, hfound⟩ := exists_find? (List.mem_of_getElem? h)
  obtain ⟨i, other, hi, rfl, hname⟩ := exists_place_of_find? hfound
  rw [hfound, ht.place_eq hi h hname, Ref.ofNat_toNat]

end Table

/-! ## Lists of flags -/

namespace FlagList

variable {kind : FlagKind} {l : FlagList kind} {name : String} {f : Flag kind}

theorem find?_congr {a b : String} (h : Text.sameWord a b = true) : l.find? a = l.find? b := by
  simp only [find?, Text.sameWord, Text.sameWord_iff.1 h]

theorem exists_place_of_find? (h : l.find? name = some f) :
    ∃ i found, l.names[i]? = some found ∧ f = .ofNat i ∧ Text.sameWord found name = true := by
  obtain ⟨i, hindex, rfl⟩ := Option.map_eq_some_iff.1 h
  obtain ⟨hlt, hname, -⟩ := List.findIdx?_eq_some_iff_getElem.1 hindex
  exact ⟨i, l.names[i], List.getElem?_eq_getElem hlt, rfl, hname⟩

theorem exists_find? (h : name ∈ l.names) : ∃ f, l.find? name = some f := by
  have hindex : (l.names.findIdx? fun n => Text.sameWord n name).isSome = true := by
    rw [List.findIdx?_isSome, List.any_eq_true]
    exact ⟨name, h, Text.sameWord_refl name⟩
  obtain ⟨i, hi⟩ := Option.isSome_iff_exists.1 hindex
  exact ⟨.ofNat i, by rw [find?, hi]; rfl⟩

theorem name?_of_find? (hsize : l.size ≤ 65536) (h : l.find? name = some f) :
    ∃ found, l.name? f = some found ∧ Text.sameWord found name = true := by
  obtain ⟨i, found, hi, rfl, hname⟩ := exists_place_of_find? h
  have hlt : i < l.size := (List.getElem?_eq_some_iff.1 hi).1
  refine ⟨found, ?_, hname⟩
  rw [name?, Flag.toNat_ofNat (hlt.trans_le hsize), hi]

theorem find?_of_name? (hl : TidyNames l.names) (h : l.name? f = some name) :
    l.find? name = some f := by
  obtain ⟨found, hfound⟩ := exists_find? (List.mem_of_getElem? h)
  obtain ⟨i, other, hi, rfl, hname⟩ := exists_place_of_find? hfound
  rw [hfound, hl.place_eq hi h hname, Flag.ofNat_toNat]

end FlagList

/-! ## Measures -/

namespace Measure

theorem ofInt?_toInt (m : Measure) (bound : m.Bound) : m.ofInt? (m.toInt bound) = some bound := by
  cases m with
  | veteran =>
      have hbound : (0 : Int) ≤ (UInt8.toNat bound : Int) ∧ (UInt8.toNat bound : Int) < 256 :=
        ⟨Int.natCast_nonneg _, Int.ofNat_lt.2 (UInt8.toNat_lt bound)⟩
      simp only [ofInt?, toInt, hbound, and_self, if_true, Int.toNat_natCast]
      exact congrArg some UInt8.ofNat_toNat
  | _ =>
      have hbound : (-2147483648 : Int) ≤ Int32.toInt bound ∧ Int32.toInt bound < 2147483648 :=
        ⟨Int32.le_toInt bound, Int32.toInt_lt bound⟩
      simp only [ofInt?, toInt, hbound, and_self, if_true]
      exact congrArg some (Int32.ofInt_toInt bound)

theorem toInt_of_ofInt? {m : Measure} {n : Int} {bound : m.Bound} (h : m.ofInt? n = some bound) :
    m.toInt bound = n := by
  cases m with
  | veteran =>
      simp only [ofInt?, Option.ite_none_right_eq_some, Option.some.injEq] at h
      obtain ⟨hrange, rfl⟩ := h
      have hback : (UInt8.ofNat n.toNat).toNat = n.toNat := UInt8.toNat_ofNat_of_lt' (by simp; omega)
      simp only [toInt]
      omega
  | _ =>
      simp only [ofInt?, Option.ite_none_right_eq_some, Option.some.injEq] at h
      obtain ⟨⟨hlow, hhigh⟩, rfl⟩ := h
      exact Int32.toInt_ofInt_of_le hlow hhigh

end Measure

/-! ## Rulesets -/

structure Ruleset.Addressable (rs : Ruleset) : Prop where
  tables : ∀ kind, (rs.table kind).size ≤ 65536
  flags : ∀ kind, (rs.flags kind).size ≤ 65536

structure Ruleset.Tidy (rs : Ruleset) : Prop where
  tables : ∀ kind, TidyNames (rs.table kind).names
  flags : ∀ kind, TidyNames (rs.flags kind).names

theorem Ruleset.Tidy.addressable {rs : Ruleset} (h : rs.Tidy) : rs.Addressable where
  tables kind := Table.length_names.symm.trans_le (h.tables kind).length_le
  flags kind := (h.flags kind).length_le

/-! ## Facts -/

namespace Fact

variable {rs : Ruleset}

def IsListed (rs : Ruleset) : Fact → Prop
  | .entity kind r => r.toNat < (rs.table kind).size
  | .flag kind f => f.toNat < (rs.flags kind).size
  | _ => True

instance (rs : Ruleset) : (f : Fact) → Decidable (f.IsListed rs)
  | .entity kind r => inferInstanceAs (Decidable (r.toNat < (rs.table kind).size))
  | .flag kind f => inferInstanceAs (Decidable (f.toNat < (rs.flags kind).size))
  | .none | .choice .. | .measure .. | .invalid => inferInstanceAs (Decidable True)

def ReadsBack (rs : Ruleset) (f : Fact) : Prop :=
  f.isInvalid = false ∧ ofName rs f.kind (f.name rs) = f

theorem ofName_of_named? {kind : FactKind} {name : String} {f : Fact} (htrim : Text.trim name = name)
    (h : named? rs kind name = some f) : ofName rs kind name = f := by
  rw [ofName, htrim, h]
  rfl

theorem named?_of_ofName {kind : FactKind} {name : String}
    (h : (ofName rs kind name).isInvalid = false) :
    named? rs kind (Text.trim name) = some (ofName rs kind name) := by
  unfold ofName at h ⊢
  cases hnamed : named? rs kind (Text.trim name) with
  | none =>
      rw [hnamed] at h
      contradiction
  | some f => rfl

theorem exists_bound_of_named? {m : Measure} {word : String} {f : Fact}
    (h : named? rs (.measure m) word = some f) : ∃ bound, f = .measure m bound := by
  cases m <;>
    · obtain ⟨n, -, hbound⟩ := Option.bind_eq_some_iff.1 h
      obtain ⟨bound, -, rfl⟩ := Option.map_eq_some_iff.1 hbound
      exact ⟨bound, rfl⟩

theorem readsBack_choice (kind : ChoiceKind) (value : kind.Value) :
    (Fact.choice kind value).ReadsBack rs := by
  refine ⟨rfl, ofName_of_named? (Vocabulary.trim_word value) ?_⟩
  simp only [Fact.kind, named?, name, Vocabulary.named?_word, Option.map_some]

theorem readsBack_measure (m : Measure) (bound : m.Bound) :
    (Fact.measure m bound).ReadsBack rs := by
  refine ⟨rfl, ofName_of_named? (Text.trim_ofInt _) ?_⟩
  cases m with
  | veteran =>
      have hread := Measure.ofInt?_toInt .veteran bound
      simp only [Fact.kind, named?, name, Measure.toInt, Text.ofInt_natCast, Text.unsigned?_ofNat,
        Option.bind_some] at hread ⊢
      rw [hread]
      rfl
  | _ =>
      simp only [Fact.kind, named?, name, Text.signed?_ofInt, Option.bind_some,
        Measure.ofInt?_toInt, Option.map_some]

theorem readsBack_entity {kind : EntityKind} {r : Ref kind.Entry} {found : String}
    (hname : (rs.table kind).name? r = some found) (htrim : Text.trim found = found)
    (hfind : (rs.table kind).find? found = some r) : (Fact.entity kind r).ReadsBack rs := by
  refine ⟨rfl, ofName_of_named? ?_ ?_⟩
  · simpa [name, hname] using htrim
  · simp only [Fact.kind, named?, name, hname, Option.getD_some, hfind, Option.map_some]

theorem readsBack_flag {kind : FlagKind} {f : Flag kind} {found : String}
    (hname : (rs.flags kind).name? f = some found) (htrim : Text.trim found = found)
    (hfind : (rs.flags kind).find? found = some f) : (Fact.flag kind f).ReadsBack rs := by
  refine ⟨rfl, ofName_of_named? ?_ ?_⟩
  · simpa [name, hname] using htrim
  · simp only [Fact.kind, named?, name, hname, Option.getD_some, hfind, Option.map_some]

/-- What has been read by a name is read again by its own. -/
theorem readsBack_of_ofName (hrs : rs.Addressable) {kind : FactKind} {word : String}
    (h : (ofName rs kind word).isInvalid = false) : (ofName rs kind word).ReadsBack rs := by
  have hnamed := named?_of_ofName h
  cases kind with
  | none => exact ⟨rfl, rfl⟩
  | invalid => contradiction
  | entity kind =>
      obtain ⟨r, hfind, hfact⟩ := Option.map_eq_some_iff.1 hnamed
      obtain ⟨found, hname, hsame⟩ := Table.name?_of_find? (hrs.tables kind) hfind
      rw [← hfact]
      exact readsBack_entity hname (Text.trim_eq_self_of_sameWord hsame (Text.trim_trim word))
        ((Table.find?_congr hsame).trans hfind)
  | flag kind =>
      obtain ⟨f, hfind, hfact⟩ := Option.map_eq_some_iff.1 hnamed
      obtain ⟨found, hname, hsame⟩ := FlagList.name?_of_find? (hrs.flags kind) hfind
      rw [← hfact]
      exact readsBack_flag hname (Text.trim_eq_self_of_sameWord hsame (Text.trim_trim word))
        ((FlagList.find?_congr hsame).trans hfind)
  | choice kind =>
      obtain ⟨value, -, hfact⟩ := Option.map_eq_some_iff.1 hnamed
      rw [← hfact]
      exact readsBack_choice kind value
  | measure m =>
      obtain ⟨bound, hfact⟩ := exists_bound_of_named? hnamed
      rw [hfact]
      exact readsBack_measure m bound

theorem readsBack_of_isListed (hrs : rs.Tidy) {f : Fact} (hvalid : f.isInvalid = false)
    (h : f.IsListed rs) : f.ReadsBack rs := by
  cases f with
  | none => exact ⟨rfl, rfl⟩
  | invalid => contradiction
  | entity kind r =>
      have hlt : r.toNat < (rs.table kind).names.length := h.trans_eq Table.length_names.symm
      have hname : (rs.table kind).name? r = some (rs.table kind).names[r.toNat] := by
        rw [Table.name?_eq_getElem?, List.getElem?_eq_getElem hlt]
      exact readsBack_entity hname ((hrs.tables kind).trimmed _ (List.getElem_mem hlt))
        (Table.find?_of_name? (hrs.tables kind) hname)
  | flag kind f =>
      have hname : (rs.flags kind).name? f = some (rs.flags kind).names[f.toNat] :=
        List.getElem?_eq_getElem h
      exact readsBack_flag hname ((hrs.flags kind).trimmed _ (List.getElem_mem h))
        (FlagList.find?_of_name? (hrs.flags kind) hname)
  | choice kind value => exact readsBack_choice kind value
  | measure m bound => exact readsBack_measure m bound

/-! ### Numbers -/

theorem ofNumber_number {f : Fact} (hvalid : f.isInvalid = false) (h : f.IsListed rs) :
    ofNumber rs f.kind f.number = f := by
  have hnumbered : numbered? rs f.kind f.number = some f := by
    cases f with
    | none => rfl
    | invalid => contradiction
    | entity kind r =>
        have hlt : r.toNat < (rs.table kind).size := h
        simp [Fact.kind, numbered?, number, hlt, Ref.ofNat_toNat]
    | flag kind f =>
        have hlt : f.toNat < (rs.flags kind).size := h
        simp [Fact.kind, numbered?, number, hlt, Flag.ofNat_toNat]
    | choice kind value =>
        simp [Fact.kind, numbered?, number, Vocabulary.at?_index]
    | measure m bound =>
        simp [Fact.kind, numbered?, number, Measure.ofInt?_toInt]
  rw [ofNumber, hnumbered]
  rfl

theorem numbered?_of_ofNumber {kind : FactKind} {n : Int}
    (h : (ofNumber rs kind n).isInvalid = false) :
    numbered? rs kind n = some (ofNumber rs kind n) := by
  unfold ofNumber at h ⊢
  cases hnumbered : numbered? rs kind n with
  | none =>
      rw [hnumbered] at h
      contradiction
  | some f => rfl

/-- Only the fact that always holds goes by more than one number. -/
theorem number_of_numbered? (hrs : rs.Addressable) {kind : FactKind} {n : Int} {f : Fact}
    (hkind : kind ≠ .none) (hvalid : f.isInvalid = false) (h : numbered? rs kind n = some f) :
    f.kind = kind ∧ f.number = n := by
  cases kind with
  | none => contradiction
  | invalid =>
      cases h
      contradiction
  | entity kind =>
      simp only [numbered?, Option.ite_none_right_eq_some, Option.some.injEq] at h
      obtain ⟨hrange, rfl⟩ := h
      have hlt : n.toNat < 65536 := by have := hrs.tables kind; omega
      refine ⟨rfl, ?_⟩
      rw [number, Ref.toNat_ofNat hlt]
      omega
  | flag kind =>
      simp only [numbered?, Option.ite_none_right_eq_some, Option.some.injEq] at h
      obtain ⟨hrange, rfl⟩ := h
      have hlt : n.toNat < 65536 := by have := hrs.flags kind; omega
      refine ⟨rfl, ?_⟩
      rw [number, Flag.toNat_ofNat hlt]
      omega
  | choice kind =>
      simp only [numbered?, Option.ite_none_right_eq_some, Option.map_eq_some_iff] at h
      obtain ⟨hnonneg, value, hvalue, rfl⟩ := h
      refine ⟨rfl, ?_⟩
      rw [number, Vocabulary.index_of_at? hvalue]
      omega
  | measure m =>
      obtain ⟨bound, hbound, rfl⟩ := Option.map_eq_some_iff.1 h
      exact ⟨rfl, Measure.toInt_of_ofInt? hbound⟩

end Fact

end Rulebook
