import Rulebook.Proofs.Ruleset.Size

/-!
Every name that a draft mentions becomes a reference to what goes by that name.

A draft is coherent if its tables are not too long and what its entries mention is
listed.  These are the drafts that can be assembled, and the references of the
ruleset answer to the names that were written.  For flags this takes some care:
their lists may be longer than numbers of 16 bits reach, and a flag that is first
listed beyond that point gets the number of another one.
-/

namespace Rulebook

/-! ## What names find -/

def Listed (names : List String) (name : String) : Prop :=
  ∃ n ∈ names, Text.sameWord n name = true

instance (names : List String) (name : String) : Decidable (Listed names name) :=
  inferInstanceAs (Decidable (∃ n ∈ names, Text.sameWord n name = true))

theorem exists_forall₂_iff {α β : Type} {R : α → β → Prop} {as : List α} :
    (∃ bs, List.Forall₂ R as bs) ↔ ∀ a ∈ as, ∃ b, R a b := by
  induction as with
  | nil => simp
  | cons a rest ih =>
      rw [List.forall_mem_cons, ← ih]
      constructor
      · rintro ⟨_, hb | ⟨hb, hothers⟩⟩
        exact ⟨⟨_, hb⟩, _, hothers⟩
      · rintro ⟨⟨b, hb⟩, others, hothers⟩
        exact ⟨b :: others, .cons hb hothers⟩

theorem exists_finds_iff {κ : Type} {find? : String → Option κ} {listed : List String}
    (h : ∀ name, (∃ found, find? name = some found) ↔ Listed listed name) {names : List String} :
    (∃ found, Finds find? names found) ↔ ∀ name ∈ names, Listed listed name := by
  simp only [Finds, exists_forall₂_iff, h]

theorem listed_of_finds {κ : Type} {find? : String → Option κ} {listed : List String}
    (h : ∀ name, (∃ found, find? name = some found) ↔ Listed listed name)
    {uses : List (List String)} {stored : List (List κ)}
    (hfinds : List.Forall₂ (Finds find?) uses stored) :
    ∀ names ∈ uses, ∀ name ∈ names, Listed listed name :=
  fun names hnames => (exists_finds_iff h).1 (exists_forall₂_iff.1 ⟨_, hfinds⟩ names hnames)

namespace Table

variable {α : Type} [Titled α] {t : Table α} {name : String} {r : Ref α}

def Answers (t : Table α) (name : String) (r : Ref α) : Prop :=
  ∃ found, t.name? r = some found ∧ Text.sameWord found name = true

theorem exists_find?_iff : (∃ r, t.find? name = some r) ↔ Listed t.names name := by
  constructor
  · rintro ⟨r, h⟩
    obtain ⟨i, found, hi, -, hname⟩ := exists_place_of_find? h
    exact ⟨found, List.mem_of_getElem? hi, hname⟩
  · rintro ⟨n, hn, hname⟩
    rw [← find?_congr hname]
    exact exists_find? hn

theorem answers_of_find? (hsize : t.size ≤ Ruleset.tableLimit) (h : t.find? name = some r) :
    t.Answers name r :=
  name?_of_find? (hsize.trans (by decide)) h

end Table

namespace FlagList

variable {kind : FlagKind} {l : FlagList kind} {name : String} {f : Flag kind}

def Answers (l : FlagList kind) (name : String) (f : Flag kind) : Prop :=
  ∃ found, l.name? f = some found ∧ Text.sameWord found name = true

theorem exists_find?_iff : (∃ f, l.find? name = some f) ↔ Listed l.names name := by
  constructor
  · rintro ⟨f, h⟩
    obtain ⟨i, found, hi, -, hname⟩ := exists_place_of_find? h
    exact ⟨found, List.mem_of_getElem? hi, hname⟩
  · rintro ⟨n, hn, hname⟩
    rw [← find?_congr hname]
    exact exists_find? hn

/-- A flag answers to its name exactly if numbers of 16 bits reach a place where it is listed:
otherwise its number is that of an earlier place, where another name stands. -/
theorem answers_iff (h : l.find? name = some f) :
    l.Answers name f ↔ Listed (l.names.take 65536) name := by
  obtain ⟨i, hi, rfl⟩ := Option.map_eq_some_iff.1 h
  obtain ⟨hlt, hname, hfirst⟩ := List.findIdx?_eq_some_iff_getElem.1 hi
  have hnumber : (Flag.ofNat i : Flag kind).toNat = i % 65536 := by
    simp [Flag.toNat, Flag.ofNat]
  constructor
  · rintro ⟨found, hfound, hsame⟩
    rw [name?, hnumber] at hfound
    refine ⟨found, List.mem_of_getElem? (i := i % 65536) ?_, hsame⟩
    rw [List.getElem?_take_of_lt (Nat.mod_lt i (by decide)), hfound]
  · rintro ⟨n, hn, hsame⟩
    obtain ⟨j, hj, rfl⟩ := List.mem_take_iff_getElem.1 hn
    -- No name before the one found is the same, so the one found is within reach too.
    have hreach : i ≤ j := by
      by_contra hbefore
      exact hfirst j (Nat.lt_of_not_le hbefore) hsame
    have hmod : i % 65536 = i := Nat.mod_eq_of_lt (by omega)
    refine ⟨l.names[i], ?_, hname⟩
    rw [name?, hnumber, hmod, List.getElem?_eq_getElem hlt]

end FlagList

/-! ## What entries mention -/

namespace Draft

def flagUses (d : Draft) : FlagKind → List (List String)
  | .tech => d.techs.techs.map (·.2.content)
  | .terrain => d.terrain.terrains.map (·.2.content.flags)
  | .unitType => d.units.unitTypes.map (·.2.content.flags)
  | .unitClass => d.units.unitClasses.map (·.2.content)
  | .extra => d.terrain.extras.map (·.2.content.flags)
  | .base => d.terrain.extras.map (·.2.content.baseFlags)
  | .road => d.terrain.extras.map (·.2.content.roadFlags)

def classUses (d : Draft) : List String := d.units.unitTypes.map (·.2.content.unitClass)

def nativeUses (d : Draft) : List (List String) := d.terrain.terrains.map (·.2.content.nativeTo)

def groupUses (d : Draft) : List (List String) := d.game.nations.map (·.2.content)

/-- No table is too long, and what the entries mention is listed. -/
structure Coherent (d : Draft) : Prop where
  fits : ∀ kind, (d.entryNames kind).length ≤ Ruleset.tableLimit
  classes : ∀ name ∈ d.classUses, Listed (d.entryNames .unitClass) name
  natives : ∀ names ∈ d.nativeUses, ∀ name ∈ names, Listed (d.entryNames .unitClass) name
  groups : ∀ names ∈ d.groupUses, ∀ name ∈ names, Listed (d.entryNames .nationGroup) name
  flags : ∀ kind, ∀ names ∈ d.flagUses kind, ∀ name ∈ names,
    Listed (Ruleset.declaredFlags d kind).names name

end Draft

namespace Ruleset

def flagUses (rs : Ruleset) : (kind : FlagKind) → List (List (Flag kind))
  | .tech => rs.techs.entries.map (·.flags)
  | .terrain => rs.terrains.entries.map (·.flags)
  | .unitType => rs.unitTypes.entries.map (·.flags)
  | .unitClass => rs.unitClasses.entries.map (·.flags)
  | .extra => rs.extras.entries.map (·.flags)
  | .base => rs.extras.entries.map (·.baseFlags)
  | .road => rs.extras.entries.map (·.roadFlags)

def classUses (rs : Ruleset) : List (Ref UnitClass) := rs.unitTypes.entries.map (·.unitClass)

def nativeUses (rs : Ruleset) : List (List (Ref UnitClass)) :=
  rs.terrains.entries.map (·.nativeTo)

def groupUses (rs : Ruleset) : List (List (Ref NationGroup)) := rs.nations.entries.map (·.groups)

namespace CompiledFrom

variable {rs : Ruleset} {d : Draft}

theorem finds_classes (h : rs.CompiledFrom d) :
    Finds rs.unitClasses.find? d.classUses rs.classUses :=
  h.unitTypes.forall₂_map fun _ _ made => made.1

theorem finds_natives (h : rs.CompiledFrom d) :
    List.Forall₂ (Finds rs.unitClasses.find?) d.nativeUses rs.nativeUses :=
  h.terrains.forall₂_map fun _ _ made => made.2.1

theorem finds_groups (h : rs.CompiledFrom d) :
    List.Forall₂ (Finds rs.nationGroups.find?) d.groupUses rs.groupUses :=
  h.nations.forall₂_map fun _ _ made => made

theorem finds_flags (h : rs.CompiledFrom d) (kind : FlagKind) :
    List.Forall₂ (Finds (rs.flags kind).find?) (d.flagUses kind) (rs.flagUses kind) := by
  cases kind with
  | tech => exact h.techs.forall₂_map fun _ _ made => made
  | terrain => exact h.terrains.forall₂_map fun _ _ made => made.1
  | unitType => exact h.unitTypes.forall₂_map fun _ _ made => made.2.1
  | unitClass => exact h.unitClasses.forall₂_map fun _ _ made => made
  | extra => exact h.extras.forall₂_map fun _ _ made => made.1
  | base => exact h.extras.forall₂_map fun _ _ made => made.2.1
  | road => exact h.extras.forall₂_map fun _ _ made => made.2.2

/-! ## What can be assembled -/

theorem coherent (h : rs.CompiledFrom d) : d.Coherent where
  fits kind := by
    rw [← h.names_eq kind, Table.length_names]
    exact h.size_le kind
  classes := by
    intro name hname
    obtain ⟨r, hr⟩ := exists_forall₂_iff.1 ⟨_, h.finds_classes⟩ name hname
    rw [← h.names_eq .unitClass]
    exact Table.exists_find?_iff.1 ⟨r, hr⟩
  natives := by
    rw [← h.names_eq .unitClass]
    exact listed_of_finds (fun _ => Table.exists_find?_iff) h.finds_natives
  groups := by
    rw [← h.names_eq .nationGroup]
    exact listed_of_finds (fun _ => Table.exists_find?_iff) h.finds_groups
  flags kind := by
    rw [← h.flags]
    exact listed_of_finds (fun _ => FlagList.exists_find?_iff) (h.finds_flags kind)

end CompiledFrom

/-! ## Every coherent draft can be assembled -/

theorem exists_bind_of_ok {α β ε : Type} {first : Except ε α} {rest : α → Except ε β} {a : α}
    (hfirst : first = .ok a) (hrest : ∃ b, rest a = .ok b) : ∃ b, (first >>= rest) = .ok b := by
  rw [hfirst]
  exact hrest

theorem exists_flagsNamed {kind : FlagKind} {l : FlagList kind} {names : List String}
    (h : ∀ name ∈ names, Listed l.names name) : ∃ flags, flagsNamed l names = .ok flags := by
  simp only [flagsNamed_eq_ok_iff]
  exact (exists_finds_iff fun _ => FlagList.exists_find?_iff).2 h

theorem exists_refsNamed {α : Type} [Titled α] {t : Table α} {names : List String}
    (h : ∀ name ∈ names, Listed t.names name) : ∃ refs, refsNamed t names = .ok refs := by
  simp only [refsNamed_eq_ok_iff]
  exact (exists_finds_iff fun _ => Table.exists_find?_iff).2 h

theorem exists_tableOf_bind {α β γ : Type} {what : String} {entries : Draft.Entries β}
    {build : Title → β → Except LoadError α} {rest : Table α → Except LoadError γ}
    (hlength : (entries.map (·.1)).length ≤ tableLimit)
    (hbuild : ∀ e ∈ entries, ∃ a, build (Draft.titleOf e) e.2.content = .ok a)
    (hrest : ∀ t, tableOf what entries build = .ok t → ∃ c, rest t = .ok c) :
    ∃ c, (tableOf what entries build >>= rest) = .ok c := by
  have htable : ∃ t, tableOf what entries build = .ok t := by
    obtain ⟨built, hbuilt⟩ := exists_forall₂_iff.2 hbuild
    rw [List.length_map] at hlength
    rw [tableOf, if_neg (Nat.not_lt.2 hlength)]
    exact exists_bind_of_ok (mapM_eq_ok_iff.2 hbuilt) ⟨_, rfl⟩
  obtain ⟨t, ht⟩ := htable
  exact exists_bind_of_ok ht (hrest t ht)

theorem names_of_tableOf {α β : Type} [Titled α] {what : String} {entries : Draft.Entries β}
    {build : Title → β → Except LoadError α} {t : Table α}
    (h : tableOf what entries build = .ok t)
    (hbuild : ∀ title content a, build title content = .ok a → Titled.title a = title) :
    t.names = entries.map (·.1) := by
  have hfilled : t.FilledFrom entries fun _ _ => True :=
    filledFrom_of_tableOf h fun title content a ha => ⟨hbuild title content a ha, trivial⟩
  exact hfilled.names_fit.1

/-- A table is assembled before those that refer to it, so its names are known to be the listed
ones when they are looked up. -/
theorem exists_ofDraft {d : Draft} (h : d.Coherent) : ∃ rs, ofDraft d = .ok rs := by
  unfold ofDraft
  refine exists_tableOf_bind (h.fits .government) (fun _ _ => ⟨_, rfl⟩) fun governments _ => ?_
  refine exists_tableOf_bind (h.fits .nationGroup) (fun _ _ => ⟨_, rfl⟩)
    fun nationGroups hnationGroups => ?_
  have hgroups : nationGroups.names = d.entryNames .nationGroup :=
    names_of_tableOf hnationGroups fun _ _ _ ha => by cases ha; rfl
  refine exists_tableOf_bind (h.fits .action) (fun _ _ => ⟨_, rfl⟩) fun actions _ => ?_
  refine exists_tableOf_bind (h.fits .good) (fun _ _ => ⟨_, rfl⟩) fun goods _ => ?_
  refine exists_tableOf_bind (h.fits .specialist) (fun _ _ => ⟨_, rfl⟩) fun specialists _ => ?_
  refine exists_tableOf_bind (h.fits .achievement) (fun _ _ => ⟨_, rfl⟩) fun achievements _ => ?_
  refine exists_tableOf_bind (h.fits .serverSetting) (fun _ _ => ⟨_, rfl⟩)
    fun serverSettings _ => ?_
  refine exists_tableOf_bind (h.fits .building) (fun _ _ => ⟨_, rfl⟩) fun buildings _ => ?_
  refine exists_tableOf_bind (h.fits .tech) (fun e he => ?_) fun techs _ => ?_
  · obtain ⟨flags, hflags⟩ := exists_flagsNamed (h.flags .tech _ (List.mem_map_of_mem he))
    exact exists_bind_of_ok hflags ⟨_, rfl⟩
  refine exists_tableOf_bind (h.fits .unitClass) (fun e he => ?_) fun unitClasses hunitClasses => ?_
  · obtain ⟨flags, hflags⟩ := exists_flagsNamed (h.flags .unitClass _ (List.mem_map_of_mem he))
    exact exists_bind_of_ok hflags ⟨_, rfl⟩
  have hclasses : unitClasses.names = d.entryNames .unitClass :=
    names_of_tableOf hunitClasses fun _ _ _ ha => by
      obtain ⟨flags, -, ha⟩ := exists_of_bind_eq_ok ha
      cases ha
      rfl
  refine exists_tableOf_bind (h.fits .unitType) (fun e he => ?_) fun unitTypes _ => ?_
  · have hlisted := h.classes _ (List.mem_map_of_mem he)
    rw [← hclasses, ← Table.exists_find?_iff] at hlisted
    obtain ⟨unitClass, hclass⟩ := hlisted
    obtain ⟨flags, hflags⟩ := exists_flagsNamed (h.flags .unitType _ (List.mem_map_of_mem he))
    exact exists_bind_of_ok (refNamed_eq_ok_iff.2 hclass) (exists_bind_of_ok hflags ⟨_, rfl⟩)
  refine exists_tableOf_bind (h.fits .terrain) (fun e he => ?_) fun terrains _ => ?_
  · obtain ⟨flags, hflags⟩ := exists_flagsNamed (h.flags .terrain _ (List.mem_map_of_mem he))
    have hlisted := h.natives _ (List.mem_map_of_mem he)
    rw [← hclasses] at hlisted
    obtain ⟨nativeTo, hnative⟩ := exists_refsNamed hlisted
    exact exists_bind_of_ok hflags (exists_bind_of_ok hnative ⟨_, rfl⟩)
  refine exists_tableOf_bind (h.fits .extra) (fun e he => ?_) fun extras _ => ?_
  · obtain ⟨flags, hflags⟩ := exists_flagsNamed (h.flags .extra _ (List.mem_map_of_mem he))
    obtain ⟨baseFlags, hbase⟩ := exists_flagsNamed (h.flags .base _ (List.mem_map_of_mem he))
    obtain ⟨roadFlags, hroad⟩ := exists_flagsNamed (h.flags .road _ (List.mem_map_of_mem he))
    exact exists_bind_of_ok hflags (exists_bind_of_ok hbase (exists_bind_of_ok hroad ⟨_, rfl⟩))
  refine exists_tableOf_bind (h.fits .nation) (fun e he => ?_) fun nations _ => ⟨_, rfl⟩
  have hlisted := h.groups _ (List.mem_map_of_mem he)
  rw [← hgroups] at hlisted
  obtain ⟨groups, hnamed⟩ := exists_refsNamed hlisted
  exact exists_bind_of_ok hnamed ⟨_, rfl⟩

/-! ## Referential integrity -/

structure Resolves (rs : Ruleset) (d : Draft) : Prop where
  names : ∀ kind, (rs.table kind).names = d.entryNames kind
  flagNames : rs.flags = declaredFlags d
  classes : List.Forall₂ rs.unitClasses.Answers d.classUses rs.classUses
  natives : List.Forall₂ (List.Forall₂ rs.unitClasses.Answers) d.nativeUses rs.nativeUses
  groups : List.Forall₂ (List.Forall₂ rs.nationGroups.Answers) d.groupUses rs.groupUses
  /-- A flag answers to its name if that is listed where numbers of 16 bits reach, and only then. -/
  flags : ∀ kind, List.Forall₂ (List.Forall₂ fun name f =>
      (rs.flags kind).Answers name f ↔ Listed ((rs.flags kind).names.take 65536) name)
    (d.flagUses kind) (rs.flagUses kind)
  shortFlags : ∀ kind, (rs.flags kind).size ≤ 65536 →
    List.Forall₂ (List.Forall₂ (rs.flags kind).Answers) (d.flagUses kind) (rs.flagUses kind)

theorem CompiledFrom.resolves {rs : Ruleset} {d : Draft} (h : rs.CompiledFrom d) :
    rs.Resolves d where
  names := h.names_eq
  flagNames := h.flags
  classes := h.finds_classes.imp fun _ _ => Table.answers_of_find? (h.size_le .unitClass)
  natives := h.finds_natives.imp fun _ _ => .imp fun _ _ =>
    Table.answers_of_find? (h.size_le .unitClass)
  groups := h.finds_groups.imp fun _ _ => .imp fun _ _ =>
    Table.answers_of_find? (h.size_le .nationGroup)
  flags kind := (h.finds_flags kind).imp fun _ _ => .imp fun _ _ => FlagList.answers_iff
  shortFlags kind hsize := (h.finds_flags kind).imp fun _ _ => .imp fun _ _ =>
    FlagList.name?_of_find? hsize

/-- Texts that can be read make a ruleset exactly if they are coherent, and it refers to what they
mention; flags do so as far as numbers of 16 bits reach into their lists. -/
theorem ofSources_resolves {s : Draft.Sources} {d : Draft} (h : Draft.ofSources? s = some d) :
    ((∃ rs, ofSources s = .ok rs) ↔ d.Coherent) ∧
      ∀ rs, ofSources s = .ok rs → rs.Resolves d := by
  have hload : ofSources s = ofDraft d := by rw [ofSources, h]
  rw [hload]
  refine ⟨⟨?_, exists_ofDraft⟩, ?_⟩
  · rintro ⟨rs, hrs⟩
    exact (compiledFrom_of_ofDraft hrs).coherent
  · intro rs hrs
    exact (compiledFrom_of_ofDraft hrs).resolves

end Ruleset

/-! ## A harbor -/

namespace Draft

def harborTexts : Sources where
  units := "unit_class_flags: [Zoc]\nunit_classes:\n  Ship:\n    flags: [ZOC]\n" ++
    "unit_types:\n  Cog:\n    class: ship\n    hp: 9\n    move_rate: 4\n"

def harbor : Draft where
  units := {
    unitClassFlags := ["Zoc"]
    unitClasses := [plain "Ship" ["ZOC"]]
    unitTypes := [plain "Cog" { unitClass := "ship", hitPoints := 9, moveRate := 4 }] }

theorem harbor_coherent : harbor.Coherent where
  fits kind := by cases kind <;> decide
  classes := by decide
  natives := by decide
  groups := by decide
  flags kind := by cases kind <;> decide

end Draft

theorem Ruleset.ofSources_resolves_harbor :
    Draft.ofSources? Draft.harborTexts = some Draft.harbor ∧
      ∃ rs, ofSources Draft.harborTexts = .ok rs ∧ rs.Resolves Draft.harbor := by
  have hread : Draft.ofSources? Draft.harborTexts = some Draft.harbor := by decide +kernel
  obtain ⟨hload, hresolves⟩ := ofSources_resolves hread
  obtain ⟨rs, hrs⟩ := hload.2 Draft.harbor_coherent
  exact ⟨hread, rs, hrs, hresolves rs hrs⟩

/-! ## A flag that is listed too late -/

def crowd (n : Nat) : List String := List.replicate n "a" ++ ["b"]

namespace FlagList

variable {kind : FlagKind}

theorem find?_crowd (n : Nat) : (⟨crowd n⟩ : FlagList kind).find? "b" = some (.ofNat n) := by
  have hothers : (List.replicate n "a").findIdx? (fun name => Text.sameWord name "b") = none := by
    rw [List.findIdx?_eq_none_iff]
    intro name hname
    rw [List.eq_of_mem_replicate hname]
    decide
  have hlast : ["b"].findIdx? (fun name => Text.sameWord name "b") = some 0 := by decide
  simp [find?, crowd, List.findIdx?_append, hothers, hlast]

theorem name?_crowd {n : Nat} (hn : 0 < n) : (⟨crowd n⟩ : FlagList kind).name? ⟨0⟩ = some "a" := by
  simp [name?, crowd, Flag.toNat, hn]

end FlagList

namespace Draft

def crowded : Draft where
  techs := { techFlags := crowd 65536, techs := [plain "Fire" ["b"]] }

theorem crowded_coherent : crowded.Coherent where
  fits kind := by cases kind <;> decide
  classes := by decide
  natives := by decide
  groups := by decide
  flags kind := by
    cases kind with
    | tech =>
        intro names hnames name hname
        obtain rfl : names = ["b"] := List.mem_singleton.1 hnames
        obtain rfl : name = "b" := List.mem_singleton.1 hname
        exact ⟨"b", List.mem_append_right _ (List.mem_singleton.2 rfl), by decide⟩
    | terrain | unitType | unitClass | extra | base | road => decide

end Draft

namespace Ruleset

/-- The flag behind 65536 others gets the number of the first of them, and its name. -/
theorem exists_misnamed_flag :
    Draft.crowded.Coherent ∧ ∃ rs, ofDraft Draft.crowded = .ok rs ∧
      Draft.crowded.flagUses .tech = [["b"]] ∧ rs.flagUses .tech = [[⟨0⟩]] ∧
      (rs.flags .tech).name? ⟨0⟩ = some "a" := by
  obtain ⟨rs, hrs⟩ := exists_ofDraft Draft.crowded_coherent
  have hcompiled := compiledFrom_of_ofDraft hrs
  have hflags : rs.flags .tech = ⟨crowd 65536⟩ := congrFun hcompiled.flags .tech
  refine ⟨Draft.crowded_coherent, rs, hrs, rfl, ?_, ?_⟩
  · have hfinds : List.Forall₂ (Finds (rs.flags .tech).find?) [["b"]] (rs.flagUses .tech) :=
      hcompiled.finds_flags .tech
    obtain ⟨flags, others, hentry, hothers, huses⟩ := List.forall₂_cons_left_iff.1 hfinds
    obtain ⟨f, more, hf, hmore, rfl⟩ := List.forall₂_cons_left_iff.1 hentry
    rw [List.forall₂_nil_left_iff] at hothers hmore
    rw [hflags, FlagList.find?_crowd] at hf
    rw [huses, hothers, hmore, ← Option.some.inj hf]
    rfl
  · rw [hflags]
    exact FlagList.name?_crowd (by decide)

end Ruleset

end Rulebook
