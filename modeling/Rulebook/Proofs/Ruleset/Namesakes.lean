import Rulebook.Proofs.Document.Table
import Rulebook.Proofs.Ruleset.Integrity

/-!
Which entries and flags are found by their own names.

A text gives each entry of a table a name of its own, but names are looked up
without regard to case, and `Fire` and `fire` are two names.  The later entry
then hides the earlier one.  A list of flags may even repeat a name, and there
the earlier flag hides the later one.  Nothing else is hidden, so a ruleset finds
everything by its name exactly if case is never all that two names differ in.
-/

namespace Rulebook

/-! ## Names that differ in more than case -/

theorem nodup_fold_iff {names : List String} :
    (names.map Text.fold).Nodup ↔ ∀ (i j : Nat) (a b : String), i < j → names[i]? = some a →
      names[j]? = some b → Text.sameWord a b = false := by
  rw [List.nodup_iff_pairwise_ne, List.pairwise_map, List.pairwise_iff_getElem]
  constructor
  · intro h i j a b hij ha hb
    obtain ⟨hi, rfl⟩ := List.getElem?_eq_some_iff.1 ha
    obtain ⟨hj, rfl⟩ := List.getElem?_eq_some_iff.1 hb
    rw [Bool.eq_false_iff, Ne, Text.sameWord_iff]
    exact h i j hi hj hij
  · intro h i j hi hj hij hsame
    have hdiffers := h i j _ _ hij (List.getElem?_eq_getElem hi) (List.getElem?_eq_getElem hj)
    rw [Text.sameWord_iff.2 hsame] at hdiffers
    contradiction

/-! ## Tables -/

namespace Table

variable {α : Type} {t : Table α} {r : Ref α}

theorem mem_refs_iff (hsize : t.size ≤ 65536) : r ∈ t.refs ↔ r.toNat < t.size := by
  rw [refs, List.mem_map]
  constructor
  · rintro ⟨i, hi, rfl⟩
    rw [List.mem_range] at hi
    rwa [Ref.toNat_ofNat (hi.trans_le hsize)]
  · intro h
    exact ⟨r.toNat, List.mem_range.2 h, Ref.ofNat_toNat r⟩

variable [Titled α] {name : String}

def FindsByName (t : Table α) (r : Ref α) : Prop :=
  (t.name? r).bind t.find? = some r

def IsLastOfName (t : Table α) (r : Ref α) : Prop :=
  ∃ name, t.name? r = some name ∧ ∀ (i : Nat) (later : String), r.toNat < i →
    t.names[i]? = some later → Text.sameWord later name = false

theorem place_le_of_find? (hsize : t.size ≤ 65536) (h : t.find? name = some r) {i : Nat}
    {other : String} (hi : t.names[i]? = some other) (hsame : Text.sameWord other name = true) :
    i ≤ r.toNat := by
  obtain ⟨⟨e, last⟩, hlast, rfl⟩ := Option.map_eq_some_iff.1 h
  obtain ⟨before, hnamed⟩ := List.getLast?_eq_some_iff.1 hlast
  have hplaces : t.entries.zipIdx.Pairwise fun a b => a.2 < b.2 := by
    rw [← List.pairwise_map (f := Prod.snd), List.zipIdx_map_snd]
    exact List.pairwise_lt_range' 1
  -- the entries of the name stand in order, and the last of them is the one that is found
  have hordered := hplaces.filter fun entry => Text.sameWord (Titled.title entry.1).name name
  rw [hnamed, List.pairwise_append] at hordered
  have hlt : last < t.size :=
    List.snd_lt_of_mem_zipIdx (List.mem_of_mem_filter (List.mem_of_getLast? hlast))
  rw [Ref.toNat_ofNat (hlt.trans_le hsize)]
  rw [names, List.getElem?_map, Option.map_eq_some_iff] at hi
  obtain ⟨e', he', rfl⟩ := hi
  have hmem : (e', i) ∈ before ++ [(e, last)] := by
    rw [← hnamed]
    exact List.mem_filter.2 ⟨List.mk_mem_zipIdx_iff_getElem?.2 he', hsame⟩
  rcases List.mem_append.1 hmem with hbefore | hself
  · exact (hordered.2.2 _ hbefore _ (List.mem_singleton.2 rfl)).le
  · exact (congrArg Prod.snd (List.mem_singleton.1 hself)).le

theorem find?_eq_some_iff (hsize : t.size ≤ 65536) :
    t.find? name = some r ↔ ∃ found, t.name? r = some found ∧ Text.sameWord found name = true ∧
      ∀ (i : Nat) (later : String), r.toNat < i → t.names[i]? = some later →
        Text.sameWord later name = false := by
  constructor
  · intro h
    obtain ⟨found, hfound, hsame⟩ := name?_of_find? hsize h
    refine ⟨found, hfound, hsame, fun i later hlater hi => Bool.eq_false_iff.2 fun hname => ?_⟩
    exact Nat.not_le_of_lt hlater (place_le_of_find? hsize h hi hname)
  · rintro ⟨found, hfound, hsame, hlast⟩
    rw [name?_eq_getElem?] at hfound
    obtain ⟨r', hr'⟩ : ∃ r', t.find? name = some r' := by
      rw [← find?_congr hsame]
      exact exists_find? (List.mem_of_getElem? hfound)
    obtain ⟨other, hother, hsame'⟩ := name?_of_find? hsize hr'
    rcases (place_le_of_find? hsize hr' hfound hsame).eq_or_lt with heq | hlt
    · rw [hr', Ref.toNat_inj.1 heq]
    · rw [hlast _ other hlt ((name?_eq_getElem? t r').symm.trans hother)] at hsame'
      contradiction

theorem findsByName_iff (hsize : t.size ≤ 65536) : t.FindsByName r ↔ t.IsLastOfName r := by
  rw [FindsByName, IsLastOfName, Option.bind_eq_some_iff]
  refine exists_congr fun name => and_congr_right fun hname => ?_
  rw [find?_eq_some_iff hsize]
  constructor
  · rintro ⟨found, hfound, -, hlast⟩
    obtain rfl : name = found := Option.some.inj (hname.symm.trans hfound)
    exact hlast
  · intro hlast
    exact ⟨name, hname, Text.sameWord_refl name, hlast⟩

theorem forall_findsByName_iff (hsize : t.size ≤ 65536) :
    (∀ r ∈ t.refs, t.FindsByName r) ↔ (t.names.map Text.fold).Nodup := by
  simp only [mem_refs_iff hsize, findsByName_iff hsize, nodup_fold_iff]
  constructor
  · intro h i j a b hij ha hb
    have hi : i < t.size := (List.getElem?_eq_some_iff.1 ha).1.trans_eq length_names
    have hplace : (Ref.ofNat i : Ref α).toNat = i := Ref.toNat_ofNat (hi.trans_le hsize)
    obtain ⟨name, hname, hlast⟩ := h (.ofNat i) (hplace.trans_lt hi)
    rw [name?_eq_getElem?, hplace, ha] at hname
    obtain rfl : a = name := Option.some.inj hname
    rw [Text.sameWord_comm]
    exact hlast j b (hplace.trans_lt hij) hb
  · intro h r hr
    have hlt : r.toNat < t.names.length := hr.trans_eq length_names.symm
    refine ⟨_, (name?_eq_getElem? t r).trans (List.getElem?_eq_getElem hlt), ?_⟩
    intro i later hi hlater
    rw [Text.sameWord_comm]
    exact h r.toNat i _ later hi (List.getElem?_eq_getElem hlt) hlater

end Table

/-! ## Lists of flags -/

namespace FlagList

variable {kind : FlagKind} {l : FlagList kind} {f : Flag kind}

def FindsByName (l : FlagList kind) (f : Flag kind) : Prop :=
  (l.name? f).bind l.find? = some f

def IsFirstOfName (l : FlagList kind) (f : Flag kind) : Prop :=
  ∃ name, l.name? f = some name ∧ ∀ (i : Nat) (earlier : String), i < f.toNat →
    l.names[i]? = some earlier → Text.sameWord earlier name = false

/-- The list may be longer than numbers of 16 bits reach: the number of a flag is never above the
place where its name is first listed. -/
theorem findsByName_iff : l.FindsByName f ↔ l.IsFirstOfName f := by
  rw [FindsByName, IsFirstOfName, Option.bind_eq_some_iff]
  refine exists_congr fun name => and_congr_right fun hname => ?_
  obtain ⟨hf, hplace⟩ := List.getElem?_eq_some_iff.1 hname
  constructor
  · intro h i earlier hi hearlier
    obtain ⟨first, hindex, rfl⟩ := Option.map_eq_some_iff.1 h
    obtain ⟨hlt, -, hfirst⟩ := List.findIdx?_eq_some_iff_getElem.1 hindex
    have hle : (Flag.ofNat first : Flag kind).toNat ≤ first := by
      simpa [Flag.toNat, Flag.ofNat] using Nat.mod_le first 65536
    obtain ⟨hi', rfl⟩ := List.getElem?_eq_some_iff.1 hearlier
    exact Bool.eq_false_iff.2 (hfirst i (hi.trans_le hle))
  · intro hfirst
    have hindex : (l.names.findIdx? fun n => Text.sameWord n name) = some f.toNat := by
      refine List.findIdx?_eq_some_iff_getElem.2 ⟨hf, ?_, fun i hi => ?_⟩
      · rw [hplace]
        exact Text.sameWord_refl name
      · rw [hfirst i _ hi (List.getElem?_eq_getElem (hi.trans hf))]
        decide
    rw [find?, hindex, Option.map_some, Flag.ofNat_toNat]

theorem forall_findsByName_iff :
    (∀ f : Flag kind, f.toNat < l.size → l.FindsByName f) ↔
      ((l.names.take 65536).map Text.fold).Nodup := by
  simp only [findsByName_iff, nodup_fold_iff]
  constructor
  · intro h i j a b hij ha hb
    rw [List.getElem?_take, Option.ite_none_right_eq_some] at ha hb
    have hj : j < l.size := (List.getElem?_eq_some_iff.1 hb.2).1
    have hplace : (Flag.ofNat j : Flag kind).toNat = j := Flag.toNat_ofNat hb.1
    obtain ⟨name, hname, hfirst⟩ := h (.ofNat j) (hplace.trans_lt hj)
    rw [name?, hplace, hb.2] at hname
    obtain rfl : b = name := Option.some.inj hname
    exact hfirst i a (hij.trans_eq hplace.symm) ha.2
  · intro h f hf
    have hreach : f.toNat < 65536 := UInt16.toNat_lt f.number
    have hname : (l.names.take 65536)[f.toNat]? = some l.names[f.toNat] := by
      rw [List.getElem?_take_of_lt hreach, List.getElem?_eq_getElem hf]
    refine ⟨_, List.getElem?_eq_getElem hf, fun i earlier hi hearlier => ?_⟩
    refine h i f.toNat earlier _ hi ?_ hname
    rw [List.getElem?_take_of_lt (hi.trans hreach), hearlier]

end FlagList

/-! ## Rulesets -/

namespace Ruleset

structure FindsByName (rs : Ruleset) : Prop where
  entries : ∀ kind, ∀ r ∈ (rs.table kind).refs, (rs.table kind).FindsByName r
  flags : ∀ kind, ∀ f : Flag kind, f.toNat < (rs.flags kind).size → (rs.flags kind).FindsByName f

structure NamesDiffer (rs : Ruleset) : Prop where
  entries : ∀ kind, ((rs.table kind).names.map Text.fold).Nodup
  flags : ∀ kind, (((rs.flags kind).names.take 65536).map Text.fold).Nodup

theorem findsByName_iff {rs : Ruleset} (hsize : ∀ kind, (rs.table kind).size ≤ 65536) :
    rs.FindsByName ↔ rs.NamesDiffer := by
  constructor
  · intro h
    exact ⟨fun kind => (Table.forall_findsByName_iff (hsize kind)).1 (h.entries kind),
      fun kind => FlagList.forall_findsByName_iff.1 (h.flags kind)⟩
  · intro h
    exact ⟨fun kind => (Table.forall_findsByName_iff (hsize kind)).2 (h.entries kind),
      fun kind => FlagList.forall_findsByName_iff.2 (h.flags kind)⟩

end Ruleset

/-! ## Names in the texts -/

namespace Reader

def isAbsent : Node → Bool
  | .null => true
  | .plain s => s.isEmpty || Literal.null? s
  | _ => false

theorem optional_eq_some_iff {α : Type} {item : Reader α} {node : Node} {a : α} :
    Reader.optional item node = some (some a) ↔ isAbsent node = false ∧ item node = some a := by
  have hoptional : Reader.optional item node =
      if isAbsent node then some none else some <$> item node := by
    cases node <;> rfl
  rw [hoptional]
  split <;> simp [*]

end Reader

namespace Draft

theorem pairwise_of_entries {α : Type} {fields : List String} {content : Fields → Option α}
    {f : Fields} {field : String} {es : Entries α}
    (h : f.default field [] (entries fields content) = some es) :
    (es.map (·.1)).Pairwise (· < ·) := by
  unfold Fields.default at h
  split at h
  · cases h
    exact List.Pairwise.nil
  · exact Reader.pairwise_named h

theorem of_section? {α : Type} {P : α → Prop} {empty : α} {read : Reader α} {text : String} {a : α}
    (hempty : P empty) (hread : ∀ node b, read node = some b → P b)
    (h : section? empty read text = some a) : P a := by
  unfold section? at h
  split at h
  · cases h
    exact hempty
  · obtain ⟨node, -, h⟩ := Option.bind_eq_some_iff.1 h
    obtain ⟨content, hcontent, h⟩ := Option.bind_eq_some_iff.1 h
    cases h
    cases content with
    | none => exact hempty
    | some b => exact hread node b (Reader.optional_eq_some_iff.1 hcontent).2

theorem terrainSection_ascends {node : Node} {t : TerrainSection}
    (h : terrainSection node = some t) :
    (t.terrains.map (·.1)).Pairwise (· < ·) ∧ (t.extras.map (·.1)).Pairwise (· < ·) := by
  simp only [terrainSection, Option.bind_eq_bind, Option.bind_eq_some_iff, Option.pure_def,
    Option.some.injEq] at h
  obtain ⟨f, -, _, -, _, -, _, -, _, -, terrains, hterrains, extras, hextras, rfl⟩ := h
  exact ⟨pairwise_of_entries hterrains, pairwise_of_entries hextras⟩

theorem unitSection_ascends {node : Node} {u : UnitSection} (h : unitSection node = some u) :
    (u.unitClasses.map (·.1)).Pairwise (· < ·) ∧ (u.unitTypes.map (·.1)).Pairwise (· < ·) := by
  simp only [unitSection, Option.bind_eq_bind, Option.bind_eq_some_iff, Option.pure_def,
    Option.some.injEq] at h
  obtain ⟨f, -, _, -, _, -, classes, hclasses, types, htypes, rfl⟩ := h
  exact ⟨pairwise_of_entries hclasses, pairwise_of_entries htypes⟩

theorem techSection_ascends {node : Node} {t : TechSection} (h : techSection node = some t) :
    (t.techs.map (·.1)).Pairwise (· < ·) := by
  simp only [techSection, Option.bind_eq_bind, Option.bind_eq_some_iff, Option.pure_def,
    Option.some.injEq] at h
  obtain ⟨f, -, _, -, techs, htechs, rfl⟩ := h
  exact pairwise_of_entries htechs

theorem citySection_ascends {node : Node} {c : CitySection} (h : citySection node = some c) :
    (c.buildings.map (·.1)).Pairwise (· < ·) ∧ (c.goods.map (·.1)).Pairwise (· < ·) ∧
      (c.specialists.map (·.1)).Pairwise (· < ·) := by
  simp only [citySection, Option.bind_eq_bind, Option.bind_eq_some_iff, Option.pure_def,
    Option.some.injEq] at h
  obtain ⟨f, -, buildings, hbuildings, goods, hgoods, specialists, hspecialists, rfl⟩ := h
  exact ⟨pairwise_of_entries hbuildings, pairwise_of_entries hgoods,
    pairwise_of_entries hspecialists⟩

theorem gameSection_ascends {node : Node} {g : GameSection} (h : gameSection node = some g) :
    (g.governments.map (·.1)).Pairwise (· < ·) ∧ (g.achievements.map (·.1)).Pairwise (· < ·) ∧
      (g.nationGroups.map (·.1)).Pairwise (· < ·) ∧ (g.nations.map (·.1)).Pairwise (· < ·) ∧
        (g.actions.map (·.1)).Pairwise (· < ·) ∧
          (g.serverSettings.map (·.1)).Pairwise (· < ·) := by
  simp only [gameSection, Option.bind_eq_bind, Option.bind_eq_some_iff, Option.pure_def,
    Option.some.injEq] at h
  obtain ⟨f, -, _, -, governments, hgovernments, achievements, hachievements, groups, hgroups,
    nations, hnations, actions, hactions, settings, hsettings, rfl⟩ := h
  exact ⟨pairwise_of_entries hgovernments, pairwise_of_entries hachievements,
    pairwise_of_entries hgroups, pairwise_of_entries hnations, pairwise_of_entries hactions,
    pairwise_of_entries hsettings⟩

theorem ascends_of_ofSources? {s : Sources} {d : Draft} (h : ofSources? s = some d)
    (kind : EntityKind) : (d.entryNames kind).Pairwise (· < ·) := by
  simp only [ofSources?, Option.bind_eq_bind, Option.bind_eq_some_iff, Option.pure_def,
    Option.some.injEq] at h
  obtain ⟨terrain, hterrain, units, hunits, techs, htechs, cities, hcities, game, hgame, rfl⟩ := h
  obtain ⟨hterrains, hextras⟩ :=
    of_section? ⟨.nil, .nil⟩ (fun _ _ => terrainSection_ascends) hterrain
  obtain ⟨hclasses, htypes⟩ := of_section? ⟨.nil, .nil⟩ (fun _ _ => unitSection_ascends) hunits
  have htechs := of_section? .nil (fun _ _ => techSection_ascends) htechs
  obtain ⟨hbuildings, hgoods, hspecialists⟩ :=
    of_section? ⟨.nil, .nil, .nil⟩ (fun _ _ => citySection_ascends) hcities
  obtain ⟨hgovernments, hachievements, hgroups, hnations, hactions, hsettings⟩ :=
    of_section? ⟨.nil, .nil, .nil, .nil, .nil, .nil⟩ (fun _ _ => gameSection_ascends) hgame
  cases kind with
  | tech => exact htechs
  | government => exact hgovernments
  | achievement => exact hachievements
  | building => exact hbuildings
  | extra => exact hextras
  | good => exact hgoods
  | terrain => exact hterrains
  | nation | nationality => exact hnations
  | nationGroup => exact hgroups
  | unitType => exact htypes
  | unitClass => exact hclasses
  | action => exact hactions
  | specialist => exact hspecialists
  | serverSetting => exact hsettings

end Draft

/-! ## What a loaded ruleset finds -/

namespace Ruleset

theorem exists_draft_of_ofSources {s : Draft.Sources} {rs : Ruleset} (h : ofSources s = .ok rs) :
    ∃ d, Draft.ofSources? s = some d ∧ ofDraft d = .ok rs := by
  unfold ofSources at h
  split at h
  · cases h
  · next d hread => exact ⟨d, hread, h⟩

/-- A loaded ruleset finds an entry by its name unless a later entry of the table has the same name
up to case, and a flag unless an earlier one of the list has.  Within a table case is then all that
the names differ in, since no name is there twice. -/
theorem ofSources_findsByName_iff {s : Draft.Sources} {rs : Ruleset} (h : ofSources s = .ok rs) :
    (∀ kind, (rs.table kind).names.Pairwise (· < ·)) ∧
      (∀ kind r, (rs.table kind).FindsByName r ↔ (rs.table kind).IsLastOfName r) ∧
      (∀ kind (f : Flag kind),
        (rs.flags kind).FindsByName f ↔ (rs.flags kind).IsFirstOfName f) ∧
      (rs.FindsByName ↔ rs.NamesDiffer) := by
  obtain ⟨d, hread, hload⟩ := exists_draft_of_ofSources h
  have hcompiled := compiledFrom_of_ofDraft hload
  have hsize : ∀ kind, (rs.table kind).size ≤ 65536 := fun kind =>
    (hcompiled.size_le kind).trans (by decide)
  refine ⟨fun kind => ?_, fun kind r => Table.findsByName_iff (hsize kind),
    fun kind f => FlagList.findsByName_iff, findsByName_iff hsize⟩
  rw [hcompiled.names_eq]
  exact Draft.ascends_of_ofSources? hread kind

theorem ofSources_findsByName_harbor :
    ∃ rs, ofSources Draft.harborTexts = .ok rs ∧ rs.FindsByName := by
  have hread : Draft.ofSources? Draft.harborTexts = some Draft.harbor := by decide +kernel
  obtain ⟨rs, hassembled⟩ := exists_ofDraft Draft.harbor_coherent
  have hload : ofSources Draft.harborTexts = .ok rs := by simp only [ofSources, hread, hassembled]
  have hcompiled := compiledFrom_of_ofDraft hassembled
  refine ⟨rs, hload, (ofSources_findsByName_iff hload).2.2.2.2 ⟨fun kind => ?_, fun kind => ?_⟩⟩
  · rw [hcompiled.names_eq]
    cases kind <;> decide
  · rw [hcompiled.flags]
    cases kind <;> decide

end Ruleset

/-! ## The base ruleset -/

theorem Draft.base_coherent : Draft.base.Coherent where
  fits kind := by cases kind <;> decide +kernel
  classes := by decide +kernel
  natives := by decide +kernel
  groups := by decide +kernel
  flags kind := by cases kind <;> decide +kernel

theorem Ruleset.base_findsByName : Ruleset.base.FindsByName := by
  obtain ⟨rs, hload⟩ := exists_ofDraft Draft.base_coherent
  have hbase : base = rs := by
    unfold base
    rw [hload]
  have hcompiled := compiledFrom_of_ofDraft hload
  rw [hbase, findsByName_iff fun kind => (hcompiled.size_le kind).trans (by decide)]
  refine ⟨fun kind => ?_, fun kind => ?_⟩
  · rw [hcompiled.names_eq]
    cases kind <;> decide +kernel
  · rw [hcompiled.flags]
    cases kind <;> decide +kernel

/-! ## At the hearth -/

namespace Draft

def techSectionWritten (n : Node) : Option TechSection := do
  let f ← n.fields? ["tech_flags", "techs"]
  return {
    techFlags := ← f.default "tech_flags" [] names
    techs := ← f.default "techs" [] (Reader.written Reader.text fun n => do
      let f ← n.fields? ["label", "flags"]
      return {
        label := ← f.optional "label" Reader.text
        content := ← f.default "flags" [] names }) }

theorem techSection_of_written {node : Node} {t : TechSection}
    (h : techSectionWritten node = some t) (hascends : (t.techs.map (·.1)).Pairwise (· < ·)) :
    techSection node = some t := by
  simp only [techSectionWritten, Option.bind_eq_bind, Option.bind_eq_some_iff, Option.pure_def,
    Option.some.injEq] at h
  obtain ⟨f, hf, flags, hflags, techs, htechs, rfl⟩ := h
  have hread : f.default "techs" [] (lists "flags") = some techs := by
    unfold Fields.default at htechs ⊢
    split at htechs
    · exact htechs
    · exact Reader.table_of_written Reader.textLe_iff htechs hascends
  simp [techSection, hf, hflags, hread]

def hearthTexts : Sources where
  techs := "tech_flags: [Hot, hot]\ntechs:\n  Fire: {}\n  fire: {}\n"

def hearth : Draft where
  techs := { techFlags := ["Hot", "hot"], techs := [plain "Fire" [], plain "fire" []] }

theorem ofSources?_hearthTexts : ofSources? hearthTexts = some hearth := by
  have hwritten : ((Yaml.parse? hearthTexts.techs).bind (Reader.optional techSectionWritten)) =
      some (some hearth.techs) := by decide +kernel
  obtain ⟨node, hparse, hnode⟩ := Option.bind_eq_some_iff.1 hwritten
  obtain ⟨hthere, hnode⟩ := Reader.optional_eq_some_iff.1 hnode
  have hsection : Reader.optional techSection node = some (some hearth.techs) :=
    Reader.optional_eq_some_iff.2 ⟨hthere, techSection_of_written hnode (by decide)⟩
  have hspoken : (Text.trim hearthTexts.techs).isEmpty = false := by decide +kernel
  have htechs : section? {} techSection hearthTexts.techs = some hearth.techs := by
    rw [section?, hspoken, hparse]
    simp [hsection]
  simp only [ofSources?, htechs]
  rfl

theorem hearth_coherent : hearth.Coherent where
  fits kind := by cases kind <;> decide
  classes := by decide
  natives := by decide
  groups := by decide
  flags kind := by cases kind <;> decide

end Draft

namespace Ruleset

/-- Two techs and two flags that differ in case alone: the second tech goes by the name of both, and
so does the first flag. -/
theorem hearth_hides_namesakes :
    ∃ rs, ofSources Draft.hearthTexts = .ok rs ∧
      rs.techs.name? ⟨0⟩ = some "Fire" ∧ rs.techs.find? "Fire" = some ⟨1⟩ ∧
      (rs.flags .tech).name? ⟨1⟩ = some "hot" ∧ (rs.flags .tech).find? "hot" = some ⟨0⟩ ∧
      ¬ rs.FindsByName := by
  obtain ⟨rs, hload⟩ := exists_ofDraft Draft.hearth_coherent
  have hcompiled := compiledFrom_of_ofDraft hload
  have hnames : rs.techs.names = ["Fire", "fire"] := hcompiled.names_eq .tech
  have hflags : rs.flags .tech = ⟨["Hot", "hot"]⟩ := congrFun hcompiled.flags .tech
  have hsize : rs.techs.size = 2 := by rw [← Table.length_names, hnames]; rfl
  have hname : rs.techs.name? ⟨0⟩ = some "Fire" := by
    rw [Table.name?_eq_getElem?, hnames]
    rfl
  have hfind : rs.techs.find? "Fire" = some ⟨1⟩ := by
    refine (Table.find?_eq_some_iff (by omega)).2 ⟨"fire", ?_, by decide, ?_⟩
    · rw [Table.name?_eq_getElem?, hnames]
      rfl
    · intro i later hi hlater
      have hlt : i < rs.techs.names.length := (List.getElem?_eq_some_iff.1 hlater).1
      rw [Table.length_names, hsize] at hlt
      exact absurd (Nat.lt_of_lt_of_le hi (Nat.le_of_lt_succ hlt)) (by decide)
  refine ⟨rs, by simp only [ofSources, Draft.ofSources?_hearthTexts, hload], hname, hfind, ?_, ?_,
    ?_⟩
  · rw [hflags]
    rfl
  · rw [hflags]
    decide
  · intro h
    have hlisted : ⟨0⟩ ∈ rs.techs.refs :=
      (Table.mem_refs_iff (by omega)).2 (by rw [hsize]; decide)
    have hself : rs.techs.FindsByName ⟨0⟩ := h.entries .tech ⟨0⟩ hlisted
    rw [Table.FindsByName, hname, Option.bind_some, hfind] at hself
    exact absurd hself (by decide)

end Ruleset

end Rulebook
