import Mathlib.Data.List.Forall2
import Rulebook.Fact.Kind
import Rulebook.Proofs.Review.Kept
import Rulebook.Proofs.Written.Name
import Rulebook.Ruleset.Assembly

/-!
What assembly makes of a draft.

`CompiledFrom` says it all, table by table: each holds its entries in their order
and under their titles, and where an entry mentions names, what these find.  What
is known of assembled rulesets follows from it without another look at how they
are assembled.
-/

namespace Rulebook

section

variable {α β ε : Type}

theorem exists_of_bind_eq_ok {first : Except ε α} {rest : α → Except ε β} {b : β}
    (h : first >>= rest = .ok b) : ∃ a, first = .ok a ∧ rest a = .ok b := by
  cases first with
  | error flaw => contradiction
  | ok a => exact ⟨a, rfl, h⟩

theorem mapM_eq_ok_iff {f : α → Except ε β} {as : List α} {bs : List β} :
    as.mapM f = .ok bs ↔ List.Forall₂ (fun a b => f a = .ok b) as bs := by
  induction as generalizing bs with
  | nil => cases bs <;> simp [pure, Except.pure]
  | cons a rest ih =>
      constructor
      · intro h
        obtain ⟨b, others, hb, hothers, rfl⟩ := mapM_cons_eq_ok h
        exact .cons hb (ih.1 hothers)
      · rintro (_ | ⟨hb, hothers⟩)
        rw [List.mapM_cons, hb, ih.2 hothers]
        rfl

end

def Finds {κ : Type} (find? : String → Option κ) : List String → List κ → Prop :=
  List.Forall₂ fun name found => find? name = some found

namespace Ruleset

theorem flagsNamed_eq_ok_iff {kind : FlagKind} {l : FlagList kind} {names : List String}
    {flags : List (Flag kind)} : flagsNamed l names = .ok flags ↔ Finds l.find? names flags := by
  rw [flagsNamed, mapM_eq_ok_iff]
  refine iff_of_eq (congrArg (List.Forall₂ · names flags) ?_)
  funext name flag
  cases l.find? name <;> simp

theorem refNamed_eq_ok_iff {α : Type} [Titled α] {t : Table α} {name : String} {r : Ref α} :
    refNamed t name = .ok r ↔ t.find? name = some r := by
  unfold refNamed
  cases t.find? name <;> simp

theorem refsNamed_eq_ok_iff {α : Type} [Titled α] {t : Table α} {names : List String}
    {refs : List (Ref α)} : refsNamed t names = .ok refs ↔ Finds t.find? names refs := by
  simp only [refsNamed, mapM_eq_ok_iff, refNamed_eq_ok_iff, Finds]

end Ruleset

/-! ## Tables from their entries -/

namespace Draft

def titleOf {β : Type} (e : String × Entry β) : Title where
  name := e.1
  label := e.2.label.getD e.1

end Draft

/-- The table holds what was made of each of the drafted entries, under the title of the entry. -/
structure Table.FilledFrom {α β : Type} [Titled α] (t : Table α) (entries : Draft.Entries β)
    (made : β → α → Prop) : Prop where
  length_le : entries.length ≤ Ruleset.tableLimit
  filled : List.Forall₂ (fun e a => Titled.title a = Draft.titleOf e ∧ made e.2.content a)
    entries t.entries

namespace Table.FilledFrom

variable {α β : Type} [Titled α] {t : Table α} {entries : Draft.Entries β} {made : β → α → Prop}

theorem names_fit (h : t.FilledFrom entries made) :
    t.names = entries.map (·.1) ∧ t.size ≤ Ruleset.tableLimit := by
  refine ⟨?_, h.filled.length_eq.symm.trans_le h.length_le⟩
  rw [names, ← List.forall₂_eq_eq_eq, List.forall₂_map_left_iff, List.forall₂_map_right_iff]
  exact h.filled.flip.imp fun a e hfilled => congrArg Title.name hfilled.1

theorem forall₂_map {γ δ : Type} {R : γ → δ → Prop} {said : β → γ} {stored : α → δ}
    (h : t.FilledFrom entries made)
    (hmade : ∀ content a, made content a → R (said content) (stored a)) :
    List.Forall₂ R (entries.map fun e => said e.2.content) (t.entries.map stored) := by
  rw [List.forall₂_map_left_iff, List.forall₂_map_right_iff]
  exact h.filled.imp fun e a ⟨_, hcontent⟩ => hmade _ _ hcontent

end Table.FilledFrom

namespace Ruleset

theorem filledFrom_of_tableOf {α β : Type} [Titled α] {what : String} {entries : Draft.Entries β}
    {build : Title → β → Except LoadError α} {made : β → α → Prop} {t : Table α}
    (h : tableOf what entries build = .ok t)
    (hbuild : ∀ title content a, build title content = .ok a →
      Titled.title a = title ∧ made content a) : t.FilledFrom entries made := by
  unfold tableOf at h
  split at h
  · contradiction
  · next hlimit =>
      obtain ⟨built, hbuilt, hread⟩ := exists_of_bind_eq_ok h
      cases hread
      refine ⟨Nat.le_of_not_lt hlimit, (mapM_eq_ok_iff.1 hbuilt).imp ?_⟩
      exact fun e a ha => hbuild (Draft.titleOf e) e.2.content a ha

theorem filledFrom_of_plain {α β : Type} [Titled α] {what : String} {entries : Draft.Entries β}
    {make : Title → β → α} {made : β → α → Prop} {t : Table α}
    (h : tableOf what entries (fun title content => .ok (make title content)) = .ok t)
    (hmake : ∀ title content, Titled.title (make title content) = title ∧
      made content (make title content)) : t.FilledFrom entries made :=
  filledFrom_of_tableOf h fun title content a ha => by
    cases ha
    exact hmake title content

theorem filledFrom_of_flagged {α : Type} [Titled α] {kind : FlagKind} {l : FlagList kind}
    {what : String} {entries : Draft.Entries (List String)}
    {make : Title → List (Flag kind) → α} {stored : α → List (Flag kind)} {t : Table α}
    (h : tableOf what entries (fun title names => do
      return make title (← flagsNamed l names)) = .ok t)
    (hmake : ∀ title flags, Titled.title (make title flags) = title ∧
      stored (make title flags) = flags) :
    t.FilledFrom entries fun names a => Finds l.find? names (stored a) :=
  filledFrom_of_tableOf h fun title names a ha => by
    obtain ⟨flags, hflags, ha⟩ := exists_of_bind_eq_ok ha
    cases ha
    obtain ⟨htitle, hstored⟩ := hmake title flags
    exact ⟨htitle, hstored.symm ▸ flagsNamed_eq_ok_iff.1 hflags⟩

end Ruleset

/-! ## All tables -/

def Draft.entryNames (d : Draft) : EntityKind → List String
  | .tech => d.techs.techs.map (·.1)
  | .government => d.game.governments.map (·.1)
  | .achievement => d.game.achievements.map (·.1)
  | .building => d.cities.buildings.map (·.1)
  | .extra => d.terrain.extras.map (·.1)
  | .good => d.cities.goods.map (·.1)
  | .terrain => d.terrain.terrains.map (·.1)
  | .nation | .nationality => d.game.nations.map (·.1)
  | .nationGroup => d.game.nationGroups.map (·.1)
  | .unitType => d.units.unitTypes.map (·.1)
  | .unitClass => d.units.unitClasses.map (·.1)
  | .action => d.game.actions.map (·.1)
  | .specialist => d.cities.specialists.map (·.1)
  | .serverSetting => d.game.serverSettings.map (·.1)

namespace Ruleset

/-- Every table is filled from its entries, with what the names in them find. -/
structure CompiledFrom (rs : Ruleset) (d : Draft) : Prop where
  name : rs.name = d.game.name.getD "unnamed"
  flags : rs.flags = declaredFlags d
  governments : rs.governments.FilledFrom d.game.governments fun _ _ => True
  nationGroups : rs.nationGroups.FilledFrom d.game.nationGroups fun _ _ => True
  actions : rs.actions.FilledFrom d.game.actions fun _ _ => True
  goods : rs.goods.FilledFrom d.cities.goods fun _ _ => True
  specialists : rs.specialists.FilledFrom d.cities.specialists fun _ _ => True
  achievements : rs.achievements.FilledFrom d.game.achievements fun unique a => a.unique = unique
  serverSettings : rs.serverSettings.FilledFrom d.game.serverSettings fun on s => s.default = on
  buildings : rs.buildings.FilledFrom d.cities.buildings fun genus b => b.genus = genus
  techs : rs.techs.FilledFrom d.techs.techs fun names t =>
    Finds (rs.flags .tech).find? names t.flags
  unitClasses : rs.unitClasses.FilledFrom d.units.unitClasses fun names c =>
    Finds (rs.flags .unitClass).find? names c.flags
  unitTypes : rs.unitTypes.FilledFrom d.units.unitTypes fun said u =>
    rs.unitClasses.find? said.unitClass = some u.unitClass ∧
      Finds (rs.flags .unitType).find? said.flags u.flags ∧
        u.veteranLevels = max said.veteranLevels 1 ∧ u.hitPoints = max said.hitPoints 1 ∧
          u.moveRate = max said.moveRate 0
  terrains : rs.terrains.FilledFrom d.terrain.terrains fun said t =>
    Finds (rs.flags .terrain).find? said.flags t.flags ∧
      Finds rs.unitClasses.find? said.nativeTo t.nativeTo ∧
        t.terrainClass = said.terrainClass ∧ t.alterations = said.alterations
  extras : rs.extras.FilledFrom d.terrain.extras fun said e =>
    Finds (rs.flags .extra).find? said.flags e.flags ∧
      Finds (rs.flags .base).find? said.baseFlags e.baseFlags ∧
        Finds (rs.flags .road).find? said.roadFlags e.roadFlags
  nations : rs.nations.FilledFrom d.game.nations fun names n =>
    Finds rs.nationGroups.find? names n.groups

theorem compiledFrom_of_ofDraft {d : Draft} {rs : Ruleset} (h : ofDraft d = .ok rs) :
    rs.CompiledFrom d := by
  unfold ofDraft at h
  obtain ⟨governments, hgovernments, h⟩ := exists_of_bind_eq_ok h
  obtain ⟨nationGroups, hnationGroups, h⟩ := exists_of_bind_eq_ok h
  obtain ⟨actions, hactions, h⟩ := exists_of_bind_eq_ok h
  obtain ⟨goods, hgoods, h⟩ := exists_of_bind_eq_ok h
  obtain ⟨specialists, hspecialists, h⟩ := exists_of_bind_eq_ok h
  obtain ⟨achievements, hachievements, h⟩ := exists_of_bind_eq_ok h
  obtain ⟨serverSettings, hserverSettings, h⟩ := exists_of_bind_eq_ok h
  obtain ⟨buildings, hbuildings, h⟩ := exists_of_bind_eq_ok h
  obtain ⟨techs, htechs, h⟩ := exists_of_bind_eq_ok h
  obtain ⟨unitClasses, hunitClasses, h⟩ := exists_of_bind_eq_ok h
  obtain ⟨unitTypes, hunitTypes, h⟩ := exists_of_bind_eq_ok h
  obtain ⟨terrains, hterrains, h⟩ := exists_of_bind_eq_ok h
  obtain ⟨extras, hextras, h⟩ := exists_of_bind_eq_ok h
  obtain ⟨nations, hnations, h⟩ := exists_of_bind_eq_ok h
  cases h
  exact {
    name := rfl
    flags := rfl
    governments := filledFrom_of_plain hgovernments fun _ _ => ⟨rfl, trivial⟩
    nationGroups := filledFrom_of_plain hnationGroups fun _ _ => ⟨rfl, trivial⟩
    actions := filledFrom_of_plain hactions fun _ _ => ⟨rfl, trivial⟩
    goods := filledFrom_of_plain hgoods fun _ _ => ⟨rfl, trivial⟩
    specialists := filledFrom_of_plain hspecialists fun _ _ => ⟨rfl, trivial⟩
    achievements := filledFrom_of_plain hachievements fun _ _ => ⟨rfl, rfl⟩
    serverSettings := filledFrom_of_plain hserverSettings fun _ _ => ⟨rfl, rfl⟩
    buildings := filledFrom_of_plain hbuildings fun _ _ => ⟨rfl, rfl⟩
    techs := filledFrom_of_flagged htechs fun _ _ => ⟨rfl, rfl⟩
    unitClasses := filledFrom_of_flagged hunitClasses fun _ _ => ⟨rfl, rfl⟩
    unitTypes := filledFrom_of_tableOf hunitTypes fun _ _ _ h => by
      obtain ⟨unitClass, hclass, h⟩ := exists_of_bind_eq_ok h
      obtain ⟨flags, hflags, h⟩ := exists_of_bind_eq_ok h
      cases h
      exact ⟨rfl, refNamed_eq_ok_iff.1 hclass, flagsNamed_eq_ok_iff.1 hflags, rfl, rfl, rfl⟩
    terrains := filledFrom_of_tableOf hterrains fun _ _ _ h => by
      obtain ⟨flags, hflags, h⟩ := exists_of_bind_eq_ok h
      obtain ⟨nativeTo, hnative, h⟩ := exists_of_bind_eq_ok h
      cases h
      exact ⟨rfl, flagsNamed_eq_ok_iff.1 hflags, refsNamed_eq_ok_iff.1 hnative, rfl, rfl⟩
    extras := filledFrom_of_tableOf hextras fun _ _ _ h => by
      obtain ⟨flags, hflags, h⟩ := exists_of_bind_eq_ok h
      obtain ⟨baseFlags, hbase, h⟩ := exists_of_bind_eq_ok h
      obtain ⟨roadFlags, hroad, h⟩ := exists_of_bind_eq_ok h
      cases h
      exact ⟨rfl, flagsNamed_eq_ok_iff.1 hflags, flagsNamed_eq_ok_iff.1 hbase,
        flagsNamed_eq_ok_iff.1 hroad⟩
    nations := filledFrom_of_tableOf hnations fun _ _ _ h => by
      obtain ⟨groups, hgroups, h⟩ := exists_of_bind_eq_ok h
      cases h
      exact ⟨rfl, refsNamed_eq_ok_iff.1 hgroups⟩ }

namespace CompiledFrom

variable {rs : Ruleset} {d : Draft}

theorem names_fit (h : rs.CompiledFrom d) (kind : EntityKind) :
    (rs.table kind).names = d.entryNames kind ∧ (rs.table kind).size ≤ tableLimit := by
  cases kind with
  | tech => exact h.techs.names_fit
  | government => exact h.governments.names_fit
  | achievement => exact h.achievements.names_fit
  | building => exact h.buildings.names_fit
  | extra => exact h.extras.names_fit
  | good => exact h.goods.names_fit
  | terrain => exact h.terrains.names_fit
  | nation | nationality => exact h.nations.names_fit
  | nationGroup => exact h.nationGroups.names_fit
  | unitType => exact h.unitTypes.names_fit
  | unitClass => exact h.unitClasses.names_fit
  | action => exact h.actions.names_fit
  | specialist => exact h.specialists.names_fit
  | serverSetting => exact h.serverSettings.names_fit

theorem names_eq (h : rs.CompiledFrom d) (kind : EntityKind) :
    (rs.table kind).names = d.entryNames kind :=
  (h.names_fit kind).1

theorem size_le (h : rs.CompiledFrom d) (kind : EntityKind) :
    (rs.table kind).size ≤ tableLimit :=
  (h.names_fit kind).2

end CompiledFrom

end Ruleset

end Rulebook
