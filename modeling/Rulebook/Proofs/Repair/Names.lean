import Mathlib.Data.List.Nodup
import Mathlib.Data.List.Pairwise
import Mathlib.Data.List.Perm.Basic
import Rulebook.Proofs.Repair.FanOut
import Rulebook.Proofs.Repair.Report
import Rulebook.Proofs.Text.Numbered

/-!
The names of repaired enablers.

An enabler that is split goes on under its name, and its clones are numbered from
one.  When it is split again the numbers begin again, and nothing looks whether a
name is taken.  So names can meet in two ways: something is cloned twice under
its name, or a clone is called what another enabler was called from the start.

There is no third way.  With a clone of a clone there is always the clone, so
where what is made of two enablers meets, one of the two is already named as
something that is made of the other.
-/

namespace Rulebook

/-! ## One step -/

namespace Enabler

def names (enablers : List Enabler) : List String := enablers.map (·.name)

theorem names_flatMap {α : Type} (l : List α) (f : α → List Enabler) :
    names (l.flatMap f) = l.flatMap fun a => names (f a) :=
  List.map_flatMap

def AreClonesOf (name : String) (clones : List Enabler) : Prop :=
  names clones = (List.range clones.length).map fun i => cloneName name (i + 1)

namespace AreClonesOf

variable {name : String} {clone : Enabler} {clones : List Enabler}

theorem name_first (h : AreClonesOf name (clone :: clones)) : clone.name = cloneName name 1 := by
  rw [AreClonesOf, List.length_cons, List.range_succ_eq_map] at h
  exact (List.cons.inj h).1

theorem exists_number (h : AreClonesOf name clones) (hclone : clone ∈ clones) :
    ∃ n, clone.name = cloneName name n := by
  have hname : clone.name ∈ names clones := List.mem_map_of_mem hclone
  rw [h] at hname
  obtain ⟨i, -, hi⟩ := List.mem_map.1 hname
  exact ⟨i + 1, hi.symm⟩

theorem pairwise (h : AreClonesOf name clones) : clones.Pairwise fun first second =>
    ∃ m n, m ≠ n ∧ first.name = cloneName name m ∧ second.name = cloneName name n := by
  have hnames : (names clones).Pairwise fun a b =>
      ∃ m n, m ≠ n ∧ a = cloneName name m ∧ b = cloneName name n := by
    rw [h, List.pairwise_map]
    exact List.pairwise_lt_range.imp fun hlt => ⟨_, _, by omega, rfl, rfl⟩
  exact List.pairwise_map.1 hnames

end AreClonesOf

end Enabler

namespace Standpoint

open Enabler

variable {p : Standpoint} {obligations : List Obligation} {e : Enabler}

theorem exists_clones (p : Standpoint) (e : Enabler) (o : Obligation) :
    ∃ next clones, (p.comply e o).enablers = next :: clones ∧ next.name = e.name ∧
      AreClonesOf e.name clones := by
  cases p.course e o with
  | kept done result => exact ⟨e, [], by rw [result], rfl, rfl⟩
  | switchedOff hopen hunmet stuck reason result =>
      exact ⟨{ e with disabled := true }, [], by rw [result]; rfl, rfl, rfl⟩
  | extended hopen hunmet extensible last hlast result =>
      refine ⟨_, _, by rw [result]; rfl, (name_vetted p e _).trans (name_demand e o.side last), ?_⟩
      simp only [AreClonesOf, names, clones, List.map_map, List.length_map, List.length_zipIdx]
      rw [List.range_eq_range', ← List.zipIdx_map_snd, List.map_map]
      refine List.map_congr_left fun way _ => ?_
      simp only [Function.comp_apply, name_vetted, name_demand]
      rfl

theorem name_of_mem_comply {o : Obligation} {version : Enabler}
    (h : version ∈ (p.comply e o).enablers) :
    version.name = e.name ∨ ∃ n, version.name = cloneName e.name n := by
  obtain ⟨next, clones, hstep, hnext, hclones⟩ := exists_clones p e o
  rw [hstep] at h
  rcases List.mem_cons.1 h with rfl | h
  · exact .inl hnext
  · exact .inr (hclones.exists_number h)

/-! ## A whole repair -/

theorem name_mem_repairEnabler (p : Standpoint) (obligations : List Obligation) (e : Enabler) :
    e.name ∈ names (p.repairEnabler obligations e).enablers := by
  obtain ⟨first, others, hfamily, hfirst, -⟩ := headed_repairEnabler p obligations e
  rw [hfamily, ← hfirst]
  exact List.mem_cons_self

theorem mem_names_repairEnabler_cons {o : Obligation} {rest : List Obligation} {name : String} :
    name ∈ names (p.repairEnabler (o :: rest) e).enablers ↔
      ∃ version ∈ (p.comply e o).enablers, name ∈ names (p.repairEnabler rest version).enablers := by
  rw [enablers_repairEnabler_cons, names_flatMap, List.mem_flatMap]

/-- Whatever is made of an enabler is named as a clone of a clone of it, or keeps its name. -/
theorem exists_numbered_of_mem {name : String}
    (h : name ∈ names (p.repairEnabler obligations e).enablers) :
    ∃ l, name = numbered e.name l := by
  induction obligations generalizing e with
  | nil => exact ⟨[], List.mem_singleton.1 h⟩
  | cons o rest ih =>
      obtain ⟨version, hversion, hname⟩ := mem_names_repairEnabler_cons.1 h
      obtain ⟨l, hl⟩ := ih hname
      rcases name_of_mem_comply hversion with hkept | ⟨n, hclone⟩
      · exact ⟨l, by rw [hl, hkept]⟩
      · exact ⟨n :: l, by rw [hl, hclone]; rfl⟩

theorem numbered_mem_of_append {l l' : List Nat}
    (h : numbered e.name (l ++ l') ∈ names (p.repairEnabler obligations e).enablers) :
    numbered e.name l ∈ names (p.repairEnabler obligations e).enablers := by
  induction obligations generalizing e l with
  | nil =>
      have hnil := eq_nil_of_numbered (List.mem_singleton.1 h)
      rw [(List.append_eq_nil_iff.1 hnil).1]
      exact List.mem_cons_self
  | cons o rest ih =>
      obtain ⟨version, hversion, hname⟩ := mem_names_repairEnabler_cons.1 h
      rcases name_of_mem_comply hversion with hkept | ⟨n, hclone⟩
      · rw [← hkept] at hname ⊢
        exact mem_names_repairEnabler_cons.2 ⟨version, hversion, ih hname⟩
      · -- the number of the clone is the first of them, unless the enabler itself is asked for
        obtain ⟨k, hk⟩ := exists_numbered_of_mem hname
        have hsplit : l ++ l' = n :: k := by
          rw [hclone] at hk
          exact numbered_inj.1 hk
        cases l with
        | nil => exact name_mem_repairEnabler p _ e
        | cons m l =>
            obtain ⟨rfl, rfl⟩ := List.cons.inj hsplit
            refine mem_names_repairEnabler_cons.2 ⟨version, hversion, ?_⟩
            have hprefix : numbered version.name (l ++ l') ∈
                names (p.repairEnabler rest version).enablers := by
              rw [hclone]
              exact hname
            have hmem := ih hprefix
            rw [hclone] at hmem
            exact hmem

theorem cloneName_mem_of_length_ne
    (h : (p.repairEnabler obligations e).enablers.length ≠ 1) :
    cloneName e.name 1 ∈ names (p.repairEnabler obligations e).enablers := by
  induction obligations generalizing e with
  | nil => exact absurd rfl h
  | cons o rest ih =>
      obtain ⟨next, clones, hstep, hnext, hclones⟩ := exists_clones p e o
      rw [mem_names_repairEnabler_cons, hstep]
      cases clones with
      | nil =>
          rw [enablers_repairEnabler_cons, hstep, List.flatMap_singleton] at h
          rw [← hnext]
          exact ⟨next, List.mem_cons_self, ih h⟩
      | cons clone others =>
          refine ⟨clone, List.mem_cons_of_mem _ List.mem_cons_self, ?_⟩
          rw [← hclones.name_first]
          exact name_mem_repairEnabler p rest clone

/-- Nothing that has been cloned, and goes on under its name, is cloned again. -/
def ClonesOnce (p : Standpoint) : List Obligation → Enabler → Prop
  | [], _ => True
  | o :: rest, e =>
      ((p.comply e o).enablers.length = 1 ∨
        ∀ next ∈ (p.comply e o).enablers.head?, (p.repairEnabler rest next).enablers.length = 1) ∧
      ∀ version ∈ (p.comply e o).enablers, ClonesOnce p rest version

instance decidableClonesOnce (p : Standpoint) :
    (obligations : List Obligation) → (e : Enabler) → Decidable (p.ClonesOnce obligations e)
  | [], _ => inferInstanceAs (Decidable True)
  | _ :: rest, _ =>
      have (version : Enabler) : Decidable (p.ClonesOnce rest version) :=
        decidableClonesOnce p rest version
      inferInstanceAs (Decidable (_ ∧ _))

theorem disjoint_names_of_clones {name : String} {first second : Enabler} {m n : Nat} (hne : m ≠ n)
    (hfirst : first.name = cloneName name m) (hsecond : second.name = cloneName name n) :
    List.Disjoint (names (p.repairEnabler obligations first).enablers)
      (names (p.repairEnabler obligations second).enablers) := by
  intro shared hshared hshared'
  obtain ⟨l, hl⟩ := exists_numbered_of_mem hshared
  obtain ⟨l', hl'⟩ := exists_numbered_of_mem hshared'
  rw [hfirst] at hl
  rw [hsecond] at hl'
  have hnumbers : m :: l = n :: l' := numbered_inj.1 (hl.symm.trans hl')
  exact hne (List.cons.inj hnumbers).1

theorem forall_disjoint_iff {next : Enabler} {clones : List Enabler}
    (hclones : AreClonesOf next.name clones) :
    (∀ clone ∈ clones, List.Disjoint (names (p.repairEnabler obligations next).enablers)
        (names (p.repairEnabler obligations clone).enablers)) ↔
      clones = [] ∨ (p.repairEnabler obligations next).enablers.length = 1 := by
  constructor
  · intro h
    cases clones with
    | nil => exact .inl rfl
    | cons clone others =>
        by_contra hagain
        refine h clone List.mem_cons_self (cloneName_mem_of_length_ne fun hone => ?_) ?_
        · exact hagain (.inr hone)
        · rw [← hclones.name_first]
          exact name_mem_repairEnabler p obligations clone
  · rintro h clone hclone shared hshared hshared'
    rcases h with rfl | hone
    · contradiction
    · obtain ⟨kept, hkept⟩ := List.length_eq_one_iff.1 hone
      have hname := name_mem_repairEnabler p obligations next
      rw [hkept] at hname hshared
      obtain rfl : shared = next.name :=
        (List.mem_singleton.1 hshared).trans (List.mem_singleton.1 hname).symm
      obtain ⟨n, hn⟩ := hclones.exists_number hclone
      obtain ⟨l, hl⟩ := exists_numbered_of_mem hshared'
      rw [hn] at hl
      have hnil := eq_nil_of_numbered (l := n :: l) hl.symm
      contradiction

theorem nodup_names_repairEnabler_iff (p : Standpoint) (obligations : List Obligation)
    (e : Enabler) :
    (names (p.repairEnabler obligations e).enablers).Nodup ↔ p.ClonesOnce obligations e := by
  induction obligations generalizing e with
  | nil => simp [names, repairEnabler, ClonesOnce]
  | cons o rest ih =>
      obtain ⟨next, clones, hstep, hnext, hclones⟩ := exists_clones p e o
      have hothers : clones.Pairwise fun first second =>
          List.Disjoint (names (p.repairEnabler rest first).enablers)
            (names (p.repairEnabler rest second).enablers) := by
        refine hclones.pairwise.imp ?_
        rintro first second ⟨m, n, hne, hfirst, hsecond⟩
        exact disjoint_names_of_clones hne hfirst hsecond
      rw [← hnext] at hclones
      rw [enablers_repairEnabler_cons, names_flatMap, List.nodup_flatMap, ClonesOnce]
      simp only [ih]
      rw [and_comm, hstep]
      refine and_congr_left' ?_
      rw [List.pairwise_cons, and_iff_left hothers]
      simpa using forall_disjoint_iff hclones

/-! ## The enablers of an action -/

/-- The names stay apart exactly if nothing is cloned twice and no enabler is already named as a
clone that is made of another. -/
theorem nodup_names_repairAction_iff (p : Standpoint) (obligations : List Obligation)
    {enablers : List Enabler} (h : (names enablers).Nodup) :
    (names (p.repairAction obligations enablers).enablers).Nodup ↔
      (∀ e ∈ enablers, p.ClonesOnce obligations e) ∧
        ∀ e ∈ enablers, ∀ f ∈ enablers,
          f.name ∈ names (p.repairEnabler obligations e).enablers → f.name = e.name := by
  have hdiffer : enablers.Pairwise fun e f => e.name ≠ f.name := List.pairwise_map.1 h
  rw [enablers_repairAction, names_flatMap, List.nodup_flatMap]
  simp only [nodup_names_repairEnabler_iff]
  refine and_congr_right fun _ => ?_
  constructor
  · intro hdisjoint e he f hf hmem
    by_contra hne
    have hsymm : Std.Symm (Function.onFun List.Disjoint fun e =>
        names (p.repairEnabler obligations e).enablers) := ⟨fun _ _ h _ h₁ h₂ => h h₂ h₁⟩
    have hother := hdisjoint.forall he hf fun heq => hne (heq ▸ rfl)
    exact hother hmem (name_mem_repairEnabler p obligations f)
  · intro hmade
    refine hdiffer.imp_of_mem ?_
    intro e f he hf hne shared hshared hshared'
    obtain ⟨l, rfl⟩ := exists_numbered_of_mem hshared
    obtain ⟨l', hl'⟩ := exists_numbered_of_mem hshared'
    -- one of the two names begins with the other, so it was made of that one before it was split
    rcases eq_numbered_of_numbered_eq hl' with ⟨m, hf', rfl⟩ | ⟨m, he', rfl⟩
    · have hmem := numbered_mem_of_append hshared
      rw [← hf'] at hmem
      exact hne (hmade e he f hf hmem).symm
    · rw [hl'] at hshared'
      have hmem := numbered_mem_of_append hshared'
      rw [← he'] at hmem
      exact hne (hmade f hf e he hmem)

end Standpoint

/-! ## Names in a report -/

namespace RepairLog

def names (log : RepairLog) : List String :=
  log.repaired.map (·.name) ++ log.cloned.flatMap (fun c => [c.name, c.origin]) ++
    log.disabled.map (·.name)

theorem mem_names_append {a b : RepairLog} {name : String} :
    name ∈ (a ++ b).names ↔ name ∈ a.names ∨ name ∈ b.names := by
  have happend : a ++ b = ⟨a.repaired ++ b.repaired, a.cloned ++ b.cloned,
    a.disabled ++ b.disabled⟩ := rfl
  simp only [names, happend, List.map_append, List.flatMap_append, List.mem_append]
  grind

theorem mem_names_join {logs : List RepairLog} {name : String} :
    name ∈ (join logs).names ↔ ∃ log ∈ logs, name ∈ log.names := by
  induction logs with
  | nil => simp [names, join]
  | cons log logs ih =>
      have hcons : join (log :: logs) = log ++ join logs := rfl
      rw [hcons, mem_names_append, ih]
      simp

end RepairLog

namespace Standpoint

open Enabler

variable {p : Standpoint} {obligations : List Obligation} {e : Enabler}

theorem names_comply (p : Standpoint) (e : Enabler) (o : Obligation) :
    names (p.comply e o).enablers = e.name :: (p.comply e o).log.cloned.map (·.name) := by
  cases p.course e o with
  | kept done result => rw [result]; rfl
  | switchedOff hopen hunmet stuck reason result => rw [result]; rfl
  | extended hopen hunmet extensible last hlast result =>
      rw [result]
      simp [names, extension, extensionLog, Function.comp_def, name_vetted, name_demand]

theorem perm_names_of_forall
    (h : ∀ e, (names (p.repairEnabler obligations e).enablers).Perm
      (e.name :: (p.repairEnabler obligations e).log.cloned.map (·.name)))
    (enablers : List Enabler) :
    (names (p.repairAction obligations enablers).enablers).Perm
      (names enablers ++ (p.repairAction obligations enablers).log.cloned.map (·.name)) := by
  let cloned := fun e => (p.repairEnabler obligations e).log.cloned.map (·.name)
  have hlog : (p.repairAction obligations enablers).log.cloned.map (·.name) =
      enablers.flatMap cloned := by
    simp [repairAction, Repair.join, RepairLog.join, List.flatMap_map, List.map_flatMap, cloned]
  calc
    names (p.repairAction obligations enablers).enablers
        = enablers.flatMap fun e => names (p.repairEnabler obligations e).enablers := by
          rw [enablers_repairAction, names_flatMap]
    List.Perm _ (enablers.flatMap fun e => e.name :: cloned e) :=
          List.Perm.flatMap_left _ fun e _ => h e
    List.Perm _ (names enablers ++ enablers.flatMap cloned) :=
          (List.map_append_flatMap_perm _ _ _).symm
    _ = names enablers ++ (p.repairAction obligations enablers).log.cloned.map (·.name) := by
          rw [hlog]

theorem perm_names_repairEnabler (p : Standpoint) (obligations : List Obligation) (e : Enabler) :
    (names (p.repairEnabler obligations e).enablers).Perm
      (e.name :: (p.repairEnabler obligations e).log.cloned.map (·.name)) := by
  induction obligations generalizing e with
  | nil => exact .refl _
  | cons o rest ih =>
      have hlater := perm_names_of_forall ih (p.comply e o).enablers
      have hlog : (p.repairEnabler (o :: rest) e).log.cloned =
          (p.comply e o).log.cloned ++ (p.repairAction rest (p.comply e o).enablers).log.cloned :=
        rfl
      rw [hlog, List.map_append, ← List.cons_append, ← names_comply]
      exact hlater

theorem mem_names_of_mem_log_comply {o : Obligation} {name : String}
    (h : name ∈ (p.comply e o).log.names) : name ∈ names (p.comply e o).enablers := by
  cases p.course e o with
  | kept done result =>
      rw [result] at h
      contradiction
  | switchedOff hopen hunmet stuck reason result =>
      rw [result] at h ⊢
      exact h
  | extended hopen hunmet extensible last hlast result =>
      rw [result] at h ⊢
      have hname : ∀ version ∈ (e.demand o.side last, last) :: e.clones o,
          version.1.name ∈ names (p.extension e o last).enablers := by
        intro version hversion
        rw [← name_vetted p e version.1]
        exact List.mem_map_of_mem (List.mem_map_of_mem hversion)
      have hkept := hname _ List.mem_cons_self
      rw [name_demand] at hkept
      simp only [RepairLog.names, List.mem_append, List.mem_map, List.mem_flatMap] at h
      rcases h with (⟨_, hrepaired, rfl⟩ | ⟨_, hcloned, hmention⟩) | ⟨_, hdisabled, rfl⟩
      · obtain ⟨version, hversion, rfl⟩ := List.mem_map.1 hrepaired
        refine hname version (List.mem_cons.2 ?_)
        rcases List.mem_append.1 hversion with hclone | hself
        · exact .inr hclone
        · exact .inl (List.mem_singleton.1 hself)
      · obtain ⟨version, hversion, rfl⟩ := List.mem_map.1 hcloned
        rcases List.mem_pair.1 hmention with rfl | rfl
        · exact hname version (List.mem_cons_of_mem _ hversion)
        · exact hkept
      · obtain ⟨version, hversion, hproblem⟩ := List.mem_filterMap.1 hdisabled
        obtain ⟨problem, -, rfl⟩ := Option.map_eq_some_iff.1 hproblem
        exact hname version (List.mem_reverse.1 hversion)

theorem mem_names_of_forall
    (h : ∀ e, ∀ name ∈ (p.repairEnabler obligations e).log.names,
      name ∈ names (p.repairEnabler obligations e).enablers) {enablers : List Enabler}
    {name : String} (hname : name ∈ (p.repairAction obligations enablers).log.names) :
    name ∈ names (p.repairAction obligations enablers).enablers := by
  rw [repairAction, Repair.join, RepairLog.mem_names_join, List.map_map] at hname
  obtain ⟨log, hlog, hmention⟩ := hname
  obtain ⟨e, he, rfl⟩ := List.mem_map.1 hlog
  rw [enablers_repairAction, names_flatMap, List.mem_flatMap]
  exact ⟨e, he, h e name hmention⟩

theorem mem_names_of_mem_log_repairEnabler {name : String}
    (h : name ∈ (p.repairEnabler obligations e).log.names) :
    name ∈ names (p.repairEnabler obligations e).enablers := by
  induction obligations generalizing e name with
  | nil => contradiction
  | cons o rest ih =>
      have hlog : (p.repairEnabler (o :: rest) e).log =
          (p.comply e o).log ++ (p.repairAction rest (p.comply e o).enablers).log := rfl
      rw [hlog, RepairLog.mem_names_append] at h
      rcases h with hstep | hlater
      · obtain ⟨version, hversion, rfl⟩ := List.mem_map.1 (mem_names_of_mem_log_comply hstep)
        rw [mem_names_repairEnabler_cons]
        exact ⟨version, hversion, name_mem_repairEnabler p rest version⟩
      · exact mem_names_of_forall (fun _ _ => ih) hlater

/-! ## Choices -/

theorem length_repairEnabler_eq_one (h : ∀ o ∈ obligations, o.alternatives.length ≤ 1) :
    (p.repairEnabler obligations e).enablers.length = 1 := by
  have hpos := List.length_pos_iff.2 (repairEnabler_ne_nil p obligations e)
  have hone : (obligations.map fun o => max 1 o.alternatives.length).prod = 1 := by
    refine List.prod_eq_one fun n hn => ?_
    obtain ⟨o, ho, rfl⟩ := List.mem_map.1 hn
    exact Nat.max_eq_left (h o ho)
  have hle := length_repairEnabler_le p obligations e
  omega

theorem clonesOnce_of_pairwise
    (h : obligations.Pairwise fun o o' => o.alternatives.length ≤ 1 ∨ o'.alternatives.length ≤ 1) :
    p.ClonesOnce obligations e := by
  induction obligations generalizing e with
  | nil => trivial
  | cons o rest ih =>
      obtain ⟨hchoice, hrest⟩ := List.pairwise_cons.1 h
      refine ⟨?_, fun version _ => ih hrest⟩
      by_cases hone : o.alternatives.length ≤ 1
      · left
        obtain ⟨next, clones, hstep, -⟩ := exists_clones p e o
        have hle := length_comply_le p e o
        rw [Nat.max_eq_left hone] at hle
        rw [hstep] at hle ⊢
        exact Nat.le_antisymm hle (Nat.succ_pos _)
      · right
        intro next _
        exact length_repairEnabler_eq_one fun o' ho' => (hchoice o' ho').resolve_left hone

/-! ## Names after a repair -/

/-- The names of the enablers of an action after a repair are those from before and those of the
clones that are reported, and whatever the report mentions is there.  Names that were different stay
so exactly if nothing is cloned twice under one name and no clone gets the name of another enabler:
it is enough that one obligation at most leaves a choice, and that no enabler is named as if it were
a clone of another. -/
theorem repairFor_names_apart_iff (p : Standpoint) (table : ByAction Obligation)
    (enablers : ByAction Enabler) (action : Ref Action)
    (h : (names (enablers.forAction action)).Nodup) :
    let obligations := table.forAction action
    let before := enablers.forAction action
    let repair := p.repairFor table enablers action
    (names repair.enablers).Perm (names before ++ repair.log.cloned.map (·.name)) ∧
      (∀ name ∈ repair.log.names, name ∈ names repair.enablers) ∧
      ((names repair.enablers).Nodup ↔
        (∀ e ∈ before, p.ClonesOnce obligations e) ∧
          ∀ e ∈ before, ∀ f ∈ before,
            f.name ∈ names (p.repairEnabler obligations e).enablers → f.name = e.name) ∧
      (obligations.Pairwise (fun o o' => o.alternatives.length ≤ 1 ∨ o'.alternatives.length ≤ 1) →
        (∀ e ∈ before, ∀ f ∈ before, ∀ l, f.name = numbered e.name l → f.name = e.name) →
          (names repair.enablers).Nodup) := by
  intro obligations before repair
  have hrepair : repair = p.repairAction obligations before :=
    repairFor_eq_repairAction p table enablers action
  have hiff := nodup_names_repairAction_iff p obligations h
  rw [hrepair]
  refine ⟨perm_names_of_forall (perm_names_repairEnabler p obligations) before, ?_, hiff, ?_⟩
  · exact fun name => mem_names_of_forall fun _ _ => mem_names_of_mem_log_repairEnabler
  · intro hchoice hnames
    refine hiff.2 ⟨fun e _ => clonesOnce_of_pairwise hchoice, fun e he f hf hmem => ?_⟩
    obtain ⟨l, hl⟩ := exists_numbered_of_mem hmem
    exact hnames e he f hf l hl

theorem names_apart_at_court :
    let court := ByAction.empty.add ⟨0⟩ crownOrLetters
    let acts := (ByAction.empty.add ⟨0⟩ ({ name := "Act" } : Enabler)).add ⟨0⟩ { name := "March" }
    (names (acts.forAction ⟨0⟩)).Nodup ∧
      (names (classic.repairFor court acts ⟨0⟩).enablers).Nodup ∧
      names (classic.repairFor court acts ⟨0⟩).enablers = ["Act", "Act #1", "March", "March #1"] := by
  intro court acts
  have hbefore : (names (acts.forAction ⟨0⟩)).Nodup := by decide
  obtain ⟨-, -, hiff, -⟩ := repairFor_names_apart_iff classic court acts ⟨0⟩ hbefore
  exact ⟨hbefore, hiff.2 (by decide), by decide⟩

/-- Two choices clone the enabler twice under its name, and the clones share theirs.  One choice is
enough if the name of the clone is taken. -/
theorem clones_share_a_name :
    let court := ByAction.empty.add ⟨0⟩ crownOrLetters
    let courts := court.add ⟨0⟩ { crownOrLetters with side := .target }
    let act := ByAction.empty.add ⟨0⟩ ({ name := "Act" } : Enabler)
    let acts := act.add ⟨0⟩ { name := "Act #1" }
    (∀ action, (names (act.forAction action)).Nodup ∧ (names (acts.forAction action)).Nodup) ∧
      names (classic.repairFor courts act ⟨0⟩).enablers =
        ["Act", "Act #1", "Act #1", "Act #1 #1"] ∧
      names (classic.repairFor court acts ⟨0⟩).enablers =
        ["Act", "Act #1", "Act #1", "Act #1 #1"] ∧
      ¬ ["Act", "Act #1", "Act #1", "Act #1 #1"].Nodup := by
  intro court courts act acts
  refine ⟨fun action => ?_, by decide, by decide, by decide⟩
  have hact : act.groups = [(⟨0⟩, [{ name := "Act" }])] := rfl
  have hacts : acts.groups = [(⟨0⟩, [{ name := "Act" }, { name := "Act #1" }])] := rfl
  by_cases haction : action = ⟨0⟩
  · subst haction
    decide
  · have hother : (action == (⟨0⟩ : Ref Action)) = false := beq_false_of_ne haction
    simp [ByAction.forAction, hact, hacts, hother, List.lookup_cons, names]

end Standpoint

end Rulebook
