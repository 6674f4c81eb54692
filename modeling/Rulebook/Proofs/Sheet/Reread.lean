import Rulebook.Enabler.Standard
import Rulebook.Proofs.Repair.Authorship
import Rulebook.Proofs.Ruleset.Size
import Rulebook.Proofs.Sheet.Grouping
import Rulebook.Proofs.Written.Encoding
import Rulebook.Sheet.Basic

/-!
Enablers written out to a sheet come back as they were, repaired or not.

A condition comes back if its requirement is read again by the names that it is
written with, or if it never was read and stands in the sheet as its author
wrote it.  All that a sheet compiles to is of this kind.  Repair appends nothing
but alternatives of obligations, and these, too, have been read by names.
-/

namespace Rulebook

theorem exists_of_mem_mapM? {α β : Type} {f : α → Option β} {as : List α} {read : List β}
    (h : as.mapM f = some read) : ∀ b ∈ read, ∃ a ∈ as, f a = some b := by
  induction as generalizing read with
  | nil =>
      cases h
      intro b hb
      cases hb
  | cons a rest ih =>
      rw [List.mapM_cons] at h
      obtain ⟨first, hfirst, h⟩ := Option.bind_eq_some_iff.1 h
      obtain ⟨others, hothers, h⟩ := Option.bind_eq_some_iff.1 h
      cases h
      intro b hb
      rcases List.mem_cons.1 hb with rfl | hb
      · exact ⟨a, List.mem_cons_self, hfirst⟩
      · obtain ⟨a', ha', hread⟩ := ih hothers b hb
        exact ⟨a', List.mem_cons_of_mem a ha', hread⟩

/-! ## Requirements -/

theorem Fact.kind_ofName {rs : Ruleset} {kind : FactKind} {name : String}
    (h : (ofName rs kind name).isInvalid = false) : (ofName rs kind name).kind = kind := by
  have hnamed := named?_of_ofName h
  cases kind with
  | none => rfl
  | invalid => contradiction
  | entity _ | flag _ | choice _ =>
      obtain ⟨_, -, hfact⟩ := Option.map_eq_some_iff.1 hnamed
      rw [← hfact]
      rfl
  | measure m =>
      obtain ⟨bound, hfact⟩ := exists_bound_of_named? hnamed
      rw [hfact]
      rfl

namespace Requirement

variable {rs : Ruleset} {r : Requirement}

def Rereads (rs : Ruleset) (r : Requirement) : Prop := ofEntry rs (r.toEntry rs) = .ok r

theorem rereads_of_checked (hrs : rs.Addressable) {kind : FactKind} {name : String}
    (hfact : r.fact = Fact.ofName rs kind name) (hvalid : r.isInvalid = false)
    (hchecked : r.checked = .ok r) : r.Rereads rs := by
  have hname : (Fact.ofName rs kind name).isInvalid = false := by rwa [← hfact]
  have hback : r.fact.ReadsBack rs := by
    rw [hfact]
    exact Fact.readsBack_of_ofName hrs hname
  exact (ofEntry_toEntry hback).trans hchecked

theorem rereads_of_ofEntry (hrs : rs.Addressable) {e : Entry} (h : ofEntry rs e = .ok r) :
    r.Rereads rs := by
  obtain ⟨_, -, -, hfact, hvalid, hchecked⟩ := exists_parts_of_ofEntry h
  exact rereads_of_checked hrs hfact hvalid hchecked

end Requirement

/-! ## Conditions -/

namespace Conditions

variable {rs : Ruleset} {c : Conditions}

def Rereads (rs : Ruleset) (c : Conditions) : Prop :=
  ∀ condition ∈ c.toList, conditionOf rs (entryOf rs condition) = condition

theorem Rereads.ofEntriesKept_toEntries (h : c.Rereads rs) :
    ofEntriesKept rs (c.toEntries rs) = c := by
  have hlist : (c.toEntries rs).map (conditionOf rs) = c.toList := by
    rw [toEntries, List.map_map, Function.comp_def]
    exact (List.map_congr_left h).trans (List.map_id c.toList)
  rw [ofEntriesKept, hlist]

theorem rereads_ofEntriesKept (hrs : rs.Addressable) (entries : List Requirement.Entry) :
    (ofEntriesKept rs entries).Rereads rs := by
  intro condition hcondition
  obtain ⟨e, -, rfl⟩ := List.mem_map.1 hcondition
  cases hread : Requirement.ofEntry rs e with
  | ok r =>
      rw [conditionOf_of_ok hread]
      exact conditionOf_of_ok (Requirement.rereads_of_ofEntry hrs hread)
  | error flaw =>
      rw [conditionOf_of_error hread]
      exact conditionOf_of_error hread

theorem Rereads.extend {added : List Requirement} (h : c.Rereads rs)
    (hadded : ∀ r ∈ added, r.Rereads rs) : (c.extend added).Rereads rs := by
  intro condition hcondition
  rcases List.mem_append.1 hcondition with hold | hnew
  · exact h condition hold
  · obtain ⟨r, hr, rfl⟩ := List.mem_map.1 hnew
    exact conditionOf_of_ok (hadded r hr)

theorem rereads_of_ofEntries (hrs : rs.Addressable) {entries : List Requirement.Entry}
    (h : ofEntries rs entries = .ok c) : ∀ r ∈ c.requirements, r.Rereads rs := by
  intro r hr
  obtain ⟨rfl, hwritten⟩ := ofEntriesKept_of_ok h
  obtain ⟨condition, hcondition, rfl⟩ := List.mem_map.1 hr
  have hkept := hwritten condition hcondition
  obtain ⟨e, -, rfl⟩ := List.mem_map.1 hcondition
  cases hread : Requirement.ofEntry rs e with
  | ok r =>
      rw [conditionOf_of_ok hread]
      exact Requirement.rereads_of_ofEntry hrs hread
  | error flaw =>
      rw [conditionOf_of_error hread] at hkept
      contradiction

end Conditions

/-! ## Enablers -/

namespace Enabler

variable {rs : Ruleset} {action : Ref Action} {e : Enabler} {obligations : List Obligation}

structure Rereads (rs : Ruleset) (action : Ref Action) (e : Enabler) : Prop where
  action : rs.actions.find? ((rs.actions.name? action).getD "") = some action
  conditions : ∀ side, (e.conditions side).Rereads rs

theorem enabler_ofEnabler (h : e.Rereads rs action) :
    (EnablerEntry.ofEnabler rs action e).enabler rs = e := by
  have hactor : Conditions.ofEntriesKept rs (e.actor.toEntries rs) = e.actor :=
    (h.conditions .actor).ofEntriesKept_toEntries
  have htarget : Conditions.ofEntriesKept rs (e.target.toEntries rs) = e.target :=
    (h.conditions .target).ofEntriesKept_toEntries
  simp only [EnablerEntry.enabler, EnablerEntry.ofEnabler, hactor, htarget]

theorem find?_name?_of_find? (hrs : rs.Addressable) {name : String}
    (h : rs.actions.find? name = some action) :
    rs.actions.find? ((rs.actions.name? action).getD "") = some action := by
  obtain ⟨found, hname, hsame⟩ := Table.name?_of_find? (hrs.tables .action) h
  have hfound : rs.actions.name? action = some found := hname
  rw [hfound, Option.getD_some, Table.find?_congr hsame, h]

theorem rereads_of_find? (hrs : rs.Addressable) {entry : EnablerEntry}
    (h : rs.actions.find? entry.action = some action) : (entry.enabler rs).Rereads rs action where
  action := find?_name?_of_find? hrs h
  conditions side := by
    cases side with
    | actor => exact Conditions.rereads_ofEntriesKept hrs entry.actor
    | target => exact Conditions.rereads_ofEntriesKept hrs entry.target

theorem Rereads.grownFrom {grown : Enabler} (h : e.Rereads rs action)
    (hgrown : GrownFrom obligations e grown)
    (hoffers : ∀ o ∈ obligations, ∀ r ∈ o.alternatives, r.Rereads rs) :
    grown.Rereads rs action where
  action := h.action
  conditions side := by
    obtain ⟨added, heq, offered⟩ := hgrown side
    rw [heq]
    refine (h.conditions side).extend fun r hr => ?_
    obtain ⟨o, ho, -, hoffer⟩ := offered r hr
    exact hoffers o ho r hoffer

end Enabler

/-! ## Sheets -/

namespace EnablerSheet

variable {rs : Ruleset} {enablers : ByAction Enabler}

theorem holds_of_compile (hrs : rs.Addressable) {sheet : EnablerSheet}
    (h : sheet.compile rs = .ok enablers) : enablers.Holds (Enabler.Rereads rs) := by
  unfold compile at h
  refine foldlM_invariant (fun t entry t' ht hstep => ?_) ByAction.holds_empty h
  cases hfind : rs.actions.find? entry.action with
  | none => simp [hfind] at hstep
  | some action =>
      simp only [hfind, Except.ok.injEq] at hstep
      rw [← hstep]
      exact ht.add (Enabler.rereads_of_find? hrs hfind)

theorem enablers_ofEnablers (rs : Ruleset) (enablers : ByAction Enabler) :
    (ofEnablers rs enablers).enablers =
      enablers.pairs.map fun x => EnablerEntry.ofEnabler rs x.1 x.2 := by
  simp [ofEnablers, ByAction.pairs, List.map_flatMap, Function.comp_def]

theorem compile_ofEnablers (h : enablers.Holds (Enabler.Rereads rs)) :
    (ofEnablers rs enablers).compile rs = .ok enablers := by
  have hsteps : (ofEnablers rs enablers).compile rs =
      .ok (ByAction.empty.addAll enablers.pairs) := by
    rw [compile, enablers_ofEnablers, List.foldlM_map]
    refine foldlM_eq_ok_foldl (fun t x hx => ?_) _
    have hmember := h.pairs x hx
    have haction : rs.actions.find? (EnablerEntry.ofEnabler rs x.1 x.2).action = some x.1 :=
      hmember.action
    simp only [haction, Enabler.enabler_ofEnabler hmember]
  rw [hsteps, ByAction.addAll_pairs fun g hg => (h g hg).1]

end EnablerSheet

/-! ## Obligations -/

namespace Obligation

variable {rs : Ruleset}

def Rereads (rs : Ruleset) (o : Obligation) : Prop := ∀ r ∈ o.alternatives, r.Rereads rs

theorem standardDrafts_scopes :
    ∀ d ∈ standardDrafts, ∀ alternative ∈ d.alternatives,
      alternative.1.scopes.contains .here = true := by
  decide

theorem rereads_of_ofDraft? (hrs : rs.Addressable) {d : Draft} {action : Ref Action}
    {o : Obligation} (hscopes : ∀ alternative ∈ d.alternatives,
      alternative.1.scopes.contains .here = true)
    (h : ofDraft? rs d = some (action, o)) : o.Rereads rs := by
  obtain ⟨_, -, h⟩ := Option.bind_eq_some_iff.1 h
  obtain ⟨alternatives, hread, h⟩ := Option.bind_eq_some_iff.1 h
  cases h
  intro r hr
  obtain ⟨⟨kind, name, present⟩, hmem, hr⟩ := exists_of_mem_mapM? hread r hr
  cases hvalid : (Fact.ofName rs kind name).isInvalid with
  | true => simp [hvalid] at hr
  | false =>
      simp only [hvalid, Bool.false_eq_true, if_false, Option.some.injEq] at hr
      subst hr
      refine Requirement.rereads_of_checked hrs rfl hvalid (Requirement.checked_eq_ok_iff.2 ⟨?_, rfl⟩)
      simp only [Requirement.scopeIsLegal, Requirement.kind, Fact.kind_ofName hvalid]
      exact hscopes _ hmem

theorem holds_standard (hrs : rs.Addressable) : (standard rs).Holds fun _ => Rereads rs := by
  refine ByAction.holds_empty.addAll fun x hx => ?_
  obtain ⟨d, hd, hread⟩ := List.mem_filterMap.1 hx
  exact rereads_of_ofDraft? hrs (standardDrafts_scopes d hd) hread

end Obligation

theorem ObligationEntry.rereads_of_compile {rs : Ruleset} (hrs : rs.Addressable)
    {entry : ObligationEntry} {compiled : Ref Action × Obligation}
    (h : entry.compile rs = .ok compiled) : compiled.2.Rereads rs := by
  unfold compile at h
  split at h
  · contradiction
  · split at h
    · contradiction
    · next alternatives hread =>
        cases h
        exact Conditions.rereads_of_ofEntries hrs hread

theorem ObligationSheet.holds_of_compile {rs : Ruleset} (hrs : rs.Addressable)
    {sheet : ObligationSheet} {obligations : ByAction Obligation}
    (h : sheet.compile rs = .ok obligations) :
    obligations.Holds fun _ => Obligation.Rereads rs := by
  unfold compile at h
  refine foldlM_invariant (fun t entry t' ht hstep => ?_) ByAction.holds_empty h
  cases hcompile : entry.compile rs with
  | error flaw =>
      rw [hcompile] at hstep
      contradiction
  | ok compiled =>
      rw [hcompile] at hstep
      cases hstep
      exact ht.add (entry.rereads_of_compile hrs hcompile)

/-! ## Repaired enablers -/

namespace Standpoint

variable {p : Standpoint}

theorem repairAction_ne_nil (obligations : List Obligation) {enablers : List Enabler}
    (h : enablers ≠ []) : (p.repairAction obligations enablers).enablers ≠ [] := by
  obtain ⟨e, he⟩ := List.exists_mem_of_ne_nil _ h
  obtain ⟨e', he'⟩ := List.exists_mem_of_ne_nil _ (repairEnabler_ne_nil p obligations e)
  exact List.ne_nil_of_mem (mem_repairAction.2 ⟨e, he, he'⟩)

theorem holds_repairAll {obligations : ByAction Obligation} {enablers : ByAction Enabler}
    (hobligations : obligations.Holds fun _ => Obligation.Rereads p.ruleset)
    (h : enablers.Holds (Enabler.Rereads p.ruleset)) :
    (p.repairAll obligations enablers).Holds (Enabler.Rereads p.ruleset) := by
  intro g hg
  obtain ⟨⟨action, members⟩, hold, rfl⟩ := List.mem_map.1 hg
  obtain ⟨hnonempty, hmembers⟩ := h _ hold
  refine ⟨repairAction_ne_nil _ hnonempty, fun e' he' => ?_⟩
  obtain ⟨e, he, hrepaired⟩ := mem_repairAction.1 he'
  exact (hmembers e he).grownFrom (grownFrom_of_mem_repairEnabler hrepaired)
    fun o ho => hobligations.forAction ho

theorem complies_of_mem_groups (obligations : ByAction Obligation)
    (enablers : ByAction Enabler) :
    ∀ g ∈ (p.repairAll obligations enablers).groups, ∀ e ∈ g.2,
      p.Complies (obligations.forAction g.1) e := by
  intro g hg e he
  obtain ⟨members, hmembers⟩ := mem_groups_repairAll hg
  rw [hmembers] at he
  exact complies_of_mem_repairAction he

theorem repairAll_of_complies {obligations : ByAction Obligation} {enablers : ByAction Enabler}
    (h : ∀ g ∈ enablers.groups, ∀ e ∈ g.2, p.Complies (obligations.forAction g.1) e) :
    p.repairAll obligations enablers = enablers ∧
      (p.report obligations enablers).isEmpty = true := by
  constructor
  · refine ByAction.map_eq_self fun g hg => ?_
    rw [repairAction_of_complies (h g hg)]
  · simp only [RepairReport.isEmpty, report, List.isEmpty_iff, List.filter_eq_nil_iff,
      List.mem_map]
    rintro entry ⟨g, hg, rfl⟩
    rw [repairAction_of_complies (h g hg)]
    simp [RepairLog.isEmpty]

/-- Enablers that a sheet compiles to, repaired or not, are written to a sheet that compiles to
them again.  A repair of what is read back from a repaired sheet reports nothing and changes
nothing. -/
theorem repaired_sheet_rereads (p : Standpoint) {d : Draft}
    (hload : Ruleset.ofDraft d = .ok p.ruleset)
    (hflags : ∀ kind, (p.ruleset.flags kind).size ≤ 65536)
    {sheet : EnablerSheet} {enablers : ByAction Enabler}
    (hsheet : sheet.compile p.ruleset = .ok enablers) {obligations : ByAction Obligation}
    (hobligations : obligations = Obligation.standard p.ruleset ∨
      ∃ source : ObligationSheet, source.compile p.ruleset = .ok obligations) :
    (EnablerSheet.ofEnablers p.ruleset enablers).compile p.ruleset = .ok enablers ∧
    (EnablerSheet.ofEnablers p.ruleset (p.repairAll obligations enablers)).compile p.ruleset =
      .ok (p.repairAll obligations enablers) ∧
    ∀ reread, (EnablerSheet.ofEnablers p.ruleset (p.repairAll obligations enablers)).compile
        p.ruleset = .ok reread →
      p.repairAll obligations reread = reread ∧ (p.report obligations reread).isEmpty = true := by
  have hrs : p.ruleset.Addressable := Ruleset.addressable_of_ofDraft hload hflags
  have holds : enablers.Holds (Enabler.Rereads p.ruleset) :=
    EnablerSheet.holds_of_compile hrs hsheet
  have hoffers : obligations.Holds fun _ => Obligation.Rereads p.ruleset := by
    rcases hobligations with rfl | ⟨source, hsource⟩
    · exact Obligation.holds_standard hrs
    · exact ObligationSheet.holds_of_compile hrs hsource
  have hrepaired := EnablerSheet.compile_ofEnablers (holds_repairAll hoffers holds)
  refine ⟨EnablerSheet.compile_ofEnablers holds, hrepaired, fun reread hreread => ?_⟩
  rw [hrepaired] at hreread
  cases hreread
  exact repairAll_of_complies (complies_of_mem_groups obligations enablers)

/-! ## Gunners whose sheet has a slip -/

def gunners : Draft where
  units := { unitTypeFlags := ["NonMil"] }
  game := { actions := [("Bombard", { content := () })] }

def gunnery : Standpoint where
  ruleset := {
    actions := ⟨[⟨⟨"Bombard", "Bombard"⟩⟩]⟩
    flags := fun
      | .unitType => ⟨["NonMil"]⟩
      | _ => {} }

def barrage : EnablerSheet :=
  { enablers := [{ name := "Barrage", action := "BOMBARD", actor := [Conditions.misspelt] }] }

def barrages : ByAction Enabler :=
  .add .empty ⟨0⟩
    { name := "Barrage"
      actor := ⟨[{ requirement := .invalid, written := some Conditions.misspelt }]⟩ }

theorem compile_barrage : barrage.compile gunnery.ruleset = .ok barrages := by
  have haction : gunnery.ruleset.actions.find? "BOMBARD" = some ⟨0⟩ := by decide +kernel
  have hkind : Requirement.kindNamed? Conditions.misspelt.kind = none := by decide +kernel
  have hflaw : Requirement.ofEntry gunnery.ruleset Conditions.misspelt =
      .error (.unknownKind "Gvo") := Requirement.ofEntry_of_unknown hkind
  have hkept := Conditions.conditionOf_of_error hflaw
  simp only [EnablerSheet.compile, barrage, List.foldlM_cons, haction, EnablerEntry.enabler,
    Conditions.ofEntriesKept, List.map_cons, hkept]
  rfl

theorem barrages_reread :
    ((gunnery.repairAll (Obligation.standard gunnery.ruleset) barrages).forAction ⟨0⟩).map
        (·.actor.size) = [2] ∧
      (EnablerSheet.ofEnablers gunnery.ruleset
          (gunnery.repairAll (Obligation.standard gunnery.ruleset) barrages)).compile
          gunnery.ruleset =
        .ok (gunnery.repairAll (Obligation.standard gunnery.ruleset) barrages) := by
  have hload : Ruleset.ofDraft gunners = .ok gunnery.ruleset := by
    have hflags : Ruleset.declaredFlags gunners = gunnery.ruleset.flags := by
      funext kind
      cases kind <;> rfl
    simp only [Ruleset.ofDraft, hflags]
    rfl
  obtain ⟨-, hrepaired, -⟩ := repaired_sheet_rereads gunnery hload
    (fun kind => by cases kind <;> decide) compile_barrage (.inl rfl)
  exact ⟨by decide +kernel, hrepaired⟩

end Standpoint

end Rulebook
