import Mathlib.Data.Finset.Card
import Mathlib.Data.List.Destutter
import Rulebook.Proofs.Implication.Scene
import Rulebook.Proofs.Implication.Soundness

/-!
Technologies of the whole world.

How many technologies are known is counted on a list, and whether one is known is
looked up player by player and in the history.  The list has each technology once
however often it is recorded, so both say the same.  Dropping all repeats leaves as
many as sorting the records and dropping what repeats its neighbour.
-/

namespace Rulebook

theorem nodup_eraseDups {α : Type} [BEq α] [LawfulBEq α] : ∀ l : List α, l.eraseDups.Nodup
  | [] => by simp
  | a :: rest => by
      rw [List.eraseDups_cons, List.nodup_cons, List.mem_eraseDups]
      exact ⟨by simp, nodup_eraseDups (rest.filter fun b => !b == a)⟩
termination_by l => l.length
decreasing_by exact Nat.lt_succ_of_le (List.length_filter_le _ rest)

namespace World

variable {w : World} {tech : Ref Technology} {least : Int}

/-! ## Records -/

def techRecords (w : World) : List (Ref Technology) :=
  w.players.flatMap (·.knownTechs) ++ w.history.techsEverKnown

theorem mem_techRecords_iff : tech ∈ w.techRecords ↔ w.techEverKnown tech = true := by
  simp [techRecords, techEverKnown, Player.knowsTech, or_comm]

/-- The records sorted, and of neighbours that are alike only one kept. -/
def techsInOrder (w : World) : List (Ref Technology) :=
  (w.techRecords.mergeSort fun a b => a.toNat ≤ b.toNat).destutter (· ≠ ·)

/-! ## Counting -/

theorem length_techsEverKnown (w : World) :
    w.techsEverKnown.length = w.techRecords.toFinset.card := by
  have hsame : w.techRecords.eraseDups.toFinset = w.techRecords.toFinset := by
    ext tech
    rw [List.mem_toFinset, List.mem_toFinset, List.mem_eraseDups]
  rw [← hsame, List.toFinset_card_of_nodup (nodup_eraseDups w.techRecords)]
  rfl

theorem length_techsInOrder (w : World) :
    w.techsInOrder.length = w.techRecords.toFinset.card := by
  have hsorted : (w.techRecords.mergeSort fun a b => a.toNat ≤ b.toNat).Pairwise
      fun a b => a.toNat ≤ b.toNat :=
    (List.pairwise_mergeSort (by simpa using fun _ _ _ => Nat.le_trans)
      (by simpa using fun _ _ => Nat.le_total _ _) w.techRecords).imp (by simp)
  have hantisymm : Std.Antisymm fun a b : Ref Technology => a.toNat ≤ b.toNat :=
    ⟨fun a b hab hba => Ref.toNat_inj.1 (Nat.le_antisymm hab hba)⟩
  rw [techsInOrder, hsorted.destutter_eq_dedup, ← List.card_toFinset,
    List.toFinset_eq_of_perm _ _ (List.mergeSort_perm w.techRecords _)]

theorem le_length_techsEverKnown_iff :
    least ≤ w.techsEverKnown.length ↔
      ∃ techs : Finset (Ref Technology), least ≤ techs.card ∧
        ∀ tech ∈ techs, w.techEverKnown tech = true := by
  simp only [length_techsEverKnown, ← mem_techRecords_iff]
  constructor
  · intro hcount
    exact ⟨w.techRecords.toFinset, hcount, fun tech htech => List.mem_toFinset.1 htech⟩
  · rintro ⟨techs, hcount, hknown⟩
    have hsubset : techs ⊆ w.techRecords.toFinset :=
      fun tech htech => List.mem_toFinset.2 (hknown tech htech)
    have := Finset.card_le_card hsubset
    omega

end World

/-! ## Both questions -/

namespace Requirement

variable {rs : Ruleset} {s other : Situation} {w : World}

def techKnown (tech : Ref Technology) (survives present quiet : Bool) : Requirement :=
  { fact := .entity .tech tech, scope := .world, survives, present, quiet }

def techsCounted (least : Int32) (survives present quiet : Bool) : Requirement :=
  { fact := .measure .techs least, scope := .world, survives, present, quiet }

theorem eval_techsCounted (hw : s.world = some w) (least : Int32) (survives present quiet : Bool) :
    (techsCounted least survives present quiet).eval rs s = .yes ↔
      least.toInt ≤ w.techsEverKnown.length := by
  have heval : (techsCounted least survives present quiet).eval rs s =
      .known s.world fun w => (w.techsEverKnown.length : Int) ≥ least.toInt := rfl
  rw [heval, hw, Truth.known, Truth.ofBool_eq_yes, decide_eq_true_eq]

theorem eval_techKnown_past (hw : s.world = some w) (tech : Ref Technology)
    (present quiet : Bool) :
    (techKnown tech true present quiet).eval rs s = .yes ↔ w.techEverKnown tech = true := by
  have heval : (techKnown tech true present quiet).eval rs s =
      .known s.world fun w => w.techEverKnown tech := rfl
  rw [heval, hw, Truth.known, Truth.ofBool_eq_yes]

theorem eval_techKnown_now (hw : s.world = some w) (tech : Ref Technology)
    (present quiet : Bool) :
    (techKnown tech false present quiet).eval rs s = .yes ↔
      w.alivePlayers.any (·.knowsTech tech) = true := by
  have heval : (techKnown tech false present quiet).eval rs s =
      .known s.world fun w => w.alivePlayers.any (·.knowsTech tech) := rfl
  rw [heval, hw, Truth.known, Truth.ofBool_eq_yes]

/-- So many technologies are counted in the world just if there are so many different ones that
somebody knows or has known, and that is what sorting the records and dropping neighbours that
are alike would count.  What a living player knows now is among them. -/
theorem tech_views_agree (rs : Ruleset) (hs : s.world = some w) (hother : other.world = some w)
    (least : Int32) (survives present quiet : Bool) :
    ((techsCounted least survives present quiet).eval rs s = .yes ↔
        ∃ techs : Finset (Ref Technology), least.toInt ≤ techs.card ∧ ∀ tech ∈ techs,
          ∀ present quiet, (techKnown tech true present quiet).eval rs other = .yes) ∧
      ((techsCounted least survives present quiet).eval rs s = .yes ↔
        least.toInt ≤ w.techsInOrder.length) ∧
      ∀ tech present quiet, (techKnown tech false present quiet).eval rs other = .yes →
        (techKnown tech true present quiet).eval rs other = .yes := by
  simp only [eval_techsCounted hs, eval_techKnown_past hother, eval_techKnown_now hother]
  refine ⟨?_, ?_, fun tech _ _ hknown => ?_⟩
  · rw [World.le_length_techsEverKnown_iff]
    simp
  · rw [World.length_techsEverKnown, World.length_techsInOrder]
  · rw [World.techEverKnown, any_players_of_alive hknown, Bool.or_true]

/-! ## A fallen rival -/

def afterTheFall : World :=
  let scene : Scene := { techs := [⟨2⟩, ⟨0⟩, ⟨2⟩], techsBefore := [⟨0⟩, ⟨1⟩] }
  { scene.world with players := [{ scene.leader with isAlive := false }, scene.partner] }

theorem tech_views_agree_afterTheFall :
    let s : Situation := { world := some afterTheFall }
    s.world = some afterTheFall ∧
      (techsCounted 3 false true false).eval {} s = .yes ∧
      (techsCounted 4 false true false).eval {} s ≠ .yes ∧
      (techKnown ⟨2⟩ true true false).eval {} s = .yes ∧
      (techKnown ⟨2⟩ false true false).eval {} s = .no := by
  intro s
  have hworld : s.world = some afterTheFall := rfl
  have hagree := fun least => tech_views_agree {} hworld hworld least false true false
  refine ⟨hworld, ?_, ?_, rfl, rfl⟩
  · exact (hagree 3).1.2 ⟨{⟨0⟩, ⟨1⟩, ⟨2⟩}, by decide, by decide⟩
  · rw [Ne, (hagree 4).2.1, World.length_techsInOrder]
    decide

end Requirement

end Rulebook
