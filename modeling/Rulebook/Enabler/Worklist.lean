import Rulebook.Enabler.Repair

/-!
Repair as a list of work.

The enablers of an action wait in line.  A pass takes the one in front: if nothing
is due it is done, if what is due cannot be added it is switched off and done, and
otherwise the versions made of it take its place in front.  So the line can grow
while it is worked off.
-/

namespace Rulebook

structure Worklist where
  waiting : List Enabler
  done : List Enabler := []
  log : RepairLog := {}

inductive Pass where
  | kept
  | switchedOff
  | extended
  deriving DecidableEq, Repr

namespace Standpoint

variable (p : Standpoint) (obligations : List Obligation)

/-- The first obligation that an enabler does not meet; none is due once it is switched off. -/
def due? (e : Enabler) : Option Obligation :=
  if e.disabled then none else p.missing? e obligations

/-- There is a way to meet the obligation, and no way touches what the author wrote. -/
def isExtensible (e : Enabler) (o : Obligation) : Bool :=
  !o.alternatives.isEmpty && (p.suggestions e o).all (·.isAppend)

def advance? (w : Worklist) : Option (Pass × Worklist) :=
  match w.waiting with
  | [] => none
  | e :: others =>
      match p.due? obligations e with
      | none => some (.kept, { w with waiting := others, done := w.done ++ [e] })
      | some o =>
          let repair := p.comply e o
          let log := w.log ++ repair.log
          if p.isExtensible e o then
            some (.extended, { w with waiting := repair.enablers ++ others, log })
          else
            some (.switchedOff, { waiting := others, done := w.done ++ repair.enablers, log })

inductive Runs : Worklist → List Pass → Worklist → Prop
  | refl (w : Worklist) : Runs w [] w
  | next {w middle final : Worklist} {pass : Pass} {passes : List Pass}
      (step : p.advance? obligations w = some (pass, middle)) (rest : Runs middle passes final) :
      Runs w (pass :: passes) final

/-- The passes work off the enablers, from the first until none waits, and make the repair. -/
def WorksOff (enablers : List Enabler) (passes : List Pass) (repair : Repair) : Prop :=
  p.Runs obligations { waiting := enablers } passes
    { waiting := [], done := repair.enablers, log := repair.log }

end Standpoint

end Rulebook
