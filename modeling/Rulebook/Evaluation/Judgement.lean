import Rulebook.Evaluation.Quantifier
import Rulebook.Requirement.Conditions

/-!
Judging requirements in a situation.

`judge?` says for each kind of fact what has to hold, and where it looks for it.
It is `none` where the kind has no meaning in the scope, which `eval` leaves
open.  A requirement is met when the answer agrees with its sign; an open answer
is read as the caller wants.  Asking about the past where no history is kept is
a mistake of the caller and reported as such.
-/

namespace Rulebook

open Situation

/-! ## Facts about the unit -/

/-- Is the unit on terrain where its class can be?  Open without its type or its tile. -/
def onNativeTile? (rs : Ruleset) (w : World) (u : GameUnit) : Option Bool :=
  match rs.classOfUnitType? u.unitType, w.tile? u.tile with
  | some c, some t => some (rs.isNative c t.terrain)
  | _, _ => none

def unitStateTruth (rs : Ruleset) (s : Situation) (u : GameUnit) : UnitState → Truth
  | .transported => .ofBool u.transportedBy.isSome
  | .transporting => .ofBool !u.transporting.isEmpty
  | .hasHomeCity => .ofBool u.homeCity.isSome
  | .onNativeTile => .known (s.world.bind fun w => onNativeTile? rs w u) id
  | .onLivableTile =>
      .known₂ (s.world.bind fun w => onNativeTile? rs w u) (s.world.bind fun w => w.tile? u.tile)
        fun isNative tile => isNative || tile.cityCenter.isSome
  | .onDomesticTile =>
      .known (s.world.bind fun w => w.tile? u.tile) fun tile => tile.owner == some u.owner

/-! ## Facts about buildings -/

def hasBuilding (w : World) (p : Player) (building : Ref Building) (survives : Bool) : Bool :=
  if survives then p.everBuilt.contains building
  else w.countBuildingOf p.id building > 0

/-- The continent of the tile, or without a tile that of the city. -/
def continentAt? (s : Situation) (w : World) : Option Int :=
  match s.tileData?, s.city with
  | some t, _ => some t.continent
  | none, some c => w.continentOf? c
  | none, none => none

def buildingTruth? (s : Situation) (scope : Scope) (survives : Bool) (building : Ref Building) :
    Option Truth :=
  match scope with
  | .here => some (.known s.building (· == building))
  | .city | .tradeRoute => someCity s scope fun c => c.hasBuilding building
  | .continent =>
      some (.known₂ s.world (s.world.bind (continentAt? s)) fun w continent =>
        w.countBuildingOn continent building > 0)
  | .player | .team | .alliance =>
      some (.known₂ s.world s.player fun w p =>
        (w.playersIn p.id scope).any fun p => hasBuilding w p building survives)
  | .world =>
      some (.known s.world fun w =>
        (if survives then w.countBuildingEver building else w.countBuilding building) > 0)
  | _ => none

/-! ## Facts about players and places -/

def relatedToSomeone (w : World) (relation : Relation) (p : Player) : Bool :=
  w.alivePlayers.any fun other => w.related p.id other.id relation

def relationTruth? (s : Situation) (scope : Scope) (relation : Relation) : Option Truth :=
  match s.world, s.player with
  | some w, some p =>
      match scope with
      | .here => some (.known s.otherPlayer fun other => w.related p.id other.id relation)
      | .player => some (.ofBool (relatedToSomeone w relation p))
      | .team | .alliance =>
          some (.ofBool ((w.playersIn p.id scope).any (relatedToSomeone w relation)))
      | .world => some (.ofBool (w.alivePlayers.any (relatedToSomeone w relation)))
      | _ => none
  | _, _ => some .maybe

def cultureTruth? (s : Situation) (scope : Scope) (least : Int) : Option Truth :=
  match scope with
  | .city | .tradeRoute => someCity s scope fun c => c.culture ≥ least
  | _ =>
      match s.world with
      | none => some .maybe
      | some w => somePlayer s scope fun p => w.cultureOf p ≥ least

def ageM (w : World) (born : Int) : Calculation Int := Calculation.word (w.info.turn - born)

def ageTruth? (s : Situation) (scope : Scope) (least : Int) : Option Truth :=
  let since := fun (born : Option Int) =>
    some (.known₂ s.world born fun w born => (ageM w born).modular ≥ least)
  match scope with
  | .here => since (s.unit.map (·.birthTurn))
  | .city => since (s.city.map (·.foundedTurn))
  | .player => since (s.player.map (·.birthTurn))
  | _ => none

def cityTileTruth? (s : Situation) (scope : Scope) : CityTile → Option Truth
  | .center => someTile s scope (·.cityCenter.isSome)
  | .claimed => someTile s scope (·.owner.isSome)
  | .extrasOwned => someTile s scope (·.extrasOwner.isSome)
  | .worked => someTile s scope (·.workedBy.isSome)
  | .sameContinent =>
      match s.world.bind fun w => s.city.bind w.continentOf? with
      | none => some .maybe
      | some continent => someTile s scope fun t => t.continent == continent

def cityHasStatus (c : City) : CityStatus → Bool
  | .ownedByOriginal => c.owner == c.originalOwner
  | .starved => c.mood.starved
  | .disorder => c.mood.disorder
  | .celebration => c.mood.celebration

def hasNationality (w : World) (nation : Ref Nation) (c : City) : Bool :=
  c.citizens.any fun (id, count) => count > 0 && (w.player? id).any fun p => p.nation == nation

/-! ## Judging -/

def judge? (rs : Ruleset) (r : Requirement) (s : Situation) : Option Truth :=
  match r.fact with
  | .none => some .yes
  | .invalid => some .no
  | .entity .terrain terrain => someTile s r.scope fun t => t.terrain == terrain
  | .choice .terrainClass c => someTile s r.scope fun t => rs.terrainClass? t.terrain == some c
  | .flag .terrain f => someTile s r.scope fun t => rs.terrainHasFlag t.terrain f
  | .choice .alteration a => someTile s r.scope fun t => rs.terrainAllows t.terrain a
  | .entity .extra extra => someTile s r.scope fun t => t.hasExtra extra
  | .flag .extra f => someTile s r.scope fun t => t.extras.any fun e => rs.extraHasFlag e f
  | .flag .base f => someTile s r.scope fun t => t.extras.any fun e => rs.extraHasBaseFlag e f
  | .flag .road f => someTile s r.scope fun t => t.extras.any fun e => rs.extraHasRoadFlag e f
  | .measure .unitsOnTile most => someTile s r.scope fun t => (t.units.length : Int) ≤ most.toInt
  | .choice .cityTile c => cityTileTruth? s r.scope c
  | .entity .tech tech =>
      if r.survives then some (.known s.world fun w => w.techEverKnown tech)
      else somePlayer s r.scope fun p => p.knowsTech tech
  | .flag .tech f => somePlayer s r.scope fun p => p.knownTechs.any fun t => rs.techHasFlag t f
  | .entity .government g => somePlayer s r.scope fun p => p.government == g
  | .entity .achievement a => somePlayer s r.scope fun p => p.hasAchievement a
  | .entity .nation nation =>
      if r.survives then some (.known s.world fun w => w.nationEverInPlay nation)
      else somePlayer s r.scope fun p => p.nation == nation
  | .entity .nationGroup group => somePlayer s r.scope fun p => rs.nationInGroup p.nation group
  | .choice .aiLevel level => somePlayer s r.scope fun p => p.aiLevel == some level
  | .measure .techs least =>
      if r.scope == .world then
        some (.known s.world fun w => (w.techsEverKnown.length : Int) ≥ least.toInt)
      else somePlayer s r.scope fun p => (p.knownTechs.length : Int) ≥ least.toInt
  | .measure .culture least => cultureTruth? s r.scope least.toInt
  | .choice .relation relation => relationTruth? s r.scope relation
  | .entity .building building => buildingTruth? s r.scope r.survives building
  | .choice .genus g => some (.known s.building fun b => rs.buildingGenus? b == some g)
  | .entity .good good => someCity s r.scope fun c => c.goods.contains good
  | .measure .size least => someCity s r.scope fun c => c.size ≥ least.toInt
  | .measure .foreignPercent least => someCity s r.scope fun c => c.foreignPercent ≥ least.toInt
  | .entity .nationality nation =>
      match s.world with
      | none => some .maybe
      | some w => someCity s r.scope (hasNationality w nation)
  | .choice .cityStatus status => someCity s r.scope fun c => cityHasStatus c status
  | .entity .specialist specialist => some (.known s.specialist (· == specialist))
  | .choice .output output => some (.known s.output (· == output))
  | .entity .action action => some (.known s.action (· == action))
  | .choice .vision layer => some (.known s.vision (· == layer))
  | .choice .intelligence i => some (.known s.intelligence (· == i))
  | .entity .unitType t => some (.known s.typeOfUnit? (· == t))
  | .flag .unitType f => some (.known s.typeOfUnit? fun t => rs.unitTypeHasFlag t f)
  | .entity .unitClass c => some (.known s.typeOfUnit? fun t => rs.classOfUnitType? t == some c)
  | .flag .unitClass f => some (.known s.typeOfUnit? fun t => rs.classOfUnitTypeHasFlag t f)
  | .measure .veteran least => some (.known s.unit fun u => u.veteran ≥ least)
  | .choice .unitState state =>
      match s.unit with
      | none => some .maybe
      | some u => some (unitStateTruth rs s u state)
  | .choice .activity activity => some (.known s.unit fun u => u.activity == activity)
  | .measure .moveFragments least => some (.known s.unit fun u => u.movesLeft ≥ least.toInt)
  | .measure .hitPoints least => some (.known s.unit fun u => u.hitPoints ≥ least.toInt)
  | .measure .age least => ageTruth? s r.scope least.toInt
  | .measure .year least => some (.known s.world fun w => w.info.year ≥ least.toInt)
  | .measure .calendarFragment least =>
      some (.known s.world fun w => w.info.calendarFragment ≥ least.toInt)
  | .choice .topology flag => some (.known s.world fun w => w.map.geometry.topology.has flag)
  | .entity .serverSetting setting =>
      some (.known s.world fun w => w.info.settingEnabled rs setting)

namespace Requirement

/-- The answer, if there is a way to judge the requirement in its scope. -/
def eval? (rs : Ruleset) (r : Requirement) (s : Situation) : Option Truth :=
  if r.scopeIsLegal then judge? rs r s else none

def eval (rs : Ruleset) (r : Requirement) (s : Situation) : Truth :=
  (r.eval? rs s).getD .maybe

/-- The past asked about where no history is kept. -/
structure Misuse where
  kind : FactKind
  scope : Scope
  deriving DecidableEq

def Misuse.message (m : Misuse) : String :=
  let kind := Vocabulary.word m.kind
  let scope := Vocabulary.word m.scope
  s!"'survives' evaluated for {kind} at {scope} range"

/-- Is the requirement met?  The invalid one never is. -/
def isMet (rs : Ruleset) (r : Requirement) (s : Situation) (reading : Reading) :
    Except Misuse Bool :=
  if r.isInvalid then .ok false
  else if !r.survivesIsLegal then .error ⟨r.kind, r.scope⟩
  else .ok ((r.eval rs s).meets r.present reading)

/-- Are all requirements met?  They are asked in order, up to the first that is not. -/
def areMet (rs : Ruleset) (reqs : List Requirement) (s : Situation) (reading : Reading) :
    Except Misuse Bool :=
  match reqs with
  | [] => .ok true
  | r :: reqs =>
      match r.isMet rs s reading with
      | .error m => .error m
      | .ok false => .ok false
      | .ok true => areMet rs reqs s reading

end Requirement

/-! ## Reporting what cannot be judged -/

/-- The kinds and scopes without meaning that have come up, each to be reported once. -/
structure Unjudged where
  seen : List (FactKind × Scope) := []

/-- Judges a requirement and takes note if there is no way to; says whether that is news. -/
def Unjudged.note (u : Unjudged) (rs : Ruleset) (r : Requirement) (s : Situation) :
    Bool × Unjudged :=
  if (r.eval? rs s).isSome || u.seen.contains (r.kind, r.scope) then (false, u)
  else (true, ⟨(r.kind, r.scope) :: u.seen⟩)

end Rulebook
