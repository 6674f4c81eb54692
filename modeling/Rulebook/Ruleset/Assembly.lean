import Rulebook.Ruleset.Basic
import Rulebook.Ruleset.Draft

/-!
From a draft to a ruleset: every name that an entry mentions is looked up, and
what does not answer to one of the declared names is reported.

Tables that others refer to are assembled first, so a reference always points
into a table that is complete.  The first fault in the order of assembly is the
one reported.
-/

namespace Rulebook

namespace Ruleset

inductive LoadError where
  | unreadable
  | missing (name : String)
  | unknownFlag (kind : FlagKind) (flag : String)
  | tooMany (entries : String)
  deriving DecidableEq, Repr

def flagBearer : FlagKind → String
  | .tech => "tech"
  | .terrain => "terrain"
  | .unitType => "unit type"
  | .unitClass => "unit class"
  | .extra => "extra"
  | .base => "base"
  | .road => "road"

def LoadError.message : LoadError → String
  | .unreadable => "yaml parse error"
  | .missing name => s!"missing referenced id: {name}"
  | .unknownFlag kind flag =>
      let bearer := flagBearer kind
      s!"unknown {bearer} flag: {flag}"
  | .tooMany entries => s!"too many {entries} entries"

def tableLimit : Nat := 65535

def flagsNamed {kind : FlagKind} (declared : FlagList kind) (names : List String) :
    Except LoadError (List (Flag kind)) :=
  names.mapM fun name => match declared.find? name with
    | some flag => .ok flag
    | none => .error (.unknownFlag kind name)

def refNamed {α : Type} [Titled α] (table : Table α) (name : String) :
    Except LoadError (Ref α) :=
  match table.find? name with
  | some ref => .ok ref
  | none => .error (.missing name)

def refsNamed {α : Type} [Titled α] (table : Table α) (names : List String) :
    Except LoadError (List (Ref α)) :=
  names.mapM (refNamed table)

def tableOf {α β : Type} (what : String) (entries : Draft.Entries β)
    (build : Title → β → Except LoadError α) : Except LoadError (Table α) :=
  if entries.length > tableLimit then .error (.tooMany what)
  else do
    let built ← entries.mapM fun (name, e) =>
      build { name, label := e.label.getD name } e.content
    return ⟨built⟩

def declaredFlags (d : Draft) : (kind : FlagKind) → FlagList kind
  | .tech => ⟨d.techs.techFlags⟩
  | .terrain => ⟨d.terrain.terrainFlags⟩
  | .unitType => ⟨d.units.unitTypeFlags⟩
  | .unitClass => ⟨d.units.unitClassFlags⟩
  | .extra => ⟨d.terrain.extraFlags⟩
  | .base => ⟨d.terrain.baseFlags⟩
  | .road => ⟨d.terrain.roadFlags⟩

def ofDraft (d : Draft) : Except LoadError Ruleset := do
  let flags := declaredFlags d
  let governments ← tableOf "government" d.game.governments fun title _ => .ok { title with }
  let nationGroups ← tableOf "nation group" d.game.nationGroups fun title _ => .ok { title with }
  let actions ← tableOf "action" d.game.actions fun title _ => .ok { title with }
  let goods ← tableOf "good" d.cities.goods fun title _ => .ok { title with }
  let specialists ← tableOf "specialist" d.cities.specialists fun title _ => .ok { title with }
  let achievements ← tableOf "achievement" d.game.achievements fun title unique =>
    .ok { title with unique }
  let serverSettings ← tableOf "server setting" d.game.serverSettings fun title default =>
    .ok { title with default }
  let buildings ← tableOf "building" d.cities.buildings fun title genus =>
    .ok { title with genus }
  let techs ← tableOf "tech" d.techs.techs fun title named => do
    return { title with flags := ← flagsNamed (flags .tech) named }
  let unitClasses ← tableOf "unit class" d.units.unitClasses fun title named => do
    return { title with flags := ← flagsNamed (flags .unitClass) named }
  let unitTypes ← tableOf "unit type" d.units.unitTypes fun title u => do
    return { title with
      unitClass := ← refNamed unitClasses u.unitClass
      flags := ← flagsNamed (flags .unitType) u.flags
      veteranLevels := max u.veteranLevels 1
      hitPoints := max u.hitPoints 1
      moveRate := max u.moveRate 0 }
  let terrains ← tableOf "terrain" d.terrain.terrains fun title t => do
    return { title with
      terrainClass := t.terrainClass
      flags := ← flagsNamed (flags .terrain) t.flags
      alterations := t.alterations
      nativeTo := ← refsNamed unitClasses t.nativeTo }
  let extras ← tableOf "extra" d.terrain.extras fun title e => do
    return { title with
      flags := ← flagsNamed (flags .extra) e.flags
      baseFlags := ← flagsNamed (flags .base) e.baseFlags
      roadFlags := ← flagsNamed (flags .road) e.roadFlags }
  let nations ← tableOf "nation" d.game.nations fun title named => do
    return { title with groups := ← refsNamed nationGroups named }
  return {
    name := d.game.name.getD "unnamed"
    techs, governments, achievements, buildings, extras, goods, terrains, nations, nationGroups,
    unitClasses, unitTypes, actions, specialists, serverSettings, flags }

def ofSources (s : Draft.Sources) : Except LoadError Ruleset :=
  match Draft.ofSources? s with
  | none => .error .unreadable
  | some d => ofDraft d

end Ruleset

end Rulebook
