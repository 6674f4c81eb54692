import Rulebook.Document.Read
import Rulebook.World.Basic

/-!
The state of a game as a document tree: reading it and writing it out.

Identifiers are numbers, members of vocabularies are written by their
identifiers, and tables are keyed by decimal numbers.  A field that is left out
has the default of its type; an identifier out of its range does not fit.
-/

namespace Rulebook

/-! ## Reading -/

namespace Read

def ref {α : Type} : Reader (Ref α) := fun n => (Reader.natBelow 65536 n).map Ref.ofNat

def player : Reader PlayerId := fun n =>
  (Reader.natBelow 256 n).map fun k => ⟨UInt8.ofNat k⟩

def team : Reader TeamId := fun n =>
  (Reader.natBelow 256 n).map fun k => ⟨UInt8.ofNat k⟩

def entity : Reader EntityId := fun n => (Reader.natBelow 18446744073709551616 n).map EntityId.ofNat

def tileIndex : Reader TileIndex := Reader.natBelow 4294967296

def topology : Reader Topology := fun n =>
  (Reader.list Reader.member n).map Topology.ofList

def geometry (n : Node) : Option Geometry := do
  let f ← n.fields? ["width", "height", "topology"]
  return {
    width := ← f.required "width" (Reader.natBelow 4294967296)
    height := ← f.required "height" (Reader.natBelow 4294967296)
    topology := ← f.default "topology" {} topology }

def gameInfo (n : Node) : Option GameInfo := do
  let f ← n.fields? ["turn", "year", "calendar_fragment", "settings"]
  return {
    turn := ← f.required "turn" Reader.int32
    year := ← f.required "year" Reader.int32
    calendarFragment := ← f.default "calendar_fragment" 0 Reader.int32
    settings := ← f.default "settings" [] fun n =>
      (Reader.numbered 65536 Reader.bool n).map (·.map fun (k, v) => (Ref.ofNat k, v)) }

def tile (n : Node) : Option Tile := do
  let f ← n.fields? ["terrain", "extras", "owner", "extras_owner", "worked_by", "city_center",
    "continent", "units"]
  return {
    terrain := ← f.required "terrain" ref
    extras := ← f.default "extras" [] (Reader.list ref)
    owner := ← f.optional "owner" player
    extrasOwner := ← f.optional "extras_owner" player
    workedBy := ← f.optional "worked_by" entity
    cityCenter := ← f.optional "city_center" entity
    continent := ← f.default "continent" 0 Reader.int32
    units := ← f.default "units" [] (Reader.list entity) }

def gameMap (n : Node) : Option GameMap := do
  let f ← n.fields? ["geometry", "tiles"]
  return {
    geometry := ← f.required "geometry" geometry
    tiles := (← f.required "tiles" (Reader.list tile)).toArray }

def diplomacy (n : Node) : Option Diplomacy := do
  let f ← n.fields? ["with", "state", "gives_shared_vision", "has_embassy", "has_casus_belli"]
  return {
    other := ← f.required "with" player
    state := ← f.required "state" Reader.member
    givesVision := ← f.default "gives_shared_vision" false Reader.bool
    hasEmbassy := ← f.default "has_embassy" false Reader.bool
    hasCasusBelli := ← f.default "has_casus_belli" false Reader.bool }

def gamePlayer (n : Node) : Option Player := do
  let f ← n.fields? ["id", "nation", "team", "government", "ai_level", "is_alive", "known_techs",
    "achievements", "culture", "birth_turn", "diplomacy", "ever_built"]
  return {
    id := ← f.required "id" player
    nation := ← f.required "nation" ref
    team := ← f.required "team" team
    government := ← f.required "government" ref
    aiLevel := ← f.optional "ai_level" Reader.member
    isAlive := ← f.default "is_alive" true Reader.bool
    knownTechs := ← f.default "known_techs" [] (Reader.list ref)
    achievements := ← f.default "achievements" [] (Reader.list ref)
    culture := ← f.default "culture" 0 Reader.int32
    birthTurn := ← f.default "birth_turn" 0 Reader.int32
    diplomacy := ← f.default "diplomacy" [] (Reader.list diplomacy)
    everBuilt := ← f.default "ever_built" [] (Reader.list ref) }

def mood (n : Node) : Option CityMood := do
  let f ← n.fields? ["starved", "disorder", "celebration"]
  return {
    starved := ← f.default "starved" false Reader.bool
    disorder := ← f.default "disorder" false Reader.bool
    celebration := ← f.default "celebration" false Reader.bool }

def city (n : Node) : Option City := do
  let f ← n.fields? ["id", "name", "owner", "original_owner", "tile", "size", "radius_sq",
    "buildings", "trade_partners", "goods", "citizens", "culture", "founded_turn", "status",
    "specialists"]
  return {
    id := ← f.required "id" entity
    name := ← f.default "name" "" Reader.text
    owner := ← f.required "owner" player
    originalOwner := ← f.required "original_owner" player
    tile := ← f.required "tile" tileIndex
    size := ← f.required "size" Reader.int32
    radiusSq := ← f.default "radius_sq" 5 Reader.int32
    buildings := ← f.default "buildings" [] (Reader.list ref)
    tradePartners := ← f.default "trade_partners" [] (Reader.list entity)
    goods := ← f.default "goods" [] (Reader.list ref)
    citizens := ← f.default "citizens" [] fun n =>
      (Reader.numbered 256 Reader.int32 n).map (·.map fun (k, v) => (⟨UInt8.ofNat k⟩, v))
    culture := ← f.default "culture" 0 Reader.int32
    foundedTurn := ← f.default "founded_turn" 0 Reader.int32
    mood := ← f.default "status" {} mood
    specialists := ← f.default "specialists" [] fun n =>
      (Reader.numbered 65536 Reader.int32 n).map (·.map fun (k, v) => (Ref.ofNat k, v)) }

def gameUnit (n : Node) : Option GameUnit := do
  let f ← n.fields? ["id", "owner", "unit_type", "veteran", "moves_left", "hp", "activity", "tile",
    "homecity", "transported_by", "transporting", "birth_turn"]
  return {
    id := ← f.required "id" entity
    owner := ← f.required "owner" player
    unitType := ← f.required "unit_type" ref
    veteran := ← f.default "veteran" 0 fun n => (Reader.natBelow 256 n).map UInt8.ofNat
    movesLeft := ← f.required "moves_left" Reader.int32
    hitPoints := ← f.required "hp" Reader.int32
    activity := ← f.default "activity" .idle Reader.member
    tile := ← f.required "tile" tileIndex
    homeCity := ← f.optional "homecity" entity
    transportedBy := ← f.optional "transported_by" entity
    transporting := ← f.default "transporting" [] (Reader.list entity)
    birthTurn := ← f.default "birth_turn" 0 Reader.int32 }

def history (n : Node) : Option History := do
  let f ← n.fields? ["buildings_built", "techs_ever_known", "nations_ever_in_play"]
  return {
    buildingsBuilt := ← f.default "buildings_built" [] (Reader.list ref)
    techsEverKnown := ← f.default "techs_ever_known" [] (Reader.list ref)
    nationsEverInPlay := ← f.default "nations_ever_in_play" [] (Reader.list ref) }

def worldWith (map : Reader GameMap) (n : Node) : Option World := do
  let f ← n.fields? ["info", "map", "players", "cities", "units", "history"]
  return {
    info := ← f.required "info" gameInfo
    map := ← f.required "map" map
    players := ← f.default "players" [] (Reader.list gamePlayer)
    cities := ← f.default "cities" [] (Reader.list city)
    units := ← f.default "units" [] (Reader.list gameUnit)
    history := ← f.default "history" {} history }

def world : Reader World := worldWith gameMap

end Read

/-! ## Writing -/

namespace Write

def ref {α : Type} (r : Ref α) : Node := .ofNat r.toNat

def player (p : PlayerId) : Node := .ofNat p.number.toNat

def entity (e : EntityId) : Node := .ofNat e.toNat

def member {α : Type} [Vocabulary α] (a : α) : Node := .text (Vocabulary.identifier a)

def numbered {α : Type} (value : α → Node) (entries : List (Nat × α)) : Node :=
  .record (entries.map fun (k, v) => (Text.ofNat k, value v))

def geometry (g : Geometry) : Node := .record [
  ("width", .ofNat g.width),
  ("height", .ofNat g.height),
  ("topology", .ofList member g.topology.toList)]

def gameInfo (i : GameInfo) : Node := .record [
  ("turn", .integer i.turn),
  ("year", .integer i.year),
  ("calendar_fragment", .integer i.calendarFragment),
  ("settings", numbered .bool (i.settings.map fun (k, v) => (k.toNat, v)))]

def tile (t : Tile) : Node := .record [
  ("terrain", ref t.terrain),
  ("extras", .ofList ref t.extras),
  ("owner", .ofOption player t.owner),
  ("extras_owner", .ofOption player t.extrasOwner),
  ("worked_by", .ofOption entity t.workedBy),
  ("city_center", .ofOption entity t.cityCenter),
  ("continent", .integer t.continent),
  ("units", .ofList entity t.units)]

def gameMap (m : GameMap) : Node := .record [
  ("geometry", geometry m.geometry),
  ("tiles", .ofList tile m.tiles.toList)]

def diplomacy (d : Diplomacy) : Node := .record [
  ("with", player d.other),
  ("state", member d.state),
  ("gives_shared_vision", .bool d.givesVision),
  ("has_embassy", .bool d.hasEmbassy),
  ("has_casus_belli", .bool d.hasCasusBelli)]

def gamePlayer (p : Player) : Node := .record [
  ("id", player p.id),
  ("nation", ref p.nation),
  ("team", .ofNat p.team.number.toNat),
  ("government", ref p.government),
  ("ai_level", .ofOption member p.aiLevel),
  ("is_alive", .bool p.isAlive),
  ("known_techs", .ofList ref p.knownTechs),
  ("achievements", .ofList ref p.achievements),
  ("culture", .integer p.culture),
  ("birth_turn", .integer p.birthTurn),
  ("diplomacy", .ofList diplomacy p.diplomacy),
  ("ever_built", .ofList ref p.everBuilt)]

def mood (m : CityMood) : Node := .record [
  ("starved", .bool m.starved),
  ("disorder", .bool m.disorder),
  ("celebration", .bool m.celebration)]

def city (c : City) : Node := .record [
  ("id", entity c.id),
  ("name", .text c.name),
  ("owner", player c.owner),
  ("original_owner", player c.originalOwner),
  ("tile", .ofNat c.tile),
  ("size", .integer c.size),
  ("radius_sq", .integer c.radiusSq),
  ("buildings", .ofList ref c.buildings),
  ("trade_partners", .ofList entity c.tradePartners),
  ("goods", .ofList ref c.goods),
  ("citizens", numbered .integer (c.citizens.map fun (k, v) => (k.number.toNat, v))),
  ("culture", .integer c.culture),
  ("founded_turn", .integer c.foundedTurn),
  ("status", mood c.mood),
  ("specialists", numbered .integer (c.specialists.map fun (k, v) => (k.toNat, v)))]

def gameUnit (u : GameUnit) : Node := .record [
  ("id", entity u.id),
  ("owner", player u.owner),
  ("unit_type", ref u.unitType),
  ("veteran", .ofNat u.veteran.toNat),
  ("moves_left", .integer u.movesLeft),
  ("hp", .integer u.hitPoints),
  ("activity", member u.activity),
  ("tile", .ofNat u.tile),
  ("homecity", .ofOption entity u.homeCity),
  ("transported_by", .ofOption entity u.transportedBy),
  ("transporting", .ofList entity u.transporting),
  ("birth_turn", .integer u.birthTurn)]

def history (h : History) : Node := .record [
  ("buildings_built", .ofList ref h.buildingsBuilt),
  ("techs_ever_known", .ofList ref h.techsEverKnown),
  ("nations_ever_in_play", .ofList ref h.nationsEverInPlay)]

def world (w : World) : Node := .record [
  ("info", gameInfo w.info),
  ("map", gameMap w.map),
  ("players", .ofList gamePlayer w.players),
  ("cities", .ofList city w.cities),
  ("units", .ofList gameUnit w.units),
  ("history", history w.history)]

end Write

end Rulebook
