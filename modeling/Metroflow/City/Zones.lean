import Metroflow.Lib.Dict
import Metroflow.Lib.Keyed
import Metroflow.Lib.Loops
import Metroflow.Lib.Rounding
import Metroflow.Map.RoadLinks

namespace Metroflow.City

open Metroflow.Lib Metroflow.Map

variable {K : Type} [Scalar K]

inductive ZoneType where
  | residential
  | cbdCommercial
  | industrial
  | mixedUse
  deriving DecidableEq, Repr

namespace ZoneType

def all : List ZoneType := [residential, cbdCommercial, industrial, mixedUse]

theorem mem_all (zoneType : ZoneType) : zoneType ∈ all := by cases zoneType <;> decide

end ZoneType

inductive PoiType where
  | home
  | workplace
  | leisure
  deriving DecidableEq, Repr

/-- Land-use zone with the capacities that demand generation reads. -/
structure Zone (K : Type) where
  zoneId : ℕ
  zoneType : ZoneType
  centroid : PointM K
  populationCapacity : ℤ
  jobCapacity : ℤ
  leisureCapacity : ℤ

def Zone.build (zone : Zone K) : Except String (Zone K) :=
  if zone.populationCapacity < 0 then .error "Zone population_capacity must be >= 0"
  else if zone.jobCapacity < 0 then .error "Zone job_capacity must be >= 0"
  else if zone.leisureCapacity < 0 then .error "Zone leisure_capacity must be >= 0"
  else .ok zone

/-- Point of interest at a node of its zone. -/
structure Poi where
  poiId : ℕ
  zoneId : ℕ
  poiType : PoiType
  nodeId : ℤ
  capacityHint : ℤ
  deriving DecidableEq, Repr

def Poi.build (poi : Poi) : Except String Poi :=
  if poi.capacityHint < 0 then .error "POI capacity_hint must be >= 0" else .ok poi

structure ZoningPlacementResult (K : Type) where
  zones : List (Zone K)
  pois : List Poi
  nodeZoneById : Dict ℤ ℕ
  zoneNodeIds : Dict ℕ (List ℤ)

namespace ZoningPlacementResult

variable (result : ZoningPlacementResult K)

/-- Every node that the zones list, with the last zone that lists it. -/
def inverseFromZoneNodes : Dict ℤ ℕ :=
  result.zoneNodeIds.foldl (fun inverse item =>
    item.2.foldl (fun inverse nodeId => inverse.set nodeId item.1) inverse) []

/-- How often a node is listed by a zone after another zone listed it. -/
def duplicateZoneNodeRefs : ℕ :=
  let refs := result.zoneNodeIds.flatMap fun item => item.2.map fun nodeId => (nodeId, item.1)
  (refs.foldl (fun (state : Dict ℤ ℕ × ℕ) ref =>
    let again := match state.1.get ref.1 with
      | some previous => if previous = ref.2 then 0 else 1
      | none => 0
    (state.1.set ref.1 ref.2, state.2 + again)) ([], 0)).2

def zoneIssues (zoneTypesFree : Bool) : List String :=
  let zoneIds := result.zones.map Zone.zoneId
  (if zoneIds.Nodup then [] else ["duplicate zone_id values"]) ++
  (if (result.pois.map Poi.poiId).Nodup then [] else ["duplicate poi_id values"]) ++
  (if zoneTypesFree ∨ ∀ zoneType ∈ ZoneType.all, zoneType ∈ result.zones.map Zone.zoneType then []
    else ["zones must include all four zone types"]) ++
  (if (∀ zoneId ∈ result.zoneNodeIds.map Prod.fst, zoneId ∈ zoneIds) ∧
      ∀ zoneId ∈ zoneIds, zoneId ∈ result.zoneNodeIds.map Prod.fst then []
    else ["zone_node_ids keys must match zone ids"]) ++
  (result.zoneNodeIds.flatMap fun item => if item.2.Nodup then []
    else [s!"zone_node_ids[{item.1}] contains duplicate node ids"]) ++
  if result.duplicateZoneNodeRefs = 0 then []
  else ["zone_node_ids contains nodes assigned to multiple zones"]

def poiIssues (nodeIds : List ℤ) : List String :=
  result.pois.flatMap fun poi =>
    (if poi.zoneId ∈ result.zones.map Zone.zoneId then []
      else [s!"poi {poi.poiId} references missing zone_id {poi.zoneId}"]) ++
    if poi.nodeId ∈ nodeIds then []
    else [s!"poi {poi.poiId} references missing node_id {poi.nodeId}"]

def mapIssues (nodeIds : List ℤ) : List String :=
  let inverse := result.inverseFromZoneNodes
  (result.nodeZoneById.flatMap fun item =>
    if item.2 ∈ result.zones.map Zone.zoneId then
      if inverse.get item.1 = some item.2 then []
      else [s!"node_zone_by_id / zone_node_ids mismatch for node {item.1} (zone {item.2})"]
    else [s!"node_zone_by_id maps node {item.1} to missing zone_id {item.2}"]) ++
  (inverse.flatMap fun item =>
    if result.nodeZoneById.get item.1 = some item.2 then []
    else [s!"zone_node_ids / node_zone_by_id mismatch for node {item.1} (zone {item.2})"]) ++
  let missing := (nodeIds.filter fun nodeId => result.nodeZoneById.get nodeId = none).dedup
  if missing = [] then [] else [s!"node_zone_by_id missing {missing.length} topology nodes"]

/-- The issues of a placement on a network with the given nodes; none means valid. -/
def validate (nodeIds : List ℤ) (zoneTypesFree : Bool) : List String :=
  result.zoneIssues zoneTypesFree ++ result.poiIssues nodeIds ++ result.mapIssues nodeIds

end ZoningPlacementResult

structure ZoningConfig where
  zoneMixTargets : ZoneType → ℚ
  poiDensityProfile : String

section Plan

def resolvePopulationTarget (populationTarget metadataTarget : Option ℤ) : Except String ℤ :=
  let resolved := populationTarget.getD (metadataTarget.getD 100000)
  if resolved < 1 then .error "population_target must be >= 1" else .ok resolved

def targetZoneCount (populationTarget : ℤ) (nodeCount : ℕ) : ℕ :=
  let target :=
    if 100000 ≤ populationTarget then 24
    else if 50000 ≤ populationTarget then 12
    else if 20000 ≤ populationTarget then 8
    else 4
  max 4 (min target (max 4 nodeCount))

/-- How many zones of each type a large city is to have. -/
def largeCityMix (count : ℤ) : ℤ × ℤ × ℤ × ℤ :=
  let residential := max 8 (roundHalfEven (count * (40 / 100)))
  let industrial := max 2 (roundHalfEven (count * (15 / 100)))
  let mixedUse := max 4 (roundHalfEven (count * (20 / 100)))
  let cbd := count - residential - industrial - mixedUse
  if cbd < 4 then
    let deficit := 4 - cbd
    let take := min deficit (max 0 (residential - 8))
    let residential := residential - take
    let deficit := deficit - take
    let mixedTake := if 0 < deficit then min deficit (max 0 (mixedUse - 4)) else 0
    let mixedUse := mixedUse - mixedTake
    (residential, count - residential - industrial - mixedUse, industrial, mixedUse)
  else (residential, cbd, industrial, mixedUse)

def smallCityMix (count : ℤ) : ℤ × ℤ × ℤ × ℤ :=
  let residential := count / 2
  let industrial := max 1 (count / 8)
  let cbd := max 1 (count / 6)
  let mixedUse := count - residential - industrial - cbd
  if mixedUse < 1 then (max 1 (residential - 1), cbd, industrial, 1)
  else (residential, cbd, industrial, mixedUse)

/-- The types in order, cut to the count or continued with residential zones. -/
def zoneTypeSequence (count : ℕ) (mix : ℤ × ℤ × ℤ × ℤ) : List ZoneType :=
  let (residential, cbd, industrial, mixedUse) := mix
  let sequence :=
    List.replicate residential.toNat ZoneType.residential ++
    List.replicate cbd.toNat ZoneType.cbdCommercial ++
    List.replicate industrial.toNat ZoneType.industrial ++
    List.replicate mixedUse.toNat ZoneType.mixedUse
  (sequence ++ List.replicate (count - sequence.length) ZoneType.residential).take count

def zoneTypesForCount (zoneCount : ℕ) (populationTarget : ℤ) : List ZoneType :=
  zoneTypeSequence (max 4 zoneCount)
    (if 100000 ≤ populationTarget then largeCityMix (max 4 zoneCount : ℕ)
      else smallCityMix (max 4 zoneCount : ℕ))

/-- One pair of numbers comes before another, the first entry deciding unless they are equal. -/
def pairBefore {ι : Type} [LT ι] [DecidableLT ι] (a b : K × ι) : Bool :=
  if a.1 = b.1 then decide (a.2 < b.2) else decide (a.1 < b.1)

def nodeBefore (a b : MapNode K) : Bool :=
  if a.point.1 = b.point.1 then pairBefore (a.point.2, a.nodeId) (b.point.2, b.nodeId)
  else decide (a.point.1 < b.point.1)

/-- Takes the node unless its id was taken. -/
def pick (selected : List (MapNode K)) (node : MapNode K) : List (MapNode K) :=
  if node.nodeId ∈ selected.map MapNode.nodeId then selected else selected ++ [node]

/-- Takes nodes until there are enough. -/
def fill (requested : ℕ) (selected : List (MapNode K)) : List (MapNode K) → List (MapNode K)
  | [] => selected
  | node :: nodes =>
    if node.nodeId ∈ selected.map MapNode.nodeId then fill requested selected nodes
    else if requested ≤ (selected ++ [node]).length then selected ++ [node]
    else fill requested (selected ++ [node]) nodes

def chooseZoneCenters (nodes : List (MapNode K)) (seed : ℤ) (count : ℕ) : List (MapNode K) :=
  let requested := max 4 count
  let ordered := nodes.mergeSort fun a b => !nodeBefore b a
  if ordered.length ≤ requested then ordered
  else
    let stride : K := Scalar.ofInt ordered.length / Scalar.ofInt requested
    let strided := (List.range requested).filterMap fun index : ℕ =>
      let pos := Scalar.trunc ((Scalar.ofInt index + 1 / Scalar.ofInt 2) * stride)
      ordered[(max 0 (min ((ordered.length : ℤ) - 1) pos)).toNat]?
    let selected := strided.foldl pick []
    let rotation := (seed % ordered.length).toNat
    let filled := if selected.length < requested then
        fill requested selected (ordered.drop rotation ++ ordered.take rotation)
      else selected
    filled.take requested

end Plan

section Placement

def zoneCapacitiesForType (zoneType : ZoneType) (share : ℚ) (populationTarget : ℤ) : ℤ × ℤ × ℤ :=
  let base := max 1 (roundHalfEven (populationTarget * share))
  match zoneType with
  | .residential => (base, max 1 (base / 5), max 1 (base / 4))
  | .cbdCommercial => (max 1 (base / 5), base * 2, max 1 (base / 2))
  | .industrial => (max 1 (base / 8), base * 3 / 2, max 1 (base / 6))
  | .mixedUse => (max 1 (base * 8 / 10), max 1 (base * 9 / 10), max 1 (base * 8 / 10))

def distanceSq (a b : PointM K) : K :=
  (a.1 - b.1) * (a.1 - b.1) + (a.2 - b.2) * (a.2 - b.2)

/-- The first of the keys that no later one comes before. -/
def minKey {κ : Type} (before : κ → κ → Bool) : List κ → Option κ
  | [] => none
  | key :: keys => some (keys.foldl (fun best key => if before key best then key else best) key)

def nearestZoneId (node : MapNode K) (centers : Dict ℕ (PointM K)) : Option ℕ :=
  (minKey (fun a b : ℕ × PointM K =>
    pairBefore (distanceSq node.point a.2, a.1) (distanceSq node.point b.2, b.1)) centers).map
      Prod.fst

/-- The zones of the nodes, by node and by zone. -/
structure Assignment where
  nodeZoneById : Dict ℤ ℕ
  zoneNodeLists : Dict ℕ (List ℤ)

namespace Assignment

def listed (s : Assignment) (zoneId : ℕ) : List ℤ := (s.zoneNodeLists.get zoneId).getD []

def place (s : Assignment) (nodeId : ℤ) (zoneId : ℕ) : Assignment where
  nodeZoneById := s.nodeZoneById.set nodeId zoneId
  zoneNodeLists := s.zoneNodeLists.set zoneId (s.listed zoneId ++ [nodeId])

def withdraw (s : Assignment) (nodeId : ℤ) : Assignment :=
  match s.nodeZoneById.get nodeId with
  | some previous =>
    if nodeId ∈ s.listed previous then
      { s with zoneNodeLists :=
          s.zoneNodeLists.set previous ((s.listed previous).erase nodeId) }
    else s
  | none => s

def anchor (s : Assignment) (zoneId : ℕ) (centerNodeId : ℤ) : Assignment :=
  if centerNodeId ∈ s.listed zoneId then s else (s.withdraw centerNodeId).place centerNodeId zoneId

end Assignment

def assignNodes (nodes : List (MapNode K)) (centers : Dict ℕ (PointM K)) (s : Assignment) :
    Except String Assignment :=
  nodes.foldlM (fun s node => match nearestZoneId node centers with
    | some zoneId => .ok (s.place node.nodeId zoneId)
    | none => .error "min() iterable argument is empty") s

def poiMixForZone (zoneType : ZoneType) (multiplier : ℕ) : List (PoiType × ℕ) :=
  match zoneType with
  | .residential => [(.home, 3 * multiplier), (.leisure, 1 * multiplier), (.workplace, 1)]
  | .cbdCommercial => [(.workplace, 4 * multiplier), (.leisure, 2 * multiplier), (.home, 1)]
  | .industrial => [(.workplace, 3 * multiplier), (.leisure, 1), (.home, 1)]
  | .mixedUse => [(.home, 2 * multiplier), (.workplace, 2 * multiplier), (.leisure, 2 * multiplier)]

def poiCapacityHint (zone : Zone K) : PoiType → ℤ
  | .home => max 1 (zone.populationCapacity / 10)
  | .workplace => max 1 (zone.jobCapacity / 10)
  | .leisure => max 1 (zone.leisureCapacity / 10)

def poiMultiplier (density : String) : ℕ :=
  if density = "sparse" then 1 else if density = "baseline" then 2
  else if density = "dense" then 3 else 2

def targetPoiCountByPopulation (populationTarget : ℤ) (densityProfile : String) : ℤ :=
  let base := max 24 (populationTarget / 20)
  let factor : ℚ :=
    if densityProfile = "dense" then 1
    else if densityProfile = "sparse" then 45 / 100
    else 7 / 10
  max 24 (roundHalfEven (base * factor))

/-- Every third point of a kind stands at the zone's center, the others at its nodes in turn;
`turn` is the place of the next node. -/
def nextPoiNode (anchors : List ℤ) (centerNodeId : Option ℤ) (turn index : ℕ) : ℤ × ℕ :=
  match centerNodeId, index % 3 with
  | some center, 0 => (center, turn)
  | _, _ => (anchors.getD turn 0, (turn + 1) % anchors.length)

/-- The points of interest of a zone, numbered on from the given id. -/
def placePois (zone : Zone K) (anchors : List ℤ) (centerNodeId : Option ℤ) :
    ℕ → ℕ → List (PoiType × ℕ) → Except String (List Poi)
  | _, _, [] => .ok []
  | poiId, turn, (poiType, index) :: slots => do
    let next := nextPoiNode anchors centerNodeId turn index
    let poi ← Poi.build ⟨poiId, zone.zoneId, poiType, next.1, poiCapacityHint zone poiType⟩
    let pois ← placePois zone anchors centerNodeId (poiId + 1) next.2 slots
    return poi :: pois

/-- The points of interest of the zones, numbered on from the given id. -/
def placeZonePois (zoneNodeIds : Dict ℕ (List ℤ)) (centerNodeIdByZone : Dict ℕ ℤ)
    (multiplier scaling seedOffset : ℕ) : ℕ → List (Zone K) → Except String (List Poi)
  | _, [] => .ok []
  | poiId, zone :: zones => do
    match (zoneNodeIds.get zone.zoneId).getD [] with
    | [] => placeZonePois zoneNodeIds centerNodeIdByZone multiplier scaling seedOffset poiId zones
    | first :: rest =>
      let anchors := first :: rest
      let slots := (poiMixForZone zone.zoneType multiplier).flatMap fun (poiType, count) =>
        (List.range (max 1 (count * scaling))).map fun index => (poiType, index)
      let here ← placePois zone anchors (centerNodeIdByZone.get zone.zoneId) poiId
        ((seedOffset + zone.zoneId) % anchors.length) slots
      let others ← placeZonePois zoneNodeIds centerNodeIdByZone multiplier scaling seedOffset
        (poiId + here.length) zones
      return here ++ others

def generatePois (zones : List (Zone K)) (zoneNodeIds : Dict ℕ (List ℤ))
    (centerNodeIdByZone : Dict ℕ ℤ) (poiDensityProfile : String) (seed populationTarget : ℤ) :
    Except String (List Poi) :=
  let density := poiDensityProfile.toLower
  let multiplier := poiMultiplier density
  let target := targetPoiCountByPopulation populationTarget density
  let baseMixTotal := (zones.map fun zone =>
    ((poiMixForZone zone.zoneType multiplier).map Prod.snd).sum).sum
  let scaling := max 1 (roundHalfEven ((target : ℚ) / max 1 baseMixTotal))
  placeZonePois zoneNodeIds centerNodeIdByZone multiplier scaling.toNat (seed % 7).toNat 1 zones

/-- The zones, numbered from 1, each with the share that its type's zones divide equally. -/
def buildZones (mix : ZoneType → ℚ) (populationTarget : ℤ) (zoneTypes : List ZoneType)
    (centers : List (MapNode K)) : Except String (List (Zone K)) :=
  if zoneTypes.length ≠ centers.length then .error "zip() arguments have different lengths"
  else
    ((zoneTypes.zip centers).zipIdx 1).mapM fun ((zoneType, center), zoneId) =>
      let share := mix zoneType / max 1 (zoneTypes.count zoneType)
      let (population, jobs, leisure) := zoneCapacitiesForType zoneType share populationTarget
      Zone.build ⟨zoneId, zoneType, center.point, population, jobs, leisure⟩

/-- Zones and points of interest of a network, in the legacy mode. -/
def generateZonesAndPois (nodes : List (MapNode K)) (config : ZoningConfig) (seed : ℤ)
    (populationTarget metadataTarget : Option ℤ) (validate : Bool) :
    Except String (ZoningPlacementResult K) := do
  if nodes = [] then .error "topology.nodes must not be empty"
  else if nodes.length < 4 then
    .error "topology.nodes must contain at least 4 nodes for zone placement"
  else do
    let population ← resolvePopulationTarget populationTarget metadataTarget
    let count := targetZoneCount population nodes.length
    let zoneTypes := zoneTypesForCount count population
    let nodeById : Dict ℤ (MapNode K) := Dict.update [] (nodes.map fun node => (node.nodeId, node))
    let centers := (chooseZoneCenters nodes seed count).map fun center =>
      (nodeById.get center.nodeId).getD center
    let zones ← buildZones config.zoneMixTargets population zoneTypes centers
    let start : Assignment := ⟨[], zones.map fun zone => (zone.zoneId, [])⟩
    let assigned ← assignNodes nodes (zones.map fun zone => (zone.zoneId, zone.centroid)) start
    let anchored := (zones.zip centers).foldl
      (fun s item => s.anchor item.1.zoneId item.2.nodeId) assigned
    let zoneNodeIds := anchored.zoneNodeLists.map fun item => (item.1, item.2.mergeSort)
    let centerNodeIds := (zones.zip centers).map fun item => (item.1.zoneId, item.2.nodeId)
    let pois ← generatePois zones zoneNodeIds centerNodeIds config.poiDensityProfile seed population
    let result : ZoningPlacementResult K := ⟨zones, pois, anchored.nodeZoneById, zoneNodeIds⟩
    if validate ∧ result.validate (nodes.map MapNode.nodeId) false ≠ [] then
      .error ("Invalid zoning/POI placement: " ++
        "; ".intercalate (result.validate (nodes.map MapNode.nodeId) false))
    else return result

end Placement

end Metroflow.City
