import Metroflow.Lib.Cuts
import Metroflow.Map.OsmTags

namespace Metroflow.Map.Osm

open Metroflow.Lib

variable {K : Type} [Scalar K]

structure Way where
  sourceId : ℤ
  nodeRefs : List ℤ
  tags : Tags

structure ClipBounds (K : Type) where
  minX : K
  minY : K
  maxX : K
  maxY : K

/-- Import controls; the fields keep what the constructor checks. -/
structure ImportConfig (K : Type) [Scalar K] where
  simplifyToleranceM : K
  clipBoundsM : Option (ClipBounds K)
  capacityVehPerLanePerTick : K
  laneTaggingPolicy : String
  policy_known : laneTaggingPolicy ∈ ["osm_wiki", "strict"]
  tolerance_nonneg : ¬ simplifyToleranceM < 0
  capacity_pos : ¬ capacityVehPerLanePerTick ≤ 0

def ImportConfig.build (simplifyToleranceM : K) (clipBoundsM : Option (ClipBounds K))
    (capacityVehPerLanePerTick : K) (laneTaggingPolicy : String) :
    Except String (ImportConfig K) :=
  if policy : laneTaggingPolicy ∈ ["osm_wiki", "strict"] then
    if tolerance : Scalar.isfinite simplifyToleranceM = false ∨ simplifyToleranceM < 0 then
      .error "simplify_tolerance_m must be finite and >= 0"
    else if capacity : Scalar.isfinite capacityVehPerLanePerTick = false ∨
        capacityVehPerLanePerTick ≤ 0 then
      .error "capacity_veh_per_lane_per_tick must be finite and > 0"
    else
      match clipBoundsM with
      | some bounds =>
        if [bounds.minX, bounds.minY, bounds.maxX, bounds.maxY].any fun x => !Scalar.isfinite x then
          .error "clip_bounds_m values must be finite"
        else if bounds.maxX ≤ bounds.minX ∨ bounds.maxY ≤ bounds.minY then
          .error "clip_bounds_m must satisfy min < max"
        else .ok ⟨simplifyToleranceM, some bounds, capacityVehPerLanePerTick, laneTaggingPolicy,
          policy, fun low => tolerance (.inr low), fun low => capacity (.inr low)⟩
      | none => .ok ⟨simplifyToleranceM, none, capacityVehPerLanePerTick, laneTaggingPolicy, policy,
          fun low => tolerance (.inr low), fun low => capacity (.inr low)⟩
  else .error "lane_tagging_policy must be one of ['osm_wiki', 'strict']"

section Geometry

/-- Equal, or as close as a billionth of the larger number or of a metre. -/
def isClose (a b : K) : Prop :=
  let fine : K := 1 / Scalar.ofInt 1000000000
  a = b ∨ Scalar.isfinite a = true ∧ Scalar.isfinite b = true ∧
    (Scalar.abs (b - a) ≤ Scalar.abs (fine * b) ∨ Scalar.abs (b - a) ≤ Scalar.abs (fine * a) ∨
      Scalar.abs (b - a) ≤ fine)

instance (a b : K) : Decidable (isClose a b) := by
  unfold isClose
  infer_instance

def pointsClose (left right : PointM K) : Prop :=
  isClose left.1 right.1 ∧ isClose left.2 right.2

instance (left right : PointM K) : Decidable (pointsClose left right) :=
  inferInstanceAs (Decidable (_ ∧ _))

def pointToSegmentDistance (point start stop : PointM K) : K :=
  let dx := stop.1 - start.1
  let dy := stop.2 - start.2
  let denominator := dx * dx + dy * dy
  if denominator ≤ 0 then Scalar.hypot (point.1 - start.1) (point.2 - start.2)
  else
    let ratio := ((point.1 - start.1) * dx + (point.2 - start.2) * dy) / denominator
    let ratio := if ratio < 1 then ratio else 1
    let ratio := if 0 < ratio then ratio else 0
    Scalar.hypot (point.1 - (start.1 + ratio * dx)) (point.2 - (start.2 + ratio * dy))

/-- The inner point farthest from the line between the ends, the first of equally far ones;
place 0 says that none was farther than `-1`. -/
def farthest (start stop : PointM K) (points : List (PointM K)) : ℕ × K :=
  (points.tail.dropLast.zipIdx 1).foldl (fun best item =>
    let distance := pointToSegmentDistance item.1 start stop
    if best.2 < distance then (item.2, distance) else best) (0, -1)

def simplifyPolyline (toleranceM : K) (points : List (PointM K)) : List (PointM K) :=
  if toleranceM ≤ 0 ∨ points.length ≤ 2 then points
  else
    let start := points.headD (0, 0)
    let stop := points.getLastD (0, 0)
    let best := farthest start stop points
    if best.2 ≤ toleranceM then [start, stop]
    else if _inside : 0 < best.1 ∧ best.1 + 1 < points.length then
      (simplifyPolyline toleranceM (points.take (best.1 + 1))).dropLast ++
        simplifyPolyline toleranceM (points.drop best.1)
    -- the slices at place `-1`: nothing, and the last point
    else [stop]
termination_by points.length
decreasing_by
  · rw [List.length_take]
    exact (min_le_left _ _).trans_lt _inside.2
  · rw [List.length_drop]
    exact Nat.sub_lt (Nat.zero_lt_of_lt _inside.2) _inside.1

/-- One of the four half planes of a clip: where the segment enters or leaves it. -/
def clipRatio (bounds : Option (K × K)) (p q : K) : Option (K × K) :=
  match bounds with
  | none => none
  | some (lower, upper) =>
    if p = 0 then if q < 0 then none else some (lower, upper)
    else
      let ratio := q / p
      let lower := if p < 0 then if lower < ratio then ratio else lower else lower
      let upper := if p < 0 then upper else if ratio < upper then ratio else upper
      if upper < lower then none else some (lower, upper)

def clipSegment (start stop : PointM K) (bounds : ClipBounds K) : Option (PointM K × PointM K) :=
  let dx := stop.1 - start.1
  let dy := stop.2 - start.2
  let planes := [(-dx, start.1 - bounds.minX), (dx, bounds.maxX - start.1),
    (-dy, start.2 - bounds.minY), (dy, bounds.maxY - start.2)]
  (planes.foldl (fun kept plane => clipRatio kept plane.1 plane.2) (some (0, 1))).map
    fun (lower, upper) => ((start.1 + lower * dx, start.2 + lower * dy),
      (start.1 + upper * dx, start.2 + upper * dy))

def removeConsecutiveDuplicates (points : List (PointM K)) : List (PointM K) :=
  points.foldl (fun out point => match out.getLast? with
    | some last => if pointsClose last point then out else out ++ [point]
    | none => [point]) []

/-- The stretches of a line inside the bounds. -/
def clipPolyline (points : List (PointM K)) : Option (ClipBounds K) → List (List (PointM K))
  | none => [points]
  | some bounds =>
    let close (fragments : List (List (PointM K))) (current : List (PointM K)) :=
      if 2 ≤ current.length then fragments ++ [current] else fragments
    let walked := (walkSteps points).foldl (fun state step =>
      match clipSegment step.1 step.2 bounds with
      | none => (close state.1 state.2, [])
      | some (start, stop) =>
        match state.2.getLast? with
        | some last =>
          if pointsClose last start then
            (state.1, if pointsClose last stop then state.2 else state.2 ++ [stop])
          else (close state.1 state.2, [start, stop])
        | none => (close state.1 state.2, [start, stop]))
      (([], []) : List (List (PointM K)) × List (PointM K))
    (close walked.1 walked.2).map removeConsecutiveDuplicates

end Geometry

section Pieces

/-- Every node reference of the ways, in order. -/
def occurrences (ways : List Way) : List ℤ := ways.flatMap Way.nodeRefs

/-- Whether more than one way passes a node, or one way does twice. -/
def isShared (ways : List Way) (nodeId : ℤ) : Bool :=
  decide (1 < ((ways.filter fun way => nodeId ∈ way.nodeRefs).map Way.sourceId).dedup.length ∨
    1 < (occurrences ways).count nodeId)

/-- The places where a way is cut: all of a closed way, else its ends and its shared nodes. -/
def splitIndices (shared : ℤ → Bool) (refs : List ℤ) : List ℕ :=
  if refs.head? = refs.getLast? then List.range refs.length
  else
    0 :: (((refs.tail.dropLast.zipIdx 1).filter fun item => shared item.1).map Prod.snd ++
      [refs.length - 1])

/-- The stretches between consecutive cut places, both ends included. -/
def slices {α : Type} (entries : List α) (indices : List ℕ) : List (List α) :=
  (walkSteps indices).map fun step => (entries.take (step.2 + 1)).drop step.1

def splitPieces (shared : ℤ → Bool) (refs : List ℤ) : List (List ℤ) :=
  slices refs (splitIndices shared refs)

def validateWayNodeReferences (known : ℤ → Bool) (ways : List Way) : Except String Unit :=
  ways.forM fun way =>
    if way.nodeRefs.length < 2 then
      .error s!"OSM way {way.sourceId} must reference at least two nodes"
    else
      match way.nodeRefs.find? fun nodeId => !known nodeId with
      | some nodeId => .error s!"OSM way {way.sourceId} has missing node reference {nodeId}"
      | none =>
        if ∃ step ∈ walkSteps way.nodeRefs, step.1 = step.2 then
          .error s!"OSM way {way.sourceId} contains consecutive duplicate node refs"
        else .ok ()

end Pieces

/-- What makes two ends of segments the same node. -/
inductive NodeIdentity where
  | osm (sourceId : ℤ)
  | clip (wayId : ℤ) (partIndex fragmentIndex : ℕ) (atStart : Bool)
  deriving DecidableEq, Repr

structure PhysicalSegment (K : Type) where
  sourceWayId : ℤ
  partIndex : ℕ
  fragmentIndex : ℕ
  pointsM : List (PointM K)
  roadClass : RoadClass
  lanesForward : ℤ
  lanesBackward : ℤ
  speedMps : K
  layer : ℤ
  startNodeIdentity : NodeIdentity
  endNodeIdentity : NodeIdentity

section Segments

variable (config : ImportConfig K) (projected : Dict ℤ (PointM K))

def pieceSegments (way : Way) (attributes : WayAttributes K) (partIndex : ℕ) (piece : List ℤ) :
    Except String (List (PhysicalSegment K)) := do
  let points ← piece.mapM fun nodeId => match projected.get nodeId with
    | some point => .ok point
    | none => .error s!"{nodeId}"
  if ∃ step ∈ walkSteps points, pointsClose step.1 step.2 then
    .error s!"OSM way {way.sourceId} contains a zero-length source edge"
  else
    let (points, piece) :=
      if attributes.oneway = .reverse then (points.reverse, piece.reverse) else (points, piece)
    let fragments := (clipPolyline points config.clipBoundsM).zipIdx
    return fragments.filterMap fun (fragment, fragmentIndex) =>
      let simplified := simplifyPolyline config.simplifyToleranceM fragment
      if simplified.length < 2 ∨ Scalar.pathLength simplified ≤ 0 then none
      else
        let identity (ours theirs : Option (PointM K)) (nodeId : ℤ) (atStart : Bool) :=
          match ours, theirs with
          | some ours, some theirs =>
            if pointsClose ours theirs then NodeIdentity.osm nodeId
            else .clip way.sourceId partIndex fragmentIndex atStart
          | _, _ => .clip way.sourceId partIndex fragmentIndex atStart
        some {
          sourceWayId := way.sourceId
          partIndex, fragmentIndex
          pointsM := simplified
          roadClass := attributes.roadClass
          lanesForward := attributes.lanes.forward
          lanesBackward := attributes.lanes.backward
          speedMps := attributes.speedMps
          layer := attributes.layer
          startNodeIdentity := identity simplified.head? points.head? (piece.headD 0) true
          endNodeIdentity := identity simplified.getLast? points.getLast? (piece.getLastD 0) false }

variable (readFloat : String → Option K)

def waySegments (shared : ℤ → Bool) (way : Way) : Except String (List (PhysicalSegment K)) := do
  let attributes ← readAttributes readFloat config.laneTaggingPolicy way.tags
  let parts ← ((splitPieces shared way.nodeRefs).zipIdx).mapM fun (piece, partIndex) =>
    pieceSegments config projected way attributes partIndex piece
  return parts.flatten

def buildPhysicalSegments (ways : List Way) : Except String (List (PhysicalSegment K)) := do
  let segments ← ways.mapM (waySegments config projected readFloat (isShared ways))
  return segments.flatten

end Segments

structure TypedTopology (K : Type) [Scalar K] where
  nodes : List (MapNode K) := []
  links : List (RoadLinkRecord K) := []
  centerlines : List (RoadCenterline K) := []
  assignments : List LinkGeometryAssignment := []

/-- The compiler's state: the topology so far, and the node of each identity. -/
structure Compilation (K : Type) [Scalar K] extends TypedTopology K where
  nodeIdByIdentity : Dict NodeIdentity ℕ := []

namespace Compilation

def nodeIdFor (s : Compilation K) (identity : NodeIdentity) (point : PointM K) :
    Except String (ℕ × Compilation K) :=
  match s.nodeIdByIdentity.get identity with
  | some existing =>
    match s.nodes[existing]? with
    | some node =>
      if pointsClose node.point point then .ok (existing, s)
      else .error "one OSM node identity resolved to multiple coordinates"
    | none => .error "list index out of range"
  | none => .ok (s.nodes.length, { s with
      nodes := s.nodes ++ [⟨s.nodes.length, point⟩]
      nodeIdByIdentity := s.nodeIdByIdentity.set identity s.nodes.length })

def addLink (s : Compilation K) (segment : PhysicalSegment K) (geometryId src dst : ℕ)
    (lengthM capacityVehPerLanePerTick : K) (lanes : ℤ) (reversed : Bool) :
    Except String (Compilation K) := do
  if lanes ≤ 0 then return s
  else
    let link ← RoadLinkRecord.build s.links.length src dst segment.roadClass lengthM
      segment.speedMps (Scalar.ofInt lanes * capacityVehPerLanePerTick) lanes geometryId
    let assignment ← LinkGeometryAssignment.build s.links.length geometryId reversed
    return { s with links := s.links ++ [link], assignments := s.assignments ++ [assignment] }

def compileSegment (capacityVehPerLanePerTick : K) (s : Compilation K)
    (item : PhysicalSegment K × ℕ) : Except String (Compilation K) := do
  let segment := item.1
  let geometryId := item.2
  match segment.pointsM.head?, segment.pointsM.getLast? with
  | some first, some last => do
    let (src, s) ← s.nodeIdFor segment.startNodeIdentity first
    let (dst, s) ← s.nodeIdFor segment.endNodeIdentity last
    if src = dst then return s
    else
      let centerline ← RoadCenterline.build geometryId segment.pointsM segment.layer
      let s := { s with centerlines := s.centerlines ++ [centerline] }
      let s ← s.addLink segment geometryId src dst centerline.lengthM capacityVehPerLanePerTick
        segment.lanesForward false
      s.addLink segment geometryId dst src centerline.lengthM capacityVehPerLanePerTick
        segment.lanesBackward true
  | _, _ => .error "tuple index out of range"

end Compilation

def compileTypedTopology (segments : List (PhysicalSegment K)) (capacityVehPerLanePerTick : K) :
    Except String (List (MapNode K) × List (RoadLinkRecord K) × RoadGeometryCatalog K) := do
  let s ← segments.zipIdx.foldlM (Compilation.compileSegment capacityVehPerLanePerTick)
    ({} : Compilation K)
  if s.centerlines.length ≠ segments.length then
    .error "OSM clipping produced a closed physical centerline"
  else
    let geometry ← RoadGeometryCatalog.build s.centerlines s.assignments
    return (s.nodes, s.links, geometry)

/-- The typed topology of the included ways, from their projected nodes. -/
def compileWays (config : ImportConfig K) (projected : Dict ℤ (PointM K))
    (readFloat : String → Option K) (ways : List Way) :
    Except String (List (MapNode K) × List (RoadLinkRecord K) × RoadGeometryCatalog K) := do
  let segments ← buildPhysicalSegments config projected readFloat ways
  if segments = [] then .error "OSM import produced no geometry after clipping"
  else compileTypedTopology segments config.capacityVehPerLanePerTick

end Metroflow.Map.Osm
