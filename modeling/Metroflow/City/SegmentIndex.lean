import Metroflow.City.GrowthTopology
import Metroflow.Lib.Dict
import Metroflow.Lib.SegmentSamples
import Metroflow.Map.RoadLinks

namespace Metroflow.City

open Metroflow.Lib Metroflow.Map

variable {K : Type} [Scalar K]

/-- Uniform-bucket index over growing geometry, for local snap queries. -/
structure Grid (K : Type) where
  cell : K
  cells : Dict (ℤ × ℤ) (List ℕ) := []

namespace Grid

variable (grid : Grid K)

def key (point : PointM K) : ℤ × ℤ :=
  (Scalar.floor (point.1 / grid.cell), Scalar.floor (point.2 / grid.cell))

def itemsAt (cell : ℤ × ℤ) : List ℕ := (grid.cells.get cell).getD []

def add (point : PointM K) (item : ℕ) : Grid K :=
  { grid with
    cells := grid.cells.set (grid.key point) (grid.itemsAt (grid.key point) ++ [item]) }

/-- The whole numbers from `-span` to `span`. -/
def offsets (span : ℤ) : List ℤ :=
  (List.range (2 * span + 1).toNat).map fun index : ℕ => (index : ℤ) - span

def near (point : PointM K) (radius : K) : Finset ℕ :=
  let span := Scalar.ceil (radius / grid.cell)
  let center := grid.key point
  ((offsets span).flatMap fun dx => (offsets span).flatMap fun dy =>
    grid.itemsAt (center.1 + dx, center.2 + dy)).toFinset

end Grid

structure SetOrder where
  walk : Finset ℕ → List ℕ
  mem_walk : ∀ items item, item ∈ walk items ↔ item ∈ items

def SetOrder.ascending : SetOrder where
  walk items := items.sort (· ≤ ·)
  mem_walk _ _ := Finset.mem_sort _

def pointToSegmentDistance (point left right : PointM K) : K :=
  let dx := right.1 - left.1
  let dy := right.2 - left.2
  let span := dx * dx + dy * dy
  if span ≤ 0 then Scalar.hypot (point.1 - left.1) (point.2 - left.2)
  else
    let position := ((point.1 - left.1) * dx + (point.2 - left.2) * dy) / span
    let position := if position < 0 then 0 else position
    let position := if 1 < position then 1 else position
    Scalar.hypot (point.1 - (left.1 + position * dx)) (point.2 - (left.2 + position * dy))

/-- Accumulates grown streets; the grids only accelerate searches. -/
structure Fabric (K : Type) where
  cell : K
  builder : StreetTopologyBuilder K := {}
  nodeGrid : Grid K := { cell }
  streetClass : List RoadClass := []
  segmentGrid : Grid K := { cell }
  indexedSegments : Finset (ℕ × ℕ) := ∅
  segmentRefs : List (ℕ × ℕ) := []
  classGrid : Dict RoadClass (Grid K) := []
  classPoints : Dict RoadClass (List (PointM K × ℕ × K)) := []

namespace Fabric

variable (f : Fabric K)

def pointsOf (streetId : ℕ) : List (PointM K) :=
  (f.builder.nodeIdsOf streetId).map f.builder.pointOf

section Indexing

/-- The points at which a segment is entered into the grid. -/
def samplePoints (left right : PointM K) : List (PointM K) :=
  let half := f.cell * (1 / Scalar.ofInt 2)
  let samples := max (Scalar.trunc (Scalar.dist left right / half) + 1) 2
  Scalar.evenly left right samples.toNat

/-- Enters a segment under a fresh reference, once; callers stay within the street's points. -/
def indexSegment (streetId vertexIndex : ℕ) : Fabric K :=
  if (streetId, vertexIndex) ∈ f.indexedSegments then f
  else
    let points := f.pointsOf streetId
    let left := points.getD vertexIndex (0, 0)
    let right := points.getD (vertexIndex + 1) (0, 0)
    { f with
      indexedSegments := insert (streetId, vertexIndex) f.indexedSegments
      segmentRefs := f.segmentRefs ++ [(streetId, vertexIndex)]
      segmentGrid := (f.samplePoints left right).foldl
        (fun grid point => grid.add point f.segmentRefs.length) f.segmentGrid }

/-- Forgets a street's segments and enters them all again. -/
def reindexStreet (streetId : ℕ) : Fabric K :=
  (List.range ((f.pointsOf streetId).length - 1)).foldl
    (fun f index => f.indexSegment streetId index)
    { f with indexedSegments := f.indexedSegments.filter fun key => key.1 ≠ streetId }

def indexClassSegment (streetId vertexIndex : ℕ) (roadClass : RoadClass) : Fabric K :=
  let known := f.classGrid.get roadClass
  let grid := known.getD { cell := f.cell }
  let entries := if known.isSome then (f.classPoints.get roadClass).getD [] else []
  let points := f.pointsOf streetId
  let left := points.getD vertexIndex (0, 0)
  let right := points.getD (vertexIndex + 1) (0, 0)
  let heading := Scalar.atan2 (right.2 - left.2) (right.1 - left.1)
  { f with
    classGrid := f.classGrid.set roadClass (grid.add right entries.length)
    classPoints := f.classPoints.set roadClass (entries ++ [(right, streetId, heading)]) }

def addNode (point : PointM K) (nodeId : ℕ) : Fabric K :=
  { f with nodeGrid := f.nodeGrid.add point nodeId }

end Indexing

abbrev Op (K : Type) [Scalar K] (α : Type) := Call (TopologyError K) (Fabric K) α

/-- A call of the builder inside the fabric. -/
def onBuilder {α : Type} (op : StreetTopologyBuilder.Op K α) : Op K α := fun f =>
  ((op f.builder).1, { f with builder := (op f.builder).2 })

/-- A call that answers whether it went through; only value errors are caught. -/
def succeeds {α : Type} (op : Op K α) : Op K Bool := fun f =>
  match op f with
  | (.ok _, f') => (.ok true, f')
  | (.error .indexError, f') => (.error .indexError, f')
  | (.error _, f') => (.ok false, f')

def indexLastSegment (streetId : ℕ) : Op K Unit := do
  let length ← Call.query fun f => .ok (f.pointsOf streetId).length
  if length < 2 then return ()
  else do
    Call.change fun f => f.indexSegment streetId (length - 2)
    let roadClass ← Call.query fun f => match f.streetClass[streetId]? with
      | some roadClass => .ok roadClass
      | none => .error .indexError
    Call.change fun f => f.indexClassSegment streetId (length - 2) roadClass

def openStreet (roadClass : RoadClass) (start : PointM K) (startNodeId : Option ℤ) (layer : ℤ) :
    Op K ℕ := do
  let streetId ← onBuilder (StreetTopologyBuilder.openStreet [start] startNodeId layer)
  Call.change fun f => { f with streetClass := f.streetClass ++ [roadClass] }
  let nodeId ← Call.query fun f => match (f.builder.nodeIdsOf streetId).head? with
    | some nodeId => .ok nodeId
    | none => .error .indexError
  Call.change fun f => f.addNode start nodeId
  return streetId

def extend (streetId : ℤ) (point : PointM K) : Op K Unit := do
  let nodeId ← onBuilder (StreetTopologyBuilder.extendStreet streetId point)
  Call.change fun f => f.addNode point nodeId
  indexLastSegment streetId.toNat

def extendToNode (streetId nodeId : ℤ) (maxGapM : K) : Op K Bool := do
  if ← succeeds (onBuilder (StreetTopologyBuilder.extendStreetToNode streetId nodeId maxGapM)) then
    indexLastSegment streetId.toNat
    return true
  else return false

def prependToNode (streetId nodeId : ℤ) (maxGapM : K) : Op K Bool := do
  if ← succeeds (onBuilder (StreetTopologyBuilder.prependStreetToNode streetId nodeId maxGapM)) then
    Call.change fun f => f.reindexStreet streetId.toNat
    return true
  else return false

def splitAtArcLength (streetId : ℤ) (arcLengthM : K) : Op K ℕ :=
  onBuilder (StreetTopologyBuilder.splitAtArcLength streetId arcLengthM)

def bindNodeIntoStreet (streetId nodeId : ℤ) (toleranceM : K) : Op K Bool := do
  let bound ← onBuilder (StreetTopologyBuilder.bindNodeIntoStreet streetId nodeId toleranceM)
  if bound then
    Call.change fun f => f.reindexStreet streetId.toNat
    return bound
  else return bound

def contact (streetId : ℤ) (point : PointM K) (radius : K) : Op K (Option ℕ) := do
  match ← onBuilder (StreetTopologyBuilder.contact streetId point radius) with
  | none => return none
  | some nodeId => do
    Call.change fun f => f.reindexStreet streetId.toNat
    Call.change fun f => f.addNode (f.builder.pointOf nodeId) nodeId
    return some nodeId

/-- A street has a segment from its point of the given index. -/
def Live (key : ℕ × ℕ) : Prop := key.2 + 1 < (f.pointsOf key.1).length

def segmentAt (key : ℕ × ℕ) : PointM K × PointM K :=
  ((f.pointsOf key.1).getD key.2 (0, 0), (f.pointsOf key.1).getD (key.2 + 1) (0, 0))

def distanceTo (point : PointM K) (key : ℕ × ℕ) : K :=
  pointToSegmentDistance point (f.segmentAt key).1 (f.segmentAt key).2

/-- One candidate of the search: a segment of another street at most as far as the best so far. -/
def nearerStreet (point : PointM K) (excludeStreet : ℤ) (best : Option ℕ × K) (key : ℕ) :
    Option ℕ × K :=
  let (streetId, vertexIndex) := f.segmentRefs.getD key (0, 0)
  if (streetId : ℤ) = excludeStreet then best
  else
    let points := f.pointsOf streetId
    if points.length ≤ vertexIndex + 1 then best
    else
      let distance := pointToSegmentDistance point (points.getD vertexIndex (0, 0))
        (points.getD (vertexIndex + 1) (0, 0))
      if distance ≤ best.2 then (some streetId, distance) else best

/-- Which street runs closest to a point, measured to its segments. -/
def nearestContactStreet (order : SetOrder) (point : PointM K) (radius : K) (excludeStreet : ℤ) :
    Option ℕ :=
  ((order.walk (f.segmentGrid.near point radius)).foldl (f.nearerStreet point excludeStreet)
    (none, radius)).1

end Fabric

inductive FabricCall (K : Type) where
  | openStreet (roadClass : RoadClass) (start : PointM K) (startNodeId : Option ℤ) (layer : ℤ)
  | extend (streetId : ℤ) (point : PointM K)
  | extendToNode (streetId nodeId : ℤ) (maxGapM : K)
  | prependToNode (streetId nodeId : ℤ) (maxGapM : K)
  | splitAtArcLength (streetId : ℤ) (arcLengthM : K)
  | bindNodeIntoStreet (streetId nodeId : ℤ) (toleranceM : K)
  | contact (streetId : ℤ) (point : PointM K) (radius : K)

def FabricCall.op : FabricCall K → Fabric.Op K Unit
  | openStreet roadClass start startNodeId layer =>
    (Fabric.openStreet roadClass start startNodeId layer).drop
  | extend streetId point => Fabric.extend streetId point
  | extendToNode streetId nodeId maxGapM => (Fabric.extendToNode streetId nodeId maxGapM).drop
  | prependToNode streetId nodeId maxGapM => (Fabric.prependToNode streetId nodeId maxGapM).drop
  | splitAtArcLength streetId arcLengthM => (Fabric.splitAtArcLength streetId arcLengthM).drop
  | bindNodeIntoStreet streetId nodeId toleranceM =>
    (Fabric.bindNodeIntoStreet streetId nodeId toleranceM).drop
  | contact streetId point radius => (Fabric.contact streetId point radius).drop

def FabricCall.inserts (f : Fabric K) : FabricCall K → Bool
  | splitAtArcLength streetId arcLengthM =>
    match f.builder.splitPlace streetId arcLengthM with
    | .ok (.inside _ _) => true
    | _ => false
  | _ => false

/-- The fabric after some calls, whether each of them returned or raised. -/
def Fabric.after (cell : K) (calls : List (FabricCall K)) : Fabric K :=
  calls.foldl (fun f call => (call.op f).2) { cell }

end Metroflow.City
