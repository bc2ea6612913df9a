import Metroflow.City.ConnectivityRepair
import Metroflow.City.EndpointGeometry
import Metroflow.City.ProperCrossings

namespace Metroflow.City.Planarization

open Metroflow.Lib Metroflow.Map Metroflow.City.Planar

variable {K : Type} [Scalar K]

structure PlanarizationResult (K : Type) [Scalar K] where
  nodes : List (Planar.Node K)
  links : List (Map.RoadLink K)
  oldLinkToNewLinkIds : Dict ℤ (List ℤ)
  properIntersectionCountBefore : ℕ := 0
  properIntersectionCountAfter : ℕ := 0
  addedIntersectionNodeCount : ℤ := 0

def found {κ α : Type} [DecidableEq κ] (d : Dict κ α) (key : κ) : Except String α :=
  match d.get key with
  | some value => .ok value
  | none => .error "KeyError"

section Endpoints

def canonicalEnds (link : Map.RoadLink K) (reversed : Bool) : ℤ × ℤ :=
  if reversed then (link.dstNodeId, link.srcNodeId) else (link.srcNodeId, link.dstNodeId)

def addEndpointPair (linkById : Dict ℤ (Map.RoadLink K)) (out : Dict ℤ (ℤ × ℤ))
    (assignment : LinkGeometryAssignment) : Except String (Dict ℤ (ℤ × ℤ)) := do
  let link ← found linkById assignment.linkId
  let endpointPair := canonicalEnds link assignment.reversed
  raiseIf (∃ existing ∈ out.get assignment.geometryId, existing ≠ endpointPair)
    "geometry assignments disagree on canonical endpoints"
  return out.set assignment.geometryId endpointPair

def geometryEndpointNodeIds (geometry : RoadGeometryCatalog K)
    (linkById : Dict ℤ (Map.RoadLink K)) : Except String (Dict ℤ (ℤ × ℤ)) := do
  let out ← geometry.assignments.foldlM (addEndpointPair linkById) []
  raiseIf (¬∀ centerline ∈ geometry.centerlines, centerline.geometryId ∈ out.map Prod.fst)
    "every centerline must have at least one link assignment"
  return out

/-- A position at an end of a road is moved onto it. -/
def snapEndpointPosition (t : K) (endpointNodeIds : ℤ × ℤ) : K × Option ℤ :=
  if isclose t 0 splitTolerance then (0, some endpointNodeIds.1)
  else if isclose t 1 splitTolerance then (1, some endpointNodeIds.2)
  else (t, none)

end Endpoints

section Coordinates

/-- The order of `(x, y)`. -/
def pointBefore (a b : PointM K) : Bool :=
  if a.1 = b.1 then decide (a.2 < b.2) else decide (a.1 < b.1)

def crossingBefore (a b : Crossing K) : Bool :=
  let place := fun crossing : Crossing K =>
    (roundTo 9 crossing.point.1, roundTo 9 crossing.point.2)
  if place a ≠ place b then pointBefore (place a) (place b)
  else if a.leftGeometryId ≠ b.leftGeometryId then decide (a.leftGeometryId < b.leftGeometryId)
  else decide (a.rightGeometryId < b.rightGeometryId)

/-- A crossing with its snapped positions and the key of its place. -/
structure ResolvedCrossing (K : Type) where
  crossing : Crossing K
  leftT : K
  rightT : K
  coordinateKey : PointM K

structure Resolving (K : Type) where
  resolvedCrossings : List (ResolvedCrossing K) := []
  endpointIdsByCoordinate : Dict (PointM K) (List ℤ) := []
  pointByCoordinate : Dict (PointM K) (PointM K) := []

/-- `setdefault(key, set()).update(ids)` -/
def addIds (d : Dict (PointM K) (List ℤ)) (key : PointM K) (ids : List ℤ) :
    Dict (PointM K) (List ℤ) :=
  d.set key ((d.get key).getD [] ++ ids)

def resolveCrossing (endpointNodes : Dict ℤ (ℤ × ℤ)) (s : Resolving K) (crossing : Crossing K) :
    Except String (Resolving K) := do
  let leftEnds ← found endpointNodes crossing.leftGeometryId
  let (leftT, leftEndpointId) := snapEndpointPosition crossing.leftT leftEnds
  let rightEnds ← found endpointNodes crossing.rightGeometryId
  let (rightT, rightEndpointId) := snapEndpointPosition crossing.rightT rightEnds
  let coordinateKey := (roundTo 6 crossing.point.1, roundTo 6 crossing.point.2)
  return {
    resolvedCrossings := s.resolvedCrossings ++ [⟨crossing, leftT, rightT, coordinateKey⟩]
    endpointIdsByCoordinate := addIds s.endpointIdsByCoordinate coordinateKey
      (leftEndpointId.toList ++ rightEndpointId.toList)
    pointByCoordinate := s.pointByCoordinate.setDefault coordinateKey crossing.point }

abbrev Parents (K : Type) := Dict (PointM K) (PointM K)

def rootOf (parent : Parents K) : ℕ → PointM K → PointM K
  | 0, key => key
  | steps + 1, key =>
    match parent.get key with
    | some next => if next = key then key else rootOf parent steps next
    | none => key

def compressed (root : PointM K) : ℕ → Parents K → PointM K → Parents K
  | 0, parent, _ => parent
  | steps + 1, parent, key =>
    match parent.get key with
    | some next =>
      if next = key then parent else compressed root steps (parent.set key root) next
    | none => parent

/-- The root of a key; a parent lies below its children, so no key is passed twice. -/
def findKey (parent : Parents K) (key : PointM K) : Parents K × PointM K :=
  let root := rootOf parent parent.length key
  (compressed root parent.length parent key, root)

def unionKeys (parent : Parents K) (left right : PointM K) : Parents K :=
  let (parent, leftRoot) := findKey parent left
  let (parent, rightRoot) := findKey parent right
  if leftRoot = rightRoot then parent
  else if pointBefore leftRoot rightRoot then parent.set rightRoot leftRoot
  else parent.set leftRoot rightRoot

/-- The order of `(t, (x, y))`. -/
def positionBefore (a b : K × PointM K) : Bool :=
  if a.1 = b.1 then pointBefore a.2 b.2 else decide (a.1 < b.1)

def positionsByGeometry (resolved : List (ResolvedCrossing K)) : Dict ℤ (List (K × PointM K)) :=
  resolved.foldl (fun positions r =>
    (positions.appendAt r.crossing.leftGeometryId (r.leftT, r.coordinateKey)).appendAt
      r.crossing.rightGeometryId (r.rightT, r.coordinateKey)) []

/-- Joins the places of neighbouring positions that fall together. -/
def joinPositions (parent : Parents K) (positions : List (K × PointM K)) : Parents K :=
  let ordered := positions.insertionSort fun a b => positionBefore b a = false
  (ordered.zip ordered.tail).foldl (fun parent step =>
    if isclose step.1.1 step.2.1 splitTolerance then unionKeys parent step.1.2 step.2.2
    else parent) parent

structure Rooting (K : Type) where
  parent : Parents K
  endpointIdsByRoot : Dict (PointM K) (List ℤ) := []
  pointByRoot : Dict (PointM K) (PointM K) := []

def addRoot (endpointIdsByCoordinate : Dict (PointM K) (List ℤ)) (s : Rooting K)
    (place : PointM K × PointM K) : Except String (Rooting K) := do
  let (parent, root) := findKey s.parent place.1
  let ids ← found endpointIdsByCoordinate place.1
  return {
    parent
    endpointIdsByRoot := addIds s.endpointIdsByRoot root ids
    pointByRoot := s.pointByRoot.setDefault root place.2 }

/-- The entries of a mapping in the order of its keys. -/
def inOrder {α : Type} (d : Dict (PointM K) α) : List (PointM K × α) :=
  d.insertionSort fun a b => pointBefore b.1 a.1 = false

structure Placing (K : Type) [Scalar K] where
  outputNodes : List (Planar.Node K)
  nextNodeId : ℤ
  nodeIdByRoot : Dict (PointM K) ℤ := []
  coincidentNodeAliases : Dict ℤ ℤ := []

/-- A place at the end of a road takes its node, any other place a new one. -/
def placeRoot (endpointIdsByRoot : Dict (PointM K) (List ℤ)) (s : Placing K)
    (place : PointM K × PointM K) : Except String (Placing K) := do
  let endpointIds ← found endpointIdsByRoot place.1
  match endpointIds.min? with
  | some nodeId =>
    return { s with
      nodeIdByRoot := s.nodeIdByRoot.set place.1 nodeId
      coincidentNodeAliases := Dict.update s.coincidentNodeAliases
        ((endpointIds.filter (· ≠ nodeId)).map fun endpointId => (endpointId, nodeId)) }
  | none =>
    return { s with
      outputNodes := s.outputNodes ++
        [{ nodeId := s.nextNodeId, x := place.2.1, y := place.2.2 }]
      nextNodeId := s.nextNodeId + 1
      nodeIdByRoot := s.nodeIdByRoot.set place.1 s.nextNodeId }

def placeCoordinate (nodeIdByRoot : Dict (PointM K) ℤ)
    (s : Parents K × Dict (PointM K) ℤ) (place : PointM K × PointM K) :
    Except String (Parents K × Dict (PointM K) ℤ) := do
  let (parent, root) := findKey s.1 place.1
  let nodeId ← found nodeIdByRoot root
  return (parent, s.2.set place.1 nodeId)

end Coordinates

section Cutting

abbrev SplitNodes (K : Type) := Dict ℤ (List (K × ℤ))

/-- The ends of each road, at positions 0 and 1, under the ids they have left. -/
def startSplitNodes (endpointNodes : Dict ℤ (ℤ × ℤ)) (aliases : Dict ℤ ℤ) : SplitNodes K :=
  endpointNodes.map fun (geometryId, ends) =>
    (geometryId, [(0, (aliases.get ends.1).getD ends.1), (1, (aliases.get ends.2).getD ends.2)])

def addSplitNodes (crossingNodeByCoordinate : Dict (PointM K) ℤ) (splitNodes : SplitNodes K)
    (r : ResolvedCrossing K) : Except String (SplitNodes K) := do
  let nodeId ← found crossingNodeByCoordinate r.coordinateKey
  return (splitNodes.appendAt r.crossing.leftGeometryId (r.leftT, nodeId)).appendAt
    r.crossing.rightGeometryId (r.rightT, nodeId)

/-- The order of `(t, node_id)`. -/
def splitBefore (a b : K × ℤ) : Bool :=
  if a.1 = b.1 then decide (a.2 < b.2) else decide (a.1 < b.1)

def addSplitNode (geometryId : ℤ) (out : List (K × ℤ)) (value : K × ℤ) :
    Except String (List (K × ℤ)) :=
  match out.getLast? with
  | some last =>
    if last.2 = value.2 then .ok out
    else if isclose last.1 value.1 splitTolerance then
      .error s!"one split position resolved to multiple node ids: geometry_id={geometryId}"
    else .ok (out ++ [value])
  | none => .ok (out ++ [value])

def deduplicateSplitNodes (values : List (K × ℤ)) (geometryId : ℤ) :
    Except String (List (K × ℤ)) :=
  (values.insertionSort fun a b => splitBefore b a = false).foldlM (addSplitNode geometryId) []

/-- A part of a road between two split nodes. -/
structure Interval (K : Type) where
  leftNodeId : ℤ
  rightNodeId : ℤ
  lengthFraction : K
  physicalRoadId : ℤ

def addInterval (centerline : RoadCenterline K) (s : List (Interval K) × ℤ)
    (step : (K × ℤ) × K × ℤ) : Except String (List (Interval K) × ℤ) :=
  let lengthFraction := step.2.1 - step.1.1
  if centerline.lengthM * lengthFraction ≤ 1 / Scalar.ofInt (10 ^ 9) ∨ step.1.2 = step.2.2 then
    .error ("planarization produced a degenerate physical segment: " ++
      s!"geometry_id={centerline.geometryId}")
  else .ok (s.1 ++ [⟨step.1.2, step.2.2, lengthFraction, s.2⟩], s.2 + 1)

structure Cutting (K : Type) [Scalar K] where
  outputLinks : List (Map.RoadLink K) := []
  mappedIds : Dict ℤ (List ℤ)
  nextPhysicalRoadId : ℤ := 0

/-- What a piece of a link is given; a purpose as a ramp is not among it. -/
def pieceFields (sourceLink : Map.RoadLink K) (reversed : Bool) (linkId : ℤ)
    (interval : Interval K) : RoadLinkFields K where
  linkId
  srcNodeId := if reversed then interval.rightNodeId else interval.leftNodeId
  dstNodeId := if reversed then interval.leftNodeId else interval.rightNodeId
  roadClass := sourceLink.roadClass
  lengthM := sourceLink.lengthM * interval.lengthFraction
  freeFlowSpeedMps := sourceLink.freeFlowSpeedMps
  capacityVehPerTick := sourceLink.capacityVehPerTick
  lanes := sourceLink.lanes
  bridgeGroupId := sourceLink.bridgeGroupId
  isBlockable := sourceLink.isBlockable
  physicalRoadId := some interval.physicalRoadId

def addPiece (sourceLink : Map.RoadLink K) (reversed : Bool) (s : Cutting K)
    (interval : Interval K) : Except String (Cutting K) := do
  let linkId : ℤ := s.outputLinks.length
  let link ← Map.RoadLink.build (pieceFields sourceLink reversed linkId interval)
  return { s with
    outputLinks := s.outputLinks ++ [link]
    mappedIds := s.mappedIds.appendAt sourceLink.linkId linkId }

def addAssignment (linkById : Dict ℤ (Map.RoadLink K)) (intervals : List (Interval K))
    (s : Cutting K) (assignment : LinkGeometryAssignment) : Except String (Cutting K) := do
  let sourceLink ← found linkById assignment.linkId
  (if assignment.reversed then intervals.reverse else intervals).foldlM
    (addPiece sourceLink assignment.reversed) s

def addCenterline (geometry : RoadGeometryCatalog K) (linkById : Dict ℤ (Map.RoadLink K))
    (splitNodesByGeometry : SplitNodes K) (s : Cutting K) (centerline : RoadCenterline K) :
    Except String (Cutting K) := do
  let values ← found splitNodesByGeometry centerline.geometryId
  let splitNodes ← deduplicateSplitNodes values centerline.geometryId
  let (intervals, nextPhysicalRoadId) ← (splitNodes.zip splitNodes.tail).foldlM
    (addInterval centerline) ([], s.nextPhysicalRoadId)
  (sortOn LinkGeometryAssignment.linkId (geometry.assignments.filter
    fun assignment => assignment.geometryId = centerline.geometryId)).foldlM
    (addAssignment linkById intervals) { s with nextPhysicalRoadId }

end Cutting

/-- What one pass makes of a network. -/
structure Pass (K : Type) [Scalar K] where
  nodes : List (Planar.Node K)
  links : List (Map.RoadLink K)
  mappedIds : Dict ℤ (List ℤ)

def splitNodesOf (nodes : List (Planar.Node K)) (endpointNodes : Dict ℤ (ℤ × ℤ))
    (crossings : List (Crossing K)) : Except String (List (Planar.Node K) × SplitNodes K) := do
  let resolving ← (crossings.insertionSort fun a b => crossingBefore b a = false).foldlM
    (resolveCrossing endpointNodes) {}
  let parent := (positionsByGeometry resolving.resolvedCrossings).foldl
    (fun parent item => joinPositions parent item.2)
    (resolving.pointByCoordinate.map fun item => (item.1, item.1))
  let rooting ← (inOrder resolving.pointByCoordinate).foldlM
    (addRoot resolving.endpointIdsByCoordinate) { parent }
  let placing ← (inOrder rooting.pointByRoot).foldlM (placeRoot rooting.endpointIdsByRoot)
    { outputNodes := nodes, nextNodeId := nextAfter (nodes.map Planar.Node.nodeId) }
  let outputNodes := placing.outputNodes.filter
    fun node => placing.coincidentNodeAliases.get node.nodeId = none
  let (_, crossingNodeByCoordinate) ← resolving.pointByCoordinate.foldlM
    (placeCoordinate placing.nodeIdByRoot) (rooting.parent, [])
  let splitNodes ← resolving.resolvedCrossings.foldlM (addSplitNodes crossingNodeByCoordinate)
    (startSplitNodes endpointNodes placing.coincidentNodeAliases)
  return (outputNodes, splitNodes)

def splitCrossings (nodes : List (Planar.Node K)) (links : List (Map.RoadLink K))
    (geometry : RoadGeometryCatalog K) (crossings : List (Crossing K)) :
    Except String (Pass K) := do
  let linkById := Dict.update [] (links.map fun link => (link.linkId, link))
  let endpointNodes ← geometryEndpointNodeIds geometry linkById
  let (outputNodes, splitNodes) ← splitNodesOf nodes endpointNodes crossings
  let cut ← geometry.centerlines.foldlM (addCenterline geometry linkById splitNodes)
    { mappedIds := links.map fun link => (link.linkId, []) }
  return { nodes := outputNodes, links := cut.outputLinks, mappedIds := cut.mappedIds }

def checkInputs (nodes : List (Planar.Node K)) (links : List (Map.RoadLink K))
    (geometry : RoadGeometryCatalog K) (cellSizeM : K) : Except String Unit := do
  raiseIf (nodes = [] ∨ links = []) "planarization requires non-empty nodes and links"
  raiseIf (Scalar.isfinite cellSizeM = false ∨ cellSizeM ≤ 0) "cell_size_m must be finite and > 0"
  raiseIf (¬(links.map fun link => link.linkId).Nodup) "links must have unique link_id values"
  raiseIf (¬((∀ assignment ∈ geometry.assignments, ∃ link ∈ links,
      link.linkId = assignment.linkId) ∧
    ∀ link ∈ links, ∃ assignment ∈ geometry.assignments, assignment.linkId = link.linkId))
    "road geometry assignments must exactly cover links"

def crossingsOf (geometry : RoadGeometryCatalog K) (cellSizeM : K) :
    Except String (List (Crossing K)) := do
  let segments ← geometry.centerlines.mapM centerlineSegment
  return findProperCrossings segments cellSizeM

/-- `old_link_to_new_link_ids` of two passes, one after the other. -/
def composeMapping (first second : Dict ℤ (List ℤ)) : Except String (Dict ℤ (List ℤ)) :=
  first.mapM fun item => do
    let refined ← item.2.mapM (found second)
    return (item.1, refined.flatten)

/-- Splits straight roads where they cross properly on one layer, as often as passes remain. -/
def planarizeEndpointTopology (nodes : List (Planar.Node K)) (links : List (Map.RoadLink K))
    (geometry : RoadGeometryCatalog K) (cellSizeM : K) (remainingPasses : ℕ) :
    Except String (PlanarizationResult K) := do
  checkInputs nodes links geometry cellSizeM
  let crossings ← crossingsOf geometry cellSizeM
  if crossings.isEmpty then
    return { nodes, links
             oldLinkToNewLinkIds := links.map fun link => (link.linkId, [link.linkId]) }
  let pass ← splitCrossings nodes links geometry crossings
  let outputGeometry ← buildEndpointGeometryCatalog pass.nodes pass.links
  let remaining := outputGeometry.countInteriorCenterlineIntersections (Scalar.ofInt 250)
  if remaining ≠ 0 then
    match remainingPasses with
    | 0 => .error s!"planarization left {remaining} proper same-layer intersections"
    | passes + 1 =>
      let refinement ←
        planarizeEndpointTopology pass.nodes pass.links outputGeometry cellSizeM passes
      let composed ← composeMapping pass.mappedIds refinement.oldLinkToNewLinkIds
      return {
        nodes := refinement.nodes
        links := refinement.links
        oldLinkToNewLinkIds := composed
        properIntersectionCountBefore := crossings.length
        properIntersectionCountAfter := refinement.properIntersectionCountAfter
        addedIntersectionNodeCount := (refinement.nodes.length : ℤ) - nodes.length }
  else
    return {
      nodes := pass.nodes
      links := pass.links
      oldLinkToNewLinkIds := pass.mappedIds
      properIntersectionCountBefore := crossings.length
      properIntersectionCountAfter := remaining
      addedIntersectionNodeCount := (pass.nodes.length : ℤ) - nodes.length }

end Metroflow.City.Planarization
