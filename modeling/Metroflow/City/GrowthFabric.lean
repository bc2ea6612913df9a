import Metroflow.City.GrowthTopology
import Metroflow.Lib.Cuts
import Metroflow.Lib.Dict
import Metroflow.Map.RoadLinks

namespace Metroflow.City

open Metroflow.Lib Metroflow.Map

variable {K : Type} [Scalar K]

section Chains

variable (b : StreetTopologyBuilder K)

/-- The first and last node of every street. -/
def streetEnds : Finset ℕ :=
  (b.streets.flatMap fun street =>
    street.nodeIds.head?.toList ++ street.nodeIds.getLast?.toList).toFinset

/-- Whether the graph branches at a node: it is shared, or a street's end. -/
def isJunction (nodeId : ℕ) : Bool :=
  decide (nodeId < b.points.length ∧
    (1 < (b.incidentStreets nodeId).card ∨ nodeId ∈ streetEnds b))

def junctionNodeIds : List ℕ := (List.range b.points.length).filter fun nodeId => isJunction b nodeId

/-- A street cut at its junctions. -/
def streetChains (street : Street) : List (List ℕ) :=
  match street.nodeIds with
  | [] => []
  -- a seed that never grew
  | [_] => []
  | first :: rest => cutFrom (fun nodeId => decide (nodeId ∈ junctionNodeIds b)) [first] rest

def iterChains : List (ℕ × List ℕ) :=
  b.streets.flatMap fun street => (streetChains b street).map fun chain => (street.streetId, chain)

end Chains

structure GrownStreet where
  streetId : ℕ
  roadClass : RoadClass
  deriving DecidableEq, Repr

/-- Lanes, speed and capacity of a road class. -/
def design : RoadClass → Except String (ℤ × K × K)
  | .expressway => .ok (3, Scalar.ofInt 278 / Scalar.ofInt 10, Scalar.ofInt 18 / Scalar.ofInt 10)
  | .arterial => .ok (2, Scalar.ofInt 167 / Scalar.ofInt 10, Scalar.ofInt 11 / Scalar.ofInt 10)
  | .collector => .ok (1, Scalar.ofInt 111 / Scalar.ofInt 10, Scalar.ofInt 70 / Scalar.ofInt 100)
  | .localRoad => .ok (1, Scalar.ofInt 83 / Scalar.ofInt 10, Scalar.ofInt 45 / Scalar.ofInt 100)
  | .ramp => .error "<RoadClass.RAMP: 'ramp'>"
  | .bridge => .error "<RoadClass.BRIDGE: 'bridge'>"

/-- What the compiler has emitted so far; `usedNodes` lists the builder's nodes by compact index. -/
structure Compilation (K : Type) [Scalar K] where
  usedNodes : List ℕ := []
  links : List (RoadLinkRecord K) := []
  centerlines : List (RoadCenterline K) := []
  assignments : List LinkGeometryAssignment := []
  dropped : List String := []

namespace Compilation

def drop (s : Compilation K) (reason : String) : Compilation K :=
  { s with dropped := s.dropped ++ [reason] }

def nodeIndex (usedNodes : List ℕ) (nodeId : ℕ) : ℕ × List ℕ :=
  if nodeId ∈ usedNodes then (usedNodes.idxOf nodeId, usedNodes)
  else (usedNodes.length, usedNodes ++ [nodeId])

variable (b : StreetTopologyBuilder K) (streetId : ℕ) (roadClass : RoadClass)

/-- Emits a centerline and a link each way for one chain between two nodes. -/
def emit (s : Compilation K) (layer : ℤ) (points : List (PointM K)) (first last : ℕ) :
    Except String (Compilation K) := do
  let (src, usedNodes) := nodeIndex s.usedNodes first
  let (dst, usedNodes) := nodeIndex usedNodes last
  let (lanes, speed, capacity) ← design roadClass
  let geometryId : ℤ := s.centerlines.length
  let centerline ← RoadCenterline.build geometryId points layer
  let forwardId : ℤ := s.links.length
  let forward ← RoadLinkRecord.build forwardId src dst roadClass (Scalar.pathLength points) speed
    capacity lanes geometryId
  let reverse ← RoadLinkRecord.build (forwardId + 1) dst src roadClass (Scalar.pathLength points)
    speed capacity lanes geometryId
  let along ← LinkGeometryAssignment.build forwardId geometryId false
  let back ← LinkGeometryAssignment.build (forwardId + 1) geometryId true
  return {
    usedNodes := usedNodes
    links := s.links ++ [forward, reverse]
    centerlines := s.centerlines ++ [centerline]
    assignments := s.assignments ++ [along, back]
    dropped := s.dropped }

def compilePart (s : Compilation K) (part : List ℕ) : Except String (Compilation K) :=
  match part, part.getLast? with
  | first :: _ :: _, some last =>
    if first = last then .ok (s.drop s!"street {streetId}: degenerate chain half")
    else
      let points := part.map b.pointOf
      if Scalar.pathLength points ≤ 0 then
        .ok (s.drop s!"street {streetId}: zero-length chain half")
      else s.emit roadClass ((b.streets[streetId]?.map Street.layer).getD 0) points first last
  | _, _ => .ok (s.drop s!"street {streetId}: degenerate chain half")

def compileChain (s : Compilation K) (chainNodes : List ℕ) : Except String (Compilation K) :=
  if Scalar.pathLength (chainNodes.map b.pointOf) ≤ 0 then
    .ok (s.drop s!"street {streetId}: zero-length chain")
  else if chainNodes.head? = chainNodes.getLast? then
    -- a closed chain is split at its middle node, so that the loop survives as two links
    let middle := chainNodes.length / 2
    if middle = 0 then .ok (s.drop s!"street {streetId}: unsplittable closed chain")
    else do
      let s ← s.compilePart b streetId roadClass (chainNodes.take (middle + 1))
      s.compilePart b streetId roadClass (chainNodes.drop middle)
  else s.compilePart b streetId roadClass chainNodes

end Compilation

structure PreviewCityTopology (K : Type) [Scalar K] where
  nodes : List (MapNode K)
  links : List (RoadLinkRecord K)
  roadGeometry : RoadGeometryCatalog K
  droppedChainCount : ℕ
  droppedChainReasons : List String

def classByStreet (streets : List GrownStreet) : Dict ℕ RoadClass :=
  Dict.update [] (streets.map fun street => (street.streetId, street.roadClass))

def compileChains (b : StreetTopologyBuilder K) (streets : List GrownStreet) :
    Except String (Compilation K) :=
  (iterChains b).foldlM (fun s chain =>
    match (classByStreet streets).get chain.1 with
    | none => .ok (s.drop s!"street {chain.1}: no road class")
    | some roadClass => s.compileChain b chain.1 roadClass chain.2) {}

def compileFromIncidence (b : StreetTopologyBuilder K) (streets : List GrownStreet) :
    Except String (PreviewCityTopology K) := do
  let s ← compileChains b streets
  let roadGeometry ← RoadGeometryCatalog.build s.centerlines s.assignments
  return {
    nodes := s.usedNodes.zipIdx.map fun node => ⟨node.2, b.pointOf node.1⟩
    links := s.links
    roadGeometry := roadGeometry
    droppedChainCount := s.dropped.length
    droppedChainReasons := s.dropped.take 32 }

end Metroflow.City
