import Metroflow.Lib.Cuts
import Metroflow.Lib.Dict
import Metroflow.Lib.Keyed
import Metroflow.Lib.UnionFind
import Metroflow.Map.RoadLinks

namespace Metroflow.City.Planar

open Metroflow.Lib Metroflow.Map

variable (K : Type) [Scalar K]

structure Node where
  nodeId : ℤ
  kind : NodeKind := .intersection
  x : K
  y : K
  zoneId : Option ℤ := none
  signalGroupId : Option ℤ := none

/-- Nodes and links, with the street that each link belongs to. -/
structure StreetGraph where
  nodes : List (Node K)
  links : List (Map.RoadLink K)
  linkToStreetId : Dict ℤ ℤ

/-- What planarization gives back; its crossings are split. -/
structure PlanarizationResult where
  nodes : List (Node K)
  links : List (Map.RoadLink K)
  oldLinkToNewLinkIds : Dict ℤ (List ℤ)
  properIntersectionCountAfter : ℕ

/-- The parts of the map compiler that look at crossings. -/
structure Crossings where
  count : List (Node K) → List (Map.RoadLink K) → Except String ℕ
  planarize : List (Node K) → List (Map.RoadLink K) → Except String (PlanarizationResult K)

variable {K}

def Node.point (node : Node K) : PointM K := (node.x, node.y)

/-- Rounds to some decimal places, a half to the even side. -/
def roundTo (decimalPlaces : ℕ) (value : K) : K :=
  let unit : K := Scalar.ofInt (10 ^ decimalPlaces)
  let low := Scalar.floor (value * unit)
  let rest := value * unit - Scalar.ofInt low
  let half : K := 1 / Scalar.ofInt 2
  let nearest :=
    if rest < half then low
    else if half < rest then low + 1
    else if low % 2 = 0 then low
    else low + 1
  Scalar.ofInt nearest / unit

def entry {κ α : Type} [DecidableEq κ] [ToString κ] (d : Dict κ α) (key : κ) : Except String α :=
  match d.get key with
  | some value => .ok value
  | none => .error (toString key)

def nodesById (nodes : List (Node K)) : Dict ℤ (Node K) :=
  Dict.update [] (nodes.map fun node => (node.nodeId, node))

def nodeAt (nodes : List (Node K)) (index : ℤ) : Except String (Node K) :=
  match nodes[index.toNat]? with
  | some node => .ok node
  | none => .error "list index out of range"

section Relinking

/-- The street, the class and the bridge that two directions of a road share. -/
abbrev RoadKey := ℤ × RoadClass × Option ℤ

structure Relinking (K : Type) [Scalar K] where
  physicalIdByKey : Dict (ℤ × ℤ × RoadKey) ℤ := []
  outputLinks : List (Map.RoadLink K) := []
  outputProvenance : Dict ℤ ℤ := []
  seenDirected : List (ℤ × ℤ × RoadKey) := []

/-- A piece of a link between two nodes, and the street it belongs to. -/
structure Piece (K : Type) [Scalar K] where
  link : Map.RoadLink K
  streetId : ℤ
  left : ℤ
  right : ℤ

namespace Piece

variable (piece : Piece K)

def roadKey : RoadKey := (piece.streetId, piece.link.roadClass, piece.link.bridgeGroupId)

def physicalKey : ℤ × ℤ × RoadKey :=
  (min piece.left piece.right, max piece.left piece.right, piece.roadKey)

def directedKey : ℤ × ℤ × RoadKey := (piece.left, piece.right, piece.roadKey)

end Piece

variable (place : ℤ → Except String (Node K)) (skipFlat : Bool)

/-- Adds a piece as a link of its own, unless one with its key has been added;
a piece without length is left out where `skipFlat` says so. -/
def addDirected (s : Relinking K) (piece : Piece K) : Except String (Relinking K) := do
  let physicalRoadId :=
    (s.physicalIdByKey.get piece.physicalKey).getD s.physicalIdByKey.length
  let s := { s with
    physicalIdByKey := s.physicalIdByKey.setDefault piece.physicalKey s.physicalIdByKey.length }
  if piece.directedKey ∈ s.seenDirected then return s
  let s := { s with seenDirected := s.seenDirected ++ [piece.directedKey] }
  let left ← place piece.left
  let right ← place piece.right
  let lengthM := Scalar.dist left.point right.point
  if skipFlat ∧ lengthM ≤ 0 then return s
  let linkId : ℤ := s.outputLinks.length
  let link ← Map.RoadLink.build { piece.link.toRoadLinkFields with
    linkId
    srcNodeId := piece.left
    dstNodeId := piece.right
    lengthM
    physicalRoadId := some physicalRoadId
    rampPurpose := none }
  return { s with
    outputLinks := s.outputLinks ++ [link]
    outputProvenance := s.outputProvenance.set linkId piece.streetId }

end Relinking

section Splitting

def cellSizeM : K := Scalar.ofInt 250

def toleranceM : K := Scalar.ofInt 2 / Scalar.ofInt 100

def cellOf (point : PointM K) : ℤ × ℤ :=
  (Scalar.floor (point.1 / cellSizeM), Scalar.floor (point.2 / cellSizeM))

def lesser (a b : K) : K := if b < a then b else a

def greater (a b : K) : K := if a < b then b else a

variable (graph : StreetGraph K)

/-- The bridges, or the ground, that a node's links belong to. -/
def layerTokens (nodeId : ℤ) : List (Option ℤ) :=
  (graph.links.filter fun link => link.srcNodeId = nodeId ∨ link.dstNodeId = nodeId).map
    (·.bridgeGroupId)

/-- The nodes of the cells that a segment can touch, in the order of their ids. -/
def candidateNodeIds (src dst : PointM K) : List ℤ :=
  let minCell := cellOf (lesser src.1 dst.1 - toleranceM, lesser src.2 dst.2 - toleranceM)
  let maxCell := cellOf (greater src.1 dst.1 + toleranceM, greater src.2 dst.2 + toleranceM)
  let near := graph.nodes.filter fun node =>
    let cell := cellOf node.point
    minCell.1 ≤ cell.1 ∧ cell.1 ≤ maxCell.1 ∧ minCell.2 ≤ cell.2 ∧ cell.2 ≤ maxCell.2
  sortOn id (near.map (·.nodeId)).dedup

def squaredLength (src dst : PointM K) : K :=
  (dst.1 - src.1) * (dst.1 - src.1) + (dst.2 - src.2) * (dst.2 - src.2)

/-- Where a point falls along a segment, from 0 at its start to 1 at its end. -/
def parameter (src dst point : PointM K) : K :=
  ((point.1 - src.1) * (dst.1 - src.1) + (point.2 - src.2) * (dst.2 - src.2)) /
    squaredLength src dst

def project (src dst : PointM K) (t : K) : PointM K :=
  (src.1 + t * (dst.1 - src.1), src.2 + t * (dst.2 - src.2))

def splitBy (link : Map.RoadLink K) (src dst : PointM K) (node : Node K) : Option K :=
  if node.nodeId = link.srcNodeId ∨ node.nodeId = link.dstNodeId then none
  else if link.bridgeGroupId ∉ layerTokens graph node.nodeId then none
  else
    let t := parameter src dst node.point
    if 0 < t ∧ t < 1 ∧ Scalar.dist node.point (project src dst t) ≤ toleranceM then some t
    else none

/-- Sorted by position, nodes at one position by their ids. -/
def sortPoints (points : List (K × ℤ)) : List (K × ℤ) :=
  points.mergeSort fun a b => a.1 < b.1 ∨ (a.1 = b.1 ∧ a.2 ≤ b.2)

/-- The nodes that split a link, with where they do. -/
def innerPoints (link : Map.RoadLink K) (src dst : PointM K) : List (K × ℤ) :=
  (candidateNodeIds graph src dst).filterMap fun nodeId =>
    ((nodesById graph.nodes).get nodeId).bind fun node =>
      (splitBy graph link src dst node).map fun t => (t, nodeId)

def splitPoints (link : Map.RoadLink K) (src dst : PointM K) : List (K × ℤ) :=
  sortPoints ((0, link.srcNodeId) :: (1, link.dstNodeId) :: innerPoints graph link src dst)

def piecesBetween (link : Map.RoadLink K) (streetId : ℤ) (points : List (K × ℤ)) :
    List (Piece K) :=
  ((walkSteps points).filter fun step => step.1.2 ≠ step.2.2).map fun step =>
    ⟨link, streetId, step.1.2, step.2.2⟩

def splitLink (s : Relinking K) (link : Map.RoadLink K) : Except String (Relinking K) := do
  let byId := nodesById graph.nodes
  let src ← entry byId link.srcNodeId
  let dst ← entry byId link.dstNodeId
  if squaredLength src.point dst.point ≤ 0 then
    throw "endpoint topology contains a zero-length link"
  let points := splitPoints graph link src.point dst.point
  let streetId ← entry graph.linkToStreetId link.linkId
  (piecesBetween link streetId points).foldlM (addDirected (entry byId) false) s

/-- Splits links where a node of their layer lies on them. -/
def splitLinksAtExistingNodes : Except String (StreetGraph K) := do
  graph.links.forM fun link => do
    let _ ← entry (nodesById graph.nodes) link.srcNodeId
    let _ ← entry (nodesById graph.nodes) link.dstNodeId
    return ⟨⟩
  let s ← (sortOn (fun link => link.linkId) graph.links).foldlM (splitLink graph) {}
  if s.outputLinks = [] then throw "T-junction normalization removed every link"
  return ⟨graph.nodes, s.outputLinks, s.outputProvenance⟩

end Splitting

section Moving

/-- Nodes renumbered by place, and where each old node went. -/
structure Renumbering (K : Type) [Scalar K] where
  outputNodes : List (Node K) := []
  oldToNewNodeId : Dict ℤ ℤ := []

/-- Follows a link to the new nodes of its ends. -/
def moveLink (nodes : Renumbering K) (linkToStreetId : Dict ℤ ℤ) (s : Relinking K)
    (link : Map.RoadLink K) : Except String (Relinking K) := do
  let src ← entry nodes.oldToNewNodeId link.srcNodeId
  let dst ← entry nodes.oldToNewNodeId link.dstNodeId
  if src = dst then return s
  let streetId ← entry linkToStreetId link.linkId
  addDirected (nodeAt nodes.outputNodes) true s ⟨link, streetId, src, dst⟩

def moveLinks (nodes : Renumbering K) (graph : StreetGraph K) :
    Except String (StreetGraph K) := do
  let s ← (sortOn (fun link => link.linkId) graph.links).foldlM
    (moveLink nodes graph.linkToStreetId) {}
  return ⟨nodes.outputNodes, s.outputLinks, s.outputProvenance⟩

def refinedProvenance (refined : PlanarizationResult K) (linkToStreetId : Dict ℤ ℤ) :
    Except String (Dict ℤ ℤ) :=
  refined.oldLinkToNewLinkIds.foldlM (fun provenance item => do
    let streetId ← entry linkToStreetId item.1
    return Dict.update provenance (item.2.map fun linkId => (linkId, streetId))) []

structure Snapping (K : Type) [Scalar K] extends Renumbering K where
  canonicalNodeIdByKey : Dict (PointM K) ℤ := []

def snapNode (decimalPlaces : ℕ) (s : Snapping K) (node : Node K) : Snapping K :=
  let key := (roundTo decimalPlaces node.x, roundTo decimalPlaces node.y)
  match s.canonicalNodeIdByKey.get key with
  | some canonical => { s with oldToNewNodeId := s.oldToNewNodeId.set node.nodeId canonical }
  | none =>
    let canonical : ℤ := s.outputNodes.length
    { canonicalNodeIdByKey := s.canonicalNodeIdByKey.set key canonical
      outputNodes := s.outputNodes ++ [{ node with nodeId := canonical, x := key.1, y := key.2 }]
      oldToNewNodeId := s.oldToNewNodeId.set node.nodeId canonical }

def snapNodes (decimalPlaces : ℕ) (nodes : List (Node K)) : Snapping K :=
  (sortOn (fun node => node.nodeId) nodes).foldl (snapNode decimalPlaces) {}

def snapPass (decimalPlaces : ℕ) (graph : StreetGraph K) : Except String (StreetGraph K) :=
  moveLinks (snapNodes decimalPlaces graph.nodes).toRenumbering graph

/-- Moves the nodes to rounded places; nodes at one place become one node. -/
def snapPlanarGraph (crossings : Crossings K) (decimalPlaces : ℕ) :
    ℕ → StreetGraph K → Except String (StreetGraph K)
  | remainingPasses, graph => do
    let snapped ← snapPass decimalPlaces graph
    let remaining ← crossings.count snapped.nodes snapped.links
    if remaining = 0 then
      if snapped.links = [] then throw "coordinate snapping removed every planar link"
      return snapped
    match remainingPasses with
    | 0 => throw "coordinate snapping and planarization did not converge"
    | remainingPasses + 1 =>
      let refined ← crossings.planarize snapped.nodes snapped.links
      let provenance ← refinedProvenance refined snapped.linkToStreetId
      if refined.properIntersectionCountAfter ≠ 0 then
        throw "post-snap planarization retained proper intersections"
      snapPlanarGraph crossings decimalPlaces remainingPasses
        ⟨refined.nodes, refined.links, provenance⟩

end Moving

section Collapsing

variable (minimumLengthM : K) (graph : StreetGraph K)

def joinShort (parent : ℤ → ℤ) (link : Map.RoadLink K) : Except String (ℤ → ℤ) := do
  let src ← entry (nodesById graph.nodes) link.srcNodeId
  let dst ← entry (nodesById graph.nodes) link.dstNodeId
  if Scalar.dist src.point dst.point < minimumLengthM then
    return UnionFind.union graph.nodes.length parent link.srcNodeId link.dstNodeId
  return parent

/-- Puts a node into the group of its root; the search may shorten the paths. -/
def groupNode (fuel : ℕ) (s : (ℤ → ℤ) × Dict ℤ (List (Node K))) (node : Node K) :
    (ℤ → ℤ) × Dict ℤ (List (Node K)) :=
  let found := UnionFind.find fuel s.1 node.nodeId
  (found.1, s.2.appendAt found.2 node)

def groupNodes : Except String (Dict ℤ (List (Node K))) := do
  let parent ← graph.links.foldlM (joinShort minimumLengthM graph) id
  return (graph.nodes.foldl (groupNode graph.nodes.length) (parent, [])).2

def meanOf (values : List K) : K := values.foldl (· + ·) 0 / Scalar.ofInt values.length

/-- Replaces a group by one node, at the rounded mean of its places. -/
def mergeGroup (s : Renumbering K) (group : List (Node K)) : Renumbering K :=
  let members := sortOn (fun node => node.nodeId) group
  let nodeId : ℤ := s.outputNodes.length
  let x := roundTo 2 (meanOf (members.map (·.x)))
  let y := roundTo 2 (meanOf (members.map (·.y)))
  match members with
  | [] => s
  | representative :: _ =>
    { outputNodes := s.outputNodes ++ [{ representative with nodeId, x, y }]
      oldToNewNodeId := members.foldl (fun d node => d.set node.nodeId nodeId) s.oldToNewNodeId }

def mergeGroups (groups : Dict ℤ (List (Node K))) : Renumbering K :=
  (sortOn id (groups.map Prod.fst)).foldl (fun s root =>
    mergeGroup s ((groups.get root).getD [])) {}

/-- One pass: nothing where no link is short. -/
def collapsePass : Except String (Option (StreetGraph K)) := do
  let groups ← groupNodes minimumLengthM graph
  if ∀ group ∈ groups, group.2.length = 1 then return none
  let collapsed ← moveLinks (mergeGroups groups) graph
  if collapsed.links = [] then throw "short-segment collapse removed every planar link"
  return some collapsed

def collapseShortPlanarLinks (crossings : Crossings K) :
    ℕ → StreetGraph K → Except String (StreetGraph K)
  | remainingPasses, graph => do
    match ← collapsePass minimumLengthM graph with
    | none => return graph
    | some collapsed =>
      let remaining ← crossings.count collapsed.nodes collapsed.links
      if remaining ≠ 0 then
        match remainingPasses with
        | 0 => throw "short-segment normalization did not converge"
        | remainingPasses + 1 =>
          let refined ← crossings.planarize collapsed.nodes collapsed.links
          let provenance ← refinedProvenance refined collapsed.linkToStreetId
          let snapped ← snapPlanarGraph crossings 2 4 ⟨refined.nodes, refined.links, provenance⟩
          collapseShortPlanarLinks crossings remainingPasses snapped
      else if ∃ link ∈ collapsed.links, link.lengthM < minimumLengthM then
        match remainingPasses with
        | 0 => throw "short physical segments remain after normalization"
        | remainingPasses + 1 => collapseShortPlanarLinks crossings remainingPasses collapsed
      else return collapsed

end Collapsing

def addLength (lengths : Dict ℤ K) (link : Map.RoadLink K) : Except String (Dict ℤ K) :=
  match link.physicalRoadId with
  | none => .error "planar links require physical_road_id"
  | some roadId =>
    let existing := (lengths.get roadId).getD link.lengthM
    let tolerance := greater
      (Scalar.ofInt 1 / Scalar.ofInt 1000000000 *
        greater (Scalar.abs existing) (Scalar.abs link.lengthM))
      (Scalar.ofInt 1 / Scalar.ofInt 1000000)
    if Scalar.abs (existing - link.lengthM) ≤ tolerance then
      .ok (lengths.setDefault roadId link.lengthM)
    else .error "directed physical-road lengths disagree"

def physicalSegmentLengths (links : List (Map.RoadLink K)) : Except String (List K) := do
  let lengths ← links.foldlM addLength []
  return (sortOn id (lengths.map Prod.fst)).filterMap lengths.get

end Metroflow.City.Planar
