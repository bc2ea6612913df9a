import Metroflow.Lib.Dict
import Metroflow.Lib.Keyed
import Metroflow.Map.RoadGeometry

namespace Metroflow.City.Morphology

open Metroflow.Lib

structure CompiledNode where
  nodeId : ℤ
  x : ℝ
  y : ℝ

structure CompiledLink where
  linkId : ℤ
  srcNodeId : ℤ
  dstNodeId : ℤ

structure CompiledTopology where
  nodes : List CompiledNode
  links : List CompiledLink

/-- An undirected street: its ends, the smaller one first, and its length. -/
abbrev Edge := ℤ × ℤ × ℝ

section Edges

/-- One assignment: its link and centerline are a street, unless they were seen. -/
noncomputable def collectEdge (geometry : Map.RoadGeometryCatalog ℝ)
    (linkById : Dict ℤ CompiledLink) (s : List (ℤ × ℤ × ℤ) × List Edge)
    (assignment : Map.LinkGeometryAssignment) : Except String (List (ℤ × ℤ × ℤ) × List Edge) :=
  match linkById.get assignment.linkId with
  | none => .error s!"geometry assignment references missing link {assignment.linkId}"
  | some link => do
    let left := min link.srcNodeId link.dstNodeId
    let right := max link.srcNodeId link.dstNodeId
    let key := (assignment.geometryId, left, right)
    if key ∈ s.1 then pure s
    else
      let centerline ← geometry.centerline assignment.geometryId
      pure (key :: s.1, s.2 ++ [(left, right, centerline.lengthM)])

/-- `_undirected_edges`: directed pairs over one centerline are one street. -/
noncomputable def undirectedEdges (topology : CompiledTopology)
    (geometry : Map.RoadGeometryCatalog ℝ) : Except String (List Edge) := do
  let linkById : Dict ℤ CompiledLink :=
    Dict.update [] (topology.links.map fun link => (link.linkId, link))
  let collected ← geometry.assignments.foldlM (collectEdge geometry linkById) ([], [])
  pure collected.2

variable (edges : List Edge)

/-- The streets at a node, by their positions; a loop comes twice. -/
def adjacency (nodeId : ℤ) : List ℕ :=
  edges.zipIdx.flatMap fun (edge, index) =>
    (if edge.1 = nodeId then [index] else []) ++ if edge.2.1 = nodeId then [index] else []

/-- Counted beside the adjacency. -/
def compiledDegree (nodeId : ℤ) : ℕ := (adjacency edges nodeId).length

def neighbours (nodeId : ℤ) : List ℤ :=
  (edges.flatMap fun edge => (if edge.1 = nodeId then [edge.2.1] else []) ++
    if edge.2.1 = nodeId then [edge.1] else []).dedup

/-- A node inside a street: two streets that lead to two other nodes. -/
def isInterstitial (nodeId : ℤ) : Bool :=
  if nodeId ∈ neighbours edges nodeId then false
  else decide (compiledDegree edges nodeId = 2 ∧ (neighbours edges nodeId).length = 2)

def other (edgeIndex : ℕ) (nodeId : ℤ) : ℤ :=
  match edges[edgeIndex]? with
  | some edge => if edge.1 = nodeId then edge.2.1 else edge.1
  | none => nodeId

noncomputable def lengthOf (edgeIndex : ℕ) : ℝ :=
  (edges[edgeIndex]?.map fun edge => edge.2.2).getD 0

end Edges

section Walks

variable (edges : List Edge)

/-- A walk over streets that were not consumed, and the node it has come to. -/
structure Walk where
  consumed : List ℕ
  members : List ℕ
  arcLengthM : ℝ
  nextNodeId : ℤ

noncomputable def Walk.start (consumed : List ℕ) (nodeId : ℤ) (edgeIndex : ℕ) : Walk where
  consumed := edgeIndex :: consumed
  members := [edgeIndex]
  arcLengthM := lengthOf edges edgeIndex
  nextNodeId := other edges edgeIndex nodeId

/-- Goes on along the first street that was not consumed. -/
noncomputable def Walk.advance (walk : Walk) : Option Walk :=
  match (adjacency edges walk.nextNodeId).filter fun candidate => candidate ∉ walk.consumed with
  | [] => none
  | edgeIndex :: _ => some {
      consumed := edgeIndex :: walk.consumed
      members := walk.members ++ [edgeIndex]
      arcLengthM := walk.arcLengthM + lengthOf edges edgeIndex
      nextNodeId := other edges edgeIndex walk.nextNodeId }

/-- A chain goes on through interstitial nodes alone. -/
noncomputable def Walk.chainStep (walk : Walk) : Option Walk :=
  if isInterstitial edges walk.nextNodeId = false then none else walk.advance edges

noncomputable def chain (consumed : List ℕ) (anchor : ℤ) (startEdge : ℕ) : Walk :=
  loop (Walk.chainStep edges) edges.length (Walk.start edges consumed anchor startEdge)

noncomputable def ring (consumed : List ℕ) (left : ℤ) (index : ℕ) : Walk :=
  loop (Walk.advance edges) edges.length (Walk.start edges consumed left index)

end Walks

section Measure

/-- A measured street: its arc length, its chord, and the ends whose bearing is taken. -/
abbrev Segment := ℝ × PointM ℝ × PointM ℝ × List (PointM ℝ × PointM ℝ)

structure Measured where
  segments : List Segment
  degrees : Dict ℤ ℕ
  consumed : List ℕ

def incremented (degrees : Dict ℤ ℕ) (nodeId : ℤ) : Dict ℤ ℕ :=
  degrees.set nodeId ((degrees.get nodeId).getD 0 + 1)

def pointOf (points : Dict ℤ (PointM ℝ)) (nodeId : ℤ) : Except String (PointM ℝ) :=
  match points.get nodeId with
  | some point => .ok point
  | none => .error s!"{nodeId}"

variable (points : Dict ℤ (PointM ℝ)) (edges : List Edge)

/-- One street of one anchor: its chain is emitted, unless it was consumed. -/
noncomputable def measureFrom (s : Measured) (start : ℤ × ℕ) : Except String Measured :=
  if start.2 ∈ s.consumed then pure s
  else do
    let walk := chain edges s.consumed start.1 start.2
    let startPoint ← pointOf points start.1
    let endPoint ← pointOf points walk.nextNodeId
    let bearingPairs := if start.1 = walk.nextNodeId then [] else [(startPoint, endPoint)]
    pure {
      segments := s.segments ++ [(walk.arcLengthM, startPoint, endPoint, bearingPairs)]
      degrees := incremented (incremented s.degrees start.1) walk.nextNodeId
      consumed := walk.consumed }

/-- The anchors in order, each with its streets. -/
def anchorStarts : List (ℤ × ℕ) :=
  let anchors := sortOn id ((edges.flatMap fun edge => [edge.1, edge.2.1]).dedup.filter
    fun nodeId => isInterstitial edges nodeId = false)
  anchors.flatMap fun anchor => (adjacency edges anchor).map (Prod.mk anchor)

/-- The streets of rings that no anchor reaches are dropped: their number and length. -/
structure Dropped where
  consumed : List ℕ
  count : ℕ
  lengthM : ℝ

noncomputable def dropFrom (s : Dropped) (entry : Edge × ℕ) : Dropped :=
  if entry.2 ∈ s.consumed then s
  else
    let walk := ring edges s.consumed entry.1.1 entry.2
    { consumed := walk.consumed, count := s.count + 1, lengthM := s.lengthM + walk.arcLengthM }

/-- The streets between junctions, the degrees of their ends, and the dropped rings. -/
noncomputable def measureEdges :
    Except String (List Segment × Dict ℤ ℕ × ℕ × ℝ) := do
  let measured ← (anchorStarts edges).foldlM (measureFrom points edges) ⟨[], [], []⟩
  let dropped := edges.zipIdx.foldl (dropFrom edges) ⟨measured.consumed, 0, 0⟩
  pure (measured.segments, measured.degrees, dropped.count, dropped.lengthM)

def pointByNodeId (topology : CompiledTopology) : Dict ℤ (PointM ℝ) :=
  Dict.update [] (topology.nodes.map fun node => (node.nodeId, (node.x, node.y)))

/-- `_simplified_segments` -/
noncomputable def simplifiedSegments (topology : CompiledTopology)
    (geometry : Map.RoadGeometryCatalog ℝ) :
    Except String (List Segment × Dict ℤ ℕ × ℕ × ℝ) := do
  let edges ← undirectedEdges topology geometry
  measureEdges (pointByNodeId topology) edges

end Measure

end Metroflow.City.Morphology
