import Metroflow.Lib.Calls
import Metroflow.Lib.Scalar

namespace Metroflow.City

open Metroflow.Lib

/-- A grown street: its nodes in order, and its grade. -/
structure Street where
  streetId : ℕ
  nodeIds : List ℕ
  layer : ℤ
  deriving DecidableEq, Repr

inductive TopologyError (K : Type) where
  | noPoints
  | unknownNode (nodeId : ℤ)
  | unknownStreet (streetId : ℤ)
  | foldsBack (nodeId : ℕ) (streetId : ℕ)
  | gapTooWide (nodeId : ℕ) (gap : K) (streetId : ℕ) (maxGapM : K)
  | badArcLength (arcLengthM : K)
  | beyondStreet (arcLengthM : K) (streetId : ℕ) (total : K)
  | indexError

/-- Mints node and street ids, and records incidence as it happens. -/
structure StreetTopologyBuilder (K : Type) where
  points : List (PointM K) := []
  incident : List (Finset ℕ) := []
  streets : List Street := []
  gradeSeparated : Finset (ℕ × ℕ) := ∅

namespace StreetTopologyBuilder

variable {K : Type} [Scalar K]

section State

variable (b : StreetTopologyBuilder K)

def pointOf (nodeId : ℕ) : PointM K := b.points.getD nodeId (0, 0)

def incidentStreets (nodeId : ℕ) : Finset ℕ := b.incident.getD nodeId ∅

def nodeIdsOf (streetId : ℕ) : List ℕ := (b.streets[streetId]?.map Street.nodeIds).getD []

def pointsOf (street : Street) : List (PointM K) := street.nodeIds.map b.pointOf

def arcLengthOf (street : Street) : K := Scalar.pathLength (b.pointsOf street)

def requireNode (nodeId : ℤ) : Except (TopologyError K) ℕ :=
  if 0 ≤ nodeId ∧ nodeId < b.points.length then .ok nodeId.toNat else .error (.unknownNode nodeId)

def requireStreet (streetId : ℤ) : Except (TopologyError K) Street :=
  match if 0 ≤ streetId then b.streets[streetId.toNat]? else none with
  | some street => .ok street
  | none => .error (.unknownStreet streetId)

/-- A new node that no street passes yet. -/
def withNode (point : PointM K) : StreetTopologyBuilder K :=
  { b with points := b.points ++ [point], incident := b.incident ++ [∅] }

/-- A new street through existing nodes. -/
def withStreet (nodeIds : List ℕ) (layer : ℤ) : StreetTopologyBuilder K :=
  { b with
    streets := b.streets ++ [⟨b.streets.length, nodeIds, layer⟩]
    incident := nodeIds.foldl (fun incident nodeId =>
      incident.modify nodeId (insert b.streets.length)) b.incident }

/-- An existing street passes an existing node at a place of its list. -/
def withNodeOn (streetId index nodeId : ℕ) : StreetTopologyBuilder K :=
  { b with
    streets := b.streets.modify streetId fun street =>
      { street with nodeIds := street.nodeIds.insertIdx index nodeId }
    incident := b.incident.modify nodeId (insert streetId) }

def withSeparation (nodeA nodeB : ℕ) : StreetTopologyBuilder K :=
  { b with gradeSeparated := insert (min nodeA nodeB, max nodeA nodeB) b.gradeSeparated }

end State

/-- Two positions closer than this are the same junction. -/
def weldToleranceM : K := 1 / Scalar.ofInt 4

abbrev Op (K : Type) (α : Type) := Call (TopologyError K) (StreetTopologyBuilder K) α

def mintNode (point : PointM K) : Op K ℕ := do
  let nodeId ← Call.query fun b => .ok b.points.length
  Call.change fun b => b.withNode point
  return nodeId

def mintNodes : List (PointM K) → Op K (List ℕ)
  | [] => return []
  | point :: points => do
    let nodeId ← mintNode point
    let nodeIds ← mintNodes points
    return nodeId :: nodeIds

def startNode (startNodeId : Option ℤ) (first : PointM K) : Op K ℕ :=
  match startNodeId with
  | some nodeId => Call.query fun b => b.requireNode nodeId
  | none => mintNode first

def openStreet (points : List (PointM K)) (startNodeId : Option ℤ) (layer : ℤ) : Op K ℕ :=
  match points with
  | [] => Call.query fun _ => .error .noPoints
  | first :: rest => do
    let streetId ← Call.query fun b => .ok b.streets.length
    let start ← startNode startNodeId first
    let others ← mintNodes rest
    Call.change fun b => b.withStreet (start :: others) layer
    return streetId

def extendStreet (streetId : ℤ) (point : PointM K) : Op K ℕ := do
  let street ← Call.query fun b => b.requireStreet streetId
  let nodeId ← mintNode point
  Call.change fun b => b.withNodeOn streetId.toNat street.nodeIds.length nodeId
  return nodeId

/-- The place where a street ends on an existing node, or none when it does already. -/
def weld (b : StreetTopologyBuilder K) (streetId nodeId : ℤ) (maxGapM : K)
    (tip : List ℕ → Option ℕ) : Except (TopologyError K) (Street × ℕ × Bool) := do
  let street ← b.requireStreet streetId
  let nodeId ← b.requireNode nodeId
  match tip street.nodeIds with
  | none => .error .indexError
  | some tipId =>
    if tipId = nodeId then return (street, nodeId, true)
    else if nodeId ∈ street.nodeIds then .error (.foldsBack nodeId streetId.toNat)
    else
      if maxGapM < Scalar.dist (b.pointOf tipId) (b.pointOf nodeId) then
        .error (.gapTooWide nodeId (Scalar.dist (b.pointOf tipId) (b.pointOf nodeId))
          streetId.toNat maxGapM)
      else return (street, nodeId, false)

def extendStreetToNode (streetId nodeId : ℤ) (maxGapM : K) : Op K ℕ := do
  let (street, nodeId, already) ← Call.query fun b =>
    b.weld streetId nodeId maxGapM List.getLast?
  if already then return nodeId
  else do
    Call.change fun b => b.withNodeOn streetId.toNat street.nodeIds.length nodeId
    return nodeId

def prependStreetToNode (streetId nodeId : ℤ) (maxGapM : K) : Op K ℕ := do
  let (_, nodeId, already) ← Call.query fun b =>
    b.weld streetId nodeId maxGapM List.head?
  if already then return nodeId
  else do
    Call.change fun b => b.withNodeOn streetId.toNat 0 nodeId
    return nodeId

/-- Where an arc length falls: on a vertex, or inside a segment. -/
inductive SplitPlace (K : Type) where
  | vertex (nodeId : ℕ)
  | inside (index : ℕ) (point : PointM K)

def locateArc (b : StreetTopologyBuilder K) (arcLengthM : K) (index : ℕ) (travelled : K) :
    List ℕ → Except (TopologyError K) (SplitPlace K)
  | [] => .error .indexError
  | [last] => .ok (.vertex last)
  | leftId :: rightId :: rest =>
    let left := b.pointOf leftId
    let right := b.pointOf rightId
    let span := Scalar.dist left right
    if span ≤ 0 then locateArc b arcLengthM (index + 1) travelled (rightId :: rest)
    else if travelled + span < arcLengthM then
      locateArc b arcLengthM (index + 1) (travelled + span) (rightId :: rest)
    else
      let remainder := arcLengthM - travelled
      if remainder ≤ weldToleranceM ∧ span - remainder ≤ weldToleranceM then
        .ok (.vertex (if remainder ≤ span - remainder then leftId else rightId))
      else if remainder ≤ weldToleranceM then .ok (.vertex leftId)
      else if span - remainder ≤ weldToleranceM then .ok (.vertex rightId)
      else
        let ratio := remainder / span
        .ok (.inside index
          (left.1 + ratio * (right.1 - left.1), left.2 + ratio * (right.2 - left.2)))

/-- The place of a split; a vertex of the street within the weld tolerance of it is taken. -/
def splitPlace (b : StreetTopologyBuilder K) (streetId : ℤ) (arcLengthM : K) :
    Except (TopologyError K) (SplitPlace K) := do
  let street ← b.requireStreet streetId
  if Scalar.isfinite arcLengthM = false ∨ arcLengthM < 0 then .error (.badArcLength arcLengthM)
  else
    let total := b.arcLengthOf street
    if total + weldToleranceM < arcLengthM then
      .error (.beyondStreet arcLengthM streetId.toNat total)
    else
      match b.locateArc arcLengthM 0 0 street.nodeIds with
      | .ok (.inside index point) =>
        match street.nodeIds.find? fun existing =>
          decide (Scalar.dist (b.pointOf existing) point ≤ weldToleranceM) with
        | some existing => .ok (.vertex existing)
        | none => .ok (.inside index point)
      | place => place

def splitAtArcLength (streetId : ℤ) (arcLengthM : K) : Op K ℕ := do
  match ← Call.query fun b => b.splitPlace streetId arcLengthM with
  | .vertex nodeId => return nodeId
  | .inside index point => do
    let nodeId ← mintNode point
    Call.change fun b => b.withNodeOn streetId.toNat (index + 1) nodeId
    return nodeId

/-- Distance from a point to a segment, and how far along the foot lies. -/
def project (point left right : PointM K) : K × K :=
  let dx := right.1 - left.1
  let dy := right.2 - left.2
  let span := dx * dx + dy * dy
  if span ≤ 0 then (Scalar.dist point left, 0)
  else
    let ratio := ((point.1 - left.1) * dx + (point.2 - left.2) * dy) / span
    let atLeast := if ratio < 0 then 0 else ratio
    let ratio := if 1 < atLeast then 1 else atLeast
    let foot : PointM K := (left.1 + ratio * dx, left.2 + ratio * dy)
    (Scalar.dist point foot, ratio * Scalar.sqrt span)

def bestContact (point : PointM K) (travelled : K) (best : Option (K × K)) :
    List (PointM K) → Option (K × K)
  | left :: right :: rest =>
    let span := Scalar.dist left right
    if span ≤ 0 then bestContact point travelled best (right :: rest)
    else
      let (distance, along) := project point left right
      let best := match best with
        | none => some (distance, travelled + along)
        | some found => if distance < found.1 then some (distance, travelled + along) else best
      bestContact point (travelled + span) best (right :: rest)
  | _ => best

/-- Binds a point onto a street at its projection, when it lies within the tolerance. -/
def contact (streetId : ℤ) (point : PointM K) (toleranceM : K) : Op K (Option ℕ) := do
  let best ← Call.query fun b => do
    let street ← b.requireStreet streetId
    return bestContact point 0 none (b.pointsOf street)
  match best with
  | none => return none
  | some (distance, along) =>
    if toleranceM < distance then return none
    else do
      let nodeId ← splitAtArcLength streetId along
      return some nodeId

def bestSegment (point : PointM K) (index : ℕ) (best : Option ℕ) (bestDistance : K) :
    List (PointM K) → Option ℕ
  | left :: right :: rest =>
    if Scalar.dist left right ≤ 0 then
      bestSegment point (index + 1) best bestDistance (right :: rest)
    else
      let distance := (project point left right).1
      if distance ≤ bestDistance then
        bestSegment point (index + 1) (some index) distance (right :: rest)
      else bestSegment point (index + 1) best bestDistance (right :: rest)
  | _ => best

/-- Inserts an existing node into a street at its projection. -/
def bindNodeIntoStreet (streetId nodeId : ℤ) (toleranceM : K) : Op K Bool := do
  let (street, nodeId) ← Call.query fun b => do
    let street ← b.requireStreet streetId
    let nodeId ← b.requireNode nodeId
    return (street, nodeId)
  if nodeId ∈ street.nodeIds then return true
  else do
    let best ← Call.query fun b =>
      .ok (bestSegment (b.pointOf nodeId) 0 none toleranceM (b.pointsOf street))
    match best with
    | none => return false
    | some index => do
      Call.change fun b => b.withNodeOn streetId.toNat (index + 1) nodeId
      return true

def registerGradeSeparation (nodeA nodeB : ℤ) : Op K Unit := do
  let (nodeA, nodeB) ← Call.query fun b => do
    let nodeA ← b.requireNode nodeA
    let nodeB ← b.requireNode nodeB
    return (nodeA, nodeB)
  Call.change fun b => b.withSeparation nodeA nodeB

inductive BuilderCall (K : Type) where
  | openStreet (points : List (PointM K)) (startNodeId : Option ℤ) (layer : ℤ)
  | extendStreet (streetId : ℤ) (point : PointM K)
  | extendStreetToNode (streetId nodeId : ℤ) (maxGapM : K)
  | prependStreetToNode (streetId nodeId : ℤ) (maxGapM : K)
  | splitAtArcLength (streetId : ℤ) (arcLengthM : K)
  | contact (streetId : ℤ) (point : PointM K) (toleranceM : K)
  | bindNodeIntoStreet (streetId nodeId : ℤ) (toleranceM : K)
  | registerGradeSeparation (nodeA nodeB : ℤ)

def BuilderCall.op : BuilderCall K → Op K Unit
  | openStreet points startNodeId layer =>
    (StreetTopologyBuilder.openStreet points startNodeId layer).drop
  | extendStreet streetId point => (StreetTopologyBuilder.extendStreet streetId point).drop
  | extendStreetToNode streetId nodeId maxGapM =>
    (StreetTopologyBuilder.extendStreetToNode streetId nodeId maxGapM).drop
  | prependStreetToNode streetId nodeId maxGapM =>
    (StreetTopologyBuilder.prependStreetToNode streetId nodeId maxGapM).drop
  | splitAtArcLength streetId arcLengthM =>
    (StreetTopologyBuilder.splitAtArcLength streetId arcLengthM).drop
  | contact streetId point toleranceM =>
    (StreetTopologyBuilder.contact streetId point toleranceM).drop
  | bindNodeIntoStreet streetId nodeId toleranceM =>
    (StreetTopologyBuilder.bindNodeIntoStreet streetId nodeId toleranceM).drop
  | registerGradeSeparation nodeA nodeB => StreetTopologyBuilder.registerGradeSeparation nodeA nodeB

/-- The state after some calls, whether each of them returned or raised. -/
def after (calls : List (BuilderCall K)) : StreetTopologyBuilder K :=
  calls.foldl (fun b call => (call.op b).2) {}

end StreetTopologyBuilder

end Metroflow.City
