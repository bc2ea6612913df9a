import Metroflow.City.Graph
import Metroflow.Lib.Dict
import Metroflow.Map.RoadLinks

namespace Metroflow.City

open Metroflow.Lib Metroflow.Map

/-- What the turn compiler reads of a link. -/
structure LinkLike where
  linkId : ℤ
  srcNodeId : ℤ
  dstNodeId : ℤ
  roadClass : RoadClass
  rampPurpose : Option RampPurpose := none
  deriving DecidableEq, Repr

structure CompiledNodeInterface where
  nodeId : ℤ
  incomingLinkIds : List ℤ
  outgoingLinkIds : List ℤ
  ids_nonneg : 0 ≤ nodeId ∧ ∀ linkId ∈ incomingLinkIds ++ outgoingLinkIds, 0 ≤ linkId
  incoming_ordered : incomingLinkIds.Pairwise (· < ·)
  outgoing_ordered : outgoingLinkIds.Pairwise (· < ·)

structure NodeInterfaceCatalog where
  interfaces : List CompiledNodeInterface
  node_ids : interfaces.Pairwise fun i j => i.nodeId < j.nodeId

def TurnMovement.pair (row : TurnMovement) : ℤ × ℤ := (row.fromLinkId, row.toLinkId)

/-- The turn rows in the order of their link pairs, each pair once. -/
structure TurnAuthorityCatalog where
  movements : List TurnMovement
  ordered : movements.Pairwise fun a b => toLex a.pair < toLex b.pair

namespace TurnAuthorityCatalog

def build (movements : List TurnMovement) : Except String TurnAuthorityCatalog :=
  if distinct : (movements.map fun row => toLex row.pair).Nodup then
    .ok ⟨sortOn (fun row => toLex row.pair) movements, sort_on_strict distinct⟩
  else .error "turn authority must contain unique link pairs"

variable (catalog : TurnAuthorityCatalog)

def movementByPair : Dict (ℤ × ℤ) TurnMovement :=
  Dict.update [] (catalog.movements.map fun row => (row.pair, row))

def indexByPair : Dict (ℤ × ℤ) ℕ :=
  Dict.update [] (catalog.movementByPair.zipIdx.map fun item => (item.1.1, item.2))

def movementForPair (fromLinkId toLinkId : ℤ) : Except String TurnMovement :=
  match catalog.movementByPair.get (fromLinkId, toLinkId) with
  | some row => .ok row
  | none => .error s!"no turn authority for link pair ({fromLinkId}, {toLinkId})"

def indexForPair (fromLinkId toLinkId : ℤ) : Except String ℕ :=
  match catalog.indexByPair.get (fromLinkId, toLinkId) with
  | some index => .ok index
  | none => .error s!"no turn authority for link pair ({fromLinkId}, {toLinkId})"

end TurnAuthorityCatalog

section Compile

variable {K : Type} [Scalar K]

def validatedTolerance (value : K) : Except String K :=
  if Scalar.isfinite value = false ∨ value < 0 ∨ Scalar.ofInt 90 ≤ value then
    .error "through_angle_tolerance_deg must be in [0, 90)"
  else .ok value

def declarations (nodeInterfaces : NodeInterfaceCatalog)
    (linkIds : CompiledNodeInterface → List ℤ) (linkId : ℤ) : List ℤ :=
  nodeInterfaces.interfaces.flatMap fun i =>
    ((linkIds i).filter fun declared => declared = linkId).map fun _ => i.nodeId

def declarationsText (kind : String) (linkId : ℤ) (expected got : List ℤ) : String :=
  s!"{kind} interface declarations for link {linkId} are stale or " ++
    s!"incomplete: expected {expected}, got {got}"

def validateInterfaceAlignment (links : List LinkLike) (nodeInterfaces : NodeInterfaceCatalog) :
    Except String PUnit := do
  nodeInterfaces.interfaces.forM fun i => do
    i.incomingLinkIds.forM fun linkId =>
      raiseIf (linkId ∉ links.map LinkLike.linkId)
        s!"node interface {i.nodeId} references unknown incoming link {linkId}"
    i.outgoingLinkIds.forM fun linkId =>
      raiseIf (linkId ∉ links.map LinkLike.linkId)
        s!"node interface {i.nodeId} references unknown outgoing link {linkId}"
  (sortOn LinkLike.linkId links).forM fun link => do
    let incoming := declarations nodeInterfaces CompiledNodeInterface.incomingLinkIds link.linkId
    let outgoing := declarations nodeInterfaces CompiledNodeInterface.outgoingLinkIds link.linkId
    raiseIf (incoming ≠ [link.dstNodeId])
      (declarationsText "incoming" link.linkId [link.dstNodeId] incoming)
    raiseIf (outgoing ≠ [link.srcNodeId])
      (declarationsText "outgoing" link.linkId [link.srcNodeId] outgoing)

def signedDeflectionDegrees (incomingPoints outgoingPoints : List (PointM K)) : Except String K :=
  match incomingPoints.reverse, outgoingPoints with
  | stop :: before :: _, start :: after :: _ =>
    let incoming : PointM K := (stop.1 - before.1, stop.2 - before.2)
    let outgoing : PointM K := (after.1 - start.1, after.2 - start.2)
    if Scalar.hypot incoming.1 incoming.2 ≤ 0 ∨ Scalar.hypot outgoing.1 outgoing.2 ≤ 0 then
      .error "centerline tangent vectors must have positive length"
    else
      .ok (Scalar.degrees (Scalar.atan2 (incoming.1 * outgoing.2 - incoming.2 * outgoing.1)
        (incoming.1 * outgoing.1 + incoming.2 * outgoing.2)))
  | _, _ => .error "tuple index out of range"

def classifyTurn (fromLink toLink : LinkLike) (incomingPoints outgoingPoints : List (PointM K))
    (throughAngleToleranceDeg : K) : Except String TurnType :=
  if fromLink.dstNodeId ≠ toLink.srcNodeId then
    .error (s!"turn authority requires adjacent incoming/outgoing links: " ++
      s!"{fromLink.linkId} -> {toLink.linkId}")
  else if fromLink.srcNodeId = toLink.dstNodeId then .ok .uTurnForbidden
  -- the stated purpose of a ramp goes before the change of road class
  else if toLink.rampPurpose = some .onRamp ∨ fromLink.rampPurpose = some .onRamp then .ok .rampOn
  else if toLink.rampPurpose = some .offRamp ∨ fromLink.rampPurpose = some .offRamp then
    .ok .rampOff
  else if fromLink.roadClass ≠ .ramp ∧ toLink.roadClass = .ramp then .ok .rampOn
  else if fromLink.roadClass = .ramp ∧ toLink.roadClass ≠ .ramp then .ok .rampOff
  else do
    let signedDeflection ← signedDeflectionDegrees incomingPoints outgoingPoints
    if Scalar.abs signedDeflection ≤ throughAngleToleranceDeg then return .through
    else if 0 < signedDeflection then return .left
    else return .right

def linkById (links : List LinkLike) (linkId : ℤ) : Except String LinkLike :=
  match links.find? fun link => link.linkId = linkId with
  | some link => .ok link
  | none => .error s!"{linkId}"

def compileMovement (roadGeometry : RoadGeometryCatalog K) (tolerance : K)
    (fromLink toLink : LinkLike) : Except String TurnMovement := do
  let incomingPoints ← roadGeometry.pointsForLink fromLink.linkId
  let outgoingPoints ← roadGeometry.pointsForLink toLink.linkId
  let turnType ← classifyTurn fromLink toLink incomingPoints outgoingPoints tolerance
  return {
    fromLinkId := fromLink.linkId
    toLinkId := toLink.linkId
    turnType := turnType
    priority_nonneg := Lib.one_nonneg }

def compileInterface (links : List LinkLike) (roadGeometry : RoadGeometryCatalog K) (tolerance : K)
    (i : CompiledNodeInterface) : Except String (List (List TurnMovement)) :=
  i.incomingLinkIds.mapM fun fromLinkId => do
    let fromLink ← linkById links fromLinkId
    i.outgoingLinkIds.mapM fun toLinkId => do
      let toLink ← linkById links toLinkId
      compileMovement roadGeometry tolerance fromLink toLink

def compileTurnAuthority (links : List LinkLike) (roadGeometry : RoadGeometryCatalog K)
    (nodeInterfaces : NodeInterfaceCatalog) (throughAngleToleranceDeg : K) :
    Except String TurnAuthorityCatalog := do
  let tolerance ← validatedTolerance throughAngleToleranceDeg
  raiseIf (¬ (links.map LinkLike.linkId).Nodup) "links must have unique link_id values"
  validateInterfaceAlignment links nodeInterfaces
  (sortOn LinkLike.linkId links).forM fun link => do
    let _ ← roadGeometry.assignmentForLink link.linkId
  let movements ← nodeInterfaces.interfaces.mapM (compileInterface links roadGeometry tolerance)
  TurnAuthorityCatalog.build movements.flatten.flatten

end Compile

end Metroflow.City
