import Metroflow.City.CanonicalPayload
import Metroflow.City.Graph
import Metroflow.Lib.Dict
import Metroflow.Lib.Keyed
import Metroflow.Map.RoadLinks

namespace Metroflow.City.Csr

open Metroflow.Lib Metroflow.City.Payload

section Rows

variable {F : Type} [PyFloat F]

def plainFloat (value : F) (name : String) (positive : Bool) : Except String F := do
  raiseIf (¬PyFloat.isfinite value) s!"{name} must be finite"
  raiseIf (positive ∧ PyFloat.atMostZero value) s!"{name} must be positive"
  return value

def optionalNonnegativeInt (value : Option ℤ) (name : String) : Except String (Option ℤ) :=
  match value with
  | none => .ok none
  | some value => do
    let value ← plainNonnegativeInt value name
    return some value

structure ImmutableNode (F : Type) where
  nodeId : ℤ
  kind : Map.NodeKind
  x : F
  y : F
  zoneId : Option ℤ
  signalGroupId : Option ℤ

def ImmutableNode.postInit (self : ImmutableNode F) : Except String (ImmutableNode F) := do
  let nodeId ← plainNonnegativeInt self.nodeId "node_id"
  let x ← plainFloat self.x "x" false
  let y ← plainFloat self.y "y" false
  let zoneId ← optionalNonnegativeInt self.zoneId "zone_id"
  let signalGroupId ← optionalNonnegativeInt self.signalGroupId "signal_group_id"
  return { self with nodeId, x, y, zoneId, signalGroupId }

structure ImmutableRoadLink (F : Type) where
  linkId : ℤ
  srcNodeId : ℤ
  dstNodeId : ℤ
  roadClass : Map.RoadClass
  lengthM : F
  freeFlowSpeedMps : F
  capacityVehPerTick : F
  lanes : ℤ
  bridgeGroupId : Option ℤ
  isBlockable : Bool
  physicalRoadId : Option ℤ
  rampPurpose : Option String := none

def ImmutableRoadLink.postInit (self : ImmutableRoadLink F) :
    Except String (ImmutableRoadLink F) := do
  let linkId ← plainNonnegativeInt self.linkId "link_id"
  let srcNodeId ← plainNonnegativeInt self.srcNodeId "src_node_id"
  let dstNodeId ← plainNonnegativeInt self.dstNodeId "dst_node_id"
  raiseIf (srcNodeId = dstNodeId) "link endpoints must differ"
  let lengthM ← plainFloat self.lengthM "length_m" true
  let freeFlowSpeedMps ← plainFloat self.freeFlowSpeedMps "free_flow_speed_mps" true
  let capacityVehPerTick ← plainFloat self.capacityVehPerTick "capacity_veh_per_tick" false
  raiseIf (PyFloat.belowZero capacityVehPerTick) "capacity_veh_per_tick must be nonnegative"
  let lanes ← plainNonnegativeInt self.lanes "lanes"
  raiseIf (lanes < 1) "lanes must be positive"
  let bridgeGroupId ← optionalNonnegativeInt self.bridgeGroupId "bridge_group_id"
  let physicalRoadId ← optionalNonnegativeInt self.physicalRoadId "physical_road_id"
  raiseIf (self.rampPurpose ∉ [none, some "on_ramp", some "off_ramp"])
    "ramp_purpose must be on_ramp or off_ramp when provided"
  raiseIf (self.rampPurpose ≠ none ∧ self.roadClass ≠ .ramp)
    "ramp_purpose requires RoadClass.RAMP"
  return { self with
    linkId, srcNodeId, dstNodeId, lengthM, freeFlowSpeedMps, capacityVehPerTick, lanes,
    bridgeGroupId, physicalRoadId }

structure ImmutableTurnMovement (F : Type) where
  fromLinkId : ℤ
  toLinkId : ℤ
  turnType : TurnType
  basePriority : F
  signalPhaseId : Option ℤ

def ImmutableTurnMovement.postInit (self : ImmutableTurnMovement F) :
    Except String (ImmutableTurnMovement F) := do
  let fromLinkId ← plainNonnegativeInt self.fromLinkId "from_link_id"
  let toLinkId ← plainNonnegativeInt self.toLinkId "to_link_id"
  let basePriority ← plainFloat self.basePriority "base_priority" false
  raiseIf (PyFloat.belowZero basePriority) "base_priority must be nonnegative"
  let signalPhaseId ← optionalNonnegativeInt self.signalPhaseId "signal_phase_id"
  return { self with fromLinkId, toLinkId, basePriority, signalPhaseId }

structure ImmutableBridgeCrossing where
  bridgeGroupId : ℤ
  linkIds : List ℤ
  barrierId : ℤ
  crossingName : String
  bottleneckRankHint : Option ℤ

def ImmutableBridgeCrossing.postInit (self : ImmutableBridgeCrossing) :
    Except String ImmutableBridgeCrossing := do
  let bridgeGroupId ← plainNonnegativeInt self.bridgeGroupId "bridge_group_id"
  let linkIds ← self.linkIds.mapM fun value => plainNonnegativeInt value "bridge link id"
  raiseIf (linkIds = [] ∨ ¬linkIds.Nodup) "bridge link IDs must be nonempty and unique"
  let barrierId ← plainNonnegativeInt self.barrierId "barrier_id"
  raiseIf (self.crossingName = "") "crossing_name must be a nonempty built-in string"
  let bottleneckRankHint ← optionalNonnegativeInt self.bottleneckRankHint "bottleneck_rank_hint"
  return { self with bridgeGroupId, linkIds, barrierId, bottleneckRankHint }

end Rows

section Arrays

/-- What is asked of NumPy's single precision numbers. -/
class Numpy (F : Type) (S : outParam Type) where
  /-- a float stored as `np.float32` -/
  float32 : F → S
  /-- `==` of two stored numbers -/
  same : S → S → Bool
  bytes : S → Bytes

inductive Cell (S : Type) where
  | int (value : ℤ)
  | single (value : S)
  | bool (value : Bool)

/-- What the memory of an array belongs to. -/
inductive ArrayBase where
  | none
  | bytes
  | array (base : ArrayBase)
  | other
  deriving DecidableEq

/-- `while type(terminal) is np.ndarray: terminal = terminal.base` -/
def ArrayBase.terminal : ArrayBase → ArrayBase
  | .array base => base.terminal
  | base => base

/-- An array with its entries in C order. -/
structure NdArray (S : Type) where
  dtype : String
  shape : List ℕ
  cells : List (Cell S)
  cContiguous : Bool := true
  writeable : Bool := true
  base : ArrayBase := .none

variable {F S : Type} [Numpy F S]

def Cell.same (F : Type) {S : Type} [Numpy F S] : Cell S → Cell S → Bool
  | .int a, .int b => a = b
  | .bool a, .bool b => a = b
  | .single a, .single b => Numpy.same F a b
  | _, _ => false

def Cell.bytes (F : Type) {S : Type} [Numpy F S] : Cell S → Bytes
  | .int value => (toBytes 4 (value % 2 ^ 32).toNat).reverse
  | .bool value => [if value then 1 else 0]
  | .single value => Numpy.bytes F value

/-- `np.array_equal` -/
def arrayEqual (F : Type) {S : Type} [Numpy F S] (a b : NdArray S) : Bool :=
  a.shape = b.shape ∧ a.cells.length = b.cells.length ∧
    (a.cells.zip b.cells).all fun pair => pair.1.same F pair.2

/-- `np.asarray(values, dtype=np.int32)` -/
def int32Array (values : List ℤ) : Except String (NdArray S) := do
  values.forM fun value => raiseIf (¬(-2 ^ 31 ≤ value ∧ value < 2 ^ 31))
    s!"Python integer {value} out of bounds for int32"
  return { dtype := "<i4", shape := [values.length], cells := values.map .int }

def float32Array (values : List F) : NdArray S where
  dtype := "<f4"
  shape := [values.length]
  cells := values.map fun value => .single (Numpy.float32 value)

def boolArray (values : List Bool) : NdArray S where
  dtype := "|b1"
  shape := [values.length]
  cells := values.map .bool

def sealCArray (source : NdArray S) : Except String (NdArray S) := do
  raiseIf (¬source.cContiguous) "source array must be C-contiguous"
  return { source with cContiguous := true, writeable := false, base := .array .bytes }

def arrayPayload (F : Type) {S : Type} [Numpy F S] (name : String) (array : NdArray S) :
    PyValue F :=
  let bytes := array.cells.flatMap (Cell.bytes F)
  .tuple [.str name, .str array.dtype, .tuple (array.shape.map fun n => .int n), .str "C",
    .int bytes.length, .str (hexdigest (sha256 bytes))]

/-- The next link is written at the place of its node. -/
def writeLink (s : List ℕ × List ℕ) (link : ℤ × ℕ) : List ℕ × List ℕ :=
  let position := s.1.getD link.1.toNat 0
  (s.1.set link.1.toNat (position + 1), s.2.set position link.2)

def linkCsrArrays (nodeCount : ℕ) (nodeIndices : List ℤ) :
    Except String (NdArray S × NdArray S) := do
  let counts := nodeIndices.foldl (fun counts nodeIndex =>
    counts.set nodeIndex.toNat (counts.getD nodeIndex.toNat 0 + 1)) (List.replicate nodeCount 0)
  let indptr := counts.foldl (fun indptr count => indptr ++ [indptr.getLastD 0 + count]) [0]
  let indices := (nodeIndices.zipIdx.foldl writeLink
    (indptr.dropLast, List.replicate nodeIndices.length 0)).2
  let indptr ← int32Array (indptr.map Nat.cast)
  let indices ← int32Array (indices.map Nat.cast)
  return (indptr, indices)

end Arrays

section Model

inductive MappingKind where
  | dict
  | mappingProxy
  | other
  deriving DecidableEq

structure PyMapping (κ : Type) where
  kind : MappingKind
  items : Dict κ ℤ

inductive ArrayName where
  | nodeIds
  | linkIds
  | linkSrcNodeIndex
  | linkDstNodeIndex
  | outgoingIndptr
  | outgoingLinkIndices
  | incomingIndptr
  | incomingLinkIndices
  | turnFromLinkIndex
  | turnToLinkIndex
  | turnBasePriority
  | turnIsForbidden
  deriving DecidableEq

def ArrayName.name : ArrayName → String
  | nodeIds => "node_ids"
  | linkIds => "link_ids"
  | linkSrcNodeIndex => "link_src_node_index"
  | linkDstNodeIndex => "link_dst_node_index"
  | outgoingIndptr => "outgoing_indptr"
  | outgoingLinkIndices => "outgoing_link_indices"
  | incomingIndptr => "incoming_indptr"
  | incomingLinkIndices => "incoming_link_indices"
  | turnFromLinkIndex => "turn_from_link_index"
  | turnToLinkIndex => "turn_to_link_index"
  | turnBasePriority => "turn_base_priority"
  | turnIsForbidden => "turn_is_forbidden"

def ArrayName.all : List ArrayName :=
  [nodeIds, linkIds, linkSrcNodeIndex, linkDstNodeIndex, outgoingIndptr, outgoingLinkIndices,
    incomingIndptr, incomingLinkIndices, turnFromLinkIndex, turnToLinkIndex, turnBasePriority,
    turnIsForbidden]

structure ImmutableRoadNetworkCSR (F S : Type) where
  schemaVersion : String
  nodes : List (ImmutableNode F)
  links : List (ImmutableRoadLink F)
  turns : List (ImmutableTurnMovement F)
  bridgeCrossings : List ImmutableBridgeCrossing
  nodeIdToIndex : PyMapping ℤ
  linkIdToIndex : PyMapping ℤ
  turnPairToIndex : PyMapping (ℤ × ℤ)
  /-- the twelve arrays, by their names -/
  arrays : ArrayName → NdArray S
  topologyCacheKey : PyValue F
  contentFingerprint : String := ""

variable {F S : Type} [PyFloat F] [Numpy F S]

def immutableCsrSchema : String := "immutable_road_network_csr_v1"

def nodeIndexOf (nodes : List (ImmutableNode F)) : Dict ℤ ℤ :=
  Dict.update [] (nodes.zipIdx.map fun item => (item.1.nodeId, (item.2 : ℤ)))

def linkIndexOf (links : List (ImmutableRoadLink F)) : Dict ℤ ℤ :=
  Dict.update [] (links.zipIdx.map fun item => (item.1.linkId, (item.2 : ℤ)))

/-- Both loops over the turns, which name what is wrong in words of their own. -/
def addTurn (linkIndex : Dict ℤ ℤ) (unknown twice : String) (expectedPairs : Dict (ℤ × ℤ) ℤ)
    (item : ImmutableTurnMovement F × ℕ) : Except String (Dict (ℤ × ℤ) ℤ) := do
  raiseIf (item.1.fromLinkId ∉ linkIndex.map Prod.fst ∨
    item.1.toLinkId ∉ linkIndex.map Prod.fst) unknown
  let pair := (item.1.fromLinkId, item.1.toLinkId)
  if item.1.turnType ≠ .uTurnForbidden then
    raiseIf (pair ∈ expectedPairs.map Prod.fst) twice
    return expectedPairs.set pair item.2
  return expectedPairs

/-- `index[key]` -/
def lookup (index : Dict ℤ ℤ) (key : ℤ) : Except String ℤ :=
  match index.get key with
  | none => .error s!"{key}"
  | some value => .ok value

/-- The arrays that the rows stand for. -/
def expectedArrays (nodes : List (ImmutableNode F)) (links : List (ImmutableRoadLink F))
    (turns : List (ImmutableTurnMovement F)) : Except String (ArrayName → NdArray S) := do
  let nodeIndex := nodeIndexOf nodes
  let linkIndex := linkIndexOf links
  let src ← links.mapM fun link => lookup nodeIndex link.srcNodeId
  let dst ← links.mapM fun link => lookup nodeIndex link.dstNodeId
  let outgoing ← linkCsrArrays nodes.length src
  let incoming ← linkCsrArrays nodes.length dst
  let nodeIds ← int32Array (nodes.map ImmutableNode.nodeId)
  let linkIds ← int32Array (links.map ImmutableRoadLink.linkId)
  let linkSrc ← int32Array src
  let linkDst ← int32Array dst
  let turnFrom ← turns.mapM fun turn => lookup linkIndex turn.fromLinkId
  let turnFrom ← int32Array turnFrom
  let turnTo ← turns.mapM fun turn => lookup linkIndex turn.toLinkId
  let turnTo ← int32Array turnTo
  return fun
    | .nodeIds => nodeIds
    | .linkIds => linkIds
    | .linkSrcNodeIndex => linkSrc
    | .linkDstNodeIndex => linkDst
    | .outgoingIndptr => outgoing.1
    | .outgoingLinkIndices => outgoing.2
    | .incomingIndptr => incoming.1
    | .incomingLinkIndices => incoming.2
    | .turnFromLinkIndex => turnFrom
    | .turnToLinkIndex => turnTo
    | .turnBasePriority => float32Array (turns.map ImmutableTurnMovement.basePriority)
    | .turnIsForbidden => boolArray (turns.map fun turn => turn.turnType = .uTurnForbidden)

mutual

def validateItem (name : String) : PyValue F → Except String (PyValue F)
  | .none => return .none
  | .bool value => return .bool value
  | .int value => return .int value
  | .str value => return .str value
  | .float value => do
    raiseIf (¬PyFloat.isfinite value) s!"{name} floats must be finite"
    return .float value
  | .tuple items => do
    let items ← validateItems name items
    return .tuple items
  | .fraction _ | .enum _ | .other _ => .error s!"{name} contains behavior-bearing data"

def validateItems (name : String) : List (PyValue F) → Except String (List (PyValue F))
  | [] => return []
  | item :: items => do
    let item ← validateItem name item
    let items ← validateItems name items
    return item :: items

end

def behaviorFreeTuple (value : PyValue F) (name : String) : Except String (PyValue F) :=
  match value with
  | .tuple items => do
    let items ← validateItems name items
    return .tuple items
  | _ => .error s!"{name} must be a built-in tuple"

def nodeKindValue : Map.NodeKind → String
  | .intersection => "intersection"
  | .rampMerge => "ramp_merge"
  | .rampSplit => "ramp_split"
  | .interchange => "interchange"
  | .bridgeEndpoint => "bridge_endpoint"

def roadClassValue : Map.RoadClass → String
  | .localRoad => "local"
  | .collector => "collector"
  | .arterial => "arterial"
  | .expressway => "expressway"
  | .ramp => "ramp"
  | .bridge => "bridge"

def turnTypeValue : TurnType → String
  | .left => "left"
  | .through => "through"
  | .right => "right"
  | .rampOn => "ramp_on"
  | .rampOff => "ramp_off"
  | .uTurnForbidden => "u_turn_forbidden"

def optionalInt : Option ℤ → PyValue F
  | none => .none
  | some value => .int value

def ImmutableNode.payload (node : ImmutableNode F) : PyValue F :=
  .tuple [.int node.nodeId, .enum (nodeKindValue node.kind), .float node.x, .float node.y,
    optionalInt node.zoneId, optionalInt node.signalGroupId]

def ImmutableRoadLink.payload (link : ImmutableRoadLink F) : PyValue F :=
  .tuple [.int link.linkId, .int link.srcNodeId, .int link.dstNodeId,
    .enum (roadClassValue link.roadClass), .float link.lengthM, .float link.freeFlowSpeedMps,
    .float link.capacityVehPerTick, .int link.lanes, optionalInt link.bridgeGroupId,
    .bool link.isBlockable, optionalInt link.physicalRoadId,
    match link.rampPurpose with
    | none => .none
    | some purpose => .str purpose]

def ImmutableTurnMovement.payload (turn : ImmutableTurnMovement F) : PyValue F :=
  .tuple [.int turn.fromLinkId, .int turn.toLinkId, .enum (turnTypeValue turn.turnType),
    .float turn.basePriority, optionalInt turn.signalPhaseId]

def ImmutableBridgeCrossing.payload (bridge : ImmutableBridgeCrossing) : PyValue F :=
  .tuple [.int bridge.bridgeGroupId, .tuple (bridge.linkIds.map .int), .int bridge.barrierId,
    .str bridge.crossingName, optionalInt bridge.bottleneckRankHint]

/-- What the fingerprint is taken of. -/
def csrPayload (self : ImmutableRoadNetworkCSR F S) (expectedPairs : Dict (ℤ × ℤ) ℤ)
    (arrayPayloads : List (PyValue F)) (topologyKey : PyValue F) : PyValue F :=
  .tuple [.str immutableCsrSchema,
    .tuple (self.nodes.map ImmutableNode.payload),
    .tuple (self.links.map ImmutableRoadLink.payload),
    .tuple (self.turns.map ImmutableTurnMovement.payload),
    .tuple (self.bridgeCrossings.map ImmutableBridgeCrossing.payload),
    .tuple ((sortOn toLex (nodeIndexOf self.nodes)).map fun item =>
      .tuple [.int item.1, .int item.2]),
    .tuple ((sortOn toLex (linkIndexOf self.links)).map fun item =>
      .tuple [.int item.1, .int item.2]),
    .tuple ((sortOn (fun item => toLex (toLex item.1, item.2)) expectedPairs).map fun item =>
      .tuple [.tuple [.int item.1.1, .int item.1.2], .int item.2]),
    .tuple arrayPayloads, topologyKey]

def sealMapping {κ : Type} [DecidableEq κ] (name : String) (supplied : PyMapping κ)
    (expected : Dict κ ℤ) : Except String (PyMapping κ) := do
  raiseIf (supplied.kind = .other) s!"{name} must be a built-in dict or mapping proxy"
  let copied := Dict.update [] supplied.items
  raiseIf (¬copied.Perm expected) s!"{name} differs from immutable rows"
  return ⟨.mappingProxy, copied⟩

def sealArray (expected : ArrayName → NdArray S)
    (s : (ArrayName → NdArray S) × List (PyValue F)) (name : ArrayName) :
    Except String ((ArrayName → NdArray S) × List (PyValue F)) := do
  let supplied := s.1 name
  raiseIf (supplied.dtype ≠ (expected name).dtype ∨ supplied.shape ≠ (expected name).shape ∨
    ¬supplied.cContiguous ∨ ¬arrayEqual F supplied (expected name))
    s!"{name.name} differs from immutable rows"
  let sealed ← sealCArray supplied
  return (Function.update s.1 name sealed, s.2 ++ [arrayPayload F name.name sealed])

def ImmutableRoadNetworkCSR.postInit (text : PyText) (self : ImmutableRoadNetworkCSR F S) :
    Except String (ImmutableRoadNetworkCSR F S) := do
  raiseIf (self.schemaVersion ≠ immutableCsrSchema) "immutable CSR schema mismatch"
  let nodeIndex := nodeIndexOf self.nodes
  let linkIndex := linkIndexOf self.links
  raiseIf (nodeIndex.length ≠ self.nodes.length ∨ linkIndex.length ≠ self.links.length)
    "node and link IDs must be unique"
  self.links.forM fun link => raiseIf (link.srcNodeId ∉ nodeIndex.map Prod.fst ∨
    link.dstNodeId ∉ nodeIndex.map Prod.fst) "link references an unknown node"
  let expectedPairs ← self.turns.zipIdx.foldlM (addTurn linkIndex
    "turn references an unknown link" "legal turn pairs must be unique") []
  let nodeIdToIndex ← sealMapping "node_id_to_index" self.nodeIdToIndex nodeIndex
  let linkIdToIndex ← sealMapping "link_id_to_index" self.linkIdToIndex linkIndex
  let turnPairToIndex ← sealMapping "turn_pair_to_index" self.turnPairToIndex expectedPairs
  let expected ← expectedArrays self.nodes self.links self.turns
  let arrays ← ArrayName.all.foldlM (sealArray expected) (self.arrays, [])
  let topologyKey ← behaviorFreeTuple self.topologyCacheKey "topology_cache_key"
  let expectedFingerprint ← sha256Payload (csrPayload self expectedPairs arrays.2 topologyKey)
  let self := { self with
    nodeIdToIndex, linkIdToIndex, turnPairToIndex, arrays := arrays.1,
    topologyCacheKey := topologyKey }
  if self.contentFingerprint ≠ "" then
    let supplied ← digestText text self.contentFingerprint "content_fingerprint"
    raiseIf (supplied ≠ expectedFingerprint) "immutable CSR content fingerprint mismatch"
    return self
  return { self with contentFingerprint := expectedFingerprint }

def currentMapping {κ : Type} [DecidableEq κ] (supplied : PyMapping κ) (expected : Dict κ ℤ) :
    Except String Unit :=
  raiseIf (supplied.kind ≠ .mappingProxy ∨ ¬(Dict.update [] supplied.items).Perm expected)
    "immutable CSR mapping differs from its rows"

def currentArray (expected supplied : ArrayName → NdArray S) (arrayPayloads : List (PyValue F))
    (name : ArrayName) : Except String (List (PyValue F)) := do
  raiseIf ((supplied name).dtype ≠ (expected name).dtype ∨
    (supplied name).shape ≠ (expected name).shape ∨ ¬(supplied name).cContiguous ∨
    (supplied name).writeable ∨ ¬arrayEqual F (supplied name) (expected name))
    s!"{name.name} differs from immutable CSR rows"
  raiseIf ((supplied name).base.terminal ≠ .bytes) s!"{name.name} is not irreversibly bytes-backed"
  return arrayPayloads ++ [arrayPayload F name.name (supplied name)]

def requireCurrentImmutableCsrContent (text : PyText) (csr : ImmutableRoadNetworkCSR F S) :
    Except String Unit := do
  csr.nodes.forM fun row => do let _ ← row.postInit
  csr.links.forM fun row => do let _ ← row.postInit
  csr.turns.forM fun row => do let _ ← row.postInit
  csr.bridgeCrossings.forM fun row => do let _ ← row.postInit
  let nodeIndex := nodeIndexOf csr.nodes
  let linkIndex := linkIndexOf csr.links
  raiseIf (nodeIndex.length ≠ csr.nodes.length ∨ linkIndex.length ≠ csr.links.length)
    "immutable CSR IDs must remain unique"
  raiseIf (∃ link ∈ csr.links, link.srcNodeId ∉ nodeIndex.map Prod.fst ∨
    link.dstNodeId ∉ nodeIndex.map Prod.fst) "immutable CSR link references an unknown node"
  let expectedPairs ← csr.turns.zipIdx.foldlM (addTurn linkIndex
    "immutable CSR turn references an unknown link"
    "immutable CSR legal turn pairs must remain unique") []
  raiseIf (∃ bridge ∈ csr.bridgeCrossings, ∃ linkId ∈ bridge.linkIds,
    linkId ∉ linkIndex.map Prod.fst) "immutable bridge references an unknown link"
  currentMapping csr.nodeIdToIndex nodeIndex
  currentMapping csr.linkIdToIndex linkIndex
  currentMapping csr.turnPairToIndex expectedPairs
  let expected ← expectedArrays csr.nodes csr.links csr.turns
  let arrayPayloads ← ArrayName.all.foldlM (currentArray expected csr.arrays) []
  let topologyKey ← behaviorFreeTuple csr.topologyCacheKey "topology_cache_key"
  let expectedFingerprint ← sha256Payload (csrPayload csr expectedPairs arrayPayloads topologyKey)
  let supplied ← digestText text csr.contentFingerprint "content_fingerprint"
  raiseIf (supplied ≠ expectedFingerprint) "immutable CSR current-content fingerprint mismatch"

end Model

section Rebuilt

variable {F : Type} [PyFloat F]

theorem plain_float_same {value v : F} {name : String} {positive : Bool}
    (run : plainFloat value name positive = .ok v) : v = value := by
  unfold plainFloat at run
  obtain ⟨_, -, run⟩ := bind_ok.mp run
  obtain ⟨_, -, run⟩ := bind_ok.mp run
  exact (pure_ok.mp run).symm

theorem optional_same {value v : Option ℤ} {name : String}
    (run : optionalNonnegativeInt value name = .ok v) : v = value := by
  unfold optionalNonnegativeInt at run
  cases value with
  | none => exact (Except.ok.inj run).symm
  | some value =>
    obtain ⟨_, read, run⟩ := bind_ok.mp run
    rw [← pure_ok.mp run, (plain_nonnegative_int_ok.mp read).2]

theorem node_same {raw row : ImmutableNode F} (run : raw.postInit = .ok row) : row = raw := by
  unfold ImmutableNode.postInit at run
  obtain ⟨_, id, run⟩ := bind_ok.mp run
  obtain ⟨_, x, run⟩ := bind_ok.mp run
  obtain ⟨_, y, run⟩ := bind_ok.mp run
  obtain ⟨_, zone, run⟩ := bind_ok.mp run
  obtain ⟨_, signal, run⟩ := bind_ok.mp run
  rw [← pure_ok.mp run, (plain_nonnegative_int_ok.mp id).2, plain_float_same x,
    plain_float_same y, optional_same zone, optional_same signal]

theorem link_same {raw row : ImmutableRoadLink F} (run : raw.postInit = .ok row) : row = raw := by
  unfold ImmutableRoadLink.postInit at run
  obtain ⟨_, id, run⟩ := bind_ok.mp run
  obtain ⟨_, src, run⟩ := bind_ok.mp run
  obtain ⟨_, dst, run⟩ := bind_ok.mp run
  obtain ⟨_, -, run⟩ := bind_ok.mp run
  obtain ⟨_, length, run⟩ := bind_ok.mp run
  obtain ⟨_, speed, run⟩ := bind_ok.mp run
  obtain ⟨_, capacity, run⟩ := bind_ok.mp run
  obtain ⟨_, -, run⟩ := bind_ok.mp run
  obtain ⟨_, lanes, run⟩ := bind_ok.mp run
  obtain ⟨_, -, run⟩ := bind_ok.mp run
  obtain ⟨_, group, run⟩ := bind_ok.mp run
  obtain ⟨_, road, run⟩ := bind_ok.mp run
  obtain ⟨_, -, run⟩ := bind_ok.mp run
  obtain ⟨_, -, run⟩ := bind_ok.mp run
  rw [← pure_ok.mp run, (plain_nonnegative_int_ok.mp id).2, (plain_nonnegative_int_ok.mp src).2,
    (plain_nonnegative_int_ok.mp dst).2, plain_float_same length, plain_float_same speed,
    plain_float_same capacity, (plain_nonnegative_int_ok.mp lanes).2, optional_same group,
    optional_same road]

theorem turn_same {raw row : ImmutableTurnMovement F} (run : raw.postInit = .ok row) :
    row = raw := by
  unfold ImmutableTurnMovement.postInit at run
  obtain ⟨_, source, run⟩ := bind_ok.mp run
  obtain ⟨_, target, run⟩ := bind_ok.mp run
  obtain ⟨_, priority, run⟩ := bind_ok.mp run
  obtain ⟨_, -, run⟩ := bind_ok.mp run
  obtain ⟨_, phase, run⟩ := bind_ok.mp run
  rw [← pure_ok.mp run, (plain_nonnegative_int_ok.mp source).2,
    (plain_nonnegative_int_ok.mp target).2, plain_float_same priority, optional_same phase]

theorem bridge_same {raw row : ImmutableBridgeCrossing} (run : raw.postInit = .ok row) :
    row = raw := by
  unfold ImmutableBridgeCrossing.postInit at run
  obtain ⟨_, group, run⟩ := bind_ok.mp run
  obtain ⟨_, links, run⟩ := bind_ok.mp run
  obtain ⟨_, -, run⟩ := bind_ok.mp run
  obtain ⟨_, barrier, run⟩ := bind_ok.mp run
  obtain ⟨_, -, run⟩ := bind_ok.mp run
  obtain ⟨_, hint, run⟩ := bind_ok.mp run
  rw [← pure_ok.mp run, (plain_nonnegative_int_ok.mp group).2, (plain_members.mp links).2,
    (plain_nonnegative_int_ok.mp barrier).2, optional_same hint]

theorem rebuilt {α : Type} {postInit : α → Except String α} {rows : List α}
    (same : ∀ raw row, postInit raw = .ok row → row = raw)
    (built : ∀ row ∈ rows, ∃ raw, postInit raw = .ok row) :
    (rows.forM fun row => do let _ ← postInit row) = .ok () := by
  refine each_ok.mpr fun row listed => ?_
  obtain ⟨raw, run⟩ := built row listed
  rw [← same raw row run] at run
  exact bind_ok.mpr ⟨row, run, rfl⟩

mutual

theorem validate_item_same {name : String} : ∀ {item item' : PyValue F},
    validateItem name item = .ok item' → item' = item
  | .none, _, run => (pure_ok.mp run).symm
  | .bool _, _, run => (pure_ok.mp run).symm
  | .int _, _, run => (pure_ok.mp run).symm
  | .str _, _, run => (pure_ok.mp run).symm
  | .float _, _, run => by
    obtain ⟨_, -, run⟩ := bind_ok.mp run
    exact (pure_ok.mp run).symm
  | .tuple items, _, run => by
    obtain ⟨items', kept, run⟩ := bind_ok.mp run
    rw [← pure_ok.mp run, validate_items_same kept]

theorem validate_items_same {name : String} : ∀ {items items' : List (PyValue F)},
    validateItems name items = .ok items' → items' = items
  | [], _, run => (pure_ok.mp run).symm
  | _ :: _, _, run => by
    obtain ⟨_, first, run⟩ := bind_ok.mp run
    obtain ⟨_, later, run⟩ := bind_ok.mp run
    rw [← pure_ok.mp run, validate_item_same first, validate_items_same later]

end

theorem behavior_free_same {value key : PyValue F} {name : String}
    (run : behaviorFreeTuple value name = .ok key) : key = value := by
  unfold behaviorFreeTuple at run
  split at run
  · obtain ⟨_, kept, run⟩ := bind_ok.mp run
    rw [← pure_ok.mp run, validate_items_same kept]
  · cases run

end Rebuilt

section Agreement

variable {F S : Type}

theorem mem_link_index {links : List (ImmutableRoadLink F)} {id : ℤ} :
    id ∈ (linkIndexOf links).map Prod.fst ↔ id ∈ links.map ImmutableRoadLink.linkId := by
  have ids : (links.zipIdx.map fun item => (item.1.linkId, (item.2 : ℤ))).map Prod.fst =
      links.map ImmutableRoadLink.linkId := by
    rw [List.map_map]
    conv_rhs => rw [← List.zipIdx_map_fst 0 links, List.map_map]
    rfl
  unfold linkIndexOf
  rw [Dict.mem_keys_update, ids]
  simp

theorem add_turn_ok {linkIndex : Dict ℤ ℤ} {unknown unknown' twice twice' : String}
    {d d' : Dict (ℤ × ℤ) ℤ} {item : ImmutableTurnMovement F × ℕ}
    (run : addTurn linkIndex unknown twice d item = .ok d') :
    addTurn linkIndex unknown' twice' d item = .ok d' := by
  unfold addTurn at run ⊢
  obtain ⟨_, known, run⟩ := bind_ok.mp run
  refine bind_ok.mpr ⟨(), raise_if_ok.mpr (raise_if_ok.mp known), ?_⟩
  split at run
  · rename_i legal
    obtain ⟨_, new, run⟩ := bind_ok.mp run
    rw [if_pos legal]
    exact bind_ok.mpr ⟨(), raise_if_ok.mpr (raise_if_ok.mp new), run⟩
  · rename_i forbidden
    rw [if_neg forbidden]
    exact run

theorem add_turns_ok {linkIndex : Dict ℤ ℤ} {unknown unknown' twice twice' : String}
    {items : List (ImmutableTurnMovement F × ℕ)} {d d' : Dict (ℤ × ℤ) ℤ}
    (run : items.foldlM (addTurn linkIndex unknown twice) d = .ok d') :
    items.foldlM (addTurn linkIndex unknown' twice') d = .ok d' := by
  induction items generalizing d with
  | nil => exact run
  | cons item items ih =>
    obtain ⟨_, first, later⟩ := fold_cons.mp run
    exact fold_cons.mpr ⟨_, add_turn_ok first, ih later⟩

section Seals

variable [Numpy F S]

theorem sealed_current {κ : Type} [DecidableEq κ] {name : String} {supplied result : PyMapping κ}
    {expected : Dict κ ℤ} (run : sealMapping name supplied expected = .ok result) :
    currentMapping result expected = .ok () := by
  unfold sealMapping at run
  obtain ⟨_, -, run⟩ := bind_ok.mp run
  obtain ⟨_, same, run⟩ := bind_ok.mp run
  obtain rfl := pure_ok.mp run
  have distinct : ((Dict.update [] supplied.items).map Prod.fst).Nodup :=
    Dict.nodup_keys_update List.nodup_nil
  refine raise_if_ok.mpr ?_
  rw [not_or, not_not, not_not, Dict.update_nil distinct]
  exact ⟨rfl, not_not.mp (raise_if_ok.mp same)⟩

def sealedArray (array : NdArray S) : NdArray S :=
  { array with cContiguous := true, writeable := false, base := .array .bytes }

/-- What the loop over the arrays leaves. -/
structure SealedArrays (expected before : ArrayName → NdArray S) (past : List ArrayName)
    (s : (ArrayName → NdArray S) × List (PyValue F)) : Prop where
  done : ∀ name ∈ past, s.1 name = sealedArray (before name)
  todo : ∀ name, name ∉ past → s.1 name = before name
  payloads : s.2 = past.map fun name => arrayPayload F name.name (sealedArray (before name))
  same : ∀ name ∈ past, (before name).dtype = (expected name).dtype ∧
    (before name).shape = (expected name).shape ∧ arrayEqual F (before name) (expected name)

theorem seal_array_step {expected before : ArrayName → NdArray S} {past : List ArrayName}
    {s s' : (ArrayName → NdArray S) × List (PyValue F)} {name : ArrayName}
    (h : SealedArrays expected before past s) (new : name ∉ past)
    (run : sealArray expected s name = .ok s') :
    SealedArrays expected before (past ++ [name]) s' := by
  unfold sealArray at run
  obtain ⟨_, fits, run⟩ := bind_ok.mp run
  obtain ⟨array, sealing, run⟩ := bind_ok.mp run
  obtain rfl := pure_ok.mp run
  unfold sealCArray at sealing
  obtain ⟨_, -, sealing⟩ := bind_ok.mp sealing
  have fits := raise_if_ok.mp fits
  obtain rfl : sealedArray (before name) = array := by
    rw [← h.todo name new]
    exact pure_ok.mp sealing
  rw [h.todo name new] at fits
  simp only [not_or, not_not] at fits
  refine ⟨fun other listed => ?_, fun other absent => ?_, ?_, fun other listed => ?_⟩
  · rcases List.mem_append.mp listed with before_it | here
    · have apart : other ≠ name := fun same => new (same ▸ before_it)
      dsimp only
      rw [Function.update_of_ne apart]
      exact h.done other before_it
    · dsimp only
      rw [List.mem_singleton.mp here, Function.update_self]
  · rw [List.mem_append, not_or, List.mem_singleton] at absent
    dsimp only
    rw [Function.update_of_ne absent.2]
    exact h.todo other absent.1
  · rw [h.payloads, List.map_append]
    rfl
  · rcases List.mem_append.mp listed with before_it | here
    · exact h.same other before_it
    · rw [List.mem_singleton.mp here]
      exact ⟨fits.1, fits.2.1, fits.2.2.2⟩

theorem sealed_arrays {expected before : ArrayName → NdArray S}
    {s : (ArrayName → NdArray S) × List (PyValue F)}
    (run : ArrayName.all.foldlM (sealArray expected) (before, []) = .ok s) :
    SealedArrays expected before ArrayName.all s := by
  refine fold_progress (I := SealedArrays expected before) ?_
    ⟨by simp, by simp, rfl, by simp⟩ run
  intro past name rest s s' split h step
  refine seal_array_step h (fun seen => ?_) step
  have distinct : ArrayName.all.Nodup := by decide
  rw [split] at distinct
  exact (List.nodup_append.mp distinct).2.2 _ seen _ List.mem_cons_self rfl

theorem arrays_current {expected before : ArrayName → NdArray S}
    {s : (ArrayName → NdArray S) × List (PyValue F)}
    (h : SealedArrays expected before ArrayName.all s) :
    ArrayName.all.foldlM (currentArray (F := F) expected s.1) [] = .ok s.2 := by
  obtain ⟨payloads, run, rfl⟩ := fold_total (f := currentArray (F := F) expected s.1)
    (l := ArrayName.all) (s := [])
    (I := fun past payloads => payloads = past.map fun name =>
      arrayPayload F name.name (sealedArray (before name))) (by
    rintro past name rest payloads split rfl
    have listed : name ∈ ArrayName.all := by simp [split]
    have sealing := h.done name listed
    obtain ⟨dtype, shape, equal⟩ := h.same name listed
    refine ⟨_, ?_, List.map_append.symm⟩
    unfold currentArray
    rw [sealing]
    refine bind_ok.mpr ⟨(), raise_if_ok.mpr ?_, bind_ok.mpr ⟨(), raise_if_ok.mpr ?_, rfl⟩⟩
    · simp only [not_or, not_not]
      exact ⟨dtype, shape, rfl, Bool.false_ne_true, equal⟩
    · exact not_not.mpr rfl) rfl
  rw [run, h.payloads]

end Seals

variable [PyFloat F] [Numpy F S] {text : PyText} {raw csr : ImmutableRoadNetworkCSR F S}

/-- Rows that their constructors made. -/
structure BuiltRows (csr : ImmutableRoadNetworkCSR F S) : Prop where
  nodes : ∀ row ∈ csr.nodes, ∃ raw : ImmutableNode F, raw.postInit = .ok row
  links : ∀ row ∈ csr.links, ∃ raw : ImmutableRoadLink F, raw.postInit = .ok row
  turns : ∀ row ∈ csr.turns, ∃ raw : ImmutableTurnMovement F, raw.postInit = .ok row
  bridges : ∀ row ∈ csr.bridgeCrossings, ∃ raw : ImmutableBridgeCrossing, raw.postInit = .ok row

/-- The ids of the links of every bridge are ids of links. -/
def BridgesKnown (csr : ImmutableRoadNetworkCSR F S) : Prop :=
  ∀ bridge ∈ csr.bridgeCrossings, ∀ linkId ∈ bridge.linkIds,
    linkId ∈ csr.links.map ImmutableRoadLink.linkId

/-- A network that was constructed is revalidated when its bridges are known. -/
theorem revalidated_iff_bridges_known (reads : ReadsHex text) (built : BuiltRows raw)
    (run : raw.postInit text = .ok csr) :
    requireCurrentImmutableCsrContent text csr = .ok () ↔ BridgesKnown raw := by
  unfold ImmutableRoadNetworkCSR.postInit at run
  obtain ⟨_, -, run⟩ := bind_ok.mp run
  obtain ⟨_, ids, run⟩ := bind_ok.mp run
  obtain ⟨_, ends, run⟩ := bind_ok.mp run
  obtain ⟨expectedPairs, turns, run⟩ := bind_ok.mp run
  obtain ⟨nodeIdToIndex, node_map, run⟩ := bind_ok.mp run
  obtain ⟨linkIdToIndex, link_map, run⟩ := bind_ok.mp run
  obtain ⟨turnPairToIndex, turn_map, run⟩ := bind_ok.mp run
  obtain ⟨expected, expecting, run⟩ := bind_ok.mp run
  obtain ⟨arrays, sealing, run⟩ := bind_ok.mp run
  obtain ⟨topologyKey, key, run⟩ := bind_ok.mp run
  obtain ⟨expectedFingerprint, hashing, run⟩ := bind_ok.mp run
  have key_again : behaviorFreeTuple topologyKey "topology_cache_key" = .ok topologyKey := by
    rw [← behavior_free_same key] at key
    exact key
  have result : csr = { raw with
      nodeIdToIndex, linkIdToIndex, turnPairToIndex, arrays := arrays.1,
      topologyCacheKey := topologyKey, contentFingerprint := expectedFingerprint } := by
    dsimp only at run
    split at run
    · obtain ⟨supplied, read, run⟩ := bind_ok.mp run
      obtain ⟨_, match_it, run⟩ := bind_ok.mp run
      rw [← pure_ok.mp run, ← not_not.mp (raise_if_ok.mp match_it), digest_text_value read]
    · exact (pure_ok.mp run).symm
  rw [result]
  unfold requireCurrentImmutableCsrContent
  dsimp only
  rw [rebuilt (fun _ _ => node_same) built.nodes, ok_bind,
    rebuilt (fun _ _ => link_same) built.links, ok_bind,
    rebuilt (fun _ _ => turn_same) built.turns, ok_bind,
    rebuilt (fun _ _ => bridge_same) built.bridges, ok_bind]
  have distinct : raiseIf ((nodeIndexOf raw.nodes).length ≠ raw.nodes.length ∨
      (linkIndexOf raw.links).length ≠ raw.links.length)
      "immutable CSR IDs must remain unique" = .ok () :=
    raise_if_ok.mpr (raise_if_ok.mp ids)
  have known_ends : raiseIf (∃ link ∈ raw.links,
      link.srcNodeId ∉ (nodeIndexOf raw.nodes).map Prod.fst ∨
      link.dstNodeId ∉ (nodeIndexOf raw.nodes).map Prod.fst)
      "immutable CSR link references an unknown node" = .ok () := by
    refine raise_if_ok.mpr ?_
    rintro ⟨link, listed, unknown⟩
    exact raise_if_ok.mp (each_ok.mp ends link listed) unknown
  rw [distinct, ok_bind, known_ends, ok_bind, add_turns_ok turns, ok_bind]
  have bridges : (∃ bridge ∈ raw.bridgeCrossings, ∃ linkId ∈ bridge.linkIds,
      linkId ∉ (linkIndexOf raw.links).map Prod.fst) ↔ ¬BridgesKnown raw := by
    unfold BridgesKnown
    simp only [mem_link_index]
    push Not
    rfl
  constructor
  · intro accepted
    obtain ⟨_, known, -⟩ := bind_ok.mp accepted
    exact not_not.mp fun unknown => raise_if_ok.mp known (bridges.mpr unknown)
  · intro known
    refine bind_ok.mpr ⟨(), raise_if_ok.mpr fun unknown => bridges.mp unknown known, ?_⟩
    rw [sealed_current node_map, ok_bind, sealed_current link_map, ok_bind,
      sealed_current turn_map, ok_bind, expecting, ok_bind,
      arrays_current (sealed_arrays sealing), ok_bind, key_again, ok_bind]
    refine bind_ok.mpr ⟨expectedFingerprint, hashing, ?_⟩
    refine bind_ok.mpr ⟨_, sha256_payload_digest reads hashing _, ?_⟩
    exact raise_if_ok.mpr (not_not.mpr rfl)

end Agreement

section Road

/-- The floats 0.0 and 1.0, which are all that the road below has. -/
instance : PyFloat ℚ where
  isfinite _ := true
  belowZero value := value < 0
  atMostZero value := value ≤ 0
  hex value := if value = 0 then "0x0.0p+0" else "0x1.0000000000000p+0"

instance : Numpy ℚ ℚ where
  float32 value := value
  same a b := a = b
  bytes value := if value = 0 then [0, 0, 0, 0] else [0, 0, 128, 63]

def twoWayRoad (bridgeLinks : List ℤ) : ImmutableRoadNetworkCSR ℚ ℚ where
  schemaVersion := immutableCsrSchema
  nodes := [⟨0, .intersection, 0, 0, none, none⟩, ⟨1, .bridgeEndpoint, 1, 0, none, some 3⟩]
  links := [⟨0, 0, 1, .bridge, 1, 1, 0, 1, some 0, true, none, none⟩,
    ⟨1, 1, 0, .bridge, 1, 1, 1, 2, some 0, false, some 4, none⟩]
  turns := [⟨0, 1, .uTurnForbidden, 0, none⟩, ⟨1, 0, .through, 1, none⟩]
  bridgeCrossings := [⟨0, bridgeLinks, 0, "crossing", none⟩]
  nodeIdToIndex := ⟨.dict, [(0, 0), (1, 1)]⟩
  linkIdToIndex := ⟨.dict, [(1, 1), (0, 0)]⟩
  turnPairToIndex := ⟨.mappingProxy, [((1, 0), 1)]⟩
  arrays
    | .nodeIds | .linkIds | .linkSrcNodeIndex | .outgoingLinkIndices | .turnFromLinkIndex =>
      ⟨"<i4", [2], [.int 0, .int 1], true, true, .none⟩
    | .linkDstNodeIndex | .incomingLinkIndices | .turnToLinkIndex =>
      ⟨"<i4", [2], [.int 1, .int 0], true, true, .none⟩
    | .outgoingIndptr | .incomingIndptr =>
      ⟨"<i4", [3], [.int 0, .int 1, .int 2], true, true, .none⟩
    | .turnBasePriority => ⟨"<f4", [2], [.single 0, .single 1], true, true, .none⟩
    | .turnIsForbidden => ⟨"|b1", [2], [.bool true, .bool false], true, true, .none⟩
  topologyCacheKey := .tuple [.str "road", .int 2, .tuple [.float 1, .none]]

theorem two_way_road_built {bridgeLinks : List ℤ}
    (two : bridgeLinks = [0, 1] ∨ bridgeLinks = [5]) : BuiltRows (twoWayRoad bridgeLinks) where
  nodes row listed := ⟨row, by fin_cases listed <;> rfl⟩
  links row listed := ⟨row, by fin_cases listed <;> rfl⟩
  turns row listed := ⟨row, by fin_cases listed <;> rfl⟩
  bridges row listed := ⟨row, by
    obtain rfl := List.mem_singleton.mp listed
    rcases two with rfl | rfl
    · rfl
    · rfl⟩

theorem two_way_road_revalidated : ∃ csr, (twoWayRoad [0, 1]).postInit plainText = .ok csr ∧
    (requireCurrentImmutableCsrContent plainText csr = .ok () ↔
      BridgesKnown (twoWayRoad [0, 1])) := by
  have constructed : ((twoWayRoad [0, 1]).postInit plainText).isOk = true := by
    unfold ImmutableRoadNetworkCSR.postInit csrPayload
    simp only [sort_on_insertion]
    decide +kernel
  obtain ⟨csr, run⟩ := ok_of_is_ok constructed
  exact ⟨csr, run, revalidated_iff_bridges_known plain_reads_hex
    (two_way_road_built (.inl rfl)) run⟩

/-- A bridge of an unknown link is constructed and rejected later. -/
theorem unknown_bridge_link_rejected : ∃ csr, (twoWayRoad [5]).postInit plainText = .ok csr ∧
    BuiltRows (twoWayRoad [5]) ∧ requireCurrentImmutableCsrContent plainText csr =
      .error "immutable bridge references an unknown link" := by
  have constructed : ((twoWayRoad [5]).postInit plainText).isOk = true := by
    unfold ImmutableRoadNetworkCSR.postInit csrPayload
    simp only [sort_on_insertion]
    decide +kernel
  have rejected : ((twoWayRoad [5]).postInit plainText >>=
      requireCurrentImmutableCsrContent plainText) =
        .error "immutable bridge references an unknown link" := by
    unfold ImmutableRoadNetworkCSR.postInit requireCurrentImmutableCsrContent csrPayload
    simp only [sort_on_insertion]
    decide +kernel
  obtain ⟨csr, run⟩ := ok_of_is_ok constructed
  rw [run, ok_bind] at rejected
  exact ⟨csr, run, two_way_road_built (.inr rfl), rejected⟩

end Road

end Metroflow.City.Csr
