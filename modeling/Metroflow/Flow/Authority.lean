import Metroflow.Flow.Service

namespace Metroflow.Flow

open Metroflow.Lib

variable {n m : ℕ}

/-- The largest residual a float32 below one can hold. -/
def residualUpper : ℚ := 1 - 1 / 2 ^ 24

def clearSmall (x : ℚ) : ℚ := if |x| ≤ residualEpsilon then 0 else x

def unitResidualFloat32 (values : Fin n → ℚ) : Except FlowError (Fin n → ℚ) := do
  raiseIf ((∃ l, clearSmall (values l) < 0) ∨ ∃ l, 1 ≤ clearSmall (values l)) .residualEscaped
  return fun l => min (clearSmall (values l)) residualUpper

/-- Checks the storage bound of a spatial tick against the queues. -/
def readStorageCapacity (raw : Option (MetaArray MetaNum)) (queueNow : Fin n → ℚ) :
    Except FlowError (Option (Fin n → ℚ)) :=
  match raw with
  | none => .ok none
  | some stored =>
    match stored.exactly n with
    | none => .error .storageShape
    | some entries => do
      raiseIf ((∃ l, (entries l).isFinite = false) ∨ ∃ l, (entries l).value < 1) .storageBound
      raiseIf (∃ l, (entries l).value + vehicleTolerance < queueNow l) .queueExceedsStorage
      return some fun l => (entries l).value

/-- Whether a vehicle fits on the link; without storage one always does. -/
def hasSpace (storage : Option (Fin n → ℚ)) (queueNow : Fin n → ℚ) (l : Fin n) : Bool :=
  match storage with
  | none => true
  | some capacity => decide (1 - vehicleTolerance ≤ max (capacity l - queueNow l) 0)

/-- The tick that the states, the fractional arrays and the read-back credits give. -/
def tokenTick (arrays : FlowArrays n m) (link : LinkState n) (node : NodeState n m)
    (storage : Option (Fin n → ℚ)) (prior : PriorCredits n m) (sinkDemand : Fin n → ℤ) :
    TokenTick n m where
  queueNow l := max (link.queueVehicles l) 0
  effectiveCapacity l := max (link.effectiveCapacityVehicles l) 0
  fromIdx := node.turnFromLinkIndex
  toIdx := node.turnToLinkIndex
  turnDemand t := max (node.turnDemand t) 0
  fractionalTurnFlow t :=
    if hasSpace storage (fun l => max (link.queueVehicles l) 0) (node.turnToLinkIndex t) then
      max (arrays.turnFlowNext t) 0
    else 0
  fractionalTurnSupply t :=
    if hasSpace storage (fun l => max (link.queueVehicles l) 0) (node.turnToLinkIndex t) then
      max (arrays.turnSupplyNext t) 0
    else 0
  storageCapacity := storage
  prior := prior
  sinkDemand := sinkDemand

namespace TokenTick

variable (k : TokenTick n m) (s : ServiceState n m)

def internalOutflow : Fin n → ℚ := segmentSum (fun t => (s.realizedTurn t : ℚ)) k.fromIdx

def inflow : Fin n → ℚ := segmentSum (fun t => (s.realizedTurn t : ℚ)) k.toIdx

def outflow (l : Fin n) : ℚ := k.internalOutflow s l + s.sinkFlow l

def queueNext (l : Fin n) : ℚ := max 0 (k.queueNow l - k.outflow s l + k.inflow s l)

def exceedsStorage : Bool :=
  match k.storageCapacity with
  | none => false
  | some storage => decide (∃ l, storage l + vehicleTolerance < k.queueNext s l)

def spillbackBlocked (t : Fin m) : Bool :=
  decide (0 < k.turnDemand t) &&
    match k.receivingSpace with
    | none => false
    | some space => decide (space (k.toIdx t) < 1 - vehicleTolerance)

end TokenTick

/-- What the authority hands to the metadata of the next tick. -/
structure AuthorityMetadata (n m : ℕ) where
  serviceResidual : Fin n → ℚ
  serviceTokenCarry : Fin n → ℚ
  serviceTokens : Fin n → ℤ
  receivingResidual : Fin n → ℚ
  receivingTokenCarry : Fin n → ℚ
  receivingTokens : Fin n → ℤ
  sinkFlow : Fin n → ℤ
  storageCapacity : Fin n → ℚ
  receivingSpace : Fin n → ℚ
  spillbackBlockedTurnCount : ℕ
  fractionalTurnSupply : Fin m → ℚ
  fractionalTurnFlow : Fin m → ℚ
  turnFlowResidual : Fin m → ℚ
  sinkFlowResidual : Fin n → ℚ

namespace AuthorityMetadata

variable (a : AuthorityMetadata n m)

def writeLink (old : LinkMetadata) : LinkMetadata :=
  { old with
    runtimeDiscreteAgentAuthority := true
    runtimeTokenAuthorityVersion := some 2
    runtimeLinkServiceResidual := some (.ofVector a.serviceResidual)
    runtimeLinkServiceTokenCarry := some (.ofVector a.serviceTokenCarry)
    runtimeLinkServiceTokens := some (.ofVector fun l => (a.serviceTokens l : ℚ))
    runtimeLinkReceivingResidual := some (.ofVector a.receivingResidual)
    runtimeLinkReceivingTokenCarry := some (.ofVector a.receivingTokenCarry)
    runtimeLinkReceivingTokens := some (.ofVector fun l => (a.receivingTokens l : ℚ))
    runtimeSinkFlowVehicles := some (.ofVector fun l => (a.sinkFlow l : ℚ))
    runtimeStorageCapacityVehicles := some (.ofVector a.storageCapacity)
    runtimeReceivingSpaceVehicles := some (.ofVector a.receivingSpace)
    runtimeSpillbackBlockedTurnCount := a.spillbackBlockedTurnCount }

def writeNode (old : NodeMetadata) : NodeMetadata :=
  { old with
    runtimeFractionalTurnSupply := some (.ofVector a.fractionalTurnSupply)
    runtimeFractionalTurnFlow := some (.ofVector a.fractionalTurnFlow)
    runtimeTurnFlowResidual := some (.ofVector a.turnFlowResidual)
    runtimeSinkFlowResidual := some (.ofVector a.sinkFlowResidual)
    runtimeSinkFlowByLinkIndex := some (.ofVector fun l => (a.sinkFlow l : ℚ)) }

/-- The credits that the next tick reads back. -/
def credits : PriorCredits n m where
  turnCredit := a.turnFlowResidual
  serviceCredit := a.serviceResidual
  receivingCredit := a.receivingResidual
  sinkCredit := a.sinkFlowResidual
  carry := ⟨a.serviceTokenCarry, a.receivingTokenCarry⟩

end AuthorityMetadata

theorem realized_turn_nonneg (k : TokenTick n m) (t : Fin m) :
    (0 : ℚ) ≤ k.allocate.realizedTurn t := by
  exact_mod_cast k.allocate_spec.balanced.counted (.turn t)

theorem sink_flow_nonneg (k : TokenTick n m) (l : Fin n) : (0 : ℚ) ≤ k.allocate.sinkFlow l := by
  exact_mod_cast k.allocate_spec.balanced.counted (.sink l)

namespace TokenTick

variable (k : TokenTick n m)

/-- The arrays of the tick, with the fractional flows replaced by tokens. -/
def nextArrays (arrays : FlowArrays n m) : FlowArrays n m where
  turnDemandNext := arrays.turnDemandNext
  turnSupplyNext t := k.allocate.realizedTurn t
  turnFlowNext t := k.allocate.realizedTurn t
  inflowVehiclesNext := k.inflow k.allocate
  outflowVehiclesNext := k.outflow k.allocate
  queueVehiclesNext := k.queueNext k.allocate
  travelTimeCostNext :=
    updateTravelTimeCost arrays.baseTravelTimeCost (k.queueNext k.allocate) k.effectiveCapacity
  capacityViolationFlagsNext l :=
    decide (k.serviceTokens l + vehicleTolerance < k.outflow k.allocate l) ||
      decide (k.receivingTokens l + vehicleTolerance < k.inflow k.allocate l)
  signalPhaseTimerNext := arrays.signalPhaseTimerNext
  baseTravelTimeCost := arrays.baseTravelTimeCost
  demand_nonneg := arrays.demand_nonneg
  supply_nonneg := realized_turn_nonneg k
  flow_nonneg := realized_turn_nonneg k
  inflow_nonneg := segment_sum_nonneg (realized_turn_nonneg k)
  outflow_nonneg l :=
    add_nonneg (segment_sum_nonneg (realized_turn_nonneg k) l) (sink_flow_nonneg k l)
  queue_nonneg _ := le_max_left _ _
  travel_time_pos := update_travel_time_pos _ _ _

def nextMetadata (serviceResidual receivingResidual : Fin n → ℚ) : AuthorityMetadata n m where
  serviceResidual := serviceResidual
  serviceTokenCarry l := (k.serviceMint l).nextCarry (k.allocate.remainingService l)
  serviceTokens := k.serviceTokens
  receivingResidual := receivingResidual
  receivingTokenCarry l := (k.receivingMint l).nextCarry (k.allocate.remainingReceiving l)
  receivingTokens := k.receivingTokens
  sinkFlow := k.allocate.sinkFlow
  storageCapacity := k.storageCapacity.getD fun _ => 0
  receivingSpace := k.receivingSpace.getD fun _ => 0
  spillbackBlockedTurnCount := (List.finRange m).countP k.spillbackBlocked
  fractionalTurnSupply := k.fractionalTurnSupply
  fractionalTurnFlow := k.fractionalTurnFlow
  turnFlowResidual := k.allocate.nextTurnCredit
  sinkFlowResidual := k.allocate.nextSinkCredit

end TokenTick

/-- Converts fractional node allocations into deterministic vehicle tokens. -/
def applyDiscreteAgentFlowAuthority (arrays : FlowArrays n m) (link : LinkState n)
    (node : NodeState n m) (storageCapacityVehicles : Option (MetaArray MetaNum)) :
    Except FlowError (FlowArrays n m × AuthorityMetadata n m) := do
  let storage ← readStorageCapacity storageCapacityVehicles fun l => max (link.queueVehicles l) 0
  let prior ← readPriorCredits link.metadata node.metadata
  let sinkDemand ← readSinkDemand node.metadata
  let k := tokenTick arrays link node storage prior sinkDemand
  raiseIf (k.exceedsStorage k.allocate = true) .storageExceeded
  let serviceResidual ← unitResidualFloat32 fun l => (k.serviceMint l).nextCredit
  let receivingResidual ← unitResidualFloat32 fun l => (k.receivingMint l).nextCredit
  return (k.nextArrays arrays, k.nextMetadata serviceResidual receivingResidual)

/-- The two flow states, as one update takes and returns them. -/
structure FlowState (n m : ℕ) where
  linkState : LinkState n
  nodeState : NodeState n m
  deriving DecidableEq

def nextLinkState (old : LinkState n) (arrays : FlowArrays n m) (metadata : LinkMetadata) :
    LinkState n where
  queueVehicles := arrays.queueVehiclesNext
  inflowVehicles := arrays.inflowVehiclesNext
  outflowVehicles := arrays.outflowVehiclesNext
  travelTimeCost := arrays.travelTimeCostNext
  capacityVehPerTick := old.capacityVehPerTick
  incidentCapacityMultiplier := old.incidentCapacityMultiplier
  capacityViolationFlags := arrays.capacityViolationFlagsNext
  metadata := metadata
  queue_nonneg := arrays.queue_nonneg
  inflow_nonneg := arrays.inflow_nonneg
  outflow_nonneg := arrays.outflow_nonneg
  travel_time_pos := arrays.travel_time_pos
  capacity_nonneg := old.capacity_nonneg
  multiplier_unit := old.multiplier_unit

def nextNodeState (old : NodeState n m) (arrays : FlowArrays n m) (metadata : NodeMetadata) :
    NodeState n m where
  turnFromLinkIndex := old.turnFromLinkIndex
  turnToLinkIndex := old.turnToLinkIndex
  turnDemand := arrays.turnDemandNext
  turnSupply := arrays.turnSupplyNext
  turnFlow := arrays.turnFlowNext
  signalPhaseIndex := old.signalPhaseIndex
  signalPhaseTimer := arrays.signalPhaseTimerNext
  metadata := metadata
  demand_nonneg := arrays.demand_nonneg
  supply_nonneg := arrays.supply_nonneg
  flow_nonneg := arrays.flow_nonneg

def withBaseTravelTime (old : LinkMetadata) (arrays : FlowArrays n m) : LinkMetadata :=
  { old with freeFlowTravelTimeCost := some (.vector (List.ofFn arrays.baseTravelTimeCost)) }

/-- The update under discrete-agent authority. -/
def updateWithAuthority (rust : RustFlowKernel n m) (s : FlowState n m)
    (storageCapacityVehicles : Option (MetaArray MetaNum)) : Except FlowError (FlowState n m) := do
  let arrays ← computeBaselineFlowArrays rust s.linkState s.nodeState .baseline
  let (next, authority) ←
    applyDiscreteAgentFlowAuthority arrays s.linkState s.nodeState storageCapacityVehicles
  return {
    linkState := nextLinkState s.linkState next
      (authority.writeLink (withBaseTravelTime s.linkState.metadata arrays))
    nodeState := nextNodeState s.nodeState next (authority.writeNode s.nodeState.metadata) }

def updateWithoutAuthority (rust : RustFlowKernel n m) (s : FlowState n m)
    (backend : FlowBackend) : Except FlowError (FlowState n m) := do
  let arrays ← computeBaselineFlowArrays rust s.linkState s.nodeState backend
  return {
    linkState := nextLinkState s.linkState arrays (withBaseTravelTime s.linkState.metadata arrays)
    nodeState := nextNodeState s.nodeState arrays s.nodeState.metadata }

/-- A node-turn allocation and the link queue update that follows from it. -/
def updateLinkNodeFlow (rust : RustFlowKernel n m) (s : FlowState n m) (backend : FlowBackend)
    (discreteAgentAuthority : Bool) (storageCapacityVehicles : Option (MetaArray MetaNum)) :
    Except FlowError (FlowState n m) := do
  raiseIf (discreteAgentAuthority = true ∧ backend = .rustCpu) .rustDiscreteAuthority
  raiseIf (storageCapacityVehicles.isSome = true ∧ discreteAgentAuthority = false)
    .storageWithoutAuthority
  if discreteAgentAuthority then updateWithAuthority rust s storageCapacityVehicles
  else updateWithoutAuthority rust s backend

end Metroflow.Flow
