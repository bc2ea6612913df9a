import Metroflow.Flow.State

namespace Metroflow.Flow

open Metroflow.Lib

/-- The metadata keys whose contents the flow update checks. -/
inductive MetaKey where
  | freeFlowTravelTimeCost
  | turnBasePriority
  | turnIsForbidden
  | turnFlowResidual
  | serviceResidual
  | receivingResidual
  | sinkFlowResidual
  | serviceTokenCarry
  | receivingTokenCarry
  | serviceTokens
  | receivingTokens
  | sinkFlowVehicles
  | sinkFlowByLinkIndex
  | sinkDemandByLinkIndex
  deriving DecidableEq, Repr

def MetaKey.name : MetaKey → String
  | .freeFlowTravelTimeCost => "free_flow_travel_time_cost"
  | .turnBasePriority => "turn_base_priority"
  | .turnIsForbidden => "turn_is_forbidden"
  | .turnFlowResidual => "runtime_turn_flow_residual"
  | .serviceResidual => "runtime_link_service_residual"
  | .receivingResidual => "runtime_link_receiving_residual"
  | .sinkFlowResidual => "runtime_sink_flow_residual"
  | .serviceTokenCarry => "runtime_link_service_token_carry"
  | .receivingTokenCarry => "runtime_link_receiving_token_carry"
  | .serviceTokens => "runtime_link_service_tokens"
  | .receivingTokens => "runtime_link_receiving_tokens"
  | .sinkFlowVehicles => "runtime_sink_flow_vehicles"
  | .sinkFlowByLinkIndex => "runtime_sink_flow_by_link_index"
  | .sinkDemandByLinkIndex => "runtime_sink_demand_by_link_index"

inductive FlowError where
  | rustDiscreteAuthority
  | storageWithoutAuthority
  | rustBackendFailed
  | shape (key : MetaKey) (size : ℕ)
  | required (key : MetaKey)
  | notFinite (key : MetaKey)
  | negative (key : MetaKey)
  | notBelowOne (key : MetaKey)
  | aboveOne (key : MetaKey)
  | fractionalTokens (key : MetaKey)
  | sinkFlowMismatch
  | storageShape
  | storageBound
  | queueExceedsStorage
  | residualEscaped
  | storageExceeded
  deriving DecidableEq, Repr

def FlowError.message : FlowError → String
  | .rustDiscreteAuthority =>
    "Rust CPU flow backend does not implement the per-turn discrete-agent authority contract"
  | .storageWithoutAuthority => "storage_capacity_vehicles requires discrete_agent_authority"
  | .rustBackendFailed => "rust_cpu flow backend failed"
  | .shape key size => key.name ++ " must be scalar or shape (" ++ toString size ++ ",)"
  | .required key => key.name ++ " is required by prior discrete-agent authority"
  | .notFinite key => key.name ++ " must contain only finite values"
  | .negative key => key.name ++ " must be non-negative"
  | .notBelowOne key => key.name ++ " must be < 1.0"
  | .aboveOne key => key.name ++ " must be <= 1.0"
  | .fractionalTokens key => key.name ++ " must contain integer vehicle tokens"
  | .sinkFlowMismatch => "runtime link/node sink flow token metadata must match exactly"
  | .storageShape => "storage_capacity_vehicles shape mismatch"
  | .storageBound => "storage_capacity_vehicles must be finite and >= 1"
  | .queueExceedsStorage => "link queue exceeds finite storage capacity"
  | .residualEscaped => "unit residual calculation escaped [0, 1)"
  | .storageExceeded => "spatial queue update exceeded finite link storage"

inductive FlowBackend where
  | baseline
  | rustCpu
  | auto
  deriving DecidableEq, Repr

/-- The tolerance of the code's vehicle comparisons. -/
def vehicleTolerance : ℚ := 1 / 1000000

/-- The least cost and capacity that the travel time formula divides by. -/
def costFloor : ℚ := 1 / 1000

section Core

variable {n m : ℕ}

structure FlowArrays (n m : ℕ) where
  turnDemandNext : Fin m → ℚ
  turnSupplyNext : Fin m → ℚ
  turnFlowNext : Fin m → ℚ
  inflowVehiclesNext : Fin n → ℚ
  outflowVehiclesNext : Fin n → ℚ
  queueVehiclesNext : Fin n → ℚ
  travelTimeCostNext : Fin n → ℚ
  capacityViolationFlagsNext : Fin n → Bool
  signalPhaseTimerNext : List ℕ
  baseTravelTimeCost : Fin n → ℚ
  demand_nonneg : ∀ t, 0 ≤ turnDemandNext t
  supply_nonneg : ∀ t, 0 ≤ turnSupplyNext t
  flow_nonneg : ∀ t, 0 ≤ turnFlowNext t
  inflow_nonneg : ∀ l, 0 ≤ inflowVehiclesNext l
  outflow_nonneg : ∀ l, 0 ≤ outflowVehiclesNext l
  queue_nonneg : ∀ l, 0 ≤ queueVehiclesNext l
  travel_time_pos : ∀ l, 0 < travelTimeCostNext l

def updateTravelTimeCost (baseCost queue effectiveCapacity : Fin n → ℚ) : Fin n → ℚ :=
  fun l => max (baseCost l) costFloor + max (queue l) 0 / max (effectiveCapacity l) costFloor

theorem update_travel_time_pos (baseCost queue effectiveCapacity : Fin n → ℚ) (l : Fin n) :
    0 < updateTravelTimeCost baseCost queue effectiveCapacity l := by
  have floor : (0 : ℚ) < costFloor := by norm_num [costFloor]
  have base : 0 < max (baseCost l) costFloor := lt_of_lt_of_le floor (le_max_right _ _)
  have capacity : 0 < max (effectiveCapacity l) costFloor :=
    lt_of_lt_of_le floor (le_max_right _ _)
  exact add_pos_of_pos_of_nonneg base (div_nonneg (le_max_right _ _) capacity.le)

/-- What the array core reads; negative entries were clamped on the way in. -/
structure CoreInput (n m : ℕ) where
  queueNow : Fin n → ℚ
  effectiveCapacity : Fin n → ℚ
  fromIdx : Fin m → Fin n
  toIdx : Fin m → Fin n
  turnDemand : Fin m → ℚ
  signalPhaseTimer : List ℕ
  baseTravelTimeCost : Fin n → ℚ
  turnPriority : Fin m → ℚ
  turnIsForbidden : Fin m → Bool
  queue_nonneg : ∀ l, 0 ≤ queueNow l
  capacity_nonneg : ∀ l, 0 ≤ effectiveCapacity l
  demand_nonneg : ∀ t, 0 ≤ turnDemand t

namespace CoreInput

variable (c : CoreInput n m)

def priorityWeight (t : Fin m) : ℚ :=
  if c.turnIsForbidden t then 0 else max (c.turnPriority t) 0

def weightedDemand (t : Fin m) : ℚ :=
  if 0 < c.turnDemand t then c.turnDemand t * c.priorityWeight t else 0

def fromAvailableLink (l : Fin n) : ℚ := min (c.queueNow l) (c.effectiveCapacity l)

def receivingSupplyLink (l : Fin n) : ℚ := c.effectiveCapacity l

/-- The turn's part of the weighted demand of its segment. -/
def share (indices : Fin m → Fin n) (t : Fin m) : ℚ :=
  if 0 < segmentSum c.weightedDemand indices (indices t) then
    c.weightedDemand t / segmentSum c.weightedDemand indices (indices t)
  else 0

def turnSupply (t : Fin m) : ℚ :=
  min (c.fromAvailableLink (c.fromIdx t) * c.share c.fromIdx t)
    (c.receivingSupplyLink (c.toIdx t) * c.share c.toIdx t)

def turnFlow (t : Fin m) : ℚ :=
  if c.turnIsForbidden t then 0 else min (c.turnDemand t) (c.turnSupply t)

theorem priority_weight_nonneg (t : Fin m) : 0 ≤ c.priorityWeight t := by
  unfold priorityWeight
  split
  · exact le_refl 0
  · exact le_max_right _ _

theorem weighted_demand_nonneg (t : Fin m) : 0 ≤ c.weightedDemand t := by
  unfold weightedDemand
  split
  · exact mul_nonneg (c.demand_nonneg t) (c.priority_weight_nonneg t)
  · exact le_refl 0

theorem share_nonneg (indices : Fin m → Fin n) (t : Fin m) : 0 ≤ c.share indices t := by
  unfold share
  split
  · rename_i den
    exact div_nonneg (c.weighted_demand_nonneg t) den.le
  · exact le_refl 0

theorem turn_supply_nonneg (t : Fin m) : 0 ≤ c.turnSupply t :=
  le_min
    (mul_nonneg (le_min (c.queue_nonneg _) (c.capacity_nonneg _)) (c.share_nonneg _ t))
    (mul_nonneg (c.capacity_nonneg _) (c.share_nonneg _ t))

theorem turn_flow_nonneg (t : Fin m) : 0 ≤ c.turnFlow t := by
  unfold turnFlow
  split
  · exact le_refl 0
  · exact le_min (c.demand_nonneg t) (c.turn_supply_nonneg t)

/-- The result of the two early returns, where no vehicle can move. -/
def idleArrays (queue : Fin n → ℚ) (h : ∀ l, 0 ≤ queue l) : FlowArrays n m where
  turnDemandNext := c.turnDemand
  turnSupplyNext _ := 0
  turnFlowNext _ := 0
  inflowVehiclesNext _ := 0
  outflowVehiclesNext _ := 0
  queueVehiclesNext := queue
  travelTimeCostNext := updateTravelTimeCost c.baseTravelTimeCost queue c.effectiveCapacity
  capacityViolationFlagsNext _ := false
  signalPhaseTimerNext := c.signalPhaseTimer.map (· + 1)
  baseTravelTimeCost := c.baseTravelTimeCost
  demand_nonneg := c.demand_nonneg
  supply_nonneg := none_nonneg
  flow_nonneg := none_nonneg
  inflow_nonneg := none_nonneg
  outflow_nonneg := none_nonneg
  queue_nonneg := h
  travel_time_pos := update_travel_time_pos _ _ _

def queueNext (l : Fin n) : ℚ :=
  max 0 (c.queueNow l - segmentSum c.turnFlow c.fromIdx l + segmentSum c.turnFlow c.toIdx l)

def movingArrays : FlowArrays n m where
  turnDemandNext := c.turnDemand
  turnSupplyNext t := max (c.turnSupply t) 0
  turnFlowNext t := max (c.turnFlow t) 0
  inflowVehiclesNext := segmentSum c.turnFlow c.toIdx
  outflowVehiclesNext := segmentSum c.turnFlow c.fromIdx
  queueVehiclesNext := c.queueNext
  travelTimeCostNext := updateTravelTimeCost c.baseTravelTimeCost c.queueNext c.effectiveCapacity
  capacityViolationFlagsNext l :=
    decide (c.effectiveCapacity l + vehicleTolerance < segmentSum c.turnFlow c.fromIdx l)
  signalPhaseTimerNext := c.signalPhaseTimer.map (· + 1)
  baseTravelTimeCost := c.baseTravelTimeCost
  demand_nonneg := c.demand_nonneg
  supply_nonneg _ := le_max_right _ _
  flow_nonneg _ := le_max_right _ _
  inflow_nonneg := segment_sum_nonneg c.turn_flow_nonneg
  outflow_nonneg := segment_sum_nonneg c.turn_flow_nonneg
  queue_nonneg _ := le_max_left _ _
  travel_time_pos := update_travel_time_pos _ _ _

def computeBaselineFlowArraysNumpyCore : FlowArrays n m :=
  if n = 0 then c.idleArrays (fun _ => 0) none_nonneg
  else if m = 0 then c.idleArrays c.queueNow c.queue_nonneg
  else c.movingArrays

theorem numpy_core_turn_flow : c.computeBaselineFlowArraysNumpyCore.turnFlowNext = c.turnFlow := by
  funext t
  unfold computeBaselineFlowArraysNumpyCore
  split
  · rename_i empty
    subst empty
    exact (c.fromIdx t).elim0
  · split
    · rename_i empty
      subst empty
      exact t.elim0
    · exact max_eq_left (c.turn_flow_nonneg t)

end CoreInput

def readTurnMetadata {α : Type} (raw : Option (MetaArray α)) (key : MetaKey) (size : ℕ)
    (default : α) : Except FlowError (Fin size → α) :=
  match raw with
  | none => .ok fun _ => default
  | some values =>
    match values.broadcast size with
    | none => .error (.shape key size)
    | some v => .ok v

def readLinkBaseTravelTime (s : LinkState n) : Except FlowError (Fin n → ℚ) :=
  match s.metadata.freeFlowTravelTimeCost with
  | none => .ok s.travelTimeCost
  | some values =>
    match values.broadcast n with
    | none => .error (.shape .freeFlowTravelTimeCost n)
    | some v => .ok v

/-- The input of the array core that the two states and their metadata give. -/
def coreInput (link : LinkState n) (node : NodeState n m) (baseCost : Fin n → ℚ)
    (priority : Fin m → ℚ) (forbidden : Fin m → Bool) : CoreInput n m where
  queueNow l := max (link.queueVehicles l) 0
  effectiveCapacity l := max (link.effectiveCapacityVehicles l) 0
  fromIdx := node.turnFromLinkIndex
  toIdx := node.turnToLinkIndex
  turnDemand t := max (node.turnDemand t) 0
  signalPhaseTimer := node.signalPhaseTimer
  baseTravelTimeCost := baseCost
  turnPriority t := max (priority t) 0
  turnIsForbidden := forbidden
  queue_nonneg _ := le_max_right _ _
  capacity_nonneg _ := le_max_right _ _
  demand_nonneg _ := le_max_right _ _

/-- The compiled flow kernel: the arrays it returns, or no result where it fails. -/
abbrev RustFlowKernel (n m : ℕ) := CoreInput n m → Option (FlowArrays n m)

def computeBaselineFlowArraysCore (rust : RustFlowKernel n m) (backend : FlowBackend)
    (c : CoreInput n m) : Except FlowError (FlowArrays n m) :=
  match backend with
  | .baseline => .ok c.computeBaselineFlowArraysNumpyCore
  | .rustCpu =>
    match rust c with
    | some arrays => .ok arrays
    | none => .error .rustBackendFailed
  | .auto => .ok ((rust c).getD c.computeBaselineFlowArraysNumpyCore)

def computeBaselineFlowArrays (rust : RustFlowKernel n m) (link : LinkState n)
    (node : NodeState n m) (backend : FlowBackend) : Except FlowError (FlowArrays n m) := do
  let priority ← readTurnMetadata node.metadata.turnBasePriority .turnBasePriority m 1
  let forbidden ← readTurnMetadata node.metadata.turnIsForbidden .turnIsForbidden m false
  let baseCost ← readLinkBaseTravelTime link
  computeBaselineFlowArraysCore rust backend (coreInput link node baseCost priority forbidden)

theorem compute_baseline_flow_arrays_ok {rust : RustFlowKernel n m} {link : LinkState n}
    {node : NodeState n m} {arrays : FlowArrays n m}
    (h : computeBaselineFlowArrays rust link node .baseline = .ok arrays) :
    ∃ priority forbidden baseCost,
      readTurnMetadata node.metadata.turnBasePriority .turnBasePriority m 1 = .ok priority ∧
      readTurnMetadata node.metadata.turnIsForbidden .turnIsForbidden m false = .ok forbidden ∧
      readLinkBaseTravelTime link = .ok baseCost ∧
      arrays = (coreInput link node baseCost priority
        forbidden).computeBaselineFlowArraysNumpyCore := by
  obtain ⟨priority, hp, h⟩ := bind_ok.mp h
  obtain ⟨forbidden, hf, h⟩ := bind_ok.mp h
  obtain ⟨baseCost, hb, h⟩ := bind_ok.mp h
  exact ⟨priority, forbidden, baseCost, hp, hf, hb, (Except.ok.inj h).symm⟩

end Core

end Metroflow.Flow
