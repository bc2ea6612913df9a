import Metroflow.Lib.Loops

namespace Metroflow.Flow

open Metroflow.Lib

/-- One number of a metadata array: a float is exact or not finite. -/
inductive MetaNum where
  | finite (value : ℚ)
  | nonFinite
  deriving DecidableEq, Repr

namespace MetaNum

def isFinite : MetaNum → Bool
  | .finite _ => true
  | .nonFinite => false

def value : MetaNum → ℚ
  | .finite x => x
  | .nonFinite => 0

@[simp]
theorem is_finite_finite (x : ℚ) : (MetaNum.finite x).isFinite = true := rfl

@[simp]
theorem value_finite (x : ℚ) : (MetaNum.finite x).value = x := rfl

end MetaNum

/-- An array stored under a metadata key: a scalar or a vector of any length. -/
inductive MetaArray (α : Type) where
  | scalar (x : α)
  | vector (xs : List α)
  deriving DecidableEq, Repr

namespace MetaArray

variable {α : Type}

/-- The vector of `n` entries a stored array stands for, scalars repeated. -/
def broadcast (n : ℕ) : MetaArray α → Option (Fin n → α)
  | .scalar x => some fun _ => x
  | .vector xs => if h : xs.length = n then some fun i => xs.get (i.cast h.symm) else none

/-- The stored vector of `n` entries; a scalar is refused. -/
def exactly (n : ℕ) : MetaArray α → Option (Fin n → α)
  | .scalar _ => none
  | .vector xs => if h : xs.length = n then some fun i => xs.get (i.cast h.symm) else none

def ofVector {n : ℕ} (v : Fin n → ℚ) : MetaArray MetaNum :=
  .vector (List.ofFn fun i => .finite (v i))

@[simp]
theorem broadcast_of_vector {n : ℕ} (v : Fin n → ℚ) :
    (ofVector v).broadcast n = some fun i => .finite (v i) := by
  simp [ofVector, broadcast]

@[simp]
theorem exactly_of_vector {n : ℕ} (v : Fin n → ℚ) :
    (ofVector v).exactly n = some fun i => .finite (v i) := by
  simp [ofVector, exactly]

end MetaArray

/-- The keys of the link metadata that the runtime reads or writes. -/
structure LinkMetadata where
  freeFlowTravelTimeCost : Option (MetaArray ℚ) := none
  storageCapacityVehicles : Option (MetaArray MetaNum) := none
  runtimeDiscreteAgentAuthority : Bool := false
  runtimeTokenAuthorityVersion : Option ℤ := none
  runtimeLinkServiceResidual : Option (MetaArray MetaNum) := none
  runtimeLinkServiceTokenCarry : Option (MetaArray MetaNum) := none
  runtimeLinkServiceTokens : Option (MetaArray MetaNum) := none
  runtimeLinkReceivingResidual : Option (MetaArray MetaNum) := none
  runtimeLinkReceivingTokenCarry : Option (MetaArray MetaNum) := none
  runtimeLinkReceivingTokens : Option (MetaArray MetaNum) := none
  runtimeSinkFlowVehicles : Option (MetaArray MetaNum) := none
  runtimeStorageCapacityVehicles : Option (MetaArray MetaNum) := none
  runtimeReceivingSpaceVehicles : Option (MetaArray MetaNum) := none
  runtimeSpillbackBlockedTurnCount : ℕ := 0
  runtimeFlowGeneration : ℤ := 0
  runtimeIncidentGeneration : ℤ := 0
  deriving DecidableEq, Repr

/-- The keys of the node metadata that the runtime reads or writes. -/
structure NodeMetadata where
  turnBasePriority : Option (MetaArray ℚ) := none
  turnIsForbidden : Option (MetaArray Bool) := none
  runtimeSinkDemandByLinkIndex : Option (MetaArray MetaNum) := none
  runtimeTurnFlowResidual : Option (MetaArray MetaNum) := none
  runtimeSinkFlowResidual : Option (MetaArray MetaNum) := none
  runtimeSinkFlowByLinkIndex : Option (MetaArray MetaNum) := none
  runtimeFractionalTurnSupply : Option (MetaArray MetaNum) := none
  runtimeFractionalTurnFlow : Option (MetaArray MetaNum) := none
  deriving DecidableEq, Repr

/-- Per-link dynamic flow state for a simulation tick. -/
structure LinkState (n : ℕ) where
  queueVehicles : Fin n → ℚ
  inflowVehicles : Fin n → ℚ
  outflowVehicles : Fin n → ℚ
  travelTimeCost : Fin n → ℚ
  capacityVehPerTick : Fin n → ℚ
  incidentCapacityMultiplier : Fin n → ℚ
  capacityViolationFlags : Fin n → Bool
  metadata : LinkMetadata
  queue_nonneg : ∀ l, 0 ≤ queueVehicles l
  inflow_nonneg : ∀ l, 0 ≤ inflowVehicles l
  outflow_nonneg : ∀ l, 0 ≤ outflowVehicles l
  travel_time_pos : ∀ l, 0 < travelTimeCost l
  capacity_nonneg : ∀ l, 0 ≤ capacityVehPerTick l
  multiplier_unit : ∀ l, 0 ≤ incidentCapacityMultiplier l ∧ incidentCapacityMultiplier l ≤ 1
  deriving DecidableEq

namespace LinkState

variable {n : ℕ}

def effectiveCapacityVehicles (s : LinkState n) : Fin n → ℚ :=
  fun l => s.capacityVehPerTick l * s.incidentCapacityMultiplier l

theorem effective_capacity_nonneg (s : LinkState n) (l : Fin n) :
    0 ≤ s.effectiveCapacityVehicles l :=
  mul_nonneg (s.capacity_nonneg l) (s.multiplier_unit l).1

def withQueue (s : LinkState n) (queue : Fin n → ℚ) (h : ∀ l, 0 ≤ queue l) : LinkState n :=
  { s with queueVehicles := queue, queue_nonneg := h }

def withMetadata (s : LinkState n) (metadata : LinkMetadata) : LinkState n :=
  { s with metadata := metadata }

/-- The storage bound of the metadata, when it has an entry for every link. -/
def storageVector (s : LinkState n) : Option (Fin n → MetaNum) :=
  s.metadata.storageCapacityVehicles.bind fun stored => stored.exactly n

end LinkState

theorem none_nonneg {n : ℕ} (_ : Fin n) : (0 : ℚ) ≤ 0 := le_refl 0

def createLinkState {n : ℕ} (travelTimeCost capacityVehPerTick : Fin n → ℚ)
    (travel : ∀ l, 0 < travelTimeCost l) (capacity : ∀ l, 0 ≤ capacityVehPerTick l) :
    LinkState n where
  queueVehicles _ := 0
  inflowVehicles _ := 0
  outflowVehicles _ := 0
  travelTimeCost := travelTimeCost
  capacityVehPerTick := capacityVehPerTick
  incidentCapacityMultiplier _ := 1
  capacityViolationFlags _ := false
  metadata := {}
  queue_nonneg _ := le_refl 0
  inflow_nonneg _ := le_refl 0
  outflow_nonneg _ := le_refl 0
  travel_time_pos := travel
  capacity_nonneg := capacity
  multiplier_unit _ := ⟨zero_le_one, le_refl 1⟩

/-- Per-turn dynamic state for junction allocation updates. -/
structure NodeState (n m : ℕ) where
  turnFromLinkIndex : Fin m → Fin n
  turnToLinkIndex : Fin m → Fin n
  turnDemand : Fin m → ℚ
  turnSupply : Fin m → ℚ
  turnFlow : Fin m → ℚ
  signalPhaseIndex : List ℤ
  signalPhaseTimer : List ℕ
  metadata : NodeMetadata
  demand_nonneg : ∀ t, 0 ≤ turnDemand t
  supply_nonneg : ∀ t, 0 ≤ turnSupply t
  flow_nonneg : ∀ t, 0 ≤ turnFlow t
  deriving DecidableEq

namespace NodeState

variable {n m : ℕ}

def withDemand (s : NodeState n m) (demand : Fin m → ℚ) (h : ∀ t, 0 ≤ demand t) : NodeState n m :=
  { s with turnDemand := demand, demand_nonneg := h }

def withMetadata (s : NodeState n m) (metadata : NodeMetadata) : NodeState n m :=
  { s with metadata := metadata }

end NodeState

def createNodeState {n m : ℕ} (turnFromLinkIndex turnToLinkIndex : Fin m → Fin n)
    (nodeCount : ℕ) : NodeState n m where
  turnFromLinkIndex := turnFromLinkIndex
  turnToLinkIndex := turnToLinkIndex
  turnDemand _ := 0
  turnSupply _ := 0
  turnFlow _ := 0
  signalPhaseIndex := List.replicate nodeCount 0
  signalPhaseTimer := List.replicate nodeCount 0
  metadata := {}
  demand_nonneg _ := le_refl 0
  supply_nonneg _ := le_refl 0
  flow_nonneg _ := le_refl 0

def segmentSum {n m : ℕ} (values : Fin m → ℚ) (indices : Fin m → Fin n) : Fin n → ℚ :=
  fun l => ∑ t, if indices t = l then values t else 0

section SegmentSum

variable {n m : ℕ} {values : Fin m → ℚ} {indices : Fin m → Fin n}

theorem segment_sum_nonneg (h : ∀ t, 0 ≤ values t) (l : Fin n) :
    0 ≤ segmentSum values indices l := by
  apply Finset.sum_nonneg
  intro t _
  split
  · exact h t
  · exact le_refl 0

theorem segment_sum_mono {other : Fin m → ℚ} (h : ∀ t, values t ≤ other t) (l : Fin n) :
    segmentSum values indices l ≤ segmentSum other indices l := by
  apply Finset.sum_le_sum
  intro t _
  split
  · exact h t
  · exact le_refl 0

theorem segment_sum_update (t : Fin m) (c : ℚ) (l : Fin n) :
    segmentSum (Function.update values t (values t + c)) indices l =
      segmentSum values indices l + if indices t = l then c else 0 := by
  have each : ∀ s, (if indices s = l then Function.update values t (values t + c) s else 0) =
      (if indices s = l then values s else 0) +
        if s = t then (if indices t = l then c else 0) else 0 := by
    intro s
    by_cases same : s = t
    · subst same
      by_cases inside : indices s = l <;> simp [inside]
    · simp [same]
  simp only [segmentSum, each, Finset.sum_add_distrib, Finset.sum_ite_eq', Finset.mem_univ, if_true]

theorem sum_segment_sum : ∑ l, segmentSum values indices l = ∑ t, values t := by
  unfold segmentSum
  rw [Finset.sum_comm]
  simp

end SegmentSum

end Metroflow.Flow
