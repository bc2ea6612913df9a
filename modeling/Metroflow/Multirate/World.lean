import Metroflow.Lib.ExactScalar
import Metroflow.Lib.Loops

namespace Metroflow.Multirate

open Metroflow.Lib

/-- Why a call is refused; only a runtime error lets another backend try. -/
inductive StepError where
  | value (message : String)
  | runtime (message : String)
  deriving DecidableEq, Repr

structure GraphState where
  version : ℤ := 0
  numNodes : ℤ := 0
  numEdges : ℤ := 0
  edgeSrc : List ℤ := []
  edgeDst : List ℤ := []
  edgeClass : List String := []
  deriving DecidableEq, Repr

structure TrafficState where
  step : ℤ := 0
  edgeQueue : List ℚ := []
  edgeStock : List ℚ := []
  edgeTravelTime : List ℚ := []
  movementQueue : List ℚ := []
  deriving DecidableEq, Repr

structure DemandState where
  population : ℤ := 100000
  activeTripCount : ℤ := 0
  deriving DecidableEq, Repr

structure AccessibilityState where
  version : ℤ := 0
  laggedSnapshotStep : ℤ := -1
  graphVersion : ℤ := 0
  landuseVersion : ℤ := 0
  zonalCosts : List (List ℚ) := []
  deriving DecidableEq, Repr

structure LandUseState where
  version : ℤ := 0
  zoneLabels : List String := []
  housingCapacity : List ℚ := []
  jobsCapacity : List ℚ := []
  deriving DecidableEq, Repr

structure PolicyState where
  version : ℤ := 0
  deriving DecidableEq, Repr

structure ReplayState where
  journalLength : ℤ := 0
  deriving DecidableEq, Repr

structure WorldState where
  graph : GraphState := {}
  traffic : TrafficState := {}
  demand : DemandState := {}
  accessibility : AccessibilityState := {}
  landuse : LandUseState := {}
  policy : PolicyState := {}
  replay : ReplayState := {}
  deriving DecidableEq, Repr

def raiseValue (c : Prop) [Decidable c] (message : String) : Except StepError Unit :=
  raiseIf c (.value message)

@[simp]
theorem raise_value_ok {c : Prop} [Decidable c] {message : String} {u : Unit} :
    raiseValue c message = .ok u ↔ ¬ c := raise_if_ok

section Contract

variable (world : WorldState)

def validateGraph (graph : GraphState) : Except StepError Unit := do
  raiseValue (graph.version < 0) "Graph version must be non-negative."
  raiseValue (graph.numNodes < 0) "graph.num_nodes must be non-negative."
  raiseValue (graph.numEdges < 0) "graph.num_edges must be non-negative."
  raiseValue (graph.edgeSrc.length ≠ graph.numEdges) "edge_src length must match graph.num_edges."
  raiseValue (graph.edgeDst.length ≠ graph.numEdges) "edge_dst length must match graph.num_edges."
  raiseValue (graph.edgeClass.length ≠ graph.numEdges)
    "edge_class length must match graph.num_edges."
  raiseValue (∃ src ∈ graph.edgeSrc, src < 0 ∨ graph.numNodes ≤ src)
    "edge_src values must reference valid graph nodes."
  raiseValue (∃ dst ∈ graph.edgeDst, dst < 0 ∨ graph.numNodes ≤ dst)
    "edge_dst values must reference valid graph nodes."

def validateTraffic (numEdges : ℤ) (traffic : TrafficState) : Except StepError Unit := do
  raiseValue (numEdges ≠ traffic.edgeQueue.length) "Edge queue length must match graph.num_edges."
  raiseValue (numEdges ≠ traffic.edgeStock.length) "Edge stock length must match graph.num_edges."
  raiseValue (numEdges ≠ traffic.edgeTravelTime.length)
    "Edge travel-time length must match graph.num_edges."
  raiseValue (∃ movement ∈ traffic.movementQueue, movement < 0)
    "Movement queue values must be non-negative."
  raiseValue (∃ queue ∈ traffic.edgeQueue, queue < 0) "Edge queue values must be non-negative."
  raiseValue (∃ stock ∈ traffic.edgeStock, stock < 0) "Edge stock values must be non-negative."
  raiseValue (∃ travelTime ∈ traffic.edgeTravelTime, travelTime < 0)
    "Edge travel-time values must be non-negative."
  raiseValue (∃ edge ∈ traffic.edgeQueue.zip traffic.edgeStock, edge.2 < edge.1)
    "Edge queue must not exceed edge stock."

def validateDemand (demand : DemandState) : Except StepError Unit := do
  raiseValue (demand.population < 0) "Population must be non-negative."
  raiseValue (demand.activeTripCount < 0) "Active trip count must be non-negative."
  raiseValue (demand.population < demand.activeTripCount)
    "Active trip count must not exceed population."

def validateVersions : Except StepError Unit := do
  raiseValue (world.accessibility.version < 0) "Accessibility version must be non-negative."
  raiseValue (world.accessibility.graphVersion < 0)
    "Accessibility graph_version must be non-negative."
  raiseValue (world.accessibility.landuseVersion < 0)
    "Accessibility landuse_version must be non-negative."
  raiseValue (world.landuse.version < 0) "Land-use version must be non-negative."
  raiseValue (world.policy.version < 0) "Policy version must be non-negative."
  raiseValue (world.replay.journalLength < 0) "Replay journal_length must be non-negative."

def validateLandUse (landuse : LandUseState) : Except StepError Unit := do
  raiseValue (landuse.housingCapacity.length ≠ landuse.zoneLabels.length)
    "housing_capacity length must match zone_labels length."
  raiseValue (landuse.jobsCapacity.length ≠ landuse.zoneLabels.length)
    "jobs_capacity length must match zone_labels length."
  raiseValue (∃ capacity ∈ landuse.housingCapacity, capacity < 0)
    "Housing capacity values must be non-negative."
  raiseValue (∃ capacity ∈ landuse.jobsCapacity, capacity < 0)
    "Jobs capacity values must be non-negative."

def validateZonalCosts (zoneCount : ℕ) (zonalCosts : List (List ℚ)) : Except StepError Unit := do
  raiseValue (zonalCosts.length ≠ 0 ∧ zonalCosts.length ≠ zoneCount)
    "Accessibility zonal_costs dimension must match zone_labels length."
  raiseValue (∃ row ∈ zonalCosts, row.length ≠ zoneCount)
    "Accessibility zonal_cost rows must match zone_labels length."
  raiseValue (∃ row ∈ zonalCosts, ∃ cost ∈ row, cost < 0)
    "Accessibility zonal_costs must be non-negative."

def validateLag (step : ℤ) (accessibility : AccessibilityState) : Except StepError Unit := do
  raiseValue (accessibility.zonalCosts = [] ∧ accessibility.laggedSnapshotStep ≠ -1)
    "Cleared accessibility payload must reset lagged_snapshot_step to -1."
  raiseValue (accessibility.zonalCosts ≠ [] ∧ step ≤ accessibility.laggedSnapshotStep)
    "Accessibility snapshot must be lagged relative to traffic.step."

def validateStateContract : Except StepError Unit := do
  validateGraph world.graph
  validateTraffic world.graph.numEdges world.traffic
  validateDemand world.demand
  validateVersions world
  validateLandUse world.landuse
  validateZonalCosts world.landuse.zoneLabels.length world.accessibility.zonalCosts
  validateLag world.traffic.step world.accessibility

end Contract

structure TrafficContract (numEdges : ℤ) (traffic : TrafficState) : Prop where
  queue_length : (traffic.edgeQueue.length : ℤ) = numEdges
  stock_length : (traffic.edgeStock.length : ℤ) = numEdges
  travel_time_length : (traffic.edgeTravelTime.length : ℤ) = numEdges
  movement_nonneg : ∀ movement ∈ traffic.movementQueue, 0 ≤ movement
  queue_nonneg : ∀ queue ∈ traffic.edgeQueue, 0 ≤ queue
  stock_nonneg : ∀ stock ∈ traffic.edgeStock, 0 ≤ stock
  travel_time_nonneg : ∀ travelTime ∈ traffic.edgeTravelTime, 0 ≤ travelTime
  queue_in_stock : ∀ edge ∈ traffic.edgeQueue.zip traffic.edgeStock, edge.1 ≤ edge.2

structure VersionsContract (world : WorldState) : Prop where
  accessibility_version : 0 ≤ world.accessibility.version
  graph_version : 0 ≤ world.accessibility.graphVersion
  landuse_version : 0 ≤ world.accessibility.landuseVersion
  version : 0 ≤ world.landuse.version
  policy : 0 ≤ world.policy.version
  journal : 0 ≤ world.replay.journalLength

structure LandUseContract (landuse : LandUseState) : Prop where
  housing_length : landuse.housingCapacity.length = landuse.zoneLabels.length
  jobs_length : landuse.jobsCapacity.length = landuse.zoneLabels.length
  housing_nonneg : ∀ capacity ∈ landuse.housingCapacity, 0 ≤ capacity
  jobs_nonneg : ∀ capacity ∈ landuse.jobsCapacity, 0 ≤ capacity

structure ZonalContract (zoneCount : ℕ) (zonalCosts : List (List ℚ)) : Prop where
  dimension : zonalCosts.length = 0 ∨ zonalCosts.length = zoneCount
  rows : ∀ row ∈ zonalCosts, row.length = zoneCount
  nonneg : ∀ row ∈ zonalCosts, ∀ cost ∈ row, 0 ≤ cost

structure LagContract (step : ℤ) (accessibility : AccessibilityState) : Prop where
  cleared : accessibility.zonalCosts = [] → accessibility.laggedSnapshotStep = -1
  lagged : accessibility.zonalCosts ≠ [] → accessibility.laggedSnapshotStep < step

structure ContractButLag (world : WorldState) : Prop where
  graph : validateGraph world.graph = .ok ()
  graph_version : 0 ≤ world.graph.version
  traffic : TrafficContract world.graph.numEdges world.traffic
  demand : validateDemand world.demand = .ok ()
  versions : VersionsContract world
  landuse : LandUseContract world.landuse
  zonal : ZonalContract world.landuse.zoneLabels.length world.accessibility.zonalCosts

structure StateContract (world : WorldState) : Prop extends ContractButLag world where
  lag : LagContract world.traffic.step world.accessibility

section Checks

theorem validate_traffic_ok {numEdges : ℤ} {traffic : TrafficState} :
    validateTraffic numEdges traffic = .ok () ↔ TrafficContract numEdges traffic := by
  simp only [validateTraffic, bind_ok, raise_value_ok, not_exists, not_and, not_lt, not_not]
  constructor
  · rintro ⟨_, queue, _, stock, _, time, _, movement, _, queues, _, stocks, _, times, within⟩
    exact ⟨queue.symm, stock.symm, time.symm, movement, queues, stocks, times, within⟩
  · intro h
    exact ⟨(), h.queue_length.symm, (), h.stock_length.symm, (), h.travel_time_length.symm, (),
      h.movement_nonneg, (), h.queue_nonneg, (), h.stock_nonneg, (), h.travel_time_nonneg,
      h.queue_in_stock⟩

theorem validate_versions_ok {world : WorldState} :
    validateVersions world = .ok () ↔ VersionsContract world := by
  simp only [validateVersions, bind_ok, raise_value_ok, not_lt]
  constructor
  · rintro ⟨_, version, _, graph, _, landuse, _, own, _, policy, journal⟩
    exact ⟨version, graph, landuse, own, policy, journal⟩
  · intro h
    exact ⟨(), h.accessibility_version, (), h.graph_version, (), h.landuse_version, (), h.version,
      (), h.policy, h.journal⟩

theorem validate_landuse_ok {landuse : LandUseState} :
    validateLandUse landuse = .ok () ↔ LandUseContract landuse := by
  simp only [validateLandUse, bind_ok, raise_value_ok, not_exists, not_and, not_lt, not_not]
  constructor
  · rintro ⟨_, housing, _, jobs, _, houses, places⟩
    exact ⟨housing, jobs, houses, places⟩
  · intro h
    exact ⟨(), h.housing_length, (), h.jobs_length, (), h.housing_nonneg, h.jobs_nonneg⟩

theorem validate_zonal_costs_ok {zoneCount : ℕ} {zonalCosts : List (List ℚ)} :
    validateZonalCosts zoneCount zonalCosts = .ok () ↔ ZonalContract zoneCount zonalCosts := by
  simp only [validateZonalCosts, bind_ok, raise_value_ok, not_exists, not_and, not_lt, not_not]
  constructor
  · rintro ⟨_, dimension, _, rows, nonneg⟩
    exact ⟨or_iff_not_imp_left.mpr dimension, rows, nonneg⟩
  · intro h
    exact ⟨(), or_iff_not_imp_left.mp h.dimension, (), h.rows, h.nonneg⟩

theorem validate_lag_ok {step : ℤ} {accessibility : AccessibilityState} :
    validateLag step accessibility = .ok () ↔ LagContract step accessibility := by
  simp only [validateLag, bind_ok, raise_value_ok, not_and, not_not, not_le]
  constructor
  · rintro ⟨_, cleared, lagged⟩
    exact ⟨cleared, lagged⟩
  · intro h
    exact ⟨(), h.cleared, h.lagged⟩

theorem validate_state_contract_ok {world : WorldState} :
    validateStateContract world = .ok () ↔ StateContract world := by
  simp only [validateStateContract, bind_ok]
  constructor
  · rintro ⟨_, graph, _, traffic, _, demand, _, versions, _, landuse, _, zonal, lag⟩
    obtain ⟨_, version, _⟩ := bind_ok.mp graph
    refine ⟨⟨graph, ?_, validate_traffic_ok.mp traffic, demand, validate_versions_ok.mp versions,
      validate_landuse_ok.mp landuse, validate_zonal_costs_ok.mp zonal⟩, validate_lag_ok.mp lag⟩
    exact not_lt.mp (raise_value_ok.mp version)
  · intro h
    exact ⟨(), h.graph, (), validate_traffic_ok.mpr h.traffic, (), h.demand, (),
      validate_versions_ok.mpr h.versions, (), validate_landuse_ok.mpr h.landuse, (),
      validate_zonal_costs_ok.mpr h.zonal, validate_lag_ok.mpr h.lag⟩

end Checks

end Metroflow.Multirate
