import Metroflow.Demand.Trips
import Metroflow.Flow.Authority
import Metroflow.Flow.Events
import Metroflow.Sim.ActiveAgents

namespace Metroflow.Sim

open Metroflow.Lib Metroflow.City Metroflow.Flow Metroflow.Routing Metroflow.Demand

variable {p n m cap : ℕ}

structure POI where
  poiId : ℤ
  nodeId : ℤ
  deriving DecidableEq, Repr

/-- Static references and the code a step runs with: the configuration, the
city, the compiled modules and the logarithm of the route utility. -/
structure World (p n m : ℕ) where
  config : SimulationConfig
  net : RoadNetworkCSR p n m
  pois : List POI := []
  geometryVersion : String := ""
  routeChoiceProfiles : List RouteChoiceProfile := []
  rustFlow : RustFlowKernel n m := fun _ => none
  rust : RustExtension := .missing
  log : ℚ → ℚ := fun _ => 0

structure DemandState where
  tripRequests : List TripRequest := []
  allocatedTripRequestIds : Finset ℤ := ∅
  completedTripRequestIds : Finset ℤ := ∅
  failedTripRequestIds : Finset ℤ := ∅
  failedTripReasonById : AList (fun _ : ℤ => String) := ∅
  queuedTripRequests : Option ℕ := none
  activatedTripRequests : Option ℕ := none
  pendingTripRequests : Option ℕ := none
  deriving DecidableEq

namespace DemandState

/-- A request that was neither allocated nor completed nor failed. -/
def unassigned (d : DemandState) (tripId : ℤ) : Bool :=
  decide (tripId ∉ d.allocatedTripRequestIds) && decide (tripId ∉ d.completedTripRequestIds) &&
    decide (tripId ∉ d.failedTripRequestIds)

def countStatus (d : DemandState) (status : TripRequestStatus) : ℕ :=
  d.tripRequests.countP fun trip => d.unassigned trip.tripRequestId && decide (trip.status = status)

/-- The mapping with the counts of the unassigned requests. -/
def withLifecycleCounts (d : DemandState) : DemandState :=
  { d with
    queuedTripRequests := some (d.countStatus .queued)
    activatedTripRequests := some (d.countStatus .activated)
    pendingTripRequests := some (d.countStatus .queued + d.countStatus .activated) }

end DemandState

/-- What a cached potential of the runtime was computed for. -/
structure RuntimeCacheKey where
  geometryVersion : String
  flowGeneration : ℤ
  incidentGeneration : ℤ
  destinationNodeId : ℤ
  maxHops : ℕ
  maxCandidates : ℕ
  deriving DecidableEq, Repr

structure SimulationRouteCacheState (p n : ℕ) where
  candidateSets : AList (fun _ : ℤ × ℤ => RouteCandidateSet) := ∅
  potentialCache : PotentialCache RuntimeCacheKey p n := []

/-- The keys of the dynamic metadata that a step reads or writes. -/
structure DynamicMetadata where
  incidentTransition : Option IncidentTransition := none
  incidentTransitionTick : Option ℕ := none
  transitionAuthorityActive : Bool := false
  transitionCounterTick : Option ℕ := none
  completedTripCount : ℕ := 0
  failedTripCount : ℕ := 0
  allocatedTripCount : ℕ := 0
  deriving DecidableEq, Repr

/-- The dynamic references that a step updates. -/
structure SimulationState (p n m cap : ℕ) where
  tickIndex : ℕ := 0
  demand : DemandState := {}
  pool : ActiveAgentPool cap
  flow : FlowState n m
  events : TrafficEventSchedulerState := {}
  routes : SimulationRouteCacheState p n := {}
  metadata : DynamicMetadata := {}

/-- Per-tick control input. -/
structure SimulationControl where
  pause : Bool := false
  injectEvent : List TrafficEvent := []
  clearEventIds : List ℕ := []
  deriving DecidableEq

def World.poiNode (w : World p n m) (poiId : ℤ) : Option ℤ :=
  (w.pois.reverse.find? fun poi => poi.poiId = poiId).map POI.nodeId

/-- The OD key and the end nodes of a trip, when both POIs are known. -/
def World.tripOdNodes (w : World p n m) (trip : TripRequest) : Option ((ℤ × ℤ) × ℤ × ℤ) :=
  match w.poiNode trip.originPoiId, w.poiNode trip.destPoiId with
  | some origin, some destination => some ((trip.originPoiId, trip.destPoiId), origin, destination)
  | _, _ => none

def activatedTripRequests (trips : List TripRequest) : List TripRequest :=
  (trips.filter fun trip => trip.status = .activated).insertionSort fun a b =>
    a.tripRequestId ≤ b.tripRequestId

theorem mem_activated {trips : List TripRequest} {trip : TripRequest} :
    trip ∈ activatedTripRequests trips ↔ trip ∈ trips ∧ trip.status = .activated := by
  simp [activatedTripRequests]

end Metroflow.Sim
