import Metroflow.Sim.RouteAuthority
import Metroflow.Sim.SpatialQueue

namespace Metroflow.Sim

open Metroflow.Lib Metroflow.City Metroflow.Flow Metroflow.Demand

variable {p n m cap : ℕ} (net : RoadNetworkCSR p n m)

/-- A free-flow link, its times and capacities in simulation ticks; storage
only where the traffic model has it. -/
def buildInitialLinkState (config : SimulationConfig) : LinkState n :=
  let travelTimeCost := fun l : Fin n => max (1 / 1000 : ℚ)
    ((net.links l).lengthM / max (1 / 1000) (net.links l).freeFlowSpeedMps / config.tickSeconds)
  let capacity := fun l : Fin n => max 0 (net.links l).capacityVehPerTick * config.tickSeconds
  let storage := fun l => (computeLinkStorageCapacity net config.jamSpacingM l : ℚ)
  (createLinkState travelTimeCost capacity (fun l => lt_max_of_lt_left (by norm_num))
    (fun l => mul_nonneg (le_max_left _ _) config.tick_seconds_pos.le)).withMetadata {
      freeFlowTravelTimeCost := some (.vector (List.ofFn travelTimeCost))
      storageCapacityVehicles :=
        if config.trafficModel = .spatialQueueV1 then some (.ofVector storage) else none }

/-- The turn table of the network, without demand. -/
def buildInitialNodeState : NodeState n m :=
  (createNodeState net.turnFromLinkIndex net.turnToLinkIndex p).withMetadata {
    turnBasePriority := some (.vector (List.ofFn fun t => (net.turns t).basePriority))
    turnIsForbidden := some (.vector (List.ofFn net.turnIsForbidden)) }

def buildInitialDemandState (trips : List TripRequest) : DemandState where
  tripRequests := trips
  queuedTripRequests := some (trips.countP fun trip => trip.status = .queued)
  activatedTripRequests := some 0
  pendingTripRequests := some (trips.countP fun trip => trip.status = .queued)

/-- The state before the first tick. -/
def buildInitialSimulationState (w : World p n m) (trips : List TripRequest) :
    SimulationState p n m cap where
  demand := buildInitialDemandState trips
  pool := createActiveAgentPool cap
  flow := {
    linkState := buildInitialLinkState w.net w.config
    nodeState := buildInitialNodeState w.net }

structure RunsTable (net : RoadNetworkCSR p n m) (node : NodeState n m) : Prop where
  from_links : node.turnFromLinkIndex = net.turnFromLinkIndex
  to_links : node.turnToLinkIndex = net.turnToLinkIndex
  forbidden : readTurnIsForbidden node = .ok net.turnIsForbidden

theorem RunsTable.initial : RunsTable net (buildInitialNodeState net) where
  from_links := rfl
  to_links := rfl
  forbidden := by
    simp [readTurnIsForbidden, buildInitialNodeState, NodeState.withMetadata, MetaArray.broadcast]

variable {net}

theorem RunsTable.lookup {node : NodeState n m} (h : RunsTable net node) :
    runtimeTurnIndexLookup net node = .ok net.turnPairToIndex := by
  unfold runtimeTurnIndexLookup
  rw [h.forbidden, bind_ok]
  exact ⟨_, rfl, by simp [h.from_links, h.to_links]⟩

end Metroflow.Sim
