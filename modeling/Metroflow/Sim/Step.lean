import Metroflow.Sim.Admission
import Metroflow.Sim.Commit
import Metroflow.Sim.Rerouting

namespace Metroflow.Sim

open Metroflow.Lib Metroflow.City Metroflow.Flow Metroflow.Demand

variable {p n m cap : ℕ} (w : World p n m)

/-- The tick moves on unless the step is paused. -/
def applyControlToState (s : SimulationState p n m cap) (control : SimulationControl) :
    SimulationState p n m cap :=
  if control.pause then s else { s with tickIndex := s.tickIndex + 1 }

def advanceEventState (s : SimulationState p n m cap) (control : SimulationControl) :
    Except SimError (SimulationState p n m cap) := do
  let events ← (advanceEventScheduler s.events control.injectEvent s.tickIndex
    control.clearEventIds).mapError .event
  return { s with events := events }

/-- Whether some link has lost capacity to an incident. -/
def hasIncident (link : LinkState n) : Bool := decide (∃ l, link.incidentCapacityMultiplier l < 1)

def incidentTransition (before after : LinkState n) : IncidentTransition :=
  if hasIncident before = false ∧ hasIncident after = true then .activated
  else if hasIncident before = true ∧ hasIncident after = false then .cleared
  else .changed

/-- Sets the capacity multipliers of the active events and notes a change. -/
def applyEventEffectsToFlowState (s : SimulationState p n m cap) : SimulationState p n m cap :=
  let link := s.flow.linkState
  if s.events.activeEvents = [] ∧ hasIncident link = false then s
  else
    let applied := applyActiveEventEffectsToLinkState w.net link s.events.activeEvents
    if applied.incidentCapacityMultiplier = link.incidentCapacityMultiplier then
      { s with flow := { s.flow with linkState := applied } }
    else
      { s with
        flow := { s.flow with
          linkState := applied.withMetadata { applied.metadata with
            runtimeIncidentGeneration := applied.metadata.runtimeIncidentGeneration + 1 } }
        metadata := { s.metadata with
          incidentTransition := some (incidentTransition link applied)
          incidentTransitionTick := some s.tickIndex } }

def activateDueTripRequests (s : SimulationState p n m cap) : SimulationState p n m cap :=
  if s.demand.tripRequests = [] then s
  else
    let trips := activateTripRequests s.demand.tripRequests s.tickIndex
    let queued := trips.countP fun trip => trip.status = .queued
    let activated := trips.countP fun trip => trip.status = .activated
    { s with
      demand := { s.demand with
        tripRequests := trips
        queuedTripRequests := some queued
        pendingTripRequests := some (queued + activated)
        activatedTripRequests := some activated } }

/-- What the preparation of a tick returns. -/
structure Prepared (n cap : ℕ) where
  pool : ActiveAgentPool cap
  demand : DemandState
  linkState : LinkState n
  newlyAllocatedSlotIds : Finset (Fin cap)
  allocatedCount : ℕ
  failedCount : ℕ

/-- Allocates, reroutes and admits agents before the flow update of the tick. -/
def prepareRuntimeActiveAgents (s : SimulationState p n m cap) : Except SimError (Prepared n cap) := do
  let lookup ← runtimeTurnIndexLookup w.net s.flow.nodeState
  let pass ← admitActivatedTrips w s.tickIndex s.routes s.flow.linkState lookup s.pool s.demand
  let pool ← applyRuntimeReroutePolicy w s lookup pass.pool pass.newlyAllocatedSlotIds
  let link ← applySourceQueueIncrements w s.flow.linkState pass.sourceQueueIncrements
  return {
    pool := pool
    demand := pass.demand.withLifecycleCounts
    linkState := link
    newlyAllocatedSlotIds := pass.newlyAllocatedSlotIds
    allocatedCount := pass.allocatedCount
    failedCount := pass.failedCount }

/-- Only the spatial mode has progress along a link. -/
def advanceRuntimeAgentProgress (pool : ActiveAgentPool cap) (skip : Finset (Fin cap)) :
    Except SimError (ActiveAgentPool cap) :=
  if w.config.trafficModel = .spatialQueueV1 then
    advanceAgentLinkProgress w.net pool w.config.tickSeconds skip
  else .ok pool

/-- The state that the flow update finds, and what the tick must remember of
its preparation. -/
def prepareRuntimeRoutingState (s : SimulationState p n m cap) :
    Except SimError (SimulationState p n m cap × Prepared n cap) := do
  let routes ← refreshRuntimeRouteCandidates w s false
  let prepared ← prepareRuntimeActiveAgents w { s with routes := routes }
  let pool ← advanceRuntimeAgentProgress w prepared.pool prepared.newlyAllocatedSlotIds
  let node ← rebuildRuntimeTurnDemand w s.flow.nodeState pool prepared.newlyAllocatedSlotIds
  return ({ s with
    routes := routes
    demand := prepared.demand
    pool := pool
    flow := ⟨prepared.linkState, node⟩ }, prepared)

/-- The discrete flow update; the spatial mode passes its storage bound. -/
def advanceFlowState (flow : FlowState n m) : Except SimError (FlowState n m) := do
  raiseIf (w.config.trafficModel = .spatialQueueV1 ∧ flow.linkState.storageVector = none)
    .spatialFlowStorage
  let storage := if w.config.trafficModel = .spatialQueueV1 then
    flow.linkState.metadata.storageCapacityVehicles else none
  let result ← (updateLinkNodeFlow w.rustFlow flow w.config.flowBackend true storage).mapError .flow
  return { result with
    linkState := result.linkState.withMetadata { result.linkState.metadata with
      runtimeFlowGeneration := result.linkState.metadata.runtimeFlowGeneration + 1 } }

def recordRuntimeTransitionCounters (s : SimulationState p n m cap) (executed : Bool)
    (completed failed allocated : ℕ) : SimulationState p n m cap :=
  { s with
    metadata := { s.metadata with
      transitionAuthorityActive := executed
      transitionCounterTick := some s.tickIndex
      completedTripCount := completed
      failedTripCount := failed
      allocatedTripCount := allocated } }

/-- The tick proper, after the control and the events. -/
def executeTick (s : SimulationState p n m cap) : Except SimError (SimulationState p n m cap) := do
  let due := activateDueTripRequests (applyEventEffectsToFlowState w s)
  let (ready, prepared) ← prepareRuntimeRoutingState w due
  let flow ← advanceFlowState w ready.flow
  let committed ← commitRuntimeActiveAgentFlows w flow.nodeState ready.pool ready.demand
    prepared.newlyAllocatedSlotIds
  return recordRuntimeTransitionCounters
    { ready with flow := flow, pool := committed.pool, demand := committed.demand } true
    committed.completedCount prepared.failedCount prepared.allocatedCount

/-- Advances one deterministic simulation tick. -/
def simulationStep (s : SimulationState p n m cap) (control : SimulationControl) :
    Except SimError (SimulationState p n m cap) := do
  let s ← advanceEventState (applyControlToState s control) control
  if control.pause then return recordRuntimeTransitionCounters s false 0 0 0
  else executeTick w s

/-- What drives a run: a step under a control, or a refresh of the routes between steps. -/
inductive RunInput where
  | step (control : SimulationControl)
  | refreshRoutes (force : Bool)
  deriving DecidableEq

def advance (s : SimulationState p n m cap) : RunInput → Except SimError (SimulationState p n m cap)
  | .step control => simulationStep w s control
  | .refreshRoutes force => do
    let routes ← refreshRuntimeRouteCandidates w s force
    return { s with routes := routes }

end Metroflow.Sim
