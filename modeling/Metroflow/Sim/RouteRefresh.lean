import Metroflow.Routing.Planned
import Metroflow.Sim.State

namespace Metroflow.Sim

open Metroflow.Lib Metroflow.City Metroflow.Flow Metroflow.Routing Metroflow.Demand

variable {p n m cap : ℕ} (w : World p n m)

def routePotentialCacheKey (link : LinkState n) (destinationNodeId : ℤ) : RuntimeCacheKey where
  geometryVersion := w.geometryVersion
  flowGeneration := link.metadata.runtimeFlowGeneration
  incidentGeneration := link.metadata.runtimeIncidentGeneration
  destinationNodeId := destinationNodeId
  maxHops := w.config.routeMaxHops
  maxCandidates := w.config.routeMaxCandidates

/-- A cache entry of the current scope: it would be found under some destination. -/
def inCurrentScope (link : LinkState n) (key : RoutingBackend × RuntimeCacheKey) : Bool :=
  decide (key = (w.config.routingBackend, routePotentialCacheKey w link key.2.destinationNodeId))

def pruneStaleRoutePotentialCache (link : LinkState n) (cache : PotentialCache RuntimeCacheKey p n) :
    PotentialCache RuntimeCacheKey p n :=
  cache.filter fun entry => inCurrentScope w link entry.1

/-- The activated requests that no agent was allocated for and that did not fail. -/
def routeRelevantTripRequests (demand : DemandState) : List TripRequest :=
  (demand.tripRequests.filter fun trip =>
    decide (trip.status = .activated) && demand.unassigned trip.tripRequestId).insertionSort
    fun a b => a.tripRequestId ≤ b.tripRequestId

def World.refreshPolicy (w : World p n m) : RouteCandidateRefreshPolicy where
  refreshIntervalTicks := w.config.routeRefreshIntervalTicks
  maxCandidates := w.config.routeMaxCandidates
  maxHops := w.config.routeMaxHops
  interval_pos := w.config.interval_pos
  candidates_pos := w.config.candidates_pos
  hops_pos := w.config.hops_pos

/-- The route cache under refresh, with the OD keys that were handled. -/
structure RefreshPass (p n : ℕ) where
  routes : SimulationRouteCacheState p n
  refreshedOdKeys : List (ℤ × ℤ)

def refreshTripRoutes (tick : ℕ) (link : LinkState n) (incidentActive forceRefresh : Bool)
    (s : RefreshPass p n) (trip : TripRequest) : Except SimError (RefreshPass p n) :=
  match w.tripOdNodes trip with
  | none => .ok s
  | some (odKey, originNodeId, destinationNodeId) =>
    if odKey ∈ s.refreshedOdKeys then .ok s
    else do
      let request : CandidateRequest := {
        odKey := odKey
        originNodeId := originNodeId
        destinationNodeId := destinationNodeId
        currentTick := tick
        routingBackend := w.config.routingBackend }
      let (set, cache) ← (refreshOdRouteCandidateSet w.rust w.net
        (s.routes.candidateSets.lookup odKey) (.linkState link) request incidentActive forceRefresh
        w.refreshPolicy s.routes.potentialCache
        (some (routePotentialCacheKey w link destinationNodeId))).mapError .routing
      return {
        routes := ⟨s.routes.candidateSets.insert odKey set, cache⟩
        refreshedOdKeys := odKey :: s.refreshedOdKeys }

/-- Refreshes or reuses the OD route candidates of the activated requests. -/
def refreshRuntimeRouteCandidates (s : SimulationState p n m cap) (forceRefresh : Bool) :
    Except SimError (SimulationRouteCacheState p n) := do
  let force := forceRefresh || decide (s.metadata.incidentTransitionTick = some s.tickIndex)
  let start : SimulationRouteCacheState p n := {
    candidateSets := s.routes.candidateSets
    potentialCache := pruneStaleRoutePotentialCache w s.flow.linkState s.routes.potentialCache }
  let pass ← (routeRelevantTripRequests s.demand).foldlM
    (refreshTripRoutes w s.tickIndex s.flow.linkState
      (decide (s.events.activeEvents ≠ [])) force) ⟨start, []⟩
  return pass.routes

end Metroflow.Sim
