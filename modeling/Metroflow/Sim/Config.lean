import Metroflow.Flow.Baseline
import Metroflow.Flow.Events
import Metroflow.Routing.Reroute

namespace Metroflow.Sim

open Metroflow.Flow Metroflow.Routing

inductive TrafficModel where
  | pointQueueV1
  | spatialQueueV1
  deriving DecidableEq, Repr

inductive AgentBackend where
  | baseline
  | rustCpu
  | auto
  deriving DecidableEq, Repr

/-- The part of the runtime configuration that a step reads. -/
@[ext]
structure SimulationConfig where
  tickSeconds : ℚ := 1
  trafficModel : TrafficModel := .pointQueueV1
  jamSpacingM : ℚ := 15 / 2
  flowBackend : FlowBackend := .baseline
  routingBackend : RoutingBackend := .baseline
  agentBackend : AgentBackend := .baseline
  routeMaxCandidates : ℕ := 1
  routeMaxHops : ℕ := 64
  routeRefreshIntervalTicks : ℕ := 8
  routePathSizeGamma : ℚ := 0
  tick_seconds_pos : 0 < tickSeconds
  jam_spacing_range : 2 ≤ jamSpacingM ∧ jamSpacingM ≤ 20
  spatial_baseline : trafficModel = .spatialQueueV1 → flowBackend = .baseline
  candidates_pos : 1 ≤ routeMaxCandidates
  hops_pos : 1 ≤ routeMaxHops
  interval_pos : 1 ≤ routeRefreshIntervalTicks
  gamma_nonneg : 0 ≤ routePathSizeGamma

instance : DecidableEq SimulationConfig := fun _ _ => decidable_of_iff _ SimulationConfig.ext_iff.symm

/-- For whom a route was checked. -/
inductive RouteContext where
  | trip (tripId : ℤ)
  | slot (slotId : ℕ)
  | rerouteSlot (slotId : ℕ)
  deriving DecidableEq, Repr

def RouteContext.text : RouteContext → String
  | .trip tripId => "trip=" ++ toString tripId
  | .slot slotId => "slot=" ++ toString slotId
  | .rerouteSlot slotId => "reroute slot=" ++ toString slotId

/-- What the route path authority finds wrong with a route. -/
inductive RouteFault where
  | empty
  | unknownLink (linkId : ℤ)
  | wrongDestination (linkId actual expected : ℤ)
  | illegalTurn (fromLinkId toLinkId : ℤ)
  deriving DecidableEq, Repr

def RouteFault.message (context : RouteContext) : RouteFault → String
  | .empty => "active route path is empty or has no road authority: " ++ context.text
  | .unknownLink linkId =>
    "active route path references unknown link " ++ toString linkId ++ ": " ++ context.text
  | .wrongDestination linkId actual expected =>
    "final route link does not terminate at active-agent destination: " ++ context.text ++
      " link=" ++ toString linkId ++ " link_dst_node=" ++ toString actual ++
      " agent_dest_node=" ++ toString expected
  | .illegalTurn fromLinkId toLinkId =>
    "active route path contains no unique legal compiled turn: " ++ context.text ++
      " from_link=" ++ toString fromLinkId ++ " to_link=" ++ toString toLinkId

/-- The errors of a simulation step. -/
inductive SimError where
  | flow (e : FlowError)
  | routing (e : RoutingError)
  | event (e : EventError)
  | turnIsForbiddenShape
  | duplicateRuntimeTurn
  | route (context : RouteContext) (fault : RouteFault)
  | tripIdentityMissing (slotId : ℕ) (packedTripId : ℤ)
  | tripIdentityMismatch (slotId : ℕ) (packedTripId memoryTripId : ℤ)
  | missingIntent (slotId : ℕ) (fromLinkId toLinkId : ℤ) (missingCount : ℕ)
  | invalidSink (slotId : ℕ) (linkId actual expected : ℤ) (invalidCount : ℕ)
  | admissionStorage
  | admissionLink (linkId : ℤ)
  | spatialFlowStorage
  | poolFull
  | freeStackOverflow
  | noIndexedLinks
  | missingPhysicalLink (slotId : ℕ) (linkId : ℤ)
  | allocatedSourceMissing
  | rustAgentBackend
  | finalLinkAbsent (slotId : ℕ) (linkId : ℤ)
  | sinkFlowShape
  | tokensNotReconciled
  deriving DecidableEq, Repr

def SimError.message : SimError → String
  | .flow e => e.message
  | .routing e => e.message
  | .event (.wrongStatus eventId) =>
    "event bucket contains event_id=" ++ toString eventId ++ " with an unexpected status"
  | .event (.duplicateEventId eventId) =>
    "duplicate event_id across scheduler buckets: " ++ toString eventId
  | .turnIsForbiddenShape => "turn_is_forbidden shape mismatch"
  | .duplicateRuntimeTurn => "compiled runtime turn table contains duplicate legal movement"
  | .route context fault => fault.message context
  | .tripIdentityMissing slotId packed =>
    "active-agent route memory is missing a valid trip_request_id: slot=" ++ toString slotId ++
      " packed_trip_id=" ++ toString packed
  | .tripIdentityMismatch slotId packed memory =>
    "active-agent route memory trip identity mismatch: slot=" ++ toString slotId ++
      " packed_trip_id=" ++ toString packed ++ " memory_trip_request_id=" ++ toString memory
  | .missingIntent slotId fromLinkId toLinkId count =>
    "active route intent has no unique legal compiled turn: slot=" ++ toString slotId ++
      " from_link=" ++ toString fromLinkId ++ " to_link=" ++ toString toLinkId ++
      " (missing_count=" ++ toString count ++ ")"
  | .invalidSink slotId linkId actual expected count =>
    "final route link does not terminate at active-agent destination: slot=" ++ toString slotId ++
      " link=" ++ toString linkId ++ " link_dst_node=" ++ toString actual ++
      " agent_dest_node=" ++ toString expected ++ " (invalid_count=" ++ toString count ++ ")"
  | .admissionStorage => "spatial source admission lacks storage capacity"
  | .admissionLink linkId =>
    "spatial source admission references unknown link " ++ toString linkId
  | .spatialFlowStorage => "spatial flow update lacks storage capacity"
  | .poolFull => "active-agent pool is full"
  | .freeStackOverflow => "free_slot_stack overflow"
  | .noIndexedLinks => "road_csr must contain indexed links"
  | .missingPhysicalLink slotId linkId =>
    "active agent references missing physical link: slot=" ++ toString slotId ++ " link=" ++
      toString linkId
  | .allocatedSourceMissing => "allocated route source link is missing from road_csr"
  | .finalLinkAbsent slotId linkId =>
    "final active-agent route link is absent from the runtime network: slot=" ++ toString slotId ++
      " link=" ++ toString linkId
  | .rustAgentBackend =>
    "Rust CPU active-agent backend does not implement the per-turn token contract"
  | .sinkFlowShape => "runtime_sink_flow_by_link_index shape mismatch"
  | .tokensNotReconciled =>
    "realized flow tokens did not reconcile with eligible active-agent intents"

end Metroflow.Sim
