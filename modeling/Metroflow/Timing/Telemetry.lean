import Metroflow.Timing.Metrics

namespace Metroflow.Timing

open Metroflow.Lib Metroflow.City Metroflow.Flow Metroflow.Routing Metroflow.Sim

variable {p n m cap : ℕ} {O : Type}

section Tables

/-- The metrics that a step writes. -/
def metricsTable : List (String × Source) := [
  ("tick_index", .observed .tickIndex),
  ("active_agents", .observed .activeAgents),
  ("queued_trip_requests", .observed .queuedTripRequests),
  ("pending_trip_requests", .observed .pendingTripRequests),
  ("capacity_violation_count", .observed .capacityViolationCount),
  ("capacity_violation_count_delta", .observed .capacityViolationCountDelta),
  ("negative_queue_detected", .observed .negativeQueueDetected),
  ("ui_packets_emitted", .observed .uiPacketsEmitted),
  ("completed_trips_total", .tally "completed_trips_total" "trip_completed_this_tick"),
  ("failed_trips_total", .tally "failed_trips_total" "trip_failed_this_tick"),
  ("generated_trip_total", .tally "generated_trip_total" "trip_generated_this_tick"),
  ("flow_backend", .observed (.setting .flowBackend)),
  ("traffic_model", .observed (.setting .trafficModel)),
  ("routing_backend", .observed (.setting .routingBackend)),
  ("agent_backend", .observed (.setting .agentBackend)),
  ("flow_update_wall_ns", .tick "flow_update_wall_ns"),
  ("flow_update_wall_ns_total", .tally "flow_update_wall_ns_total" "flow_update_wall_ns"),
  ("active_agent_update_wall_ns", .tick "active_agent_update_wall_ns"),
  ("active_agent_update_wall_ns_total",
    .tally "active_agent_update_wall_ns_total" "active_agent_update_wall_ns"),
  ("reroute_decision_wall_ns", .tick "reroute_decision_wall_ns"),
  ("reroute_decision_wall_ns_total",
    .tally "reroute_decision_wall_ns_total" "reroute_decision_wall_ns"),
  ("active_agent_allocation_wall_ns", .tick "active_agent_allocation_wall_ns"),
  ("active_agent_allocation_wall_ns_total",
    .tally "active_agent_allocation_wall_ns_total" "active_agent_allocation_wall_ns"),
  ("active_agent_candidate_selection_wall_ns", .tick "active_agent_candidate_selection_wall_ns"),
  ("active_agent_candidate_selection_wall_ns_total",
    .tally "active_agent_candidate_selection_wall_ns_total"
      "active_agent_candidate_selection_wall_ns"),
  ("active_agent_pool_write_wall_ns", .tick "active_agent_pool_write_wall_ns"),
  ("active_agent_pool_write_wall_ns_total",
    .tally "active_agent_pool_write_wall_ns_total" "active_agent_pool_write_wall_ns"),
  ("active_agent_pool_array_write_wall_ns", .tick "active_agent_pool_array_write_wall_ns"),
  ("active_agent_pool_array_write_wall_ns_total",
    .tally "active_agent_pool_array_write_wall_ns_total" "active_agent_pool_array_write_wall_ns"),
  ("active_agent_plugin_memory_write_wall_ns", .tick "active_agent_plugin_memory_write_wall_ns"),
  ("active_agent_plugin_memory_write_wall_ns_total",
    .tally "active_agent_plugin_memory_write_wall_ns_total"
      "active_agent_plugin_memory_write_wall_ns"),
  ("active_agent_movement_wall_ns", .tick "active_agent_movement_wall_ns"),
  ("active_agent_movement_wall_ns_total",
    .tally "active_agent_movement_wall_ns_total" "active_agent_movement_wall_ns"),
  ("queue_vehicles_total", .observed .queueVehicles),
  ("outflow_vehicles_total", .observed .outflowVehicles),
  ("route_candidate_refresh_total", .routeCount "route_candidate_refresh_total"),
  ("route_candidate_reuse_total", .routeCount "route_candidate_reuse_total"),
  ("dynamic_potential_recompute_total", .routeCount "dynamic_potential_recompute_total"),
  ("dynamic_potential_cache_hits_total", .routeCount "dynamic_potential_cache_hits_total"),
  ("dynamic_potential_cache_pruned_total", .routeCount "dynamic_potential_cache_pruned_total"),
  ("dynamic_potential_cache_entry_count", .routeCount "dynamic_potential_cache_entry_count"),
  ("route_candidate_refresh_seconds_total", .routeSeconds "route_candidate_refresh_seconds_total"),
  ("route_candidate_potential_seconds_total",
    .routeSeconds "route_candidate_potential_seconds_total"),
  ("route_candidate_path_build_seconds_total",
    .routeSeconds "route_candidate_path_build_seconds_total"),
  ("route_candidate_metadata_seconds_total",
    .routeSeconds "route_candidate_metadata_seconds_total"),
  ("dynamic_potential_recompute_seconds_total",
    .routeSeconds "dynamic_potential_recompute_seconds_total"),
  ("routing_compile_seconds_estimate_total",
    .routeSeconds "routing_compile_seconds_estimate_total"),
  ("active_agent_moved_this_tick", .tick "active_agent_moved_this_tick"),
  ("active_agent_sink_wait_this_tick", .tick "active_agent_sink_wait_this_tick"),
  ("active_agent_progressed_this_tick", .tick "active_agent_progressed_this_tick"),
  ("active_agent_exit_queue_count", .tick "active_agent_exit_queue_count"),
  ("active_agent_in_transit_count", .tick "active_agent_in_transit_count"),
  ("trip_source_spillback_wait_this_tick", .tick "trip_source_spillback_wait_this_tick"),
  ("spillback_blocked_turn_count", .observed .spillbackBlockedTurns),
  ("active_agent_sink_wait_total",
    .tally "active_agent_sink_wait_total" "active_agent_sink_wait_this_tick"),
  ("active_agent_rerouted_this_tick", .tick "active_agent_rerouted_this_tick"),
  ("active_agent_reroute_cooldown_this_tick", .tick "active_agent_reroute_cooldown_this_tick"),
  ("us2_reroute_decisions_total",
    .tally "us2_reroute_decisions_total" "active_agent_rerouted_this_tick"),
  ("us2_persistence_decisions_total",
    .tally "us2_persistence_decisions_total" "active_agent_reroute_cooldown_this_tick")]

/-- The summary that a snapshot shows, of the metrics before the step writes its own. -/
def summaryTable : List (String × Source) := [
  ("active_agents", .observed .activeAgents),
  ("queued_trip_requests", .observed .queuedTripRequests),
  ("pending_trip_requests", .observed .pendingTripRequests),
  ("completed_trips_total", .metricInt "completed_trips_total"),
  ("failed_trips_total", .metricInt "failed_trips_total"),
  ("capacity_violation_count", .metricInt "capacity_violation_count"),
  ("flow_backend", .metricText "flow_backend" .flowBackend),
  ("routing_backend", .metricText "routing_backend" .routingBackend),
  ("agent_backend", .metricText "agent_backend" .agentBackend),
  ("traffic_model", .metricText "traffic_model" .trafficModel),
  ("flow_update_wall_ns", .metricInt "flow_update_wall_ns"),
  ("flow_update_wall_ns_total", .metricInt "flow_update_wall_ns_total"),
  ("active_agent_update_wall_ns", .metricInt "active_agent_update_wall_ns"),
  ("active_agent_update_wall_ns_total", .metricInt "active_agent_update_wall_ns_total"),
  ("reroute_decision_wall_ns", .metricInt "reroute_decision_wall_ns"),
  ("reroute_decision_wall_ns_total", .metricInt "reroute_decision_wall_ns_total"),
  ("queue_vehicles_total", .metricFloat "queue_vehicles_total"),
  ("outflow_vehicles_total", .metricFloat "outflow_vehicles_total"),
  ("route_candidate_refresh_total", .metricInt "route_candidate_refresh_total"),
  ("route_candidate_reuse_total", .metricInt "route_candidate_reuse_total"),
  ("dynamic_potential_recompute_total", .metricInt "dynamic_potential_recompute_total"),
  ("dynamic_potential_cache_hits_total", .metricInt "dynamic_potential_cache_hits_total"),
  ("dynamic_potential_cache_pruned_total", .metricInt "dynamic_potential_cache_pruned_total"),
  ("dynamic_potential_cache_entry_count", .metricInt "dynamic_potential_cache_entry_count"),
  ("active_agent_moved_this_tick", .metricInt "active_agent_moved_this_tick"),
  ("active_agent_sink_wait_this_tick", .metricInt "active_agent_sink_wait_this_tick"),
  ("active_agent_sink_wait_total", .metricInt "active_agent_sink_wait_total"),
  ("active_agent_rerouted_this_tick", .metricInt "active_agent_rerouted_this_tick"),
  ("active_agent_reroute_cooldown_this_tick", .metricInt "active_agent_reroute_cooldown_this_tick"),
  ("us2_reroute_decisions_total", .metricInt "us2_reroute_decisions_total"),
  ("us2_persistence_decisions_total", .metricInt "us2_persistence_decisions_total"),
  ("negative_queue_detected", .observed .negativeQueueDetected),
  ("invariant_total_violations", .observed .invariantTotalViolations)]

/-- The telemetry of a step, of the metrics that it wrote. -/
def telemetryTable : List (String × Source) := [
  ("tick_index", .observed .tickIndex),
  ("active_agent_count", .metricInt "active_agents"),
  ("trip_generated_this_tick", .tick "trip_generated_this_tick"),
  ("trip_completed_this_tick", .tick "trip_completed_this_tick"),
  ("trip_failed_this_tick", .tick "trip_failed_this_tick"),
  ("capacity_violation_count_delta", .metricInt "capacity_violation_count_delta"),
  ("negative_queue_detected", .observed .negativeQueueDetected),
  ("policy_mix_lambda", .observed .policyMixLambda),
  ("adaptive_fallback_triggered", .observed .adaptiveFallback),
  ("ui_snapshot_emitted", .observed .uiSnapshotEmitted),
  ("flow_backend", .metricText "flow_backend" .flowBackend),
  ("routing_backend", .metricText "routing_backend" .routingBackend),
  ("agent_backend", .metricText "agent_backend" .agentBackend),
  ("traffic_model", .metricText "traffic_model" .trafficModel),
  ("flow_update_wall_ns", .metricInt "flow_update_wall_ns"),
  ("active_agent_update_wall_ns", .metricInt "active_agent_update_wall_ns"),
  ("reroute_decision_wall_ns", .metricInt "reroute_decision_wall_ns"),
  ("queue_vehicles_total", .metricFloat "queue_vehicles_total"),
  ("outflow_vehicles_total", .metricFloat "outflow_vehicles_total"),
  ("route_candidate_refresh_total", .metricInt "route_candidate_refresh_total"),
  ("route_candidate_reuse_total", .metricInt "route_candidate_reuse_total"),
  ("dynamic_potential_recompute_total", .metricInt "dynamic_potential_recompute_total"),
  ("dynamic_potential_cache_hits_total", .metricInt "dynamic_potential_cache_hits_total"),
  ("dynamic_potential_cache_pruned_total", .metricInt "dynamic_potential_cache_pruned_total"),
  ("dynamic_potential_cache_entry_count", .metricInt "dynamic_potential_cache_entry_count"),
  ("active_agent_moved_this_tick", .metricInt "active_agent_moved_this_tick"),
  ("active_agent_sink_wait_this_tick", .metricInt "active_agent_sink_wait_this_tick"),
  ("active_agent_rerouted_this_tick", .metricInt "active_agent_rerouted_this_tick"),
  ("active_agent_reroute_cooldown_this_tick", .metricInt "active_agent_reroute_cooldown_this_tick"),
  ("active_agent_progressed_this_tick", .metricInt "active_agent_progressed_this_tick"),
  ("active_agent_exit_queue_count", .metricInt "active_agent_exit_queue_count"),
  ("active_agent_in_transit_count", .metricInt "active_agent_in_transit_count"),
  ("trip_source_spillback_wait_this_tick", .metricInt "trip_source_spillback_wait_this_tick"),
  ("spillback_blocked_turn_count", .metricInt "spillback_blocked_turn_count")]

/-- The times that the replay dictionary leaves out. -/
def telemetryTimes : List String :=
  ["flow_update_wall_ns", "active_agent_update_wall_ns", "reroute_decision_wall_ns"]

theorem tables_discreet : (∀ item ∈ metricsTable, item.2.Discreet item.1) ∧
    (∀ item ∈ summaryTable, item.2.Discreet item.1) ∧
    ∀ item ∈ telemetryTable, item.2.Discreet item.1 := by
  decide +kernel

theorem telemetry_times : ∀ name ∈ telemetryTable.map Prod.fst,
    (Hidden name → EndsWallNs name) ∧ (name ∉ telemetryTimes ↔ ¬ Hidden name) := by
  apply spelled_all
  · unfold telemetryTable
    repeat' constructor
  · simp only [hidden_spelled, ends_wall_ns_spelled]
    decide +kernel

end Tables

section Observers

/-- The metrics after a step: those it writes over those before. -/
def updateMetricsState (rt : Runtime p n m cap O) (v : View p n m cap O) :
    Except StepError (Stats O) := do
  let written ← readAll rt v metricsTable
  return v.state.metricsState.update written

/-- The indices of at most 64 links, evenly spread. -/
def sampleIndices (linkCount : ℕ) : List ℕ :=
  let sample := max 1 (min 64 linkCount)
  if sample = 1 then [0]
  else if sample = linkCount then List.range linkCount
  else (List.range sample).map fun i => i * (linkCount - 1) / (sample - 1)

def LinkState.freeFlowCost (link : LinkState n) (l : Fin n) : ℚ :=
  ((link.metadata.freeFlowTravelTimeCost.bind fun stored => stored.exactly n).getD
    link.travelTimeCost) l

def linkSample (net : RoadNetworkCSR p n m) (link : LinkState n) (l : Fin n) : LinkSample where
  linkId := (net.links l).linkId
  queueVehicles := link.queueVehicles l
  effectiveCapacity := link.effectiveCapacityVehicles l
  congestionRatio := link.queueVehicles l / max (link.effectiveCapacityVehicles l) (1 / 1000000)
  travelTimeCost := link.travelTimeCost l
  slowdownRatio := link.travelTimeCost l / max (LinkState.freeFlowCost link l) (1 / 1000000)
  capacityFlag := link.capacityViolationFlags l

def sampledLinkCongestion (net : RoadNetworkCSR p n m) (link : LinkState n) : List LinkSample :=
  (sampleIndices n).filterMap fun i =>
    if inside : i < n then some (linkSample net link ⟨i, inside⟩) else none

def buildUiSnapshotSource (rt : Runtime p n m cap O) (v : View p n m cap O) :
    Except StepError (UiSnapshotSource O) := do
  let summary ← readAll rt v summaryTable
  return {
    networkGeometryVersion := rt.world.geometryVersion
    sampledLinkCongestion := sampledLinkCongestion rt.world.net v.state.core.flow.linkState
    activeEvents := v.state.core.events.activeEvents
    dayType := v.state.dayType
    timeBand := v.state.timeBand
    simTick := v.state.core.tickIndex
    summaryMetrics := summary }

/-- A field that the telemetry refuses: a negative count, time or total. -/
def Scalar.isNegative : Scalar O → Bool
  | .int i => decide (i < 0)
  | .float x => decide (x < 0)
  | _ => false

/-- Per-tick telemetry: its fields by their names, none of them negative. -/
structure SimulationTelemetry (O : Type) where
  fields : Stats O
  nonneg : ∀ field ∈ fields, field.2.isNegative = false

def SimulationTelemetry.create (fields : Stats O) : Except StepError (SimulationTelemetry O) :=
  match found : fields.find? fun field => field.2.isNegative with
  | some field => .error (.negativeTelemetry field.1)
  | none => .ok ⟨fields, fun field listed => by simpa using List.find?_eq_none.mp found field listed⟩

def buildStepTelemetry (rt : Runtime p n m cap O) (v : View p n m cap O) :
    Except StepError (SimulationTelemetry O) := do
  let fields ← readAll rt v telemetryTable
  SimulationTelemetry.create fields

/-- The telemetry without what the clock has measured. -/
def SimulationTelemetry.asReplayDict (telemetry : SimulationTelemetry O) : Stats O :=
  telemetry.fields.filter fun field => decide (field.1 ∉ telemetryTimes)

end Observers

section Alike

variable {rt : Runtime p n m cap O} {v v' : View p n m cap O}

theorem update_metrics_alike (h : v.Alike v') :
    Outcome StatsAlike (updateMetricsState rt v) (updateMetricsState rt v') :=
  (h.read_all tables_discreet.1).bind fun _ _ written => .ok (h.state.metrics.update written)

theorem snapshot_alike (h : v.Alike v') :
    Outcome UiSnapshotSource.Alike (buildUiSnapshotSource rt v) (buildUiSnapshotSource rt v') := by
  refine (h.read_all tables_discreet.2.1).bind fun summary summary' alike => .ok ?_
  obtain ⟨core, day_type, time_band, _⟩ := h.state
  exact ⟨rfl, by rw [core], by rw [core], day_type, time_band, by rw [core], alike⟩

theorem Similar.is_negative {key : String} {value value' : Scalar O} (h : Similar key value value')
    (times : Hidden key → EndsWallNs key) : value.isNegative = value'.isNegative := by
  cases h with
  | same => rfl
  | ints similar =>
    rcases similar with rfl | ⟨hidden, pos⟩
    · rfl
    · obtain ⟨pos, pos'⟩ := pos (times hidden)
      simp only [Scalar.isNegative, decide_eq_false (not_lt.mpr pos),
        decide_eq_false (not_lt.mpr pos')]
  | floats hidden passing => exact absurd (times hidden) passing

theorem negative_alike {fields fields' : Stats O} (h : StatsAlike fields fields')
    (times : ∀ name ∈ fields.map Prod.fst, Hidden name → EndsWallNs name) :
    (fields.find? fun field => field.2.isNegative).map Prod.fst =
      (fields'.find? fun field => field.2.isNegative).map Prod.fst := by
  induction h with
  | nil => rfl
  | @cons field field' rest rest' first _ ih =>
    obtain ⟨names, similar⟩ := first
    have same := similar.is_negative (times field.1 (by simp))
    rw [List.find?_cons, List.find?_cons, ← same]
    split
    · exact congrArg some names
    · exact ih fun name listed => times name (List.mem_cons_of_mem _ listed)

theorem create_alike {fields fields' : Stats O} (h : StatsAlike fields fields')
    (names : fields.map Prod.fst = telemetryTable.map Prod.fst)
    (names' : fields'.map Prod.fst = telemetryTable.map Prod.fst) :
    Outcome (fun a b => a.asReplayDict = b.asReplayDict) (SimulationTelemetry.create fields)
      (SimulationTelemetry.create fields') := by
  have refused := negative_alike h fun name listed => (telemetry_times name (names ▸ listed)).1
  have shown : ∀ {fields : Stats O}, fields.map Prod.fst = telemetryTable.map Prod.fst →
      (fields.filter fun field => decide (field.1 ∉ telemetryTimes)) =
        fields.filter fun field => decide (¬ Hidden field.1) := by
    intro fields names
    refine List.filter_congr fun field listed => decide_eq_decide.mpr ?_
    exact (telemetry_times field.1 (names ▸ List.mem_map_of_mem listed)).2
  unfold SimulationTelemetry.create
  split
  · rename_i field found
    split
    · rename_i field' found'
      rw [found, found'] at refused
      rw [show field.1 = field'.1 from Option.some.inj refused]
      exact .error _
    · rename_i found'
      rw [found, found'] at refused
      cases refused
  · rename_i found
    split
    · rename_i field' found'
      rw [found, found'] at refused
      cases refused
    · refine .ok ?_
      unfold SimulationTelemetry.asReplayDict
      rw [shown names, shown names']
      exact h.seen fun key value value' seen similar => similar.eq (of_decide_eq_true seen)

theorem telemetry_alike (h : v.Alike v') :
    Outcome (fun a b => a.asReplayDict = b.asReplayDict) (buildStepTelemetry rt v)
      (buildStepTelemetry rt v') := by
  unfold buildStepTelemetry
  have read : Outcome StatsAlike (readAll rt v telemetryTable) (readAll rt v' telemetryTable) :=
    h.read_all tables_discreet.2.2
  cases first : readAll rt v telemetryTable with
  | error e =>
    cases second : readAll rt v' telemetryTable with
    | error e' =>
      rw [first, second] at read
      cases read
      exact .error e
    | ok fields' =>
      rw [first, second] at read
      cases read
  | ok fields =>
    cases second : readAll rt v' telemetryTable with
    | error e' =>
      rw [first, second] at read
      cases read
    | ok fields' =>
      rw [first, second] at read
      cases read with
      | ok alike => exact create_alike alike (read_all_names first) (read_all_names second)

end Alike

end Metroflow.Timing
