import Metroflow.Timing.Agents
import Metroflow.Timing.Routes
import Metroflow.Timing.Telemetry

namespace Metroflow.Timing

open Metroflow.Lib Metroflow.City Metroflow.Flow Metroflow.Routing Metroflow.Demand Metroflow.Sim

variable {p n m cap : ℕ} {O : Type} (rt : Runtime p n m cap O)

section Phases

def zeroTickCounters : Counters := [
  ("trip_generated_this_tick", 0),
  ("trip_completed_this_tick", 0),
  ("trip_failed_this_tick", 0),
  ("trip_activated_this_tick", 0),
  ("trip_allocated_this_tick", 0),
  ("active_agent_moved_this_tick", 0),
  ("active_agent_sink_wait_this_tick", 0),
  ("active_agent_progressed_this_tick", 0),
  ("active_agent_exit_queue_count", 0),
  ("active_agent_in_transit_count", 0),
  ("trip_source_spillback_wait_this_tick", 0),
  ("route_candidate_refresh_this_tick", 0),
  ("route_candidate_reuse_this_tick", 0),
  ("dynamic_potential_recompute_this_tick", 0),
  ("dynamic_potential_cache_hits_this_tick", 0),
  ("dynamic_potential_cache_pruned_this_tick", 0),
  ("dynamic_potential_cache_entry_count", 0),
  ("flow_update_wall_ns", 0),
  ("active_agent_update_wall_ns", 0),
  ("reroute_decision_wall_ns", 0),
  ("active_agent_allocation_wall_ns", 0),
  ("active_agent_candidate_selection_wall_ns", 0),
  ("active_agent_pool_write_wall_ns", 0),
  ("active_agent_pool_array_write_wall_ns", 0),
  ("active_agent_plugin_memory_write_wall_ns", 0),
  ("active_agent_movement_wall_ns", 0),
  ("active_agent_rerouted_this_tick", 0),
  ("active_agent_reroute_cooldown_this_tick", 0)]

def applyControlToState (s : RuntimeState p n m cap O) (control : RuntimeControl) :
    RuntimeState p n m cap O :=
  { s with
    core := Sim.applyControlToState s.core control.toSimulationControl
    dayType := control.setDayType.getD s.dayType
    timeBand := control.setTimeBand.getD s.timeBand }

def activatedCount (trips : List TripRequest) : ℕ := trips.countP fun trip => trip.status = .activated

/-- Activates the due requests, and counts the new ones. -/
def activateDueTripRequests (s : SimulationState p n m cap) : SimulationState p n m cap × Counters :=
  let due := Sim.activateDueTripRequests s
  (due, zeroTickCounters.set "trip_activated_this_tick"
    (max 0 ((activatedCount due.demand.tripRequests : ℤ) - activatedCount s.demand.tripRequests)))

/-- The state that the flow update finds, the counters of its preparation and
the slots of the agents just admitted. -/
def prepareRuntimeRoutingState (s : RuntimeState p n m cap O) :
    Timed (RuntimeState p n m cap O × Counters × Finset (Fin cap)) := do
  let (s, routeCounters) ← refreshRuntimeRouteCandidates rt s false
  let ((prepared, agentCounters), updateNs) ← timedNs (prepareRuntimeActiveAgents rt.world s.core)
  let ((pool, progressCounters), progressNs) ← timedNs
    (advanceRuntimeAgentProgress rt.world prepared.pool prepared.newlyAllocatedSlotIds)
  let node ← pureStep (rebuildRuntimeTurnDemand rt.world s.core.flow.nodeState pool
    prepared.newlyAllocatedSlotIds)
  let agentCounters : Counters := Dict.set agentCounters "active_agent_update_wall_ns"
    (updateNs + progressNs)
  return ({ s with
    core := { s.core with
      demand := prepared.demand
      pool := pool
      flow := ⟨prepared.linkState, node⟩ } },
    Dict.update routeCounters (agentCounters.plus progressCounters), prepared.newlyAllocatedSlotIds)

/-- The tick proper, after the control and the events, with its counters. -/
def executeTick (s : RuntimeState p n m cap O) : Timed (RuntimeState p n m cap O × Counters) := do
  let (due, activation) := activateDueTripRequests (applyEventEffectsToFlowState rt.world s.core)
  let counters : Counters := zeroTickCounters.update activation
  let (s, prepareCounters, newly) ← prepareRuntimeRoutingState rt { s with core := due }
  let counters : Counters := counters.update prepareCounters
  let (core, flowCounters) ← advanceFlowState rt.world s.core
  let counters : Counters := counters.update flowCounters
  let (core, commitCounters) ← commitRuntimeRoutingState rt.world core newly
  return ({ s with core := core }, counters.plus commitCounters)

/-- Notes what the tick completed, failed and allocated. -/
def recordRuntimeTransitionCounters (s : SimulationState p n m cap) (executed : Bool)
    (counters : Counters) : SimulationState p n m cap :=
  Sim.recordRuntimeTransitionCounters s executed
    (counters.at "trip_completed_this_tick").toNat (counters.at "trip_failed_this_tick").toNat
    (counters.at "trip_allocated_this_tick").toNat

/-- The metrics that the conservation check may fall back on. -/
def conservationMetrics (metrics : Stats O) : List (Option (Scalar O)) :=
  ["generated_trip_total", "pending_trip_requests", "completed_trips_total",
    "failed_trips_total"].map metrics.get

/-- What a step returns besides the next state. -/
structure StepOutput (p n m cap : ℕ) (O : Type) where
  state : RuntimeState p n m cap O
  telemetry : SimulationTelemetry O

/-- Validates the state after a tick, and writes down what observers read. -/
def observeStep (s : RuntimeState p n m cap O) (control : RuntimeControl) (counters : Counters) :
    Except StepError (StepOutput p n m cap O) := do
  let report ← rt.validateInvariants s.core (conservationMetrics s.metricsState)
  let snapshot ← (if control.uiForceSnapshot then
      (buildUiSnapshotSource rt ⟨s, report, true, counters⟩).map some
    else .ok none)
  let emitted := snapshot.isSome
  let metrics ← updateMetricsState rt ⟨s, report, emitted, counters⟩
  let next := { s with
    metricsState := metrics
    invariantState := some report
    lastUiSnapshotSource := snapshot }
  let telemetry ← buildStepTelemetry rt ⟨next, report, emitted, counters⟩
  return ⟨next, telemetry⟩

/-- Advances one tick, with the clock. -/
def simulationStep (s : RuntimeState p n m cap O) (control : RuntimeControl) :
    Timed (StepOutput p n m cap O) := do
  let s := applyControlToState s control
  let core ← pureStep (advanceEventState s.core control.toSimulationControl)
  let s := { s with core := core }
  let (s, counters) ← (if control.pause then return (s, zeroTickCounters) else executeTick rt s)
  let s := { s with core := recordRuntimeTransitionCounters s.core (!control.pause) counters }
  observeStep rt s control counters

end Phases

section Indistinct

variable {rt} {s s' : RuntimeState p n m cap O}

theorem zero_counters_alike : CountersAlike zeroTickCounters zeroTickCounters := by
  have zero : ∀ item ∈ zeroTickCounters, item.2 = 0 := by decide
  refine List.forall₂_same.mpr fun item listed => ⟨rfl, ?_⟩
  rw [zero item listed]
  exact .refl_zero item.1

theorem control_alike (h : s.Alike s') (control : RuntimeControl) :
    (applyControlToState s control).Alike (applyControlToState s' control) :=
  { h with
    core := congrArg (Sim.applyControlToState · control.toSimulationControl) h.core
    day_type := congrArg control.setDayType.getD h.day_type
    time_band := congrArg control.setTimeBand.getD h.time_band }

theorem RuntimeState.Alike.with_core (h : s.Alike s') (core : SimulationState p n m cap) :
    RuntimeState.Alike { s with core := core } { s' with core := core } :=
  { h with core := rfl }

theorem prepare_routing_indistinct (h : s.Alike s') :
    Indistinct (fun a b => a.1.Alike b.1 ∧ CountersAlike a.2.1 b.2.1 ∧ a.2.2 = b.2.2)
      (prepareRuntimeRoutingState rt s) (prepareRuntimeRoutingState rt s') := by
  unfold prepareRuntimeRoutingState
  refine Indistinct.bind (refresh_indistinct rt h false) ?_
  rintro ⟨t, routeCounters⟩ ⟨t', routeCounters'⟩ ⟨alike, routes⟩
  dsimp only at alike routes ⊢
  rw [← alike.core]
  refine Indistinct.bind (timed_ns_indistinct (prepare_indistinct rt.world t.core)) ?_
  rintro ⟨⟨prepared, agentCounters⟩, updateNs⟩ ⟨⟨_, agentCounters'⟩, updateNs'⟩
    ⟨⟨same, agents⟩, update⟩
  obtain rfl : prepared = _ := same
  refine Indistinct.bind (timed_ns_indistinct (.lift (progress_indistinct rt.world _ _))) ?_
  rintro ⟨⟨pool, progressCounters⟩, progressNs⟩ ⟨⟨_, progressCounters'⟩, progressNs'⟩
    ⟨⟨same, progress⟩, elapsed⟩
  obtain rfl : pool = _ := same
  refine Indistinct.bind (same_lift _) fun node _ same => ?_
  subst same
  dsimp only at agents update progress elapsed ⊢
  have times := both_add_nonneg update elapsed
  have updated : CountersAlike (agentCounters.set "active_agent_update_wall_ns" (updateNs + progressNs))
      (agentCounters'.set "active_agent_update_wall_ns" (updateNs' + progressNs')) :=
    Dict.Alike.set agents (.hidden (hidden_of_spelled rfl (by decide)) times.1 times.2)
  refine .pure ⟨alike.with_core _, ?_, rfl⟩
  dsimp only
  exact routes.update (updated.plus progress)

theorem activation_alike (activated : ℤ) :
    CountersAlike (zeroTickCounters.update (zeroTickCounters.set "trip_activated_this_tick" activated))
      (zeroTickCounters.update (zeroTickCounters.set "trip_activated_this_tick" activated)) :=
  zero_counters_alike.update
    (Dict.Alike.set zero_counters_alike (.seen (shown_of_spelled rfl (by decide)) _))

theorem tick_indistinct (h : s.Alike s') :
    Indistinct (fun a b => a.1.Alike b.1 ∧ CountersAlike a.2 b.2) (executeTick rt s)
      (executeTick rt s') := by
  unfold executeTick activateDueTripRequests
  dsimp only
  rw [← h.core]
  refine Indistinct.bind (prepare_routing_indistinct (h.with_core _)) ?_
  rintro ⟨t, prepareCounters, newly⟩ ⟨t', prepareCounters', _⟩ ⟨alike, prepared, same⟩
  obtain rfl : newly = _ := same
  dsimp only at alike prepared ⊢
  rw [← alike.core]
  refine Indistinct.bind (flow_indistinct rt.world t.core) ?_
  rintro ⟨core, flowCounters⟩ ⟨_, flowCounters'⟩ ⟨same, flowed⟩
  obtain rfl : core = _ := same
  refine Indistinct.bind (commit_indistinct rt.world core newly) ?_
  rintro ⟨core, commitCounters⟩ ⟨_, commitCounters'⟩ ⟨same, committed⟩
  obtain rfl : core = _ := same
  dsimp only at flowed committed ⊢
  refine .pure ⟨alike.with_core _, ?_⟩
  dsimp only
  exact CountersAlike.plus (Dict.Alike.update ((activation_alike _).update prepared) flowed) committed

theorem record_alike (h : s.Alike s') {counters counters' : Counters}
    (counted : CountersAlike counters counters') (executed : Bool) :
    recordRuntimeTransitionCounters s.core executed counters =
      recordRuntimeTransitionCounters s'.core executed counters' := by
  have seen : ∀ {key : String}, ¬ Hidden key → counters.at key = counters'.at key := fun seen =>
    (counted.at _).1.resolve_right seen
  have completed : counters.at "trip_completed_this_tick" =
    counters'.at "trip_completed_this_tick" := seen (shown_of_spelled rfl (by decide))
  have failed : counters.at "trip_failed_this_tick" =
    counters'.at "trip_failed_this_tick" := seen (shown_of_spelled rfl (by decide))
  have allocated : counters.at "trip_allocated_this_tick" =
    counters'.at "trip_allocated_this_tick" := seen (shown_of_spelled rfl (by decide))
  unfold recordRuntimeTransitionCounters
  rw [h.core, completed, failed, allocated]

theorem conservation_alike {metrics metrics' : Stats O} (h : StatsAlike metrics metrics') :
    conservationMetrics metrics = conservationMetrics metrics' := by
  unfold conservationMetrics
  refine List.map_congr_left fun key listed => h.get_seen ?_
  revert key
  apply spelled_all
  · repeat' constructor
  · simp only [hidden_spelled]
    decide

/-- What two steps leave for an observer is the same. -/
structure StepOutput.Alike (out out' : StepOutput p n m cap O) : Prop where
  state : out.state.Alike out'.state
  telemetry : out.telemetry.asReplayDict = out'.telemetry.asReplayDict

theorem observe_alike (h : s.Alike s') (control : RuntimeControl) {counters counters' : Counters}
    (counted : CountersAlike counters counters') :
    Outcome StepOutput.Alike (observeStep rt s control counters)
      (observeStep rt s' control counters') := by
  unfold observeStep
  rw [← h.core, ← conservation_alike h.metrics]
  refine (Outcome.refl (V := Eq) (fun _ => rfl) _).bind fun report _ same => ?_
  subst same
  refine Outcome.bind (V := Option.Rel UiSnapshotSource.Alike) ?_ fun snapshot snapshot' shown => ?_
  · split
    · have view : View.Alike ⟨s, report, true, counters⟩ ⟨s', report, true, counters'⟩ :=
        ⟨h, rfl, rfl, counted⟩
      exact (snapshot_alike view).map fun _ _ alike => Option.Rel.some alike
    · exact .ok .none
  · have emitted : snapshot.isSome = snapshot'.isSome := by
      cases shown <;> rfl
    have view : View.Alike ⟨s, report, snapshot.isSome, counters⟩
        ⟨s', report, snapshot'.isSome, counters'⟩ := ⟨h, rfl, emitted, counted⟩
    dsimp only
    refine (update_metrics_alike view).bind fun metrics metrics' written => ?_
    have next : RuntimeState.Alike
        { s with
          metricsState := metrics
          invariantState := some report
          lastUiSnapshotSource := snapshot }
        { s' with
          core := s.core
          metricsState := metrics'
          invariantState := some report
          lastUiSnapshotSource := snapshot' } :=
      { h with core := rfl, metrics := written, invariants := rfl, snapshot := shown }
    have shown : View.Alike ⟨_, report, snapshot.isSome, counters⟩
        ⟨_, report, snapshot'.isSome, counters'⟩ := ⟨next, rfl, emitted, counted⟩
    refine (telemetry_alike shown).bind fun _ _ telemetry => ?_
    exact .ok ⟨next, telemetry⟩

theorem step_indistinct (h : s.Alike s') (control : RuntimeControl) :
    Indistinct StepOutput.Alike (simulationStep rt s control) (simulationStep rt s' control) := by
  have controlled := control_alike h control
  unfold simulationStep
  dsimp only
  rw [← controlled.core]
  refine Indistinct.bind (same_lift _) fun core _ same => ?_
  subst same
  refine Indistinct.bind (V := fun a b => a.1.Alike b.1 ∧ CountersAlike a.2 b.2) ?_ ?_
  · split
    · exact .pure ⟨controlled.with_core core, zero_counters_alike⟩
    · exact tick_indistinct (controlled.with_core core)
  · rintro ⟨t, counters⟩ ⟨t', counters'⟩ ⟨alike, counted⟩
    dsimp only at alike counted ⊢
    rw [← record_alike alike counted]
    exact .lift (observe_alike (alike.with_core _) control counted)

end Indistinct

end Metroflow.Timing
