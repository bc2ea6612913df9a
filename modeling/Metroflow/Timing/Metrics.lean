import Metroflow.Timing.State

namespace Metroflow.Timing

open Metroflow.Lib Metroflow.City Metroflow.Flow Metroflow.Routing Metroflow.Sim

variable {p n m cap : ℕ} {O : Type}

section Sources

/-- The settings that are repeated for observers. -/
inductive Setting where
  | flowBackend
  | trafficModel
  | routingBackend
  | agentBackend
  deriving DecidableEq, Repr

def Setting.text (config : SimulationConfig) : Setting → String
  | .flowBackend =>
    match config.flowBackend with
    | .baseline => "baseline"
    | .rustCpu => "rust_cpu"
    | .auto => "auto"
  | .trafficModel =>
    match config.trafficModel with
    | .pointQueueV1 => "point_queue_v1"
    | .spatialQueueV1 => "spatial_queue_v1"
  | .routingBackend =>
    match config.routingBackend with
    | .baseline => "baseline"
    | .rustCpu => "rust_cpu"
    | .auto => "auto"
  | .agentBackend =>
    match config.agentBackend with
    | .baseline => "baseline"
    | .rustCpu => "rust_cpu"
    | .auto => "auto"

/-- What is read off the core of a state, its report and the seen metrics. -/
inductive Observation where
  | tickIndex
  | activeAgents
  | queuedTripRequests
  | pendingTripRequests
  | capacityViolationCount
  | capacityViolationCountDelta
  | negativeQueueDetected
  | invariantTotalViolations
  | uiPacketsEmitted
  | uiSnapshotEmitted
  | setting (which : Setting)
  | queueVehicles
  | outflowVehicles
  | spillbackBlockedTurns
  | policyMixLambda
  | adaptiveFallback
  deriving DecidableEq, Repr

/-- Where a value comes from: the counters of the tick, the metrics, or the route statistics. -/
inductive Source where
  | observed (what : Observation)
  | tick (counter : String)
  | tally (total counter : String)
  | metricInt (key : String)
  | metricFloat (key : String)
  | metricText (key : String) (default : Setting)
  | routeCount (stat : String)
  | routeSeconds (stat : String)
  deriving DecidableEq, Repr

/-- What an observer's values are read from. -/
structure View (p n m cap : ℕ) (O : Type) where
  state : RuntimeState p n m cap O
  report : InvariantReport O
  emitted : Bool
  counters : Counters

variable (rt : Runtime p n m cap O) (v : View p n m cap O)

def View.queued : Except StepError ℤ :=
  match v.state.core.demand.queuedTripRequests with
  | some queued => .ok queued
  | none => v.state.metricsState.intAt rt.py "queued_trip_requests"

def View.pending : Except StepError ℤ :=
  match v.state.core.demand.pendingTripRequests with
  | some pending => .ok pending
  | none =>
    match v.state.metricsState.get "pending_trip_requests" with
    | some value => value.toInt rt.py
    | none => v.queued rt

def View.capacityViolationCount : ℕ :=
  (List.finRange n).countP v.state.core.flow.linkState.capacityViolationFlags

def Observation.read : Observation → Except StepError (Scalar O)
  | .tickIndex => .ok (.int v.state.core.tickIndex)
  | .activeAgents => .ok (.int v.state.core.pool.aliveCount)
  | .queuedTripRequests => (v.queued rt).map .int
  | .pendingTripRequests => (v.pending rt).map .int
  | .capacityViolationCount => .ok (.int (v.capacityViolationCount))
  | .capacityViolationCountDelta =>
    (v.state.metricsState.intAt rt.py "capacity_violation_count").map fun prior =>
      .int (max 0 (v.capacityViolationCount - prior))
  | .negativeQueueDetected => .ok (.bool (decide (0 < v.report.counters.negativeQueueViolations)))
  | .invariantTotalViolations => .ok (.int v.report.counters.totalViolations)
  | .uiPacketsEmitted =>
    (v.state.metricsState.intAt rt.py "ui_packets_emitted").map fun prior =>
      .int (prior + v.emitted.toNat)
  | .uiSnapshotEmitted => .ok (.bool v.emitted)
  | .setting which => .ok (.str (which.text rt.world.config))
  | .queueVehicles => .ok (.float (∑ l, v.state.core.flow.linkState.queueVehicles l))
  | .outflowVehicles => .ok (.float (∑ l, v.state.core.flow.linkState.outflowVehicles l))
  | .spillbackBlockedTurns =>
    .ok (.int v.state.core.flow.linkState.metadata.runtimeSpillbackBlockedTurnCount)
  | .policyMixLambda => .ok (.float 0)
  | .adaptiveFallback => .ok (.bool false)

def Source.read : Source → Except StepError (Scalar O)
  | .observed what => what.read rt v
  | .tick counter => .ok (.int (v.counters.at counter))
  | .tally total counter =>
    (v.state.metricsState.intAt rt.py total).map fun prior => .int (prior + v.counters.at counter)
  | .metricInt key => (v.state.metricsState.intAt rt.py key).map .int
  | .metricFloat key => (v.state.metricsState.floatAt rt.py key).map .float
  | .metricText key default =>
    .ok (.str (v.state.metricsState.textAt rt.py key (default.text rt.world.config)))
  | .routeCount stat => (v.state.routeStats.intAt rt.py stat).map .int
  | .routeSeconds stat => (v.state.routeStats.floatAt rt.py stat).map .float

/-- The values of a table, in its order. -/
def readAll : List (String × Source) → Except StepError (Stats O)
  | [] => .ok []
  | (name, source) :: rest => do
    let value ← source.read rt v
    let more ← readAll rest
    return (name, value) :: more

end Sources

section Discreet

/-- A source whose value may depend on the clock only where its name is hidden;
under the name of a time of one tick it is such a time. -/
def Source.Discreet (name : String) : Source → Prop
  | .observed _ => True
  | .tick counter => Hidden counter → Hidden name ∧ (EndsWallNs name → EndsWallNs counter)
  | .tally total counter =>
    ¬ Hidden total ∧ ¬ Hidden counter ∨ Hidden name ∧ ¬ EndsWallNs name
  | .metricInt key => Hidden key → Hidden name ∧ (EndsWallNs name → EndsWallNs key)
  | .metricFloat key => Hidden key → Hidden name ∧ ¬ EndsWallNs name
  | .metricText key _ => ¬ Hidden key
  | .routeCount stat => ¬ Hidden stat
  | .routeSeconds stat => Hidden stat → Hidden name ∧ ¬ EndsWallNs name

instance (name : String) : ∀ source : Source, Decidable (source.Discreet name)
  | .observed _ => inferInstanceAs (Decidable True)
  | .tick counter =>
    if same : counter = name then .isTrue fun hidden => same ▸ ⟨hidden, id⟩
    else inferInstanceAs (Decidable (_ → _ ∧ _))
  | .tally _ _ => inferInstanceAs (Decidable (_ ∧ _ ∨ _ ∧ _))
  | .metricInt key =>
    if same : key = name then .isTrue fun hidden => same ▸ ⟨hidden, id⟩
    else inferInstanceAs (Decidable (_ → _ ∧ _))
  | .metricFloat _ => inferInstanceAs (Decidable (_ → _ ∧ _))
  | .metricText _ _ => inferInstanceAs (Decidable (¬ _))
  | .routeCount _ => inferInstanceAs (Decidable (¬ _))
  | .routeSeconds _ => inferInstanceAs (Decidable (_ → _ ∧ _))

structure View.Alike (v v' : View p n m cap O) : Prop where
  state : v.state.Alike v'.state
  report : v.report = v'.report
  emitted : v.emitted = v'.emitted
  counters : CountersAlike v.counters v'.counters

variable {rt : Runtime p n m cap O} {v v' : View p n m cap O}

theorem View.Alike.queued (h : v.Alike v') : v.queued rt = v'.queued rt := by
  unfold View.queued
  rw [h.state.core, h.state.metrics.int_seen (shown_of_spelled rfl (by decide))]

theorem View.Alike.pending (h : v.Alike v') : v.pending rt = v'.pending rt := by
  unfold View.pending
  rw [h.state.core, h.state.metrics.get_seen (shown_of_spelled rfl (by decide)), h.queued]

theorem View.Alike.capacity (h : v.Alike v') :
    v.capacityViolationCount = v'.capacityViolationCount := by
  unfold View.capacityViolationCount
  rw [h.state.core]

theorem View.Alike.observed (h : v.Alike v') (what : Observation) :
    what.read rt v = what.read rt v' := by
  cases what with
  | queuedTripRequests => exact congrArg (Except.map _) h.queued
  | pendingTripRequests => exact congrArg (Except.map _) h.pending
  | capacityViolationCountDelta =>
    simp only [Observation.read, h.capacity]
    rw [h.state.metrics.int_seen (shown_of_spelled rfl (by decide))]
  | uiPacketsEmitted =>
    simp only [Observation.read, h.emitted]
    rw [h.state.metrics.int_seen (shown_of_spelled rfl (by decide))]
  | negativeQueueDetected | invariantTotalViolations => simp only [Observation.read, h.report]
  | uiSnapshotEmitted => simp only [Observation.read, h.emitted]
  | capacityViolationCount => simp only [Observation.read, h.capacity]
  | tickIndex | activeAgents | queueVehicles | outflowVehicles | spillbackBlockedTurns =>
    simp only [Observation.read, h.state.core]
  | setting _ | policyMixLambda | adaptiveFallback => rfl

theorem SimilarInt.renamed {key name : String} {i j : ℤ} (h : SimilarInt key i j)
    (kept : Hidden key → Hidden name ∧ (EndsWallNs name → EndsWallNs key)) :
    SimilarInt name i j :=
  h.imp_right fun ⟨hidden, pos⟩ => ⟨(kept hidden).1, fun wall => pos ((kept hidden).2 wall)⟩

theorem SimilarFloat.renamed {key name : String} {x y : ℚ} (h : SimilarFloat key x y)
    (kept : Hidden key → Hidden name ∧ ¬ EndsWallNs name) :
    Similar name (.float x : Scalar O) (.float y) := by
  rcases h with rfl | hidden
  · exact .same _
  · exact .floats (kept hidden).1 (kept hidden).2

theorem View.Alike.read (h : v.Alike v') {name : String} {source : Source}
    (discreet : source.Discreet name) :
    Outcome (Similar name) (source.read rt v) (source.read rt v') := by
  cases source with
  | observed what =>
    have same : what.read rt v = what.read rt v' := h.observed what
    simp only [Source.read, same]
    exact .refl (fun _ => .same _) _
  | tick counter => exact .ok (.ints ((h.counters.at counter).similar_int.renamed discreet))
  | tally total counter =>
    have counted := (h.counters.at counter).similar_int
    refine (h.state.metrics.int_at total).map fun i j similar => ?_
    rcases discreet with ⟨seen_total, seen_counter⟩ | ⟨hidden, passing⟩
    · rw [similar.resolve_right fun hidden => seen_total hidden.1,
        counted.resolve_right fun hidden => seen_counter hidden.1]
      exact .same _
    · exact .ints (.inr ⟨hidden, fun wall => absurd wall passing⟩)
  | metricInt key =>
    exact (h.state.metrics.int_at key).map fun i j similar => .ints (similar.renamed discreet)
  | metricFloat key =>
    exact (h.state.metrics.float_at key).map fun x y similar => similar.renamed discreet
  | metricText key default =>
    have seen : ¬ Hidden key := discreet
    simp only [Source.read, h.state.metrics.text_seen seen]
    exact .ok (.same _)
  | routeCount stat =>
    have seen : ¬ Hidden stat := discreet
    simp only [Source.read, h.state.stats.int_seen seen]
    exact .refl (fun _ => .same _) _
  | routeSeconds stat =>
    exact (h.state.stats.float_at stat).map fun x y similar => similar.renamed discreet

theorem View.Alike.read_all (h : v.Alike v') : ∀ {table : List (String × Source)},
    (∀ item ∈ table, item.2.Discreet item.1) →
      Outcome StatsAlike (readAll rt v table) (readAll rt v' table)
  | [], _ => .ok (Dict.Alike.nil _)
  | (name, source) :: rest, discreet => by
    unfold readAll
    refine (h.read (discreet _ List.mem_cons_self)).bind fun value value' similar => ?_
    refine (h.read_all fun item listed => discreet item (List.mem_cons_of_mem _ listed)).bind ?_
    exact fun more more' alike => .ok (.cons similar alike)

theorem read_all_names : ∀ {table : List (String × Source)} {values : Stats O},
    readAll rt v table = .ok values → values.map Prod.fst = table.map Prod.fst
  | [], values, h => by
    obtain rfl := Except.ok.inj h
    rfl
  | (name, source) :: rest, values, h => by
    obtain ⟨value, _, h⟩ := bind_ok.mp h
    obtain ⟨more, read, h⟩ := bind_ok.mp h
    obtain rfl := pure_ok.mp h
    rw [List.map_cons, List.map_cons, read_all_names read]

end Discreet

end Metroflow.Timing
