import Metroflow.Flow.Ticks
import Metroflow.Sim.Step

namespace Metroflow.Sim

open Metroflow.Lib Metroflow.City Metroflow.Flow Metroflow.Routing Metroflow.Demand

variable {p n m cap : ℕ} {w : World p n m}

/-- What the phases of a tick hand to each other before the demand is rebuilt. -/
structure ReadyParts (p n m cap : ℕ) where
  routes : SimulationRouteCacheState p n
  lookup : TurnLookup m
  admission : AdmissionPass cap
  rerouted : ActiveAgentPool cap
  link : LinkState n
  progressed : ActiveAgentPool cap

/-- The phases of a tick up to the progress of the agents, in their order. -/
structure ReadyParts.Of (w : World p n m) (due : SimulationState p n m cap)
    (parts : ReadyParts p n m cap) : Prop where
  refreshed : refreshRuntimeRouteCandidates w due false = .ok parts.routes
  table : runtimeTurnIndexLookup w.net due.flow.nodeState = .ok parts.lookup
  admitted : admitActivatedTrips w due.tickIndex parts.routes due.flow.linkState parts.lookup
    due.pool due.demand = .ok parts.admission
  reroute : applyRuntimeReroutePolicy w { due with routes := parts.routes } parts.lookup
    parts.admission.pool parts.admission.newlyAllocatedSlotIds = .ok parts.rerouted
  queued : applySourceQueueIncrements w due.flow.linkState parts.admission.sourceQueueIncrements =
    .ok parts.link
  progress : advanceRuntimeAgentProgress w parts.rerouted parts.admission.newlyAllocatedSlotIds =
    .ok parts.progressed

structure TickParts (p n m cap : ℕ) extends ReadyParts p n m cap where
  node : NodeState n m
  flow : FlowState n m
  committed : Committed cap

/-- The phases of one executed tick, and the state it ends in. -/
structure TickParts.Of (w : World p n m) (due : SimulationState p n m cap)
    (parts : TickParts p n m cap) (s' : SimulationState p n m cap) : Prop
    extends ReadyParts.Of w due parts.toReadyParts where
  rebuilt : rebuildRuntimeTurnDemand w due.flow.nodeState parts.progressed
    parts.admission.newlyAllocatedSlotIds = .ok parts.node
  flowed : advanceFlowState w ⟨parts.link, parts.node⟩ = .ok parts.flow
  commits : commitRuntimeActiveAgentFlows w parts.flow.nodeState parts.progressed
    parts.admission.demand.withLifecycleCounts parts.admission.newlyAllocatedSlotIds =
      .ok parts.committed
  after : s' = recordRuntimeTransitionCounters
    { due with
      routes := parts.routes
      flow := parts.flow
      pool := parts.committed.pool
      demand := parts.committed.demand } true
    parts.committed.completedCount parts.admission.failedCount parts.admission.allocatedCount

/-- The state that the preparation of the next tick finds, under its events. -/
def dueState (w : World p n m) (s : SimulationState p n m cap)
    (events : TrafficEventSchedulerState) : SimulationState p n m cap :=
  activateDueTripRequests (applyEventEffectsToFlowState w
    { s with tickIndex := s.tickIndex + 1, events := events })

theorem prepare_ok {s ready : SimulationState p n m cap} {prepared : Prepared n cap}
    (h : prepareRuntimeRoutingState w s = .ok (ready, prepared)) :
    ∃ parts node, ReadyParts.Of w s parts ∧
      rebuildRuntimeTurnDemand w s.flow.nodeState parts.progressed
        parts.admission.newlyAllocatedSlotIds = .ok node ∧
      ready = { s with
        routes := parts.routes
        demand := parts.admission.demand.withLifecycleCounts
        pool := parts.progressed
        flow := ⟨parts.link, node⟩ } ∧
      prepared = ⟨parts.rerouted, parts.admission.demand.withLifecycleCounts, parts.link,
        parts.admission.newlyAllocatedSlotIds, parts.admission.allocatedCount,
        parts.admission.failedCount⟩ := by
  obtain ⟨routes, refreshed, h⟩ := bind_ok.mp h
  obtain ⟨agents, prepared, h⟩ := bind_ok.mp h
  obtain ⟨progressed, progress, h⟩ := bind_ok.mp h
  obtain ⟨node, rebuilt, h⟩ := bind_ok.mp h
  obtain ⟨rfl, rfl⟩ := Prod.mk.inj (pure_ok.mp h)
  obtain ⟨lookup, table, prepared⟩ := bind_ok.mp prepared
  obtain ⟨admission, admitted, prepared⟩ := bind_ok.mp prepared
  obtain ⟨rerouted, reroute, prepared⟩ := bind_ok.mp prepared
  obtain ⟨link, queued, prepared⟩ := bind_ok.mp prepared
  obtain rfl := pure_ok.mp prepared
  exact ⟨⟨routes, lookup, admission, rerouted, link, progressed⟩, node,
    ⟨refreshed, table, admitted, reroute, queued, progress⟩, rebuilt, rfl, rfl⟩

theorem execute_tick_ok {s s' : SimulationState p n m cap} (h : executeTick w s = .ok s') :
    ∃ parts, TickParts.Of w (activateDueTripRequests (applyEventEffectsToFlowState w s)) parts s' := by
  obtain ⟨⟨ready, prepared⟩, prepares, h⟩ := bind_ok.mp h
  obtain ⟨flow, flowed, h⟩ := bind_ok.mp h
  obtain ⟨committed, commits, h⟩ := bind_ok.mp h
  obtain rfl := pure_ok.mp h
  obtain ⟨parts, node, readies, rebuilt, rfl, rfl⟩ := prepare_ok prepares
  exact ⟨{ parts with node := node, flow := flow, committed := committed },
    { readies with rebuilt := rebuilt, flowed := flowed, commits := commits, after := rfl }⟩

def RunInput.ticks : RunInput → Bool
  | .step control => !control.pause
  | .refreshRoutes _ => false

theorem simulation_step_ticks {s s' : SimulationState p n m cap} {control : SimulationControl}
    (running : control.pause = false) (h : simulationStep w s control = .ok s') :
    ∃ events parts, TickParts.Of w (dueState w s events) parts s' := by
  obtain ⟨next, advanced, h⟩ := bind_ok.mp h
  obtain ⟨events, _, advanced⟩ := bind_ok.mp advanced
  obtain rfl := pure_ok.mp advanced
  simp only [running, applyControlToState] at h
  obtain ⟨parts, tick⟩ := execute_tick_ok h
  exact ⟨events, parts, tick⟩

theorem simulation_step_pauses {s s' : SimulationState p n m cap} {control : SimulationControl}
    (paused : control.pause = true) (h : simulationStep w s control = .ok s') :
    ∃ events, s' = recordRuntimeTransitionCounters { s with events := events } false 0 0 0 := by
  obtain ⟨next, advanced, h⟩ := bind_ok.mp h
  obtain ⟨events, _, advanced⟩ := bind_ok.mp advanced
  obtain rfl := pure_ok.mp advanced
  simp only [paused, if_true, applyControlToState] at h
  exact ⟨events, (pure_ok.mp h).symm⟩

theorem advance_idle {s s' : SimulationState p n m cap} {input : RunInput}
    (idle : input.ticks = false) (h : advance w s input = .ok s') :
    s'.pool = s.pool ∧ s'.demand = s.demand ∧ s'.flow = s.flow := by
  cases input with
  | refreshRoutes force =>
    obtain ⟨routes, _, h⟩ := bind_ok.mp h
    obtain rfl := pure_ok.mp h
    exact ⟨rfl, rfl, rfl⟩
  | step control =>
    obtain ⟨events, rfl⟩ := simulation_step_pauses (by simpa [RunInput.ticks] using idle) h
    exact ⟨rfl, rfl, rfl⟩

theorem advance_ticks {s s' : SimulationState p n m cap} {input : RunInput}
    (ticks : input.ticks = true) (h : advance w s input = .ok s') :
    ∃ events parts, TickParts.Of w (dueState w s events) parts s' := by
  cases input with
  | refreshRoutes force => cases ticks
  | step control => exact simulation_step_ticks (by simpa [RunInput.ticks] using ticks) h

/-- What an input does to a state: a refresh only sets the routes, a paused step
only the events and counters, and any other step executes a tick. -/
inductive Advanced (w : World p n m) (s : SimulationState p n m cap) :
    SimulationState p n m cap → Prop
  | refreshed (routes : SimulationRouteCacheState p n) : Advanced w s { s with routes := routes }
  | paused (events : TrafficEventSchedulerState) :
      Advanced w s (recordRuntimeTransitionCounters { s with events := events } false 0 0 0)
  | ticked (events : TrafficEventSchedulerState) (parts : TickParts p n m cap)
      (s' : SimulationState p n m cap)
      (tick : parts.Of w (dueState w s events) s') :
      Advanced w s s'

theorem advance_ok {s s' : SimulationState p n m cap} {input : RunInput}
    (h : advance w s input = .ok s') : Advanced w s s' := by
  cases input with
  | refreshRoutes force =>
    obtain ⟨routes, _, h⟩ := bind_ok.mp h
    obtain rfl := pure_ok.mp h
    exact .refreshed routes
  | step control =>
    by_cases paused : control.pause = true
    · obtain ⟨events, rfl⟩ := simulation_step_pauses paused h
      exact .paused events
    · obtain ⟨events, parts, tick⟩ := simulation_step_ticks (Bool.not_eq_true _ ▸ paused) h
      exact .ticked events parts s' tick

section Due

variable {s : SimulationState p n m cap}

theorem activate_due_keeps : ∃ demand, activateDueTripRequests s = { s with demand := demand } ∧
    demand = (activateDueTripRequests s).demand := by
  unfold activateDueTripRequests
  split
  · exact ⟨s.demand, rfl, rfl⟩
  · exact ⟨_, rfl, rfl⟩

theorem apply_event_effects_keeps : ∃ link metadata,
    applyEventEffectsToFlowState w s =
      { s with flow := ⟨link, s.flow.nodeState⟩, metadata := metadata } ∧
      link.queueVehicles = s.flow.linkState.queueVehicles ∧
      link.metadata.storageCapacityVehicles =
        s.flow.linkState.metadata.storageCapacityVehicles := by
  unfold applyEventEffectsToFlowState
  simp only
  split
  · exact ⟨s.flow.linkState, s.metadata, rfl, rfl, rfl⟩
  · split
    · exact ⟨_, s.metadata, rfl, rfl, rfl⟩
    · exact ⟨_, _, rfl, rfl, rfl⟩

/-- Before its preparation a tick leaves the agents, the turn table, the queues
and the storage as they were. -/
structure DueKeeps (s due : SimulationState p n m cap) : Prop where
  pool : due.pool = s.pool
  node : due.flow.nodeState = s.flow.nodeState
  queue : due.flow.linkState.queueVehicles = s.flow.linkState.queueVehicles
  storage : due.flow.linkState.metadata.storageCapacityVehicles =
    s.flow.linkState.metadata.storageCapacityVehicles
  demand : due.demand =
    (activateDueTripRequests { s with tickIndex := s.tickIndex + 1 }).demand

theorem due_keeps (events : TrafficEventSchedulerState) : DueKeeps s (dueState w s events) := by
  obtain ⟨link, metadata, effects, queue, storage⟩ := apply_event_effects_keeps (w := w)
    (s := { s with tickIndex := s.tickIndex + 1, events := events })
  have due : dueState w s events = _ := congrArg activateDueTripRequests effects
  obtain ⟨demand, activated, same⟩ := activate_due_keeps (s :=
    { s with
      tickIndex := s.tickIndex + 1
      events := events
      flow := ⟨link, s.flow.nodeState⟩
      metadata := metadata : SimulationState p n m cap })
  rw [due]
  refine ⟨?_, ?_, ?_, ?_, ?_⟩
  · rw [activated]
  · rw [activated]
  · rw [activated]
    exact queue
  · rw [activated]
    exact storage
  · unfold activateDueTripRequests
    simp only
    split <;> rfl

end Due

section Progress

variable {pool pool' : ActiveAgentPool cap} {skip : Finset (Fin cap)}

/-- The progress phase moves the settled agents along their links, in the
spatial mode, and changes nothing else. -/
structure Progresses (w : World p n m) (skip : Finset (Fin cap)) (pool pool' : ActiveAgentPool cap) :
    Prop where
  stack : pool'.freeSlotStack = pool.freeSlotStack
  alive_count : pool'.aliveCount = pool.aliveCount
  memory : pool'.pluginMemory = pool.pluginMemory
  slots : ∀ i, pool'.slots i =
    if w.config.trafficModel = .spatialQueueV1 ∧ Settled pool skip i then
      progressed w.net w.config.tickSeconds (pool.slots i)
    else pool.slots i

theorem advance_progress_ok (h : advanceRuntimeAgentProgress w pool skip = .ok pool') :
    Progresses w skip pool pool' := by
  unfold advanceRuntimeAgentProgress at h
  split at h
  · rename_i spatial
    obtain ⟨_, _, h⟩ := bind_ok.mp h
    split at h
    · cases h
    · obtain rfl := pure_ok.mp h
      exact ⟨rfl, rfl, rfl, fun i => by simp [spatial, Settled]⟩
  · rename_i point
    obtain rfl := Except.ok.inj h
    exact ⟨rfl, rfl, rfl, fun i => by simp [point]⟩

theorem Progresses.slot_eq (h : Progresses w skip pool pool') (i : Fin cap) :
    ∃ progress, pool'.slots i = { pool.slots i with progress01 := progress } := by
  rw [h.slots]
  split
  · exact progressed_eq
  · exact ⟨_, rfl⟩

theorem Progresses.unit (h : Progresses w skip pool pool') (i : Fin cap)
    (unit : 0 ≤ (pool.slots i).progress01 ∧ (pool.slots i).progress01 ≤ 1) :
    0 ≤ (pool'.slots i).progress01 ∧ (pool'.slots i).progress01 ≤ 1 := by
  rw [h.slots]
  split
  · exact progressed_unit w.config.tick_seconds_pos unit
  · exact unit

end Progress

section FlowPhase

/-- What the flow phase of a tick does: one discrete update of the two flow states. -/
structure FlowPhase (w : World p n m) (flow flow' : FlowState n m) (k : TokenTick n m) : Prop where
  valid : k.Valid
  queue_now : ∀ l, k.queueNow l = flow.linkState.queueVehicles l
  turn_demand : ∀ t, k.turnDemand t = flow.nodeState.turnDemand t
  sinks : readSinkDemand flow.nodeState.metadata = .ok k.sinkDemand
  from_idx : k.fromIdx = flow.nodeState.turnFromLinkIndex
  to_idx : k.toIdx = flow.nodeState.turnToLinkIndex
  stored : w.config.trafficModel = .spatialQueueV1 → readStorageCapacity
    flow.linkState.metadata.storageCapacityVehicles
    (fun l => max (flow.linkState.queueVehicles l) 0) = .ok k.storageCapacity
  queue_next : flow'.linkState.queueVehicles = k.queueNext k.allocate
  turn_flow : ∀ t, flow'.nodeState.turnFlow t = k.allocate.realizedTurn t
  sink_flow : flow'.nodeState.metadata.runtimeSinkFlowByLinkIndex =
    some (.ofVector fun l => (k.allocate.sinkFlow l : ℚ))
  storage_kept : flow'.linkState.metadata.storageCapacityVehicles =
    flow.linkState.metadata.storageCapacityVehicles
  from_kept : flow'.nodeState.turnFromLinkIndex = flow.nodeState.turnFromLinkIndex
  to_kept : flow'.nodeState.turnToLinkIndex = flow.nodeState.turnToLinkIndex
  forbidden_kept : flow'.nodeState.metadata.turnIsForbidden =
    flow.nodeState.metadata.turnIsForbidden

theorem advance_flow_ok {flow flow' : FlowState n m} (h : advanceFlowState w flow = .ok flow') :
    ∃ k, FlowPhase w flow flow' k := by
  obtain ⟨_, _, h⟩ := bind_ok.mp h
  obtain ⟨result, updated, h⟩ := bind_ok.mp h
  obtain rfl := pure_ok.mp h
  obtain ⟨_, arrays, k, t⟩ := update_link_node_flow_ok.mp (map_error_ok.mp updated)
  refine ⟨k, t.valid, t.queue_now, t.turn_demand, t.sinks, t.from_idx, t.to_idx, ?_, t.queue_next,
    t.turn_flow, t.sink_flow, ?_, ?_, ?_, ?_⟩
  · intro spatial
    have stored := t.stored
    rwa [if_pos spatial] at stored
  all_goals
    rw [t.after]
    rfl

end FlowPhase

section Errors

/-- The errors that the phases before the demand is rebuilt can raise. -/
inductive Early : SimError → Prop
  | event (e : EventError) : Early (.event e)
  | routing (e : RoutingError) : Early (.routing e)
  | turnIsForbiddenShape : Early .turnIsForbiddenShape
  | duplicateRuntimeTurn : Early .duplicateRuntimeTurn
  | tripRoute (tripId : ℤ) (fault : RouteFault) : Early (.route (.trip tripId) fault)
  | rerouteRoute (slotId : ℕ) (fault : RouteFault) : Early (.route (.rerouteSlot slotId) fault)
  | admissionStorage : Early .admissionStorage
  | admissionLink (linkId : ℤ) : Early (.admissionLink linkId)
  | poolFull : Early .poolFull
  | allocatedSourceMissing : Early .allocatedSourceMissing
  | travelTimeShape (key : MetaKey) (size : ℕ) : Early (.flow (.shape key size))
  | noIndexedLinks : Early .noIndexedLinks
  | missingPhysicalLink (slotId : ℕ) (linkId : ℤ) : Early (.missingPhysicalLink slotId linkId)

theorem lookup_error {node : NodeState n m} {e : SimError}
    (h : runtimeTurnIndexLookup w.net node = .error e) : Early e := by
  rcases bind_error.mp h with shape | ⟨forbidden, _, h⟩
  · unfold readTurnIsForbidden at shape
    split at shape
    · cases shape
    · split at shape
      · obtain rfl := Except.error.inj shape
        exact .turnIsForbiddenShape
      · cases shape
  · split at h
    · cases h
    · rcases bind_error.mp h with duplicate | ⟨_, _, h⟩
      · obtain ⟨_, rfl⟩ := raise_if_error.mp duplicate
        exact .duplicateRuntimeTurn
      · cases h

theorem refresh_error {s : SimulationState p n m cap} {force : Bool} {e : SimError}
    (h : refreshRuntimeRouteCandidates w s force = .error e) : Early e := by
  rcases bind_error.mp h with pass | ⟨_, _, h⟩
  · obtain ⟨trip, _, s, _, failed⟩ := fold_error (I := fun _ => True)
      (fun _ _ _ _ _ _ => trivial) trivial pass
    unfold refreshTripRoutes at failed
    split at failed
    · cases failed
    · split at failed
      · cases failed
      · rcases bind_error.mp failed with refresh | ⟨_, _, h⟩
        · obtain ⟨e, _, rfl⟩ := map_error_error.mp refresh
          exact .routing e
        · cases h
  · cases h

theorem allocate_error {pool : ActiveAgentPool cap} {payload : ActiveAgentSlot} {e : SimError}
    (h : allocateActiveAgentSlot pool payload = .error e) : e = .poolFull := by
  unfold allocateActiveAgentSlot at h
  split at h
  · exact (Except.error.inj h).symm
  · cases h

theorem admit_trip_error {tick : ℕ} {routes : SimulationRouteCacheState p n} {link : LinkState n}
    {lookup : TurnLookup m} {s : AdmissionPass cap} {trip : TripRequest} {e : SimError}
    (h : admitTrip w tick routes link lookup s trip = .error e) : Early e := by
  unfold admitTrip at h
  split at h
  · cases h
  · split at h
    · cases h
    · rcases bind_error.mp h with select | ⟨selection, _, h⟩
      · obtain ⟨e, _, rfl⟩ := map_error_error.mp select
        exact .routing e
      · split at h
        · rcases bind_error.mp h with route | ⟨_, _, h⟩
          · obtain ⟨fault, rfl⟩ := validate_route_error w.net route
            exact .tripRoute _ fault
          · rcases bind_error.mp h with room | ⟨available, _, h⟩
            · unfold sourceLinkAdmissionAvailable at room
              split at room
              · cases room
              · split at room
                · obtain rfl := Except.error.inj room
                  exact .admissionStorage
                · split at room
                  · obtain rfl := Except.error.inj room
                    exact .admissionLink _
                  · cases room
            · split at h
              · rcases bind_error.mp h with full | ⟨_, _, h⟩
                · rw [allocate_error full]
                  exact .poolFull
                · cases h
              · cases h
        · cases h

theorem reroute_error {s : SimulationState p n m cap} {lookup : TurnLookup m}
    {pool : ActiveAgentPool cap} {skip : Finset (Fin cap)} {e : SimError}
    (h : applyRuntimeReroutePolicy w s lookup pool skip = .error e) : Early e := by
  unfold applyRuntimeReroutePolicy at h
  split at h
  · cases h
  · split at h
    · cases h
    · rcases bind_error.mp h with pass | ⟨_, _, h⟩
      · obtain ⟨i, _, s, _, failed⟩ := fold_error (I := fun _ => True)
          (fun _ _ _ _ _ _ => trivial) trivial pass
        unfold rerouteSlot at failed
        simp only at failed
        split at failed
        · cases failed
        · split at failed
          · cases failed
          · split at failed
            · cases failed
            · rcases bind_error.mp failed with tail | ⟨⟨selection, t⟩, _, failed⟩
              · unfold selectRerouteTail at tail
                split at tail
                · cases tail
                · rcases bind_error.mp tail with build | ⟨_, _, tail⟩
                  · obtain ⟨e, _, rfl⟩ := map_error_error.mp build
                    exact .routing e
                  · cases tail
              · split at failed
                · cases failed
                · split at failed
                  · cases failed
                  · rcases bind_error.mp failed with decided | ⟨_, _, failed⟩
                    · rcases bind_error.mp decided with decision | ⟨decision, _, decided⟩
                      · obtain ⟨e, _, rfl⟩ := map_error_error.mp decision
                        exact .routing e
                      · split at decided
                        · rcases bind_error.mp decided with route | ⟨_, _, decided⟩
                          · obtain ⟨fault, rfl⟩ := validate_route_error w.net route
                            exact .rerouteRoute _ fault
                          · cases decided
                        · cases decided
                    · cases failed
      · cases h

theorem queue_increments_error {link : LinkState n} {increments : List ℤ} {e : SimError}
    (h : applySourceQueueIncrements w link increments = .error e) : Early e := by
  unfold applySourceQueueIncrements at h
  split at h
  · cases h
  · rcases bind_error.mp h with missing | ⟨_, _, h⟩
    · obtain ⟨_, rfl⟩ := raise_if_error.mp missing
      exact .allocatedSourceMissing
    · rcases bind_error.mp h with base | ⟨_, _, h⟩
      · obtain ⟨inner, read, rfl⟩ := map_error_error.mp base
        unfold readLinkBaseTravelTime at read
        split at read
        · cases read
        · split at read
          · obtain rfl := Except.error.inj read
            exact .travelTimeShape _ _
          · cases read
      · cases h

theorem progress_error {pool : ActiveAgentPool cap} {skip : Finset (Fin cap)} {e : SimError}
    (h : advanceRuntimeAgentProgress w pool skip = .error e) : Early e := by
  unfold advanceRuntimeAgentProgress at h
  split at h
  · rcases bind_error.mp h with unlinked | ⟨_, _, h⟩
    · obtain ⟨_, rfl⟩ := raise_if_error.mp unlinked
      exact .noIndexedLinks
    · split at h
      · obtain rfl := Except.error.inj h
        exact .missingPhysicalLink _ _
      · cases h
  · cases h

theorem advance_flow_error {flow : FlowState n m} {e : SimError}
    (h : advanceFlowState w flow = .error e) :
    (e = .spatialFlowStorage ∧ w.config.trafficModel = .spatialQueueV1 ∧
        flow.linkState.storageVector = none) ∨
      ∃ inner, e = .flow inner ∧ updateLinkNodeFlow w.rustFlow flow w.config.flowBackend true
        (if w.config.trafficModel = .spatialQueueV1 then
          flow.linkState.metadata.storageCapacityVehicles else none) = .error inner := by
  rcases bind_error.mp h with storage | ⟨_, _, h⟩
  · obtain ⟨⟨spatial, missing⟩, rfl⟩ := raise_if_error.mp storage
    exact .inl ⟨rfl, spatial, missing⟩
  · rcases bind_error.mp h with update | ⟨_, _, h⟩
    · obtain ⟨inner, failed, rfl⟩ := map_error_error.mp update
      exact .inr ⟨inner, rfl, failed⟩
    · cases h

theorem prepare_error {s : SimulationState p n m cap} {e : SimError}
    (h : prepareRuntimeRoutingState w s = .error e) :
    Early e ∨ ∃ parts, ReadyParts.Of w s parts ∧
      rebuildRuntimeTurnDemand w s.flow.nodeState parts.progressed
        parts.admission.newlyAllocatedSlotIds = .error e := by
  rcases bind_error.mp h with refresh | ⟨routes, refreshed, h⟩
  · exact .inl (refresh_error refresh)
  · rcases bind_error.mp h with agents | ⟨agents, prepared, h⟩
    · left
      rcases bind_error.mp agents with table | ⟨lookup, _, agents⟩
      · exact lookup_error table
      · rcases bind_error.mp agents with admitted | ⟨admission, _, agents⟩
        · obtain ⟨trip, _, s, _, failed⟩ := fold_error (I := fun _ => True)
            (fun _ _ _ _ _ _ => trivial) trivial admitted
          exact admit_trip_error failed
        · rcases bind_error.mp agents with reroute | ⟨rerouted, _, agents⟩
          · exact reroute_error reroute
          · rcases bind_error.mp agents with queued | ⟨link, _, agents⟩
            · exact queue_increments_error queued
            · cases agents
    · rcases bind_error.mp h with progress | ⟨progressed, progress, h⟩
      · exact .inl (progress_error progress)
      · obtain ⟨lookup, table, prepared⟩ := bind_ok.mp prepared
        obtain ⟨admission, admitted, prepared⟩ := bind_ok.mp prepared
        obtain ⟨rerouted, reroute, prepared⟩ := bind_ok.mp prepared
        obtain ⟨link, queued, prepared⟩ := bind_ok.mp prepared
        obtain rfl := pure_ok.mp prepared
        rcases bind_error.mp h with rebuild | ⟨_, _, h⟩
        · exact .inr ⟨⟨routes, lookup, admission, rerouted, link, progressed⟩,
            ⟨refreshed, table, admitted, reroute, queued, progress⟩, rebuild⟩
        · cases h

/-- Where an input can fail: early, in the demand pass, in the flow update or in
the commit, each after the phases before it. -/
inductive Fails (w : World p n m) (s : SimulationState p n m cap) (e : SimError) : Prop
  | early (h : Early e)
  | rebuild (events : TrafficEventSchedulerState) (parts : ReadyParts p n m cap)
      (ready : parts.Of w (dueState w s events))
      (h : rebuildRuntimeTurnDemand w (dueState w s events).flow.nodeState parts.progressed
        parts.admission.newlyAllocatedSlotIds = .error e)
  | flow (events : TrafficEventSchedulerState) (parts : ReadyParts p n m cap) (node : NodeState n m)
      (ready : parts.Of w (dueState w s events))
      (rebuilt : rebuildRuntimeTurnDemand w (dueState w s events).flow.nodeState parts.progressed
        parts.admission.newlyAllocatedSlotIds = .ok node)
      (h : advanceFlowState w ⟨parts.link, node⟩ = .error e)
  | commit (events : TrafficEventSchedulerState) (parts : ReadyParts p n m cap)
      (node : NodeState n m) (flow : FlowState n m)
      (ready : parts.Of w (dueState w s events))
      (rebuilt : rebuildRuntimeTurnDemand w (dueState w s events).flow.nodeState parts.progressed
        parts.admission.newlyAllocatedSlotIds = .ok node)
      (flowed : advanceFlowState w ⟨parts.link, node⟩ = .ok flow)
      (h : commitRuntimeActiveAgentFlows w flow.nodeState parts.progressed
        parts.admission.demand.withLifecycleCounts parts.admission.newlyAllocatedSlotIds = .error e)

theorem advance_error {s : SimulationState p n m cap} {input : RunInput} {e : SimError}
    (h : advance w s input = .error e) : Fails w s e := by
  cases input with
  | refreshRoutes force =>
    rcases bind_error.mp h with refresh | ⟨_, _, h⟩
    · exact .early (refresh_error refresh)
    · cases h
  | step control =>
    rcases bind_error.mp h with events | ⟨next, advanced, h⟩
    · rcases bind_error.mp events with scheduler | ⟨_, _, h⟩
      · obtain ⟨e, _, rfl⟩ := map_error_error.mp scheduler
        exact .early (.event e)
      · cases h
    · obtain ⟨events, _, advanced⟩ := bind_ok.mp advanced
      obtain rfl := pure_ok.mp advanced
      by_cases pause : control.pause = true
      · simp only [pause, if_true] at h
        cases h
      · simp only [pause, applyControlToState] at h
        rcases bind_error.mp h with prepare | ⟨⟨ready, prepared⟩, prepares, h⟩
        · rcases prepare_error prepare with early | ⟨parts, ready, rebuild⟩
          · exact .early early
          · exact .rebuild events parts ready rebuild
        · obtain ⟨parts, node, readies, rebuilt, rfl, rfl⟩ := prepare_ok prepares
          rcases bind_error.mp h with flow | ⟨flow, flowed, h⟩
          · exact .flow events parts node readies rebuilt flow
          · rcases bind_error.mp h with commit | ⟨_, _, h⟩
            · exact .commit events parts node flow readies rebuilt flowed commit
            · cases h

end Errors

end Metroflow.Sim
