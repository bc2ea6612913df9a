import Metroflow.Timing.State

namespace Metroflow.Timing

open Metroflow.Lib Metroflow.City Metroflow.Flow Metroflow.Routing Metroflow.Demand Metroflow.Sim

variable {p n m cap : ℕ} (w : World p n m)

def agentTickCounters : Counters := [
  ("trip_allocated_this_tick", 0),
  ("trip_completed_this_tick", 0),
  ("trip_failed_this_tick", 0),
  ("active_agent_moved_this_tick", 0),
  ("active_agent_sink_wait_this_tick", 0),
  ("active_agent_progressed_this_tick", 0),
  ("active_agent_exit_queue_count", 0),
  ("active_agent_in_transit_count", 0),
  ("trip_source_spillback_wait_this_tick", 0),
  ("active_agent_rerouted_this_tick", 0),
  ("active_agent_reroute_cooldown_this_tick", 0),
  ("active_agent_allocation_wall_ns", 0),
  ("active_agent_candidate_selection_wall_ns", 0),
  ("active_agent_pool_write_wall_ns", 0),
  ("active_agent_pool_array_write_wall_ns", 0),
  ("active_agent_plugin_memory_write_wall_ns", 0),
  ("active_agent_movement_wall_ns", 0)]

section Admission

/-- The admission pass, how many requests it left at a full source link, and
how long its parts took. -/
structure TimedAdmission (cap : ℕ) where
  pass : AdmissionPass cap
  spillbackWaits : ℕ := 0
  candidateSelectionWallNs : ℤ := 0
  poolWriteWallNs : ℤ := 0
  poolArrayWriteWallNs : ℤ := 0
  pluginMemoryWriteWallNs : ℤ := 0

/-- One activated request: it keeps its state, fails, waits, or gets an agent. -/
def admitTrip (tick : ℕ) (routes : SimulationRouteCacheState p n) (link : LinkState n)
    (lookup : TurnLookup m) (s : TimedAdmission cap) (trip : TripRequest) :
    Timed (TimedAdmission cap) :=
  if s.pass.demand.unassigned trip.tripRequestId = false then return s
  else if s.pass.pool.freeSlotStack = [] then return s
  else do
    let od := w.tripOdNodes trip
    let (selection, selectionNs) ← timedNs (pureStep ((selectCandidateRoute w.log w.rust
      (od.bind fun od => routes.candidateSets.lookup od.1) w.config.routePathSizeGamma
      w.config.routingBackend).mapError .routing))
    let s := { s with candidateSelectionWallNs := s.candidateSelectionWallNs + selectionNs }
    match selection, od with
    | some selection, some (_, _, destinationNodeId) => do
      pureStep (validateRoutePathAuthority w.net lookup selection.path destinationNodeId
        (.trip trip.tripRequestId))
      let available ← pureStep (sourceLinkAdmissionAvailable w link (selection.path.getD 0 (-1))
        s.pass.sourceQueueIncrements)
      if available then do
        let ((pass, arrayNs, memoryNs), writeNs) ← timedNs do
          let (pass, arrayNs) ← timedNs
            (pureStep (s.pass.admitTrip tick trip selection destinationNodeId))
          -- the slot's memory is written after its arrays
          let (_, memoryNs) ← timedNs (pure ())
          return (pass, arrayNs, memoryNs)
        return { s with
          pass := pass
          poolWriteWallNs := s.poolWriteWallNs + writeNs
          poolArrayWriteWallNs := s.poolArrayWriteWallNs + arrayNs
          pluginMemoryWriteWallNs := s.pluginMemoryWriteWallNs + memoryNs }
      else return { s with spillbackWaits := s.spillbackWaits + 1 }
    | _, _ => return { s with pass := s.pass.fail trip.tripRequestId }

/-- The pool takes over the memories that the pass has collected, if any. -/
def replacePoolPluginMemory (s : TimedAdmission cap) : Timed (TimedAdmission cap) :=
  if s.pass.allocatedCount = 0 then return s
  else do
    let (_, replacementNs) ← timedNs (pure ())
    return { s with
      pluginMemoryWriteWallNs := s.pluginMemoryWriteWallNs + replacementNs
      poolWriteWallNs := s.poolWriteWallNs + replacementNs }

def admitActivatedTrips (s : SimulationState p n m cap) (lookup : TurnLookup m) :
    Timed (TimedAdmission cap) := do
  let admission ← (activatedTripRequests s.demand.tripRequests).foldlM
    (admitTrip w s.tickIndex s.routes s.flow.linkState lookup)
    { pass := { pool := s.pool, demand := s.demand } }
  replacePoolPluginMemory admission

def TimedAdmission.counters (s : TimedAdmission cap) (allocationNs : ℤ) : Counters :=
  agentTickCounters.update [
    ("trip_failed_this_tick", s.pass.failedCount),
    ("trip_source_spillback_wait_this_tick", s.spillbackWaits),
    ("trip_allocated_this_tick", s.pass.allocatedCount),
    ("active_agent_allocation_wall_ns", allocationNs),
    ("active_agent_candidate_selection_wall_ns", s.candidateSelectionWallNs),
    ("active_agent_pool_write_wall_ns", s.poolWriteWallNs),
    ("active_agent_pool_array_write_wall_ns", s.poolArrayWriteWallNs),
    ("active_agent_plugin_memory_write_wall_ns", s.pluginMemoryWriteWallNs)]

end Admission

section Rerouting

/-- How many agents only wait out their cooldown at a rerouting. -/
def rerouteCooldownCount (s : SimulationState p n m cap) (pool : ActiveAgentPool cap)
    (skip : Finset (Fin cap)) : ℕ :=
  if runtimeRerouteTrigger w s = none ∨ pool.aliveCount = 0 then 0
  else (List.finRange cap).countP fun i =>
    pool.alive i && decide (i ∉ skip) && decide (0 < (pool.slots i).rerouteCooldownTicks)

/-- How many agents got another route. -/
def reroutedCount (before after : ActiveAgentPool cap) : ℕ :=
  (List.finRange cap).countP fun i =>
    decide ((after.memory i).routePath ≠ (before.memory i).routePath)

def rerouteCounters (s : SimulationState p n m cap) (before after : ActiveAgentPool cap)
    (skip : Finset (Fin cap)) (decisionNs : ℤ) : Counters :=
  agentTickCounters.update [
    ("active_agent_reroute_cooldown_this_tick", rerouteCooldownCount w s before skip),
    ("active_agent_rerouted_this_tick", reroutedCount before after),
    ("reroute_decision_wall_ns", decisionNs)]

end Rerouting

section Phases

/-- Allocates, reroutes and admits agents before the flow update of the tick. -/
def prepareRuntimeActiveAgents (s : SimulationState p n m cap) :
    Timed (Prepared n cap × Counters) := do
  let lookup ← pureStep (runtimeTurnIndexLookup w.net s.flow.nodeState)
  let (admission, allocationNs) ← timedNs (admitActivatedTrips w s lookup)
  let pass := admission.pass
  let (pool, decisionNs) ← timedNs
    (pureStep (applyRuntimeReroutePolicy w s lookup pass.pool pass.newlyAllocatedSlotIds))
  let link ← pureStep (applySourceQueueIncrements w s.flow.linkState pass.sourceQueueIncrements)
  return ({
    pool := pool
    demand := pass.demand.withLifecycleCounts
    linkState := link
    newlyAllocatedSlotIds := pass.newlyAllocatedSlotIds
    allocatedCount := pass.allocatedCount
    failedCount := pass.failedCount },
    (admission.counters allocationNs).plus
      (rerouteCounters w s pass.pool pool pass.newlyAllocatedSlotIds decisionNs))

/-- Only the spatial mode has progress along a link, and counts it. -/
def advanceRuntimeAgentProgress (pool : ActiveAgentPool cap) (skip : Finset (Fin cap)) :
    Except StepError (ActiveAgentPool cap × Counters) := do
  let after ← pureStep (Sim.advanceRuntimeAgentProgress w pool skip)
  let spatial := decide (w.config.trafficModel = .spatialQueueV1)
  let progressed := (List.finRange cap).countP fun i => spatial && pool.alive i &&
    decide (i ∉ skip) && decide ((pool.slots i).progress01 + 1 / 1000000000 < (after.slots i).progress01)
  let exiting := (List.finRange cap).countP fun i =>
    spatial && after.alive i && decide (1 - 1 / 1000000 ≤ (after.slots i).progress01)
  return (after, [
    ("active_agent_progressed_this_tick", (progressed : ℤ)),
    ("active_agent_exit_queue_count", (exiting : ℤ)),
    ("active_agent_in_transit_count", if spatial then pool.aliveCount - exiting else 0)])

/-- How many agents went on to their next link. -/
def movedCount (before after : ActiveAgentPool cap) : ℕ :=
  (List.finRange cap).countP fun i => after.alive i &&
    decide ((after.slots i).remainingRoutePtr ≠ (before.slots i).remainingRoutePtr)

/-- How many agents had no token to leave at the end of their route. -/
def sinkWaitCount (before after : ActiveAgentPool cap) (skip : Finset (Fin cap)) : ℕ :=
  (List.finRange cap).countP fun i =>
    let slot := before.slots i
    let path := (before.memory i).routePath
    slot.alive && decide (i ∉ skip) && after.alive i &&
      decide (path[slot.remainingRoutePtr]? = some slot.currentLinkId) &&
      decide (slot.remainingRoutePtr + 1 = path.length)

def commitCounters (s : SimulationState p n m cap) (committed : Committed cap)
    (skip : Finset (Fin cap)) : Counters :=
  agentTickCounters.update [
    ("active_agent_moved_this_tick", movedCount s.pool committed.pool),
    ("active_agent_sink_wait_this_tick", sinkWaitCount s.pool committed.pool skip),
    ("trip_completed_this_tick", committed.completedCount)]

/-- Commits the agents and counts what they did. -/
def commitRuntimeRoutingState (s : SimulationState p n m cap) (skip : Finset (Fin cap)) :
    Timed (SimulationState p n m cap × Counters) := do
  let (committed, elapsedNs) ← timedNs (pureStep (commitRuntimeActiveAgentFlows w s.flow.nodeState
    s.pool s.demand skip))
  let counters := commitCounters s committed skip
  return ({ s with pool := committed.pool, demand := committed.demand }, counters.update [
    ("active_agent_movement_wall_ns", max (counters.at "active_agent_movement_wall_ns") elapsedNs),
    ("active_agent_update_wall_ns", elapsedNs)])

/-- The discrete flow update. -/
def advanceFlowState (s : SimulationState p n m cap) :
    Timed (SimulationState p n m cap × Counters) := do
  let (flow, elapsedNs) ← timedNs (pureStep (Sim.advanceFlowState w s.flow))
  return ({ s with flow := flow }, [("flow_update_wall_ns", elapsedNs)])

end Phases

section Indistinct

structure TimedAdmission.Alike (s s' : TimedAdmission cap) : Prop where
  pass : s.pass = s'.pass
  waits : s.spillbackWaits = s'.spillbackWaits
  selection : 0 ≤ s.candidateSelectionWallNs ∧ 0 ≤ s'.candidateSelectionWallNs
  pool_write : 0 ≤ s.poolWriteWallNs ∧ 0 ≤ s'.poolWriteWallNs
  array_write : 0 ≤ s.poolArrayWriteWallNs ∧ 0 ≤ s'.poolArrayWriteWallNs
  memory_write : 0 ≤ s.pluginMemoryWriteWallNs ∧ 0 ≤ s'.pluginMemoryWriteWallNs

theorem both_add_nonneg {i j i' j' : ℤ} (h : 0 ≤ i ∧ 0 ≤ j) (h' : 0 ≤ i' ∧ 0 ≤ j') :
    0 ≤ i + i' ∧ 0 ≤ j + j' :=
  ⟨add_nonneg h.1 h'.1, add_nonneg h.2 h'.2⟩

theorem timed_same {α : Type} (x : Except StepError α) :
    Indistinct (fun a b => a.1 = b.1 ∧ 0 ≤ a.2 ∧ 0 ≤ b.2) (timedNs (liftM x)) (timedNs (liftM x)) :=
  timed_ns_indistinct (.lift (.refl (fun _ => rfl) x))

theorem timed_nothing :
    Indistinct (fun a b => a.1 = b.1 ∧ 0 ≤ a.2 ∧ 0 ≤ b.2) (timedNs (pure ())) (timedNs (pure ())) :=
  timed_ns_indistinct (.pure rfl)

theorem admit_trip_indistinct {tick : ℕ} {routes : SimulationRouteCacheState p n}
    {link : LinkState n} {lookup : TurnLookup m} {trip : TripRequest} {s s' : TimedAdmission cap}
    (h : s.Alike s') : Indistinct TimedAdmission.Alike (admitTrip w tick routes link lookup s trip)
      (admitTrip w tick routes link lookup s' trip) := by
  unfold admitTrip
  rw [← h.pass]
  split
  · exact .pure h
  · split
    · exact .pure h
    · simp only
      refine Indistinct.bind (timed_same _) ?_
      rintro ⟨selection, selectionNs⟩ ⟨_, selectionNs'⟩ ⟨same, pos⟩
      obtain rfl : selection = _ := same
      have selected := both_add_nonneg h.selection pos
      dsimp only
      split
      · refine Indistinct.bind (.lift (.refl (V := Eq) (fun _ => rfl) _)) fun _ _ _ => ?_
        refine Indistinct.bind (.lift (.refl (V := Eq) (fun _ => rfl) _)) fun available _ same => ?_
        subst same
        split
        · refine Indistinct.bind (timed_ns_indistinct (V := fun a b : AdmissionPass cap × ℤ × ℤ =>
            a.1 = b.1 ∧ (0 ≤ a.2.1 ∧ 0 ≤ b.2.1) ∧ 0 ≤ a.2.2 ∧ 0 ≤ b.2.2) ?_) ?_
          · refine Indistinct.bind (timed_same _) ?_
            rintro ⟨pass, arrayNs⟩ ⟨_, arrayNs'⟩ ⟨same, array⟩
            obtain rfl : pass = _ := same
            refine Indistinct.bind timed_nothing ?_
            rintro ⟨_, memoryNs⟩ ⟨_, memoryNs'⟩ ⟨_, memory⟩
            exact .pure ⟨rfl, array, memory⟩
          · rintro ⟨⟨pass, arrayNs, memoryNs⟩, writeNs⟩ ⟨⟨_, _, _⟩, _⟩ ⟨⟨same, array, memory⟩, write⟩
            obtain rfl : pass = _ := same
            exact .pure ⟨rfl, h.waits, selected, both_add_nonneg h.pool_write write,
              both_add_nonneg h.array_write array, both_add_nonneg h.memory_write memory⟩
        · exact .pure ⟨rfl, congrArg (· + 1) h.waits, selected, h.pool_write, h.array_write,
            h.memory_write⟩
      · exact .pure ⟨rfl, h.waits, selected, h.pool_write, h.array_write, h.memory_write⟩

theorem admit_activated_indistinct (s : SimulationState p n m cap) (lookup : TurnLookup m) :
    Indistinct TimedAdmission.Alike (admitActivatedTrips w s lookup)
      (admitActivatedTrips w s lookup) := by
  have start : TimedAdmission.Alike { pass := { pool := s.pool, demand := s.demand } }
      { pass := { pool := s.pool, demand := s.demand } } :=
    ⟨rfl, rfl, ⟨le_refl 0, le_refl 0⟩, ⟨le_refl 0, le_refl 0⟩, ⟨le_refl 0, le_refl 0⟩,
      ⟨le_refl 0, le_refl 0⟩⟩
  refine Indistinct.bind (V := TimedAdmission.Alike) (.fold ?_ start) ?_
  · exact fun trip _ _ _ alike => admit_trip_indistinct w alike
  · intro a b h
    unfold replacePoolPluginMemory
    rw [← h.pass]
    split
    · exact .pure h
    · refine Indistinct.bind timed_nothing ?_
      rintro ⟨_, replacementNs⟩ ⟨_, replacementNs'⟩ ⟨_, replacement⟩
      exact .pure ⟨rfl, h.waits, h.selection, both_add_nonneg h.pool_write replacement,
        h.array_write, both_add_nonneg h.memory_write replacement⟩

theorem agent_counters_alike : CountersAlike agentTickCounters agentTickCounters := by
  have zero : ∀ item ∈ agentTickCounters, item.2 = 0 := by decide
  refine List.forall₂_same.mpr fun item listed => ⟨rfl, ?_⟩
  rw [zero item listed]
  exact .refl_zero item.1

theorem TimedAdmission.Alike.counters {s s' : TimedAdmission cap} (h : s.Alike s') {i j : ℤ}
    (times : 0 ≤ i ∧ 0 ≤ j) : CountersAlike (s.counters i) (s'.counters j) := by
  unfold TimedAdmission.counters
  rw [← h.pass, ← h.waits]
  refine agent_counters_alike.update ?_
  refine .cons (.seen (shown_of_spelled rfl (by decide)) _) ?_
  refine .cons (.seen (shown_of_spelled rfl (by decide)) _) ?_
  refine .cons (.seen (shown_of_spelled rfl (by decide)) _) ?_
  refine .cons (.hidden (hidden_of_spelled rfl (by decide)) times.1 times.2) ?_
  refine .cons (.hidden (hidden_of_spelled rfl (by decide)) h.selection.1 h.selection.2) ?_
  refine .cons (.hidden (hidden_of_spelled rfl (by decide)) h.pool_write.1 h.pool_write.2) ?_
  refine .cons (.hidden (hidden_of_spelled rfl (by decide)) h.array_write.1 h.array_write.2) ?_
  refine .cons (.hidden (hidden_of_spelled rfl (by decide)) h.memory_write.1 h.memory_write.2) ?_
  exact .nil _

theorem reroute_counters_alike {s : SimulationState p n m cap} {before after : ActiveAgentPool cap}
    {skip : Finset (Fin cap)} {i j : ℤ} (times : 0 ≤ i ∧ 0 ≤ j) :
    CountersAlike (rerouteCounters w s before after skip i)
      (rerouteCounters w s before after skip j) := by
  unfold rerouteCounters
  refine agent_counters_alike.update ?_
  refine .cons (.seen (shown_of_spelled rfl (by decide)) _) ?_
  refine .cons (.seen (shown_of_spelled rfl (by decide)) _) ?_
  exact .cons (.hidden (hidden_of_spelled rfl (by decide)) times.1 times.2) (.nil _)

theorem prepare_indistinct (s : SimulationState p n m cap) :
    Indistinct (fun a b => a.1 = b.1 ∧ CountersAlike a.2 b.2) (prepareRuntimeActiveAgents w s)
      (prepareRuntimeActiveAgents w s) := by
  unfold prepareRuntimeActiveAgents
  refine Indistinct.bind (.lift (.refl (V := Eq) (fun _ => rfl) _)) fun lookup _ same => ?_
  subst same
  refine Indistinct.bind (timed_ns_indistinct (admit_activated_indistinct w s lookup)) ?_
  rintro ⟨admission, allocationNs⟩ ⟨admission', allocationNs'⟩ ⟨alike, allocation⟩
  dsimp only at alike allocation ⊢
  rw [← alike.pass]
  refine Indistinct.bind (timed_same _) ?_
  rintro ⟨pool, decisionNs⟩ ⟨_, decisionNs'⟩ ⟨same, decision⟩
  obtain rfl : pool = _ := same
  refine Indistinct.bind (.lift (.refl (V := Eq) (fun _ => rfl) _)) fun link _ same => ?_
  subst same
  have counters := alike.counters allocation
  refine .pure ⟨rfl, ?_⟩
  dsimp only at decision ⊢
  exact counters.plus (reroute_counters_alike w decision)

theorem progress_indistinct (pool : ActiveAgentPool cap) (skip : Finset (Fin cap)) :
    Outcome (fun a b => a.1 = b.1 ∧ CountersAlike a.2 b.2) (advanceRuntimeAgentProgress w pool skip)
      (advanceRuntimeAgentProgress w pool skip) := by
  unfold advanceRuntimeAgentProgress
  refine (Outcome.refl (V := Eq) (fun _ => rfl) _).bind fun after _ same => ?_
  subst same
  refine .ok ⟨rfl, counters_seen ?_⟩
  simp only [List.map]
  apply spelled_all
  · repeat' constructor
  · simp only [hidden_spelled]
    decide

theorem commit_indistinct (s : SimulationState p n m cap) (skip : Finset (Fin cap)) :
    Indistinct (fun a b => a.1 = b.1 ∧ CountersAlike a.2 b.2) (commitRuntimeRoutingState w s skip)
      (commitRuntimeRoutingState w s skip) := by
  unfold commitRuntimeRoutingState
  refine Indistinct.bind (timed_same _) ?_
  rintro ⟨committed, elapsedNs⟩ ⟨_, elapsedNs'⟩ ⟨same, elapsed⟩
  obtain rfl : committed = _ := same
  have counted : CountersAlike (commitCounters s committed skip)
      (commitCounters s committed skip) := by
    refine agent_counters_alike.update ?_
    refine .cons (.seen (shown_of_spelled rfl (by decide)) _) ?_
    refine .cons (.seen (shown_of_spelled rfl (by decide)) _) ?_
    exact .cons (.seen (shown_of_spelled rfl (by decide)) _) (.nil _)
  refine .pure ⟨rfl, counted.update ?_⟩
  refine .cons (.hidden (hidden_of_spelled rfl (by decide)) (le_max_of_le_right elapsed.1)
    (le_max_of_le_right elapsed.2)) ?_
  exact .cons (.hidden (hidden_of_spelled rfl (by decide)) elapsed.1 elapsed.2) (.nil _)

theorem flow_indistinct (s : SimulationState p n m cap) :
    Indistinct (fun a b => a.1 = b.1 ∧ CountersAlike a.2 b.2) (advanceFlowState w s)
      (advanceFlowState w s) := by
  unfold advanceFlowState
  refine Indistinct.bind (timed_same _) ?_
  rintro ⟨flow, elapsedNs⟩ ⟨_, elapsedNs'⟩ ⟨same, elapsed⟩
  obtain rfl : flow = _ := same
  refine .pure ⟨rfl, ?_⟩
  exact .cons (.hidden (hidden_of_spelled rfl (by decide)) elapsed.1 elapsed.2) (.nil _)

end Indistinct

end Metroflow.Timing
