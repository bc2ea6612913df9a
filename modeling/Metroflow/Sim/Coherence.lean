import Metroflow.Sim.Coupling

namespace Metroflow.Sim

open Metroflow.Lib Metroflow.City Metroflow.Flow Metroflow.Demand

variable {p n m cap : ℕ} {w : World p n m} {lookup : TurnLookup m}

structure Routed (net : RoadNetworkCSR p n m) (lookup : TurnLookup m) (pool : ActiveAgentPool cap) :
    Prop where
  pool_valid : pool.Valid
  on_route : ∀ i, OnRoute net lookup (pool.slots i) (pool.pluginMemory i)

theorem Routed.empty {net : RoadNetworkCSR p n m} {pool : ActiveAgentPool cap} (h : pool.Empty) :
    Routed net lookup pool :=
  ⟨h.valid, fun i alive => absurd (alive.symm.trans (h.none_alive i)) (by simp)⟩

section Phases

variable {pool pool' : ActiveAgentPool cap}

theorem on_route_of_same {net : RoadNetworkCSR p n m} {slot slot' : ActiveAgentSlot}
    {memory : Option RouteMemory} (h : OnRoute net lookup slot memory)
    (alive : slot'.alive = slot.alive) (trip : slot'.tripId = slot.tripId)
    (pointer : slot'.remainingRoutePtr = slot.remainingRoutePtr)
    (place : slot'.currentLinkId = slot.currentLinkId)
    (destination : slot'.destNodeId = slot.destNodeId) : OnRoute net lookup slot' memory := by
  unfold OnRoute
  rw [alive, trip, pointer, place, destination]
  exact h

theorem Admitted.routed {link : LinkState n} {trip : TripRequest} {s s' : AdmissionPass cap}
    {i : Fin cap} {path : List ℤ} {sourceLinkId destinationNodeId : ℤ}
    (a : Admitted w link lookup trip s s' i path sourceLinkId destinationNodeId)
    (h : Routed w.net lookup s.pool) : Routed w.net lookup s'.pool where
  pool_valid := h.pool_valid.allocated a.stack a.alive_count a.slots rfl ⟨le_refl 0, zero_le_one⟩
  on_route j := by
    obtain ⟨memory, memories, remembered, own⟩ := a.memory
    rw [a.slots, memories]
    by_cases here : j = i
    · subst here
      rw [Function.update_self, Function.update_self]
      exact fun _ => ⟨memory, rfl, own, remembered ▸ a.source, remembered ▸ a.route⟩
    · rw [Function.update_of_ne here, Function.update_of_ne here]
      exact h.on_route j

theorem routed_of_admission {tick : ℕ} {routes : SimulationRouteCacheState p n}
    {link : LinkState n} {demand : DemandState} {s : AdmissionPass cap}
    (start : Routed w.net lookup pool)
    (h : admitActivatedTrips w tick routes link lookup pool demand = .ok s) :
    Routed w.net lookup s.pool := by
  refine fold_invariant (I := fun s : AdmissionPass cap => Routed w.net lookup s.pool)
    (fun trip _ s s' routed step => ?_) start h
  rcases admit_trip_ok step with rfl | ⟨_, rfl⟩ | ⟨i, path, source, destination, a⟩
  · exact routed
  · exact routed
  · exact a.routed routed

theorem Progresses.routed {skip : Finset (Fin cap)} (h : Progresses w skip pool pool')
    (start : Routed w.net lookup pool) : Routed w.net lookup pool' where
  pool_valid := h.valid start.pool_valid
  on_route i := by
    obtain ⟨_, same⟩ := h.slot_eq i
    rw [same, h.memory]
    exact on_route_of_same (start.on_route i) rfl rfl rfl rfl rfl

theorem ReadyParts.Of.routed {due : SimulationState p n m cap} {parts : ReadyParts p n m cap}
    (h : parts.Of w due) (start : Routed w.net parts.lookup due.pool) :
    Routed w.net parts.lookup parts.progressed := by
  have admitted := routed_of_admission start h.admitted
  have rerouted := apply_reroute_policy_keeps h.reroute
  exact (advance_progress_ok h.progress).routed
    ⟨rerouted.valid admitted.pool_valid, fun i => rerouted.route i (admitted.on_route i)⟩

variable {skip : Finset (Fin cap)} {s s' : CommitPass n m cap} {i : Fin cap}

theorem moved_on_route {net : RoadNetworkCSR p n m} {t : Fin m} {nextLinkId : ℤ}
    (h : OnRoute net lookup (s.pool.slots i) (s.pool.pluginMemory i))
    (next : (s.pool.memory i).routePath[(s.pool.slots i).remainingRoutePtr + 1]? =
      some nextLinkId) :
    OnRoute net lookup ((s.advance i t nextLinkId).pool.slots i)
      ((s.advance i t nextLinkId).pool.pluginMemory i) := by
  intro alive
  simp only [CommitPass.advance, ActiveAgentPool.with_slot_slots, Function.update_self] at alive ⊢
  obtain ⟨remembered, found, own, _, legal⟩ := h alive
  rw [show s.pool.memory i = remembered by simp [ActiveAgentPool.memory, found]] at next
  exact ⟨remembered, found, own, next, legal⟩

theorem Commits.routed {net : RoadNetworkCSR p n m} (h : Commits net lookup skip s i s')
    (start : Routed net lookup s.pool) : Routed net lookup s'.pool where
  pool_valid := h.valid start.pool_valid
  on_route j := by
    by_cases here : j = i
    · subst here
      cases h with
      | waits => exact start.on_route j
      | moves t nextLinkId _ _ _ _ next => exact moved_on_route (start.on_route j) next
      | completes l _ _ _ _ _ released =>
        obtain ⟨_, _, _, slots, _⟩ := complete_ok released
        rw [slots, Function.update_self]
        exact fun alive => by cases alive
    · obtain ⟨slots, memory⟩ := h.frame here
      rw [slots, memory]
      exact start.on_route j

theorem complete_of_alive (valid : s.pool.Valid) (alive : s.pool.alive i = true) (l : Fin n) :
    ∃ s', s.complete i l = .ok s' := by
  unfold CommitPass.complete releaseSlot
  rw [dif_neg (valid.alive_count_ne_zero alive)]
  exact ⟨_, rfl⟩

theorem commit_slot_on_route {net : RoadNetworkCSR p n m} (start : Routed net lookup s.pool)
    (i : Fin cap) : ∃ s', commitSlot net lookup skip s i = .ok s' := by
  unfold commitSlot
  simp only
  split
  · exact ⟨s, rfl⟩
  · rename_i present
    have settled := settled_of_checks present
    obtain ⟨identity, here, legal⟩ := settled.on_route (start.on_route i)
    rw [validate_identity_of identity]
    simp only [bind, Except.bind, here, ne_eq, not_true_eq_false, if_false]
    rw [(validate_route_ok net).mpr legal]
    rcases legal.intent net here with ⟨l, final, known, arrives, _⟩ | ⟨t, next, more, found, _⟩
    · simp only [final, if_true, known, arrives, not_true_eq_false, if_false]
      split
      · exact ⟨s, rfl⟩
      · exact complete_of_alive start.pool_valid settled.1 l
    · obtain ⟨inside, _⟩ := List.getElem?_eq_some_iff.mp more
      simp only [Nat.ne_of_lt inside, if_false, List.getD_eq_getElem?_getD, more, Option.getD_some,
        found]
      split
      · exact ⟨s, rfl⟩
      · exact ⟨_, rfl⟩

end Phases

/-- The errors about an agent whose route is missing, stale or illegal, which the
demand pass and the commit can raise. -/
inductive StrayAgent : SimError → Prop
  | identityMissing (slotId : ℕ) (packed : ℤ) : StrayAgent (.tripIdentityMissing slotId packed)
  | identityMismatch (slotId : ℕ) (packed memory : ℤ) :
      StrayAgent (.tripIdentityMismatch slotId packed memory)
  | route (slotId : ℕ) (fault : RouteFault) : StrayAgent (.route (.slot slotId) fault)
  | missingIntent (slotId : ℕ) (fromLinkId toLinkId : ℤ) (count : ℕ) :
      StrayAgent (.missingIntent slotId fromLinkId toLinkId count)
  | invalidSink (slotId : ℕ) (linkId actual expected : ℤ) (count : ℕ) :
      StrayAgent (.invalidSink slotId linkId actual expected count)
  | finalLinkAbsent (slotId : ℕ) (linkId : ℤ) : StrayAgent (.finalLinkAbsent slotId linkId)

section Runs

variable {s s' : SimulationState p n m cap}

/-- The node state runs the turn table of the network, and all agents are on routes over it. -/
structure Coherent (w : World p n m) (s : SimulationState p n m cap) : Prop where
  table : RunsTable w.net s.flow.nodeState
  routed : Routed w.net w.net.turnPairToIndex s.pool

theorem ReadyParts.Of.coherent {parts : ReadyParts p n m cap} (h : parts.Of w s)
    (start : Coherent w s) : parts.lookup = w.net.turnPairToIndex ∧
      Routed w.net w.net.turnPairToIndex parts.progressed := by
  have same := Except.ok.inj (h.table.symm.trans start.table.lookup)
  refine ⟨same, ?_⟩
  rw [← same]
  exact h.routed (same ▸ start.routed)

theorem RunsTable.of_same {net : RoadNetworkCSR p n m} {node node' : NodeState n m}
    (h : RunsTable net node) (from_links : node'.turnFromLinkIndex = node.turnFromLinkIndex)
    (to_links : node'.turnToLinkIndex = node.turnToLinkIndex)
    (forbidden : node'.metadata.turnIsForbidden = node.metadata.turnIsForbidden) :
    RunsTable net node' where
  from_links := from_links.trans h.from_links
  to_links := to_links.trans h.to_links
  forbidden := by
    rw [← h.forbidden]
    simp only [readTurnIsForbidden, forbidden]

theorem Rebuilt.runs_table {pool : ActiveAgentPool cap} {skip : Finset (Fin cap)}
    {node node' : NodeState n m} (h : Rebuilt w lookup pool skip node node')
    (table : RunsTable w.net node) : RunsTable w.net node' :=
  table.of_same h.from_links h.to_links (by rw [h.metadata])

theorem FlowPhase.runs_table {flow flow' : FlowState n m} {k : TokenTick n m}
    (h : FlowPhase w flow flow' k) (table : RunsTable w.net flow.nodeState) :
    RunsTable w.net flow'.nodeState :=
  table.of_same h.from_kept h.to_kept h.forbidden_kept

theorem TickParts.Of.coherent {parts : TickParts p n m cap} (h : parts.Of w s s')
    (start : Coherent w s) : Coherent w s' := by
  obtain ⟨_, rebuilt⟩ := rebuild_ok h.rebuilt
  obtain ⟨k, phase⟩ := advance_flow_ok h.flowed
  obtain ⟨lookup, sinkTokens, last, run⟩ := commit_ok h.commits
  have table := phase.runs_table (rebuilt.runs_table start.table)
  obtain rfl := Except.ok.inj (table.lookup.symm.trans run.table)
  have ready := (h.toOf.coherent start).2
  have last_routed := fold_invariant
    (I := fun s : CommitPass n m cap => Routed w.net w.net.turnPairToIndex s.pool)
    (fun i _ s s' routed step => (commit_slot_ok step).routed routed) ready run.slots
  rw [h.after]
  exact ⟨table, run.pool_eq ▸ last_routed⟩

theorem DueKeeps.coherent {due : SimulationState p n m cap} (h : DueKeeps s due)
    (start : Coherent w s) : Coherent w due :=
  ⟨h.node ▸ start.table, h.pool ▸ start.routed⟩

theorem coherent_step {input : RunInput} (start : Coherent w s) (h : advance w s input = .ok s') :
    Coherent w s' := by
  cases advance_ok h with
  | refreshed routes => exact ⟨start.table, start.routed⟩
  | paused events => exact ⟨start.table, start.routed⟩
  | ticked events parts _ tick => exact tick.coherent ((due_keeps events).coherent start)

theorem no_stray_agent {input : RunInput} {e : SimError} (start : Coherent w s)
    (h : advance w s input = .error e) : ¬ StrayAgent e := by
  cases advance_error h with
  | early early =>
    intro stray
    cases early <;> cases stray
  | rebuild events parts ready h =>
    have due : Coherent w (dueState w s events) := (due_keeps events).coherent start
    obtain ⟨node, rebuilt⟩ : ∃ node, rebuildRuntimeTurnDemand w (dueState w s events).flow.nodeState
        parts.progressed parts.admission.newlyAllocatedSlotIds = .ok node :=
      rebuild_on_routes due.table.lookup (ready.coherent due).2.on_route
    rw [rebuilt] at h
    cases h
  | flow events parts node ready rebuilt h =>
    intro stray
    rcases advance_flow_error h with ⟨rfl, _⟩ | ⟨inner, rfl, _⟩ <;> cases stray
  | commit events parts node flow ready rebuilt flowed h =>
    have due : Coherent w (dueState w s events) := (due_keeps events).coherent start
    obtain ⟨_, counted⟩ := rebuild_ok rebuilt
    obtain ⟨k, phase⟩ := advance_flow_ok flowed
    have table := phase.runs_table (counted.runs_table due.table)
    intro stray
    rcases commit_error h with rfl | sinks | noTable | ⟨sinkTokens, lookup, sinks, found, fails⟩
    · cases stray
    · rw [read_sink_tokens_of_vector phase.sink_flow] at sinks
      cases sinks
    · rw [table.lookup] at noTable
      cases noTable
    · obtain rfl := Except.ok.inj (table.lookup.symm.trans found)
      rcases fails with slot | ⟨_, _, _, rfl⟩
      · obtain ⟨i, _, t, routed, failed⟩ := fold_error
          (I := fun s : CommitPass n m cap => Routed w.net w.net.turnPairToIndex s.pool)
          (fun i _ s s' routed step => (commit_slot_ok step).routed routed)
          (ready.coherent due).2 slot
        obtain ⟨t', passed⟩ : ∃ t', commitSlot w.net w.net.turnPairToIndex
            parts.admission.newlyAllocatedSlotIds t i = .ok t' := commit_slot_on_route routed i
        rw [passed] at failed
        cases failed
      · cases stray

/-- From an empty pool, after every step of every run each agent stands on a
remembered route that is legal, its own and ends at its destination, and no step
is refused for a missing, stale or illegal route of an agent. -/
theorem agents_stay_on_routes {steps : List (Taken (SimulationState p n m cap) RunInput)}
    (empty : s.pool.Empty) (table : RunsTable w.net s.flow.nodeState)
    (run : Trace (advance w) s steps s') :
    (∀ taken ∈ steps, ∀ i, OnRoute w.net w.net.turnPairToIndex (taken.after.pool.slots i)
        (taken.after.pool.pluginMemory i)) ∧
      ∀ input e, advance w s' input = .error e → ¬ StrayAgent e := by
  have start : Coherent w s := ⟨table, .empty empty⟩
  refine ⟨run.forall_steps (I := Coherent w) start (fun _ _ _ => coherent_step) ?_, ?_⟩
  · exact fun _ _ _ held step => (coherent_step held step).routed.on_route
  · exact fun input e => no_stray_agent (run.invariant start fun _ _ _ => coherent_step)

end Runs

theorem agents_stay_on_routes_corridor :
    ∃ steps s', Trace (advance corridorWorld) corridorStart steps s' ∧ steps.length = 4 ∧
      (∀ taken ∈ steps, ∀ i, OnRoute corridor corridor.turnPairToIndex (taken.after.pool.slots i)
        (taken.after.pool.pluginMemory i)) ∧
      ∀ input e, advance corridorWorld s' input = .error e → ¬ StrayAgent e := by
  obtain ⟨steps, s', trace, length⟩ := corridor_run
  exact ⟨steps, s', trace, length, agents_stay_on_routes (ActiveAgentPool.create_empty 2)
    (RunsTable.initial corridor) trace⟩

end Metroflow.Sim
