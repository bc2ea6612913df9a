import Metroflow.Sim.Phases

namespace Metroflow.Sim

open Metroflow.Lib Metroflow.City Metroflow.Flow Metroflow.Demand

variable {p n m cap : ℕ} {w : World p n m}

structure Coupled (w : World p n m) (link : LinkState n) (pool : ActiveAgentPool cap) : Prop where
  pool_valid : pool.Valid
  queue : ∀ l, link.queueVehicles l = pool.residents (w.net.links l).linkId

theorem Coupled.empty {link : LinkState n} {pool : ActiveAgentPool cap} (empty : pool.Empty)
    (zero : ∀ l, link.queueVehicles l = 0) : Coupled w link pool where
  pool_valid := empty.valid
  queue l := by
    rw [zero, ActiveAgentPool.residents, ActiveAgentPool.agents_zero _ empty.none_alive, Nat.cast_zero]

section Ready

variable {pool pool' : ActiveAgentPool cap}

theorem residents_of_place (alive : ∀ i, pool'.alive i = pool.alive i)
    (place : ∀ i, (pool'.slots i).currentLinkId = (pool.slots i).currentLinkId) (linkId : ℤ) :
    pool'.residents linkId = pool.residents linkId :=
  ActiveAgentPool.agents_congr _ fun i => by
    rw [place, show (pool'.slots i).alive = (pool.slots i).alive from alive i]

/-- The admission pass so far: every queue increment has its new agent. -/
structure Enrolled (pool : ActiveAgentPool cap) (s : AdmissionPass cap) : Prop where
  pool_valid : s.pool.Valid
  residents : ∀ linkId,
    s.pool.residents linkId = pool.residents linkId + s.sourceQueueIncrements.count linkId

theorem Enrolled.admitted {link : LinkState n} {lookup : TurnLookup m} {trip : TripRequest}
    {s s' : AdmissionPass cap} {i : Fin cap} {path : List ℤ} {sourceLinkId destinationNodeId : ℤ}
    (h : Enrolled pool s)
    (a : Admitted w link lookup trip s s' i path sourceLinkId destinationNodeId) :
    Enrolled pool s' where
  pool_valid := h.pool_valid.allocated a.stack a.alive_count a.slots rfl ⟨le_refl 0, zero_le_one⟩
  residents linkId := by
    have free : (s.pool.slots i).alive = false := h.pool_valid.stack_free i (by simp [a.stack])
    have moved := ActiveAgentPool.agents_of_slot (fun slot => slot.currentLinkId = linkId) a.slots
    simp only [free, Bool.false_eq_true, false_and, if_false, Nat.add_zero,
      ActiveAgentSlot.spawn, true_and] at moved
    rw [a.increments, List.count_cons, ActiveAgentPool.residents, moved, ← ActiveAgentPool.residents,
      h.residents, Nat.add_assoc]
    simp

theorem enrolled_of_admission {tick : ℕ} {routes : SimulationRouteCacheState p n}
    {link : LinkState n} {lookup : TurnLookup m} {demand : DemandState} {s : AdmissionPass cap}
    (valid : pool.Valid) (h : admitActivatedTrips w tick routes link lookup pool demand = .ok s) :
    Enrolled pool s := by
  refine fold_invariant (I := Enrolled pool) (fun trip _ s s' enrolled step => ?_)
    ⟨valid, fun _ => rfl⟩ h
  rcases admit_trip_ok step with rfl | ⟨_, rfl⟩ | ⟨i, path, source, destination, a⟩
  · exact enrolled
  · exact ⟨enrolled.pool_valid, enrolled.residents⟩
  · exact enrolled.admitted a

theorem KeepsAgents.valid {lookup : TurnLookup m} (h : KeepsAgents w.net lookup pool pool')
    (valid : pool.Valid) : pool'.Valid := by
  refine valid.of_same h.stack h.alive_count (fun i => ?_) fun i => ?_
  · obtain ⟨_, same⟩ := h.slots i
    rw [ActiveAgentPool.alive, same, ActiveAgentPool.alive]
  · obtain ⟨_, same⟩ := h.slots i
    rw [same]
    exact valid.progress_unit i

theorem KeepsAgents.residents {lookup : TurnLookup m} (h : KeepsAgents w.net lookup pool pool')
    (linkId : ℤ) : pool'.residents linkId = pool.residents linkId := by
  refine residents_of_place (fun i => ?_) (fun i => ?_) linkId
  · obtain ⟨_, same⟩ := h.slots i
    rw [ActiveAgentPool.alive, same, ActiveAgentPool.alive]
  · obtain ⟨_, same⟩ := h.slots i
    rw [same]

theorem Progresses.valid {skip : Finset (Fin cap)} (h : Progresses w skip pool pool')
    (valid : pool.Valid) : pool'.Valid := by
  refine valid.of_same h.stack h.alive_count (fun i => ?_) fun i =>
    h.unit i (valid.progress_unit i)
  obtain ⟨_, same⟩ := h.slot_eq i
  rw [ActiveAgentPool.alive, same, ActiveAgentPool.alive]

theorem Progresses.residents {skip : Finset (Fin cap)} (h : Progresses w skip pool pool')
    (linkId : ℤ) : pool'.residents linkId = pool.residents linkId := by
  refine residents_of_place (fun i => ?_) (fun i => ?_) linkId
  · obtain ⟨_, same⟩ := h.slot_eq i
    rw [ActiveAgentPool.alive, same, ActiveAgentPool.alive]
  · obtain ⟨_, same⟩ := h.slot_eq i
    rw [same]

theorem ReadyParts.Of.coupled {due : SimulationState p n m cap} {parts : ReadyParts p n m cap}
    (h : parts.Of w due) (start : Coupled w due.flow.linkState due.pool) :
    Coupled w parts.link parts.progressed := by
  have enrolled := enrolled_of_admission start.pool_valid h.admitted
  have rerouted := apply_reroute_policy_keeps h.reroute
  have progressed := advance_progress_ok h.progress
  obtain ⟨queue, _⟩ := apply_source_queue_increments_ok h.queued
  refine ⟨progressed.valid (rerouted.valid enrolled.pool_valid), fun l => ?_⟩
  rw [queue, start.queue, progressed.residents, rerouted.residents, enrolled.residents, Nat.cast_add]

end Ready

section Ledger

variable {node : NodeState n m} {lookup : TurnLookup m} {skip : Finset (Fin cap)}
  {s s' first : CommitPass n m cap} {i : Fin cap}

/-- The agents a link will have once all tokens are handed out. -/
def CommitPass.destined (net : RoadNetworkCSR p n m) (node : NodeState n m) (s : CommitPass n m cap)
    (l : Fin n) : ℚ :=
  s.pool.residents (net.links l).linkId -
    (segmentSum (fun t => (s.remainingTurnTokens t : ℚ)) node.turnFromLinkIndex l +
      s.remainingSinkTokens l) +
    segmentSum (fun t => (s.remainingTurnTokens t : ℚ)) node.turnToLinkIndex l

theorem segment_sum_take {tokens : Fin m → ℕ} {t : Fin m} (left : tokens t ≠ 0)
    (indices : Fin m → Fin n) (l : Fin n) :
    segmentSum (fun t' => (Function.update tokens t (tokens t - 1) t' : ℚ)) indices l =
      segmentSum (fun t' => (tokens t' : ℚ)) indices l + if indices t = l then -1 else 0 := by
  have step : segmentSum (Function.update (fun t' => (tokens t' : ℚ)) t (tokens t + -1)) indices l =
      segmentSum (fun t' => (tokens t' : ℚ)) indices l + if indices t = l then -1 else 0 :=
    segment_sum_update t (-1) l
  rw [← step]
  congr 1
  funext t'
  by_cases same : t' = t
  · subst same
    rw [Function.update_self, Function.update_self, Nat.cast_sub (Nat.one_le_iff_ne_zero.mpr left)]
    ring
  · rw [Function.update_of_ne same, Function.update_of_ne same]

theorem Commits.destined_eq (joins : ∀ a b t, lookup a b = some t →
      (w.net.links (node.turnFromLinkIndex t)).linkId = a ∧
        (w.net.links (node.turnToLinkIndex t)).linkId = b)
    (h : Commits w.net lookup skip s i s') (l : Fin n) :
    s'.destined w.net node l = s.destined w.net node l := by
  have ids : ∀ k l, (w.net.links k).linkId = (w.net.links l).linkId ↔ k = l :=
    fun k l => w.net.link_ids_unique.eq_iff
  cases h with
  | waits => rfl
  | moves t nextLinkId settled heads left here next found =>
    obtain ⟨leaves, rfl⟩ := joins _ _ _ found
    have alive : (s.pool.slots i).alive = true := settled.1
    obtain ⟨slot, slots, stays, moves⟩ : ∃ slot,
        (s.advance i t (w.net.links (node.turnToLinkIndex t)).linkId).pool.slots =
          Function.update s.pool.slots i slot ∧ slot.alive = (s.pool.slots i).alive ∧
          slot.currentLinkId = (w.net.links (node.turnToLinkIndex t)).linkId :=
      ⟨_, rfl, rfl, rfl⟩
    have moved := ActiveAgentPool.agents_of_slot
      (fun slot => slot.currentLinkId = (w.net.links l).linkId) slots
    rw [stays, moves] at moved
    simp only [alive, true_and, ← leaves, ids] at moved
    have counted := congrArg (Nat.cast (R := ℚ)) moved
    rw [Nat.cast_add, Nat.cast_add, Nat.cast_ite, Nat.cast_ite, Nat.cast_one, Nat.cast_zero] at counted
    have left : s.remainingTurnTokens t ≠ 0 := left
    unfold CommitPass.destined ActiveAgentPool.residents
    rw [s.advance_turn_tokens, s.advance_sink_tokens, segment_sum_take left, segment_sum_take left]
    split_ifs at counted ⊢ <;> linarith
  | completes l' _ settled heads left final released =>
    obtain ⟨_, _, _, slots, _, turns, sinks, _⟩ := complete_ok released
    have alive : (s.pool.slots i).alive = true := settled.1
    have moved := ActiveAgentPool.agents_of_slot
      (fun slot => slot.currentLinkId = (w.net.links l).linkId) slots
    simp only [alive, true_and, ← w.net.link_id_to_index_some.mp final, ids,
      Bool.false_eq_true, false_and, if_false, Nat.add_zero] at moved
    have left : s.remainingSinkTokens l' ≠ 0 := left
    unfold CommitPass.destined ActiveAgentPool.residents
    rw [turns, sinks, ← moved]
    by_cases same : l' = l
    · subst same
      rw [Function.update_self, Nat.cast_sub (Nat.one_le_iff_ne_zero.mpr left), if_pos rfl]
      push_cast
      ring
    · rw [Function.update_of_ne (Ne.symm same), if_neg same, Nat.add_zero]

theorem Commits.valid {net : RoadNetworkCSR p n m} (h : Commits net lookup skip s i s')
    (valid : s.pool.Valid) : s'.pool.Valid := by
  cases h with
  | waits => exact valid
  | moves t nextLinkId settled =>
    refine valid.of_same rfl rfl (fun j => ?_) fun j => ?_
    · by_cases here : j = i
      · subst here
        simp [CommitPass.advance, ActiveAgentPool.alive]
      · simp [CommitPass.advance, ActiveAgentPool.alive, here]
    · by_cases here : j = i
      · subst here
        simp [CommitPass.advance]
      · simpa [CommitPass.advance, here] using valid.progress_unit j
  | completes l _ settled _ _ _ released =>
    obtain ⟨_, stack, count, slots, _⟩ := complete_ok released
    exact valid.released settled.1 stack count slots

end Ledger

section Tokens

variable {lookup : TurnLookup m} {pool : ActiveAgentPool cap} {skip : Finset (Fin cap)}
  {link : LinkState n} {before node : NodeState n m} {flow : FlowState n m} {k : TokenTick n m}

theorem demanders_le_wants (movement : Movement n m) : demanders w lookup pool skip movement ≤
    (List.finRange cap).countP (wants w.net lookup skip pool movement) := by
  refine List.countP_mono_left fun i _ asks => ?_
  simp only [asksFor, Bool.and_eq_true, decide_eq_true_eq] at asks
  exact wants_iff.mpr ⟨asks.1.1, asks.2⟩

theorem floor_natCast_tolerance (c : ℕ) : ⌊(c : ℚ) + vehicleTolerance⌋ = c := by
  rw [show (c : ℚ) = ((c : ℤ) : ℚ) by push_cast; rfl, Int.floor_intCast_add]
  norm_num [vehicleTolerance]

theorem read_sink_demand_of_counts {counts : Fin n → ℕ} {demand : Fin n → ℤ}
    (written : node.metadata.runtimeSinkDemandByLinkIndex = some (.ofVector fun l => (counts l : ℚ)))
    (read : readSinkDemand node.metadata = .ok demand) (l : Fin n) : demand l = counts l := by
  obtain ⟨values, stored, read⟩ := bind_ok.mp read
  obtain rfl := pure_ok.mp read
  have admitted : ({} : VectorRule).Admits fun l => (counts l : ℚ) :=
    ⟨fun _ _ => Nat.cast_nonneg _, by simp, by simp⟩
  rw [written, metadata_vector_of_vector admitted] at stored
  obtain rfl := Except.ok.inj stored
  simp only [max_eq_left (Nat.cast_nonneg (α := ℚ) (counts l)), floor_natCast_tolerance]

theorem tokens_within_demand (rebuilt : Rebuilt w lookup pool skip before node)
    (phase : FlowPhase w ⟨link, node⟩ flow k) (movement : Movement n m) :
    (firstPass flow.nodeState pool fun l => (k.allocate.sinkFlow l).toNat).remaining movement ≤
      demanders w lookup pool skip movement := by
  cases movement with
  | turn t =>
    have granted := phase.valid.realized_turn_le t
    rw [TokenTick.wholeTurnDemand, phase.turn_demand, rebuilt.turn_demand,
      floor_natCast_tolerance] at granted
    simp only [CommitPass.remaining, firstPass, phase.turn_flow, tokens_of_int]
    omega
  | sink l =>
    have granted := phase.valid.sink_flow_le l
    have counted := congrArg NodeMetadata.runtimeSinkDemandByLinkIndex rebuilt.metadata
    rw [read_sink_demand_of_counts counted phase.sinks] at granted
    simp only [CommitPass.remaining, firstPass]
    omega

theorem commit_lookup (rebuilt : Rebuilt w lookup pool skip before node)
    (phase : FlowPhase w ⟨link, node⟩ flow k) :
    runtimeTurnIndexLookup w.net flow.nodeState = .ok lookup := by
  rw [← rebuilt.turn_lookup]
  refine runtime_lookup_congr w.net (phase.from_kept.trans rebuilt.from_links)
    (phase.to_kept.trans rebuilt.to_links) ?_
  rw [phase.forbidden_kept, rebuilt.metadata]

theorem commit_spends (rebuilt : Rebuilt w lookup pool skip before node)
    (phase : FlowPhase w ⟨link, node⟩ flow k) {last : CommitPass n m cap}
    (slots : (List.finRange cap).foldlM (commitSlot w.net lookup skip)
      (firstPass flow.nodeState pool fun l => (k.allocate.sinkFlow l).toNat) = .ok last)
    (movement : Movement n m) : last.remaining movement = 0 :=
  tokens_spent (fun movement =>
    (tokens_within_demand rebuilt phase movement).trans (demanders_le_wants movement)) slots movement

theorem destined_first (phase : FlowPhase w ⟨link, node⟩ flow k) (start : Coupled w link pool)
    (l : Fin n) :
    (firstPass flow.nodeState pool fun l => (k.allocate.sinkFlow l).toNat).destined
      w.net flow.nodeState l = flow.linkState.queueVehicles l := by
  have turns : ∀ t, ((tokensOf (flow.nodeState.turnFlow t) : ℕ) : ℚ) = k.allocate.realizedTurn t := by
    intro t
    have nonneg := k.allocate_spec.balanced.counted (.turn t)
    rw [phase.turn_flow, tokens_of_int]
    exact_mod_cast Int.toNat_of_nonneg nonneg
  have sinks : (((k.allocate.sinkFlow l).toNat : ℕ) : ℚ) = k.allocate.sinkFlow l := by
    have nonneg := k.allocate_spec.balanced.counted (.sink l)
    exact_mod_cast Int.toNat_of_nonneg nonneg
  have now : k.queueNow l = pool.residents (w.net.links l).linkId :=
    (phase.queue_now l).trans (start.queue l)
  have whole : k.queueNow l = ((pool.residents (w.net.links l).linkId : ℤ) : ℚ) := by
    rw [now, Int.cast_natCast]
  rw [phase.queue_next, phase.valid.queue_next_eq whole, now]
  simp only [CommitPass.destined, firstPass, turns, sinks, phase.from_kept, phase.to_kept,
    TokenTick.outflow, TokenTick.internalOutflow, TokenTick.inflow, phase.from_idx, phase.to_idx]

theorem committed_coupled (phase : FlowPhase w ⟨link, node⟩ flow k) (start : Coupled w link pool)
    {demand : DemandState} {sinkTokens : Fin n → ℕ} {last : CommitPass n m cap}
    {committed : Committed cap}
    (run : CommitRun w flow.nodeState pool demand skip lookup sinkTokens last committed) :
    Coupled w flow.linkState committed.pool := by
  obtain rfl := Except.ok.inj ((read_sink_tokens_of_vector phase.sink_flow).symm.trans run.sinks)
  have valid : last.pool.Valid := fold_invariant (I := fun s : CommitPass n m cap => s.pool.Valid)
    (fun i _ s s' valid step => (commit_slot_ok step).valid valid) start.pool_valid run.slots
  refine ⟨run.pool_eq ▸ valid, fun l => ?_⟩
  have joins := fun a b t => runtime_lookup_joins w.net (a := a) (b := b) (t := t) run.table
  have destined := fold_invariant
    (I := fun s : CommitPass n m cap => s.destined w.net flow.nodeState l =
      flow.linkState.queueVehicles l)
    (fun i _ s s' same step => ((commit_slot_ok step).destined_eq joins l).trans same)
    (destined_first phase start l) run.slots
  rw [← destined, run.pool_eq]
  simp [CommitPass.destined, run.turns_spent, run.sinks_spent, segmentSum]

theorem TickParts.Of.coupled {due s' : SimulationState p n m cap} {parts : TickParts p n m cap}
    (h : parts.Of w due s') (start : Coupled w due.flow.linkState due.pool) :
    Coupled w s'.flow.linkState s'.pool := by
  obtain ⟨k, phase⟩ := advance_flow_ok h.flowed
  obtain ⟨lookup, sinkTokens, last, run⟩ := commit_ok h.commits
  rw [h.after]
  exact committed_coupled phase (h.toOf.coupled start) run

end Tokens

section Runs

theorem DueKeeps.coupled {s due : SimulationState p n m cap} (h : DueKeeps s due)
    (start : Coupled w s.flow.linkState s.pool) : Coupled w due.flow.linkState due.pool := by
  obtain ⟨valid, queue⟩ := start
  refine ⟨h.pool ▸ valid, fun l => ?_⟩
  rw [h.queue, h.pool]
  exact queue l

theorem coupled_step {s s' : SimulationState p n m cap} {input : RunInput}
    (start : Coupled w s.flow.linkState s.pool) (h : advance w s input = .ok s') :
    Coupled w s'.flow.linkState s'.pool := by
  cases advance_ok h with
  | refreshed routes => exact start
  | paused events => exact start
  | ticked events parts _ tick => exact tick.coupled ((due_keeps events).coupled start)

theorem tokens_always_spent {s : SimulationState p n m cap} (input : RunInput) :
    advance w s input ≠ .error .tokensNotReconciled := by
  intro h
  cases advance_error h with
  | early e => cases e
  | rebuild events parts ready h =>
    rcases rebuild_error h with table | fault
    · cases lookup_error table
    · cases fault with
      | agent fault => cases fault
  | flow events parts node ready rebuilt h =>
    rcases advance_flow_error h with ⟨storage, _⟩ | ⟨inner, flow, _⟩
    · cases storage
    · cases flow
  | commit events parts node flow ready rebuilt flowed h =>
    obtain ⟨lookup, rebuilt⟩ := rebuild_ok rebuilt
    obtain ⟨k, phase⟩ := advance_flow_ok flowed
    rcases commit_error h with rust | sinks | table | ⟨sinkTokens, lookup', sinks, table, fails⟩
    · cases rust
    · rw [read_sink_tokens_of_vector phase.sink_flow] at sinks
      cases sinks
    · rw [commit_lookup rebuilt phase] at table
      cases table
    · obtain rfl := Except.ok.inj ((read_sink_tokens_of_vector phase.sink_flow).symm.trans sinks)
      obtain rfl := Except.ok.inj ((commit_lookup rebuilt phase).symm.trans table)
      rcases fails with slot | ⟨last, slots, ⟨movement, left⟩, _⟩
      · obtain ⟨i, _, t, _, failed⟩ := fold_error (I := fun _ => True)
          (fun _ _ _ _ _ _ => trivial) trivial slot
        cases commit_slot_error failed with
        | agent fault => cases fault
      · exact left (commit_spends rebuilt phase slots movement)

/-- From an empty pool and empty queues, after every step of every run the queue of
a link is the number of agents on it, and no step is left with tokens. -/
theorem queues_count_agents {s s' : SimulationState p n m cap}
    {steps : List (Taken (SimulationState p n m cap) RunInput)} (empty : s.pool.Empty)
    (zero : ∀ l, s.flow.linkState.queueVehicles l = 0) (run : Trace (advance w) s steps s') :
    (∀ taken ∈ steps, ∀ l, taken.after.flow.linkState.queueVehicles l =
        taken.after.pool.residents (w.net.links l).linkId) ∧
      ∀ input, advance w s' input ≠ .error .tokensNotReconciled := by
  refine ⟨run.forall_steps (I := fun s => Coupled w s.flow.linkState s.pool)
    (.empty empty zero) (fun _ _ _ => coupled_step) ?_, tokens_always_spent⟩
  exact fun _ _ _ start step => (coupled_step start step).queue

end Runs

/-- A short link and a long one in a row, both with room for two vehicles. -/
def corridor : RoadNetworkCSR 3 2 1 where
  nodes := ![⟨0⟩, ⟨1⟩, ⟨2⟩]
  links := ![
    { linkId := 10, srcNodeId := 0, dstNodeId := 1, lengthM := 20, freeFlowSpeedMps := 20,
      capacityVehPerTick := 1, ends_differ := Lib.ids_zero_one, length_pos := by norm_num,
      speed_pos := by norm_num, capacity_nonneg := Lib.one_nonneg, lanes_pos := Lib.one_lane },
    { linkId := 11, srcNodeId := 1, dstNodeId := 2, lengthM := 20, freeFlowSpeedMps := 10,
      capacityVehPerTick := 1, ends_differ := Lib.ids_one_two, length_pos := by norm_num,
      speed_pos := Lib.ten_pos, capacity_nonneg := Lib.one_nonneg, lanes_pos := Lib.one_lane }]
  turns := ![
    { fromLinkId := 10, toLinkId := 11, turnType := .through, priority_nonneg := Lib.one_nonneg }]
  linkSrcNodeIndex := ![0, 1]
  linkDstNodeIndex := ![1, 2]
  turnFromLinkIndex := ![0]
  turnToLinkIndex := ![1]
  node_ids_unique := City.three_nodes_unique
  link_ids_unique := by decide
  src_node := by decide
  dst_node := by decide
  from_link := by decide
  to_link := by decide
  turn_adjacent := by decide
  legal_pairs_unique := by decide
  crossing_links := by simp

def corridorWorld : World 3 2 1 where
  config := {
    trafficModel := .spatialQueueV1
    tick_seconds_pos := Lib.second_pos
    jam_spacing_range := by norm_num
    spatial_baseline := fun _ => rfl
    candidates_pos := Lib.one_lane
    hops_pos := by norm_num
    interval_pos := by norm_num
    gamma_nonneg := Lib.nothing_nonneg }
  net := corridor
  pois := [⟨100, 0⟩, ⟨101, 1⟩, ⟨102, 2⟩]

/-- A trip over both links, and one over the second link that departs with it. -/
def corridorTrips : List TripRequest := [
  { tripRequestId := 1, citizenId := 1, originPoiId := 100, destPoiId := 102,
    plannedDepartTick := 1, pois_differ := by norm_num },
  { tripRequestId := 2, citizenId := 2, originPoiId := 101, destPoiId := 102,
    plannedDepartTick := 1, pois_differ := by norm_num }]

def corridorStart : SimulationState 3 2 1 2 :=
  buildInitialSimulationState corridorWorld corridorTrips

theorem corridor_run : ∃ steps s', Trace (advance corridorWorld) corridorStart steps s' ∧
    steps.length = 4 := by
  obtain ⟨s', run⟩ := ok_of_is_ok (x := (List.replicate 4 (RunInput.step {})).foldlM
    (advance corridorWorld) corridorStart) (by decide +kernel)
  obtain ⟨steps, trace, inputs⟩ := trace_of_fold run
  exact ⟨steps, s', trace, by simpa using congrArg List.length inputs⟩

theorem queues_count_agents_corridor :
    ∃ steps s', Trace (advance corridorWorld) corridorStart steps s' ∧ steps.length = 4 ∧
      (∀ taken ∈ steps, ∀ l, taken.after.flow.linkState.queueVehicles l =
        taken.after.pool.residents (corridor.links l).linkId) ∧
      ∀ input, advance corridorWorld s' input ≠ .error .tokensNotReconciled := by
  obtain ⟨steps, s', trace, length⟩ := corridor_run
  exact ⟨steps, s', trace, length,
    queues_count_agents (ActiveAgentPool.create_empty 2) (fun _ => rfl) trace⟩

end Metroflow.Sim
