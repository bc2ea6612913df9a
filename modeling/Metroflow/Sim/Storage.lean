import Metroflow.Sim.Coupling

namespace Metroflow.Sim

open Metroflow.Lib Metroflow.City Metroflow.Flow Metroflow.Demand

variable {p n m cap : ℕ} {w : World p n m} {storage : Fin n → ℤ} {link : LinkState n}

/-- A link state that stores a whole bound of at least one vehicle for every link,
with no queue over its own. -/
structure Housed (storage : Fin n → ℤ) (link : LinkState n) : Prop where
  room : ∀ l, 1 ≤ storage l
  stored : link.metadata.storageCapacityVehicles = some (.ofVector fun l => (storage l : ℚ))
  within : ∀ l, link.queueVehicles l ≤ storage l

theorem le_of_le_add_tolerance {a b : ℤ} (h : (a : ℚ) ≤ b + vehicleTolerance) : a ≤ b := by
  have tolerance : vehicleTolerance = 1 / 1000000 := rfl
  have below : (a : ℚ) < b + 1 := by linarith
  have below : a < b + 1 := by exact_mod_cast below
  omega

namespace Housed

theorem storage_vector (h : Housed storage link) :
    link.storageVector = some fun l => .finite (storage l) := by
  simp [LinkState.storageVector, h.stored]

theorem readable (h : Housed storage link) :
    readStorageCapacity link.metadata.storageCapacityVehicles
      (fun l => max (link.queueVehicles l) 0) = .ok (some fun l => (storage l : ℚ)) := by
  rw [h.stored]
  refine read_storage_of_vector _ _ (fun l => by exact_mod_cast h.room l) fun l => ?_
  have tolerance : (0 : ℚ) ≤ vehicleTolerance := by norm_num [vehicleTolerance]
  rw [max_eq_left (link.queue_nonneg l)]
  linarith [h.within l]

end Housed

section Phases

variable {pool : ActiveAgentPool cap}

theorem Admitted.within {lookup : TurnLookup m} {trip : TripRequest} {s s' : AdmissionPass cap}
    {i : Fin cap} {path : List ℤ} {sourceLinkId destinationNodeId : ℤ}
    (a : Admitted w link lookup trip s s' i path sourceLinkId destinationNodeId)
    (spatial : w.config.trafficModel = .spatialQueueV1) (start : Coupled w link pool)
    (housed : Housed storage link)
    (before : ∀ l, link.queueVehicles l + s.sourceQueueIncrements.count (w.net.links l).linkId ≤
      storage l) (l : Fin n) :
    link.queueVehicles l + s'.sourceQueueIncrements.count (w.net.links l).linkId ≤ storage l := by
  rw [a.increments, List.count_cons]
  by_cases source : sourceLinkId = (w.net.links l).linkId
  · obtain ⟨entries, l', stored, known, _, places⟩ := a.room spatial
    obtain rfl := Option.some.inj (housed.storage_vector.symm.trans stored)
    obtain rfl : l' = l :=
      w.net.link_ids_unique ((w.net.link_id_to_index_some.mp known).trans source)
    rw [source, start.queue] at places
    simp only [source, beq_self_eq_true, if_true, start.queue, MetaNum.value_finite] at places ⊢
    have whole := le_of_le_add_tolerance (a := pool.residents (w.net.links l').linkId +
      s.sourceQueueIncrements.count (w.net.links l').linkId + 1) (b := storage l')
      (by push_cast; exact places)
    rw [Nat.cast_add, Nat.cast_one, ← add_assoc]
    exact_mod_cast whole
  · simpa [source] using before l

theorem increments_within {tick : ℕ} {routes : SimulationRouteCacheState p n}
    {lookup : TurnLookup m} {demand : DemandState} {s : AdmissionPass cap}
    (spatial : w.config.trafficModel = .spatialQueueV1) (start : Coupled w link pool)
    (housed : Housed storage link)
    (h : admitActivatedTrips w tick routes link lookup pool demand = .ok s) (l : Fin n) :
    link.queueVehicles l + s.sourceQueueIncrements.count (w.net.links l).linkId ≤ storage l := by
  refine fold_invariant (I := fun s : AdmissionPass cap => ∀ l,
    link.queueVehicles l + s.sourceQueueIncrements.count (w.net.links l).linkId ≤ storage l)
    (fun trip _ s s' before step => ?_) (fun l => by simpa using housed.within l) h l
  rcases admit_trip_ok step with rfl | ⟨_, rfl⟩ | ⟨i, path, source, destination, a⟩
  · exact before
  · exact before
  · exact a.within spatial start housed before

theorem ReadyParts.Of.housed {due : SimulationState p n m cap} {parts : ReadyParts p n m cap}
    (h : parts.Of w due) (spatial : w.config.trafficModel = .spatialQueueV1)
    (start : Coupled w due.flow.linkState due.pool) (housed : Housed storage due.flow.linkState) :
    Housed storage parts.link := by
  obtain ⟨queue, metadata, _⟩ := apply_source_queue_increments_ok h.queued
  refine ⟨housed.room, by rw [metadata]; exact housed.stored, fun l => ?_⟩
  rw [queue]
  exact increments_within spatial start housed h.admitted l

theorem FlowPhase.housed {node : NodeState n m} {flow : FlowState n m} {k : TokenTick n m}
    (phase : FlowPhase w ⟨link, node⟩ flow k) (spatial : w.config.trafficModel = .spatialQueueV1)
    (start : Coupled w link pool) (housed : Housed storage link) :
    Housed storage flow.linkState := by
  refine ⟨housed.room, by rw [phase.storage_kept]; exact housed.stored, fun l => ?_⟩
  have bound := Except.ok.inj ((phase.stored spatial).symm.trans housed.readable)
  have fits := phase.valid.queue_next_le_storage bound l
  have now : k.queueNow l = ((pool.residents (w.net.links l).linkId : ℤ) : ℚ) := by
    rw [phase.queue_now, start.queue, Int.cast_natCast]
  obtain ⟨q, whole⟩ := phase.valid.queue_next_whole now
  rw [phase.queue_next]
  rw [whole] at fits ⊢
  exact_mod_cast le_of_le_add_tolerance fits

end Phases

section Runs

variable {s s' : SimulationState p n m cap}

theorem DueKeeps.housed {due : SimulationState p n m cap} (h : DueKeeps s due)
    (housed : Housed storage s.flow.linkState) : Housed storage due.flow.linkState :=
  ⟨housed.room, by rw [h.storage]; exact housed.stored, by rw [h.queue]; exact housed.within⟩

theorem housed_step (spatial : w.config.trafficModel = .spatialQueueV1) {input : RunInput}
    (start : Coupled w s.flow.linkState s.pool) (housed : Housed storage s.flow.linkState)
    (h : advance w s input = .ok s') : Housed storage s'.flow.linkState := by
  cases advance_ok h with
  | refreshed routes => exact housed
  | paused events => exact housed
  | ticked events parts _ tick =>
    have due : DueKeeps s (dueState w s events) := due_keeps events
    have coupled := due.coupled start
    obtain ⟨k, phase⟩ := advance_flow_ok tick.flowed
    rw [tick.after]
    exact phase.housed spatial (tick.toOf.coupled coupled)
      (tick.toOf.housed spatial coupled (due.housed housed))

/-- With its queues within their bounds no step is refused for a queue that is not. -/
theorem storage_errors_unreachable (spatial : w.config.trafficModel = .spatialQueueV1)
    (start : Coupled w s.flow.linkState s.pool) (housed : Housed storage s.flow.linkState)
    (input : RunInput) :
    advance w s input ≠ .error (.flow .queueExceedsStorage) ∧
      advance w s input ≠ .error (.flow .storageExceeded) := by
  suffices general : ∀ inner, advance w s input = .error (.flow inner) →
      inner = .rustDiscreteAuthority ∨ ReadFault inner by
    constructor
    · intro h
      rcases general _ h with rust | fault
      · cases rust
      · cases fault
    · intro h
      rcases general _ h with rust | fault
      · cases rust
      · cases fault
  intro inner h
  cases advance_error h with
  | early early =>
    cases early
    exact .inr (.shape _ _)
  | rebuild events parts ready h =>
    rcases rebuild_error h with table | fault
    · cases lookup_error table
      exact .inr (.shape _ _)
    · cases fault with
      | agent fault => cases fault
  | flow events parts node ready rebuilt h =>
    have due : DueKeeps s (dueState w s events) := due_keeps events
    have readable := (ready.housed spatial (due.coupled start) (due.housed housed)).readable
    rcases advance_flow_error h with ⟨storage, _⟩ | ⟨found, same, failed⟩
    · cases storage
    · obtain rfl := SimError.flow.inj same
      rw [if_pos spatial] at failed
      rcases update_link_node_flow_error failed with rust | fault | unread
      · exact .inl rust
      · exact .inr fault
      · cases readable.symm.trans unread
  | commit events parts node flow ready rebuilt flowed h =>
    obtain ⟨k, phase⟩ := advance_flow_ok flowed
    rcases commit_error h with rust | sinks | table | ⟨_, _, _, _, slot | ⟨_, _, _, left⟩⟩
    · cases rust
    · rw [read_sink_tokens_of_vector phase.sink_flow] at sinks
      cases sinks
    · cases lookup_error table
      exact .inr (.shape _ _)
    · obtain ⟨i, _, t, _, failed⟩ := fold_error (I := fun _ => True)
        (fun _ _ _ _ _ _ => trivial) trivial slot
      cases commit_slot_error failed with
      | agent fault => cases fault
    · cases left

/-- In the spatial mode, from an empty pool and empty queues, no queue ever exceeds
the storage of its link: neither once the trips of a tick are admitted, nor after its
flow update, nor at its end; so the two errors for such a queue never occur. -/
theorem storage_never_exceeded (spatial : w.config.trafficModel = .spatialQueueV1)
    {steps : List (Taken (SimulationState p n m cap) RunInput)} (empty : s.pool.Empty)
    (zero : ∀ l, s.flow.linkState.queueVehicles l = 0) (room : ∀ l, 1 ≤ storage l)
    (stored : s.flow.linkState.metadata.storageCapacityVehicles =
      some (.ofVector fun l => (storage l : ℚ)))
    (run : Trace (advance w) s steps s') :
    (∀ l, s'.flow.linkState.queueVehicles l ≤ storage l) ∧
      (∀ events ready prepared,
        prepareRuntimeRoutingState w (dueState w s' events) = .ok (ready, prepared) →
          (∀ l, ready.flow.linkState.queueVehicles l ≤ storage l) ∧
          ∀ flow, advanceFlowState w ready.flow = .ok flow →
            ∀ l, flow.linkState.queueVehicles l ≤ storage l) ∧
      ∀ input, advance w s' input ≠ .error (.flow .queueExceedsStorage) ∧
        advance w s' input ≠ .error (.flow .storageExceeded) := by
  have start : Housed storage s.flow.linkState :=
    ⟨room, stored, fun l => by
      rw [zero]
      exact_mod_cast zero_le_one.trans (room l)⟩
  obtain ⟨coupled, housed⟩ := run.invariant
    (I := fun s => Coupled w s.flow.linkState s.pool ∧ Housed storage s.flow.linkState)
    ⟨.empty empty zero, start⟩
    (fun _ _ _ held step => ⟨coupled_step held.1 step, housed_step spatial held.1 held.2 step⟩)
  refine ⟨housed.within, fun events ready prepared prepares => ?_,
    storage_errors_unreachable spatial coupled housed⟩
  have due : DueKeeps s' (dueState w s' events) := due_keeps events
  obtain ⟨parts, node, readies, _, rfl, rfl⟩ := prepare_ok prepares
  have admitted := readies.housed spatial (due.coupled coupled) (due.housed housed)
  refine ⟨admitted.within, fun flow flowed => ?_⟩
  obtain ⟨k, phase⟩ := advance_flow_ok flowed
  exact (phase.housed spatial (readies.coupled (due.coupled coupled)) admitted).within

end Runs

theorem storage_never_exceeded_corridor :
    ∃ steps s', Trace (advance corridorWorld) corridorStart steps s' ∧ steps.length = 4 ∧
      (∀ l, s'.flow.linkState.queueVehicles l ≤
        computeLinkStorageCapacity corridor corridorWorld.config.jamSpacingM l) ∧
      (∀ events ready prepared,
        prepareRuntimeRoutingState corridorWorld (dueState corridorWorld s' events) =
            .ok (ready, prepared) →
          (∀ l, ready.flow.linkState.queueVehicles l ≤
            computeLinkStorageCapacity corridor corridorWorld.config.jamSpacingM l) ∧
          ∀ flow, advanceFlowState corridorWorld ready.flow = .ok flow →
            ∀ l, flow.linkState.queueVehicles l ≤
              computeLinkStorageCapacity corridor corridorWorld.config.jamSpacingM l) ∧
      ∀ input, advance corridorWorld s' input ≠ .error (.flow .queueExceedsStorage) ∧
        advance corridorWorld s' input ≠ .error (.flow .storageExceeded) := by
  obtain ⟨steps, s', trace, length⟩ := corridor_run
  exact ⟨steps, s', trace, length, storage_never_exceeded rfl (ActiveAgentPool.create_empty 2)
    (fun _ => rfl) (storage_capacity_pos corridor _) rfl trace⟩

end Metroflow.Sim
