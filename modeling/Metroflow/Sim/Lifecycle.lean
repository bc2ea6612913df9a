import Metroflow.Sim.Coupling

namespace Metroflow.Sim

open Metroflow.Lib Metroflow.City Metroflow.Flow Metroflow.Demand

variable {p n m cap : ℕ} {w : World p n m}

namespace DemandState

def tripIds (d : DemandState) : List ℤ := d.tripRequests.map TripRequest.tripRequestId

def generatedTripIds (d : DemandState) : Finset ℤ := d.tripIds.toFinset

def waiting (d : DemandState) (trip : TripRequest) : Bool :=
  d.unassigned trip.tripRequestId && decide (trip.status ≠ .canceled)

/-- The requests still to be admitted. -/
def pendingTripIds (d : DemandState) : Finset ℤ :=
  ((d.tripRequests.filter d.waiting).map TripRequest.tripRequestId).toFinset

/-- A trip that has been allocated and is neither completed nor failed. -/
def Underway (d : DemandState) (tripId : ℤ) : Prop :=
  tripId ∈ d.generatedTripIds ∧ tripId ∈ d.allocatedTripRequestIds ∧
    tripId ∉ d.completedTripRequestIds ∧ tripId ∉ d.failedTripRequestIds

instance (d : DemandState) (tripId : ℤ) : Decidable (d.Underway tripId) :=
  inferInstanceAs (Decidable (_ ∧ _ ∧ _ ∧ _))

/-- The declared number of pending requests, where there is one, is the derived one. -/
def PendingDeclared (d : DemandState) : Prop :=
  d.pendingTripRequests.getD d.pendingTripIds.card = d.pendingTripIds.card

instance (d : DemandState) : Decidable d.PendingDeclared := inferInstanceAs (Decidable (_ = _))

theorem mem_generated {d : DemandState} {tripId : ℤ} :
    tripId ∈ d.generatedTripIds ↔ ∃ trip ∈ d.tripRequests, trip.tripRequestId = tripId := by
  simp [generatedTripIds, tripIds]

theorem unassigned_iff {d : DemandState} {tripId : ℤ} : d.unassigned tripId = true ↔
    tripId ∉ d.allocatedTripRequestIds ∧ tripId ∉ d.completedTripRequestIds ∧
      tripId ∉ d.failedTripRequestIds := by
  simp [unassigned, and_assoc]

theorem mem_pending {d : DemandState} (uncanceled : ∀ trip ∈ d.tripRequests, trip.status ≠ .canceled)
    {tripId : ℤ} :
    tripId ∈ d.pendingTripIds ↔ tripId ∈ d.generatedTripIds ∧ d.unassigned tripId = true := by
  simp only [pendingTripIds, List.mem_toFinset, List.mem_map, List.mem_filter, mem_generated]
  constructor
  · rintro ⟨trip, ⟨listed, waits⟩, rfl⟩
    exact ⟨⟨trip, listed, rfl⟩, (Bool.and_eq_true_iff.mp waits).1⟩
  · rintro ⟨⟨trip, listed, rfl⟩, unassigned⟩
    exact ⟨trip, ⟨listed, by simp [waiting, unassigned, uncanceled trip listed]⟩, rfl⟩

theorem count_waiting (d : DemandState) (trips : List TripRequest) :
    (trips.countP fun trip => d.unassigned trip.tripRequestId && decide (trip.status = .queued)) +
        (trips.countP fun trip =>
          d.unassigned trip.tripRequestId && decide (trip.status = .activated)) =
      trips.countP d.waiting := by
  induction trips with
  | nil => rfl
  | cons trip trips ih =>
    simp only [List.countP_cons]
    cases open_trip : d.unassigned trip.tripRequestId <;> cases status : trip.status <;>
      simp [waiting, open_trip, status] at ih ⊢ <;> omega

theorem with_lifecycle_counts_declared {d : DemandState} (unique : d.tripIds.Nodup) :
    d.withLifecycleCounts.PendingDeclared := by
  have distinct : ((d.tripRequests.filter d.waiting).map TripRequest.tripRequestId).Nodup :=
    unique.sublist (List.filter_sublist.map _)
  have counted : d.pendingTripIds.card = d.tripRequests.countP d.waiting := by
    rw [pendingTripIds, List.toFinset_card_of_nodup distinct, List.length_map,
      List.countP_eq_length_filter]
  have same : d.withLifecycleCounts.pendingTripIds = d.pendingTripIds := rfl
  rw [PendingDeclared, same, counted]
  exact count_waiting d d.tripRequests

end DemandState

/-- The trips of the alive slots. -/
def ActiveAgentPool.activeTripIds (pool : ActiveAgentPool cap) : Finset ℤ :=
  (Finset.univ.filter fun i => (pool.slots i).alive = true).image fun i => (pool.slots i).tripId

/-- The books of the trips: those underway, and only those, own a slot, each one. -/
structure Ledger (d : DemandState) (pool : ActiveAgentPool cap) : Prop where
  pool_valid : pool.Valid
  unique : d.tripIds.Nodup
  uncanceled : ∀ trip ∈ d.tripRequests, trip.status ≠ .canceled
  completed_generated : d.completedTripRequestIds ⊆ d.generatedTripIds
  failed_generated : d.failedTripRequestIds ⊆ d.generatedTripIds
  apart : Disjoint d.completedTripRequestIds d.failedTripRequestIds
  owned : ∀ tripId, pool.owners tripId = if d.Underway tripId then 1 else 0

namespace Ledger

variable {d d' : DemandState} {pool pool' : ActiveAgentPool cap} {i : Fin cap} {tripId : ℤ}

theorem underway_of_alive (h : Ledger d pool) (alive : (pool.slots i).alive = true) :
    d.Underway (pool.slots i).tripId := by
  have some : 0 < pool.agents fun slot => slot.tripId = (pool.slots i).tripId :=
    ActiveAgentPool.agents_pos _ alive rfl
  rw [← ActiveAgentPool.owners, h.owned] at some
  by_contra idle
  simp [idle] at some

theorem active_iff (h : Ledger d pool) : tripId ∈ pool.activeTripIds ↔ d.Underway tripId := by
  simp only [ActiveAgentPool.activeTripIds, Finset.mem_image, Finset.mem_filter, Finset.mem_univ,
    true_and]
  constructor
  · rintro ⟨i, alive, rfl⟩
    exact h.underway_of_alive alive
  · intro underway
    have one := h.owned tripId
    rw [if_pos underway] at one
    obtain ⟨i, found⟩ := Finset.card_pos.mp (one ▸ Nat.one_pos)
    exact ⟨i, (Finset.mem_filter.mp found).2⟩

theorem single_owner (h : Ledger d pool) {j : Fin cap} (first : (pool.slots i).alive = true)
    (second : (pool.slots j).alive = true) (same : (pool.slots i).tripId = (pool.slots j).tripId) :
    i = j := by
  have one : pool.owners (pool.slots j).tripId ≤ 1 := by
    rw [h.owned]
    split <;> simp
  exact Finset.card_le_one.mp one i (by simp [first, same]) j (by simp [second])

theorem of_owners (h : Ledger d pool) (valid : pool'.Valid)
    (trips : ∀ i, (pool'.slots i).alive = (pool.slots i).alive ∧
      (pool'.slots i).tripId = (pool.slots i).tripId) : Ledger d pool' where
  pool_valid := valid
  unique := h.unique
  uncanceled := h.uncanceled
  completed_generated := h.completed_generated
  failed_generated := h.failed_generated
  apart := h.apart
  owned tripId := by
    rw [← h.owned tripId]
    exact ActiveAgentPool.agents_congr _ fun i => by rw [(trips i).1, (trips i).2]

theorem of_demand (h : Ledger d pool) (ids : d'.tripIds = d.tripIds)
    (uncanceled : ∀ trip ∈ d'.tripRequests, trip.status ≠ .canceled)
    (allocated : d'.allocatedTripRequestIds = d.allocatedTripRequestIds)
    (completed : d'.completedTripRequestIds = d.completedTripRequestIds)
    (failed : d'.failedTripRequestIds = d.failedTripRequestIds) : Ledger d' pool := by
  have generated : d'.generatedTripIds = d.generatedTripIds := congrArg List.toFinset ids
  refine ⟨h.pool_valid, ids ▸ h.unique, uncanceled, ?_, ?_, ?_, fun tripId => ?_⟩
  · rw [completed, generated]
    exact h.completed_generated
  · rw [failed, generated]
    exact h.failed_generated
  · rw [completed, failed]
    exact h.apart
  · have same : d'.Underway tripId ↔ d.Underway tripId := by
      simp only [DemandState.Underway, generated, allocated, completed, failed]
    rw [h.owned]
    exact if_congr same.symm rfl rfl

end Ledger

section Admission

variable {link : LinkState n} {lookup : TurnLookup m} {s s' : AdmissionPass cap} {trip : TripRequest}
  {i : Fin cap} {path : List ℤ} {sourceLinkId destinationNodeId : ℤ}

theorem Ledger.failed (h : Ledger s.demand s.pool) (listed : trip ∈ s.demand.tripRequests)
    (unassigned : s.demand.unassigned trip.tripRequestId = true) :
    Ledger (s.fail trip.tripRequestId).demand (s.fail trip.tripRequestId).pool := by
  obtain ⟨fresh, incomplete, _⟩ := DemandState.unassigned_iff.mp unassigned
  have generated : trip.tripRequestId ∈ s.demand.generatedTripIds :=
    DemandState.mem_generated.mpr ⟨trip, listed, rfl⟩
  refine ⟨h.pool_valid, h.unique, h.uncanceled, h.completed_generated,
    Finset.insert_subset generated h.failed_generated,
    Finset.disjoint_insert_right.mpr ⟨incomplete, h.apart⟩, fun tripId => ?_⟩
  refine (h.owned tripId).trans (if_congr ?_ rfl rfl)
  -- a request that fails was not allocated, so it was not underway before either
  simp only [DemandState.Underway, AdmissionPass.fail, DemandState.generatedTripIds,
    DemandState.tripIds, Finset.mem_insert, not_or]
  by_cases same : tripId = trip.tripRequestId
  · subst same
    simp [fresh]
  · simp [same]

theorem Ledger.admitted (h : Ledger s.demand s.pool) (listed : trip ∈ s.demand.tripRequests)
    (a : Admitted w link lookup trip s s' i path sourceLinkId destinationNodeId) :
    Ledger s'.demand s'.pool := by
  obtain ⟨fresh, incomplete, unfailed⟩ := DemandState.unassigned_iff.mp a.unassigned
  have generated : trip.tripRequestId ∈ s.demand.generatedTripIds :=
    DemandState.mem_generated.mpr ⟨trip, listed, rfl⟩
  have valid := h.pool_valid.allocated a.stack a.alive_count a.slots rfl ⟨le_refl 0, zero_le_one⟩
  rw [a.demand]
  refine ⟨valid, h.unique, h.uncanceled, h.completed_generated, h.failed_generated, h.apart,
    fun tripId => ?_⟩
  have free : (s.pool.slots i).alive = false := h.pool_valid.stack_free i (by simp [a.stack])
  have moved := ActiveAgentPool.agents_of_slot (fun slot => slot.tripId = tripId) a.slots
  simp only [free, Bool.false_eq_true, false_and, if_false, Nat.add_zero,
    ActiveAgentSlot.spawn, true_and] at moved
  rw [ActiveAgentPool.owners, moved, ← ActiveAgentPool.owners, h.owned]
  simp only [DemandState.Underway, DemandState.generatedTripIds, DemandState.tripIds,
    Finset.mem_insert]
  by_cases same : trip.tripRequestId = tripId
  · subst same
    simp only [DemandState.generatedTripIds, DemandState.tripIds] at generated
    simp [fresh, incomplete, unfailed, generated]
  · simp [same, Ne.symm same]

/-- What the admissions of a tick do to the trips. -/
structure AdmissionKeeps (start : DemandState) (demand : DemandState) : Prop where
  trips : demand.tripRequests = start.tripRequests
  completed : demand.completedTripRequestIds = start.completedTripRequestIds
  failed_grows : start.failedTripRequestIds ⊆ demand.failedTripRequestIds
  from_unassigned : ∀ tripId ∈ demand.allocatedTripRequestIds,
    tripId ∈ start.allocatedTripRequestIds ∨ start.unassigned tripId = true
  unassigned : ∀ tripId, demand.unassigned tripId = true → start.unassigned tripId = true

theorem AdmissionKeeps.failed {start : DemandState} (h : AdmissionKeeps start s.demand)
    (tripId : ℤ) : AdmissionKeeps start (s.fail tripId).demand where
  trips := h.trips
  completed := h.completed
  failed_grows := h.failed_grows.trans (Finset.subset_insert _ _)
  from_unassigned := h.from_unassigned
  unassigned other unassigned := by
    obtain ⟨fresh, incomplete, unfailed⟩ := DemandState.unassigned_iff.mp unassigned
    refine h.unassigned other (DemandState.unassigned_iff.mpr ⟨fresh, incomplete, fun old => ?_⟩)
    exact unfailed (Finset.mem_insert_of_mem old)

theorem AdmissionKeeps.admitted {start : DemandState} (h : AdmissionKeeps start s.demand)
    (a : Admitted w link lookup trip s s' i path sourceLinkId destinationNodeId) :
    AdmissionKeeps start s'.demand := by
  rw [a.demand]
  refine ⟨h.trips, h.completed, h.failed_grows, fun tripId allocated => ?_,
    fun tripId unassigned => ?_⟩
  · rcases Finset.mem_insert.mp allocated with rfl | old
    · exact .inr (h.unassigned _ a.unassigned)
    · exact h.from_unassigned tripId old
  · obtain ⟨fresh, incomplete, unfailed⟩ := DemandState.unassigned_iff.mp unassigned
    exact h.unassigned tripId (DemandState.unassigned_iff.mpr
      ⟨fun old => fresh (Finset.mem_insert_of_mem old), incomplete, unfailed⟩)

theorem admission_ledger {tick : ℕ} {routes : SimulationRouteCacheState p n} {pool : ActiveAgentPool cap}
    {demand : DemandState} (start : Ledger demand pool)
    (h : admitActivatedTrips w tick routes link lookup pool demand = .ok s) :
    Ledger s.demand s.pool ∧ AdmissionKeeps demand s.demand := by
  refine fold_invariant (I := fun s : AdmissionPass cap =>
      Ledger s.demand s.pool ∧ AdmissionKeeps demand s.demand) (fun trip active s s' held step => ?_)
    ⟨start, rfl, rfl, Finset.Subset.refl _, fun _ => .inl, fun _ => id⟩ h
  obtain ⟨ledger, keeps⟩ := held
  have listed : trip ∈ s.demand.tripRequests := keeps.trips ▸ (mem_activated.mp active).1
  rcases admit_trip_ok step with rfl | ⟨unassigned, rfl⟩ | ⟨i, path, source, destination, a⟩
  · exact ⟨ledger, keeps⟩
  · exact ⟨ledger.failed listed unassigned, keeps.failed _⟩
  · exact ⟨ledger.admitted listed a, keeps.admitted a⟩

end Admission

section Commit

variable {net : RoadNetworkCSR p n m} {lookup : TurnLookup m} {skip : Finset (Fin cap)}
  {s s' : CommitPass n m cap} {i : Fin cap} {demand : DemandState}

def DemandState.completing (d : DemandState) (tripIds : Finset ℤ) : DemandState :=
  { d with completedTripRequestIds := d.completedTripRequestIds ∪ tripIds }

/-- The books during the commit; every sink token handed out completed one trip. -/
structure CommitLedger (demand : DemandState) (total : ℕ) (s : CommitPass n m cap) : Prop where
  ledger : Ledger (demand.completing s.completedTripIds) s.pool
  fresh : Disjoint demand.completedTripRequestIds s.completedTripIds
  tokens : s.completedTripIds.card + ∑ l, s.remainingSinkTokens l = total

theorem CommitLedger.commits {total : ℕ} (h : CommitLedger demand total s)
    (commits : Commits net lookup skip s i s') : CommitLedger demand total s' := by
  have valid := commits.valid h.ledger.pool_valid
  cases commits with
  | waits => exact h
  | moves t nextLinkId settled =>
    refine ⟨h.ledger.of_owners valid fun j => ?_, h.fresh, h.tokens⟩
    by_cases here : j = i
    · subst here
      simp [CommitPass.advance]
    · simp [CommitPass.advance, here]
  | completes l _ settled heads left final released =>
    obtain ⟨_, _, _, slots, _, _, sinks, completed⟩ := complete_ok released
    have alive : (s.pool.slots i).alive = true := settled.1
    obtain ⟨generated, _, incomplete, unfailed⟩ := h.ledger.underway_of_alive alive
    obtain ⟨earlier, pending⟩ := Finset.notMem_union.mp incomplete
    have left : s.remainingSinkTokens l ≠ 0 := left
    refine ⟨?_, ?_, ?_⟩
    · rw [completed]
      refine ⟨valid, h.ledger.unique, h.ledger.uncanceled, ?_, h.ledger.failed_generated, ?_,
        fun tripId => ?_⟩
      · simp only [DemandState.completing, Finset.union_insert]
        exact Finset.insert_subset generated h.ledger.completed_generated
      · simp only [DemandState.completing, Finset.union_insert]
        exact Finset.disjoint_insert_left.mpr ⟨unfailed, h.ledger.apart⟩
      · have moved := ActiveAgentPool.agents_of_slot (fun slot => slot.tripId = tripId) slots
        rw [← ActiveAgentPool.owners, ← ActiveAgentPool.owners, h.ledger.owned] at moved
        simp only [alive, true_and, Bool.false_eq_true, false_and, if_false, Nat.add_zero] at moved
        by_cases same : (s.pool.slots i).tripId = tripId
        · rw [if_pos same, ← same, if_pos (h.ledger.underway_of_alive alive)] at moved
          rw [← same, if_neg]
          · omega
          · rintro ⟨_, _, open_trip, _⟩
            exact open_trip (Finset.mem_union_right _ (Finset.mem_insert_self _ _))
        · rw [if_neg same, Nat.add_zero] at moved
          rw [moved]
          refine if_congr ?_ rfl rfl
          simp only [DemandState.Underway, DemandState.completing, DemandState.generatedTripIds,
            DemandState.tripIds, Finset.union_insert, Finset.mem_insert, Ne.symm same, false_or]
    · rw [completed]
      exact Finset.disjoint_insert_right.mpr ⟨earlier, h.fresh⟩
    · rw [completed, sinks, Finset.card_insert_of_notMem pending, ← h.tokens,
        Finset.sum_update_of_mem (Finset.mem_univ l),
        Finset.sum_eq_add_sum_sdiff_singleton_of_mem (Finset.mem_univ l) s.remainingSinkTokens]
      omega

theorem commit_ledger {node : NodeState n m} {pool : ActiveAgentPool cap} {sinkTokens : Fin n → ℕ}
    {last : CommitPass n m cap} {committed : Committed cap} (start : Ledger demand pool)
    (run : CommitRun w node pool demand skip lookup sinkTokens last committed) :
    Ledger committed.demand committed.pool ∧ committed.demand.PendingDeclared ∧
      committed.completedCount = ∑ l, sinkTokens l ∧
      (committed.demand.completedTripRequestIds \ demand.completedTripRequestIds).card =
        ∑ l, sinkTokens l := by
  have first : CommitLedger demand (∑ l, sinkTokens l) (firstPass node pool sinkTokens) := by
    refine ⟨?_, Finset.disjoint_empty_right _, Nat.zero_add _⟩
    simpa [DemandState.completing, firstPass] using start
  obtain ⟨ledger, fresh, tokens⟩ := fold_invariant (I := CommitLedger demand (∑ l, sinkTokens l))
    (fun i _ s s' held step => held.commits (commit_slot_ok step)) first run.slots
  simp only [run.sinks_spent, Finset.sum_const_zero, Nat.add_zero] at tokens
  rw [run.demand_eq, run.pool_eq, run.count_eq]
  refine ⟨ledger.of_demand rfl ledger.uncanceled rfl rfl rfl,
    DemandState.with_lifecycle_counts_declared ledger.unique, tokens, ?_⟩
  rw [← tokens]
  exact congrArg Finset.card (Finset.union_sdiff_cancel_left fresh)

end Commit

section Ticks

variable {s s' due : SimulationState p n m cap}

theorem activate_trips_ids {trips trips' : List TripRequest}
    (h : List.Forall₂ Activated trips trips') :
    trips'.map TripRequest.tripRequestId = trips.map TripRequest.tripRequestId ∧
      ((∀ trip ∈ trips, trip.status ≠ .canceled) → ∀ trip ∈ trips', trip.status ≠ .canceled) := by
  induction h with
  | nil => exact ⟨rfl, id⟩
  | @cons trip trip' trips trips' first rest ih =>
    obtain ⟨ids, uncanceled⟩ := ih
    rcases first with rfl | ⟨_, rfl⟩
    · refine ⟨by simp [ids], fun all => List.forall_mem_cons.mpr ?_⟩
      exact ⟨all _ List.mem_cons_self, uncanceled (List.forall_mem_of_forall_mem_cons all)⟩
    · refine ⟨by simp [ids, TripRequest.activated], fun all => List.forall_mem_cons.mpr ?_⟩
      exact ⟨by simp [TripRequest.activated], uncanceled (List.forall_mem_of_forall_mem_cons all)⟩

theorem DueKeeps.ledger (h : DueKeeps s due) (start : Ledger s.demand s.pool) :
    Ledger due.demand due.pool ∧ due.demand.tripIds = s.demand.tripIds ∧
      due.demand.allocatedTripRequestIds = s.demand.allocatedTripRequestIds ∧
      due.demand.completedTripRequestIds = s.demand.completedTripRequestIds ∧
      due.demand.failedTripRequestIds = s.demand.failedTripRequestIds := by
  rw [h.pool, h.demand]
  unfold activateDueTripRequests
  simp only
  split
  · exact ⟨start, rfl, rfl, rfl, rfl⟩
  · obtain ⟨ids, uncanceled⟩ := activate_trips_ids
      (activate_trip_requests_spec s.demand.tripRequests (s.tickIndex + 1))
    exact ⟨start.of_demand ids (uncanceled start.uncanceled) rfl rfl rfl, ids, rfl, rfl, rfl⟩

/-- How the trips move over one input: none appears or is lost, the completed and
the failed stay so, and only a pending trip gets a slot. -/
structure TripsMoved (s s' : SimulationState p n m cap) : Prop where
  ids : s'.demand.tripIds = s.demand.tripIds
  completed_grows : s.demand.completedTripRequestIds ⊆ s'.demand.completedTripRequestIds
  failed_grows : s.demand.failedTripRequestIds ⊆ s'.demand.failedTripRequestIds
  allocated_pending : ∀ tripId ∈ s'.pool.activeTripIds,
    tripId ∈ s.pool.activeTripIds ∨ tripId ∈ s.demand.pendingTripIds

/-- The tick completed as many trips as it realized sink tokens, and counted them. -/
def CompletesSinkTokens (s s' : SimulationState p n m cap) : Prop :=
  ∃ sinkTokens, readSinkTokens s'.flow.nodeState = .ok sinkTokens ∧
    s'.metadata.completedTripCount = ∑ l, sinkTokens l ∧
    (s'.demand.completedTripRequestIds \ s.demand.completedTripRequestIds).card =
      ∑ l, sinkTokens l

theorem ReadyParts.Of.ledger {parts : ReadyParts p n m cap} (h : parts.Of w due)
    (start : Ledger due.demand due.pool) :
    Ledger parts.admission.demand parts.progressed ∧
      AdmissionKeeps due.demand parts.admission.demand := by
  obtain ⟨admitted, keeps⟩ := admission_ledger start h.admitted
  have rerouted := apply_reroute_policy_keeps h.reroute
  have progressed := advance_progress_ok h.progress
  refine ⟨(admitted.of_owners (rerouted.valid admitted.pool_valid) fun i => ?_).of_owners
    (progressed.valid (rerouted.valid admitted.pool_valid)) fun i => ?_, keeps⟩
  · obtain ⟨_, same⟩ := rerouted.slots i
    simp [same]
  · obtain ⟨_, same⟩ := progressed.slot_eq i
    simp [same]

theorem TickParts.Of.ledger {parts : TickParts p n m cap} (h : parts.Of w due s')
    (start : Ledger due.demand due.pool) :
    Ledger s'.demand s'.pool ∧ s'.demand.PendingDeclared ∧ TripsMoved due s' ∧
      CompletesSinkTokens due s' := by
  obtain ⟨ready, keeps⟩ := h.toOf.ledger start
  obtain ⟨lookup, sinkTokens, last, run⟩ := commit_ok h.commits
  have counted : Ledger parts.admission.demand.withLifecycleCounts parts.progressed :=
    ready.of_demand rfl ready.uncanceled rfl rfl rfl
  obtain ⟨ledger, declared, count, card⟩ := commit_ledger counted run
  have completed : parts.admission.demand.withLifecycleCounts.completedTripRequestIds =
      due.demand.completedTripRequestIds := keeps.completed
  have grows : due.demand.completedTripRequestIds ⊆
      parts.committed.demand.completedTripRequestIds := by
    rw [run.demand_eq, ← completed]
    exact Finset.subset_union_left
  have failed : parts.committed.demand.failedTripRequestIds =
      parts.admission.demand.failedTripRequestIds := by rw [run.demand_eq]; rfl
  have ids : parts.committed.demand.tripIds = due.demand.tripIds := by
    rw [run.demand_eq]
    exact congrArg (List.map TripRequest.tripRequestId) keeps.trips
  rw [h.after]
  refine ⟨ledger, declared, ⟨ids, grows, failed ▸ keeps.failed_grows, fun tripId active => ?_⟩,
    sinkTokens, run.sinks, count, ?_⟩
  · obtain ⟨generated, allocated, incomplete, unfailed⟩ := ledger.active_iff.mp active
    have generated : tripId ∈ due.demand.generatedTripIds := by
      rwa [DemandState.generatedTripIds, ids] at generated
    rw [run.demand_eq] at allocated
    rcases keeps.from_unassigned tripId allocated with old | unassigned
    · exact .inl (start.active_iff.mpr ⟨generated, old, fun done => incomplete (grows done),
        fun lost => unfailed (failed ▸ keeps.failed_grows lost)⟩)
    · exact .inr ((DemandState.mem_pending start.uncanceled).mpr ⟨generated, unassigned⟩)
  · rw [← completed]
    exact card

theorem ledger_step {input : RunInput} (start : Ledger s.demand s.pool)
    (h : advance w s input = .ok s') :
    Ledger s'.demand s'.pool ∧ TripsMoved s s' ∧
      (s.demand.PendingDeclared ∨ input.ticks = true → s'.demand.PendingDeclared) ∧
      (input.ticks = true → CompletesSinkTokens s s') ∧
      (input.ticks = false →
        s'.demand.completedTripRequestIds = s.demand.completedTripRequestIds) := by
  cases kind : input.ticks with
  | false =>
    obtain ⟨pool, demand, _⟩ := advance_idle kind h
    rw [pool, demand]
    refine ⟨start, ⟨congrArg _ demand, ?_, ?_, fun tripId active => .inl (pool ▸ active)⟩,
      fun declared => declared.resolve_right (by simp), fun ticks => absurd ticks (by simp),
      fun _ => rfl⟩
    · rw [demand]
    · rw [demand]
  | true =>
    obtain ⟨events, parts, tick⟩ := advance_ticks kind h
    have keeps := due_keeps (w := w) (s := s) events
    obtain ⟨books, ids, allocated, completed, failed⟩ := keeps.ledger start
    obtain ⟨ledger, declared, moved, tokens⟩ := tick.ledger books
    refine ⟨ledger, ⟨moved.ids.trans ids, completed ▸ moved.completed_grows,
      failed ▸ moved.failed_grows, fun tripId active => ?_⟩, fun _ => declared, fun _ => ?_,
      fun idle => absurd idle (by simp)⟩
    · refine (moved.allocated_pending tripId active).imp (keeps.pool ▸ ·) fun pending => ?_
      obtain ⟨generated, unassigned⟩ := (DemandState.mem_pending books.uncanceled).mp pending
      refine (DemandState.mem_pending start.uncanceled).mpr ⟨?_, ?_⟩
      · rwa [DemandState.generatedTripIds, ids] at generated
      · rwa [DemandState.unassigned, allocated, completed, failed] at unassigned
    · rw [CompletesSinkTokens, ← completed]
      exact tokens

end Ticks

section Runs

variable {s s' : SimulationState p n m cap}

/-- A state whose requests are distinct and none of them underway, with an empty pool. -/
structure TripsOpen (s : SimulationState p n m cap) : Prop where
  empty : s.pool.Empty
  unique : s.demand.tripIds.Nodup
  uncanceled : ∀ trip ∈ s.demand.tripRequests, trip.status ≠ .canceled
  none_underway : ∀ tripId, ¬ s.demand.Underway tripId
  completed_generated : s.demand.completedTripRequestIds ⊆ s.demand.generatedTripIds
  failed_generated : s.demand.failedTripRequestIds ⊆ s.demand.generatedTripIds
  apart : Disjoint s.demand.completedTripRequestIds s.demand.failedTripRequestIds

theorem TripsOpen.ledger (h : TripsOpen s) : Ledger s.demand s.pool where
  pool_valid := h.empty.valid
  unique := h.unique
  uncanceled := h.uncanceled
  completed_generated := h.completed_generated
  failed_generated := h.failed_generated
  apart := h.apart
  owned tripId := by
    rw [if_neg (h.none_underway tripId)]
    exact ActiveAgentPool.agents_zero _ h.empty.none_alive

theorem TripsOpen.initial (w : World p n m) {trips : List TripRequest}
    (unique : (trips.map TripRequest.tripRequestId).Nodup)
    (uncanceled : ∀ trip ∈ trips, trip.status ≠ .canceled) :
    TripsOpen (buildInitialSimulationState w trips : SimulationState p n m cap) where
  empty := ActiveAgentPool.create_empty cap
  unique := unique
  uncanceled := uncanceled
  none_underway tripId := fun underway => Finset.notMem_empty tripId underway.2.1
  completed_generated := Finset.empty_subset _
  failed_generated := Finset.empty_subset _
  apart := Finset.disjoint_empty_left _

/-- The four stages partition the generated trips, and no trip owns two slots. -/
structure TripsPartitioned (s : SimulationState p n m cap) : Prop where
  staged : s.demand.pendingTripIds ∪ s.pool.activeTripIds ∪ s.demand.completedTripRequestIds ∪
    s.demand.failedTripRequestIds = s.demand.generatedTripIds
  apart : [s.demand.pendingTripIds, s.pool.activeTripIds, s.demand.completedTripRequestIds,
    s.demand.failedTripRequestIds].Pairwise Disjoint
  single_owner : ∀ i j, (s.pool.slots i).alive = true → (s.pool.slots j).alive = true →
    (s.pool.slots i).tripId = (s.pool.slots j).tripId → i = j

theorem Ledger.partitioned (h : Ledger s.demand s.pool) : TripsPartitioned s := by
  refine ⟨?_, ?_, fun i j => h.single_owner⟩
  · ext tripId
    simp only [Finset.mem_union, DemandState.mem_pending h.uncanceled, h.active_iff]
    have completed : tripId ∈ s.demand.completedTripRequestIds →
      tripId ∈ s.demand.generatedTripIds := fun done => h.completed_generated done
    have failed : tripId ∈ s.demand.failedTripRequestIds →
      tripId ∈ s.demand.generatedTripIds := fun lost => h.failed_generated lost
    simp only [DemandState.Underway, DemandState.unassigned_iff]
    tauto
  · have pending : ∀ tripId ∈ s.demand.pendingTripIds, s.demand.unassigned tripId = true :=
      fun tripId listed => ((DemandState.mem_pending h.uncanceled).mp listed).2
    have active : ∀ tripId ∈ s.pool.activeTripIds, s.demand.Underway tripId :=
      fun tripId owned => h.active_iff.mp owned
    simp only [List.pairwise_cons, List.mem_cons, List.not_mem_nil, or_false, forall_eq_or_imp,
      forall_eq, Finset.disjoint_left]
    simp only [DemandState.unassigned_iff] at pending
    refine ⟨⟨fun id listed owned => (pending id listed).1 (active id owned).2.1,
      fun id listed => (pending id listed).2.1, fun id listed => (pending id listed).2.2⟩,
      ⟨fun id owned => (active id owned).2.2.1, fun id owned => (active id owned).2.2.2⟩,
      fun id done => Finset.disjoint_left.mp h.apart done, fun _ none => none.elim, .nil⟩

variable {steps : List (Taken (SimulationState p n m cap) RunInput)}

theorem pending_declared (start : Ledger s.demand s.pool) (run : Trace (advance w) s steps s')
    (declared : s.demand.PendingDeclared ∨ ∃ taken ∈ steps, taken.input.ticks = true) :
    s'.demand.PendingDeclared := by
  induction run with
  | done s => exact declared.resolve_right (by simp)
  | next first tail ih =>
    obtain ⟨held, _, counts, _⟩ := ledger_step start first
    refine ih held ?_
    rcases declared with before | ⟨taken, found, ticks⟩
    · exact .inl (counts (.inl before))
    · rcases List.mem_cons.mp found with rfl | later
      · exact .inl (counts (.inr ticks))
      · exact .inr ⟨taken, later, ticks⟩

/-- From distinct open requests and an empty pool, after every run each generated trip
is pending, active in exactly one slot, completed or failed, and the declared pending
count is right once it was at the start or a tick has been executed; no trip ever goes
back, and every tick completes as many trips as it realizes sink tokens. -/
theorem trips_partitioned (start : TripsOpen s) (run : Trace (advance w) s steps s') :
    TripsPartitioned s' ∧
      (s.demand.PendingDeclared ∨ (∃ taken ∈ steps, taken.input.ticks = true) →
        s'.demand.PendingDeclared) ∧
      ∀ taken ∈ steps, TripsMoved taken.before taken.after ∧
        (taken.input.ticks = true → CompletesSinkTokens taken.before taken.after) ∧
        (taken.input.ticks = false → taken.after.demand.completedTripRequestIds =
          taken.before.demand.completedTripRequestIds) := by
  have kept : ∀ (s : SimulationState p n m cap) input s', Ledger s.demand s.pool →
      advance w s input = .ok s' → Ledger s'.demand s'.pool :=
    fun s input s' held step => (ledger_step held step).1
  have books : Ledger s'.demand s'.pool :=
    run.invariant (I := fun s => Ledger s.demand s.pool) start.ledger kept
  refine ⟨books.partitioned, pending_declared start.ledger run,
    run.forall_steps (I := fun s => Ledger s.demand s.pool) start.ledger kept ?_⟩
  intro s input s' held step
  obtain ⟨_, moved, _, tokens, idle⟩ := ledger_step held step
  exact ⟨moved, tokens, idle⟩

theorem trips_partitioned_corridor :
    ∃ steps s', Trace (advance corridorWorld) corridorStart steps s' ∧ steps.length = 4 ∧
      TripsPartitioned s' ∧ s'.demand.PendingDeclared := by
  obtain ⟨steps, s', run, length⟩ := corridor_run
  obtain ⟨partitioned, declared, _⟩ :=
    trips_partitioned (TripsOpen.initial corridorWorld (by decide) (by decide)) run
  exact ⟨steps, s', run, length, partitioned, declared (.inl (by decide))⟩

end Runs

end Metroflow.Sim
