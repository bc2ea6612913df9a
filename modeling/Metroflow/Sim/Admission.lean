import Metroflow.Sim.Init

namespace Metroflow.Sim

open Metroflow.Lib Metroflow.City Metroflow.Flow Metroflow.Routing Metroflow.Demand

variable {p n m cap : ℕ}

/-- The admission pass over the activated requests; an admitted agent leaves
the id of its source link in the list of queue increments. -/
structure AdmissionPass (cap : ℕ) where
  pool : ActiveAgentPool cap
  demand : DemandState
  newlyAllocatedSlotIds : Finset (Fin cap) := ∅
  sourceQueueIncrements : List ℤ := []
  allocatedCount : ℕ := 0
  failedCount : ℕ := 0

namespace AdmissionPass

/-- The request fails: no route leads to its destination. -/
def fail (s : AdmissionPass cap) (tripId : ℤ) : AdmissionPass cap :=
  { s with
    demand := { s.demand with
      failedTripRequestIds := insert tripId s.demand.failedTripRequestIds
      failedTripReasonById := s.demand.failedTripReasonById.insert tripId "no_route_candidate" }
    failedCount := s.failedCount + 1 }

/-- The request's agent enters the pool at the start of its route. -/
def admitTrip (s : AdmissionPass cap) (tick : ℕ) (trip : TripRequest)
    (selection : SelectedCandidateRoute) (destinationNodeId : ℤ) :
    Except SimError (AdmissionPass cap) := do
  let sourceLinkId := selection.path.getD 0 (-1)
  let (pool, slotId) ← allocateActiveAgentSlot s.pool
    (.spawn trip.citizenId trip.tripRequestId sourceLinkId destinationNodeId 0)
  return {
    pool := pool.withMemory slotId {
      routePath := selection.path
      originPoiId := some trip.originPoiId
      destPoiId := some trip.destPoiId
      tripRequestId := some trip.tripRequestId
      runtimeAdmittedTick := some tick
      selected := some selection }
    demand := { s.demand with
      allocatedTripRequestIds := insert trip.tripRequestId s.demand.allocatedTripRequestIds }
    newlyAllocatedSlotIds := insert slotId s.newlyAllocatedSlotIds
    sourceQueueIncrements := sourceLinkId :: s.sourceQueueIncrements
    allocatedCount := s.allocatedCount + 1
    failedCount := s.failedCount }

end AdmissionPass

/-- Whether the source link has room for one more vehicle. -/
def sourceLinkAdmissionAvailable (w : World p n m) (link : LinkState n) (sourceLinkId : ℤ)
    (pendingIncrements : List ℤ) : Except SimError Bool :=
  if w.config.trafficModel ≠ .spatialQueueV1 then .ok true
  else
    match link.storageVector with
    | none => .error .admissionStorage
    | some storage =>
      match w.net.linkIdToIndex sourceLinkId with
      | none => .error (.admissionLink sourceLinkId)
      | some l => .ok ((storage l).isFinite &&
          decide (link.queueVehicles l + pendingIncrements.count sourceLinkId + 1 ≤
            (storage l).value + vehicleTolerance))

section AdmitTrip

variable (w : World p n m) (tick : ℕ) (routes : SimulationRouteCacheState p n) (link : LinkState n)
  (lookup : TurnLookup m)

/-- One activated request: it keeps its state, fails, or gets an agent. -/
def admitTrip (s : AdmissionPass cap) (trip : TripRequest) : Except SimError (AdmissionPass cap) :=
  if s.demand.unassigned trip.tripRequestId = false then .ok s
  -- the full pool ends the loop; as it stays full, the later requests change nothing
  else if s.pool.freeSlotStack = [] then .ok s
  else do
    let od := w.tripOdNodes trip
    let selection ← (selectCandidateRoute w.log w.rust
      (od.bind fun od => routes.candidateSets.lookup od.1) w.config.routePathSizeGamma
      w.config.routingBackend).mapError .routing
    match selection, od with
    | some selection, some (_, _, destinationNodeId) => do
      validateRoutePathAuthority w.net lookup selection.path destinationNodeId
        (.trip trip.tripRequestId)
      let available ← sourceLinkAdmissionAvailable w link (selection.path.getD 0 (-1))
        s.sourceQueueIncrements
      if available then s.admitTrip tick trip selection destinationNodeId else return s
    | _, _ => return s.fail trip.tripRequestId

def admitActivatedTrips (pool : ActiveAgentPool cap) (demand : DemandState) :
    Except SimError (AdmissionPass cap) :=
  (activatedTripRequests demand.tripRequests).foldlM (admitTrip w tick routes link lookup)
    { pool := pool, demand := demand }

end AdmitTrip

/-- The queues with the admitted vehicles, and the travel times that follow. -/
def applySourceQueueIncrements (w : World p n m) (link : LinkState n) (increments : List ℤ) :
    Except SimError (LinkState n) :=
  if increments = [] then .ok link
  else do
    raiseIf (∃ linkId ∈ increments, w.net.linkIdToIndex linkId = none) .allocatedSourceMissing
    let base ← (readLinkBaseTravelTime link).mapError .flow
    let queue := fun l => link.queueVehicles l + increments.count (w.net.links l).linkId
    return { link with
      queueVehicles := queue
      travelTimeCost := updateTravelTimeCost base queue link.effectiveCapacityVehicles
      queue_nonneg := fun l => add_nonneg (link.queue_nonneg l) (Nat.cast_nonneg _)
      travel_time_pos := update_travel_time_pos _ _ _ }

section Spec

variable {w : World p n m} {tick : ℕ} {routes : SimulationRouteCacheState p n} {link : LinkState n}
  {lookup : TurnLookup m} {s s' : AdmissionPass cap} {trip : TripRequest}

/-- Room for one more vehicle at a source link, as the spatial mode asks for it. -/
def HasRoom (w : World p n m) (link : LinkState n) (sourceLinkId : ℤ) (pending : List ℤ) : Prop :=
  w.config.trafficModel = .spatialQueueV1 → ∃ storage l, link.storageVector = some storage ∧
    w.net.linkIdToIndex sourceLinkId = some l ∧ (storage l).isFinite = true ∧
    link.queueVehicles l + pending.count sourceLinkId + 1 ≤ (storage l).value + vehicleTolerance

theorem source_link_admission_ok {sourceLinkId : ℤ} {pending : List ℤ}
    (h : sourceLinkAdmissionAvailable w link sourceLinkId pending = .ok true) :
    HasRoom w link sourceLinkId pending := by
  intro spatial
  unfold sourceLinkAdmissionAvailable at h
  rw [if_neg (not_not.mpr spatial)] at h
  split at h
  · cases h
  · rename_i storage stored
    split at h
    · cases h
    · rename_i l known
      have room := Except.ok.inj h
      rw [Bool.and_eq_true, decide_eq_true_eq] at room
      exact ⟨storage, l, stored, known, room.1, room.2⟩

/-- The agent of an admitted request: its slot, and what the pool remembers of it. -/
structure Admitted (w : World p n m) (link : LinkState n) (lookup : TurnLookup m)
    (trip : TripRequest) (s s' : AdmissionPass cap) (i : Fin cap) (path : List ℤ)
    (sourceLinkId destinationNodeId : ℤ) : Prop where
  unassigned : s.demand.unassigned trip.tripRequestId = true
  route : LegalRoute w.net lookup path destinationNodeId
  source : path[0]? = some sourceLinkId
  room : HasRoom w link sourceLinkId s.sourceQueueIncrements
  stack : s.pool.freeSlotStack = i :: s'.pool.freeSlotStack
  alive_count : s'.pool.aliveCount = s.pool.aliveCount + 1
  slots : s'.pool.slots = Function.update s.pool.slots i
    (.spawn trip.citizenId trip.tripRequestId sourceLinkId destinationNodeId 0)
  memory : ∃ memory, s'.pool.pluginMemory = Function.update s.pool.pluginMemory i (some memory) ∧
    memory.routePath = path ∧ memory.tripRequestId = some trip.tripRequestId
  demand : s'.demand = { s.demand with
    allocatedTripRequestIds := insert trip.tripRequestId s.demand.allocatedTripRequestIds }
  newly : s'.newlyAllocatedSlotIds = insert i s.newlyAllocatedSlotIds
  increments : s'.sourceQueueIncrements = sourceLinkId :: s.sourceQueueIncrements
  allocated : s'.allocatedCount = s.allocatedCount + 1

theorem admit_ok {selection : SelectedCandidateRoute} {destinationNodeId : ℤ}
    (unassigned : s.demand.unassigned trip.tripRequestId = true)
    (route : LegalRoute w.net lookup selection.path destinationNodeId)
    (room : HasRoom w link (selection.path.getD 0 (-1)) s.sourceQueueIncrements)
    (h : s.admitTrip tick trip selection destinationNodeId = .ok s') :
    ∃ i, Admitted w link lookup trip s s' i selection.path (selection.path.getD 0 (-1))
      destinationNodeId := by
  obtain ⟨⟨pool, i⟩, allocated, h⟩ := bind_ok.mp h
  obtain rfl := pure_ok.mp h
  obtain ⟨stack, count, slots, memory⟩ := allocate_ok.mp allocated
  have source : selection.path[0]? = some (selection.path.getD 0 (-1)) := by
    cases path : selection.path with
    | nil =>
      obtain ⟨_, last, _⟩ := route.final
      simp [path] at last
    | cons a rest => simp
  refine ⟨i, unassigned, route, source, room, stack, count, slots, ?_, rfl, rfl, rfl, rfl⟩
  rw [← memory]
  exact ⟨_, rfl, rfl, rfl⟩

theorem admit_trip_ok (h : admitTrip w tick routes link lookup s trip = .ok s') :
    s' = s ∨ s.demand.unassigned trip.tripRequestId = true ∧ s' = s.fail trip.tripRequestId ∨
      ∃ i path sourceLinkId destinationNodeId,
        Admitted w link lookup trip s s' i path sourceLinkId destinationNodeId := by
  unfold admitTrip at h
  split at h
  · exact .inl (Except.ok.inj h).symm
  · rename_i unassigned
    rw [Bool.not_eq_false] at unassigned
    split at h
    · exact .inl (Except.ok.inj h).symm
    · obtain ⟨selection, selected, h⟩ := bind_ok.mp h
      split at h
      · rename_i selection odKey originNodeId destinationNodeId od
        obtain ⟨_, legal, h⟩ := bind_ok.mp h
        obtain ⟨available, room, h⟩ := bind_ok.mp h
        cases available with
        | false => exact .inl (pure_ok.mp h).symm
        | true =>
          obtain ⟨i, admitted⟩ := admit_ok unassigned ((validate_route_ok w.net).mp legal)
            (source_link_admission_ok room) h
          exact .inr (.inr ⟨i, _, _, _, admitted⟩)
      · exact .inr (.inl ⟨unassigned, (pure_ok.mp h).symm⟩)

theorem apply_source_queue_increments_ok {link' : LinkState n} {increments : List ℤ}
    (h : applySourceQueueIncrements w link increments = .ok link') :
    (∀ l, link'.queueVehicles l = link.queueVehicles l + increments.count (w.net.links l).linkId) ∧
      link'.metadata = link.metadata ∧ link'.capacityVehPerTick = link.capacityVehPerTick ∧
      link'.incidentCapacityMultiplier = link.incidentCapacityMultiplier := by
  unfold applySourceQueueIncrements at h
  split at h
  · rename_i none_admitted
    obtain rfl := Except.ok.inj h
    simp [none_admitted]
  · obtain ⟨_, _, h⟩ := bind_ok.mp h
    obtain ⟨_, _, h⟩ := bind_ok.mp h
    obtain rfl := pure_ok.mp h
    exact ⟨fun _ => rfl, rfl, rfl, rfl⟩

end Spec

end Metroflow.Sim
