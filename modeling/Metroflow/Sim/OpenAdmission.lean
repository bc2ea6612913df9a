import Metroflow.Routing.OpenRoutes
import Metroflow.Sim.Lifecycle
import Metroflow.Sim.PotentialCache

namespace Metroflow.Sim

open Metroflow.Lib Metroflow.City Metroflow.Flow Metroflow.Routing Metroflow.Demand

variable {p n m cap : ℕ} {w : World p n m}

/-- A link that events may close and that has no capacity left under the given ones. -/
def ClosedUnder (w : World p n m) (link : LinkState n) (activeEvents : List TrafficEvent)
    (l : Fin n) : Prop :=
  (w.net.links l).isBlockable = true ∧
    link.capacityVehPerTick l * computeIncidentCapacityMultiplierFromEvents w.net activeEvents l = 0

def OpenPath (w : World p n m) (link : LinkState n) (activeEvents : List TrafficEvent)
    (path : List ℤ) : Prop :=
  AllLinks w.net (fun l => ¬ ClosedUnder w link activeEvents l) path

section Masks

variable {link link' : LinkState n} {activeEvents : List TrafficEvent} {l : Fin n} {path : List ℤ}

theorem no_event_multiplier :
    computeIncidentCapacityMultiplierFromEvents w.net [] = fun _ => 1 := rfl

theorem OpenPath.of_capacity (h : OpenPath w link activeEvents path)
    (same : link'.capacityVehPerTick = link.capacityVehPerTick) :
    OpenPath w link' activeEvents path := by
  unfold OpenPath ClosedUnder at h ⊢
  rwa [same]

theorem mask_of_closed (blockable : (w.net.links l).isBlockable = true)
    (none : link.capacityVehPerTick l * link.incidentCapacityMultiplier l = 0) :
    resolveBlockedLinkMask w.net (.linkState link) l = true := by
  simp [resolveBlockedLinkMask, none, blockable]

variable {destinationNodeId : ℤ} {potential : DynamicPotentialState p n}

theorem FreshPotential.mask (h : FreshPotential w link destinationNodeId potential) :
    potential.blockedLinkMask = resolveBlockedLinkMask w.net (.linkState link) := by
  unfold FreshPotential computeDynamicPotentialState at h
  simp only [Option.bind_none] at h
  split at h
  · cases h
  · obtain ⟨⟨nodeCost, computed⟩, _, h⟩ := bind_ok.mp h
    obtain ⟨rfl, _⟩ := Prod.mk.inj (pure_ok.mp h)
    rfl

theorem FreshPotential.unblocked_open (h : FreshPotential w link destinationNodeId potential)
    (unblocked : Unblocked potential l) (blockable : (w.net.links l).isBlockable = true) :
    link.capacityVehPerTick l * link.incidentCapacityMultiplier l ≠ 0 := by
  intro none
  rw [Unblocked, h.mask, mask_of_closed blockable none] at unblocked
  cases unblocked

theorem FreshPotential.open_without_events
    (h : FreshPotential w link destinationNodeId potential)
    (route : AllLinks w.net (Unblocked potential) path) : OpenPath w link [] path := by
  refine route.imp fun l unblocked closed => h.unblocked_open unblocked closed.1 ?_
  have none := closed.2
  rw [no_event_multiplier, mul_one] at none
  rw [none, zero_mul]

theorem FreshPotential.open_under (h : FreshPotential w link destinationNodeId potential)
    (mirrored : link.incidentCapacityMultiplier =
      computeIncidentCapacityMultiplierFromEvents w.net activeEvents)
    (route : AllLinks w.net (Unblocked potential) path) : OpenPath w link activeEvents path := by
  refine route.imp fun l unblocked closed => h.unblocked_open unblocked closed.1 ?_
  rw [mirrored]
  exact closed.2

end Masks

section Refresh

variable {link : LinkState n} {activeEvents : List TrafficEvent} {tick : ℕ} {force : Bool}

def OpenSet (w : World p n m) (link : LinkState n) (activeEvents : List TrafficEvent)
    (set : RouteCandidateSet) : Prop :=
  ∀ path ∈ set.candidatePaths, OpenPath w link activeEvents path

/-- What a refresh holds: sets that are open without events, and for the OD keys
of this pass sets that are open under the active ones. -/
structure OpenPass (w : World p n m) (link : LinkState n) (activeEvents : List TrafficEvent)
    (s : RefreshPass p n) : Prop where
  coherent : CacheCoherent w link s.routes.potentialCache
  stored : ∀ odKey set, s.routes.candidateSets.lookup odKey = some set → OpenSet w link [] set
  refreshed : link.incidentCapacityMultiplier =
      computeIncidentCapacityMultiplierFromEvents w.net activeEvents →
    ∀ odKey ∈ s.refreshedOdKeys, ∀ set, s.routes.candidateSets.lookup odKey = some set →
      OpenSet w link activeEvents set

theorem refresh_od_set_cases {existing : Option RouteCandidateSet} {request : CandidateRequest}
    {incidentActive : Bool} {cache cache' : PotentialCache RuntimeCacheKey p n}
    {key : Option RuntimeCacheKey} {source : CostSource n} {set : RouteCandidateSet}
    (h : refreshOdRouteCandidateSet w.rust w.net existing source request incidentActive force
      w.refreshPolicy cache key = .ok (set, cache')) :
    (∃ created : CandidateRequest, created.routingBackend = request.routingBackend ∧
        created.destinationNodeId = request.destinationNodeId ∧
        createRouteCandidateSet w.rust w.net source created cache key = .ok (set, cache')) ∨
      incidentActive = false ∧ existing = some set ∧ cache' = cache := by
  unfold refreshOdRouteCandidateSet at h
  split at h
  · rename_i old matching
    split at h
    · refine .inl ⟨_, ?_, ?_, h⟩ <;> rfl
    · rename_i reused
      obtain ⟨rfl, rfl⟩ := Prod.mk.inj (Except.ok.inj h)
      refine .inr ⟨?_, (Option.filter_eq_some_iff.mp matching).1, rfl⟩
      by_contra active
      rw [Bool.not_eq_false] at active
      subst active
      apply reused
      unfold shouldRefreshRouteCandidateSet
      cases force <;> rfl
  · refine .inl ⟨_, ?_, ?_, h⟩ <;> rfl

theorem refresh_trip_open {s s' : RefreshPass p n} {trip : TripRequest}
    (h : OpenPass w link activeEvents s)
    (ok : refreshTripRoutes w tick link (decide (activeEvents ≠ [])) force s trip = .ok s') :
    OpenPass w link activeEvents s' ∧ (∀ odKey ∈ s.refreshedOdKeys, odKey ∈ s'.refreshedOdKeys) ∧
      ∀ od, w.tripOdNodes trip = some od → od.1 ∈ s'.refreshedOdKeys := by
  have coherent := refresh_trip_coherent h.coherent ok
  unfold refreshTripRoutes at ok
  split at ok
  · rename_i unknown
    obtain rfl := Except.ok.inj ok
    exact ⟨h, fun _ => id, fun od known => by rw [unknown] at known; cases known⟩
  · rename_i odKey originNodeId destinationNodeId known
    have same : ∀ od, w.tripOdNodes trip = some od → od.1 = odKey := by
      intro od found
      rw [known] at found
      rw [← Option.some.inj found]
    split at ok
    · rename_i listed
      obtain rfl := Except.ok.inj ok
      exact ⟨h, fun _ => id, fun od found => same od found ▸ listed⟩
    · obtain ⟨⟨set, cache⟩, refreshed, ok⟩ := bind_ok.mp ok
      obtain rfl := pure_ok.mp ok
      have stored : OpenSet w link [] set ∧ (link.incidentCapacityMultiplier =
          computeIncidentCapacityMultiplierFromEvents w.net activeEvents →
            OpenSet w link activeEvents set) := by
        rcases refresh_od_set_cases (map_error_ok.mp refreshed) with
          ⟨request, backend, destination, created⟩ | ⟨inactive, old, _⟩
        · obtain rfl : request.destinationNodeId = destinationNodeId := destination
          obtain ⟨potential, paths, fresh, built, rfl, _⟩ := h.coherent.created backend created
          have unblocked := candidate_paths_unblocked built
          exact ⟨fun path listed => fresh.open_without_events (unblocked path listed),
            fun mirrored path listed => fresh.open_under mirrored (unblocked path listed)⟩
        · have kept := h.stored odKey set old
          have calm : activeEvents = [] := not_not.mp (of_decide_eq_false inactive)
          exact ⟨kept, fun _ => calm ▸ kept⟩
      refine ⟨⟨coherent, fun key found lookup => ?_, fun mirrored key listed found lookup => ?_⟩,
        fun _ => List.mem_cons_of_mem _, fun od found => same od found ▸ List.mem_cons_self⟩
      · by_cases here : key = odKey
        · subst here
          rw [AList.lookup_insert] at lookup
          exact Option.some.inj lookup ▸ stored.1
        · rw [AList.lookup_insert_ne here] at lookup
          exact h.stored key found lookup
      · by_cases here : key = odKey
        · subst here
          rw [AList.lookup_insert] at lookup
          exact Option.some.inj lookup ▸ stored.2 mirrored
        · rw [AList.lookup_insert_ne here] at lookup
          exact h.refreshed mirrored key ((List.mem_cons.mp listed).resolve_left here) found lookup

variable {s s' : SimulationState p n m cap}

/-- The candidate sets of a state are open without events, and its cache is coherent. -/
structure RoutesOpen (w : World p n m) (s : SimulationState p n m cap) : Prop where
  coherent : CachesCoherently w s
  stored : ∀ odKey set, s.routes.candidateSets.lookup odKey = some set →
    OpenSet w s.flow.linkState [] set

theorem refresh_pass_open {past : List TripRequest} {pass : RefreshPass p n} (h : RoutesOpen w s)
    (run : refreshPass w s force past = .ok pass) :
    OpenPass w s.flow.linkState s.events.activeEvents pass ∧
      ∀ trip ∈ past, ∀ od, w.tripOdNodes trip = some od → od.1 ∈ pass.refreshedOdKeys := by
  refine fold_progress (I := fun seen pass =>
    OpenPass w s.flow.linkState s.events.activeEvents pass ∧
      ∀ trip ∈ seen, ∀ od, w.tripOdNodes trip = some od → od.1 ∈ pass.refreshedOdKeys)
    ?_ ⟨⟨CacheCoherent.pruned h.coherent, h.stored, fun _ _ none => by cases none⟩,
      fun _ none => by cases none⟩ run
  rintro seen trip rest before after _ ⟨held, handled⟩ step
  obtain ⟨kept, grown, own⟩ := refresh_trip_open held step
  refine ⟨kept, fun other listed => ?_⟩
  rcases List.mem_append.mp listed with old | new
  · exact fun od found => grown _ (handled other old od found)
  · exact List.mem_singleton.mp new ▸ own

end Refresh

section Admission

variable {link : LinkState n} {activeEvents : List TrafficEvent} {tick : ℕ}
  {routes : SimulationRouteCacheState p n} {lookup : TurnLookup m}

theorem admit_trip_selects {s s' : AdmissionPass cap} {trip : TripRequest}
    (h : admitTrip w tick routes link lookup s trip = .ok s') :
    s'.pool = s.pool ∧ s'.newlyAllocatedSlotIds = s.newlyAllocatedSlotIds ∨
      ∃ i od set memory, s.demand.unassigned trip.tripRequestId = true ∧
        w.tripOdNodes trip = some od ∧ routes.candidateSets.lookup od.1 = some set ∧
        memory.routePath ∈ set.candidatePaths ∧
        s'.pool.pluginMemory = Function.update s.pool.pluginMemory i (some memory) ∧
        (∀ j, j ≠ i → s'.pool.slots j = s.pool.slots j) ∧
        s'.newlyAllocatedSlotIds = insert i s.newlyAllocatedSlotIds := by
  unfold admitTrip at h
  split at h
  · obtain rfl := Except.ok.inj h
    exact .inl ⟨rfl, rfl⟩
  · rename_i unassigned
    rw [Bool.not_eq_false] at unassigned
    split at h
    · obtain rfl := Except.ok.inj h
      exact .inl ⟨rfl, rfl⟩
    · obtain ⟨selection, selected, h⟩ := bind_ok.mp h
      split at h
      · rename_i selection odKey originNodeId destinationNodeId od
        obtain ⟨set, found, listed, _⟩ := select_candidate_route_mem w.log (map_error_ok.mp selected)
        rw [od] at found
        obtain ⟨_, _, h⟩ := bind_ok.mp h
        obtain ⟨available, _, h⟩ := bind_ok.mp h
        cases available with
        | false =>
          obtain rfl := pure_ok.mp h
          exact .inl ⟨rfl, rfl⟩
        | true =>
          obtain ⟨⟨pool, i⟩, allocated, h⟩ := bind_ok.mp h
          obtain rfl := pure_ok.mp h
          obtain ⟨_, _, slots, memory⟩ := allocate_ok.mp allocated
          refine .inr ⟨i, _, set, ?given, unassigned, od, found, ?chosen, ?memories, ?slots, rfl⟩
          case memories =>
            rw [← memory]
            rfl
          case chosen => exact listed
          case slots =>
            intro j apart
            rw [ActiveAgentPool.with_memory_slots, slots]
            exact Function.update_of_ne apart _ _
      · obtain rfl := pure_ok.mp h
        exact .inl ⟨rfl, rfl⟩

/-- The slots that an admission allocated have open routes, the others are as they were. -/
structure OpenAdmission (w : World p n m) (link : LinkState n) (activeEvents : List TrafficEvent)
    (pool : ActiveAgentPool cap) (newly : Finset (Fin cap)) (pool' : ActiveAgentPool cap) : Prop where
  routes : ∀ i ∈ newly, OpenPath w link activeEvents (pool'.memory i).routePath
  others : ∀ i ∉ newly, pool'.alive i = true → pool.alive i = true

theorem OpenAdmission.frame {pool pool' pool'' : ActiveAgentPool cap} {newly : Finset (Fin cap)}
    (h : OpenAdmission w link activeEvents pool newly pool')
    (memory : ∀ i ∈ newly, pool''.pluginMemory i = pool'.pluginMemory i)
    (alive : ∀ i, pool''.alive i = true → pool'.alive i = true) :
    OpenAdmission w link activeEvents pool newly pool'' where
  routes i listed := by
    have same : pool''.memory i = pool'.memory i := by
      simp only [ActiveAgentPool.memory, memory i listed]
    rw [same]
    exact h.routes i listed
  others i fresh now := h.others i fresh (alive i now)

theorem admission_open {pool : ActiveAgentPool cap} {demand : DemandState} {s : AdmissionPass cap}
    (sets : ∀ trip ∈ routeRelevantTripRequests demand, ∀ od, w.tripOdNodes trip = some od →
      ∀ set, routes.candidateSets.lookup od.1 = some set → OpenSet w link activeEvents set)
    (h : admitActivatedTrips w tick routes link lookup pool demand = .ok s) :
    OpenAdmission w link activeEvents pool s.newlyAllocatedSlotIds s.pool := by
  suffices both : OpenAdmission w link activeEvents pool s.newlyAllocatedSlotIds s.pool ∧
      AdmissionKeeps demand s.demand from both.1
  refine fold_invariant (I := fun s : AdmissionPass cap =>
      OpenAdmission w link activeEvents pool s.newlyAllocatedSlotIds s.pool ∧
        AdmissionKeeps demand s.demand) (fun trip active s s' held step => ⟨?_, ?_⟩)
    ⟨⟨fun _ none => by simp at none, fun _ _ alive => alive⟩,
      rfl, rfl, Finset.Subset.refl _, fun _ => .inl, fun _ => id⟩ h
  · obtain ⟨isOpen, keeps⟩ := held
    rcases admit_trip_selects step with
      ⟨same, none_new⟩ | ⟨i, od, set, memory, unassigned, known, found, listed, memories, slots, newly⟩
    · rw [same, none_new]
      exact isOpen
    · have relevant : trip ∈ routeRelevantTripRequests demand := by
        obtain ⟨requested, activated⟩ := mem_activated.mp active
        have waits := keeps.unassigned _ unassigned
        simp [routeRelevantTripRequests, requested, activated, waits]
      refine ⟨fun j new => ?_, fun j old alive => ?_⟩
      · simp only [ActiveAgentPool.memory, memories]
        by_cases here : j = i
        · subst here
          rw [Function.update_self]
          exact sets trip relevant od known set found memory.routePath listed
        · rw [Function.update_of_ne here]
          rw [newly, Finset.mem_insert] at new
          exact isOpen.routes j (new.resolve_left here)
      · rw [newly, Finset.mem_insert, not_or] at old
        rw [ActiveAgentPool.alive, slots j old.1] at alive
        exact isOpen.others j old.2 alive
  · obtain ⟨_, keeps⟩ := held
    rcases admit_trip_ok step with rfl | ⟨_, rfl⟩ | ⟨i, path, source, destination, a⟩
    · exact keeps
    · exact keeps.failed _
    · exact keeps.admitted a

theorem reroute_slot_skips {trigger : RerouteTrigger} {skip : Finset (Fin cap)}
    {s s' : ReroutePass p n cap} {i j : Fin cap} (skipped : j ∈ skip)
    (h : rerouteSlot w tick link trigger lookup skip s i = .ok s') :
    s'.pool.pluginMemory j = s.pool.pluginMemory j := by
  unfold rerouteSlot at h
  simp only at h
  split at h
  · obtain rfl := Except.ok.inj h
    rfl
  · rename_i chosen
    have apart : j ≠ i := fun same => chosen (.inr (same ▸ skipped))
    split at h
    · obtain rfl := Except.ok.inj h
      rfl
    · split at h
      · obtain rfl := Except.ok.inj h
        rfl
      · obtain ⟨⟨selection, t⟩, selected, h⟩ := bind_ok.mp h
        have same := select_reroute_tail_pool selected
        split at h
        · obtain rfl := pure_ok.mp h
          rw [same]
        · split at h
          · obtain rfl := pure_ok.mp h
            rw [same]
          · obtain ⟨pool, decided, h⟩ := bind_ok.mp h
            obtain rfl := pure_ok.mp h
            rw [same] at decided
            obtain ⟨decision, _, decided⟩ := bind_ok.mp decided
            split at decided
            · obtain ⟨_, _, decided⟩ := bind_ok.mp decided
              obtain rfl := pure_ok.mp decided
              exact Function.update_of_ne apart _ _
            · obtain rfl := pure_ok.mp decided
              exact Function.update_of_ne apart _ _

theorem apply_reroute_policy_skips {s : SimulationState p n m cap}
    {pool pool' : ActiveAgentPool cap} {skip : Finset (Fin cap)} {j : Fin cap} (skipped : j ∈ skip)
    (h : applyRuntimeReroutePolicy w s lookup pool skip = .ok pool') :
    pool'.pluginMemory j = pool.pluginMemory j := by
  unfold applyRuntimeReroutePolicy at h
  split at h
  · obtain rfl := Except.ok.inj h
    rfl
  · split at h
    · obtain rfl := Except.ok.inj h
      rfl
    · obtain ⟨pass, run, h⟩ := bind_ok.mp h
      obtain rfl := pure_ok.mp h
      exact fold_invariant (I := fun pass : ReroutePass p n cap =>
          pass.pool.pluginMemory j = pool.pluginMemory j)
        (fun _ _ _ _ same step => (reroute_slot_skips skipped step).trans same) rfl run

theorem commit_frame {node : NodeState n m} {pool : ActiveAgentPool cap} {demand : DemandState}
    {skip : Finset (Fin cap)} {committed : Committed cap}
    (h : commitRuntimeActiveAgentFlows w node pool demand skip = .ok committed) :
    (∀ j ∈ skip, committed.pool.pluginMemory j = pool.pluginMemory j) ∧
      ∀ j, committed.pool.alive j = true → pool.alive j = true := by
  obtain ⟨lookup, sinkTokens, last, run⟩ := commit_ok h
  rw [run.pool_eq]
  refine fold_invariant (I := fun s : CommitPass n m cap =>
      (∀ j ∈ skip, s.pool.pluginMemory j = pool.pluginMemory j) ∧
        ∀ j, s.pool.alive j = true → pool.alive j = true)
    (fun i _ s s' held step => ?_) ⟨fun _ _ => rfl, fun _ => id⟩ run.slots
  have commits := commit_slot_ok step
  obtain ⟨memory, alive⟩ := held
  have settled : s' = s ∨ Settled s.pool skip i := by
    cases commits with
    | waits => exact .inl rfl
    | moves t nextLinkId settled => exact .inr settled
    | completes l s' settled => exact .inr settled
  rcases settled with rfl | ⟨awake, chosen⟩
  · exact ⟨memory, alive⟩
  · refine ⟨fun j skipped => ?_, fun j now => ?_⟩
    · rw [(commits.frame fun same => chosen (same ▸ skipped)).2]
      exact memory j skipped
    · by_cases here : j = i
      · exact alive j (here ▸ awake)
      · rw [ActiveAgentPool.alive, (commits.frame here).1] at now
        exact alive j now

end Admission

section Runs

variable {s s' : SimulationState p n m cap}

theorem multiplier_of_no_incident {link : LinkState n} (h : hasIncident link = false) :
    link.incidentCapacityMultiplier = fun _ => 1 := by
  funext l
  have whole : ¬ ∃ l, link.incidentCapacityMultiplier l < 1 := of_decide_eq_false h
  exact le_antisymm (link.multiplier_unit l).2 (not_lt.mp fun lost => whole ⟨l, lost⟩)

structure Mirrors (w : World p n m) (s due : SimulationState p n m cap)
    (events : TrafficEventSchedulerState) : Prop where
  events_eq : due.events = events
  routes_eq : due.routes = s.routes
  capacity_kept : due.flow.linkState.capacityVehPerTick = s.flow.linkState.capacityVehPerTick
  mirrored : due.flow.linkState.incidentCapacityMultiplier =
    computeIncidentCapacityMultiplierFromEvents w.net events.activeEvents

theorem due_mirrors (events : TrafficEventSchedulerState) :
    Mirrors w s (dueState w s events) events := by
  obtain ⟨demand, activated, _⟩ := activate_due_keeps (s := applyEventEffectsToFlowState w
    { s with tickIndex := s.tickIndex + 1, events := events })
  rw [dueState, activated]
  unfold applyEventEffectsToFlowState
  simp only
  split
  · rename_i calm
    refine ⟨rfl, rfl, rfl, ?_⟩
    rw [calm.1]
    exact multiplier_of_no_incident calm.2
  · split
    · exact ⟨rfl, rfl, rfl, rfl⟩
    · exact ⟨rfl, rfl, rfl, rfl⟩

theorem advance_flow_capacity {flow flow' : FlowState n m} (h : advanceFlowState w flow = .ok flow') :
    flow'.linkState.capacityVehPerTick = flow.linkState.capacityVehPerTick := by
  obtain ⟨_, _, h⟩ := bind_ok.mp h
  obtain ⟨result, updated, h⟩ := bind_ok.mp h
  obtain rfl := pure_ok.mp h
  obtain ⟨_, arrays, k, t⟩ := update_link_node_flow_ok.mp (map_error_ok.mp updated)
  rw [t.after]
  rfl

theorem RoutesOpen.due (h : RoutesOpen w s) (events : TrafficEventSchedulerState) :
    RoutesOpen w (dueState w s events) := by
  have mirrors := due_mirrors (w := w) (s := s) events
  refine ⟨CachesCoherently.due h.coherent events, fun odKey set found path listed => ?_⟩
  rw [mirrors.routes_eq] at found
  exact (h.stored odKey set found path listed).of_capacity mirrors.capacity_kept

theorem TickParts.Of.capacity_kept {due : SimulationState p n m cap} {parts : TickParts p n m cap}
    (h : parts.Of w due s') :
    s'.flow.linkState.capacityVehPerTick = due.flow.linkState.capacityVehPerTick := by
  obtain ⟨_, _, queued, _⟩ := apply_source_queue_increments_ok h.queued
  rw [h.after]
  exact (advance_flow_capacity h.flowed).trans queued

theorem routes_open_step {input : RunInput} (start : RoutesOpen w s)
    (h : advance w s input = .ok s') : RoutesOpen w s' := by
  refine ⟨caches_coherently_step start.coherent h, ?_⟩
  cases kind : input.ticks with
  | true =>
    obtain ⟨events, parts, tick⟩ := advance_ticks kind h
    obtain ⟨pass, run, routes⟩ := refresh_routes_ok tick.refreshed
    have stored := (refresh_pass_open (start.due events) run).1.stored
    rw [← routes] at stored
    intro odKey set found path listed
    rw [tick.after] at found
    exact (stored odKey set found path listed).of_capacity tick.capacity_kept
  | false =>
    cases input with
    | refreshRoutes force =>
      obtain ⟨routes, refreshed, h⟩ := bind_ok.mp h
      obtain rfl := pure_ok.mp h
      obtain ⟨pass, run, rfl⟩ := refresh_routes_ok refreshed
      exact (refresh_pass_open start run).1.stored
    | step control =>
      obtain ⟨events, rfl⟩ := simulation_step_pauses (by simpa [RunInput.ticks] using kind) h
      exact start.stored

/-- A slot that a tick between two states gives to a new agent. -/
def NewlyAllocated (w : World p n m) (before after : SimulationState p n m cap) (i : Fin cap) :
    Prop :=
  ∃ events parts, TickParts.Of w (dueState w before events) parts after ∧
    i ∈ parts.admission.newlyAllocatedSlotIds

theorem TickParts.Of.gives_open_routes {events : TrafficEventSchedulerState}
    {parts : TickParts p n m cap} (start : RoutesOpen w s)
    (h : parts.Of w (dueState w s events) s') :
    OpenAdmission w s'.flow.linkState s'.events.activeEvents s.pool
      parts.admission.newlyAllocatedSlotIds s'.pool := by
  have mirrors := due_mirrors (w := w) (s := s) events
  have active : s'.events.activeEvents = events.activeEvents := by
    rw [h.after]
    exact congrArg TrafficEventSchedulerState.activeEvents mirrors.events_eq
  obtain ⟨pass, run, routes⟩ := refresh_routes_ok h.refreshed
  obtain ⟨refreshed, handled⟩ := refresh_pass_open (start.due events) run
  rw [mirrors.events_eq] at refreshed
  have admitted : OpenAdmission w (dueState w s events).flow.linkState events.activeEvents
      (dueState w s events).pool parts.admission.newlyAllocatedSlotIds parts.admission.pool :=
    admission_open (fun trip relevant od known set found => refreshed.refreshed mirrors.mirrored
      od.1 (handled trip relevant od known) set (routes ▸ found)) h.admitted
  rw [(due_keeps events).pool] at admitted
  have moved : OpenAdmission w (dueState w s events).flow.linkState events.activeEvents s.pool
      parts.admission.newlyAllocatedSlotIds s'.pool := by
    refine admitted.frame (fun i new => ?_) fun i alive => ?_
    · rw [h.after]
      refine ((commit_frame h.commits).1 i new).trans ?_
      rw [(advance_progress_ok h.progress).memory]
      exact apply_reroute_policy_skips new h.reroute
    · rw [h.after] at alive
      have progressed := (commit_frame h.commits).2 i alive
      obtain ⟨_, same⟩ := (advance_progress_ok h.progress).slot_eq i
      rw [ActiveAgentPool.alive, same] at progressed
      obtain ⟨_, same⟩ := (apply_reroute_policy_keeps h.reroute).slots i
      rw [same] at progressed
      exact progressed
  rw [active]
  exact ⟨fun i new => (moved.routes i new).of_capacity h.capacity_kept, moved.others⟩

/-- From empty route caches, every agent that a tick allocates gets a route over links that
are open under the tick's events; and no other slot comes alive. -/
theorem new_routes_open {steps : List (Taken (SimulationState p n m cap) RunInput)}
    (no_routes : s.routes = {}) (run : Trace (advance w) s steps s') :
    ∀ taken ∈ steps, ∀ i,
      (NewlyAllocated w taken.before taken.after i →
        OpenPath w taken.after.flow.linkState taken.after.events.activeEvents
          (taken.after.pool.memory i).routePath) ∧
      (taken.before.pool.alive i = false → taken.after.pool.alive i = true →
        NewlyAllocated w taken.before taken.after i) := by
  refine run.forall_steps (I := RoutesOpen w) ⟨?_, ?_⟩ (fun _ _ _ => routes_open_step) ?_
  · rw [CachesCoherently, no_routes]
    exact .empty _
  · intro odKey set found
    rw [no_routes] at found
    cases found
  · refine fun s input s' start step i => ⟨?_, fun free alive => ?_⟩
    · rintro ⟨events, parts, tick, new⟩
      exact (tick.gives_open_routes start).routes i new
    · cases kind : input.ticks with
      | true =>
        obtain ⟨events, parts, tick⟩ := advance_ticks kind step
        by_contra old
        have before := (tick.gives_open_routes start).others i
          (fun new => old ⟨events, parts, tick, new⟩) alive
        rw [free] at before
        cases before
      | false =>
        rw [(advance_idle kind step).1, free] at alive
        cases alive

/-- The first tick of the corridor allocates an agent. -/
theorem new_routes_open_corridor :
    ∃ s', advance corridorWorld corridorStart (.step {}) = .ok s' ∧
      NewlyAllocated corridorWorld corridorStart s' 0 ∧
      OpenPath corridorWorld s'.flow.linkState s'.events.activeEvents
        (s'.pool.memory 0).routePath := by
  have allocates : (advance corridorWorld corridorStart (.step {})).map
      (fun s => s.pool.alive 0) = .ok true := by
    decide +kernel
  obtain ⟨s', step, alive⟩ := map_ok.mp allocates
  obtain ⟨isOpen, new⟩ := new_routes_open rfl (.next step (.done s')) _ List.mem_cons_self 0
  exact ⟨s', step, new rfl alive, isOpen (new rfl alive)⟩

end Runs

end Metroflow.Sim
