import Metroflow.Sim.Coupling

namespace Metroflow.Sim

open Metroflow.Lib Metroflow.City Metroflow.Flow Metroflow.Routing Metroflow.Demand

variable {p n m cap : ℕ} {w : World p n m}

/-- A potential is the one that a build without any cache gives from a link state. -/
def FreshPotential (w : World p n m) (link : LinkState n) (destinationNodeId : ℤ)
    (potential : DynamicPotentialState p n) : Prop :=
  computeDynamicPotentialState w.rust w.net destinationNodeId (.linkState link)
    w.config.routingBackend ([] : PotentialCache RuntimeCacheKey p n) none = .ok (potential, [])

def Serves (w : World p n m) (link : LinkState n) (cache : PotentialCache RuntimeCacheKey p n)
    (destinationNodeId : ℤ) (potential : DynamicPotentialState p n) : Prop :=
  cache.lookup (w.config.routingBackend, routePotentialCacheKey w link destinationNodeId) =
    some potential

/-- No entry of the cache is of a later generation than the link state, and those
of its own generations are as fresh. -/
structure CacheCoherent (w : World p n m) (link : LinkState n)
    (cache : PotentialCache RuntimeCacheKey p n) : Prop where
  flow_past : ∀ entry ∈ cache, entry.1.2.flowGeneration ≤ link.metadata.runtimeFlowGeneration
  incident_past : ∀ entry ∈ cache,
    entry.1.2.incidentGeneration ≤ link.metadata.runtimeIncidentGeneration
  fresh : ∀ destinationNodeId potential, Serves w link cache destinationNodeId potential →
    FreshPotential w link destinationNodeId potential

section Builds

variable {link link' : LinkState n} {cache cache' : PotentialCache RuntimeCacheKey p n}
  {destinationNodeId : ℤ} {potential : DynamicPotentialState p n}

theorem Serves.mem (h : Serves w link cache destinationNodeId potential) :
    ((w.config.routingBackend, routePotentialCacheKey w link destinationNodeId), potential) ∈
      cache := by
  obtain ⟨l₁, l₂, rfl, _⟩ := List.lookup_eq_some_iff.mp h
  simp

theorem CacheCoherent.empty (link : LinkState n) : CacheCoherent w link [] where
  flow_past _ listed := by cases listed
  incident_past _ listed := by cases listed
  fresh _ _ served := by cases served

theorem compute_potential_ok (h : computeDynamicPotentialState w.rust w.net destinationNodeId
      (.linkState link) w.config.routingBackend cache
      (some (routePotentialCacheKey w link destinationNodeId)) = .ok (potential, cache')) :
    Serves w link cache destinationNodeId potential ∧ cache' = cache ∨
      FreshPotential w link destinationNodeId potential ∧
        cache' = ((w.config.routingBackend, routePotentialCacheKey w link destinationNodeId),
          potential) :: cache := by
  unfold computeDynamicPotentialState at h
  simp only [Option.bind_some] at h
  split at h
  · rename_i cached found
    obtain ⟨rfl, rfl⟩ := Prod.mk.inj (Except.ok.inj h)
    exact .inl ⟨found, rfl⟩
  · split at h
    · cases h
    · rename_i destination known
      obtain ⟨⟨nodeCost, computed⟩, costs, h⟩ := bind_ok.mp h
      obtain ⟨rfl, rfl⟩ := Prod.mk.inj (pure_ok.mp h)
      refine .inr ⟨?_, rfl⟩
      unfold FreshPotential computeDynamicPotentialState
      simp only [Option.bind_none, known]
      rw [costs]
      rfl

theorem CacheCoherent.computed (h : CacheCoherent w link cache)
    (ok : computeDynamicPotentialState w.rust w.net destinationNodeId (.linkState link)
      w.config.routingBackend cache (some (routePotentialCacheKey w link destinationNodeId)) =
        .ok (potential, cache')) :
    FreshPotential w link destinationNodeId potential ∧ CacheCoherent w link cache' := by
  rcases compute_potential_ok ok with ⟨served, rfl⟩ | ⟨fresh, rfl⟩
  · exact ⟨h.fresh _ _ served, h⟩
  · refine ⟨fresh, ⟨?_, ?_, fun other found served => ?_⟩⟩
    · exact List.forall_mem_cons.mpr ⟨le_refl _, h.flow_past⟩
    · exact List.forall_mem_cons.mpr ⟨le_refl _, h.incident_past⟩
    · unfold Serves at served
      rw [List.lookup_cons] at served
      split at served
      · rename_i same
        obtain rfl := Option.some.inj served
        have key := congrArg (fun k => k.2.destinationNodeId) (beq_iff_eq.mp same)
        obtain rfl : other = destinationNodeId := key
        exact fresh
      · exact h.fresh other found served

theorem CacheCoherent.created (h : CacheCoherent w link cache) {request : CandidateRequest}
    {set : RouteCandidateSet} (backend : request.routingBackend = w.config.routingBackend)
    (ok : createRouteCandidateSet w.rust w.net (.linkState link) request cache
      (some (routePotentialCacheKey w link request.destinationNodeId)) = .ok (set, cache')) :
    ∃ potential paths, FreshPotential w link request.destinationNodeId potential ∧
      candidatePathsFor w.rust w.net potential request = .ok paths ∧ set.candidatePaths = paths ∧
        CacheCoherent w link cache' := by
  obtain ⟨_, _, ok⟩ := bind_ok.mp ok
  obtain ⟨⟨potential, after⟩, computed, ok⟩ := bind_ok.mp ok
  obtain ⟨paths, built, ok⟩ := bind_ok.mp ok
  obtain ⟨⟨⟨costs, factors⟩, by_⟩, _, ok⟩ := bind_ok.mp ok
  rw [backend] at computed
  obtain ⟨fresh, coherent⟩ := h.computed computed
  simp only at ok
  split at ok
  · obtain ⟨rfl, rfl⟩ := Prod.mk.inj (pure_ok.mp ok)
    exact ⟨potential, paths, fresh, built, rfl, coherent⟩
  · cases ok

theorem CacheCoherent.pruned (h : CacheCoherent w link cache) :
    CacheCoherent w link (pruneStaleRoutePotentialCache w link cache) where
  flow_past entry listed := h.flow_past entry (List.mem_of_mem_filter listed)
  incident_past entry listed := h.incident_past entry (List.mem_of_mem_filter listed)
  fresh destinationNodeId potential served := by
    have kept : inCurrentScope w link
        (w.config.routingBackend, routePotentialCacheKey w link destinationNodeId) = true :=
      decide_eq_true rfl
    refine h.fresh destinationNodeId potential ?_
    rwa [Serves, pruneStaleRoutePotentialCache, lookup_filter kept] at served

theorem CacheCoherent.outdated (h : CacheCoherent w link cache)
    (flow : link.metadata.runtimeFlowGeneration ≤ link'.metadata.runtimeFlowGeneration)
    (incident : link.metadata.runtimeIncidentGeneration ≤ link'.metadata.runtimeIncidentGeneration)
    (bumped : link.metadata.runtimeFlowGeneration < link'.metadata.runtimeFlowGeneration ∨
      link.metadata.runtimeIncidentGeneration < link'.metadata.runtimeIncidentGeneration) :
    CacheCoherent w link' cache where
  flow_past entry listed := (h.flow_past entry listed).trans flow
  incident_past entry listed := (h.incident_past entry listed).trans incident
  fresh destinationNodeId potential served := by
    have flow_old := h.flow_past _ served.mem
    have incident_old := h.incident_past _ served.mem
    simp only [routePotentialCacheKey] at flow_old incident_old
    omega

theorem CacheCoherent.of_same (h : CacheCoherent w link cache)
    (metadata : link'.metadata = link.metadata) (times : link'.travelTimeCost = link.travelTimeCost)
    (capacity : link'.capacityVehPerTick = link.capacityVehPerTick)
    (multiplier : link'.incidentCapacityMultiplier = link.incidentCapacityMultiplier) :
    CacheCoherent w link' cache where
  flow_past := metadata ▸ h.flow_past
  incident_past := metadata ▸ h.incident_past
  fresh destinationNodeId potential served := by
    have key : routePotentialCacheKey w link' destinationNodeId =
        routePotentialCacheKey w link destinationNodeId := by
      rw [routePotentialCacheKey, routePotentialCacheKey, metadata]
    have costs : resolveLinkCosts w.net (.linkState link') =
        resolveLinkCosts w.net (.linkState link) := by
      simp only [resolveLinkCosts, times]
    have blocked : resolveBlockedLinkMask w.net (.linkState link') =
        resolveBlockedLinkMask w.net (.linkState link) := by
      simp only [resolveBlockedLinkMask, capacity, multiplier]
    have fresh := h.fresh destinationNodeId potential (by rwa [Serves, key] at served)
    unfold FreshPotential computeDynamicPotentialState at fresh ⊢
    rw [costs, blocked]
    exact fresh

end Builds

section Passes

variable {link : LinkState n} {tick : ℕ} {incidentActive forceRefresh : Bool}

theorem refresh_trip_coherent {s s' : RefreshPass p n} {trip : TripRequest}
    (h : CacheCoherent w link s.routes.potentialCache)
    (ok : refreshTripRoutes w tick link incidentActive forceRefresh s trip = .ok s') :
    CacheCoherent w link s'.routes.potentialCache := by
  unfold refreshTripRoutes at ok
  split at ok
  · obtain rfl := Except.ok.inj ok
    exact h
  · split at ok
    · obtain rfl := Except.ok.inj ok
      exact h
    · obtain ⟨⟨set, cache⟩, refreshed, ok⟩ := bind_ok.mp ok
      obtain rfl := pure_ok.mp ok
      have refreshed := map_error_ok.mp refreshed
      unfold refreshOdRouteCandidateSet at refreshed
      split at refreshed
      · split at refreshed
        · obtain ⟨_, _, _, _, _, coherent⟩ := h.created rfl refreshed
          exact coherent
        · obtain ⟨rfl, rfl⟩ := Prod.mk.inj (Except.ok.inj refreshed)
          exact h
      · obtain ⟨_, _, _, _, _, coherent⟩ := h.created rfl refreshed
        exact coherent

theorem select_tail_coherent {s s' : ReroutePass p n cap} {currentLinkId destinationNodeId : ℤ}
    {selection : Option SelectedCandidateRoute} (h : CacheCoherent w link s.potentialCache)
    (ok : selectRerouteTail w tick link s currentLinkId destinationNodeId = .ok (selection, s')) :
    CacheCoherent w link s'.potentialCache := by
  unfold selectRerouteTail at ok
  split at ok
  · obtain ⟨_, rfl⟩ := Prod.mk.inj (Except.ok.inj ok)
    exact h
  · obtain ⟨⟨found, cache⟩, built, ok⟩ := bind_ok.mp ok
    obtain ⟨_, rfl⟩ := Prod.mk.inj (pure_ok.mp ok)
    have built := map_error_ok.mp built
    unfold buildRerouteTailSelection at built
    split at built
    · simp only at built
      split at built
      · obtain ⟨_, rfl⟩ := Prod.mk.inj (Except.ok.inj built)
        exact h
      · obtain ⟨⟨set, cache'⟩, created, built⟩ := bind_ok.mp built
        obtain ⟨_, _, built⟩ := bind_ok.mp built
        obtain ⟨_, rfl⟩ := Prod.mk.inj (pure_ok.mp built)
        obtain ⟨_, _, _, _, _, coherent⟩ := h.created rfl created
        exact coherent
    · obtain ⟨_, rfl⟩ := Prod.mk.inj (Except.ok.inj built)
      exact h

theorem reroute_slot_coherent {trigger : RerouteTrigger} {lookup : TurnLookup m}
    {skip : Finset (Fin cap)} {s s' : ReroutePass p n cap} {i : Fin cap}
    (h : CacheCoherent w link s.potentialCache)
    (ok : rerouteSlot w tick link trigger lookup skip s i = .ok s') :
    CacheCoherent w link s'.potentialCache := by
  unfold rerouteSlot at ok
  simp only at ok
  split at ok
  · obtain rfl := Except.ok.inj ok
    exact h
  · split at ok
    · obtain rfl := Except.ok.inj ok
      exact h
    · split at ok
      · obtain rfl := Except.ok.inj ok
        exact h
      · obtain ⟨⟨selection, chosen⟩, selected, ok⟩ := bind_ok.mp ok
        have kept := select_tail_coherent h selected
        split at ok
        · obtain rfl := pure_ok.mp ok
          exact kept
        · split at ok
          · obtain rfl := pure_ok.mp ok
            exact kept
          · obtain ⟨pool, _, ok⟩ := bind_ok.mp ok
            obtain rfl := pure_ok.mp ok
            exact kept

def refreshPass (w : World p n m) (s : SimulationState p n m cap) (forceRefresh : Bool)
    (past : List TripRequest) : Except SimError (RefreshPass p n) :=
  past.foldlM
    (refreshTripRoutes w s.tickIndex s.flow.linkState (decide (s.events.activeEvents ≠ []))
      (forceRefresh || decide (s.metadata.incidentTransitionTick = some s.tickIndex)))
    ⟨{ candidateSets := s.routes.candidateSets
       potentialCache := pruneStaleRoutePotentialCache w s.flow.linkState s.routes.potentialCache },
      []⟩

/-- The rerouting of a state's agents after some of the slots. -/
def reroutePass (w : World p n m) (s : SimulationState p n m cap) (trigger : RerouteTrigger)
    (lookup : TurnLookup m) (pool : ActiveAgentPool cap) (skip : Finset (Fin cap))
    (past : List (Fin cap)) : Except SimError (ReroutePass p n cap) :=
  past.foldlM (rerouteSlot w s.tickIndex s.flow.linkState trigger lookup skip) { pool := pool }

variable {s s' : SimulationState p n m cap}

theorem refresh_routes_ok {force : Bool} {routes : SimulationRouteCacheState p n}
    (h : refreshRuntimeRouteCandidates w s force = .ok routes) :
    ∃ pass, refreshPass w s force (routeRelevantTripRequests s.demand) = .ok pass ∧
      routes = pass.routes := by
  obtain ⟨pass, run, h⟩ := bind_ok.mp h
  exact ⟨pass, run, (pure_ok.mp h).symm⟩

theorem refresh_pass_coherent {force : Bool} {past : List TripRequest} {pass : RefreshPass p n}
    (h : CacheCoherent w s.flow.linkState s.routes.potentialCache)
    (run : refreshPass w s force past = .ok pass) :
    CacheCoherent w s.flow.linkState pass.routes.potentialCache :=
  fold_invariant (I := fun pass : RefreshPass p n =>
      CacheCoherent w s.flow.linkState pass.routes.potentialCache)
    (fun _ _ _ _ held step => refresh_trip_coherent held step) h.pruned run

theorem reroute_pass_coherent {trigger : RerouteTrigger} {lookup : TurnLookup m}
    {pool : ActiveAgentPool cap} {skip : Finset (Fin cap)} {past : List (Fin cap)}
    {pass : ReroutePass p n cap} (run : reroutePass w s trigger lookup pool skip past = .ok pass) :
    CacheCoherent w s.flow.linkState pass.potentialCache :=
  fold_invariant (I := fun pass : ReroutePass p n cap =>
      CacheCoherent w s.flow.linkState pass.potentialCache)
    (fun _ _ _ _ held step => reroute_slot_coherent held step) (.empty _) run

end Passes

section Runs

variable {s s' : SimulationState p n m cap}

def CachesCoherently (w : World p n m) (s : SimulationState p n m cap) : Prop :=
  CacheCoherent w s.flow.linkState s.routes.potentialCache

theorem CachesCoherently.effects (h : CachesCoherently w s) :
    CachesCoherently w (applyEventEffectsToFlowState w s) := by
  unfold applyEventEffectsToFlowState
  simp only
  split
  · exact h
  · split
    · rename_i unchanged
      exact h.of_same rfl rfl rfl unchanged
    · refine h.outdated (le_refl _) ?_ (.inr ?_)
      · exact (Int.lt_succ _).le
      · exact Int.lt_succ _

theorem CachesCoherently.due (h : CachesCoherently w s) (events : TrafficEventSchedulerState) :
    CachesCoherently w (dueState w s events) := by
  have started : CachesCoherently w { s with tickIndex := s.tickIndex + 1, events := events } := h
  obtain ⟨demand, activated, _⟩ := activate_due_keeps (s := applyEventEffectsToFlowState w
    { s with tickIndex := s.tickIndex + 1, events := events })
  rw [dueState, activated]
  exact started.effects

theorem advance_flow_generations {flow flow' : FlowState n m}
    (h : advanceFlowState w flow = .ok flow') :
    flow'.linkState.metadata.runtimeFlowGeneration =
        flow.linkState.metadata.runtimeFlowGeneration + 1 ∧
      flow'.linkState.metadata.runtimeIncidentGeneration =
        flow.linkState.metadata.runtimeIncidentGeneration := by
  obtain ⟨_, _, h⟩ := bind_ok.mp h
  obtain ⟨result, updated, h⟩ := bind_ok.mp h
  obtain rfl := pure_ok.mp h
  obtain ⟨_, arrays, k, t⟩ := update_link_node_flow_ok.mp (map_error_ok.mp updated)
  rw [t.after]
  exact ⟨rfl, rfl⟩

theorem caches_coherently_step {input : RunInput} (start : CachesCoherently w s)
    (h : advance w s input = .ok s') : CachesCoherently w s' := by
  cases kind : input.ticks with
  | true =>
    obtain ⟨events, parts, tick⟩ := advance_ticks kind h
    obtain ⟨pass, run, routes⟩ := refresh_routes_ok tick.refreshed
    have refreshed := refresh_pass_coherent (start.due events) run
    obtain ⟨_, metadata, _⟩ := apply_source_queue_increments_ok tick.queued
    obtain ⟨flow, incident⟩ := advance_flow_generations tick.flowed
    simp only [metadata] at flow incident
    rw [tick.after]
    refine (routes ▸ refreshed : CacheCoherent w _ parts.routes.potentialCache).outdated ?_ ?_ (.inl ?_)
    · exact flow ▸ (Int.lt_succ _).le
    · exact incident.ge
    · exact flow ▸ Int.lt_succ _
  | false =>
    cases input with
    | refreshRoutes force =>
      obtain ⟨routes, refreshed, h⟩ := bind_ok.mp h
      obtain rfl := pure_ok.mp h
      obtain ⟨pass, run, rfl⟩ := refresh_routes_ok refreshed
      have refreshed := refresh_pass_coherent start run
      exact refreshed
    | step control =>
      obtain ⟨events, rfl⟩ := simulation_step_pauses (by simpa [RunInput.ticks] using kind) h
      exact start

/-- Whatever a state's refresh and rerouting are served from their caches is what a fresh
build from the link state gives. -/
structure ServesFresh (w : World p n m) (s : SimulationState p n m cap) : Prop where
  refreshing : ∀ force past trip rest pass destinationNodeId potential,
    routeRelevantTripRequests s.demand = past ++ trip :: rest →
    refreshPass w s force past = .ok pass →
    Serves w s.flow.linkState pass.routes.potentialCache destinationNodeId potential →
      FreshPotential w s.flow.linkState destinationNodeId potential
  rerouting : ∀ trigger lookup pool skip past i rest pass destinationNodeId potential,
    List.finRange cap = past ++ i :: rest →
    reroutePass w s trigger lookup pool skip past = .ok pass →
    Serves w s.flow.linkState pass.potentialCache destinationNodeId potential →
      FreshPotential w s.flow.linkState destinationNodeId potential

theorem CachesCoherently.serves_fresh (h : CachesCoherently w s) : ServesFresh w s where
  refreshing _ _ _ _ _ destinationNodeId potential _ run served :=
    (refresh_pass_coherent h run).fresh destinationNodeId potential served
  rerouting _ _ _ _ _ _ _ _ destinationNodeId potential _ run served :=
    (reroute_pass_coherent run).fresh destinationNodeId potential served

/-- From an empty cache, in every state that a run reaches, and in the one that any events
then make of it for the next tick, only fresh potentials are served. -/
theorem served_potentials_fresh {steps : List (Taken (SimulationState p n m cap) RunInput)}
    (empty : s.routes.potentialCache = []) (run : Trace (advance w) s steps s') :
    ServesFresh w s' ∧ ∀ events, ServesFresh w (dueState w s' events) := by
  have coherent : CachesCoherently w s' := run.invariant (I := CachesCoherently w)
    (by rw [CachesCoherently, empty]; exact .empty _) fun _ _ _ => caches_coherently_step
  exact ⟨coherent.serves_fresh, fun events => (coherent.due events).serves_fresh⟩

theorem served_potentials_fresh_corridor :
    ∃ steps s', Trace (advance corridorWorld) corridorStart steps s' ∧ steps.length = 4 ∧
      ServesFresh corridorWorld s' := by
  obtain ⟨steps, s', run, length⟩ := corridor_run
  exact ⟨steps, s', run, length, (served_potentials_fresh rfl run).1⟩

end Runs

end Metroflow.Sim
