import Metroflow.Timing.State

namespace Metroflow.Timing

open Metroflow.Lib Metroflow.City Metroflow.Flow Metroflow.Routing Metroflow.Demand Metroflow.Sim

variable {p n m cap : ℕ} {O : Type} (w : World p n m) (py : Texts O)

section Build

/-- A part of the routing without statistics. -/
def routingStep {α : Type} (x : Except RoutingError α) : Except StepError α :=
  pureStep (x.mapError .routing)

/-- A congestion-aware cost-to-go field, served from the cache under a key. -/
def computeDynamicPotentialState (link : LinkState n) (request : CandidateRequest)
    (cache : PotentialCache RuntimeCacheKey p n) (key : RuntimeCacheKey) (stats : Stats O) :
    Timed ((DynamicPotentialState p n × PotentialCache RuntimeCacheKey p n) × Stats O) :=
  match cache.lookup (request.routingBackend, key) with
  | some cached => do
    let stats ← stats.count py "dynamic_potential_cache_hits_total" 1
    return ((cached, cache), stats)
  | none => do
    let ((built, stats), seconds) ← timedSeconds do
      let built ← routingStep (Routing.computeDynamicPotentialState w.rust w.net
        request.destinationNodeId (.linkState link) request.routingBackend cache (some key))
      let stats ← stats.count py "dynamic_potential_recompute_total" 1
      return (built, stats)
    let stats ← stats.addSeconds py "dynamic_potential_recompute_seconds_total" seconds
    return (built, stats)

def routeCandidateSet (request : CandidateRequest) (paths : List (List ℤ)) (costs factors : List ℚ) :
    Except RoutingError RouteCandidateSet :=
  if valid : ∀ path ∈ paths, ∀ linkId ∈ path, 0 ≤ linkId then
    .ok {
      odKey := request.odKey
      candidateIds := List.range paths.length
      candidatePaths := paths
      lastRefreshTick := request.currentTick
      originNodeId := some request.originNodeId
      destinationNodeId := some request.destinationNodeId
      candidatePathCosts := costs
      candidatePathSizeFactors := factors
      same_length := Routing.candidate_ids_length paths
      ids_unique := Routing.candidate_ids_unique paths
      link_ids_nonneg := valid }
  else .error .negativeLinkId

/-- A candidate set, and in the statistics how long its parts took. -/
def buildRouteCandidateSet (link : LinkState n) (request : CandidateRequest)
    (cache : PotentialCache RuntimeCacheKey p n) (key : RuntimeCacheKey) (stats : Stats O) :
    Timed ((RouteCandidateSet × PotentialCache RuntimeCacheKey p n) × Stats O) := do
  let ((built, stats), seconds) ← timedSeconds do
    routingStep (raiseIf (request.maxCandidates < 1) .maxCandidates)
    let (((potential, cache), stats), seconds) ← timedSeconds
      (computeDynamicPotentialState w py link request cache key stats)
    let stats ← stats.addSeconds py "route_candidate_potential_seconds_total" seconds
    let (paths, seconds) ← timedSeconds (routingStep (candidatePathsFor w.rust w.net potential request))
    let stats ← stats.addSeconds py "route_candidate_path_build_seconds_total" seconds
    let (((costs, factors), _), seconds) ← timedSeconds (routingStep (candidatePathMetadata w.net
      w.rust potential.linkTravelTimeCost paths request.routingBackend))
    let stats ← stats.addSeconds py "route_candidate_metadata_seconds_total" seconds
    let set ← routingStep (routeCandidateSet request paths costs factors)
    let stats ← stats.count py "route_candidate_refresh_total" 1
    return ((set, cache), stats)
  let stats ← stats.addSeconds py "route_candidate_refresh_seconds_total" seconds
  return (built, stats)

/-- Refreshes an OD candidate set if the policy requires, else counts that it is reused. -/
def refreshOdRouteCandidateSet (existing : Option RouteCandidateSet) (link : LinkState n)
    (request : CandidateRequest) (incidentActive forceRefresh : Bool)
    (cache : PotentialCache RuntimeCacheKey p n) (key : RuntimeCacheKey) (stats : Stats O) :
    Timed ((RouteCandidateSet × PotentialCache RuntimeCacheKey p n) × Stats O) :=
  let policy := w.refreshPolicy
  let request := { request with maxCandidates := policy.maxCandidates, maxHops := policy.maxHops }
  match matchingCandidateSet existing request with
  | some set =>
    if shouldRefreshRouteCandidateSet (some set) request.currentTick incidentActive forceRefresh
        policy then
      buildRouteCandidateSet w py link request cache key stats
    else do
      let stats ← stats.count py "route_candidate_reuse_total" 1
      return ((set, cache), stats)
  | none => buildRouteCandidateSet w py link request cache key stats

variable {stats stats' : Stats O}

/-- Equal values, and statistics that differ at most where the clock was written down. -/
def SameAndAlike {α : Type} (a b : α × Stats O) : Prop := a.1 = b.1 ∧ StatsAlike a.2 b.2

theorem same_lift {α : Type} (x : Except StepError α) :
    Indistinct Eq (liftM x : Timed α) (liftM x) :=
  .lift (.refl (fun _ => rfl) x)

theorem potential_indistinct (h : StatsAlike stats stats') (link : LinkState n)
    (request : CandidateRequest) (cache : PotentialCache RuntimeCacheKey p n)
    (key : RuntimeCacheKey) :
    Indistinct SameAndAlike (computeDynamicPotentialState w py link request cache key stats)
      (computeDynamicPotentialState w py link request cache key stats') := by
  unfold computeDynamicPotentialState
  split
  · refine Indistinct.bind (.lift (h.count (shown_of_spelled rfl (by decide)) 1))
      fun _ _ alike => ?_
    exact .pure ⟨rfl, alike⟩
  · refine Indistinct.bind (timed_seconds_indistinct (V := SameAndAlike) ?_) ?_
    · refine Indistinct.bind (same_lift _) fun built _ same => ?_
      subst same
      refine Indistinct.bind (.lift (h.count (shown_of_spelled rfl (by decide)) 1))
        fun _ _ alike => ?_
      exact .pure ⟨rfl, alike⟩
    · rintro ⟨⟨built, _⟩, seconds⟩ ⟨⟨_, _⟩, seconds'⟩ ⟨same, alike⟩
      obtain rfl : built = _ := same
      refine Indistinct.bind (.lift (alike.add_seconds (hidden_of_spelled rfl (by decide))
        (passing_of_spelled rfl (by decide)) _ _)) fun _ _ alike => ?_
      exact .pure ⟨rfl, alike⟩

theorem build_indistinct (h : StatsAlike stats stats') (link : LinkState n)
    (request : CandidateRequest) (cache : PotentialCache RuntimeCacheKey p n)
    (key : RuntimeCacheKey) :
    Indistinct SameAndAlike (buildRouteCandidateSet w py link request cache key stats)
      (buildRouteCandidateSet w py link request cache key stats') := by
  unfold buildRouteCandidateSet
  refine Indistinct.bind (timed_seconds_indistinct (V := SameAndAlike) ?_) ?_
  · refine Indistinct.bind (same_lift _) fun _ _ _ => ?_
    refine Indistinct.bind
      (timed_seconds_indistinct (potential_indistinct w py h link request cache key)) ?_
    rintro ⟨⟨⟨potential, cache⟩, _⟩, seconds⟩ ⟨⟨_, _⟩, seconds'⟩ ⟨same, alike⟩
    obtain rfl : (potential, cache) = _ := same
    refine Indistinct.bind (.lift (alike.add_seconds (hidden_of_spelled rfl (by decide))
      (passing_of_spelled rfl (by decide)) _ _)) fun _ _ alike => ?_
    refine Indistinct.bind (timed_seconds_indistinct (same_lift _)) ?_
    rintro ⟨paths, seconds⟩ ⟨_, seconds'⟩ same
    obtain rfl : paths = _ := same
    refine Indistinct.bind (.lift (alike.add_seconds (hidden_of_spelled rfl (by decide))
      (passing_of_spelled rfl (by decide)) _ _)) fun _ _ alike => ?_
    refine Indistinct.bind (timed_seconds_indistinct (same_lift _)) ?_
    rintro ⟨⟨⟨costs, factors⟩, by_⟩, seconds⟩ ⟨_, seconds'⟩ same
    obtain rfl : ((costs, factors), by_) = _ := same
    refine Indistinct.bind (.lift (alike.add_seconds (hidden_of_spelled rfl (by decide))
      (passing_of_spelled rfl (by decide)) _ _)) fun _ _ alike => ?_
    refine Indistinct.bind (same_lift _) fun set _ same => ?_
    subst same
    refine Indistinct.bind (.lift (alike.count (shown_of_spelled rfl (by decide)) 1))
      fun _ _ alike => ?_
    exact .pure ⟨rfl, alike⟩
  · rintro ⟨⟨built, _⟩, seconds⟩ ⟨⟨_, _⟩, seconds'⟩ ⟨same, alike⟩
    obtain rfl : built = _ := same
    refine Indistinct.bind (.lift (alike.add_seconds (hidden_of_spelled rfl (by decide))
      (passing_of_spelled rfl (by decide)) _ _)) fun _ _ alike => ?_
    exact .pure ⟨rfl, alike⟩

theorem refresh_od_indistinct (h : StatsAlike stats stats') (existing : Option RouteCandidateSet)
    (link : LinkState n) (request : CandidateRequest) (incidentActive forceRefresh : Bool)
    (cache : PotentialCache RuntimeCacheKey p n) (key : RuntimeCacheKey) :
    Indistinct SameAndAlike
      (refreshOdRouteCandidateSet w py existing link request incidentActive forceRefresh cache key
        stats)
      (refreshOdRouteCandidateSet w py existing link request incidentActive forceRefresh cache key
        stats') := by
  unfold refreshOdRouteCandidateSet
  simp only
  split
  · split
    · exact build_indistinct w py h link _ cache key
    · refine Indistinct.bind (.lift (h.count (shown_of_spelled rfl (by decide)) 1))
        fun _ _ alike => ?_
      exact .pure ⟨rfl, alike⟩
  · exact build_indistinct w py h link _ cache key

end Build

section Refresh

def refreshTripRoutes (tick : ℕ) (link : LinkState n) (incidentActive forceRefresh : Bool)
    (s : RefreshPass p n × Stats O) (trip : TripRequest) : Timed (RefreshPass p n × Stats O) :=
  match w.tripOdNodes trip with
  | none => return s
  | some (odKey, originNodeId, destinationNodeId) =>
    if odKey ∈ s.1.refreshedOdKeys then return s
    else do
      let request : CandidateRequest := {
        odKey := odKey
        originNodeId := originNodeId
        destinationNodeId := destinationNodeId
        currentTick := tick
        routingBackend := w.config.routingBackend }
      let ((set, cache), stats) ← refreshOdRouteCandidateSet w py
        (s.1.routes.candidateSets.lookup odKey) link request incidentActive forceRefresh
        s.1.routes.potentialCache (routePotentialCacheKey w link destinationNodeId) s.2
      return ({
        routes := ⟨s.1.routes.candidateSets.insert odKey set, cache⟩
        refreshedOdKeys := odKey :: s.1.refreshedOdKeys }, stats)

/-- How much a statistic has grown. -/
def growth (before stats : Stats O) (key : String) : Except StepError ℤ := do
  let now ← stats.intAt py key
  let prior ← before.intAt py key
  return now - prior

def routeTickCounters (before stats : Stats O) : Except StepError Counters := do
  let refreshed ← growth py before stats "route_candidate_refresh_total"
  let reused ← growth py before stats "route_candidate_reuse_total"
  let recomputed ← growth py before stats "dynamic_potential_recompute_total"
  let hits ← growth py before stats "dynamic_potential_cache_hits_total"
  let pruned ← growth py before stats "dynamic_potential_cache_pruned_total"
  let entries ← stats.intAt py "dynamic_potential_cache_entry_count"
  return [("route_candidate_refresh_this_tick", refreshed),
    ("route_candidate_reuse_this_tick", reused),
    ("dynamic_potential_recompute_this_tick", recomputed),
    ("dynamic_potential_cache_hits_this_tick", hits),
    ("dynamic_potential_cache_pruned_this_tick", pruned),
    ("dynamic_potential_cache_entry_count", entries)]

/-- Counts the entries that pruning has dropped, and those that are left. -/
def notePruned (stats : Stats O) (before after : ℕ) : Except StepError (Stats O) := do
  let stats ← (if before - after = 0 then .ok stats
    else stats.count py "dynamic_potential_cache_pruned_total" (before - after))
  return stats.set "dynamic_potential_cache_entry_count" (.int after)

/-- Refreshes or reuses the OD route candidates of the activated requests. -/
def refreshRuntimeRouteCandidates (rt : Runtime p n m cap O) (s : RuntimeState p n m cap O)
    (forceRefresh : Bool) : Timed (RuntimeState p n m cap O × Counters) := do
  let w := rt.world
  let core := s.core
  let link := core.flow.linkState
  let force := forceRefresh || decide (core.metadata.incidentTransitionTick = some core.tickIndex)
  let pruned := pruneStaleRoutePotentialCache w link core.routes.potentialCache
  let stats ← notePruned rt.py s.routeStats core.routes.potentialCache.length pruned.length
  let (pass, stats) ← (routeRelevantTripRequests core.demand).foldlM
    (refreshTripRoutes w rt.py core.tickIndex link (decide (core.events.activeEvents ≠ [])) force)
    (⟨{ candidateSets := core.routes.candidateSets, potentialCache := pruned }, []⟩, stats)
  let stats := stats.set "dynamic_potential_cache_entry_count"
    (.int pass.routes.potentialCache.length)
  let counters ← routeTickCounters rt.py s.routeStats stats
  return ({ s with
    core := { core with routes := pass.routes }
    routeStats := stats
    cacheGeneration := s.cacheGeneration + 1
    lastSignature := runtimeRouteCacheFingerprint rt pass.routes.candidateSets stats link }, counters)

variable {stats stats' before before' : Stats O}

theorem refresh_trip_indistinct {tick : ℕ} {link : LinkState n} {incidentActive forceRefresh : Bool}
    {trip : TripRequest} {s s' : RefreshPass p n × Stats O} (h : SameAndAlike s s') :
    Indistinct SameAndAlike (refreshTripRoutes w py tick link incidentActive forceRefresh s trip)
      (refreshTripRoutes w py tick link incidentActive forceRefresh s' trip) := by
  obtain ⟨pass, stats⟩ := s
  obtain ⟨_, stats'⟩ := s'
  obtain ⟨same, alike⟩ := h
  obtain rfl : pass = _ := same
  unfold refreshTripRoutes
  split
  · exact .pure ⟨rfl, alike⟩
  · simp only
    split
    · exact .pure ⟨rfl, alike⟩
    · refine Indistinct.bind (refresh_od_indistinct w py alike _ link _ _ _ _ _) ?_
      rintro ⟨⟨set, cache⟩, _⟩ ⟨_, _⟩ ⟨same, alike⟩
      obtain rfl : (set, cache) = _ := same
      exact .pure ⟨rfl, alike⟩

theorem growth_seen (h : StatsAlike before before') (h' : StatsAlike stats stats') {key : String}
    (seen : ¬ Hidden key) : growth py before stats key = growth py before' stats' key := by
  unfold growth
  rw [h.int_seen seen, h'.int_seen seen]

theorem route_counters_alike (h : StatsAlike before before') (h' : StatsAlike stats stats') :
    Outcome CountersAlike (routeTickCounters py before stats)
      (routeTickCounters py before' stats') := by
  unfold routeTickCounters
  rw [growth_seen py h h' (shown_of_spelled rfl (by decide)),
    growth_seen py h h' (shown_of_spelled rfl (by decide)),
    growth_seen py h h' (shown_of_spelled rfl (by decide)),
    growth_seen py h h' (shown_of_spelled rfl (by decide)),
    growth_seen py h h' (shown_of_spelled rfl (by decide)),
    h'.int_seen (shown_of_spelled rfl (by decide))]
  refine (Outcome.refl (fun _ => rfl) _).bind fun _ _ same => same ▸ ?_
  refine (Outcome.refl (fun _ => rfl) _).bind fun _ _ same => same ▸ ?_
  refine (Outcome.refl (fun _ => rfl) _).bind fun _ _ same => same ▸ ?_
  refine (Outcome.refl (fun _ => rfl) _).bind fun _ _ same => same ▸ ?_
  refine (Outcome.refl (fun _ => rfl) _).bind fun _ _ same => same ▸ ?_
  refine (Outcome.refl (fun _ => rfl) _).bind fun _ _ same => same ▸ ?_
  refine .ok (counters_seen ?_)
  simp only [List.map]
  apply spelled_all
  · repeat' constructor
  · simp only [hidden_spelled]
    decide

theorem note_pruned_alike (h : StatsAlike stats stats') (count after : ℕ) :
    Outcome StatsAlike (notePruned py stats count after) (notePruned py stats' count after) := by
  unfold notePruned
  refine Outcome.bind (V := StatsAlike) ?_ fun _ _ alike => .ok (alike.set (.same _))
  split
  · exact .ok h
  · exact h.count (shown_of_spelled rfl (by decide)) _

theorem refresh_indistinct (rt : Runtime p n m cap O) {s s' : RuntimeState p n m cap O}
    (h : s.Alike s') (forceRefresh : Bool) :
    Indistinct (fun a b => a.1.Alike b.1 ∧ CountersAlike a.2 b.2)
      (refreshRuntimeRouteCandidates rt s forceRefresh)
      (refreshRuntimeRouteCandidates rt s' forceRefresh) := by
  unfold refreshRuntimeRouteCandidates
  simp only
  rw [← h.core, ← h.generation]
  refine Indistinct.bind (.lift (note_pruned_alike rt.py h.stats _ _)) fun _ _ noted => ?_
  refine Indistinct.bind (V := SameAndAlike) (.fold ?_ ⟨rfl, noted⟩) ?_
  · exact fun trip _ _ _ alike => refresh_trip_indistinct rt.world rt.py alike
  · rintro ⟨pass, stats⟩ ⟨_, stats'⟩ ⟨same, alike⟩
    obtain rfl : pass = _ := same
    have counted : StatsAlike (stats.set "dynamic_potential_cache_entry_count"
        (.int pass.routes.potentialCache.length)) (stats'.set "dynamic_potential_cache_entry_count"
        (.int pass.routes.potentialCache.length)) := Dict.Alike.set alike (.same _)
    refine Indistinct.bind (.lift (route_counters_alike rt.py h.stats counted)) fun _ _ counters => ?_
    refine .pure ⟨{ h with core := rfl, stats := counted, generation := rfl, signature := ?_ }, counters⟩
    exact counted.fingerprint rt _ _

end Refresh

end Metroflow.Timing
