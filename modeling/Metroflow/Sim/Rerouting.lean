import Metroflow.Sim.Init
import Metroflow.Sim.RouteRefresh

namespace Metroflow.Sim

open Metroflow.Lib Metroflow.City Metroflow.Flow Metroflow.Routing

variable {p n m cap : ℕ} (w : World p n m)

/-- Why agents reconsider their routes at a state, if they do. -/
def runtimeRerouteTrigger (s : SimulationState p n m cap) : Option RerouteTrigger :=
  if s.metadata.incidentTransitionTick = some s.tickIndex then
    some (.incidentTransition (s.metadata.incidentTransition.getD .changed))
  else if s.events.activeEvents ≠ [] then some .incident
  else if s.tickIndex % max 1 w.config.routeRefreshIntervalTicks = 0 then some .refreshInterval
  else none

/-- The route after the current link: behind the pointer while it is in place,
else behind the first occurrence of the link. -/
def remainingRouteTailAfterCurrent (path : List ℤ) (ptr : ℕ) (currentLinkId : ℤ) : List ℤ :=
  if path[ptr]? = some currentLinkId then path.drop (ptr + 1)
  else if currentLinkId ∈ path then path.drop (path.idxOf currentLinkId + 1)
  else []

def routePrefixThroughCurrent (path : List ℤ) (ptr : ℕ) (currentLinkId : ℤ) : List ℤ :=
  if path[ptr]? = some currentLinkId then path.take (ptr + 1)
  else if currentLinkId ∈ path then path.take (path.idxOf currentLinkId + 1)
  else [currentLinkId]

/-- The travel time over a path; none where a link is unknown or has no cost. -/
def pathLinkCost (net : RoadNetworkCSR p n m) (link : LinkState n) (path : List ℤ) : Option ℚ :=
  (path.mapM fun linkId => (net.linkIdToIndex linkId).bind fun l =>
    if link.travelTimeCost l ≤ 0 then none else some (link.travelTimeCost l)).map List.sum

/-- The profile listed last under the id, else the default one. -/
def routeChoiceProfileForSlot (behaviorProfileId : ℤ) : RouteChoiceProfile :=
  (w.routeChoiceProfiles.reverse.find? fun profile =>
    profile.behaviorProfileId = behaviorProfileId).getD
    (defaultRouteChoiceProfile behaviorProfileId)

/-- The rerouting pass, with the caches that its agents share. -/
structure ReroutePass (p n cap : ℕ) where
  pool : ActiveAgentPool cap
  potentialCache : PotentialCache RuntimeCacheKey p n := []
  selectionCache : AList (fun _ : ℤ × ℤ => Option SelectedCandidateRoute) := ∅

section Pass

variable (tick : ℕ) (link : LinkState n)

def buildRerouteTailSelection (currentLinkId destinationNodeId : ℤ)
    (cache : PotentialCache RuntimeCacheKey p n) :
    Except RoutingError (Option SelectedCandidateRoute × PotentialCache RuntimeCacheKey p n) :=
  match w.net.linkIdToIndex currentLinkId, w.net.nodeIdToIndex destinationNodeId with
  | some l, some _ =>
    let originNodeId := (w.net.links l).dstNodeId
    if originNodeId = destinationNodeId then .ok (none, cache)
    else do
      let (set, cache) ← createRouteCandidateSet w.rust w.net (.linkState link) {
        odKey := (originNodeId, destinationNodeId)
        originNodeId := originNodeId
        destinationNodeId := destinationNodeId
        currentTick := tick
        incomingLinkId := some currentLinkId
        maxCandidates := max 1 w.config.routeMaxCandidates
        maxHops := max 1 w.config.routeMaxHops
        routingBackend := w.config.routingBackend } cache
        (some (routePotentialCacheKey w link destinationNodeId))
      let selection ← selectCandidateRoute w.log w.rust (some set) w.config.routePathSizeGamma
        w.config.routingBackend
      return (selection, cache)
  | _, _ => .ok (none, cache)

def selectRerouteTail (s : ReroutePass p n cap) (currentLinkId destinationNodeId : ℤ) :
    Except SimError (Option SelectedCandidateRoute × ReroutePass p n cap) :=
  match s.selectionCache.lookup (currentLinkId, destinationNodeId) with
  | some selection => .ok (selection, s)
  | none => do
    let (selection, cache) ← (buildRerouteTailSelection w tick link currentLinkId
      destinationNodeId s.potentialCache).mapError .routing
    return (selection, { s with
      potentialCache := cache
      selectionCache := s.selectionCache.insert (currentLinkId, destinationNodeId) selection })

variable (trigger : RerouteTrigger) (lookup : TurnLookup m)

/-- An agent decides between its tail and a new one, and notes why. -/
def rerouteOrPersist (pool : ActiveAgentPool cap) (i : Fin cap) (existingTail : List ℤ)
    (selection : SelectedCandidateRoute) : Except SimError (ActiveAgentPool cap) := do
  let slot := pool.slots i
  let memory := pool.memory i
  let decision ← (decideRerouteVsPersist w.rust (routeChoiceProfileForSlot w slot.behaviorProfileId)
    (pathLinkCost w.net link existingTail) (pathLinkCost w.net link selection.path)
    w.config.routingBackend).mapError .routing
  let cooled := pool.withSlot i
    { slot with rerouteCooldownTicks := decision.nextRerouteCooldownTicks }
  let noted := { memory with
    lastReroute := some ⟨tick, trigger, decision.reason, decision.improvementRatio⟩ }
  if decision.shouldReroute then do
    let nextPath := routePrefixThroughCurrent memory.routePath slot.remainingRoutePtr
      slot.currentLinkId ++ selection.path
    validateRoutePathAuthority w.net lookup nextPath slot.destNodeId (.rerouteSlot i)
    return cooled.withMemory i { noted with routePath := nextPath, selected := some selection }
  else return cooled.withMemory i noted

def rerouteSlot (skip : Finset (Fin cap)) (s : ReroutePass p n cap) (i : Fin cap) :
    Except SimError (ReroutePass p n cap) :=
  let slot := s.pool.slots i
  if slot.alive = false ∨ i ∈ skip then .ok s
  else if 0 < slot.rerouteCooldownTicks then
    .ok { s with
      pool := s.pool.withSlot i { slot with rerouteCooldownTicks := slot.rerouteCooldownTicks - 1 } }
  else
    let existingTail := remainingRouteTailAfterCurrent (s.pool.memory i).routePath
      slot.remainingRoutePtr slot.currentLinkId
    if existingTail = [] then .ok s
    else do
      let (selection, s) ← selectRerouteTail w tick link s slot.currentLinkId slot.destNodeId
      match selection with
      | none => return s
      | some selection =>
        if selection.path = [] ∨ selection.path = existingTail then return s
        else do
          let pool ← rerouteOrPersist w tick link trigger lookup s.pool i existingTail selection
          return { s with pool := pool }

end Pass

/-- Lets the agents that were not just admitted reconsider their routes. -/
def applyRuntimeReroutePolicy (s : SimulationState p n m cap) (lookup : TurnLookup m)
    (pool : ActiveAgentPool cap) (skip : Finset (Fin cap)) :
    Except SimError (ActiveAgentPool cap) :=
  match runtimeRerouteTrigger w s with
  | none => .ok pool
  | some trigger =>
    if pool.aliveCount = 0 then .ok pool
    else do
      let pass ← (List.finRange cap).foldlM
        (rerouteSlot w s.tickIndex s.flow.linkState trigger lookup skip) { pool := pool }
      return pass.pool

/-- What rerouting keeps of a pool: all of its slots but the cooldowns, and of
the memories their identity and that the agents are on their routes. -/
structure KeepsAgents (net : RoadNetworkCSR p n m) (lookup : TurnLookup m)
    (pool pool' : ActiveAgentPool cap) : Prop where
  stack : pool'.freeSlotStack = pool.freeSlotStack
  alive_count : pool'.aliveCount = pool.aliveCount
  slots : ∀ i, ∃ cooldown, pool'.slots i = { pool.slots i with rerouteCooldownTicks := cooldown }
  route : ∀ i, OnRoute net lookup (pool.slots i) (pool.pluginMemory i) →
    OnRoute net lookup (pool'.slots i) (pool'.pluginMemory i)

section Keeps

variable {net : RoadNetworkCSR p n m} {lookup : TurnLookup m}
  {pool pool' pool'' : ActiveAgentPool cap}

theorem KeepsAgents.refl (pool : ActiveAgentPool cap) : KeepsAgents net lookup pool pool :=
  ⟨rfl, rfl, fun _ => ⟨_, rfl⟩, fun _ route => route⟩

theorem KeepsAgents.trans (h : KeepsAgents net lookup pool pool')
    (h' : KeepsAgents net lookup pool' pool'') : KeepsAgents net lookup pool pool'' where
  stack := h'.stack.trans h.stack
  alive_count := h'.alive_count.trans h.alive_count
  slots i := by
    obtain ⟨_, first⟩ := h.slots i
    obtain ⟨cooldown, second⟩ := h'.slots i
    exact ⟨cooldown, by rw [second, first]⟩
  route i route := h'.route i (h.route i route)

theorem keeps_agents_of_slot (i : Fin cap) (cooldown : ℕ) (memory : Option RouteMemory)
    (route : OnRoute net lookup (pool.slots i) (pool.pluginMemory i) →
      OnRoute net lookup (pool.slots i) memory)
    (stack : pool'.freeSlotStack = pool.freeSlotStack)
    (alive_count : pool'.aliveCount = pool.aliveCount)
    (slots : pool'.slots = Function.update pool.slots i
      { pool.slots i with rerouteCooldownTicks := cooldown })
    (memories : pool'.pluginMemory = Function.update pool.pluginMemory i memory) :
    KeepsAgents net lookup pool pool' where
  stack := stack
  alive_count := alive_count
  slots j := by
    by_cases here : j = i
    · subst here
      exact ⟨cooldown, by rw [slots, Function.update_self]⟩
    · exact ⟨_, by rw [slots, Function.update_of_ne here]⟩
  route j on := by
    by_cases here : j = i
    · subst here
      rw [slots, memories, Function.update_self, Function.update_self]
      exact route on
    · rw [slots, memories, Function.update_of_ne here, Function.update_of_ne here]
      exact on

end Keeps

theorem prefix_keeps_place {path tail : List ℤ} {ptr : ℕ} {currentLinkId : ℤ}
    (here : path[ptr]? = some currentLinkId) :
    (routePrefixThroughCurrent path ptr currentLinkId ++ tail)[ptr]? = some currentLinkId := by
  obtain ⟨inside, _⟩ := List.getElem?_eq_some_iff.mp here
  rw [routePrefixThroughCurrent, if_pos here, List.getElem?_append_left (by simp; omega),
    List.getElem?_take_of_succ, here]

section Spec

variable {w} {tick : ℕ} {link : LinkState n} {trigger : RerouteTrigger} {lookup : TurnLookup m}
  {skip : Finset (Fin cap)}

theorem select_reroute_tail_pool {s s' : ReroutePass p n cap} {currentLinkId destNodeId : ℤ}
    {selection : Option SelectedCandidateRoute}
    (h : selectRerouteTail w tick link s currentLinkId destNodeId = .ok (selection, s')) :
    s'.pool = s.pool := by
  unfold selectRerouteTail at h
  split at h
  · obtain ⟨_, rfl⟩ := Prod.mk.inj (Except.ok.inj h)
    rfl
  · obtain ⟨_, _, h⟩ := bind_ok.mp h
    obtain ⟨_, rfl⟩ := Prod.mk.inj (pure_ok.mp h)
    rfl

theorem reroute_or_persist_keeps {pool pool' : ActiveAgentPool cap} {i : Fin cap}
    {existingTail : List ℤ} {selection : SelectedCandidateRoute}
    (h : rerouteOrPersist w tick link trigger lookup pool i existingTail selection = .ok pool') :
    KeepsAgents w.net lookup pool pool' := by
  obtain ⟨decision, _, h⟩ := bind_ok.mp h
  have remembered : ∀ {memory : RouteMemory}, pool.pluginMemory i = some memory →
      pool.memory i = memory := by
    intro memory found
    simp [ActiveAgentPool.memory, found]
  split at h
  · obtain ⟨_, legal, h⟩ := bind_ok.mp h
    obtain rfl := pure_ok.mp h
    refine keeps_agents_of_slot i _ _ ?_ rfl rfl rfl rfl
    intro on alive
    obtain ⟨memory, found, own, here, _⟩ := on alive
    rw [remembered found] at legal ⊢
    exact ⟨_, rfl, own, prefix_keeps_place here, (validate_route_ok w.net).mp legal⟩
  · obtain rfl := pure_ok.mp h
    refine keeps_agents_of_slot i _ _ ?_ rfl rfl rfl rfl
    intro on alive
    obtain ⟨memory, found, own, here, route⟩ := on alive
    rw [remembered found]
    exact ⟨_, rfl, own, here, route⟩

theorem reroute_slot_keeps {s s' : ReroutePass p n cap} {i : Fin cap}
    (h : rerouteSlot w tick link trigger lookup skip s i = .ok s') :
    KeepsAgents w.net lookup s.pool s'.pool := by
  unfold rerouteSlot at h
  simp only at h
  split at h
  · obtain rfl := Except.ok.inj h
    exact .refl _
  · split at h
    · obtain rfl := Except.ok.inj h
      exact keeps_agents_of_slot i _ _ id rfl rfl rfl (Function.update_eq_self i _).symm
    · split at h
      · obtain rfl := Except.ok.inj h
        exact .refl _
      · obtain ⟨⟨selection, t⟩, selected, h⟩ := bind_ok.mp h
        have same := select_reroute_tail_pool selected
        split at h
        · obtain rfl := pure_ok.mp h
          rw [same]
          exact .refl _
        · split at h
          · obtain rfl := pure_ok.mp h
            rw [same]
            exact .refl _
          · obtain ⟨pool, decided, h⟩ := bind_ok.mp h
            obtain rfl := pure_ok.mp h
            rw [same] at decided
            exact reroute_or_persist_keeps decided

theorem apply_reroute_policy_keeps {s : SimulationState p n m cap} {pool pool' : ActiveAgentPool cap}
    (h : applyRuntimeReroutePolicy w s lookup pool skip = .ok pool') :
    KeepsAgents w.net lookup pool pool' := by
  unfold applyRuntimeReroutePolicy at h
  split at h
  · obtain rfl := Except.ok.inj h
    exact .refl _
  · split at h
    · obtain rfl := Except.ok.inj h
      exact .refl _
    · obtain ⟨pass, run, h⟩ := bind_ok.mp h
      obtain rfl := pure_ok.mp h
      exact fold_invariant (I := fun pass : ReroutePass p n cap => KeepsAgents w.net lookup pool pass.pool)
        (fun i _ s s' kept step => kept.trans (reroute_slot_keeps step)) (.refl _) run

end Spec

end Metroflow.Sim
