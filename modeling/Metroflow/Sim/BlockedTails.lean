import Metroflow.Sim.Coupling

namespace Metroflow.Sim

open Metroflow.Lib Metroflow.City Metroflow.Flow Metroflow.Routing

variable {p n m cap : ℕ}

/-- The travel time over a path where a link may take forever; none where a link is
unknown, without cost or endless. -/
def pathTravelTime (net : RoadNetworkCSR p n m) (times : Fin n → Option ℚ) (path : List ℤ) :
    Option ℚ :=
  (path.mapM fun linkId => (net.linkIdToIndex linkId).bind fun l => (times l).bind fun time =>
    if time ≤ 0 then none else some time).map List.sum

theorem path_travel_time_endless {net : RoadNetworkCSR p n m} {times : Fin n → Option ℚ}
    {path : List ℤ} {l : Fin n} (on : (net.links l).linkId ∈ path) (endless : times l = none) :
    pathTravelTime net times path = none := by
  unfold pathTravelTime
  rw [Option.map_eq_none_iff]
  induction path with
  | nil => cases on
  | cons linkId path ih =>
    rw [List.mapM_cons]
    rcases List.mem_cons.mp on with rfl | later
    · rw [net.link_id_to_index_self]
      simp [endless]
    · simp [ih later]

def KeepsTail (reason : RerouteDecisionReason) : Prop :=
  reason = .invalidCosts ∨ reason = .insufficientImprovement ∨ reason = .persistence

theorem not_keeps_tail {reason : RerouteDecisionReason} : ¬ KeepsTail reason ↔ reason = .reroute := by
  cases reason <;> simp [KeepsTail]

def saving (current candidate : ℚ) : ℚ := (current - candidate) / max current (1 / 1000000)

/-- Both tails have a travel time, and the candidate saves so much of the current one that
the profile's trigger score comes up to its resistance. -/
def Worthwhile (profile : RouteChoiceProfile) (current candidate : Option ℚ) : Prop :=
  ∃ a b, current = some a ∧ candidate = some b ∧ 0 < a ∧ 0 < b ∧
    minImprovementRatio ≤ saving a b ∧
    persistenceResistance profile ≤ computeRerouteTriggerScoreCore profile (saving a b)

variable {rust : RustExtension} {profile : RouteChoiceProfile} {backend : RoutingBackend}

theorem reroute_core_ok {improvement : ℚ} {result : (Bool × ℚ) × Computed}
    (h : computeRerouteDecisionCore rust profile improvement backend = .ok result) :
    result.1 = (decide (persistenceResistance profile ≤
        computeRerouteTriggerScoreCore profile improvement ∧ 0 < profile.rerouteWillingness),
      computeRerouteTriggerScoreCore profile improvement) := by
  obtain ⟨decision, computed⟩ := result
  rcases dispatch_ok h with compiled | host
  · exact (Except.ok.inj (RustExtension.call_ok compiled)).symm
  · exact (Except.ok.inj host).symm

theorem decision_leaves_tail_iff {current candidate : Option ℚ} {decision : RerouteDecision}
    (willing : 0 < profile.rerouteWillingness)
    (h : decideRerouteVsPersist rust profile current candidate backend = .ok decision) :
    ¬ KeepsTail decision.reason ↔ Worthwhile profile current candidate := by
  rw [not_keeps_tail]
  unfold decideRerouteVsPersist at h
  split at h
  · rename_i a b
    split at h
    · rename_i invalid
      obtain rfl := Except.ok.inj h
      simp only [Worthwhile, Option.some.injEq, reduceCtorEq, false_iff]
      rintro ⟨a, b, rfl, rfl, a_pos, b_pos, _⟩
      exact invalid.elim (not_le.mpr a_pos) (not_le.mpr b_pos)
    · rename_i valid
      dsimp only at h
      obtain ⟨a_pos, b_pos⟩ := not_or.mp valid
      have ratio_pos : 0 < minImprovementRatio := by norm_num [minImprovementRatio]
      split at h
      · rename_i small
        obtain rfl := Except.ok.inj h
        simp only [Worthwhile, Option.some.injEq, reduceCtorEq, false_iff]
        rintro ⟨a, b, rfl, rfl, _, _, enough, _⟩
        exact absurd (enough.trans (le_max_right 0 _)) (not_le.mpr small)
      · rename_i enough
        have saved : max 0 ((a - b) / max a (1 / 1000000)) = saving a b := by
          refine max_eq_right (le_of_not_gt fun negative => enough ?_)
          rw [max_eq_left negative.le]
          exact ratio_pos
        rw [saved] at h enough
        obtain ⟨⟨⟨should, score⟩, computed⟩, core, h⟩ := bind_ok.mp h
        obtain ⟨rfl, rfl⟩ := Prod.mk.inj (reroute_core_ok core)
        obtain rfl := pure_ok.mp h
        simp [Worthwhile, not_le.mp a_pos, not_le.mp b_pos, not_lt.mp enough, willing]
  · rename_i missing
    obtain rfl := Except.ok.inj h
    simp only [Worthwhile, reduceCtorEq, false_iff]
    rintro ⟨a, b, rfl, rfl, _⟩
    exact missing a b rfl rfl

section Runtime

variable {w : World p n m} {tick : ℕ} {link : LinkState n} {trigger : RerouteTrigger}
  {lookup : TurnLookup m} {skip : Finset (Fin cap)} {s s₁ s' : ReroutePass p n cap} {i : Fin cap}
  {selection : SelectedCandidateRoute}

theorem reroute_or_persist_note {pool pool' : ActiveAgentPool cap} {existingTail : List ℤ}
    (h : rerouteOrPersist w tick link trigger lookup pool i existingTail selection = .ok pool') :
    ∃ decision, decideRerouteVsPersist w.rust
        (routeChoiceProfileForSlot w (pool.slots i).behaviorProfileId)
        (pathLinkCost w.net link existingTail) (pathLinkCost w.net link selection.path)
        w.config.routingBackend = .ok decision ∧
      (pool'.memory i).lastReroute =
        some ⟨tick, trigger, decision.reason, decision.improvementRatio⟩ := by
  obtain ⟨decision, decided, h⟩ := bind_ok.mp h
  refine ⟨decision, map_error_ok.mp decided, ?_⟩
  split at h
  · obtain ⟨_, _, h⟩ := bind_ok.mp h
    obtain rfl := pure_ok.mp h
    simp [ActiveAgentPool.memory]
  · obtain rfl := pure_ok.mp h
    simp [ActiveAgentPool.memory]

abbrev closed (w : World p n m) (link : LinkState n) : Fin n → Bool :=
  resolveBlockedLinkMask w.net (.linkState link)

/-- An agent before a closed link, for whom the search has found an open tail. -/
structure BeforeClosed (w : World p n m) (tick : ℕ) (link : LinkState n)
    (skip : Finset (Fin cap)) (s : ReroutePass p n cap) (i : Fin cap) (tail : List ℤ)
    (selection : SelectedCandidateRoute) : Prop where
  alive : (s.pool.slots i).alive = true
  turn : i ∉ skip
  cooled : (s.pool.slots i).rerouteCooldownTicks = 0
  willing : 0 < (routeChoiceProfileForSlot w (s.pool.slots i).behaviorProfileId).rerouteWillingness
  tail_eq : remainingRouteTailAfterCurrent (s.pool.memory i).routePath
    (s.pool.slots i).remainingRoutePtr (s.pool.slots i).currentLinkId = tail
  shut : ∃ l, (w.net.links l).linkId ∈ tail ∧ closed w link l = true
  found : ∃ s₁, selectRerouteTail w tick link s (s.pool.slots i).currentLinkId
    (s.pool.slots i).destNodeId = .ok (some selection, s₁)
  nonempty : selection.path ≠ []
  detour : ∀ linkId ∈ selection.path, ∃ l, (w.net.links l).linkId = linkId ∧
    closed w link l = false

theorem BeforeClosed.decides {tail : List ℤ} (h : BeforeClosed w tick link skip s i tail selection)
    (run : rerouteSlot w tick link trigger lookup skip s i = .ok s') :
    ∃ pool, rerouteOrPersist w tick link trigger lookup s.pool i tail selection = .ok pool ∧
      s'.pool = pool := by
  obtain ⟨l, on, shut⟩ := h.shut
  obtain ⟨s₁, found⟩ := h.found
  have some_tail : tail ≠ [] := List.ne_nil_of_mem on
  have other : selection.path ≠ tail := by
    rintro same
    obtain ⟨l', sameId, isOpen⟩ := h.detour _ (same ▸ on)
    obtain rfl := w.net.link_ids_unique sameId
    exact absurd (shut.symm.trans isOpen) (by simp)
  have same := select_reroute_tail_pool found
  unfold rerouteSlot at run
  simp only [h.alive, h.turn, h.cooled, h.tail_eq, some_tail, Bool.true_eq_false, or_self,
    lt_irrefl, if_false] at run
  rw [found] at run
  obtain ⟨pool, decided, rest⟩ := bind_ok.mp (by
    simpa only [bind, Except.bind, h.nonempty, other, or_self, if_false, same] using run)
  exact ⟨pool, decided, by rw [← pure_ok.mp rest]⟩

end Runtime

/-- A way by two links and a direct one. -/
def detourNetwork : RoadNetworkCSR 4 4 3 where
  nodes := ![⟨1⟩, ⟨2⟩, ⟨3⟩, ⟨4⟩]
  links := ![
    { linkId := 10, srcNodeId := 1, dstNodeId := 2, lengthM := 100, freeFlowSpeedMps := 10,
      capacityVehPerTick := 2, ends_differ := Lib.ids_one_two, length_pos := Lib.hundred_pos,
      speed_pos := Lib.ten_pos, capacity_nonneg := by norm_num, lanes_pos := Lib.one_lane },
    { linkId := 11, srcNodeId := 2, dstNodeId := 3, lengthM := 100, freeFlowSpeedMps := 10,
      capacityVehPerTick := 2, ends_differ := by norm_num, length_pos := Lib.hundred_pos,
      speed_pos := Lib.ten_pos, capacity_nonneg := by norm_num, lanes_pos := Lib.one_lane },
    { linkId := 12, srcNodeId := 3, dstNodeId := 4, lengthM := 100, freeFlowSpeedMps := 10,
      capacityVehPerTick := 2, ends_differ := by norm_num, length_pos := Lib.hundred_pos,
      speed_pos := Lib.ten_pos, capacity_nonneg := by norm_num, lanes_pos := Lib.one_lane },
    { linkId := 20, srcNodeId := 2, dstNodeId := 4, lengthM := 100, freeFlowSpeedMps := 10,
      capacityVehPerTick := 2, ends_differ := by norm_num, length_pos := Lib.hundred_pos,
      speed_pos := Lib.ten_pos, capacity_nonneg := by norm_num, lanes_pos := Lib.one_lane }]
  turns := ![
    { fromLinkId := 10, toLinkId := 11, turnType := .through, priority_nonneg := Lib.one_nonneg },
    { fromLinkId := 10, toLinkId := 20, turnType := .right, priority_nonneg := Lib.one_nonneg },
    { fromLinkId := 11, toLinkId := 12, turnType := .through, priority_nonneg := Lib.one_nonneg }]
  linkSrcNodeIndex := ![0, 1, 2, 1]
  linkDstNodeIndex := ![1, 2, 3, 3]
  turnFromLinkIndex := ![0, 0, 1]
  turnToLinkIndex := ![1, 3, 2]
  node_ids_unique := by decide
  link_ids_unique := by decide
  src_node := by decide
  dst_node := by decide
  from_link := by decide
  to_link := by decide
  turn_adjacent := by decide
  legal_pairs_unique := by decide
  crossing_links := by simp

def detourWorld : World 4 4 3 where
  config := corridorWorld.config
  net := detourNetwork

/-- Its second link is closed; the two links of the way take as long as given. -/
def closedWay (time : ℚ) (pos : 0 < time) : LinkState 4 :=
  createLinkState ![1, time, time, 3] ![2, 0, 2, 2]
    (by simp [Fin.forall_fin_succ, pos]) (by simp [Fin.forall_fin_succ])

/-- One agent, on its way by the two links. -/
def detourPass : ReroutePass 4 4 1 where
  pool := {
    freeSlotStack := []
    aliveCount := 1
    slots := fun _ => ActiveAgentSlot.spawn 101 1 10 4 0
    pluginMemory := fun _ => some { routePath := [10, 11, 12], tripRequestId := some 1 }
    counts := rfl }

def notedReason (link : LinkState 4) : Except SimError (Option RerouteDecisionReason) :=
  (rerouteSlot detourWorld 8 link .incident detourNetwork.turnPairToIndex ∅ detourPass 0).map
    fun s => (s.pool.memory 0).lastReroute.map RerouteNote.reason

theorem detour_before_closed {link : LinkState 4}
    (shut : closed detourWorld link = ![false, true, false, false])
    (found : (selectRerouteTail detourWorld 8 link detourPass 10 4).map
      (fun r => r.1.map SelectedCandidateRoute.path) = .ok (some [20])) :
    ∃ selection, selection.path = [20] ∧
      BeforeClosed detourWorld 8 link ∅ detourPass 0 [11, 12] selection := by
  obtain ⟨⟨chosen, s₁⟩, selected, same⟩ := map_ok.mp found
  obtain ⟨selection, rfl, path⟩ : ∃ selection, chosen = some selection ∧ selection.path = [20] :=
    Option.map_eq_some_iff.mp same
  refine ⟨selection, path, rfl, by simp, rfl, by decide +kernel, rfl, ⟨1, by decide, by rw [shut]; rfl⟩,
    ⟨s₁, selected⟩, by simp [path], fun linkId on => ?_⟩
  rw [path, List.mem_singleton] at on
  exact ⟨3, on.symm, by rw [shut]; rfl⟩

end Metroflow.Sim
