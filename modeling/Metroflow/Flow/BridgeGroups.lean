import Metroflow.Flow.EventEffects

namespace Metroflow.Flow

open Metroflow.Lib Metroflow.City

structure NetworkObject where
  {nodeCount linkCount turnCount : ℕ}
  network : RoadNetworkCSR nodeCount linkCount turnCount

namespace NetworkObject

def groups (road : NetworkObject) : BridgeGroups := bridgeGroupToLinkIds road.network

def cacheKey (road : NetworkObject) (identity : ℕ) : ℕ × ℕ × ℕ :=
  (identity, road.linkCount, road.network.bridgeCrossings.length)

end NetworkObject

def bridgeGroupCacheMax : ℕ := 32

abbrev BridgeGroupCache := Dict (ℕ × ℕ × ℕ) BridgeGroups

/-- Drops the entry inserted first if the cache is full. -/
def BridgeGroupCache.evict (cache : BridgeGroupCache) : BridgeGroupCache :=
  if bridgeGroupCacheMax ≤ cache.length then cache.tail else cache

def bridgeGroupLinkIdsCached (cache : BridgeGroupCache) (identity : ℕ) (road : NetworkObject) :
    BridgeGroupCache × BridgeGroups :=
  match cache.get (road.cacheKey identity) with
  | some cached => (cache, cached)
  | none => (cache.evict.set (road.cacheKey identity) road.groups, road.groups)

/-- The call of a process; a network without links is answered before the cache is read. -/
def callEventEffects (cache : BridgeGroupCache) (identity : ℕ) (road : NetworkObject)
    (activeEvents : List TrafficEvent) : BridgeGroupCache × EventEffects road.linkCount :=
  if road.linkCount = 0 then (cache, { multiplier := fun _ => 1 })
  else
    let (cache, groups) := bridgeGroupLinkIdsCached cache identity road
    (cache, eventEffectsWith road.network groups activeEvents)

/-- The networks alive in a process by their identities, and the cache that outlives them. -/
structure NetworkProcess where
  alive : Dict ℕ NetworkObject := []
  cache : BridgeGroupCache := []

inductive HistoryStep where
  | create (identity : ℕ) (road : NetworkObject)
  | discard (identity : ℕ)
  | call (identity : ℕ) (activeEvents : List TrafficEvent)

namespace NetworkProcess

/-- One step of a history. An identity in use is not given out again, and only a network
that is alive can be passed to a call. -/
def after (s : NetworkProcess) : HistoryStep → NetworkProcess
  | .create identity road =>
    match s.alive.get identity with
    | some _ => s
    | none => { s with alive := s.alive.set identity road }
  | .discard identity => { s with alive := s.alive.filter fun entry => entry.1 ≠ identity }
  | .call identity activeEvents =>
    match s.alive.get identity with
    | none => s
    | some road => { s with cache := (callEventEffects s.cache identity road activeEvents).1 }

def Right (s : NetworkProcess) : HistoryStep → Prop
  | .call identity activeEvents => ∀ road, s.alive.get identity = some road →
      (0 < road.linkCount →
        (bridgeGroupLinkIdsCached s.cache identity road).2 = road.groups) ∧
      (callEventEffects s.cache identity road activeEvents).2 =
        computeEventEffects road.network activeEvents
  | _ => True

def AllRight (s : NetworkProcess) : List HistoryStep → Prop
  | [] => True
  | step :: steps => s.Right step ∧ (s.after step).AllRight steps

def Fresh (s : NetworkProcess) : HistoryStep → Prop
  | .create identity road => s.alive.get identity = none → 0 < road.linkCount →
      ∀ groups, s.cache.get (road.cacheKey identity) = some groups → groups = road.groups
  | _ => True

def AllFresh (s : NetworkProcess) : List HistoryStep → Prop
  | [] => True
  | step :: steps => s.Fresh step ∧ (s.after step).AllFresh steps

/-- The cache is bounded and holds for no network alive the groups of another. -/
structure Serves (s : NetworkProcess) : Prop where
  distinct : (s.cache.map Prod.fst).Nodup
  bounded : s.cache.length ≤ bridgeGroupCacheMax
  own : ∀ identity road, s.alive.get identity = some road → 0 < road.linkCount →
    ∀ groups, s.cache.get (road.cacheKey identity) = some groups → groups = road.groups

theorem Serves.start : Serves {} where
  distinct := List.nodup_nil
  bounded := Nat.zero_le _
  own identity road alive := by cases alive

end NetworkProcess

namespace BridgeGroupCache

variable {cache : BridgeGroupCache} {key : ℕ × ℕ × ℕ} {groups : BridgeGroups}

theorem evict_sublist : (evict cache).Sublist cache := by
  unfold evict
  split
  · exact List.tail_sublist cache
  · exact List.Sublist.refl cache

theorem evict_distinct (distinct : (cache.map Prod.fst).Nodup) :
    ((evict cache).map Prod.fst).Nodup :=
  (evict_sublist.map Prod.fst).nodup distinct

theorem get_of_evict (distinct : (cache.map Prod.fst).Nodup)
    (kept : Dict.get (evict cache) key = some groups) : Dict.get cache key = some groups := by
  rw [Dict.get_eq_some_iff (evict_distinct distinct)] at kept
  exact (Dict.get_eq_some_iff distinct).mpr (evict_sublist.subset kept)

theorem evict_length (bounded : cache.length ≤ bridgeGroupCacheMax) :
    (evict cache).length < bridgeGroupCacheMax := by
  unfold evict
  split
  · rename_i full
    have some_entry : 0 < bridgeGroupCacheMax := by decide
    rw [List.length_tail]
    omega
  · omega

theorem set_length (cache : BridgeGroupCache) :
    (Dict.set cache key groups).length ≤ cache.length + 1 := by
  induction cache with
  | nil => exact le_rfl
  | cons entry cache ih =>
    unfold Dict.set
    split
    · exact Nat.le_succ _
    · exact Nat.succ_le_succ ih

end BridgeGroupCache

namespace NetworkProcess

variable {s : NetworkProcess} {identity : ℕ} {road : NetworkObject}

theorem after_create (free : s.alive.get identity = none) :
    s.after (.create identity road) = { s with alive := s.alive.set identity road } := by
  simp only [after, free]

theorem after_call (alive : s.alive.get identity = some road) (activeEvents : List TrafficEvent) :
    s.after (.call identity activeEvents) =
      { s with cache := (callEventEffects s.cache identity road activeEvents).1 } := by
  simp only [after, alive]

theorem lookup_serves (h : Serves s) (alive : s.alive.get identity = some road)
    (some_link : 0 < road.linkCount) :
    Serves { s with cache := (bridgeGroupLinkIdsCached s.cache identity road).1 } ∧
      (bridgeGroupLinkIdsCached s.cache identity road).2 = road.groups := by
  unfold bridgeGroupLinkIdsCached
  cases found : s.cache.get (road.cacheKey identity) with
  | some cached => exact ⟨h, h.own identity road alive some_link cached found⟩
  | none =>
    refine ⟨⟨Dict.nodup_keys_set (BridgeGroupCache.evict_distinct h.distinct), ?_, ?_⟩, rfl⟩
    · exact (BridgeGroupCache.set_length _).trans (BridgeGroupCache.evict_length h.bounded)
    · intro other road' alive' some_link' groups kept
      change Dict.get (Dict.set s.cache.evict _ _) _ = some groups at kept
      rw [Dict.get_set] at kept
      split at kept
      · rename_i same
        obtain rfl : other = identity := congrArg Prod.fst same
        obtain rfl : road' = road := Option.some.inj (alive'.symm.trans alive)
        exact (Option.some.inj kept).symm
      · exact h.own other road' alive' some_link' groups
          (BridgeGroupCache.get_of_evict h.distinct kept)

theorem call_right (h : Serves s) (activeEvents : List TrafficEvent) :
    s.Right (.call identity activeEvents) := by
  intro road alive
  refine ⟨fun some_link => (lookup_serves h alive some_link).2, ?_⟩
  unfold callEventEffects computeEventEffects
  split
  · rename_i none
    unfold eventEffectsWith
    rw [if_pos none]
  · rename_i some_link
    have own := (lookup_serves h alive (Nat.pos_of_ne_zero some_link)).2
    simp only [own, NetworkObject.groups]

theorem Serves.after (h : Serves s) {step : HistoryStep} (fresh : s.Fresh step) :
    Serves (s.after step) := by
  cases step with
  | create identity road =>
    cases taken : s.alive.get identity with
    | some other => simpa only [NetworkProcess.after, taken] using h
    | none =>
      rw [after_create taken]
      refine ⟨h.distinct, h.bounded, fun other road' alive some_link groups found => ?_⟩
      change Dict.get (Dict.set s.alive identity road) other = some road' at alive
      rw [Dict.get_set] at alive
      split at alive
      · rename_i here
        obtain rfl := here
        obtain rfl := Option.some.inj alive
        exact fresh taken some_link groups found
      · exact h.own other road' alive some_link groups found
  | discard identity =>
    refine ⟨h.distinct, h.bounded, fun other road alive some_link groups found => ?_⟩
    change Dict.get (s.alive.filter _) other = some road at alive
    rw [Dict.get_filter_ne] at alive
    split at alive
    · cases alive
    · exact h.own other road alive some_link groups found
  | call identity activeEvents =>
    cases alive : s.alive.get identity with
    | none => simpa only [NetworkProcess.after, alive] using h
    | some road =>
      rw [after_call alive, callEventEffects]
      split
      · exact h
      · rename_i some_link
        exact (lookup_serves h alive (Nat.pos_of_ne_zero some_link)).1

theorem Serves.right (h : Serves s) (step : HistoryStep) : s.Right step := by
  cases step with
  | create identity road => exact trivial
  | discard identity => exact trivial
  | call identity activeEvents => exact call_right h activeEvents

theorem Serves.all_right (h : Serves s) {steps : List HistoryStep} (fresh : s.AllFresh steps) :
    s.AllRight steps := by
  induction steps generalizing s with
  | nil => exact trivial
  | cons step steps ih => exact ⟨h.right step, ih (h.after fresh.1) fresh.2⟩

end NetworkProcess

open NetworkProcess

/-- Every call of a history goes by the groups of its own network, as long as each new network
finds no entry of another under its key; one that does is served wrongly at its first call. -/
theorem bridge_group_cache_serves (steps : List HistoryStep) :
    (AllFresh {} steps → AllRight {} steps) ∧
      ∀ s identity road, Serves s → s.alive.get identity = none →
        ((∀ steps, (s.after (.create identity road)).AllFresh steps →
            (s.after (.create identity road)).AllRight steps) ↔
          s.Fresh (.create identity road)) := by
  refine ⟨fun fresh => Serves.start.all_right fresh, fun s identity road serves free =>
    ⟨fun right => ?_, fun fresh steps later => (serves.after fresh).all_right later⟩⟩
  intro _ some_link groups found
  have created : (s.after (.create identity road)).alive.get identity = some road := by
    rw [after_create free]
    exact Dict.get_set_self
  have used := ((right [.call identity []] ⟨trivial, trivial⟩).1 road created).1 some_link
  rw [after_create free, bridgeGroupLinkIdsCached, found] at used
  exact used

def thereAndBack (bridge : Fin 2) : NetworkObject where
  nodeCount := 2
  linkCount := 2
  turnCount := 0
  network := {
    nodes := ![⟨1⟩, ⟨2⟩]
    links := ![
      { linkId := 10, srcNodeId := 1, dstNodeId := 2, lengthM := 100, freeFlowSpeedMps := 10,
        capacityVehPerTick := 1, bridgeGroupId := if bridge = 0 then some 1 else none,
        ends_differ := Lib.ids_one_two, length_pos := Lib.hundred_pos, speed_pos := Lib.ten_pos,
        capacity_nonneg := Lib.one_nonneg, lanes_pos := Lib.one_lane },
      { linkId := 20, srcNodeId := 2, dstNodeId := 1, lengthM := 100, freeFlowSpeedMps := 10,
        capacityVehPerTick := 1, bridgeGroupId := if bridge = 1 then some 1 else none,
        ends_differ := by norm_num, length_pos := Lib.hundred_pos, speed_pos := Lib.ten_pos,
        capacity_nonneg := Lib.one_nonneg, lanes_pos := Lib.one_lane }]
    turns := Fin.elim0
    linkSrcNodeIndex := ![0, 1]
    linkDstNodeIndex := ![1, 0]
    turnFromLinkIndex := Fin.elim0
    turnToLinkIndex := Fin.elim0
    node_ids_unique := City.two_nodes_unique
    link_ids_unique := by revert bridge; decide
    src_node := by revert bridge; decide
    dst_node := by revert bridge; decide
    from_link := fun t => t.elim0
    to_link := fun t => t.elim0
    turn_adjacent := fun t => t.elim0
    legal_pairs_unique := City.no_turns_unique
    crossing_links := by simp }

def bridgeClosure : TrafficEvent :=
  { eventId := 5, startTick := 0, endTick := 9, targetScope := { bridgeGroupId := some 1 },
    severity := 1, effectModel := .closure, status := .active,
    start_before_end := by decide, severity_unit := Lib.one_unit }

/-- Two networks alive one after the other at different identities. -/
theorem bridge_group_cache_serves_two_identities :
    AllRight {} [.create 7 (thereAndBack 0), .call 7 [bridgeClosure], .discard 7,
      .create 8 (thereAndBack 1), .call 8 [bridgeClosure]] :=
  (bridge_group_cache_serves _).1
    ⟨fun _ _ _ found => (by cases found), trivial, trivial,
      fun _ _ _ found => (by cases found), trivial, trivial⟩

/-- The second network gets the identity of the first: its bridge is on the road 20, and
the closure shuts the road 10. -/
theorem reused_identity_closes_another_road :
    let s := [HistoryStep.create 7 (thereAndBack 0), .call 7 [], .discard 7,
      .create 7 (thereAndBack 1)].foldl NetworkProcess.after {}
    s.alive.get 7 = some (thereAndBack 1) ∧
      (bridgeGroupLinkIdsCached s.cache 7 (thereAndBack 1)).2 = [(1, [10])] ∧
      (thereAndBack 1).groups = [(1, [20])] ∧
      (callEventEffects s.cache 7 (thereAndBack 1) [bridgeClosure]).2.affectedLinkIds = [10] ∧
      (computeEventEffects (thereAndBack 1).network [bridgeClosure]).affectedLinkIds = [20] :=
  ⟨rfl, by decide +kernel, by decide +kernel, by decide +kernel, by decide +kernel⟩

end Metroflow.Flow
