import Metroflow.Routing.Planned
import Metroflow.Sim.Init

namespace Metroflow.Sim

open Metroflow.Lib Metroflow.City Metroflow.Flow Metroflow.Routing

variable {p n m : ℕ} {net : RoadNetworkCSR p n m}

/-- The runtime takes a route: its path authority accepts it and the agent on
it finds a legal move at every place. -/
structure RuntimeAccepts (net : RoadNetworkCSR p n m) (node : NodeState n m) (path : List ℤ)
    (destNodeId : ℤ) : Prop where
  authority : ∃ lookup, runtimeTurnIndexLookup net node = .ok lookup ∧ ∀ context,
    validateRoutePathAuthority net lookup path destNodeId context = .ok ()
  moves : ∀ lookup, runtimeTurnIndexLookup net node = .ok lookup →
    ∀ ptr linkId, path[ptr]? = some linkId →
      (∃ t, routeIntent net lookup path ptr linkId destNodeId = .turn t) ∨
        ∃ l, routeIntent net lookup path ptr linkId destNodeId = .sink l

theorem LegalRoute.accepted {node : NodeState n m} (table : RunsTable net node) {path : List ℤ}
    {destNodeId : ℤ} (h : LegalRoute net net.turnPairToIndex path destNodeId) :
    RuntimeAccepts net node path destNodeId where
  authority := ⟨_, table.lookup, fun _ => (validate_route_ok net).mpr h⟩
  moves lookup found ptr linkId here := by
    obtain rfl := Except.ok.inj (table.lookup.symm.trans found)
    rcases h.intent net here with ⟨l, _, _, _, sink⟩ | ⟨t, _, _, _, turn⟩
    · exact .inr ⟨l, sink⟩
    · exact .inl ⟨t, turn⟩

theorem Follows.turn_pair (table : m ≠ 0) {a b : Fin n} (h : Follows net a b) :
    net.turnPairToIndex (net.links a).linkId (net.links b).linkId ≠ none := by
  obtain ⟨t, rfl, rfl, legal⟩ := h.resolve_left table
  rw [net.from_link, net.to_link, net.turn_pair_to_index_of_legal legal]
  exact Option.some_ne_none t

/-- Two links that may be driven in a row without returning to the start. -/
def Continuable (net : RoadNetworkCSR p n m) : Prop :=
  ∃ a b, 0 ≤ (net.links a).linkId ∧ 0 ≤ (net.links b).linkId ∧
    net.linkDstNodeIndex a = net.linkSrcNodeIndex b ∧
    net.linkDstNodeIndex b ≠ net.linkSrcNodeIndex a

theorem Planned.legal {request : CandidateRequest} {path : List ℤ} (h : Planned net request path)
    (nonneg : ∀ linkId ∈ path, 0 ≤ linkId) (agree : m ≠ 0 ∨ ¬ Continuable net) :
    LegalRoute net net.turnPairToIndex path request.destinationNodeId := by
  obtain ⟨origin, _, ls, node, nonempty, walk, rfl, there⟩ := h
  refine ⟨?_, ?_, ?_⟩
  · intro linkId listed
    obtain ⟨l, _, rfl⟩ := List.mem_map.mp listed
    exact ⟨l, net.link_id_to_index_self l⟩
  · have last := List.getLast?_eq_some_getLast nonempty
    refine ⟨ls.getLast nonempty, by simp [linkIds, last], ?_⟩
    rw [← net.dst_node, ← walk.end_node _ last]
    simpa using there
  · rw [linkIds, List.isChain_map]
    by_cases table : m = 0
    · have short : ¬ 2 ≤ ls.length := by
        intro two
        obtain ⟨a, b, rest, rfl, start, joined, away⟩ := walk.first_two two
        refine agree.resolve_left (not_not.mpr table) ⟨a, b, ?_, ?_, joined, ?_⟩
        · exact nonneg _ (by simp [linkIds])
        · exact nonneg _ (by simp [linkIds])
        · rw [start]
          exact away
      rcases ls with _ | ⟨l, _ | ⟨b, rest⟩⟩
      · exact List.isChain_nil
      · exact List.isChain_singleton l
      · exact absurd (by simp) short
    · exact walk.chain.imp fun a b follows => Follows.turn_pair table follows

section Forced

/-- The costs that leave two links as the only usable ones. -/
def forcedLinkState (a b : Fin n) : LinkState n :=
  createLinkState (fun l => if l = a ∨ l = b then 1 else infCost) (fun _ => 1)
    (fun l => by
      split
      · exact zero_lt_one
      · norm_num [infCost])
    (fun _ => zero_le_one)

variable (costs : Fin n → ℚ) (blocked : Fin n → Bool)

theorem relax_dist_le (cost : ℚ) (s : PotentialSearch p) (l : Fin n) (i : Fin p) :
    (relaxIncoming net costs blocked cost s l).dist i ≤ s.dist i := by
  unfold relaxIncoming
  split
  · exact le_refl _
  · split
    · rename_i less
      by_cases here : i = net.linkSrcNodeIndex l
      · subst here
        simpa using less.le
      · simp [here]
    · exact le_refl _

theorem relax_all_dist_le (cost : ℚ) (links : List (Fin n)) (s : PotentialSearch p) (i : Fin p) :
    (links.foldl (relaxIncoming net costs blocked cost) s).dist i ≤ s.dist i := by
  induction links generalizing s with
  | nil => exact le_refl _
  | cons l links ih => exact (ih _).trans (relax_dist_le costs blocked cost s l i)

theorem relax_all_source_le (cost : ℚ) {links : List (Fin n)} {l : Fin n} (listed : l ∈ links)
    (usable : blocked l = false) (s : PotentialSearch p) :
    (links.foldl (relaxIncoming net costs blocked cost) s).dist (net.linkSrcNodeIndex l) ≤
      cost + costs l := by
  induction links generalizing s with
  | nil => cases listed
  | cons first links ih =>
    rcases List.mem_cons.mp listed with rfl | later
    · refine (relax_all_dist_le costs blocked cost links _ _).trans ?_
      unfold relaxIncoming
      rw [usable]
      simp only [Bool.false_eq_true, if_false]
      split
      · simp
      · rename_i large
        exact not_lt.mp large
    · exact ih later _

theorem relax_nonneg {cost : ℚ} (start : 0 ≤ cost) (nonneg : ∀ l, 0 ≤ costs l)
    {s : PotentialSearch p} (h : (∀ i, 0 ≤ s.dist i) ∧ ∀ e ∈ s.heap, 0 ≤ e.1) (l : Fin n) :
    (∀ i, 0 ≤ (relaxIncoming net costs blocked cost s l).dist i) ∧
      ∀ e ∈ (relaxIncoming net costs blocked cost s l).heap, 0 ≤ e.1 := by
  unfold relaxIncoming
  have sum := add_nonneg start (nonneg l)
  split
  · exact h
  · split
    · refine ⟨fun i => ?_, fun e listed => ?_⟩
      · by_cases here : i = net.linkSrcNodeIndex l
        · subst here
          simpa using sum
        · simpa [here] using h.1 i
      · rcases List.mem_cons.mp listed with rfl | old
        · exact sum
        · exact h.2 e old
    · exact h

theorem relax_all_nonneg {cost : ℚ} (start : 0 ≤ cost) (nonneg : ∀ l, 0 ≤ costs l)
    (links : List (Fin n)) {s : PotentialSearch p}
    (h : (∀ i, 0 ≤ s.dist i) ∧ ∀ e ∈ s.heap, 0 ≤ e.1) :
    (∀ i, 0 ≤ (links.foldl (relaxIncoming net costs blocked cost) s).dist i) ∧
      ∀ e ∈ (links.foldl (relaxIncoming net costs blocked cost) s).heap, 0 ≤ e.1 := by
  induction links generalizing s with
  | nil => exact h
  | cons l links ih => exact ih (relax_nonneg costs blocked start nonneg h l)

theorem potential_pass_nonneg (nonneg : ∀ l, 0 ≤ costs l) {s s' : PotentialSearch p}
    (h : (∀ i, 0 ≤ s.dist i) ∧ ∀ e ∈ s.heap, 0 ≤ e.1)
    (run : potentialPass net costs blocked s = some s') :
    (∀ i, 0 ≤ s'.dist i) ∧ ∀ e ∈ s'.heap, 0 ≤ e.1 := by
  unfold potentialPass at run
  split at run
  · cases run
  · rename_i cost node rest popped
    have rest_nonneg : ∀ e ∈ rest, 0 ≤ e.1 :=
      fun e listed => h.2 e ((pop_min_mem popped).mpr (.inr listed))
    split at run
    · obtain rfl := Option.some.inj run
      exact ⟨h.1, rest_nonneg⟩
    · obtain rfl := Option.some.inj run
      exact relax_all_nonneg costs blocked (h.2 _ ((pop_min_mem popped).mpr (.inl rfl))) nonneg _
        ⟨h.1, rest_nonneg⟩

theorem potential_pass_dist_le {s s' : PotentialSearch p}
    (run : potentialPass net costs blocked s = some s') (i : Fin p) : s'.dist i ≤ s.dist i := by
  unfold potentialPass at run
  split at run
  · cases run
  · split at run
    · obtain rfl := Option.some.inj run
      exact le_refl _
    · obtain rfl := Option.some.inj run
      exact relax_all_dist_le costs blocked _ _ _ i

theorem node_costs_nonneg (nonneg : ∀ l, 0 ≤ costs l) (destination i : Fin p) :
    0 ≤ reverseDijkstraNodeCosts net costs blocked destination i := by
  have init : (∀ i, (0 : ℚ) ≤ if i = destination then 0 else infCost) ∧
      ∀ e ∈ [((0 : ℚ), destination)], 0 ≤ e.1 := by
    refine ⟨fun i => ?_, by simp⟩
    split
    · exact le_refl 0
    · norm_num [infCost]
  exact (loop_invariant (fun s s' h run => potential_pass_nonneg costs blocked nonneg h run)
    (n + 1) init).1 i

theorem node_cost_destination (destination : Fin p) :
    reverseDijkstraNodeCosts net costs blocked destination destination ≤ 0 :=
  loop_invariant (I := fun s : PotentialSearch p => s.dist destination ≤ 0)
    (fun _ _ h run => (potential_pass_dist_le costs blocked run destination).trans h) (n + 1)
    (by simp)

theorem node_cost_source {destination : Fin p} {l : Fin n}
    (arrives : net.linkDstNodeIndex l = destination) (usable : blocked l = false) :
    reverseDijkstraNodeCosts net costs blocked destination (net.linkSrcNodeIndex l) ≤ costs l := by
  unfold reverseDijkstraNodeCosts loop
  have first : potentialPass net costs blocked
      { dist := fun i => if i = destination then 0 else infCost, heap := [(0, destination)] } =
      some ((net.incomingLinkIndices destination).foldl (relaxIncoming net costs blocked 0)
        { dist := fun i => if i = destination then 0 else infCost, heap := [] }) := by
    simp [potentialPass, popMin]
  rw [first]
  refine loop_invariant
    (I := fun s : PotentialSearch p => s.dist (net.linkSrcNodeIndex l) ≤ costs l)
    (fun _ _ h run => (potential_pass_dist_le costs blocked run _).trans h) n ?_
  have relaxed : ((net.incomingLinkIndices destination).foldl (relaxIncoming net costs blocked 0)
      { dist := fun i => if i = destination then 0 else infCost, heap := [] }).dist
        (net.linkSrcNodeIndex l) ≤ 0 + costs l :=
    relax_all_source_le costs blocked 0 (net.mem_incoming.mpr arrives) usable _
  simpa using relaxed

variable {potential : DynamicPotentialState p n}

theorem only_usable_link {links : List (Fin n)} {a : Fin n} {cost : ℚ} (listed : a ∈ links)
    (usable : actionCost net potential a = some cost)
    (others : ∀ l, l ≠ a → l ∈ links → actionCost net potential l = none) :
    links.foldl (takeBetter net potential) none = some (cost, a) := by
  suffices general : ∀ (best : Option (ℚ × Fin n)), best = some (cost, a) ∨ best = none ∧ a ∈ links →
      links.foldl (takeBetter net potential) best = some (cost, a) from general none (.inr ⟨rfl, listed⟩)
  clear listed
  induction links with
  | nil =>
    rintro best (rfl | ⟨_, listed⟩)
    · rfl
    · cases listed
  | cons l links ih =>
    have later : ∀ l, l ≠ a → l ∈ links → actionCost net potential l = none :=
      fun l apart member => others l apart (List.mem_cons_of_mem _ member)
    intro best start
    rw [List.foldl_cons]
    apply ih later
    by_cases same : l = a
    · left
      subst same
      rcases start with rfl | ⟨rfl, _⟩ <;> simp [takeBetter, usable]
    · have skipped := others l same List.mem_cons_self
      have kept : takeBetter net potential best l = best := by simp [takeBetter, skipped]
      rw [kept]
      rcases start with found | ⟨empty, member⟩
      · exact .inl found
      · exact .inr ⟨empty, (List.mem_cons.mp member).resolve_left (Ne.symm same)⟩

variable (net) in
/-- From the start of the first link to the end of the second, with one candidate. -/
def forcedRequest (a b : Fin n) : CandidateRequest where
  odKey := (0, 0)
  originNodeId := (net.links a).srcNodeId
  destinationNodeId := (net.links b).dstNodeId
  currentTick := 0

variable (net) in
/-- The potential of the request over the forced costs. -/
def forcedPotential (a b : Fin n) : DynamicPotentialState p n where
  destinationNodeId := (net.links b).dstNodeId
  destinationNodeIndex := net.linkDstNodeIndex b
  nodeCostToGo := reverseDijkstraNodeCosts net
    (resolveLinkCosts net (.linkState (forcedLinkState a b)))
    (resolveBlockedLinkMask net (.linkState (forcedLinkState a b))) (net.linkDstNodeIndex b)
  linkTravelTimeCost := resolveLinkCosts net (.linkState (forcedLinkState a b))
  blockedLinkMask := resolveBlockedLinkMask net (.linkState (forcedLinkState a b))
  requested := .baseline
  computed := .host

variable {a b : Fin n}

variable (net) in
theorem forced_costs (l : Fin n) :
    resolveLinkCosts net (.linkState (forcedLinkState a b)) l =
      if l = a ∨ l = b then 1 else infCost := by
  simp only [resolveLinkCosts, forcedLinkState, createLinkState]
  split <;> norm_num [infCost, minLinkCost]

variable (net) in
theorem forced_costs_nonneg (l : Fin n) :
    0 ≤ resolveLinkCosts net (.linkState (forcedLinkState a b)) l := by
  rw [forced_costs]
  split <;> norm_num [infCost]

variable (net) in
theorem forced_open (l : Fin n) :
    resolveBlockedLinkMask net (.linkState (forcedLinkState a b)) l = false := by
  simp [resolveBlockedLinkMask, forcedLinkState, createLinkState]

theorem action_cost_some {l : Fin n} : (actionCost net potential l).isSome = true ↔
    potential.blockedLinkMask l = false ∧
      potential.nodeCostToGo (net.linkDstNodeIndex l) < infCost / 2 ∧
      potential.linkTravelTimeCost l + potential.nodeCostToGo (net.linkDstNodeIndex l) <
        infCost / 2 := by
  unfold actionCost
  simp only
  split
  · simp [*]
  · split
    · simp_all [not_lt.mpr]
    · split
      · simp_all [not_lt.mpr]
      · simp_all

theorem forced_action_cost (joined : net.linkDstNodeIndex a = net.linkSrcNodeIndex b) (l : Fin n) :
    (actionCost net (forcedPotential net a b) l).isSome = true ↔ l = a ∨ l = b := by
  have half : (1 : ℚ) + 1 < infCost / 2 := by norm_num [infCost]
  have tail_nonneg : 0 ≤ (forcedPotential net a b).nodeCostToGo (net.linkDstNodeIndex l) :=
    node_costs_nonneg _ _ (forced_costs_nonneg net) _ _
  have cost : (forcedPotential net a b).linkTravelTimeCost l = if l = a ∨ l = b then 1 else infCost :=
    forced_costs net l
  have usable : (forcedPotential net a b).blockedLinkMask l = false := forced_open net l
  rw [action_cost_some, cost]
  constructor
  · rintro ⟨_, _, total⟩
    by_contra other
    rw [if_neg other] at total
    linarith
  · intro one
    have near : (forcedPotential net a b).nodeCostToGo (net.linkDstNodeIndex l) ≤ 1 := by
      rcases one with rfl | rfl
      · rw [joined]
        refine (node_cost_source _ _ rfl (forced_open net b)).trans ?_
        rw [forced_costs, if_pos (.inr rfl)]
      · exact (node_cost_destination _ _ _).trans zero_le_one
    rw [if_pos one]
    exact ⟨usable, by linarith, by linarith⟩

theorem forced_best (table : m = 0) (joined : net.linkDstNodeIndex a = net.linkSrcNodeIndex b)
    {node : Fin p} {incomingLinkId : Option ℤ} {l : Fin n} (one : l = a ∨ l = b)
    (leaves : net.linkSrcNodeIndex l = node)
    (alone : ∀ l', l' = a ∨ l' = b → net.linkSrcNodeIndex l' = node → l' = l) :
    bestLegalNextLinkIdHost net (forcedPotential net a b) node incomingLinkId = some l := by
  obtain ⟨cost, usable⟩ := Option.isSome_iff_exists.mp ((forced_action_cost joined l).mpr one)
  have listed : l ∈ net.outgoingLinkIndices node := net.mem_outgoing.mpr leaves
  have unfiltered : filterLegalTurnSuccessors net (net.outgoingLinkIndices node) incomingLinkId =
      net.outgoingLinkIndices node := by
    unfold filterLegalTurnSuccessors
    cases incomingLinkId <;> simp [table]
  unfold bestLegalNextLinkIdHost
  rw [unfiltered, only_usable_link listed usable, Option.map_some]
  intro l' apart listed'
  rw [← Option.not_isSome_iff_eq_none, forced_action_cost joined]
  exact fun either => apart (alone l' either (net.mem_outgoing.mp listed'))

theorem source_ne_destination (l : Fin n) : net.linkSrcNodeIndex l ≠ net.linkDstNodeIndex l := by
  intro same
  apply (net.links l).ends_differ
  rw [← net.src_node, ← net.dst_node, same]

theorem forced_path (table : m = 0) (joined : net.linkDstNodeIndex a = net.linkSrcNodeIndex b) :
    buildGreedyRouteCandidateBaseline net (forcedPotential net a b) (net.linkSrcNodeIndex a) none
      64 = [(net.links a).linkId, (net.links b).linkId] := by
  have first : bestLegalNextLinkIdHost net (forcedPotential net a b) (net.linkSrcNodeIndex a)
      none = some a := by
    refine forced_best table joined (.inl rfl) rfl ?_
    rintro l (same | same) leaves
    · exact same
    · rw [same, ← joined] at leaves
      exact absurd leaves.symm (source_ne_destination a)
  have second : bestLegalNextLinkIdHost net (forcedPotential net a b) (net.linkDstNodeIndex a)
      (some (net.links a).linkId) = some b := by
    refine forced_best table joined (.inr rfl) joined.symm ?_
    rintro l (same | same) leaves
    · rw [same] at leaves
      exact absurd leaves (source_ne_destination a)
    · exact same
  have passing : (net.links a).dstNodeId ≠ (net.links b).dstNodeId := by
    rw [← net.dst_node, joined, net.src_node]
    exact (net.links b).ends_differ
  unfold buildGreedyRouteCandidateBaseline greedyWalk
  rw [first]
  simp only [forcedPotential, decide_eq_true_eq, passing, if_false, List.mem_singleton,
    (source_ne_destination a).symm]
  unfold greedyWalk
  have second' := second
  simp only [forcedPotential] at second'
  rw [second']
  simp

theorem forced_greedy (rust : RustExtension) (table : m = 0)
    (joined : net.linkDstNodeIndex a = net.linkSrcNodeIndex b)
    (away : net.linkDstNodeIndex b ≠ net.linkSrcNodeIndex a) :
    buildGreedyRouteCandidate net (forcedPotential net a b) rust (net.links a).srcNodeId none 64
      .baseline = .ok [(net.links a).linkId, (net.links b).linkId] := by
  have origin : net.nodeIdToIndex (net.links a).srcNodeId = some (net.linkSrcNodeIndex a) :=
    net.node_id_to_index_some.mpr (net.src_node a)
  have apart : (net.links a).srcNodeId ≠ (forcedPotential net a b).destinationNodeId := by
    simp only [forcedPotential]
    rw [← net.src_node, ← net.dst_node]
    exact fun same => away (net.node_ids_unique same).symm
  unfold buildGreedyRouteCandidate
  rw [if_neg apart, origin]
  refine bind_ok.mpr ⟨([(net.links a).linkId, (net.links b).linkId], .host), ?_, rfl⟩
  simp [dispatch, Except.map, forced_path table joined]

theorem forced_potential {κ : Type} [DecidableEq κ] (rust : RustExtension) :
    computeDynamicPotentialState rust net (net.links b).dstNodeId
      (.linkState (forcedLinkState a b)) .baseline ([] : PotentialCache κ p n) none =
        .ok (forcedPotential net a b, []) := by
  have destination : net.nodeIdToIndex (net.links b).dstNodeId = some (net.linkDstNodeIndex b) :=
    net.node_id_to_index_some.mpr (net.dst_node b)
  simp only [computeDynamicPotentialState, Option.bind_none, destination]
  rfl

theorem forced_candidate_set {κ : Type} [DecidableEq κ] (rust : RustExtension) (table : m = 0)
    (nonneg : 0 ≤ (net.links a).linkId ∧ 0 ≤ (net.links b).linkId)
    (joined : net.linkDstNodeIndex a = net.linkSrcNodeIndex b)
    (away : net.linkDstNodeIndex b ≠ net.linkSrcNodeIndex a) :
    ∃ set, createRouteCandidateSet rust net (.linkState (forcedLinkState a b))
        (forcedRequest net a b) ([] : PotentialCache κ p n) none = .ok (set, []) ∧
      set.candidatePaths = [[(net.links a).linkId, (net.links b).linkId]] := by
  refine create_candidate_set_of_paths (by simp [forcedRequest]) (forced_potential rust) ?_ rfl
    (by simpa using nonneg)
  unfold candidatePathsFor
  rw [if_pos (show (forcedRequest net a b).maxCandidates = 1 from rfl)]
  exact bind_ok.mpr ⟨_, forced_greedy rust table joined away, rfl⟩

end Forced

/-- Every path of every candidate set created over a network is one that the
runtime takes. -/
def PlannerAgrees (κ : Type) [DecidableEq κ] (net : RoadNetworkCSR p n m) : Prop :=
  ∀ (rust : RustExtension) (source : CostSource n) (request : CandidateRequest)
    (cache cache' : PotentialCache κ p n) (key : Option κ) (set : RouteCandidateSet)
    (node : NodeState n m), RunsTable net node →
    (∀ k s, key = some k → cache.lookup (request.routingBackend, k) = some s →
      Anchored net s request.destinationNodeId) →
    createRouteCandidateSet rust net source request cache key = .ok (set, cache') →
    ∀ path ∈ set.candidatePaths, RuntimeAccepts net node path request.destinationNodeId

/-- Route planning and the runtime agree on turn legality exactly over the
networks that have a turn table or never let two links be driven in a row. -/
theorem planner_agrees_iff (κ : Type) [DecidableEq κ] (net : RoadNetworkCSR p n m) :
    PlannerAgrees κ net ↔ m ≠ 0 ∨ ¬ Continuable net := by
  constructor
  · intro agrees
    by_contra disagree
    obtain ⟨table, continuable⟩ := not_or.mp disagree
    obtain ⟨a, b, nonneg_a, nonneg_b, joined, away⟩ := not_not.mp continuable
    have table := not_not.mp table
    obtain ⟨set, created, paths⟩ := forced_candidate_set RustExtension.missing (κ := κ) table
      ⟨nonneg_a, nonneg_b⟩ joined away
    have runs := RunsTable.initial net
    have taken := agrees _ _ _ _ _ _ _ _ runs (by simp) created
      [(net.links a).linkId, (net.links b).linkId] (by simp [paths])
    obtain ⟨lookup, found, accepted⟩ := taken.authority
    obtain rfl := Except.ok.inj (runs.lookup.symm.trans found)
    have legal := (validate_route_ok net).mp (accepted (.trip 0))
    have joined := (List.isChain_cons_cons.mp legal.turns).1
    subst table
    exact joined (by simp [RoadNetworkCSR.turnPairToIndex])
  · intro agree rust source request cache cache' key set node runs cached created path listed
    have planned := create_candidate_set_planned cached created path listed
    exact (Planned.legal planned (set.link_ids_nonneg path listed) agree).accepted runs

/-- Two links in a row, without a turn table. -/
def untabledNetwork : RoadNetworkCSR 3 2 0 where
  nodes := ![⟨0⟩, ⟨1⟩, ⟨2⟩]
  links := ![
    { linkId := 10, srcNodeId := 0, dstNodeId := 1, lengthM := 100, freeFlowSpeedMps := 10,
      capacityVehPerTick := 1, ends_differ := Lib.ids_zero_one, length_pos := Lib.hundred_pos,
      speed_pos := Lib.ten_pos, capacity_nonneg := Lib.one_nonneg, lanes_pos := Lib.one_lane },
    { linkId := 11, srcNodeId := 1, dstNodeId := 2, lengthM := 100, freeFlowSpeedMps := 10,
      capacityVehPerTick := 1, ends_differ := Lib.ids_one_two, length_pos := Lib.hundred_pos,
      speed_pos := Lib.ten_pos, capacity_nonneg := Lib.one_nonneg, lanes_pos := Lib.one_lane }]
  turns := Fin.elim0
  linkSrcNodeIndex := ![0, 1]
  linkDstNodeIndex := ![1, 2]
  turnFromLinkIndex := Fin.elim0
  turnToLinkIndex := Fin.elim0
  node_ids_unique := by decide
  link_ids_unique := by decide
  src_node := by decide
  dst_node := by decide
  from_link := by decide
  to_link := by decide
  turn_adjacent := by decide
  legal_pairs_unique := City.no_turns_unique
  crossing_links := by simp

/-- From its first node to its last. -/
def untabledRequest : CandidateRequest where
  odKey := (0, 2)
  originNodeId := 0
  destinationNodeId := 2
  currentTick := 0

/-- Without a turn table the planned route is refused at its first move. -/
theorem untabled_route_refused :
    ∃ set lookup, createRouteCandidateSet .missing untabledNetwork .freeFlow untabledRequest
        ([] : PotentialCache Unit 3 2) none = .ok (set, []) ∧ [10, 11] ∈ set.candidatePaths ∧
      runtimeTurnIndexLookup untabledNetwork (buildInitialNodeState untabledNetwork) = .ok lookup ∧
      ∀ context, validateRoutePathAuthority untabledNetwork lookup [10, 11] 2 context =
        .error (.route context (.illegalTurn 10 11)) := by
  have created : (createRouteCandidateSet .missing untabledNetwork .freeFlow untabledRequest
      ([] : PotentialCache Unit 3 2) none).map (fun r => (r.1.candidatePaths, r.2.length)) =
        .ok ([[10, 11]], 0) := by
    decide +kernel
  obtain ⟨⟨set, cache⟩, found, same⟩ := map_ok.mp created
  obtain ⟨paths, uncached⟩ := Prod.mk.inj same
  obtain rfl := List.length_eq_zero_iff.mp uncached
  refine ⟨set, _, found, ?_, (RunsTable.initial untabledNetwork).lookup, fun context => ?_⟩
  · simp only at paths
    simp [paths]
  · rfl

end Metroflow.Sim
