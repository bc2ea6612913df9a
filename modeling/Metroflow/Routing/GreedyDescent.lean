import Metroflow.Routing.CostToGo

namespace Metroflow.Routing

open Metroflow.Lib Metroflow.City

variable {p n m : ℕ} {net : RoadNetworkCSR p n m} {potential : DynamicPotentialState p n}

theorem mem_outgoing_allowed {node : Fin p} {incoming : Option (Fin n)} {l : Fin n} :
    l ∈ outgoingAllowed net node incoming ↔
      net.linkSrcNodeIndex l = node ∧ ∀ a, incoming = some a → Follows net a l := by
  refine ⟨outgoing_allowed_mem, fun ⟨leaves, follows⟩ => ?_⟩
  unfold outgoingAllowed allowedSuccessorsForIncoming
  cases incoming with
  | none => simpa using leaves
  | some a =>
    rcases follows a rfl with table | ⟨t, from_a, to_l, legal⟩
    · simpa [table] using leaves
    · have some_turn : m ≠ 0 := by
        rintro rfl
        exact t.elim0
      have listed : l ∈ allSuccessors net a := by
        simpa [allSuccessors] using ⟨t, from_a, to_l⟩
      have allowed : l ∈ allowedSuccessors net a := by
        simpa [allowedSuccessors] using ⟨t, from_a, to_l, legal⟩
      simp [some_turn, List.ne_nil_of_mem listed, List.ne_nil_of_mem allowed, leaves, allowed]

theorem action_cost_some {l : Fin n} {total : ℚ} : actionCost net potential l = some total ↔
    potential.blockedLinkMask l = false ∧
      potential.nodeCostToGo (net.linkDstNodeIndex l) < infCost / 2 ∧
      potential.linkTravelTimeCost l + potential.nodeCostToGo (net.linkDstNodeIndex l) = total ∧
      total < infCost / 2 := by
  unfold actionCost
  dsimp only
  split_ifs with blocked far costly
  · simp [blocked]
  · simp [not_lt.mpr far]
  · simp only [false_iff]
    rintro ⟨_, _, rfl, affordable⟩
    exact absurd affordable (not_lt.mpr costly)
  · simp only [Option.some.injEq, blocked, not_le.mp far, true_and]
    constructor
    · rintro rfl
      exact ⟨rfl, not_le.mp costly⟩
    · exact fun h => h.1

theorem take_better_least {links : List (Fin n)} {best : Option (ℚ × Fin n)}
    {l : Fin n} {total : ℚ} (cost : actionCost net potential l = some total)
    (given : l ∈ links ∨ ∃ b, best = some b ∧ b.1 ≤ total) :
    ∃ b, links.foldl (takeBetter net potential) best = some b ∧ b.1 ≤ total := by
  induction links generalizing best with
  | nil => exact given.resolve_left List.not_mem_nil
  | cons next links ih =>
    refine ih ?_
    rcases given with listed | ⟨b, rfl, low⟩
    · rcases List.mem_cons.mp listed with rfl | later
      · right
        unfold takeBetter
        rw [cost]
        cases best with
        | none => exact ⟨_, rfl, le_rfl⟩
        | some b =>
          dsimp only
          split_ifs with better
          · exact ⟨_, rfl, le_rfl⟩
          · exact ⟨_, rfl, not_lt.mp fun less => better (.inl less)⟩
      · exact .inl later
    · right
      unfold takeBetter
      cases actionCost net potential next with
      | none => exact ⟨b, rfl, low⟩
      | some other =>
        dsimp only
        split_ifs with better
        · refine ⟨_, rfl, le_trans ?_ low⟩
          exact better.elim le_of_lt fun same => same.1.le
        · exact ⟨b, rfl, low⟩

theorem take_better_cost {links : List (Fin n)} {best : Option (ℚ × Fin n)} {b : ℚ × Fin n}
    (h : links.foldl (takeBetter net potential) best = some b)
    (given : ∀ b, best = some b → actionCost net potential b.2 = some b.1) :
    actionCost net potential b.2 = some b.1 := by
  induction links generalizing best with
  | nil => exact given b h
  | cons next links ih =>
    refine ih h fun b' kept => ?_
    unfold takeBetter at kept
    split at kept
    · exact given b' kept
    · rename_i total cost
      obtain rfl := Option.some.inj kept
      exact cost
    · rename_i total c l cost
      split at kept
      · obtain rfl := Option.some.inj kept
        exact cost
      · exact given b' kept

/-- A potential's cost-to-go field is what the host search makes of its own costs and mask. -/
structure OwnField (net : RoadNetworkCSR p n m) (potential : DynamicPotentialState p n) : Prop where
  anchored : Anchored net potential potential.destinationNodeId
  field : potential.nodeCostToGo = reverseDijkstraNodeCosts net potential.linkTravelTimeCost
    potential.blockedLinkMask potential.destinationNodeIndex

section Potential

variable {costs : Fin n → ℚ} {blocked : Fin n → Bool} {destination : Fin p} {dist : Fin p → ℚ}

theorem path_cost_nonneg {ls : List (Fin n)} (nonneg : ∀ l, 0 ≤ costs l) :
    0 ≤ pathCost costs ls :=
  List.sum_nonneg fun c listed => by
    obtain ⟨l, _, rfl⟩ := List.mem_map.mp listed
    exact nonneg l

theorem CostToGo.link_le (h : CostToGo net costs blocked destination dist)
    (nonneg : ∀ l, 0 ≤ costs l) {l : Fin n} (isOpen : blocked l = false) :
    dist (net.linkSrcNodeIndex l) ≤ costs l + dist (net.linkDstNodeIndex l) := by
  rcases h.attained (net.linkDstNodeIndex l) with cut | ⟨ls, path, cost⟩
  · rw [cut]
    exact (h.below _).trans (le_add_of_nonneg_left (nonneg l))
  · have through := h.least _ _ (.take isOpen path)
    simpa [pathCost, ← cost] using through

theorem CostToGo.link_attained (h : CostToGo net costs blocked destination dist)
    (nonneg : ∀ l, 0 ≤ costs l) {v : Fin p} (short : v ≠ destination) (reached : dist v < infCost) :
    ∃ l, net.linkSrcNodeIndex l = v ∧ blocked l = false ∧
      costs l + dist (net.linkDstNodeIndex l) = dist v := by
  obtain ⟨ls, path, cost⟩ := (h.attained v).resolve_left reached.ne
  cases path with
  | arrived => exact absurd rfl short
  | @take l ls isOpen rest =>
    refine ⟨l, rfl, isOpen, le_antisymm ?_ (h.link_le nonneg isOpen)⟩
    have tail := h.least _ _ rest
    rw [← cost]
    simpa [pathCost] using tail

theorem CostToGo.destination_zero (h : CostToGo net costs blocked destination dist)
    (nonneg : ∀ l, 0 ≤ costs l) : dist destination = 0 := by
  refine le_antisymm (h.least _ _ .arrived) ?_
  rcases h.attained destination with cut | ⟨ls, _, cost⟩
  · rw [cut]
    norm_num [infCost]
  · rw [← cost]
    exact path_cost_nonneg nonneg

end Potential

/-- Wherever links meet, one may follow the other. -/
def AllTurns (net : RoadNetworkCSR p n m) : Prop :=
  ∀ a b, net.linkDstNodeIndex a = net.linkSrcNodeIndex b → Follows net a b

section Descent

variable (own : OwnField net potential) (turns : AllTurns net)
  (bounded : ∀ l, minLinkCost ≤ potential.linkTravelTimeCost l)
include own bounded

omit own in
theorem link_cost_pos (l : Fin n) : 0 < potential.linkTravelTimeCost l :=
  lt_of_lt_of_le (by norm_num [minLinkCost]) (bounded l)

theorem own_field_cost_to_go : CostToGo net potential.linkTravelTimeCost potential.blockedLinkMask
    potential.destinationNodeIndex potential.nodeCostToGo := by
  rw [own.field]
  exact reverse_dijkstra_cost_to_go fun l => (link_cost_pos bounded l).le

include turns in
theorem best_link_attained {node : Fin p} {incoming : Option (Fin n)}
    (short : node ≠ potential.destinationNodeIndex)
    (cheap : potential.nodeCostToGo node < infCost / 2)
    (entered : ∀ a, incoming = some a → net.linkDstNodeIndex a = node) :
    ∃ l, bestLegalNextLinkIdHost net potential node (lastLinkId net incoming) = some l ∧
      net.linkSrcNodeIndex l = node ∧ potential.blockedLinkMask l = false ∧
      potential.linkTravelTimeCost l + potential.nodeCostToGo (net.linkDstNodeIndex l) =
        potential.nodeCostToGo node := by
  have field := own_field_cost_to_go own bounded
  have nonneg : ∀ l, 0 ≤ potential.linkTravelTimeCost l := fun l => (link_cost_pos bounded l).le
  have half : infCost / 2 < infCost := by norm_num [infCost]
  obtain ⟨l, leaves, isOpen, attained⟩ := field.link_attained nonneg short (cheap.trans half)
  have tail : potential.nodeCostToGo (net.linkDstNodeIndex l) < infCost / 2 := by
    linarith [nonneg l]
  have allowed : l ∈ outgoingAllowed net node incoming :=
    mem_outgoing_allowed.mpr ⟨leaves, fun a known => turns a l ((entered a known).trans leaves.symm)⟩
  obtain ⟨b, found, low⟩ : ∃ b, (outgoingAllowed net node incoming).foldl
      (takeBetter net potential) none = some b ∧ b.1 ≤ potential.nodeCostToGo node :=
    take_better_least (action_cost_some.mpr ⟨isOpen, tail, attained, cheap⟩) (.inl allowed)
  have listed := mem_outgoing_allowed.mp
    ((take_better_mem net potential found).resolve_left fun none => by cases none)
  obtain ⟨open', _, cost, _⟩ := action_cost_some.mp (take_better_cost found fun _ none => by cases none)
  have high := field.link_le nonneg open'
  rw [listed.1] at high
  refine ⟨b.2, ?_, listed.1, open', le_antisymm (cost.trans_le low) high⟩
  rw [best_legal_known, bestLegalNextLinkIndexRust, found]
  rfl

def pathNodes (net : RoadNetworkCSR p n m) (ls : List (Fin n)) : List (Fin p) :=
  ls.map net.linkDstNodeIndex

include turns in
theorem greedy_walk_descends (hops : ℕ) {node : Fin p} {incoming : Option (Fin n)}
    {visited : List (Fin p)} (path : List ℤ) (short : node ≠ potential.destinationNodeIndex)
    (cheap : potential.nodeCostToGo node < infCost / 2)
    (entered : ∀ a, incoming = some a → net.linkDstNodeIndex a = node)
    (higher : ∀ u ∈ visited, potential.nodeCostToGo node ≤ potential.nodeCostToGo u)
    (distinct : visited.Nodup) (room : p < hops + visited.length) :
    ∃ ls, greedyWalk net (bestLegalNextLinkIdHost net potential)
        (fun l => some (net.links l).linkId)
        (fun l => decide ((net.links l).dstNodeId = potential.destinationNodeId))
        hops node (lastLinkId net incoming) visited path = path ++ linkIds net ls ∧
      LinkPath net potential.blockedLinkMask potential.destinationNodeIndex node ls ∧
      pathCost potential.linkTravelTimeCost ls = potential.nodeCostToGo node ∧
      (∀ u ∈ pathNodes net ls, potential.nodeCostToGo u < potential.nodeCostToGo node) ∧
      (pathNodes net ls).Nodup := by
  induction hops generalizing node incoming visited path with
  | zero =>
    have := distinct.length_le_card
    rw [Fintype.card_fin] at this
    omega
  | succ hops ih =>
    obtain ⟨l, best, rfl, isOpen, attained⟩ := best_link_attained own turns bounded short cheap entered
    have falls : potential.nodeCostToGo (net.linkDstNodeIndex l) <
        potential.nodeCostToGo (net.linkSrcNodeIndex l) := by
      linarith [link_cost_pos bounded l]
    have arrives : (net.links l).dstNodeId = potential.destinationNodeId ↔
        net.linkDstNodeIndex l = potential.destinationNodeIndex := by
      rw [← net.dst_node, ← own.anchored.2]
      exact net.node_ids_unique.eq_iff
    unfold greedyWalk
    simp only [best, decide_eq_true_eq, arrives]
    by_cases arrived : net.linkDstNodeIndex l = potential.destinationNodeIndex
    · rw [if_pos arrived]
      have free := (own_field_cost_to_go own bounded).destination_zero
        fun l => (link_cost_pos bounded l).le
      refine ⟨[l], rfl, .take isOpen (by rw [arrived]; exact .arrived), ?_, ?_, by simp [pathNodes]⟩
      · rw [arrived, free, add_zero] at attained
        simp [pathCost, attained]
      · simpa [pathNodes] using falls
    · have fresh : net.linkDstNodeIndex l ∉ visited :=
        fun seen => absurd (higher _ seen) (not_le.mpr falls)
      rw [if_neg arrived, if_neg fresh]
      have enters : ∀ a, some l = some a → net.linkDstNodeIndex a = net.linkDstNodeIndex l := by
        rintro a ⟨⟩
        rfl
      obtain ⟨ls, walk, onward, cost, lower, apart⟩ := ih (path ++ [(net.links l).linkId])
        arrived (falls.trans cheap) enters
        (List.forall_mem_cons.mpr ⟨le_rfl, fun u seen => falls.le.trans (higher u seen)⟩)
        (List.nodup_cons.mpr ⟨fresh, distinct⟩) (by rw [List.length_cons]; omega)
      refine ⟨l :: ls, ?_, .take isOpen onward, ?_, ?_, ?_⟩
      · exact walk.trans (by simp [linkIds])
      · rw [← attained, ← cost]
        simp [pathCost]
      · exact List.forall_mem_cons.mpr ⟨falls, fun u on => (lower u on).trans falls⟩
      · exact List.nodup_cons.mpr ⟨fun on => lt_irrefl _ (lower _ on), apart⟩

end Descent

def longRoad (cost : ℚ) : DynamicPotentialState 2 1 where
  destinationNodeId := 2
  destinationNodeIndex := 1
  nodeCostToGo := reverseDijkstraNodeCosts singleRoad ![cost] ![false] 1
  linkTravelTimeCost := ![cost]
  blockedLinkMask := ![false]
  requested := .baseline
  computed := .host

theorem long_road_own_field (cost : ℚ) : OwnField singleRoad (longRoad cost) :=
  ⟨⟨rfl, rfl⟩, rfl⟩

theorem single_road_path : LinkPath singleRoad ![false] 1 0 [0] :=
  .take (l := 0) rfl .arrived

theorem single_road_all_turns : AllTurns singleRoad := fun _ _ _ => .inl rfl

end Metroflow.Routing
