import Metroflow.Lib.ShortestPaths
import Metroflow.Routing.BackendAgreement

namespace Metroflow.Routing

open Metroflow.Lib Metroflow.City

variable {p n m : ℕ}

section Compiled

variable (net : RoadNetworkCSR p n m) (costs : Fin n → ℚ) (blocked : Fin n → Bool)

def relaxIncomingRust (cost : ℚ) (s : PotentialSearch p) (l : Fin n) : PotentialSearch p :=
  if blocked l then s
  else
    let candidate := cost + max (costs l) minLinkCost
    if candidate < s.dist (net.linkSrcNodeIndex l) then
      { dist := Function.update s.dist (net.linkSrcNodeIndex l) candidate
        heap := (candidate, net.linkSrcNodeIndex l) :: s.heap }
    else s

/-- One pass of the compiled loop, whose heap orders its states by cost, then by node. -/
def potentialPassRust (s : PotentialSearch p) : Option (PotentialSearch p) :=
  match popMin earlier s.heap with
  | none => none
  | some ((cost, node), rest) =>
    if s.dist node < cost then some { s with heap := rest }
    else some ((net.incomingLinkIndices node).foldl (relaxIncomingRust net costs blocked cost)
      { s with heap := rest })

/-- The loop that both compiled functions run for a destination. -/
def rustNodeCosts (destination : Fin p) : Fin p → ℚ :=
  (loop (potentialPassRust net costs blocked) (n + 1)
    { dist := fun i => if i = destination then 0 else infCost
      heap := [(0, destination)] }).dist

/-- Of the checks of the compiled module a network's arrays can only fail this one. -/
def validateRoutingInputs : Except RoutingError Unit :=
  raiseIf (∃ l, costs l < 0) .rustNegativeLinkCost

def computeDynamicPotentialNodeCostsImpl (destination : Fin p) :
    Except RoutingError (Fin p → ℚ) := do
  validateRoutingInputs costs
  return rustNodeCosts net costs blocked destination

def computeMultiDestinationDynamicPotentialsImpl (destinations : List (Fin p)) :
    Except RoutingError (List (Fin p → ℚ)) := do
  destinations.forM fun _ => validateRoutingInputs costs
  return destinations.map (rustNodeCosts net costs blocked)

end Compiled

inductive LinkPath (net : RoadNetworkCSR p n m) (blocked : Fin n → Bool) (destination : Fin p) :
    Fin p → List (Fin n) → Prop
  | arrived : LinkPath net blocked destination destination []
  | take {l : Fin n} {ls : List (Fin n)} (isOpen : blocked l = false)
      (rest : LinkPath net blocked destination (net.linkDstNodeIndex l) ls) :
      LinkPath net blocked destination (net.linkSrcNodeIndex l) (l :: ls)

def pathCost (costs : Fin n → ℚ) (ls : List (Fin n)) : ℚ := (ls.map costs).sum

variable {net : RoadNetworkCSR p n m} {costs : Fin n → ℚ} {blocked : Fin n → Bool}
  {destination : Fin p}

/-- What the search follows from a node: the open links that end there, backwards. -/
def reverseArcs (net : RoadNetworkCSR p n m) (costs : Fin n → ℚ) (blocked : Fin n → Bool)
    (node : Fin p) : List (Fin p × ℚ) :=
  ((net.incomingLinkIndices node).filter fun l => !blocked l).map fun l =>
    (net.linkSrcNodeIndex l, costs l)

theorem mem_reverse_arcs {node : Fin p} {arc : Fin p × ℚ} :
    arc ∈ reverseArcs net costs blocked node ↔
      ∃ l, blocked l = false ∧ net.linkDstNodeIndex l = node ∧
        (net.linkSrcNodeIndex l, costs l) = arc := by
  simp [reverseArcs, and_comm]
  grind

theorem cost_path_iff {node : Fin p} {c : ℚ} :
    CostPath (reverseArcs net costs blocked) destination node c ↔
      ∃ ls, LinkPath net blocked destination node ls ∧ pathCost costs ls = c := by
  constructor
  · intro path
    induction path with
    | start => exact ⟨[], .arrived, rfl⟩
    | @step u c arc path out ih =>
      obtain ⟨ls, rest, rfl⟩ := ih
      obtain ⟨l, isOpen, rfl, rfl⟩ := mem_reverse_arcs.mp out
      exact ⟨l :: ls, .take isOpen rest, by simp [pathCost, add_comm]⟩
  · rintro ⟨ls, path, rfl⟩
    induction path with
    | arrived => exact .start
    | @take l ls isOpen rest ih =>
      have here := ih.step (mem_reverse_arcs.mpr ⟨l, isOpen, rfl, rfl⟩)
      simpa [pathCost, add_comm] using here

def PotentialSearch.labels (s : PotentialSearch p) : Labels ℚ (Fin p) := ⟨s.dist, s.heap⟩

theorem relax_incoming_labels (cost : ℚ) (links : List (Fin n)) (s : PotentialSearch p) :
    (links.foldl (relaxIncoming net costs blocked cost) s).labels =
      ((links.filter fun l => !blocked l).map fun l => (net.linkSrcNodeIndex l, costs l)).foldl
        (relax cost) s.labels := by
  induction links generalizing s with
  | nil => rfl
  | cons l links ih =>
    rw [List.foldl_cons, ih, List.filter_cons]
    unfold relaxIncoming
    cases blocked l
    · simp only [Bool.false_eq_true, if_false, Bool.not_false, if_true, List.map_cons,
        List.foldl_cons]
      congr 1
      unfold relax PotentialSearch.labels
      dsimp only
      split <;> rfl
    · rfl

theorem potential_pass_labels (s : PotentialSearch p) :
    (potentialPass net costs blocked s).map PotentialSearch.labels =
      settleNext earlier (reverseArcs net costs blocked) s.labels := by
  unfold potentialPass settleNext PotentialSearch.labels
  dsimp only
  cases popMin earlier s.heap with
  | none => rfl
  | some popped =>
    obtain ⟨⟨cost, node⟩, rest⟩ := popped
    dsimp only
    split
    · rfl
    · exact congrArg some (relax_incoming_labels cost _ _)

theorem loop_labels (fuel : ℕ) (s : PotentialSearch p) :
    (loop (potentialPass net costs blocked) fuel s).labels =
      loop (settleNext earlier (reverseArcs net costs blocked)) fuel s.labels := by
  induction fuel generalizing s with
  | zero => rfl
  | succ fuel ih =>
    have pass : (potentialPass net costs blocked s).map PotentialSearch.labels =
        settleNext earlier (reverseArcs net costs blocked) s.labels := potential_pass_labels s
    unfold loop
    rw [← pass]
    cases potentialPass net costs blocked s with
    | none => rfl
    | some s' => exact ih s'

theorem earlier_total (a b : ℚ × Fin p) : earlier a b ∨ earlier b a := by
  simp only [earlier, decide_eq_true_eq]
  rcases lt_trichotomy a.1 b.1 with less | same | more
  · exact .inl (.inl less)
  · exact (le_total a.2 b.2).imp (fun le => .inr ⟨same, le⟩) fun le => .inr ⟨same.symm, le⟩
  · exact .inr (.inl more)

theorem earlier_trans (a b c : ℚ × Fin p) (first : earlier a b) (second : earlier b c) :
    earlier a c := by
  simp only [earlier, decide_eq_true_eq] at first second ⊢
  rcases first with less | ⟨same, le⟩ <;> rcases second with less' | ⟨same', le'⟩
  · exact .inl (less.trans less')
  · exact .inl (same' ▸ less)
  · exact .inl (same ▸ less')
  · exact .inr ⟨same.trans same', le.trans le'⟩

theorem earlier_lower (a b : ℚ × Fin p) (first : earlier a b) : a.1 ≤ b.1 := by
  simp only [earlier, decide_eq_true_eq] at first
  exact first.elim le_of_lt fun same => same.1.le

theorem ends_count (dst : Fin n → Fin p) {ls : Fin p → List (Fin n)} (distinct : ∀ u, (ls u).Nodup)
    (ends : ∀ u, ∀ l ∈ ls u, dst l = u) : ∑ u, (ls u).length ≤ n := by
  have each : ∀ u, (ls u).length ≤ (Finset.univ.filter fun l => dst l = u).card := by
    intro u
    rw [← List.toFinset_card_of_nodup (distinct u)]
    refine Finset.card_le_card fun l listed => ?_
    simpa using ends u l (List.mem_toFinset.mp listed)
  calc ∑ u, (ls u).length
      ≤ ∑ u, (Finset.univ.filter fun l => dst l = u).card := Finset.sum_le_sum fun u _ => each u
    _ = (Finset.univ : Finset (Fin n)).card :=
        (Finset.card_eq_sum_card_fiberwise fun l _ => Finset.mem_univ _).symm
    _ = n := by simp

theorem arcs_count (net : RoadNetworkCSR p n m) (costs : Fin n → ℚ) (blocked : Fin n → Bool) :
    ∑ u, (reverseArcs net costs blocked u).length ≤ n := by
  simp only [reverseArcs, List.length_map]
  refine ends_count net.linkDstNodeIndex
    (fun u => ((List.nodup_finRange n).filter _).filter _) fun u l listed => ?_
  exact net.mem_incoming.mp (List.mem_filter.mp listed).1

/-- What the search computes: the least cost of a path, cut off at the sentinel. -/
structure CostToGo (net : RoadNetworkCSR p n m) (costs : Fin n → ℚ) (blocked : Fin n → Bool)
    (destination : Fin p) (dist : Fin p → ℚ) : Prop where
  below : ∀ v, dist v ≤ infCost
  attained : ∀ v, dist v = infCost ∨ ∃ ls, LinkPath net blocked destination v ls ∧
    pathCost costs ls = dist v
  least : ∀ v ls, LinkPath net blocked destination v ls → dist v ≤ pathCost costs ls

/-- The search before its first pass. -/
def searchStart (destination : Fin p) : PotentialSearch p where
  dist i := if i = destination then 0 else infCost
  heap := [(0, destination)]

theorem search_ends (nonneg : ∀ l, 0 ≤ costs l) :
    (loop (potentialPass net costs blocked) (n + 1) (searchStart destination)).heap = [] ∧
      CostToGo net costs blocked destination
        (reverseDijkstraNodeCosts net costs blocked destination) := by
  have arcs_nonneg : ∀ u, ∀ arc ∈ reverseArcs net costs blocked u, 0 ≤ arc.2 := by
    intro u arc listed
    obtain ⟨l, _, _, rfl⟩ := mem_reverse_arcs.mp listed
    exact nonneg l
  have cap_nonneg : (0 : ℚ) ≤ infCost := by
    unfold infCost
    norm_num
  have enough : 1 + ∑ u, (reverseArcs net costs blocked u).length ≤ n + 1 := by
    have := arcs_count net costs blocked
    omega
  have search := labels_least destination arcs_nonneg cap_nonneg earlier_total earlier_trans
    earlier_lower enough
  have same : loop (settleNext earlier (reverseArcs net costs blocked)) (n + 1)
      (startLabels destination infCost) =
      (loop (potentialPass net costs blocked) (n + 1) (searchStart destination)).labels :=
    (loop_labels (n + 1) (searchStart destination)).symm
  obtain ⟨empty, found⟩ := search
  rw [same] at empty found
  refine ⟨empty, fun v => (found v).1, fun v => (found v).2.1.imp id cost_path_iff.mp, ?_⟩
  exact fun v ls path => (found v).2.2 _ (cost_path_iff.mpr ⟨ls, path, rfl⟩)

theorem reverse_dijkstra_cost_to_go (nonneg : ∀ l, 0 ≤ costs l) :
    CostToGo net costs blocked destination
      (reverseDijkstraNodeCosts net costs blocked destination) :=
  (search_ends nonneg).2

section Shortest

variable (net : RoadNetworkCSR p n m) (costs : Fin n → ℚ) (blocked : Fin n → Bool)

/-- Where a path leads to the destination, one costs less than the sentinel. -/
def BelowSentinel (destination : Fin p) : Prop :=
  ∀ v ls, LinkPath net blocked destination v ls →
    ∃ ls', LinkPath net blocked destination v ls' ∧ pathCost costs ls' < infCost

/-- Every node has the least cost of a path to the destination, and the sentinel exactly
if there is none. -/
def Shortest (destination : Fin p) (dist : Fin p → ℚ) : Prop :=
  ∀ v, ((∃ ls, LinkPath net blocked destination v ls) →
      IsLeast {c | ∃ ls, LinkPath net blocked destination v ls ∧ pathCost costs ls = c} (dist v)) ∧
    (dist v = infCost ↔ ¬ ∃ ls, LinkPath net blocked destination v ls)

end Shortest

theorem CostToGo.shortest {dist : Fin p → ℚ} (h : CostToGo net costs blocked destination dist)
    (below : BelowSentinel net costs blocked destination) :
    Shortest net costs blocked destination dist := by
  intro v
  have reached : (∃ ls, LinkPath net blocked destination v ls) → dist v < infCost := by
    rintro ⟨ls, path⟩
    obtain ⟨ls', path', cheap⟩ := below v ls path
    exact (h.least v ls' path').trans_lt cheap
  refine ⟨fun some => ⟨(h.attained v).resolve_left (reached some).ne, ?_⟩,
    fun cut some => (reached some).ne cut, fun none => ?_⟩
  · rintro c ⟨ls, path, rfl⟩
    exact h.least v ls path
  · exact (h.attained v).resolve_right fun ⟨ls, path, _⟩ => none ⟨ls, path⟩

/-- The link costs as the compiled loops take them. -/
def raised (costs : Fin n → ℚ) (l : Fin n) : ℚ := max (costs l) minLinkCost

theorem validate_routing_inputs_ok (nonneg : ∀ l, 0 ≤ costs l) :
    validateRoutingInputs costs = .ok () := by
  simpa [validateRoutingInputs] using nonneg

theorem multi_destination_ok (nonneg : ∀ l, 0 ≤ costs l) (destinations : List (Fin p)) :
    computeMultiDestinationDynamicPotentialsImpl net costs blocked destinations =
      .ok (destinations.map (reverseDijkstraNodeCosts net (raised costs) blocked)) := by
  have passes : (destinations.forM fun _ => validateRoutingInputs costs) = .ok () := by
    rw [validate_routing_inputs_ok nonneg]
    induction destinations with
    | nil => rfl
    | cons d destinations ih => exact ih
  simp only [computeMultiDestinationDynamicPotentialsImpl, passes]
  rfl

theorem single_destination_ok (nonneg : ∀ l, 0 ≤ costs l) :
    computeDynamicPotentialNodeCostsImpl net costs blocked destination =
      .ok (reverseDijkstraNodeCosts net (raised costs) blocked destination) := by
  simp only [computeDynamicPotentialNodeCostsImpl, validate_routing_inputs_ok nonneg]
  rfl

theorem raised_eq (bounded : ∀ l, minLinkCost ≤ costs l) : raised costs = costs :=
  funext fun l => max_eq_left (bounded l)

end Metroflow.Routing
