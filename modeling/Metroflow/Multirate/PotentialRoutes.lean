import Metroflow.Multirate.World
import Metroflow.Routing.CostToGo

namespace Metroflow.Multirate

open Metroflow.Lib Metroflow.Routing

/-- The road graph of a world that meets the state contract. -/
structure TimedGraph (p n : ℕ) where
  edgeSrc : Fin n → Fin p
  edgeDst : Fin n → Fin p
  edgeTravelTime : Fin n → ℚ
  time_nonneg : ∀ e, 0 ≤ edgeTravelTime e

/-- The ends of the edges that a valid world lists. -/
structure GraphContract (graph : GraphState) : Prop where
  src_length : (graph.edgeSrc.length : ℤ) = graph.numEdges
  dst_length : (graph.edgeDst.length : ℤ) = graph.numEdges
  src_valid : ∀ src ∈ graph.edgeSrc, 0 ≤ src ∧ src < graph.numNodes
  dst_valid : ∀ dst ∈ graph.edgeDst, 0 ≤ dst ∧ dst < graph.numNodes

theorem validate_graph_ok {graph : GraphState} (h : validateGraph graph = .ok ()) :
    GraphContract graph := by
  simp only [validateGraph, bind_ok, raise_value_ok, not_exists, not_and, not_or, not_lt, not_not,
    not_le] at h
  obtain ⟨_, _, _, _, _, _, _, src_length, _, dst_length, _, _, _, src, dst⟩ := h
  exact ⟨src_length, dst_length, src, dst⟩

namespace WorldState

variable (world : WorldState)

abbrev nodeCount : ℕ := world.graph.numNodes.toNat

abbrev edgeCount : ℕ := world.graph.numEdges.toNat

variable {world} in
theorem edge_lt {size : ℕ} (length : (size : ℤ) = world.graph.numEdges)
    (e : Fin world.edgeCount) : (e : ℕ) < size := by
  have : (e : ℕ) < world.graph.numEdges.toNat := e.isLt
  omega

def nodeOf (node : ℤ) (h : 0 ≤ node ∧ node < world.graph.numNodes) : Fin world.nodeCount :=
  ⟨node.toNat, show node.toNat < world.graph.numNodes.toNat by omega⟩

/-- The arrays of a valid world, read at its edges. -/
def timedGraph (valid : StateContract world) : TimedGraph world.nodeCount world.edgeCount where
  edgeSrc e :=
    have contract := validate_graph_ok valid.graph
    world.nodeOf (world.graph.edgeSrc.get ⟨e, edge_lt contract.src_length e⟩)
      (contract.src_valid _ (List.get_mem _ _))
  edgeDst e :=
    have contract := validate_graph_ok valid.graph
    world.nodeOf (world.graph.edgeDst.get ⟨e, edge_lt contract.dst_length e⟩)
      (contract.dst_valid _ (List.get_mem _ _))
  edgeTravelTime e :=
    world.traffic.edgeTravelTime.get ⟨e, edge_lt valid.traffic.travel_time_length e⟩
  time_nonneg _ := valid.traffic.travel_time_nonneg _ (List.get_mem _ _)

end WorldState

def infCost : ℚ := 1000000000000

namespace TimedGraph

variable {p n : ℕ} (g : TimedGraph p n) (blocked : Fin n → Bool)

/-- The open edges into a node, in the order of their ids. -/
def incomingEdges (node : Fin p) : List (Fin p × ℚ) :=
  ((List.finRange n).filter fun e => !blocked e && decide (g.edgeDst e = node)).map fun e =>
    (g.edgeSrc e, g.edgeTravelTime e)

/-- The search from the destination; an edge pushes one entry at most. -/
def nodeCostToGo (destination : Fin p) : Fin p → ℚ :=
  (loop (settleNext earlier (g.incomingEdges blocked)) (1 + n)
    (startLabels destination infCost)).dist

def edgeCost (cost : Fin p → ℚ) (node : Fin p) (e : Fin n) : Option ℚ :=
  if blocked e ∨ g.edgeSrc e ≠ node then none
  else if infCost / 2 ≤ cost (g.edgeDst e) then none
  else some (g.edgeTravelTime e + cost (g.edgeDst e))

def takeBetter (cost : Fin p → ℚ) (node : Fin p) (best : Option (Fin n × ℚ)) (e : Fin n) :
    Option (Fin n × ℚ) :=
  match g.edgeCost blocked cost node e, best with
  | none, best => best
  | some total, none => some (e, total)
  | some total, some (bestEdge, bestCost) =>
    if total < bestCost ∨ total = bestCost ∧ e < bestEdge then some (e, total)
    else some (bestEdge, bestCost)

def bestEdge (cost : Fin p → ℚ) (node : Fin p) : Option (Fin n × ℚ) :=
  (List.finRange n).foldl (g.takeBetter blocked cost node) none

def descend (cost : Fin p → ℚ) (destination : Fin p) :
    ℕ → Fin p → List (Fin p) → List (Fin n) → Option (List (Fin n))
  | 0, _, _, _ => none
  | hops + 1, node, visited, path =>
    match g.bestEdge blocked cost node with
    | none => none
    | some (e, _) =>
      if g.edgeDst e = destination then some (path ++ [e])
      else if g.edgeDst e ∈ visited then none
      else descend cost destination hops (g.edgeDst e) (g.edgeDst e :: visited) (path ++ [e])

end TimedGraph

section Candidates

variable (world : WorldState)

def validateNodeId (node : ℤ) (fieldName : String) : Except StepError (Fin world.nodeCount) :=
  if h : node < 0 ∨ world.graph.numNodes ≤ node then
    .error (.value (fieldName ++ " must reference a valid graph node."))
  else .ok (world.nodeOf node (by omega))

def normalizeBlockedEdgeIds (blockedEdgeIds : List ℤ) : Except StepError (List ℤ) := do
  let blocked := blockedEdgeIds.dedup.insertionSort (· ≤ ·)
  raiseValue (∃ edgeId ∈ blocked, edgeId < 0 ∨ world.graph.numEdges ≤ edgeId)
    "blocked_edge_ids must reference valid graph edges."
  return blocked

/-- A destination's field, with the graph as the contract check established it. -/
structure DynamicPotentialState (p n : ℕ) where
  graph : TimedGraph p n
  destinationNode : Fin p
  nodeCostToGo : Fin p → ℚ
  blockedEdgeIds : List ℤ

def DynamicPotentialState.blocked {p n : ℕ} (potential : DynamicPotentialState p n) (e : Fin n) :
    Bool :=
  decide ((e : ℤ) ∈ potential.blockedEdgeIds)

def computeDynamicPotentialState (destinationNode : ℤ) (blockedEdgeIds : List ℤ) :
    Except StepError (DynamicPotentialState world.nodeCount world.edgeCount) :=
  match valid : validateStateContract world with
  | .error e => .error e
  | .ok () => do
    let graph := world.timedGraph (validate_state_contract_ok.mp valid)
    let destination ← validateNodeId world destinationNode "destination_node"
    let blocked ← normalizeBlockedEdgeIds world blockedEdgeIds
    return {
      graph := graph
      destinationNode := destination
      nodeCostToGo := graph.nodeCostToGo (fun e => decide ((e : ℤ) ∈ blocked)) destination
      blockedEdgeIds := blocked }

structure CandidatePath (n : ℕ) where
  pathId : ℤ
  edgeIds : List (Fin n)
  deriving DecidableEq

def buildDynamicPotentialCandidate (originNode destinationNode pathId : ℤ)
    (blockedEdgeIds : List ℤ) (maxHops : Option ℤ) :
    Except StepError (Option (CandidatePath world.edgeCount)) := do
  let origin ← validateNodeId world originNode "origin_node"
  let destination ← validateNodeId world destinationNode "destination_node"
  let hopLimit := maxHops.getD (max 1 (world.graph.numEdges + 1))
  raiseValue (hopLimit ≤ 0) "max_hops must be positive."
  let potential ← computeDynamicPotentialState world destinationNode blockedEdgeIds
  if origin = destination then return some ⟨pathId, []⟩
  else if infCost / 2 ≤ potential.nodeCostToGo origin then return none
  else
    let path := potential.graph.descend potential.blocked potential.nodeCostToGo destination
      hopLimit.toNat origin [origin] []
    return path.map fun edgeIds => ⟨pathId, edgeIds⟩

end Candidates

section Ends

variable {α : Type*} {r : α → α → Prop} {origin last a : α}

theorem reaches_end (unique : Relator.RightUnique r) (ended : ∀ b, ¬r last b)
    (reach : Relation.ReflTransGen r origin last) (there : Relation.ReflTransGen r origin a) :
    Relation.ReflTransGen r a last := by
  rcases Relation.ReflTransGen.total_of_right_unique unique there reach with ahead | behind
  · exact ahead
  · rcases behind.cases_head with rfl | ⟨b, onward, -⟩
    · exact .refl
    · exact absurd onward (ended b)

theorem no_return_of_end (unique : Relator.RightUnique r) (ended : ∀ b, ¬r last b)
    (reach : Relation.ReflTransGen r a last) : ¬Relation.TransGen r a a := by
  induction reach using Relation.ReflTransGen.head_induction_on with
  | refl =>
    intro back
    obtain ⟨b, onward, -⟩ := Relation.TransGen.head'_iff.mp back
    exact ended b onward
  | head first _ ih =>
    intro back
    obtain ⟨b, onward, home⟩ := Relation.TransGen.head'_iff.mp back
    obtain rfl := unique first onward
    exact ih (Relation.TransGen.tail' home first)

end Ends

section Routes

variable {p n : ℕ} (g : TimedGraph p n) (blocked : Fin n → Bool) (destination : Fin p)

namespace TimedGraph

/-- Open edges, each from where the one before it ends. -/
inductive Route : Fin p → List (Fin n) → Prop
  | arrived : Route destination []
  | take {e : Fin n} {es : List (Fin n)} (isOpen : blocked e = false)
      (rest : Route (g.edgeDst e) es) : Route (g.edgeSrc e) (e :: es)

def routeTime (es : List (Fin n)) : ℚ := (es.map g.edgeTravelTime).sum

/-- A route of the least travel time. -/
def Shortest (node : Fin p) (es : List (Fin n)) : Prop :=
  g.Route blocked destination node es ∧
    ∀ es', g.Route blocked destination node es' → g.routeTime es ≤ g.routeTime es'

/-- The edge starts a shortest route, and no edge with a lower number does from its node. -/
def Leads (node : Fin p) (e : Fin n) : Prop :=
  (g.edgeSrc e = node ∧ ∃ es, g.Shortest blocked destination node (e :: es)) ∧
    ∀ e' es', g.Shortest blocked destination node (e' :: es') → e ≤ e'

def Follows (node next : Fin p) : Prop :=
  node ≠ destination ∧ ∃ e, g.Leads blocked destination node e ∧ g.edgeDst e = next

/-- Along the first edges of shortest routes, the lowest numbered ones, no node comes back. -/
def NoReturn (origin : Fin p) : Prop :=
  ¬∃ node, Relation.ReflTransGen (g.Follows blocked destination) origin node ∧
    Relation.TransGen (g.Follows blocked destination) node node

/-- Labels that are the least travel times, up to the cap. -/
structure CostField (cost : Fin p → ℚ) : Prop where
  below_cap : ∀ node, cost node ≤ infCost
  attained : ∀ node, cost node = infCost ∨
    ∃ es, g.Route blocked destination node es ∧ g.routeTime es = cost node
  least : ∀ node es, g.Route blocked destination node es → cost node ≤ g.routeTime es

variable {g blocked destination} {cost : Fin p → ℚ} {origin node next : Fin p} {e : Fin n}
  {es path : List (Fin n)} {visited : List (Fin p)}

theorem cost_path_iff {c : ℚ} : CostPath (g.incomingEdges blocked) destination node c ↔
    ∃ es, g.Route blocked destination node es ∧ g.routeTime es = c := by
  constructor
  · intro path
    induction path with
    | start => exact ⟨[], .arrived, rfl⟩
    | @step u c arc path out ih =>
      obtain ⟨es, rest, rfl⟩ := ih
      obtain ⟨e, listed, rfl⟩ := List.mem_map.mp out
      have listed := (List.mem_filter.mp listed).2
      rw [Bool.and_eq_true, Bool.not_eq_true', decide_eq_true_iff] at listed
      obtain ⟨isOpen, rfl⟩ := listed
      exact ⟨e :: es, .take isOpen rest, add_comm _ _⟩
  · rintro ⟨es, route, rfl⟩
    induction route with
    | arrived => exact .start
    | @take e es isOpen rest ih =>
      have listed : (g.edgeSrc e, g.edgeTravelTime e) ∈ g.incomingEdges blocked (g.edgeDst e) :=
        List.mem_map.mpr ⟨e, List.mem_filter.mpr ⟨List.mem_finRange e, by simp [isOpen]⟩, rfl⟩
      have here := ih.step listed
      rwa [add_comm] at here

theorem incoming_edges_length : ∑ node, (g.incomingEdges blocked node).length ≤ n := by
  simp only [incomingEdges, List.length_map]
  refine ends_count g.edgeDst (fun node => (List.nodup_finRange n).filter _) fun node e listed => ?_
  have ended := (List.mem_filter.mp listed).2
  rw [Bool.and_eq_true, decide_eq_true_iff] at ended
  exact ended.2

theorem node_cost_field : g.CostField blocked destination (g.nodeCostToGo blocked destination) := by
  have nonneg : ∀ u, ∀ arc ∈ g.incomingEdges blocked u, 0 ≤ arc.2 := by
    intro u arc listed
    obtain ⟨e, -, rfl⟩ := List.mem_map.mp listed
    exact g.time_nonneg e
  have cap_nonneg : (0 : ℚ) ≤ infCost := by norm_num [infCost]
  have enough : ∑ node, (g.incomingEdges blocked node).length ≤ n := incoming_edges_length
  obtain ⟨-, labels⟩ := labels_least destination nonneg cap_nonneg earlier_total earlier_trans
    earlier_lower (Nat.add_le_add_left enough 1)
  refine ⟨fun node => (labels node).1, fun node => (labels node).2.1.imp id cost_path_iff.mp,
    fun node es route => (labels node).2.2 _ (cost_path_iff.mpr ⟨es, route, rfl⟩)⟩

theorem route_time_nonneg (es : List (Fin n)) : 0 ≤ g.routeTime es :=
  List.sum_nonneg fun _ listed => by
    obtain ⟨e, -, rfl⟩ := List.mem_map.mp listed
    exact g.time_nonneg e

theorem Route.cons (h : g.Route blocked destination node (e :: es)) :
    blocked e = false ∧ g.edgeSrc e = node ∧ g.Route blocked destination (g.edgeDst e) es := by
  cases h with
  | take isOpen rest => exact ⟨isOpen, rfl, rest⟩

namespace CostField

variable (field : g.CostField blocked destination cost)
include field

theorem destination_zero : cost destination = 0 := by
  refine le_antisymm (field.least destination [] .arrived) ?_
  rcases field.attained destination with cap | ⟨es, -, time⟩
  · rw [cap]
    norm_num [infCost]
  · exact time ▸ route_time_nonneg es

theorem le_edge (isOpen : blocked e = false) :
    cost (g.edgeSrc e) ≤ g.edgeTravelTime e + cost (g.edgeDst e) := by
  rcases field.attained (g.edgeDst e) with cap | ⟨es, rest, time⟩
  · rw [cap]
    exact (field.below_cap _).trans (le_add_of_nonneg_left (g.time_nonneg e))
  · rw [← time]
    exact field.least _ _ (.take isOpen rest)

theorem shortest_iff (near : cost node < infCost / 2) :
    g.Shortest blocked destination node es ↔
      g.Route blocked destination node es ∧ g.routeTime es = cost node := by
  have below : cost node ≠ infCost := by
    intro cap
    rw [cap] at near
    norm_num [infCost] at near
  obtain ⟨best, route, time⟩ := (field.attained node).resolve_left below
  constructor
  · exact fun h => ⟨h.1, le_antisymm (time ▸ h.2 best route) (field.least node es h.1)⟩
  · exact fun h => ⟨h.1, fun es' route' => h.2.trans_le (field.least node es' route')⟩

theorem starts_iff (near : cost node < infCost / 2) :
    (∃ es, g.Shortest blocked destination node (e :: es)) ↔ blocked e = false ∧
      g.edgeSrc e = node ∧ g.edgeTravelTime e + cost (g.edgeDst e) = cost node := by
  simp only [field.shortest_iff near]
  constructor
  · rintro ⟨es, route, time⟩
    obtain ⟨isOpen, rfl, rest⟩ := route.cons
    refine ⟨isOpen, rfl, le_antisymm ?_ (field.le_edge isOpen)⟩
    rw [← time]
    exact add_le_add_right (field.least _ es rest) _
  · rintro ⟨isOpen, rfl, time⟩
    have near' : cost (g.edgeDst e) < infCost := by
      have := g.time_nonneg e
      have : (0 : ℚ) < infCost := by norm_num [infCost]
      linarith
    obtain ⟨es, rest, rest_time⟩ := (field.attained (g.edgeDst e)).resolve_left near'.ne
    refine ⟨es, .take isOpen rest, ?_⟩
    rw [← time, ← rest_time]
    rfl

theorem exists_start (near : cost node < infCost / 2) (away : node ≠ destination) :
    ∃ e, ∃ es, g.Shortest blocked destination node (e :: es) := by
  have below : cost node ≠ infCost := by
    intro cap
    rw [cap] at near
    norm_num [infCost] at near
  obtain ⟨es, route, time⟩ := (field.attained node).resolve_left below
  cases es with
  | nil => cases route; exact absurd rfl away
  | cons e es => exact ⟨e, es, (field.shortest_iff near).mpr ⟨route, time⟩⟩

end CostField

theorem edge_cost_some {total : ℚ} : g.edgeCost blocked cost node e = some total ↔
    blocked e = false ∧ g.edgeSrc e = node ∧ cost (g.edgeDst e) < infCost / 2 ∧
      g.edgeTravelTime e + cost (g.edgeDst e) = total := by
  unfold edgeCost
  split
  · rename_i refused
    simp only [reduceCtorEq, false_iff]
    rintro ⟨isOpen, here, -⟩
    rcases refused with closed | elsewhere
    · rw [isOpen] at closed
      cases closed
    · exact elsewhere here
  · rename_i taken
    obtain ⟨isOpen, here⟩ := not_or.mp taken
    split
    · rename_i far
      simp [not_lt.mpr far]
    · rename_i near
      simp [isOpen, not_not.mp here, not_le.mp near]

/-- The scan keeps the edge of the least cost, the lowest numbered among these. -/
structure BestOf (g : TimedGraph p n) (blocked : Fin n → Bool) (cost : Fin p → ℚ) (node : Fin p)
    (edges : List (Fin n)) (best : Option (Fin n × ℚ)) : Prop where
  listed : ∀ b, best = some b → b.1 ∈ edges ∧ g.edgeCost blocked cost node b.1 = some b.2
  least : ∀ e ∈ edges, ∀ total, g.edgeCost blocked cost node e = some total →
    ∃ b, best = some b ∧ (b.2 < total ∨ b.2 = total ∧ b.1 ≤ e)

theorem BestOf.step {edges : List (Fin n)} {best : Option (Fin n × ℚ)}
    (h : BestOf g blocked cost node edges best) (e : Fin n) :
    BestOf g blocked cost node (edges ++ [e]) (g.takeBetter blocked cost node best e) := by
  have old : ∀ b, best = some b → b.1 ∈ edges ++ [e] ∧
      g.edgeCost blocked cost node b.1 = some b.2 := fun b kept =>
    ⟨List.mem_append_left _ (h.listed b kept).1, (h.listed b kept).2⟩
  have here : e ∈ edges ++ [e] := List.mem_append_right _ List.mem_cons_self
  unfold takeBetter
  cases offer : g.edgeCost blocked cost node e with
  | none =>
    refine ⟨old, fun e' member total cost' => ?_⟩
    rcases List.mem_append.mp member with earlier | last
    · exact h.least e' earlier total cost'
    · rw [List.mem_singleton.mp last, offer] at cost'
      cases cost'
  | some total =>
    cases best with
    | none =>
      refine ⟨fun b kept => ?_, fun e' member total' cost' => ?_⟩
      · obtain rfl := Option.some.inj kept
        exact ⟨here, offer⟩
      · rcases List.mem_append.mp member with earlier | last
        · obtain ⟨b, none, -⟩ := h.least e' earlier total' cost'
          cases none
        · obtain rfl := List.mem_singleton.mp last
          exact ⟨_, rfl, .inr ⟨Option.some.inj (offer.symm.trans cost'), le_rfl⟩⟩
    | some b =>
      simp only
      split
      · rename_i better
        refine ⟨fun b' kept => ?_, fun e' member total' cost' => ⟨_, rfl, ?_⟩⟩
        · obtain rfl := Option.some.inj kept
          exact ⟨here, offer⟩
        · rcases List.mem_append.mp member with earlier | last
          · obtain ⟨b', same, low⟩ := h.least e' earlier total' cost'
            obtain rfl := Option.some.inj same
            rcases better with less | ⟨equal, before⟩ <;>
              rcases low with less' | ⟨equal', before'⟩
            · exact .inl (less.trans less')
            · exact .inl (less.trans_eq equal')
            · exact .inl (equal.trans_lt less')
            · exact .inr ⟨equal.trans equal', before.le.trans before'⟩
          · obtain rfl := List.mem_singleton.mp last
            exact .inr ⟨Option.some.inj (offer.symm.trans cost'), le_rfl⟩
      · rename_i kept
        refine ⟨old, fun e' member total' cost' => ⟨b, rfl, ?_⟩⟩
        rcases List.mem_append.mp member with earlier | last
        · obtain ⟨b', same, low⟩ := h.least e' earlier total' cost'
          obtain rfl := Option.some.inj same
          exact low
        · obtain rfl := List.mem_singleton.mp last
          obtain rfl := Option.some.inj (offer.symm.trans cost')
          obtain ⟨not_less, not_before⟩ := not_or.mp kept
          rcases (not_lt.mp not_less).lt_or_eq with less | equal
          · exact .inl less
          · exact .inr ⟨equal, not_lt.mp fun before => not_before ⟨equal.symm, before⟩⟩

theorem best_edge_best : BestOf g blocked cost node (List.finRange n)
    (g.bestEdge blocked cost node) := by
  unfold bestEdge
  generalize List.finRange n = edges
  induction edges using List.reverseRecOn with
  | nil => exact ⟨nofun, nofun⟩
  | append_singleton edges e ih =>
    rw [List.foldl_append]
    exact ih.step e

theorem best_edge_leads (field : g.CostField blocked destination cost)
    (near : cost node < infCost / 2) (away : node ≠ destination) :
    ∃ e, g.bestEdge blocked cost node = some (e, cost node) ∧
      g.Leads blocked destination node e := by
  have best : BestOf g blocked cost node (List.finRange n) (g.bestEdge blocked cost node) :=
    best_edge_best
  have offered : ∀ e es, g.Shortest blocked destination node (e :: es) →
      g.edgeCost blocked cost node e = some (cost node) := by
    intro e es shortest
    obtain ⟨isOpen, here, tight⟩ := (field.starts_iff near).mp ⟨es, shortest⟩
    have := g.time_nonneg e
    exact edge_cost_some.mpr ⟨isOpen, here, by linarith, tight⟩
  obtain ⟨first, es, shortest⟩ := field.exists_start near away
  obtain ⟨⟨e, total⟩, found, low⟩ :=
    best.least first (List.mem_finRange first) _ (offered first es shortest)
  have cost_eq : g.edgeCost blocked cost node e = some total := (best.listed _ found).2
  obtain ⟨isOpen, here, -, value⟩ := edge_cost_some.mp cost_eq
  have high : cost node ≤ total := by
    rw [← value, ← here]
    exact field.le_edge isOpen
  obtain rfl : total = cost node :=
    le_antisymm (low.elim le_of_lt fun same => same.1.le) high
  refine ⟨e, found, ⟨here, (field.starts_iff near).mpr ⟨isOpen, here, value⟩⟩, ?_⟩
  intro e' es' shortest'
  obtain ⟨b, same, lower⟩ :=
    best.least e' (List.mem_finRange e') _ (offered e' es' shortest')
  obtain rfl := Option.some.inj (found.symm.trans same)
  exact (lower.resolve_left (lt_irrefl _)).2

theorem leads_unique {e' : Fin n} (h : g.Leads blocked destination node e)
    (h' : g.Leads blocked destination node e') : e = e' := by
  obtain ⟨⟨-, es, shortest⟩, low⟩ := h
  obtain ⟨⟨-, es', shortest'⟩, low'⟩ := h'
  exact le_antisymm (low e' es' shortest') (low' e es shortest)

theorem follows_unique : Relator.RightUnique (g.Follows blocked destination) := by
  rintro node next next' ⟨-, e, leads, rfl⟩ ⟨-, e', leads', rfl⟩
  rw [leads_unique leads leads']

/-- The descent under way: the nodes visited, and the edges taken so far. -/
structure Walk (g : TimedGraph p n) (blocked : Fin n → Bool) (destination origin : Fin p)
    (cost : Fin p → ℚ) (node : Fin p) (visited : List (Fin p)) (path : List (Fin n)) : Prop where
  visited_eq : visited = node :: (path.map g.edgeSrc).reverse
  once : visited.Nodup
  leads_here : ∀ w ∈ visited, Relation.ReflTransGen (g.Follows blocked destination) w node
  extends_route : ∀ es, g.Route blocked destination node es →
    g.Route blocked destination origin (path ++ es)
  time : g.routeTime path + cost node = cost origin
  near : cost node < infCost / 2
  away : node ≠ destination

theorem Walk.length_le (walk : g.Walk blocked destination origin cost node visited path) :
    path.length ≤ n := by
  have once := walk.once
  rw [walk.visited_eq, List.nodup_cons, List.nodup_reverse] at once
  have short := once.2.of_map.length_le_card
  rwa [Fintype.card_fin] at short

theorem route_time_append (path es : List (Fin n)) :
    g.routeTime (path ++ es) = g.routeTime path + g.routeTime es := by
  unfold routeTime
  rw [List.map_append, List.sum_append]

theorem Walk.step (walk : g.Walk blocked destination origin cost node visited path)
    (field : g.CostField blocked destination cost) (leads : g.Leads blocked destination node e)
    (away : g.edgeDst e ≠ destination) (fresh : g.edgeDst e ∉ visited) :
    g.Walk blocked destination origin cost (g.edgeDst e) (g.edgeDst e :: visited)
      (path ++ [e]) := by
  obtain ⟨isOpen, here, tight⟩ := (field.starts_iff walk.near).mp leads.1.2
  have follows : g.Follows blocked destination node (g.edgeDst e) :=
    ⟨walk.away, e, leads, rfl⟩
  have nonneg := g.time_nonneg e
  have near := walk.near
  have time := walk.time
  refine ⟨?_, List.nodup_cons.mpr ⟨fresh, walk.once⟩, fun w known => ?_, fun es rest => ?_, ?_,
    by linarith, away⟩
  · rw [List.map_append, List.reverse_append, walk.visited_eq, ← here]
    rfl
  · rcases List.mem_cons.mp known with rfl | earlier
    · exact .refl
    · exact (walk.leads_here w earlier).tail follows
  · rw [List.append_assoc]
    exact walk.extends_route _ (here ▸ .take isOpen rest)
  · rw [route_time_append, ← time, ← tight]
    change g.routeTime path + (g.edgeTravelTime e + 0) + cost (g.edgeDst e) = _
    ring

/-- What the descent finds is a shortest route that ends its walk, and it finds one unless the
walk comes back. -/
theorem descend_spec (field : g.CostField blocked destination cost) (hops : ℕ)
    (walk : g.Walk blocked destination origin cost node visited path) :
    (∀ es, g.descend blocked cost destination hops node visited path = some es →
      g.Route blocked destination origin es ∧ g.routeTime es = cost origin ∧
        Relation.ReflTransGen (g.Follows blocked destination) node destination) ∧
      (g.NoReturn blocked destination node → n < hops + path.length →
        ∃ es, g.descend blocked cost destination hops node visited path = some es) := by
  induction hops generalizing node visited path with
  | zero =>
    refine ⟨nofun, fun _ enough => ?_⟩
    have := walk.length_le
    omega
  | succ hops ih =>
    obtain ⟨e, found, leads⟩ := best_edge_leads field walk.near walk.away
    obtain ⟨isOpen, here, tight⟩ := (field.starts_iff walk.near).mp leads.1.2
    have follows : g.Follows blocked destination node (g.edgeDst e) :=
      ⟨walk.away, e, leads, rfl⟩
    have time := walk.time
    unfold descend
    rw [found]
    simp only
    split
    · rename_i arrives
      have arrival : g.Route blocked destination node [e] := by
        rw [← here]
        exact .take isOpen (arrives ▸ .arrived)
      refine ⟨fun es same => ?_, fun _ _ => ⟨_, rfl⟩⟩
      obtain rfl := Option.some.inj same
      refine ⟨walk.extends_route _ arrival, ?_, .single (arrives ▸ follows)⟩
      rw [route_time_append, ← time, ← tight, arrives, field.destination_zero]
      rfl
    · rename_i away
      split
      · rename_i again
        refine ⟨nofun, fun clear _ => (clear ⟨g.edgeDst e, ?_, ?_⟩).elim⟩
        · exact .single follows
        · exact Relation.TransGen.tail' (walk.leads_here _ again) follows
      · rename_i fresh
        obtain ⟨sound, complete⟩ := ih (walk.step field leads away fresh)
        refine ⟨fun es same => ?_, fun clear enough => complete ?_ ?_⟩
        · obtain ⟨route, total, reach⟩ := sound es same
          exact ⟨route, total, reach.head follows⟩
        · rintro ⟨w, reach, back⟩
          exact clear ⟨w, reach.head follows, back⟩
        · rw [List.length_append, List.length_singleton]
          omega

end TimedGraph

end Routes

section World

variable {world : WorldState}

theorem validate_node_id_ok (node : Fin world.nodeCount) (fieldName : String) :
    validateNodeId world node fieldName = .ok node := by
  have inside : (node : ℕ) < world.graph.numNodes.toNat := node.isLt
  unfold validateNodeId
  rw [dif_neg (by omega)]
  exact congrArg Except.ok (Fin.ext (Int.toNat_natCast _))

theorem normalize_blocked_ok {blockedEdgeIds : List ℤ}
    (known : ∀ edgeId ∈ blockedEdgeIds, 0 ≤ edgeId ∧ edgeId < world.graph.numEdges) :
    ∃ blocked, normalizeBlockedEdgeIds world blockedEdgeIds = .ok blocked ∧
      ∀ edgeId, edgeId ∈ blocked ↔ edgeId ∈ blockedEdgeIds := by
  have members : ∀ edgeId, edgeId ∈ blockedEdgeIds.dedup.insertionSort (· ≤ ·) ↔
      edgeId ∈ blockedEdgeIds := by simp
  refine ⟨_, bind_ok.mpr ⟨(), raise_value_ok.mpr ?_, rfl⟩, members⟩
  rintro ⟨edgeId, listed, outside⟩
  have := known edgeId ((members edgeId).mp listed)
  omega

theorem compute_potential_ok (valid : StateContract world) (destination : Fin world.nodeCount)
    {blockedEdgeIds : List ℤ}
    (known : ∀ edgeId ∈ blockedEdgeIds, 0 ≤ edgeId ∧ edgeId < world.graph.numEdges) :
    ∃ potential, computeDynamicPotentialState world destination blockedEdgeIds = .ok potential ∧
      potential.graph = world.timedGraph valid ∧
      (∀ e, potential.blocked e = decide ((e : ℤ) ∈ blockedEdgeIds)) ∧
      potential.nodeCostToGo = potential.graph.nodeCostToGo potential.blocked destination := by
  obtain ⟨blocked, normal, members⟩ := normalize_blocked_ok known
  unfold computeDynamicPotentialState
  split
  · rename_i refused
    rw [validate_state_contract_ok.mpr valid] at refused
    cases refused
  · rw [validate_node_id_ok, ok_bind, normal, ok_bind]
    refine ⟨_, rfl, rfl, fun e => ?_, rfl⟩
    exact decide_eq_decide.mpr (members e)

def blockedEdges (world : WorldState) (blockedEdgeIds : List ℤ) (e : Fin world.edgeCount) : Bool :=
  decide ((e : ℤ) ∈ blockedEdgeIds)

/-- The call finds a path of open edges from the origin to the destination, and its total
travel time is the label of the origin. -/
def FindsShortest (world : WorldState) (origin destination : Fin world.nodeCount) (pathId : ℤ)
    (blockedEdgeIds : List ℤ) : Prop :=
  ∃ potential path,
    computeDynamicPotentialState world destination blockedEdgeIds = .ok potential ∧
    buildDynamicPotentialCandidate world origin destination pathId blockedEdgeIds none =
      .ok (some path) ∧
    potential.graph.Route potential.blocked destination origin path.edgeIds ∧
    potential.graph.routeTime path.edgeIds = potential.nodeCostToGo origin

end World

/-- A world of roads with given ends and travel times. -/
def roadWorld (numNodes : ℤ) (roads : List (ℤ × ℤ × ℚ)) : WorldState where
  graph := {
    numNodes := numNodes
    numEdges := roads.length
    edgeSrc := roads.map fun road => road.1
    edgeDst := roads.map fun road => road.2.1
    edgeClass := roads.map fun _ => "local" }
  traffic := {
    edgeQueue := roads.map fun _ => 0
    edgeStock := roads.map fun _ => 0
    edgeTravelTime := roads.map fun road => road.2.2 }

theorem one_road_valid : StateContract (roadWorld 2 [(0, 1, 3)]) :=
  validate_state_contract_ok.mp rfl

def plateau : WorldState := roadWorld 3 [(0, 1, 0), (1, 0, 0), (1, 2, 5)]

theorem plateau_valid : StateContract plateau := validate_state_contract_ok.mp rfl

end Metroflow.Multirate
