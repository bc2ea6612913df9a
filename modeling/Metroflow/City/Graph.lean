import Metroflow.Lib.Tables

namespace Metroflow.City

open Metroflow.Lib

inductive TurnType where
  | left
  | through
  | right
  | rampOn
  | rampOff
  | uTurnForbidden
  deriving DecidableEq, Repr

structure Node where
  nodeId : ℤ
  deriving DecidableEq, Repr

/-- A directed road link; the fields keep what its constructor checks. -/
structure RoadLink where
  linkId : ℤ
  srcNodeId : ℤ
  dstNodeId : ℤ
  lengthM : ℚ
  freeFlowSpeedMps : ℚ
  capacityVehPerTick : ℚ
  lanes : ℕ := 1
  bridgeGroupId : Option ℤ := none
  isBlockable : Bool := true
  ends_differ : srcNodeId ≠ dstNodeId
  length_pos : 0 < lengthM
  speed_pos : 0 < freeFlowSpeedMps
  capacity_nonneg : 0 ≤ capacityVehPerTick
  lanes_pos : 1 ≤ lanes
  deriving DecidableEq

structure TurnMovement where
  fromLinkId : ℤ
  toLinkId : ℤ
  turnType : TurnType
  basePriority : ℚ := 1
  priority_nonneg : 0 ≤ basePriority := by norm_num
  deriving DecidableEq

structure BridgeCrossing where
  bridgeGroupId : ℤ
  linkIds : List ℤ
  nonempty : linkIds ≠ []
  deriving DecidableEq

theorem two_nodes_unique :
    Function.Injective fun i => ((![⟨1⟩, ⟨2⟩] : Fin 2 → Node) i).nodeId := by decide

theorem three_nodes_unique :
    Function.Injective fun i => ((![⟨0⟩, ⟨1⟩, ⟨2⟩] : Fin 3 → Node) i).nodeId := by decide

theorem no_turns_unique : ∀ s t : Fin 0, (Fin.elim0 s : TurnMovement).turnType ≠ .uTurnForbidden →
    (Fin.elim0 t : TurnMovement).turnType ≠ .uTurnForbidden →
    (Fin.elim0 s : TurnMovement).fromLinkId = (Fin.elim0 t : TurnMovement).fromLinkId →
    (Fin.elim0 s : TurnMovement).toLinkId = (Fin.elim0 t : TurnMovement).toLinkId → s = t :=
  fun s => s.elim0

/-- A validated static road network with its index arrays. -/
structure RoadNetworkCSR (p n m : ℕ) where
  nodes : Fin p → Node
  links : Fin n → RoadLink
  turns : Fin m → TurnMovement
  bridgeCrossings : List BridgeCrossing := []
  linkSrcNodeIndex : Fin n → Fin p
  linkDstNodeIndex : Fin n → Fin p
  turnFromLinkIndex : Fin m → Fin n
  turnToLinkIndex : Fin m → Fin n
  node_ids_unique : Function.Injective fun i => (nodes i).nodeId
  link_ids_unique : Function.Injective fun l => (links l).linkId
  src_node : ∀ l, (nodes (linkSrcNodeIndex l)).nodeId = (links l).srcNodeId
  dst_node : ∀ l, (nodes (linkDstNodeIndex l)).nodeId = (links l).dstNodeId
  from_link : ∀ t, (links (turnFromLinkIndex t)).linkId = (turns t).fromLinkId
  to_link : ∀ t, (links (turnToLinkIndex t)).linkId = (turns t).toLinkId
  turn_adjacent : ∀ t,
    (links (turnFromLinkIndex t)).dstNodeId = (links (turnToLinkIndex t)).srcNodeId
  legal_pairs_unique : ∀ s t, (turns s).turnType ≠ .uTurnForbidden →
    (turns t).turnType ≠ .uTurnForbidden → (turns s).fromLinkId = (turns t).fromLinkId →
    (turns s).toLinkId = (turns t).toLinkId → s = t
  crossing_links : ∀ c ∈ bridgeCrossings, ∀ linkId ∈ c.linkIds,
    ∃ l, (links l).linkId = linkId ∧ (links l).bridgeGroupId = some c.bridgeGroupId

namespace RoadNetworkCSR

variable {p n m : ℕ} (net : RoadNetworkCSR p n m)

def linkIdToIndex (linkId : ℤ) : Option (Fin n) := indexOf (fun l => (net.links l).linkId) linkId

def nodeIdToIndex (nodeId : ℤ) : Option (Fin p) := indexOf (fun i => (net.nodes i).nodeId) nodeId

def turnIsForbidden (t : Fin m) : Bool := decide ((net.turns t).turnType = .uTurnForbidden)

/-- The legal turn between two links, by their ids. -/
def turnPairToIndex (fromLinkId toLinkId : ℤ) : Option (Fin m) :=
  (List.finRange m).find? fun t =>
    !net.turnIsForbidden t && decide ((net.turns t).fromLinkId = fromLinkId) &&
      decide ((net.turns t).toLinkId = toLinkId)

/-- The links that leave a node, in index order. -/
def outgoingLinkIndices (node : Fin p) : List (Fin n) :=
  (List.finRange n).filter fun l => net.linkSrcNodeIndex l = node

/-- The links that end at a node, in index order. -/
def incomingLinkIndices (node : Fin p) : List (Fin n) :=
  (List.finRange n).filter fun l => net.linkDstNodeIndex l = node

@[simp]
theorem link_id_to_index_some {linkId : ℤ} {l : Fin n} :
    net.linkIdToIndex linkId = some l ↔ (net.links l).linkId = linkId :=
  index_of_eq_some net.link_ids_unique

theorem link_id_to_index_self (l : Fin n) :
    net.linkIdToIndex (net.links l).linkId = some l := by
  simp

@[simp]
theorem node_id_to_index_some {nodeId : ℤ} {i : Fin p} :
    net.nodeIdToIndex nodeId = some i ↔ (net.nodes i).nodeId = nodeId :=
  index_of_eq_some net.node_ids_unique

@[simp]
theorem mem_outgoing {node : Fin p} {l : Fin n} :
    l ∈ net.outgoingLinkIndices node ↔ net.linkSrcNodeIndex l = node := by
  simp [outgoingLinkIndices]

@[simp]
theorem mem_incoming {node : Fin p} {l : Fin n} :
    l ∈ net.incomingLinkIndices node ↔ net.linkDstNodeIndex l = node := by
  simp [incomingLinkIndices]

theorem turn_pair_to_index_some {a b : ℤ} {t : Fin m} (h : net.turnPairToIndex a b = some t) :
    net.turnIsForbidden t = false ∧ (net.turns t).fromLinkId = a ∧
      (net.turns t).toLinkId = b := by
  have := List.find?_some h
  simp only [Bool.and_eq_true, Bool.not_eq_eq_eq_not, Bool.not_true, decide_eq_true_eq] at this
  exact ⟨this.1.1, this.1.2, this.2⟩

theorem turn_pair_to_index_of_legal {t : Fin m} (legal : net.turnIsForbidden t = false) :
    net.turnPairToIndex (net.turns t).fromLinkId (net.turns t).toLinkId = some t := by
  cases h : net.turnPairToIndex (net.turns t).fromLinkId (net.turns t).toLinkId with
  | none =>
    have missing := List.find?_eq_none.mp h t (List.mem_finRange t)
    simp [legal] at missing
  | some s =>
    obtain ⟨legal', same, same'⟩ := net.turn_pair_to_index_some h
    simp only [turnIsForbidden, decide_eq_false_iff_not] at legal legal'
    rw [net.legal_pairs_unique s t legal' legal same same']

end RoadNetworkCSR

end Metroflow.City
