import Metroflow.City.Graph
import Metroflow.City.LinkCsr
import Metroflow.Lib.Memo
import Metroflow.Lib.Keyed

namespace Metroflow.Routing.TopologyCache

open Metroflow.Lib Metroflow.City Metroflow.City.LinkCsr

section Model

variable {D : Type} (digest : List ℤ → D) (digestBool : List Bool → D)

structure RoadNetwork where
  nodeCount : ℕ
  linkCount : ℕ
  turnCount : ℕ
  csr : RoadNetworkCSR nodeCount linkCount turnCount

variable (network : RoadNetwork)

def linkSrcNodeIndex : List ℤ := List.ofFn fun l => (network.csr.linkSrcNodeIndex l : ℤ)

def linkDstNodeIndex : List ℤ := List.ofFn fun l => (network.csr.linkDstNodeIndex l : ℤ)

def turnFromLinkIndex : List ℤ := List.ofFn fun t => (network.csr.turnFromLinkIndex t : ℤ)

def turnToLinkIndex : List ℤ := List.ofFn fun t => (network.csr.turnToLinkIndex t : ℤ)

/-- `outgoing_indptr` and `outgoing_link_indices`. -/
def outgoing : List ℕ × List ℕ := buildLinkCsr network.nodeCount (linkSrcNodeIndex network)

/-- `incoming_indptr` and `incoming_link_indices`. -/
def incoming : List ℕ × List ℕ := buildLinkCsr network.nodeCount (linkDstNodeIndex network)

/-- The entries of `_build_topology_cache_key` after its version. -/
structure TopologyCacheKey (D : Type) where
  counts : ℕ × ℕ × ℕ
  ids : D × D
  ends : D × D
  outgoing : D × D
  incoming : D × D
  turns : D × D
  turnIsForbidden : D
  blockable : D
  deriving DecidableEq

def staticBlockableMask : List Bool := List.ofFn fun l => (network.csr.links l).isBlockable

/-- `_build_topology_cache_key` -/
def topologyCacheKey : TopologyCacheKey D where
  counts := (network.nodeCount, network.linkCount, network.turnCount)
  ids := (digest (List.ofFn fun i => (network.csr.nodes i).nodeId),
    digest (List.ofFn fun l => (network.csr.links l).linkId))
  ends := (digest (linkSrcNodeIndex network), digest (linkDstNodeIndex network))
  outgoing := (digest ((outgoing network).1.map Nat.cast),
    digest ((outgoing network).2.map Nat.cast))
  incoming := (digest ((incoming network).1.map Nat.cast),
    digest ((incoming network).2.map Nat.cast))
  turns := (digest (turnFromLinkIndex network), digest (turnToLinkIndex network))
  turnIsForbidden := digestBool (List.ofFn network.csr.turnIsForbidden)
  blockable := digestBool (staticBlockableMask network)

/-- What `_reverse_graph_arrays` computes. -/
def reverseGraphArrays : List ℕ × List ℕ × List ℤ :=
  ((incoming network).1, (incoming network).2, linkSrcNodeIndex network)

/-- What `_get_outgoing_link_index_lookup` computes. -/
def outgoingLinkIndexLookup : List (List ℕ) :=
  (List.range network.nodeCount).map fun n =>
    ((outgoing network).2.drop ((outgoing network).1.getD n 0)).take
      ((outgoing network).1.getD (n + 1) 0 - (outgoing network).1.getD n 0)

/-- `successors.setdefault(from_idx, set()).add(to_idx)` -/
def addSuccessor (successors : Dict ℤ (List ℤ)) (fromIdx toIdx : ℤ) : Dict ℤ (List ℤ) :=
  successors.set fromIdx (((successors.get fromIdx).getD []).insert toIdx)

/-- What `_get_turn_successor_lookup` computes. -/
def turnSuccessorLookup : Dict ℤ (List ℤ) × Dict ℤ (List ℤ) :=
  let maps := (List.finRange network.turnCount).foldl (fun maps tIdx =>
    let fromIdx : ℤ := network.csr.turnFromLinkIndex tIdx
    let toIdx : ℤ := network.csr.turnToLinkIndex tIdx
    (addSuccessor maps.1 fromIdx toIdx,
      if network.csr.turnIsForbidden tIdx then maps.2 else addSuccessor maps.2 fromIdx toIdx))
    ([], [])
  (maps.1.map fun item => (item.1, sortOn id item.2),
    maps.2.map fun item => (item.1, sortOn id item.2))

def nodeKey : TopologyCacheKey D × ℕ × ℕ :=
  (topologyCacheKey digest digestBool network, network.nodeCount, network.linkCount)

def linkKey : TopologyCacheKey D × ℕ :=
  (topologyCacheKey digest digestBool network, network.linkCount)

def turnKey : TopologyCacheKey D × ℕ × ℕ :=
  (topologyCacheKey digest digestBool network, network.turnCount, network.linkCount)

end Model

section Keys

variable {D : Type} {digest : List ℤ → D} {digestBool : List Bool → D} {a b : RoadNetwork}

structure SameTopology (a b : RoadNetwork) : Prop where
  reverse : reverseGraphArrays a = reverseGraphArrays b
  blockable : staticBlockableMask a = staticBlockableMask b
  outgoing : outgoingLinkIndexLookup a = outgoingLinkIndexLookup b
  turns : turnSuccessorLookup a = turnSuccessorLookup b

theorem same_topology (ints : Function.Injective digest) (bools : Function.Injective digestBool)
    (same : topologyCacheKey digest digestBool a = topologyCacheKey digest digestBool b) :
    SameTopology a b := by
  obtain ⟨p, n, m, net⟩ := a
  obtain ⟨p', n', m', net'⟩ := b
  unfold topologyCacheKey at same
  simp only [TopologyCacheKey.mk.injEq, Prod.mk.injEq] at same
  obtain ⟨⟨rfl, rfl, rfl⟩, -, ⟨src, dst⟩, -, -, ⟨fromLink, toLink⟩, forbidden, blockable⟩ := same
  have sources := ints src
  have targets := ints dst
  have froms := List.ofFn_injective (ints fromLink)
  have tos := List.ofFn_injective (ints toLink)
  have forbids := List.ofFn_injective (bools forbidden)
  refine ⟨?_, bools blockable, ?_, ?_⟩
  · unfold reverseGraphArrays incoming
    rw [sources, targets]
  · unfold outgoingLinkIndexLookup outgoing
    rw [sources]
  · unfold turnSuccessorLookup
    dsimp only at froms tos forbids ⊢
    simp only [forbids, congrFun froms, congrFun tos]

theorem bucket_of_fn {n p : ℕ} (f : Fin n → Fin p) (v : Fin p) :
    bucket (List.ofFn fun l => (f l : ℕ)) v =
      ((List.finRange n).filter fun l => f l = v).map Fin.val := by
  unfold bucket
  rw [List.length_ofFn, ← List.map_coe_finRange_eq_range, List.filter_map]
  refine congrArg _ (List.filter_congr fun l _ => ?_)
  simp [Fin.ext_iff]

theorem indexed_of_fn {n p : ℕ} (f : Fin n → Fin p) :
    LinkIndex p (List.ofFn fun l => (f l : ℕ)) (buildLinkCsr p (List.ofFn fun l => (f l : ℤ))) := by
  have inside : ∀ w ∈ List.ofFn fun l => (f l : ℕ), w < p := by
    intro w listed
    obtain ⟨l, rfl⟩ := List.mem_ofFn.mp listed
    exact (f l).isLt
  have index := build_link_csr_spec inside
  rwa [List.map_ofFn] at index

theorem outgoing_lookup_eq (network : RoadNetwork) :
    outgoingLinkIndexLookup network = (List.finRange network.nodeCount).map fun node =>
      (network.csr.outgoingLinkIndices node).map Fin.val := by
  unfold outgoingLinkIndexLookup
  rw [← List.map_coe_finRange_eq_range, List.map_map]
  refine List.map_congr_left fun node _ => ?_
  exact ((indexed_of_fn network.csr.linkSrcNodeIndex).rows node node.isLt).trans (bucket_of_fn _ _)

end Keys

/-- One index from the three constructions, and caches that answer as if they were empty. -/
theorem adjacency_indexes_exact {D : Type} [DecidableEq D] {digest : List ℤ → D}
    {digestBool : List Bool → D} (ints : Function.Injective digest)
    (bools : Function.Injective digestBool) :
    (∀ (nodeCount : ℕ) (ns : List ℕ), (∀ w ∈ ns, w < nodeCount) →
      LinkIndex nodeCount ns (buildLinkCsr nodeCount (ns.map Nat.cast)) ∧
      adjacencyArrays nodeCount (ns.map Nat.cast) = buildLinkCsr nodeCount (ns.map Nat.cast) ∧
      ∀ S : Type, (Csr.linkCsrArrays nodeCount (ns.map Nat.cast) : Except String
        (Csr.NdArray S × Csr.NdArray S)) = asArrays (buildLinkCsr nodeCount (ns.map Nat.cast))) ∧
    (∀ network : RoadNetwork, LinkIndex network.nodeCount
        (List.ofFn fun l => (network.csr.linkSrcNodeIndex l : ℕ)) (outgoing network) ∧
      LinkIndex network.nodeCount
        (List.ofFn fun l => (network.csr.linkDstNodeIndex l : ℕ)) (incoming network) ∧
      outgoingLinkIndexLookup network = (List.finRange network.nodeCount).map fun node =>
        (network.csr.outgoingLinkIndices node).map Fin.val) ∧
    (∀ a b : RoadNetwork,
      topologyCacheKey digest digestBool a = topologyCacheKey digest digestBool b →
        SameTopology a b) ∧
    ∀ networks : List RoadNetwork,
      rememberAll (some 32) (nodeKey digest digestBool) reverseGraphArrays [] networks =
        networks.map reverseGraphArrays ∧
      rememberAll (some 32) (linkKey digest digestBool) staticBlockableMask [] networks =
        networks.map staticBlockableMask ∧
      rememberAll none (nodeKey digest digestBool) outgoingLinkIndexLookup [] networks =
        networks.map outgoingLinkIndexLookup ∧
      rememberAll none (turnKey digest digestBool) turnSuccessorLookup [] networks =
        networks.map turnSuccessorLookup := by
  refine ⟨fun nodeCount ns inside => ⟨build_link_csr_spec inside, ?_, ?_⟩,
    fun network => ⟨?_, ?_, ?_⟩, fun a b same => same_topology ints bools same,
    fun networks => ⟨?_, ?_, ?_, ?_⟩⟩
  · exact (adjacency_arrays_indexed inside).trans (build_link_csr_indexed inside).symm
  · exact fun S => link_csr_arrays_eq inside
  · exact indexed_of_fn network.csr.linkSrcNodeIndex
  · exact indexed_of_fn network.csr.linkDstNodeIndex
  · exact outgoing_lookup_eq network
  · refine Remembers.nil.remember_all (fun _ _ same => ?_) networks
    exact (same_topology ints bools (congrArg Prod.fst same)).reverse
  · refine Remembers.nil.remember_all (fun _ _ same => ?_) networks
    exact (same_topology ints bools (congrArg Prod.fst same)).blockable
  · refine Remembers.nil.remember_all (fun _ _ same => ?_) networks
    exact (same_topology ints bools (congrArg Prod.fst same)).outgoing
  · refine Remembers.nil.remember_all (fun _ _ same => ?_) networks
    exact (same_topology ints bools (congrArg Prod.fst same)).turns

/-- Two links between two nodes and one back, with their own lists as digests. -/
theorem three_links_indexed :
    LinkIndex 2 [0, 0, 1] (buildLinkCsr 2 [0, 0, 1]) ∧
      buildLinkCsr 2 [0, 0, 1] = ([0, 2, 3], [0, 1, 2]) :=
  ⟨((@adjacency_indexes_exact (List ℤ × List Bool) _ (fun values => (values, []))
    (fun values => ([], values)) (fun _ _ same => congrArg Prod.fst same)
    fun _ _ same => congrArg Prod.snd same).1 2 [0, 0, 1] (by decide)).1, by decide⟩

end Metroflow.Routing.TopologyCache
