import Metroflow.Lib.Dict
import Metroflow.Lib.Flood
import Metroflow.Map.RoadLinks

namespace Metroflow.City
open Lib Map

structure WeakConnectivityReport where
  componentNodeIds : List (List ℤ)
  nodeComponentIdByNodeId : Dict ℤ ℕ

def WeakConnectivityReport.componentCount (report : WeakConnectivityReport) : ℕ :=
  report.componentNodeIds.length

abbrev Adjacency := Dict ℤ (Finset ℤ)

/-- `adjacency[src].add(dst)` -/
def Adjacency.add (adjacency : Adjacency) (src dst : ℤ) : Adjacency :=
  adjacency.set src (insert dst ((adjacency.get src).getD ∅))

section Analysis

variable {K : Type} [Scalar K]

def Adjacency.addLink (adjacency : Adjacency) (link : Map.RoadLink K) : Adjacency :=
  if adjacency.get link.srcNodeId = none ∨ adjacency.get link.dstNodeId = none then adjacency
  else (adjacency.add link.srcNodeId link.dstNodeId).add link.dstNodeId link.srcNodeId

def adjacencyOf (nodeIds : List ℤ) (links : List (Map.RoadLink K)) : Adjacency :=
  links.foldl Adjacency.addLink (Dict.update [] (nodeIds.map fun nodeId => (nodeId, ∅)))

/-- `sorted(adjacency[current])` -/
def Adjacency.neighbors (adjacency : Adjacency) (current : ℤ) : List ℤ :=
  ((adjacency.get current).getD ∅).sort

/-- The rank of a component: the larger first, then by the first of its nodes. -/
def componentRank (component : List ℤ) : ℤ ×ₗ ℤ :=
  toLex (-(component.length : ℤ), component.headD (-1))

def numberComponents (components : List (List ℤ)) : Dict ℤ ℕ :=
  components.zipIdx.foldl
    (fun numbers entry =>
      entry.1.foldl (fun numbers nodeId => numbers.set nodeId entry.2) numbers) []

/-- The weak components, by size and then by their least node. -/
def analyzeWeakConnectivity (nodes : List (MapNode K)) (links : List (Map.RoadLink K)) :
    WeakConnectivityReport :=
  let nodeIds := nodes.map MapNode.nodeId
  let adjacency := adjacencyOf nodeIds links
  let components := sortOn componentRank
    (Flood.componentsFrom adjacency.neighbors nodeIds.length (sortOn id (adjacency.map Prod.fst)))
  { componentNodeIds := components, nodeComponentIdByNodeId := numberComponents components }

/-- Two nodes of the list that a link joins, in either direction. -/
def Adjacent (nodeIds : List ℤ) (links : List (Map.RoadLink K)) (u v : ℤ) : Prop :=
  u ∈ nodeIds ∧ v ∈ nodeIds ∧ ∃ link ∈ links,
    link.srcNodeId = u ∧ link.dstNodeId = v ∨ link.srcNodeId = v ∧ link.dstNodeId = u

/-- Joined by an undirected path of links with both ends known. -/
def WeaklyJoined (nodeIds : List ℤ) (links : List (Map.RoadLink K)) : ℤ → ℤ → Prop :=
  Relation.ReflTransGen (Adjacent nodeIds links)

variable {nodeIds : List ℤ} {links : List (Map.RoadLink K)} {adjacency : Adjacency} {u v : ℤ}

theorem Adjacent.symm (h : Adjacent nodeIds links u v) : Adjacent nodeIds links v u := by
  obtain ⟨first, second, link, listed, ends⟩ := h
  exact ⟨second, first, link, listed, ends.symm⟩

/-- The sets hold the nodes adjacent by the links passed. -/
structure Records (nodeIds : List ℤ) (links : List (Map.RoadLink K)) (adjacency : Adjacency) :
    Prop where
  keys : adjacency.map Prod.fst = nodeIds
  adjacent : ∀ u v, v ∈ (adjacency.get u).getD ∅ ↔ Adjacent nodeIds links u v

theorem get_none_iff (keys : adjacency.map Prod.fst = nodeIds) :
    adjacency.get u = none ↔ u ∉ nodeIds := by
  rw [← keys, Dict.mem_keys_iff, ← Option.isSome_iff_exists]
  simp

theorem mem_add (src dst : ℤ) : v ∈ ((adjacency.add src dst).get u).getD ∅ ↔
    v ∈ (adjacency.get u).getD ∅ ∨ u = src ∧ v = dst := by
  unfold Adjacency.add
  rw [Dict.get_set]
  split
  · rename_i here
    rw [Option.getD_some, Finset.mem_insert, here]
    tauto
  · rename_i elsewhere
    exact (or_iff_left fun h => elsewhere h.1).symm

theorem keys_add {src dst : ℤ} (known : src ∈ adjacency.map Prod.fst) :
    (adjacency.add src dst).map Prod.fst = adjacency.map Prod.fst :=
  Dict.keys_set_of_mem known

theorem Records.addLink (h : Records nodeIds links adjacency) (link : Map.RoadLink K) :
    Records nodeIds (links ++ [link]) (adjacency.addLink link) := by
  have last : ∀ u v, Adjacent nodeIds (links ++ [link]) u v ↔ Adjacent nodeIds links u v ∨
      u ∈ nodeIds ∧ v ∈ nodeIds ∧
        (link.srcNodeId = u ∧ link.dstNodeId = v ∨ link.srcNodeId = v ∧ link.dstNodeId = u) := by
    intro u v
    unfold Adjacent
    simp only [List.mem_append, List.mem_singleton, or_and_right, exists_or, exists_eq_left]
    rw [and_or_left, and_or_left]
  unfold Adjacency.addLink
  split
  · rename_i unknown
    rw [get_none_iff h.keys, get_none_iff h.keys] at unknown
    refine ⟨h.keys, fun u v => ?_⟩
    rw [h.adjacent, last, or_iff_left]
    rintro ⟨u_known, v_known, ⟨rfl, rfl⟩ | ⟨rfl, rfl⟩⟩
    · exact unknown.elim (absurd u_known) (absurd v_known)
    · exact unknown.elim (absurd v_known) (absurd u_known)
  · rename_i known
    rw [get_none_iff h.keys, get_none_iff h.keys, not_or, not_not, not_not] at known
    obtain ⟨src, dst⟩ := known
    have keys : (adjacency.add link.srcNodeId link.dstNodeId).map Prod.fst = nodeIds :=
      (keys_add (h.keys ▸ src)).trans h.keys
    refine ⟨(keys_add (keys ▸ dst)).trans keys, fun u v => ?_⟩
    rw [mem_add, mem_add, h.adjacent, last, or_assoc]
    refine or_congr_right ⟨?_, ?_⟩
    · rintro (⟨rfl, rfl⟩ | ⟨rfl, rfl⟩)
      · exact ⟨src, dst, .inl ⟨rfl, rfl⟩⟩
      · exact ⟨dst, src, .inr ⟨rfl, rfl⟩⟩
    · rintro ⟨-, -, ⟨rfl, rfl⟩ | ⟨rfl, rfl⟩⟩
      · exact .inl ⟨rfl, rfl⟩
      · exact .inr ⟨rfl, rfl⟩

theorem adjacency_records (distinct : nodeIds.Nodup) (links : List (Map.RoadLink K)) :
    Records nodeIds links (adjacencyOf nodeIds links) := by
  unfold adjacencyOf
  have start : Dict.update ([] : Adjacency) (nodeIds.map fun nodeId => (nodeId, ∅)) =
      nodeIds.map fun nodeId => (nodeId, ∅) := by
    rw [Dict.update_fresh, List.nil_append]
    · rw [List.map_map]
      exact (List.map_id nodeIds).symm ▸ distinct
    · exact fun _ _ => rfl
  rw [start]
  induction links using List.reverseRecOn with
  | nil =>
    refine ⟨by rw [List.foldl_nil, List.map_map]; exact List.map_id _, fun u v => ?_⟩
    rw [List.foldl_nil]
    have empty : (Dict.get (nodeIds.map fun nodeId => (nodeId, (∅ : Finset ℤ))) u).getD ∅ = ∅ := by
      cases found : Dict.get (nodeIds.map fun nodeId => (nodeId, (∅ : Finset ℤ))) u with
      | none => rfl
      | some s =>
        obtain ⟨id, -, same⟩ := List.mem_map.mp ((Dict.get_eq_some_iff
          (by rw [List.map_map]; exact (List.map_id nodeIds).symm ▸ distinct)).mp found)
        exact (Prod.mk.inj same).2.symm
    rw [empty]
    simp [Adjacent]
  | append_singleton links link ih =>
    rw [List.foldl_append, List.foldl_cons, List.foldl_nil]
    exact ih.addLink link

theorem Records.mem_neighbors (h : Records nodeIds links adjacency) :
    v ∈ adjacency.neighbors u ↔ Adjacent nodeIds links u v := by
  rw [Adjacency.neighbors, Finset.mem_sort, h.adjacent]

theorem Records.joined (h : Records nodeIds links adjacency) :
    Flood.Joined adjacency.neighbors u v ↔ WeaklyJoined nodeIds links u v := by
  have step : (fun u v => v ∈ adjacency.neighbors u) = Adjacent nodeIds links := by
    funext u v
    exact propext h.mem_neighbors
  rw [Flood.Joined, WeaklyJoined, step]

/-- What a report says of the nodes and links it was made from. -/
structure WeakComponents (nodeIds : List ℤ) (links : List (Map.RoadLink K))
    (report : WeakConnectivityReport) : Prop where
  /-- Every node is in one component. -/
  partition : report.componentNodeIds.flatten.Perm nodeIds
  joined : ∀ u ∈ nodeIds, ∀ v ∈ nodeIds,
    (∃ c ∈ report.componentNodeIds, u ∈ c ∧ v ∈ c) ↔ WeaklyJoined nodeIds links u v
  ascending : ∀ c ∈ report.componentNodeIds, c ≠ [] ∧ c.Pairwise (· < ·)
  /-- The larger first, of equal ones the one with the smaller least node. -/
  order : report.componentNodeIds.Pairwise fun c d =>
    d.length < c.length ∨ c.length = d.length ∧ c.headD (-1) < d.headD (-1)
  numbers : ∀ i c, report.componentNodeIds[i]? = some c →
    ∀ u ∈ c, report.nodeComponentIdByNodeId.get u = some i

theorem numbered (components : List (List ℤ)) (distinct : components.flatten.Nodup) :
    ∀ i c, components[i]? = some c → ∀ u ∈ c, (numberComponents components).get u = some i := by
  have marks : ∀ (c : List ℤ) (i : ℕ) (numbers : Dict ℤ ℕ) (u : ℤ),
      Dict.get (c.foldl (fun numbers nodeId => Dict.set numbers nodeId i) numbers) u =
        if u ∈ c then some i else Dict.get numbers u := by
    intro c i
    induction c with
    | nil => simp
    | cons v c ih =>
      intro numbers u
      rw [List.foldl_cons, ih, Dict.get_set]
      by_cases here : u = v
      · simp [here]
      · simp [here]
  unfold numberComponents
  induction components using List.reverseRecOn with
  | nil => simp
  | append_singleton components last ih =>
    intro i c at_i u listed
    rw [List.flatten_append, List.flatten_singleton] at distinct
    obtain ⟨before, -, apart⟩ := List.nodup_append'.mp distinct
    rw [List.zipIdx_append, List.foldl_append, Nat.zero_add, List.zipIdx_singleton,
      List.foldl_cons, List.foldl_nil, marks]
    rcases Nat.lt_or_ge i components.length with inside | behind
    · rw [List.getElem?_append_left inside] at at_i
      rw [if_neg, ih before i c at_i u listed]
      exact fun mine => apart
        (List.mem_flatten.mpr ⟨c, List.mem_of_getElem? at_i, listed⟩) mine
    · rw [List.getElem?_append_right behind] at at_i
      have place : i - components.length = 0 := by
        have := (List.getElem?_eq_some_iff.mp at_i).1
        simp only [List.length_singleton] at this
        omega
      rw [place, List.getElem?_cons_zero] at at_i
      obtain rfl := Option.some.inj at_i
      rw [if_pos listed]
      congr 1
      omega

theorem ranks_distinct {components : List (List ℤ)} (distinct : components.flatten.Nodup)
    (nonempty : ∀ c ∈ components, c ≠ []) : (components.map componentRank).Nodup := by
  refine List.pairwise_map.mpr (List.Pairwise.imp_of_mem ?_ (List.nodup_flatten.mp distinct).2)
  intro c d c_listed d_listed apart same
  have heads : c.headD (-1) = d.headD (-1) := congrArg (fun rank => (ofLex rank).2) same
  obtain ⟨a, c, rfl⟩ := List.exists_cons_of_ne_nil (nonempty c c_listed)
  obtain ⟨b, d, rfl⟩ := List.exists_cons_of_ne_nil (nonempty d d_listed)
  obtain rfl : a = b := heads
  exact apart List.mem_cons_self List.mem_cons_self

theorem analyze_weak_connectivity_spec {nodes : List (MapNode K)}
    (distinct : (nodes.map MapNode.nodeId).Nodup) (links : List (Map.RoadLink K)) :
    WeakComponents (nodes.map MapNode.nodeId) links (analyzeWeakConnectivity nodes links) := by
  have records := adjacency_records distinct links
  unfold analyzeWeakConnectivity
  dsimp only
  generalize nodes.map MapNode.nodeId = nodeIds at *
  rw [records.keys]
  have inside : ∀ start ∈ sortOn id nodeIds, ∀ v,
      Flood.Joined (adjacencyOf nodeIds links).neighbors start v → v ∈ nodeIds := by
    intro start listed v joined
    rw [records.joined] at joined
    induction joined with
    | refl => exact mem_sort_on.mp listed
    | tail _ edge _ => exact edge.2.1
  obtain ⟨classes, ascending, starts, reached⟩ := Flood.components_from_spec (sortOn id nodeIds)
    (fun u v edge => records.mem_neighbors.mpr (records.mem_neighbors.mp edge).symm) inside le_rfl
  generalize Flood.componentsFrom (adjacencyOf nodeIds links).neighbors nodeIds.length
    (sortOn id nodeIds) = components at *
  have perm : (sortOn componentRank components).Perm components := sort_on_perm
  refine ⟨?_, ?_, ?_, ?_, ?_⟩
  · refine (List.perm_ext_iff_of_nodup (perm.flatten.nodup_iff.mpr classes.distinct)
      distinct).mpr fun u => ?_
    rw [perm.flatten.mem_iff]
    constructor
    · intro listed
      obtain ⟨start, first, joined⟩ := reached u listed
      exact inside start first u joined
    · exact fun known => starts u (mem_sort_on.mpr known)
  · intro u u_known v v_known
    rw [← records.joined]
    constructor
    · rintro ⟨c, listed, mem, mem'⟩
      exact (classes.classes c (perm.mem_iff.mp listed) u mem v).mp mem'
    · intro joined
      obtain ⟨c, listed, mem⟩ := List.mem_flatten.mp (starts u (mem_sort_on.mpr u_known))
      exact ⟨c, perm.mem_iff.mpr listed, mem, (classes.classes c listed u mem v).mpr joined⟩
  · intro c listed
    have listed := perm.mem_iff.mp listed
    exact ⟨classes.nonempty c listed, ascending c listed⟩
  · have strict := sort_on_strict (ranks_distinct classes.distinct classes.nonempty)
    refine strict.imp fun less => ?_
    rw [componentRank, componentRank, Prod.Lex.toLex_lt_toLex] at less
    omega
  · exact numbered _ (perm.flatten.nodup_iff.mpr classes.distinct)

theorem analyze_weak_connectivity_perm {nodes nodes' : List (MapNode K)}
    {links links' : List (Map.RoadLink K)} (distinct : (nodes.map MapNode.nodeId).Nodup)
    (same_nodes : nodes'.Perm nodes) (same_links : links'.Perm links) :
    analyzeWeakConnectivity nodes' links' = analyzeWeakConnectivity nodes links := by
  have ids := same_nodes.map MapNode.nodeId
  have distinct' := ids.nodup_iff.mpr distinct
  have records := adjacency_records distinct links
  have records' := adjacency_records distinct' links'
  have neighbors : (adjacencyOf (nodes'.map MapNode.nodeId) links').neighbors =
      (adjacencyOf (nodes.map MapNode.nodeId) links).neighbors := by
    funext u
    have sets : ((adjacencyOf (nodes'.map MapNode.nodeId) links').get u).getD ∅ =
        ((adjacencyOf (nodes.map MapNode.nodeId) links).get u).getD ∅ := by
      ext v
      rw [records.adjacent, records'.adjacent]
      unfold Adjacent
      simp only [ids.mem_iff, same_links.mem_iff]
    rw [Adjacency.neighbors, sets, Adjacency.neighbors]
  have starts : sortOn id (nodes'.map MapNode.nodeId) = sortOn id (nodes.map MapNode.nodeId) :=
    sort_on_eq_of_perm ids (by rwa [List.map_id])
  unfold analyzeWeakConnectivity
  dsimp only
  rw [records.keys, records'.keys, neighbors, starts, ids.length_eq]

end Analysis

end Metroflow.City
