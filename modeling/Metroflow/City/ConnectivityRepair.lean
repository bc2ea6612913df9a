import Metroflow.City.WeakConnectivity
import Metroflow.Lib.Extended
import Metroflow.Lib.Loops

namespace Metroflow.City
open Lib Map

def WeakConnectivityReport.componentSizes (report : WeakConnectivityReport) : List ℕ :=
  report.componentNodeIds.map List.length

structure RepairMetadata where
  weakComponentCountBeforeRepair : ℕ
  weakComponentSizesBeforeRepair : List ℕ
  connectivityRepairLinkCount : ℕ
  connectivityRepairLinkIds : List ℤ
  weakComponentCountAfterRepair : ℕ
  weakComponentSizesAfterRepair : List ℕ

def repairMetadata (before after : WeakConnectivityReport) (repairLinkIds : List ℤ) :
    RepairMetadata where
  weakComponentCountBeforeRepair := before.componentCount
  weakComponentSizesBeforeRepair := before.componentSizes
  connectivityRepairLinkCount := repairLinkIds.length
  connectivityRepairLinkIds := repairLinkIds
  weakComponentCountAfterRepair := after.componentCount
  weakComponentSizesAfterRepair := after.componentSizes

section Repair

variable {K : Type} [Scalar K]

structure WeakConnectivityRepairResult (K : Type) [Scalar K] where
  nodes : List (MapNode K)
  links : List (Map.RoadLink K)
  repairLinkIds : List ℤ
  before : WeakConnectivityReport
  after : WeakConnectivityReport
  metadata : RepairMetadata

/-- What the caller sets of a stitch. -/
structure StitchArguments (K : Type) [Scalar K] where
  roadClass : RoadClass := .collector
  lanes : ℤ := 1
  speedMps : K := Scalar.ofInt 11
  capacityVehPerTick : K := Scalar.ofInt 8

/-- What the road link constructor asks of them. -/
structure StitchArguments.Valid (arguments : StitchArguments K) : Prop where
  speed : ¬ arguments.speedMps ≤ 0
  capacity : ¬ arguments.capacityVehPerTick < 0
  lanes : 1 ≤ arguments.lanes
  not_bridge : arguments.roadClass ≠ .bridge

/-- The order of `(distance, small_node_id, main_node_id)`. -/
def candidateBefore (a b : K × ℤ × ℤ) : Bool :=
  if a.1 = b.1 then
    if a.2.1 = b.2.1 then decide (a.2.2 < b.2.2) else decide (a.2.1 < b.2.1)
  else decide (a.1 < b.1)

def minCandidate : List (K × ℤ × ℤ) → Except String (K × ℤ × ℤ)
  | [] => .error "min() arg is an empty sequence"
  | first :: others =>
    .ok (others.foldl (fun best a => if candidateBefore a best then a else best) first)

def nodeAt (nodesById : Dict ℤ (MapNode K)) (nodeId : ℤ) : Except String (MapNode K) :=
  match nodesById.get nodeId with
  | some node => .ok node
  | none => .error "KeyError"

def nearestComponentPair (nodesById : Dict ℤ (MapNode K)) (smallComponent mainComponent : List ℤ) :
    Except String (ℤ × ℤ) := do
  let rows ← smallComponent.mapM fun smallNodeId => do
    let smallNode ← nodeAt nodesById smallNodeId
    mainComponent.mapM fun mainNodeId => do
      let mainNode ← nodeAt nodesById mainNodeId
      return (Scalar.dist smallNode.point mainNode.point, smallNodeId, mainNodeId)
  let least ← minCandidate rows.flatten
  return least.2

/-- `max(length, 1.0)` -/
def stitchLength (srcNode dstNode : MapNode K) : K :=
  let length := Scalar.dist dstNode.point srcNode.point
  if length < 1 then 1 else length

def stitchLink (arguments : StitchArguments K) (linkId : ℤ) (srcNode dstNode : MapNode K)
    (physicalRoadId : ℤ) : Except String (Map.RoadLink K) :=
  Map.RoadLink.build {
    linkId
    srcNodeId := srcNode.nodeId
    dstNodeId := dstNode.nodeId
    roadClass := arguments.roadClass
    lengthM := stitchLength srcNode dstNode
    freeFlowSpeedMps := arguments.speedMps
    capacityVehPerTick := arguments.capacityVehPerTick
    lanes := arguments.lanes
    bridgeGroupId := none
    physicalRoadId := some physicalRoadId }

structure RepairState (K : Type) [Scalar K] where
  links : List (Map.RoadLink K)
  repairLinkIds : List ℤ
  nextLinkId : ℤ
  nextPhysicalRoadId : ℤ

def stitch (arguments : StitchArguments K) (nodesById : Dict ℤ (MapNode K))
    (mainComponent : List ℤ) (state : RepairState K) (component : List ℤ) :
    Except String (RepairState K) := do
  let (smallNodeId, mainNodeId) ← nearestComponentPair nodesById component mainComponent
  let smallNode ← nodeAt nodesById smallNodeId
  let mainNode ← nodeAt nodesById mainNodeId
  let forward ← stitchLink arguments state.nextLinkId smallNode mainNode state.nextPhysicalRoadId
  let reverse ← stitchLink arguments (state.nextLinkId + 1) mainNode smallNode
    state.nextPhysicalRoadId
  return {
    links := state.links ++ [forward, reverse]
    repairLinkIds := state.repairLinkIds ++ [forward.linkId, reverse.linkId]
    nextLinkId := state.nextLinkId + 2
    nextPhysicalRoadId := state.nextPhysicalRoadId + 1 }

/-- `max(ids, default=-1) + 1` -/
def nextAfter (ids : List ℤ) : ℤ := ids.max?.getD (-1) + 1

/-- Connects every other weak component to the main one. -/
def repairWeakConnectivity (nodes : List (MapNode K)) (links : List (Map.RoadLink K))
    (arguments : StitchArguments K) : Except String (WeakConnectivityRepairResult K) := do
  let before := analyzeWeakConnectivity nodes links
  if before.componentCount ≤ 1 then
    return { nodes, links, repairLinkIds := [], before, after := before
             metadata := repairMetadata before before [] }
  let nodesById := Dict.update [] (nodes.map fun node => (node.nodeId, node))
  let start := {
    links, repairLinkIds := []
    nextLinkId := nextAfter (links.map fun link => link.linkId)
    nextPhysicalRoadId := nextAfter (links.filterMap fun link => link.physicalRoadId) }
  let last ← before.componentNodeIds.tail.foldlM
    (stitch arguments nodesById (before.componentNodeIds.headD [])) start
  let after := analyzeWeakConnectivity nodes last.links
  return { nodes, links := last.links, repairLinkIds := last.repairLinkIds, before, after
           metadata := repairMetadata before after last.repairLinkIds }

end Repair

theorem lt_next_after {ids : List ℤ} {id : ℤ} (listed : id ∈ ids) : id < nextAfter ids := by
  unfold nextAfter
  cases top : ids.max? with
  | none => exact absurd (List.max?_eq_none_iff.mp top) (List.ne_nil_of_mem listed)
  | some a => exact Int.lt_add_one_of_le ((List.max?_eq_some_iff.mp top).2 id listed)

theorem next_after_nonneg {ids : List ℤ} (nonneg : ∀ id ∈ ids, 0 ≤ id) : 0 ≤ nextAfter ids := by
  unfold nextAfter
  cases top : ids.max? with
  | none => simp
  | some a =>
    have := nonneg a (List.max?_mem top)
    simp only [Option.getD_some]
    omega

theorem default_valid : StitchArguments.Valid ({} : StitchArguments ℝ) where
  speed := by
    change ¬ ((11 : ℤ) : ℝ) ≤ 0
    norm_num
  capacity := by
    change ¬ ((8 : ℤ) : ℝ) < 0
    norm_num
  lanes := le_rfl
  not_bridge := by decide

/-- Candidates in the order of the tuples. -/
noncomputable def candidateRank (a : ℝ × ℤ × ℤ) : ℝ ×ₗ ℤ ×ₗ ℤ := toLex (a.1, toLex a.2)

theorem candidate_before_iff {a b : ℝ × ℤ × ℤ} :
    candidateBefore a b = true ↔ candidateRank a < candidateRank b := by
  unfold candidateBefore candidateRank
  rw [Prod.Lex.toLex_lt_toLex, Prod.Lex.toLex_lt_toLex]
  split_ifs with distance small
  · simp [distance, small]
  · simp [distance, small]
  · simp [distance]

theorem min_candidate_spec (candidates : List (ℝ × ℤ × ℤ)) (nonempty : candidates ≠ []) :
    ∃ least ∈ candidates, minCandidate candidates = .ok least ∧
      ∀ a ∈ candidates, least.1 ≤ a.1 := by
  obtain ⟨first, others, rfl⟩ := List.exists_cons_of_ne_nil nonempty
  have irrefl : ∀ a : ℝ × ℤ × ℤ, candidateBefore a a = false := fun a =>
    Bool.eq_false_iff.mpr fun h => lt_irrefl _ (candidate_before_iff.mp h)
  have trans : ∀ a b c : ℝ × ℤ × ℤ, candidateBefore a b = true → candidateBefore b c = true →
      candidateBefore a c = true := fun a b c ab bc =>
    candidate_before_iff.mpr ((candidate_before_iff.mp ab).trans (candidate_before_iff.mp bc))
  obtain ⟨listed, least⟩ := scan_maximal irrefl trans first others
  refine ⟨_, listed, rfl, fun a here => ?_⟩
  have not_before : ¬ candidateRank a < candidateRank _ := fun h =>
    Bool.eq_false_iff.mp (least a here) (candidate_before_iff.mpr h)
  by_contra nearer
  exact not_before (Prod.Lex.toLex_lt_toLex.mpr (.inl (not_le.mp nearer)))

variable {nodes : List (MapNode ℝ)} {links : List (Map.RoadLink ℝ)} {arguments : StitchArguments ℝ}
  {component mainComponent : List ℤ}

structure NearestNodes (nodes : List (MapNode ℝ)) (component mainComponent : List ℤ)
    (small main : MapNode ℝ) : Prop where
  small_listed : small ∈ nodes
  main_listed : main ∈ nodes
  small_mem : small.nodeId ∈ component
  main_mem : main.nodeId ∈ mainComponent
  nearest : ∀ a ∈ nodes, a.nodeId ∈ component → ∀ b ∈ nodes, b.nodeId ∈ mainComponent →
    Scalar.dist small.point main.point ≤ Scalar.dist a.point b.point

theorem node_at_ok (distinct : (nodes.map MapNode.nodeId).Nodup) {node : MapNode ℝ}
    (listed : node ∈ nodes) :
    nodeAt (Dict.update [] (nodes.map fun node => (node.nodeId, node))) node.nodeId = .ok node := by
  have keys : ((nodes.map fun node => (node.nodeId, node)).map Prod.fst).Nodup := by
    rwa [List.map_map]
  have found : Dict.get (nodes.map fun node => (node.nodeId, node)) node.nodeId = some node :=
    (Dict.get_eq_some_iff keys).mpr (List.mem_map_of_mem listed)
  unfold nodeAt
  rw [Dict.update_fresh keys (fun _ _ => rfl), List.nil_append, found]

theorem nearest_component_pair_spec (distinct : (nodes.map MapNode.nodeId).Nodup)
    (known : ∀ id ∈ component, id ∈ nodes.map MapNode.nodeId) (nonempty : component ≠ [])
    (main_known : ∀ id ∈ mainComponent, id ∈ nodes.map MapNode.nodeId)
    (main_nonempty : mainComponent ≠ []) :
    ∃ small main, NearestNodes nodes component mainComponent small main ∧
      nearestComponentPair (Dict.update [] (nodes.map fun node => (node.nodeId, node)))
        component mainComponent = .ok (small.nodeId, main.nodeId) := by
  obtain ⟨someId, here⟩ := List.exists_mem_of_ne_nil component nonempty
  obtain ⟨someNode, -, -⟩ := List.mem_map.mp (known someId here)
  have : Nonempty (MapNode ℝ) := ⟨someNode⟩
  have named : ∀ id ∈ nodes.map MapNode.nodeId, ∃ node ∈ nodes, node.nodeId = id :=
    fun id listed => List.mem_map.mp listed
  choose! node node_listed node_id using named
  have at_id : ∀ id ∈ nodes.map MapNode.nodeId,
      nodeAt (Dict.update [] (nodes.map fun (n : MapNode ℝ) => (n.nodeId, n))) id =
        .ok (node id) := by
    intro id listed
    have found := node_at_ok distinct (node_listed id listed)
    rwa [node_id id listed] at found
  let candidate (small main : ℤ) : ℝ × ℤ × ℤ :=
    (Scalar.dist (node small).point (node main).point, small, main)
  obtain ⟨someMain, main_here⟩ := List.exists_mem_of_ne_nil mainComponent main_nonempty
  obtain ⟨least, listed, chosen, nearest⟩ := min_candidate_spec
    (component.map fun small => mainComponent.map (candidate small)).flatten
    (List.ne_nil_of_mem (List.mem_flatten.mpr
      ⟨_, List.mem_map_of_mem here, List.mem_map_of_mem main_here⟩))
  obtain ⟨row, row_listed, in_row⟩ := List.mem_flatten.mp listed
  obtain ⟨small, small_mem, rfl⟩ := List.mem_map.mp row_listed
  obtain ⟨main, main_mem, rfl⟩ := List.mem_map.mp in_row
  refine ⟨node small, node main, ⟨node_listed small (known small small_mem),
    node_listed main (main_known main main_mem), ?_, ?_, ?_⟩, ?_⟩
  · rwa [node_id small (known small small_mem)]
  · rwa [node_id main (main_known main main_mem)]
  · intro a a_listed a_mem b b_listed b_mem
    have same : ∀ c ∈ nodes, node c.nodeId = c := by
      intro c c_listed
      have known := List.mem_map_of_mem (f := MapNode.nodeId) c_listed
      exact List.inj_on_of_nodup_map distinct (node_listed c.nodeId known) c_listed
        (node_id c.nodeId known)
    have within := nearest (candidate a.nodeId b.nodeId) (List.mem_flatten.mpr
      ⟨_, List.mem_map_of_mem a_mem, List.mem_map_of_mem b_mem⟩)
    dsimp only [candidate] at within
    rwa [same a a_listed, same b b_listed] at within
  · have rows : component.mapM (fun smallNodeId => do
        let smallNode ← nodeAt (Dict.update [] (nodes.map fun (n : MapNode ℝ) => (n.nodeId, n)))
          smallNodeId
        mainComponent.mapM fun mainNodeId => do
          let mainNode ← nodeAt (Dict.update [] (nodes.map fun (n : MapNode ℝ) => (n.nodeId, n)))
            mainNodeId
          return (Scalar.dist smallNode.point mainNode.point, smallNodeId, mainNodeId)) =
        .ok (component.map fun small => mainComponent.map (candidate small)) := by
      refine map_all_total fun small mem => ?_
      rw [at_id small (known small mem), ok_bind]
      refine map_all_total fun main mem => ?_
      rw [at_id main (main_known main mem), ok_bind]
      rfl
    unfold nearestComponentPair
    rw [rows, ok_bind, chosen, ok_bind, node_id small (known small small_mem),
      node_id main (main_known main main_mem)]
    rfl

/-- A link in each direction between two nodes of the components that are nearest. -/
structure Stitched (nodes : List (MapNode ℝ)) (mainComponent component : List ℤ)
    (pair : Map.RoadLink ℝ × Map.RoadLink ℝ) : Prop where
  joins : ∃ small main, NearestNodes nodes component mainComponent small main ∧
    pair.1.srcNodeId = small.nodeId ∧ pair.1.dstNodeId = main.nodeId
  opposite : pair.2.srcNodeId = pair.1.dstNodeId ∧ pair.2.dstNodeId = pair.1.srcNodeId
  shared : pair.2.physicalRoadId = pair.1.physicalRoadId

def bothWays (pairs : List (Map.RoadLink ℝ × Map.RoadLink ℝ)) : List (Map.RoadLink ℝ) :=
  pairs.flatMap fun pair => [pair.1, pair.2]

theorem stitch_link_ok (valid : arguments.Valid) (linkId : ℤ) {road : ℤ} {src dst : MapNode ℝ}
    (apart : src.nodeId ≠ dst.nodeId) (nonneg : 0 ≤ road) :
    ∃ link, stitchLink arguments linkId src dst road = .ok link ∧ link.linkId = linkId ∧
      link.srcNodeId = src.nodeId ∧ link.dstNodeId = dst.nodeId ∧
      link.physicalRoadId = some road := by
  have long : ¬ stitchLength src dst ≤ 0 := by
    unfold stitchLength
    dsimp only
    split
    · exact not_le.mpr one_pos
    · rename_i far
      exact not_le.mpr (one_pos.trans_le (not_lt.mp far))
  obtain ⟨link, built, fields⟩ := @Map.RoadLink.build_total ℝ _ {
    linkId
    srcNodeId := src.nodeId
    dstNodeId := dst.nodeId
    roadClass := arguments.roadClass
    lengthM := stitchLength src dst
    freeFlowSpeedMps := arguments.speedMps
    capacityVehPerTick := arguments.capacityVehPerTick
    lanes := arguments.lanes
    bridgeGroupId := none
    physicalRoadId := some road } apart long valid.speed valid.capacity valid.lanes
    (fun bridge => absurd bridge valid.not_bridge)
    (fun id given => by obtain rfl := Option.some.inj given; exact nonneg)
    (fun typed => absurd rfl typed)
  refine ⟨link, built, ?_⟩
  rw [fields]
  exact ⟨rfl, rfl, rfl, rfl⟩

/-- The ids of the new links lie between the bounds, each used once, and so do their roads. -/
structure Minted (firstId nextId firstRoad nextRoad : ℤ)
    (pairs : List (Map.RoadLink ℝ × Map.RoadLink ℝ)) : Prop where
  id_order : firstId ≤ nextId
  road_order : firstRoad ≤ nextRoad
  ids : ((bothWays pairs).map fun link => link.linkId).Nodup
  id_bounds : ∀ link ∈ bothWays pairs, firstId ≤ link.linkId ∧ link.linkId < nextId
  roads : (pairs.map fun pair => pair.1.physicalRoadId).Nodup
  road_bounds : ∀ pair ∈ pairs, ∃ road, pair.1.physicalRoadId = some road ∧ firstRoad ≤ road ∧
    road < nextRoad

theorem Minted.nil (firstId firstRoad : ℤ) : Minted firstId firstId firstRoad firstRoad [] where
  id_order := le_rfl
  road_order := le_rfl
  ids := List.nodup_nil
  id_bounds := by simp [bothWays]
  roads := List.nodup_nil
  road_bounds := by simp

theorem both_ways_append (pairs : List (Map.RoadLink ℝ × Map.RoadLink ℝ))
    (forward reverse : Map.RoadLink ℝ) :
    bothWays (pairs ++ [(forward, reverse)]) = bothWays pairs ++ [forward, reverse] := by
  simp [bothWays]

theorem Minted.append {firstId nextId firstRoad nextRoad : ℤ}
    {pairs : List (Map.RoadLink ℝ × Map.RoadLink ℝ)} {forward reverse : Map.RoadLink ℝ}
    (h : Minted firstId nextId firstRoad nextRoad pairs) (forward_id : forward.linkId = nextId)
    (reverse_id : reverse.linkId = nextId + 1) (road : forward.physicalRoadId = some nextRoad) :
    Minted firstId (nextId + 2) firstRoad (nextRoad + 1) (pairs ++ [(forward, reverse)]) := by
  have id_order := h.id_order
  have road_order := h.road_order
  refine ⟨by omega, by omega, ?_, ?_, ?_, ?_⟩
  · rw [both_ways_append, List.map_append]
    refine List.nodup_append'.mpr ⟨h.ids, ?_, ?_⟩
    · simp [forward_id, reverse_id]
    · intro id old new
      obtain ⟨link, listed, rfl⟩ := List.mem_map.mp old
      have below := (h.id_bounds link listed).2
      simp only [List.map_cons, List.map_nil, List.mem_cons, List.not_mem_nil, or_false,
        forward_id, reverse_id] at new
      omega
  · rw [both_ways_append, List.forall_mem_append]
    refine ⟨fun link listed => ?_, ?_⟩
    · have := h.id_bounds link listed
      omega
    · simp only [List.forall_mem_cons, forward_id, reverse_id, List.not_mem_nil, false_imp_iff,
        implies_true, and_true]
      omega
  · rw [List.map_append]
    refine List.nodup_append'.mpr ⟨h.roads, List.nodup_singleton _, ?_⟩
    intro id old new
    obtain ⟨pair, listed, rfl⟩ := List.mem_map.mp old
    obtain ⟨used, at_pair, -, below⟩ := h.road_bounds pair listed
    rw [List.map_singleton, List.mem_singleton, at_pair, road, Option.some.injEq] at new
    omega
  · rw [List.forall_mem_append]
    refine ⟨fun pair listed => ?_, ?_⟩
    · obtain ⟨used, at_pair, above, below⟩ := h.road_bounds pair listed
      exact ⟨used, at_pair, above, by omega⟩
    · rw [List.forall_mem_singleton]
      exact ⟨nextRoad, road, road_order, by omega⟩

/-- The links so far: the given ones, and a stitch for each component passed. -/
structure Repairing (nodes : List (MapNode ℝ)) (links : List (Map.RoadLink ℝ))
    (mainComponent : List ℤ) (firstId firstRoad : ℤ) (past : List (List ℤ))
    (state : RepairState ℝ) (pairs : List (Map.RoadLink ℝ × Map.RoadLink ℝ)) : Prop where
  links : state.links = links ++ bothWays pairs
  ids : state.repairLinkIds = (bothWays pairs).map fun link => link.linkId
  stitched : List.Forall₂ (Stitched nodes mainComponent) past pairs
  minted : Minted firstId state.nextLinkId firstRoad state.nextPhysicalRoadId pairs

theorem stitch_step {firstId firstRoad : ℤ} {past : List (List ℤ)} {state : RepairState ℝ}
    {pairs : List (Map.RoadLink ℝ × Map.RoadLink ℝ)} (valid : arguments.Valid)
    (distinct : (nodes.map MapNode.nodeId).Nodup) (nonneg : 0 ≤ firstRoad)
    (known : ∀ id ∈ component, id ∈ nodes.map MapNode.nodeId) (nonempty : component ≠ [])
    (main_known : ∀ id ∈ mainComponent, id ∈ nodes.map MapNode.nodeId)
    (main_nonempty : mainComponent ≠ []) (apart : component.Disjoint mainComponent)
    (h : Repairing nodes links mainComponent firstId firstRoad past state pairs) :
    ∃ state' pairs', stitch arguments
        (Dict.update [] (nodes.map fun node => (node.nodeId, node))) mainComponent state component =
        .ok state' ∧
      Repairing nodes links mainComponent firstId firstRoad (past ++ [component]) state'
        pairs' := by
  obtain ⟨small, main, nearest, chosen⟩ :=
    nearest_component_pair_spec distinct known nonempty main_known main_nonempty
  have differ : small.nodeId ≠ main.nodeId := fun same =>
    apart nearest.small_mem (same ▸ nearest.main_mem)
  have road_nonneg : 0 ≤ state.nextPhysicalRoadId := nonneg.trans h.minted.road_order
  obtain ⟨forward, forward_built, forward_id, forward_src, forward_dst, forward_road⟩ :=
    stitch_link_ok valid state.nextLinkId differ road_nonneg
  obtain ⟨reverse, reverse_built, reverse_id, reverse_src, reverse_dst, reverse_road⟩ :=
    stitch_link_ok valid (state.nextLinkId + 1) differ.symm road_nonneg
  refine ⟨{
    links := state.links ++ [forward, reverse]
    repairLinkIds := state.repairLinkIds ++ [forward.linkId, reverse.linkId]
    nextLinkId := state.nextLinkId + 2
    nextPhysicalRoadId := state.nextPhysicalRoadId + 1 }, pairs ++ [(forward, reverse)],
    ?_, ?_, ?_, ?_, ?_⟩
  · unfold stitch
    rw [chosen, ok_bind]
    dsimp only
    rw [node_at_ok distinct nearest.small_listed, ok_bind,
      node_at_ok distinct nearest.main_listed, ok_bind, forward_built, ok_bind, reverse_built,
      ok_bind]
    rfl
  · rw [both_ways_append, ← List.append_assoc, ← h.links]
  · rw [both_ways_append, List.map_append, ← h.ids]
    rfl
  · exact List.rel_append h.stitched (.cons ⟨⟨small, main, nearest, forward_src, forward_dst⟩,
      ⟨reverse_src.trans forward_dst.symm, reverse_dst.trans forward_src.symm⟩,
      reverse_road.trans forward_road.symm⟩ .nil)
  · exact h.minted.append forward_id reverse_id forward_road

/-- What a repaired network is to the given one. -/
structure Repaired (nodes : List (MapNode ℝ)) (links : List (Map.RoadLink ℝ))
    (result : WeakConnectivityRepairResult ℝ) : Prop where
  same_nodes : result.nodes = nodes
  before : result.before = analyzeWeakConnectivity nodes links
  after : result.after = analyzeWeakConnectivity nodes result.links
  metadata : result.metadata = repairMetadata result.before result.after result.repairLinkIds
  connected : result.after.componentCount ≤ 1
  /-- The given links stay, and a stitch comes for each component but the first. -/
  stitches : ∃ pairs, result.links = links ++ bothWays pairs ∧
    result.repairLinkIds = ((bothWays pairs).map fun link => link.linkId) ∧
    List.Forall₂ (Stitched nodes (result.before.componentNodeIds.headD []))
      result.before.componentNodeIds.tail pairs ∧
    ((bothWays pairs).map fun link => link.linkId).Nodup ∧
    (pairs.map fun pair => pair.1.physicalRoadId).Nodup ∧
    ∀ old ∈ links, (∀ new ∈ bothWays pairs, new.linkId ≠ old.linkId) ∧
      ∀ pair ∈ pairs, pair.1.physicalRoadId ≠ none ∧ pair.1.physicalRoadId ≠ old.physicalRoadId

theorem WeaklyJoined.symm {K : Type} [Scalar K] {nodeIds : List ℤ} {links : List (Map.RoadLink K)}
    {u v : ℤ} (h : WeaklyJoined nodeIds links u v) : WeaklyJoined nodeIds links v u :=
  haveI : Std.Symm (Adjacent nodeIds links) := ⟨fun _ _ => Adjacent.symm⟩
  Relation.ReflTransGen.stdSymm.symm _ _ h

theorem WeaklyJoined.mono {K : Type} [Scalar K] {nodeIds : List ℤ}
    {links more : List (Map.RoadLink K)} {u v : ℤ} (subset : links ⊆ more)
    (h : WeaklyJoined nodeIds links u v) :
    WeaklyJoined nodeIds more u v :=
  Relation.ReflTransGen.mono (fun _ _ ⟨first, second, link, listed, ends⟩ =>
    ⟨first, second, link, subset listed, ends⟩) _ _ h

theorem WeakComponents.count_le_one {K : Type} [Scalar K] {nodeIds : List ℤ}
    {links : List (Map.RoadLink K)} {report : WeakConnectivityReport}
    (h : WeakComponents nodeIds links report) (distinct : nodeIds.Nodup)
    (joined : ∀ u ∈ nodeIds, ∀ v ∈ nodeIds, WeaklyJoined nodeIds links u v) :
    report.componentCount ≤ 1 := by
  have flat := h.partition.nodup_iff.mpr distinct
  have members := fun u => h.partition.mem_iff (a := u)
  have together := h.joined
  have nonempty := fun c listed => (h.ascending c listed).1
  unfold WeakConnectivityReport.componentCount
  match parts : report.componentNodeIds with
  | [] => exact Nat.zero_le 1
  | [_] => exact le_rfl
  | c :: d :: rest =>
    exfalso
    rw [parts] at flat members together nonempty
    obtain ⟨u, u_mem⟩ := List.exists_mem_of_ne_nil c (nonempty c (by simp))
    obtain ⟨v, v_mem⟩ := List.exists_mem_of_ne_nil d (nonempty d (by simp))
    have u_known := (members u).mp (List.mem_flatten.mpr ⟨c, by simp, u_mem⟩)
    have v_known := (members v).mp (List.mem_flatten.mpr ⟨d, by simp, v_mem⟩)
    obtain ⟨e, listed, u_here, v_here⟩ :=
      (together u u_known v v_known).mpr (joined u u_known v v_known)
    rw [List.flatten_cons] at flat
    obtain ⟨-, later, apart⟩ := List.nodup_append'.mp flat
    rcases List.mem_cons.mp listed with rfl | behind
    · exact apart v_here (List.mem_flatten.mpr ⟨d, by simp, v_mem⟩)
    · exact apart u_mem (List.mem_flatten.mpr ⟨e, behind, u_here⟩)

theorem stitched_joined {pairs : List (Map.RoadLink ℝ × Map.RoadLink ℝ)}
    {report : WeakConnectivityReport}
    (before : WeakComponents (nodes.map MapNode.nodeId) links report)
    (stitched : List.Forall₂ (Stitched nodes (report.componentNodeIds.headD []))
      report.componentNodeIds.tail pairs) {root : ℤ}
    (root_mem : root ∈ report.componentNodeIds.headD []) {u : ℤ}
    (u_known : u ∈ nodes.map MapNode.nodeId) :
    WeaklyJoined (nodes.map MapNode.nodeId) (links ++ bothWays pairs) u root := by
  have keep : links ⊆ links ++ bothWays pairs := List.subset_append_left _ _
  obtain ⟨main, others, parts⟩ : ∃ main others, report.componentNodeIds = main :: others := by
    cases parts : report.componentNodeIds with
    | nil => rw [parts] at root_mem; cases root_mem
    | cons main others => exact ⟨main, others, rfl⟩
  have inside : ∀ c ∈ report.componentNodeIds, ∀ v ∈ c, v ∈ nodes.map MapNode.nodeId :=
    fun c listed v mem => before.partition.mem_iff.mp (List.mem_flatten.mpr ⟨c, listed, mem⟩)
  have within : ∀ c ∈ report.componentNodeIds, ∀ v ∈ c, ∀ w ∈ c,
      WeaklyJoined (nodes.map MapNode.nodeId) (links ++ bothWays pairs) v w :=
    fun c listed v v_mem w w_mem => ((before.joined v (inside c listed v v_mem) w
      (inside c listed w w_mem)).mp ⟨c, listed, v_mem, w_mem⟩).mono keep
  obtain ⟨c, listed, u_mem⟩ := List.mem_flatten.mp (before.partition.mem_iff.mpr u_known)
  rw [parts] at stitched root_mem within listed
  rcases List.mem_cons.mp listed with rfl | behind
  · exact within c listed u u_mem root root_mem
  · obtain ⟨pair, pair_listed, stitch⟩ := paired_left stitched behind
    obtain ⟨small, other, nearest, src, dst⟩ := stitch.joins
    have bridge : Adjacent (nodes.map MapNode.nodeId) (links ++ bothWays pairs)
        small.nodeId other.nodeId := by
      refine ⟨List.mem_map_of_mem nearest.small_listed, List.mem_map_of_mem nearest.main_listed,
        pair.1, List.mem_append_right _ ?_, .inl ⟨src, dst⟩⟩
      exact List.mem_flatMap.mpr ⟨pair, pair_listed, List.mem_cons_self⟩
    exact ((within c listed u u_mem _ nearest.small_mem).tail bridge).trans
      (within main List.mem_cons_self _ nearest.main_mem root root_mem)

theorem stitch_all {main : List ℤ} {others : List (List ℤ)} {report : WeakConnectivityReport}
    (distinct : (nodes.map MapNode.nodeId).Nodup) (valid : arguments.Valid)
    (before : WeakComponents (nodes.map MapNode.nodeId) links report)
    (parts : report.componentNodeIds = main :: others) :
    let firstId := nextAfter (links.map fun link => link.linkId)
    let firstRoad := nextAfter (links.filterMap fun link => link.physicalRoadId)
    ∃ last pairs, others.foldlM
        (stitch arguments (Dict.update [] (nodes.map fun node => (node.nodeId, node))) main)
        ⟨links, [], firstId, firstRoad⟩ = .ok last ∧
      Repairing nodes links main firstId firstRoad others last pairs := by
  intro firstId firstRoad
  have flat := before.partition.nodup_iff.mpr distinct
  have known : ∀ c ∈ main :: others, (∀ id ∈ c, id ∈ nodes.map MapNode.nodeId) ∧ c ≠ [] := by
    intro c listed
    rw [← parts] at listed
    exact ⟨fun id mem => before.partition.mem_iff.mp (List.mem_flatten.mpr ⟨c, listed, mem⟩),
      (before.ascending c listed).1⟩
  have apart : ∀ c ∈ others, c.Disjoint main := by
    intro c listed
    rw [parts, List.flatten_cons] at flat
    exact fun id mem main_mem => (List.nodup_append'.mp flat).2.2 main_mem
      (List.mem_flatten.mpr ⟨c, listed, mem⟩)
  have nonneg : 0 ≤ firstRoad := by
    refine next_after_nonneg fun id listed => ?_
    obtain ⟨link, -, given⟩ := List.mem_filterMap.mp listed
    exact link.road_id_nonneg id given
  obtain ⟨main_known, main_nonempty⟩ := known main List.mem_cons_self
  have step : ∀ past c rest state, others = past ++ c :: rest →
      (∃ pairs, Repairing nodes links main firstId firstRoad past state pairs) →
      ∃ state', stitch arguments (Dict.update [] (nodes.map fun node => (node.nodeId, node))) main
          state c = .ok state' ∧
        ∃ pairs, Repairing nodes links main firstId firstRoad (past ++ [c]) state' pairs := by
    rintro past c rest state split ⟨pairs, h⟩
    have listed : c ∈ others := by simp [split]
    obtain ⟨c_known, c_nonempty⟩ := known c (List.mem_cons_of_mem main listed)
    obtain ⟨state', pairs', ran, h'⟩ := stitch_step valid distinct nonneg c_known c_nonempty
      main_known main_nonempty (apart c listed) h
    exact ⟨state', ran, pairs', h'⟩
  have start : Repairing nodes links main firstId firstRoad [] ⟨links, [], firstId, firstRoad⟩ [] :=
    ⟨(List.append_nil links).symm, rfl, .nil, Minted.nil firstId firstRoad⟩
  obtain ⟨last, ran, pairs, done⟩ := fold_total step ⟨[], start⟩
  exact ⟨last, pairs, ran, done⟩

theorem repair_weak_connectivity_spec (distinct : (nodes.map MapNode.nodeId).Nodup)
    (links : List (Map.RoadLink ℝ)) (valid : arguments.Valid) :
    ∃ result, repairWeakConnectivity nodes links arguments = .ok result ∧
      Repaired nodes links result := by
  have before := analyze_weak_connectivity_spec distinct links
  unfold repairWeakConnectivity
  dsimp only
  by_cases whole : (analyzeWeakConnectivity nodes links).componentCount ≤ 1
  · rw [if_pos whole]
    refine ⟨_, rfl, rfl, rfl, rfl, rfl, whole, [], (List.append_nil links).symm, rfl, ?_,
      List.nodup_nil, List.nodup_nil, by simp [bothWays]⟩
    have none_left : (analyzeWeakConnectivity nodes links).componentNodeIds.tail = [] := by
      rw [List.eq_nil_iff_length_eq_zero, List.length_tail]
      exact Nat.sub_eq_zero_of_le whole
    dsimp only
    rw [none_left]
    exact .nil
  · rw [if_neg whole]
    obtain ⟨main, others, parts⟩ : ∃ main others,
        (analyzeWeakConnectivity nodes links).componentNodeIds = main :: others := by
      refine List.exists_cons_of_ne_nil fun empty => whole ?_
      rw [WeakConnectivityReport.componentCount, empty]
      exact Nat.zero_le 1
    obtain ⟨last, pairs, ran, done⟩ := stitch_all distinct valid before parts
    have stitched := done.stitched
    have root_mem := (before.ascending main (by simp [parts])).1
    obtain ⟨root, root_mem⟩ := List.exists_mem_of_ne_nil main root_mem
    have joined : ∀ u ∈ nodes.map MapNode.nodeId,
        WeaklyJoined (nodes.map MapNode.nodeId) last.links u root := by
      intro u u_known
      rw [done.links]
      refine stitched_joined before ?_ ?_ u_known
      · rwa [parts]
      · rwa [parts]
    rw [parts, List.tail_cons, List.headD_cons, ran, ok_bind]
    refine ⟨_, rfl, rfl, rfl, rfl, rfl, ?_, pairs, done.links, done.ids, ?_, done.minted.ids,
      done.minted.roads, fun old listed => ⟨fun new added same => ?_, fun pair added => ?_⟩⟩
    · exact (analyze_weak_connectivity_spec distinct last.links).count_le_one distinct
        fun u u_known v v_known => (joined u u_known).trans (joined v v_known).symm
    · dsimp only
      rw [parts]
      exact stitched
    · have above := (done.minted.id_bounds new added).1
      have below := lt_next_after (List.mem_map_of_mem (f := fun link => link.linkId) listed)
      omega
    · obtain ⟨road, given, above, -⟩ := done.minted.road_bounds pair added
      rw [given]
      refine ⟨Option.some_ne_none road, fun same => ?_⟩
      have used : road ∈ links.filterMap fun link => link.physicalRoadId :=
        List.mem_filterMap.mpr ⟨old, listed, same.symm⟩
      have below := lt_next_after used
      omega

/-- The analysis finds the weak components in their order, however nodes and links come,
and the repair joins them at nearest nodes by new links. -/
theorem weak_connectivity_repaired (distinct : (nodes.map MapNode.nodeId).Nodup)
    (links : List (Map.RoadLink ℝ)) (valid : arguments.Valid) :
    WeakComponents (nodes.map MapNode.nodeId) links (analyzeWeakConnectivity nodes links) ∧
      (∀ nodes' links', nodes'.Perm nodes → links'.Perm links →
        analyzeWeakConnectivity nodes' links' = analyzeWeakConnectivity nodes links) ∧
      ∃ result, repairWeakConnectivity nodes links arguments = .ok result ∧
        Repaired nodes links result :=
  ⟨analyze_weak_connectivity_spec distinct links,
    fun _ _ same_nodes same_links => analyze_weak_connectivity_perm distinct same_nodes same_links,
    repair_weak_connectivity_spec distinct links valid⟩

theorem two_nodes_repaired :
    let nodes : List (MapNode ℝ) := [⟨1, (0, 0)⟩, ⟨2, (3, 4)⟩]
    ∃ result, repairWeakConnectivity nodes [] {} = .ok result ∧ Repaired nodes [] result :=
  (weak_connectivity_repaired (by decide) [] default_valid).2.2

end Metroflow.City
