import Metroflow.City.CollapsedStreets
import Metroflow.City.SplitStreets

namespace Metroflow.City.Planar

open Metroflow.Lib Metroflow.Map

section Tied

noncomputable def streetLink (linkId srcNodeId dstNodeId physicalRoadId : ℤ) (lengthM : ℝ)
    (ends_differ : srcNodeId ≠ dstNodeId) (length_pos : ¬ lengthM ≤ 0)
    (road_id_nonneg : 0 ≤ physicalRoadId) : Map.RoadLink ℝ where
  linkId
  srcNodeId
  dstNodeId
  roadClass := .localRoad
  lengthM
  freeFlowSpeedMps := 1
  capacityVehPerTick := 1
  lanes := 1
  bridgeGroupId := none
  physicalRoadId := some physicalRoadId
  ends_differ
  length_pos
  speed_pos := by norm_num
  capacity_nonneg := by norm_num
  lanes_pos := le_refl 1
  bridge_grouped := by decide
  road_id_nonneg id given := Option.some.inj given ▸ road_id_nonneg
  ramps_only typed := absurd rfl typed

noncomputable def along : Map.RoadLink ℝ :=
  streetLink 0 0 1 0 10 Lib.ids_zero_one (by norm_num) Lib.zero_id

noncomputable def against : Map.RoadLink ℝ :=
  streetLink 1 1 0 0 10 (by decide) (by norm_num) Lib.zero_id

noncomputable def across : Map.RoadLink ℝ :=
  streetLink 2 2 3 1 (2 / 100) Lib.ids_two_three (by norm_num) Lib.one_id

noncomputable def acrossBack : Map.RoadLink ℝ :=
  streetLink 3 3 2 1 (2 / 100) (by decide) (by norm_num) Lib.one_id

/-- A street, and a short one across it whose two ends are both near the first. -/
noncomputable def tiedStreets : StreetGraph ℝ where
  nodes := [
    { nodeId := 0, x := 0, y := 0 },
    { nodeId := 1, x := 10, y := 0 },
    { nodeId := 2, x := 5, y := 1 / 100 },
    { nodeId := 3, x := 5, y := -1 / 100 }]
  links := [along, against, across, acrossBack]
  linkToStreetId := [(0, 0), (1, 0), (2, 1), (3, 1)]

theorem tied_two_way : TwoWay tiedStreets.linkToStreetId tiedStreets.links := by
  intro link mem
  simp only [tiedStreets, List.mem_cons, List.not_mem_nil, or_false] at mem
  rcases mem with rfl | rfl | rfl | rfl
  · refine ⟨0, against, rfl, ?_, ?_⟩
    · simp [tiedStreets, along, against, across, acrossBack, streetLink]
    · constructor <;> rfl
  · refine ⟨0, along, rfl, ?_, ?_⟩
    · simpa [tiedStreets, along, against, across, acrossBack, streetLink] using .swap _ _ _
    · constructor <;> rfl
  · refine ⟨1, acrossBack, rfl, ?_, ?_⟩
    · simp [tiedStreets, along, against, across, acrossBack, streetLink]
    · constructor <;> rfl
  · refine ⟨1, across, rfl, ?_, ?_⟩
    · simpa [tiedStreets, along, against, across, acrossBack, streetLink] using .swap _ _ _
    · constructor <;> rfl

theorem tied_nodes {i : ℤ} {a : Node ℝ} (found : (nodesById tiedStreets.nodes).get i = some a) :
    (i = 0 ∧ a.point = (0, 0)) ∨ (i = 1 ∧ a.point = (10, 0)) ∨ (i = 2 ∧ a.point = (5, 1 / 100)) ∨
      (i = 3 ∧ a.point = (5, -1 / 100)) := by
  have distinct : ((nodesById tiedStreets.nodes).map Prod.fst).Nodup := by
    simp [nodesById, tiedStreets, Dict.update, Dict.set]
  have listed := (Dict.get_eq_some_iff distinct).mp found
  simp [nodesById, tiedStreets, Dict.update, Dict.set] at listed
  rcases listed with ⟨rfl, rfl⟩ | ⟨rfl, rfl⟩ | ⟨rfl, rfl⟩ | ⟨rfl, rfl⟩ <;> simp [Node.point]

theorem cell_of_eq {point : PointM ℝ} {i j : ℤ} (x : i * 250 ≤ point.1 ∧ point.1 < (i + 1) * 250)
    (y : j * 250 ≤ point.2 ∧ point.2 < (j + 1) * 250) : cellOf point = (i, j) := by
  have size : (cellSizeM : ℝ) = 250 := by simp [cellSizeM, Scalar.ofInt]
  have floor : ∀ {x : ℝ} {i : ℤ}, i * 250 ≤ x ∧ x < (i + 1) * 250 →
      Scalar.floor (x / cellSizeM) = i := by
    intro x i inside
    refine Int.floor_eq_iff.mpr ?_
    rw [size, le_div_iff₀ (by norm_num), div_lt_iff₀ (by norm_num)]
    exact inside
  exact Prod.ext (floor x) (floor y)

theorem tied_candidates : candidateNodeIds tiedStreets (0, 0) (10, 0) = [0, 1, 2, 3] := by
  have tolerance : (toleranceM : ℝ) = 2 / 100 := by simp [toleranceM, Scalar.ofInt]
  have low : cellOf (lesser (0 : ℝ) 10 - toleranceM, lesser (0 : ℝ) 0 - toleranceM) = (-1, -1) :=
    cell_of_eq (by norm_num [lesser, tolerance]) (by norm_num [lesser, tolerance])
  have high : cellOf (greater (0 : ℝ) 10 + toleranceM, greater (0 : ℝ) 0 + toleranceM) = (0, 0) :=
    cell_of_eq (by norm_num [greater, tolerance]) (by norm_num [greater, tolerance])
  have first : cellOf ((0 : ℝ), (0 : ℝ)) = (0, 0) := cell_of_eq (by norm_num) (by norm_num)
  have second : cellOf ((10 : ℝ), (0 : ℝ)) = (0, 0) := cell_of_eq (by norm_num) (by norm_num)
  have above : cellOf ((5 : ℝ), (1 / 100 : ℝ)) = (0, 0) := cell_of_eq (by norm_num) (by norm_num)
  have below : cellOf ((5 : ℝ), (-1 / 100 : ℝ)) = (0, -1) :=
    cell_of_eq (by norm_num) (by norm_num)
  unfold candidateNodeIds
  simp only [low, high]
  rw [List.filter_eq_self.mpr]
  · have ids : (tiedStreets.nodes.map (·.nodeId)).dedup = [0, 1, 2, 3] := by
      change ([0, 1, 2, 3] : List ℤ).dedup = _
      decide
    rw [ids]
    exact sort_on_eq_self (by decide)
  · intro node mem
    simp only [tiedStreets, List.mem_cons, List.not_mem_nil, or_false] at mem
    rcases mem with rfl | rfl | rfl | rfl
    · simp [Node.point, first]
    · simp [Node.point, second]
    · simp only [Node.point, above]
      decide
    · simp only [Node.point, below]
      decide

theorem tied_inner_points {link : Map.RoadLink ℝ} (bridge : link.bridgeGroupId = none)
    (from_start : link.srcNodeId = 0) (to_end : link.dstNodeId = 1) :
    innerPoints tiedStreets link (0, 0) (10, 0) = [(1 / 2, 2), (1 / 2, 3)] := by
  have off : ∀ node : Node ℝ, node.nodeId = 0 ∨ node.nodeId = 1 →
      splitBy tiedStreets link (0, 0) (10, 0) node = none := by
    intro node ends
    unfold splitBy
    rw [from_start, to_end, if_pos ends]
  have on : ∀ node : Node ℝ, node.nodeId = 2 ∨ node.nodeId = 3 → node.x = 5 →
      node.y = 1 / 100 ∨ node.y = -1 / 100 →
      splitBy tiedStreets link (0, 0) (10, 0) node = some (1 / 2) := by
    intro node inner x y
    have layer : (none : Option ℤ) ∈ layerTokens tiedStreets node.nodeId := by
      refine List.mem_map.mpr ⟨across,
        List.mem_filter.mpr ⟨by simp [tiedStreets], decide_eq_true ?_⟩, rfl⟩
      exact inner.imp Eq.symm Eq.symm
    have half : parameter (0, 0) (10, 0) node.point = 1 / 2 := by
      norm_num [parameter, squaredLength, Node.point, x]
    have near : Scalar.dist node.point (project (0, 0) (10, 0) (1 / 2)) ≤ toleranceM := by
      rw [Scalar.dist_real, Real.sqrt_le_iff]
      rcases y with y | y <;> norm_num [project, Node.point, x, y, toleranceM, Scalar.ofInt]
    unfold splitBy
    rw [from_start, to_end, bridge, if_neg (by omega), if_neg (not_not.mpr layer)]
    simp only [half]
    rw [if_pos ⟨by norm_num, by norm_num, near⟩]
  have start : (nodesById tiedStreets.nodes).get 0 = some { nodeId := 0, x := 0, y := 0 } := rfl
  have finish : (nodesById tiedStreets.nodes).get 1 = some { nodeId := 1, x := 10, y := 0 } := rfl
  have above : (nodesById tiedStreets.nodes).get 2 =
      some { nodeId := 2, x := 5, y := 1 / 100 } := rfl
  have below : (nodesById tiedStreets.nodes).get 3 =
      some { nodeId := 3, x := 5, y := -1 / 100 } := rfl
  unfold innerPoints
  rw [tied_candidates]
  simp only [List.filterMap_cons, List.filterMap_nil, start, finish, above, below,
    Option.bind_some]
  rw [off { nodeId := 0, x := 0, y := 0 } (.inl rfl), off { nodeId := 1, x := 10, y := 0 } (.inr rfl),
    on { nodeId := 2, x := 5, y := 1 / 100 } (.inl rfl) rfl (.inl rfl),
    on { nodeId := 3, x := 5, y := -1 / 100 } (.inr rfl) rfl (.inr rfl)]
  rfl

theorem tied_split_points {link : Map.RoadLink ℝ} (bridge : link.bridgeGroupId = none)
    (from_start : link.srcNodeId = 0) (to_end : link.dstNodeId = 1) :
    splitPoints tiedStreets link (0, 0) (10, 0) = [(0, 0), (1 / 2, 2), (1 / 2, 3), (1, 1)] := by
  unfold splitPoints
  rw [tied_inner_points bridge from_start to_end, from_start, to_end]
  refine sort_points_eq ?_ ?_
  · exact .cons _ ((List.Perm.swap _ _ _).trans (.cons _ (.swap _ _ _)))
  · norm_num

theorem tied_split_points_back {link : Map.RoadLink ℝ} (bridge : link.bridgeGroupId = none)
    (from_end : link.srcNodeId = 1) (to_start : link.dstNodeId = 0) :
    splitPoints tiedStreets link (10, 0) (0, 0) = [(0, 1), (1 / 2, 2), (1 / 2, 3), (1, 0)] := by
  have inner : innerPoints tiedStreets link (10, 0) (0, 0) = [(1 / 2, 2), (1 / 2, 3)] := by
    have long : 0 < squaredLength ((0 : ℝ), (0 : ℝ)) (10, 0) := by norm_num [squaredLength]
    have opposite : innerPoints tiedStreets link (10, 0) (0, 0) =
        (innerPoints tiedStreets along
          (0, 0) (10, 0)).map seenBack := inner_points_back long from_end to_start bridge
    rw [opposite, tied_inner_points rfl rfl rfl]
    norm_num [seenBack]
  unfold splitPoints
  rw [inner, from_end, to_start]
  refine sort_points_eq ?_ ?_
  · exact .cons _ ((List.Perm.swap _ _ _).trans (.cons _ (.swap _ _ _)))
  · norm_num

theorem tied_located {link : Map.RoadLink ℝ} (listed : link ∈ tiedStreets.links) :
    ∃ start finish streetId, Located tiedStreets link start finish streetId ∧
      (streetId = 0 → link = along ∨ link = against) := by
  simp only [tiedStreets, List.mem_cons, List.not_mem_nil, or_false] at listed
  rcases listed with rfl | rfl | rfl | rfl
  · exact ⟨_, _, 0, ⟨rfl, rfl, by norm_num [squaredLength, Node.point], rfl⟩, fun _ => .inl rfl⟩
  · exact ⟨_, _, 0, ⟨rfl, rfl, by norm_num [squaredLength, Node.point], rfl⟩, fun _ => .inr rfl⟩
  · exact ⟨_, _, 1, ⟨rfl, rfl, by norm_num [squaredLength, Node.point], rfl⟩, fun same => absurd same (by decide)⟩
  · exact ⟨_, _, 1, ⟨rfl, rfl, by norm_num [squaredLength, Node.point], rfl⟩, fun same => absurd same (by decide)⟩

theorem along_pieces : linkPieces tiedStreets along =
    [⟨along, 0, 0, 2⟩, ⟨along, 0, 2, 3⟩, ⟨along, 0, 3, 1⟩] := by
  change piecesBetween along 0 (splitPoints tiedStreets along (0, 0) (10, 0)) = _
  rw [tied_split_points rfl rfl rfl]
  simp [piecesBetween, walkSteps]

theorem against_pieces : linkPieces tiedStreets against =
    [⟨against, 0, 1, 2⟩, ⟨against, 0, 2, 3⟩, ⟨against, 0, 3, 0⟩] := by
  change piecesBetween against 0 (splitPoints tiedStreets against (10, 0) (0, 0)) = _
  rw [tied_split_points_back rfl rfl rfl]
  simp [piecesBetween, walkSteps]

theorem tied_run : ∃ out, splitLinksAtExistingNodes tiedStreets = .ok out := by
  refine split_total (by simp [tiedStreets]) (fun link mem => ?_)
    fun i j a b found found' other same => ?_
  · obtain ⟨start, finish, streetId, located, -⟩ := tied_located mem
    exact ⟨start, finish, streetId, located⟩
  · rcases tied_nodes found with ⟨rfl, here⟩ | ⟨rfl, here⟩ | ⟨rfl, here⟩ | ⟨rfl, here⟩ <;>
    rcases tied_nodes found' with ⟨rfl, there⟩ | ⟨rfl, there⟩ | ⟨rfl, there⟩ | ⟨rfl, there⟩ <;>
    first
    | exact absurd rfl other
    | norm_num [here, there] at same

end Tied

section Plain

noncomputable def plainStreet : StreetGraph ℝ where
  nodes := [{ nodeId := 0, x := 0, y := 0 }, { nodeId := 1, x := 10, y := 0 }]
  links := [along, against]
  linkToStreetId := [(0, 0), (1, 0)]

/-- Nothing of it crosses. -/
noncomputable def noCrossings : Crossings ℝ where
  count _ _ := .ok 0
  planarize nodes links := .ok ⟨nodes, links, [], 0⟩

theorem plain_links {link : Map.RoadLink ℝ} (mem : link ∈ plainStreet.links) :
    link = along ∨ link = against := by
  simpa [plainStreet] using mem

theorem plain_two_way : TwoWay plainStreet.linkToStreetId plainStreet.links := by
  intro link mem
  rcases plain_links mem with rfl | rfl
  · refine ⟨0, against, rfl, ?_, ?_⟩
    · simp [plainStreet, along, against, streetLink]
    · constructor <;> rfl
  · refine ⟨0, along, rfl, ?_, ?_⟩
    · simpa [plainStreet, along, against, streetLink] using .swap _ _ _
    · constructor <;> rfl

theorem plain_nodes {i : ℤ} {a : Node ℝ} (found : (nodesById plainStreet.nodes).get i = some a) :
    (i = 0 ∧ a = { nodeId := 0, x := 0, y := 0 }) ∨
      (i = 1 ∧ a = { nodeId := 1, x := 10, y := 0 }) := by
  have distinct : ((nodesById plainStreet.nodes).map Prod.fst).Nodup := by
    simp [nodesById, plainStreet, Dict.update, Dict.set]
  have listed := (Dict.get_eq_some_iff distinct).mp found
  simpa [nodesById, plainStreet, Dict.update, Dict.set] using listed

theorem plain_split_run : ∃ out, splitLinksAtExistingNodes plainStreet = .ok out := by
  refine split_total (by simp [plainStreet]) (fun link mem => ?_)
    fun i j a b found found' other same => ?_
  · rcases plain_links mem with rfl | rfl
    · exact ⟨_, _, 0, rfl, rfl, by norm_num [squaredLength, Node.point], rfl⟩
    · exact ⟨_, _, 0, rfl, rfl, by norm_num [squaredLength, Node.point], rfl⟩
  · rcases plain_nodes found with ⟨rfl, rfl⟩ | ⟨rfl, rfl⟩ <;>
    rcases plain_nodes found' with ⟨rfl, rfl⟩ | ⟨rfl, rfl⟩
    · exact other rfl
    · norm_num [Node.point] at same
    · norm_num [Node.point] at same
    · exact other rfl

theorem plain_splits_apart : SplitsApart plainStreet := by
  intro link mem src dst a b i j t _ _ found _ split _
  -- both nodes are ends of both links
  have ends : a.nodeId = link.srcNodeId ∨ a.nodeId = link.dstNodeId := by
    rcases plain_links mem with rfl | rfl <;> rcases plain_nodes found with ⟨-, rfl⟩ | ⟨-, rfl⟩ <;>
      simp [along, against, streetLink]
  unfold splitBy at split
  rw [if_pos ends] at split
  cases split

theorem round_to_int (decimalPlaces : ℕ) (n : ℤ) : roundTo decimalPlaces (n : ℝ) = n := by
  have unit : (Scalar.ofInt (10 ^ decimalPlaces) : ℝ) = 10 ^ decimalPlaces := by
    simp [Scalar.ofInt]
  have whole : (n : ℝ) * 10 ^ decimalPlaces = ((n * 10 ^ decimalPlaces : ℤ) : ℝ) := by push_cast; rfl
  have low : Scalar.floor ((n : ℝ) * 10 ^ decimalPlaces) = n * 10 ^ decimalPlaces := by
    rw [whole]
    exact Int.floor_intCast _
  have rest : (n : ℝ) * 10 ^ decimalPlaces - Scalar.ofInt (n * 10 ^ decimalPlaces) <
      1 / Scalar.ofInt 2 := by
    simp [Scalar.ofInt]
  unfold roundTo
  simp only [unit, low]
  rw [if_pos rest]
  simp [Scalar.ofInt]

theorem plain_snap : snapNodes 2 plainStreet.nodes = {
    outputNodes := plainStreet.nodes
    oldToNewNodeId := [(0, 0), (1, 1)]
    canonicalNodeIdByKey := [((0, 0), 0), ((10, 0), 1)] } := by
  have zero : roundTo 2 (0 : ℝ) = 0 := by simpa using round_to_int 2 0
  have ten : roundTo 2 (10 : ℝ) = 10 := by simpa using round_to_int 2 10
  unfold snapNodes
  rw [sort_on_eq_self (by simp [plainStreet])]
  simp [plainStreet, snapNode, zero, ten, Dict.get_cons, Dict.set]

theorem plain_snap_run : ∃ out, snapPlanarGraph noCrossings 2 4 plainStreet = .ok out := by
  have apart : ((0 : ℝ), (0 : ℝ)) ≠ (10, 0) := by norm_num
  obtain ⟨out, run⟩ : ∃ out, snapPass 2 plainStreet = .ok out := by
    refine move_links_total fun link mem => ?_
    rw [plain_snap]
    rcases plain_links mem with rfl | rfl
    · exact ⟨0, 1, 0, _, _, rfl, rfl, by decide, rfl, rfl, rfl, apart⟩
    · exact ⟨1, 0, 0, _, _, rfl, rfl, by decide, rfl, rfl, rfl, apart.symm⟩
  have some_link : out.links ≠ [] := by
    intro empty
    have image : (snapNodes 2 plainStreet.nodes).image 0 ≠ (snapNodes 2 plainStreet.nodes).image 1 := by
      rw [plain_snap]
      decide
    have path : Joined plainStreet.links 0 1 := .single ⟨along, List.mem_cons_self, rfl, rfl⟩
    rcases ((snap_pass_keeps plain_two_way run).joined 0 1 path).cases_head with
      same | ⟨_, ⟨made, listed, -⟩, -⟩
    · exact image same
    · rw [empty] at listed
      cases listed
  unfold snapPlanarGraph
  rw [run, ok_bind]
  simp only [noCrossings, ok_bind]
  rw [if_pos trivial, if_neg some_link]
  exact ⟨_, rfl⟩

theorem plain_far : ¬ Scalar.dist ((0 : ℝ), (0 : ℝ)) (10, 0) < 1 := by
  rw [Scalar.dist_real, not_lt, Real.one_le_sqrt]
  norm_num

theorem plain_groups : groupNodes 1 plainStreet =
    .ok [(0, [{ nodeId := 0, x := 0, y := 0 }]), (1, [{ nodeId := 1, x := 10, y := 0 }])] := by
  have first : joinShort 1 plainStreet id along = .ok id := if_neg plain_far
  have second : joinShort 1 plainStreet id against = .ok id :=
    if_neg (dist_comm (0, 0) (10, 0) ▸ plain_far)
  have joined : plainStreet.links.foldlM (joinShort 1 plainStreet) id = .ok id := by
    change [along, against].foldlM (joinShort 1 plainStreet) id = .ok id
    rw [List.foldlM_cons, first, ok_bind, List.foldlM_cons, second]
    rfl
  unfold groupNodes
  rw [joined]
  rfl

theorem plain_pass : collapsePass 1 plainStreet = .ok none := by
  unfold collapsePass
  rw [plain_groups, ok_bind, if_pos (by simp)]
  rfl

theorem plain_reached {before : StreetGraph ℝ} (h : Reached 1 plainStreet before) :
    before = plainStreet := by
  rcases h.cases_head with same | ⟨after, step, -⟩
  · exact same.symm
  · rw [plain_pass] at step
    cases step

theorem plain_clusters_apart : ClustersApart 1 plainStreet := by
  have alone : ∀ u v, Together 1 plainStreet u v → u = v := by
    intro u v together
    refine UnionFind.eqv_gen_of_agree (f := id) (fun a b short => ?_) together
    obtain ⟨link, mem, rfl, rfl, a, b, at_src, at_dst, near⟩ := short
    rcases plain_links mem with rfl | rfl
    · obtain rfl := Option.some.inj at_src
      obtain rfl := Option.some.inj at_dst
      exact absurd near plain_far
    · obtain rfl := Option.some.inj at_src
      obtain rfl := Option.some.inj at_dst
      exact absurd near (dist_comm (0, 0) (10, 0) ▸ plain_far)
  have only : ∀ u v, Together 1 plainStreet u v ↔ u = v :=
    fun u v => ⟨alone u v, fun same => same ▸ .refl u⟩
  have rounded_zero : roundTo 2 (0 : ℝ) = 0 := by simpa using round_to_int 2 0
  have rounded_ten : roundTo 2 (10 : ℝ) = 10 := by simpa using round_to_int 2 10
  have zero : centre 1 plainStreet 0 = (0, 0) := by
    simp only [centre, cluster, only]
    simp [plainStreet, centreOf, meanOf, Scalar.ofInt, rounded_zero]
  have one : centre 1 plainStreet 1 = (10, 0) := by
    simp only [centre, cluster, only]
    simp [plainStreet, centreOf, meanOf, Scalar.ofInt, rounded_zero, rounded_ten]
  intro link mem same
  rcases plain_links mem with rfl | rfl
  · norm_num [along, streetLink, zero, one] at same
  · norm_num [against, streetLink, zero, one] at same

theorem plain_collapse_run : collapseShortPlanarLinks 1 noCrossings 4 plainStreet =
    .ok plainStreet := by
  unfold collapseShortPlanarLinks
  rw [plain_pass]
  rfl

end Plain

end Metroflow.City.Planar
