import Metroflow.Map.OsmSegments

namespace Metroflow.Map.Osm

open Metroflow.Lib

section Nodes

variable {projected : Dict ℤ (PointM ℝ)} {used used' : List ℤ} {nodes : List (MapNode ℝ)}
  {known : Dict NodeIdentity ℕ} {n m : ℤ} {u : ℤ}

def NodeAt (used : List ℤ) (n : ℤ) (u : ℤ) : Prop := ∃ i : ℕ, n = i ∧ used[i]? = some u

theorem NodeAt.mono (h : NodeAt used n u) (grown : used <+: used') : NodeAt used' n u := by
  obtain ⟨i, rfl, found⟩ := h
  exact ⟨i, rfl, get_of_prefix grown found⟩

theorem NodeAt.source_eq {v : ℤ} (h : NodeAt used n u) (h' : NodeAt used n v) : u = v := by
  obtain ⟨i, rfl, found⟩ := h
  obtain ⟨j, same, found'⟩ := h'
  obtain rfl : i = j := Nat.cast_injective same
  exact Option.some.inj (found.symm.trans found')

theorem NodeAt.node_eq (distinct : used.Nodup) (h : NodeAt used n u) (h' : NodeAt used m u) :
    n = m := by
  obtain ⟨i, rfl, found⟩ := h
  obtain ⟨j, rfl, found'⟩ := h'
  rw [(List.getElem?_inj (List.getElem?_eq_some_iff.mp found).1 distinct).mp (found.trans found'.symm)]

theorem NodeAt.mem (h : NodeAt used n u) : u ∈ used := by
  obtain ⟨i, -, found⟩ := h
  exact List.mem_of_getElem? found

/-- One compiled node for each source node in use, at its place. -/
structure NodesOf (projected : Dict ℤ (PointM ℝ)) (used : List ℤ) (nodes : List (MapNode ℝ)) :
    Prop where
  distinct : used.Nodup
  placed : nodes = used.zipIdx.map fun item => ⟨item.2, pointOf projected item.1⟩

/-- The compiler's table knows the nodes in use. -/
def KnownNodes (used : List ℤ) (known : Dict NodeIdentity ℕ) : Prop :=
  known = used.zipIdx.map fun item => (.osm item.1, item.2)

theorem KnownNodes.get_iff (h : KnownNodes used known) (distinct : used.Nodup) {i : ℕ} :
    known.get (.osm u) = some i ↔ used[i]? = some u := by
  have keys : (known.map Prod.fst).Nodup := by
    rw [h, List.map_map]
    have : (used.zipIdx.map (Prod.fst ∘ fun item : ℤ × ℕ => (NodeIdentity.osm item.1, item.2))) =
        used.map NodeIdentity.osm := by
      conv_rhs => rw [← List.zipIdx_map_fst 0 used, List.map_map]
      rfl
    rw [this]
    exact distinct.map fun a b same => NodeIdentity.osm.inj same
  rw [Dict.get_eq_some_iff keys, h, List.mem_map]
  constructor
  · rintro ⟨⟨v, j⟩, listed, same⟩
    obtain ⟨same_node, rfl⟩ := Prod.mk.inj same
    obtain rfl := NodeIdentity.osm.inj same_node
    exact List.mk_mem_zipIdx_iff_getElem?.mp listed
  · intro found
    exact ⟨(u, i), List.mk_mem_zipIdx_iff_getElem?.mpr found, rfl⟩

theorem node_id_for_spec {s : Compilation ℝ} (here : NodesOf projected used s.nodes)
    (table : KnownNodes used s.nodeIdByIdentity) (u : ℤ) :
    ∃ i used' nodes' known', s.nodeIdFor (.osm u) (pointOf projected u) =
        .ok (i, ⟨⟨nodes', s.links, s.centerlines, s.assignments⟩, known'⟩) ∧
      used <+: used' ∧ used'[i]? = some u ∧ NodesOf projected used' nodes' ∧
      KnownNodes used' known' ∧ ∀ w, w ∈ used' ↔ w ∈ used ∨ w = u := by
  unfold Compilation.nodeIdFor
  split
  · rename_i existing found
    have place := (table.get_iff here.distinct).mp found
    have node : s.nodes[existing]? = some ⟨existing, pointOf projected u⟩ := by
      rw [here.placed, List.getElem?_map, List.getElem?_zipIdx, place, zero_add]
      rfl
    rw [node]
    dsimp only
    rw [if_pos points_close_self]
    refine ⟨existing, used, s.nodes, s.nodeIdByIdentity, rfl, List.prefix_refl used, place, here,
      table, fun w => ⟨.inl, ?_⟩⟩
    rintro (listed | rfl)
    · exact listed
    · exact List.mem_of_getElem? place
  · rename_i missing
    have fresh : u ∉ used := by
      intro listed
      obtain ⟨i, found⟩ := List.mem_iff_getElem?.mp listed
      rw [(table.get_iff here.distinct).mpr found] at missing
      cases missing
    have length : s.nodes.length = used.length := by
      rw [here.placed, List.length_map, List.length_zipIdx]
    refine ⟨_, used ++ [u], _, _, rfl, List.prefix_append _ _, ?_, ⟨?_, ?_⟩, ?_, fun w => ?_⟩
    · rw [length, List.getElem?_concat_length]
    · exact List.nodup_append'.mpr ⟨here.distinct, List.nodup_singleton u,
        List.disjoint_singleton.mpr fresh⟩
    · rw [List.zipIdx_append, List.map_append, ← here.placed, length, zero_add]
      rfl
    · unfold KnownNodes at table ⊢
      rw [Dict.set_of_get_none missing, table, List.zipIdx_append, List.map_append, length, zero_add]
      rfl
    · rw [List.mem_append, List.mem_singleton]

end Nodes

/-- A direction of travel that the tags of a way allow along one of its roads. -/
structure Direction where
  road : ℕ
  source : ℤ
  target : ℤ
  lanes : ℤ
  reversed : Bool

section Links

variable {used used' : List ℤ} {ds : List Direction} {d : Direction} {s : Compilation ℝ}
  {links : List (RoadLinkRecord ℝ)} {assignments : List LinkGeometryAssignment}

def allowedDirections (attributes : WayAttributes ℝ) (piece : List ℤ) (road : ℕ) :
    List Direction :=
  let first := piece.headD 0
  let last := piece.getLastD 0
  match attributes.oneway with
  | .forward => [⟨road, first, last, attributes.lanes.forward, false⟩]
  | .reverse => [⟨road, last, first, attributes.lanes.forward, false⟩]
  | .both => [⟨road, first, last, attributes.lanes.forward, false⟩,
      ⟨road, last, first, attributes.lanes.backward, true⟩]

theorem allowed_directions_drawn {attributes : WayAttributes ℝ} {piece : List ℤ} {road : ℕ}
    (allowed : attributes.lanes.Allowed attributes.oneway) :
    allowedDirections attributes piece road =
      ⟨road, (drawn attributes.oneway piece).headD 0, (drawn attributes.oneway piece).getLastD 0,
        attributes.lanes.forward, false⟩ ::
      if attributes.lanes.backward ≤ 0 then [] else
        [⟨road, (drawn attributes.oneway piece).getLastD 0, (drawn attributes.oneway piece).headD 0,
          attributes.lanes.backward, true⟩] := by
  have reversed_head : piece.reverse.headD 0 = piece.getLastD 0 := by
    rw [List.headD_eq_head?_getD, List.head?_reverse, List.getLastD_eq_getLast?]
  have reversed_last : piece.reverse.getLastD 0 = piece.headD 0 := by
    rw [List.headD_eq_head?_getD, List.getLastD_eq_getLast?, List.getLast?_reverse]
  unfold Lanes.Allowed at allowed
  unfold allowedDirections drawn
  cases travel : attributes.oneway with
  | forward =>
    rw [travel] at allowed
    have none_back : attributes.lanes.backward ≤ 0 := allowed.2.le
    rw [if_pos none_back]
    rfl
  | reverse =>
    rw [travel] at allowed
    have none_back : attributes.lanes.backward ≤ 0 := allowed.2.le
    rw [if_pos none_back, if_pos rfl, reversed_head, reversed_last]
  | both =>
    rw [travel] at allowed
    have some_back : ¬ attributes.lanes.backward ≤ 0 := not_le.mpr allowed.2
    rw [if_neg some_back]
    rfl

/-- A link runs in the given direction, between the nodes of its ends. -/
structure RunsAs (used : List ℤ) (d : Direction) (link : RoadLinkRecord ℝ) : Prop where
  source : NodeAt used link.srcNodeId d.source
  target : NodeAt used link.dstNodeId d.target
  lanes : link.lanes = d.lanes
  road : link.physicalRoadId = d.road

theorem RunsAs.mono {link : RoadLinkRecord ℝ} (h : RunsAs used d link) (grown : used <+: used') :
    RunsAs used' d link :=
  ⟨h.source.mono grown, h.target.mono grown, h.lanes, h.road⟩

structure LinksOf (used : List ℤ) (ds : List Direction) (links : List (RoadLinkRecord ℝ))
    (assignments : List LinkGeometryAssignment) : Prop where
  run : List.Forall₂ (RunsAs used) ds links
  along : List.Forall₂ (fun d a => a.geometryId = d.road ∧ a.reversed = d.reversed) ds assignments
  numbered : links.map RoadLinkRecord.linkId = (List.range ds.length).map Nat.cast
  assigned : assignments.map LinkGeometryAssignment.linkId = (List.range ds.length).map Nat.cast

theorem LinksOf.mono (h : LinksOf used ds links assignments) (grown : used <+: used') :
    LinksOf used' ds links assignments :=
  ⟨h.run.imp fun _ _ => (RunsAs.mono · grown), h.along, h.numbered, h.assigned⟩

theorem range_cast_succ (n : ℕ) : (List.range (n + 1)).map (Nat.cast : ℕ → ℤ) =
    (List.range n).map Nat.cast ++ [(n : ℤ)] := by
  rw [List.range_succ, List.map_append]
  rfl

theorem LinksOf.add (segment : PhysicalSegment ℝ) {geometryId src dst : ℕ} {lengthM capacity : ℝ}
    {lanes : ℤ} {reversed : Bool} (h : LinksOf used ds s.links s.assignments) (apart : src ≠ dst)
    (length_pos : 0 < lengthM) (speed_pos : 0 < segment.speedMps) (capacity_nonneg : 0 ≤ capacity)
    (lanes_pos : 1 ≤ lanes) (not_bridge : segment.roadClass ≠ .bridge)
    (direction : d.road = geometryId ∧ d.lanes = lanes ∧ d.reversed = reversed)
    (source : used[src]? = some d.source) (target : used[dst]? = some d.target) :
    ∃ links assignments, s.addLink segment geometryId src dst lengthM capacity lanes reversed =
        .ok ⟨⟨s.nodes, links, s.centerlines, assignments⟩, s.nodeIdByIdentity⟩ ∧
      LinksOf used (ds ++ [d]) links assignments := by
  obtain ⟨rfl, rfl, rfl⟩ := direction
  have lanes_nonneg : (0 : ℝ) ≤ d.lanes := Int.cast_nonneg (by omega)
  have filled : ¬ Scalar.ofInt d.lanes * capacity < 0 :=
    not_lt.mpr (mul_nonneg lanes_nonneg capacity_nonneg)
  have count : s.links.length = ds.length := h.run.length_eq.symm
  unfold Compilation.addLink
  rw [if_neg (by omega), RoadLinkRecord.build_ok (by omega) (not_le.mpr length_pos)
    (not_le.mpr speed_pos) filled lanes_pos not_bridge (by omega),
    LinkGeometryAssignment.build_ok (by omega) (by omega)]
  refine ⟨_, _, rfl, ?_, ?_, ?_, ?_⟩
  · exact List.rel_append h.run (.cons ⟨⟨src, rfl, source⟩, ⟨dst, rfl, target⟩, rfl, rfl⟩ .nil)
  · exact List.rel_append h.along (.cons ⟨rfl, rfl⟩ .nil)
  · rw [List.map_append, h.numbered, List.length_append, List.length_singleton, range_cast_succ,
      List.map_singleton, count]
  · rw [List.map_append, h.assigned, List.length_append, List.length_singleton, range_cast_succ,
      List.map_singleton]
    dsimp only
    rw [count]

end Links

section Run

variable {config : ImportConfig ℝ} {projected : Dict ℤ (PointM ℝ)}
  {attributes : Way → WayAttributes ℝ} {past roads : List (Way × List ℤ)} {road : Way × List ℤ}
  {used : List ℤ} {s : Compilation ℝ} {segments : List (PhysicalSegment ℝ)}

def directions (attributes : Way → WayAttributes ℝ) (roads : List (Way × List ℤ)) :
    List Direction :=
  roads.zipIdx.flatMap fun item => allowedDirections (attributes item.1.1) item.1.2 item.2

theorem directions_concat : directions attributes (past ++ [road]) =
    directions attributes past ++ allowedDirections (attributes road.1) road.2 past.length := by
  unfold directions
  rw [List.zipIdx_append, List.flatMap_append, zero_add, List.zipIdx_singleton,
    List.flatMap_singleton]

/-- A topology is the graph of the roads: their lines, a node for each end in use and a link for
each direction. -/
structure GraphOf (config : ImportConfig ℝ) (projected : Dict ℤ (PointM ℝ))
    (attributes : Way → WayAttributes ℝ) (roads : List (Way × List ℤ)) (used : List ℤ)
    (topology : TypedTopology ℝ) : Prop where
  nodes : NodesOf projected used topology.nodes
  met : ∀ u, u ∈ used ↔ ∃ road ∈ roads, road.2.head? = some u ∨ road.2.getLast? = some u
  lines : List.Forall₂ (fun road c =>
    c.pointsM = lineOf config projected (attributes road.1).oneway road.2 ∧
      c.layer = (attributes road.1).layer) roads topology.centerlines
  numbered : topology.centerlines.map RoadCenterline.geometryId =
    (List.range roads.length).map Nat.cast
  links : LinksOf used (directions attributes roads) topology.links topology.assignments

/-- What a road needs to become a part of the graph. -/
structure Passable (config : ImportConfig ℝ) (projected : Dict ℤ (PointM ℝ))
    (attributes : WayAttributes ℝ) (piece : List ℤ) : Prop where
  long : 2 ≤ piece.length
  apart : piece.head? ≠ piece.getLast?
  moves : (lineOf config projected attributes.oneway piece).IsChain (· ≠ ·)
  allowed : attributes.lanes.Allowed attributes.oneway
  speed_pos : 0 < attributes.speedMps
  not_bridge : attributes.roadClass ≠ .bridge

theorem ends_drawn (oneway : Oneway) {piece : List ℤ} (filled : piece ≠ []) (u : ℤ) :
    (u = (drawn oneway piece).headD 0 ∨ u = (drawn oneway piece).getLastD 0) ↔
      piece.head? = some u ∨ piece.getLast? = some u := by
  have head : piece.headD 0 = u ↔ piece.head? = some u := by
    rw [List.headD_eq_head?_getD, List.head?_eq_some_head filled, Option.getD_some, Option.some_inj]
  have last : piece.getLastD 0 = u ↔ piece.getLast? = some u := by
    rw [List.getLastD_eq_getLast?, List.getLast?_eq_getLast_of_ne_nil filled, Option.getD_some,
      Option.some_inj]
  rw [← head, ← last]
  unfold drawn
  split
  · rw [List.headD_eq_head?_getD, List.head?_reverse, ← List.getLastD_eq_getLast?,
      List.getLastD_eq_getLast? (l := piece.reverse), List.getLast?_reverse,
      ← List.headD_eq_head?_getD, or_comm]
    exact or_congr eq_comm eq_comm
  · exact or_congr eq_comm eq_comm

theorem add_directions {way : Way} {tagged : WayAttributes ℝ} {piece : List ℤ} {i j k : ℕ}
    {lengthM : ℝ} {ds : List Direction} (h : LinksOf used ds s.links s.assignments) (partIndex : ℕ)
    (apart : i ≠ j) (length_pos : 0 < lengthM)
    (passable : Passable config projected tagged piece)
    (first : used[i]? = some ((drawn tagged.oneway piece).headD 0))
    (last : used[j]? = some ((drawn tagged.oneway piece).getLastD 0)) :
    let segment := segmentOf config projected way tagged partIndex piece
    ∃ links assignments, (do
        let s ← s.addLink segment k i j lengthM config.capacityVehPerLanePerTick
          segment.lanesForward false
        s.addLink segment k j i lengthM config.capacityVehPerLanePerTick segment.lanesBackward
          true) = .ok ⟨⟨s.nodes, links, s.centerlines, assignments⟩, s.nodeIdByIdentity⟩ ∧
      LinksOf used (ds ++ allowedDirections tagged piece k) links assignments := by
  intro segment
  have capacity_nonneg : 0 ≤ config.capacityVehPerLanePerTick :=
    (not_le.mp config.capacity_pos).le
  rw [allowed_directions_drawn passable.allowed]
  obtain ⟨links, assignments, forward_run, forward⟩ := h.add segment
    (d := ⟨k, _, _, tagged.lanes.forward, false⟩) apart length_pos passable.speed_pos
    capacity_nonneg passable.allowed.1 passable.not_bridge ⟨rfl, rfl, rfl⟩ first last
  by_cases none_back : tagged.lanes.backward ≤ 0
  · refine ⟨links, assignments, bind_ok.mpr ⟨_, forward_run, ?_⟩, ?_⟩
    · unfold Compilation.addLink
      exact if_pos none_back
    · rw [if_pos none_back]
      exact forward
  · have some_back : 1 ≤ tagged.lanes.backward := by omega
    obtain ⟨links', assignments', backward_run, backward⟩ := LinksOf.add segment
      (s := ⟨⟨s.nodes, links, s.centerlines, assignments⟩, s.nodeIdByIdentity⟩)
      (d := ⟨k, _, _, tagged.lanes.backward, true⟩) forward apart.symm length_pos
      passable.speed_pos capacity_nonneg some_back passable.not_bridge ⟨rfl, rfl, rfl⟩ last first
    refine ⟨links', assignments', bind_ok.mpr ⟨_, forward_run, backward_run⟩, ?_⟩
    rw [if_neg none_back]
    rw [List.append_assoc] at backward
    exact backward

theorem compile_segment_spec (h : GraphOf config projected attributes past used s.toTypedTopology)
    (table : KnownNodes used s.nodeIdByIdentity) (partIndex : ℕ)
    (passable : Passable config projected (attributes road.1) road.2) :
    ∃ used' s', s.compileSegment config.capacityVehPerLanePerTick
        (segmentOf config projected road.1 (attributes road.1) partIndex road.2, past.length) =
          .ok s' ∧
      GraphOf config projected attributes (past ++ [road]) used' s'.toTypedTopology ∧
      KnownNodes used' s'.nodeIdByIdentity := by
  have filled : road.2 ≠ [] := List.ne_nil_of_length_pos (by have := passable.long; omega)
  obtain ⟨line_long, start, stop⟩ :=
    line_spec config projected (attributes road.1).oneway passable.long
  obtain ⟨i, used₁, nodes₁, known₁, first_run, grown₁, first, here₁, table₁, met₁⟩ :=
    node_id_for_spec h.nodes table ((drawn (attributes road.1).oneway road.2).headD 0)
  obtain ⟨j, used₂, nodes₂, known₂, last_run, grown₂, last, here₂, table₂, met₂⟩ :=
    node_id_for_spec (s := ⟨⟨nodes₁, s.links, s.centerlines, s.assignments⟩, known₁⟩) here₁ table₁
      ((drawn (attributes road.1).oneway road.2).getLastD 0)
  have first' := get_of_prefix grown₂ first
  have apart : i ≠ j := by
    rintro rfl
    have same := Option.some.inj (first'.symm.trans last)
    have ends := fun u => ends_drawn (attributes road.1).oneway filled u
    rw [← same] at ends
    obtain ⟨a, starts⟩ : ∃ a, road.2.head? = some a := ⟨_, List.head?_eq_some_head filled⟩
    obtain ⟨b, stops⟩ : ∃ b, road.2.getLast? = some b := ⟨_, List.getLast?_eq_getLast_of_ne_nil filled⟩
    have a_end := or_self_iff.mp ((ends a).mpr (.inl starts))
    have b_end := or_self_iff.mp ((ends b).mpr (.inr stops))
    exact passable.apart (by rw [starts, stops, a_end, b_end])
  let c : RoadCenterline ℝ := ⟨past.length, lineOf config projected (attributes road.1).oneway road.2,
    (attributes road.1).layer, Int.natCast_nonneg _, line_long, fun _ _ => ⟨rfl, rfl⟩, passable.moves⟩
  have built : RoadCenterline.build c.geometryId c.pointsM c.layer = .ok c :=
    RoadCenterline.build_ok c.id_nonneg c.two_points c.finite c.steps_move
  obtain ⟨links, assignments, added, linked⟩ := add_directions (k := past.length)
    (s := ⟨⟨nodes₂, s.links, s.centerlines ++ [c], s.assignments⟩, known₂⟩)
    (h.links.mono (grown₁.trans grown₂)) partIndex apart
    (Scalar.path_length_pos line_long passable.moves) passable first' last
  refine ⟨used₂, ⟨⟨nodes₂, links, s.centerlines ++ [c], assignments⟩, known₂⟩, ?_,
    ⟨here₂, fun u => ?_, ?_, ?_, ?_⟩, table₂⟩
  · have starts : (segmentOf config projected road.1 (attributes road.1) partIndex
        road.2).pointsM.head? = _ := start
    have stops : (segmentOf config projected road.1 (attributes road.1) partIndex
        road.2).pointsM.getLast? = _ := stop
    unfold Compilation.compileSegment
    dsimp only
    rw [starts, stops]
    refine bind_ok.mpr ⟨_, first_run, bind_ok.mpr ⟨_, last_run, ?_⟩⟩
    dsimp only
    rw [if_neg apart]
    exact bind_ok.mpr ⟨c, built, added⟩
  · rw [met₂, met₁, h.met, or_assoc, ends_drawn _ filled]
    simp only [List.mem_append, List.mem_singleton, or_and_right, exists_or, exists_eq_left]
  · exact List.rel_append h.lines (.cons ⟨rfl, rfl⟩ .nil)
  · rw [List.map_append, h.numbered, List.length_append, List.length_singleton, range_cast_succ]
    rfl
  · rw [directions_concat]
    exact linked

theorem compile_run (passable : ∀ road ∈ past ++ roads,
      Passable config projected (attributes road.1) road.2)
    (h : GraphOf config projected attributes past used s.toTypedTopology)
    (table : KnownNodes used s.nodeIdByIdentity)
    (built : List.Forall₂ (fun road segment => ∃ partIndex, segment =
      segmentOf config projected road.1 (attributes road.1) partIndex road.2) roads segments) :
    ∃ used' s', (segments.zipIdx past.length).foldlM
        (Compilation.compileSegment config.capacityVehPerLanePerTick) s = .ok s' ∧
      GraphOf config projected attributes (past ++ roads) used' s'.toTypedTopology := by
  induction built generalizing past used s with
  | nil =>
    rw [List.append_nil]
    exact ⟨used, s, rfl, h⟩
  | @cons road segment roads segments here later ih =>
    obtain ⟨partIndex, rfl⟩ := here
    obtain ⟨used₁, s₁, first, h₁, table₁⟩ := compile_segment_spec h table partIndex
      (passable road (by simp))
    rw [List.append_cons] at passable ⊢
    obtain ⟨used', s', rest, result⟩ := ih passable h₁ table₁
    rw [List.length_append, List.length_singleton] at rest
    exact ⟨used', s', fold_cons.mpr ⟨s₁, first, rest⟩, result⟩

end Run

section Graph

variable {config : ImportConfig ℝ} {projected : Dict ℤ (PointM ℝ)} {readFloat : String → Option ℝ}
  {attributes : Way → WayAttributes ℝ} {ways : List Way} {way : Way} {piece : List ℤ}
  {used : List ℤ} {topology : TypedTopology ℝ} {d : Direction} {n : ℤ} {k : ℕ}

theorem allowed_direction_ends {tagged : WayAttributes ℝ}
    (allowed : d ∈ allowedDirections tagged piece k) :
    d.road = k ∧ (d.source = piece.headD 0 ∧ d.target = piece.getLastD 0 ∨
      d.source = piece.getLastD 0 ∧ d.target = piece.headD 0) := by
  unfold allowedDirections at allowed
  cases travel : tagged.oneway with
  | forward =>
    rw [travel] at allowed
    obtain rfl := List.mem_singleton.mp allowed
    exact ⟨rfl, .inl ⟨rfl, rfl⟩⟩
  | reverse =>
    rw [travel] at allowed
    obtain rfl := List.mem_singleton.mp allowed
    exact ⟨rfl, .inr ⟨rfl, rfl⟩⟩
  | both =>
    rw [travel] at allowed
    rcases List.mem_cons.mp allowed with rfl | back
    · exact ⟨rfl, .inl ⟨rfl, rfl⟩⟩
    · obtain rfl := List.mem_singleton.mp back
      exact ⟨rfl, .inr ⟨rfl, rfl⟩⟩

theorem some_direction (tagged : WayAttributes ℝ) (piece : List ℤ) (k : ℕ) :
    ∃ d, d ∈ allowedDirections tagged piece k := by
  unfold allowedDirections
  cases tagged.oneway with
  | forward | reverse | both => exact ⟨_, List.mem_cons_self⟩

theorem mem_directions {listed : List (Way × List ℤ)} : d ∈ directions attributes listed ↔
    ∃ road, listed[d.road]? = some road ∧
      d ∈ allowedDirections (attributes road.1) road.2 d.road := by
  unfold directions
  rw [List.mem_flatMap]
  constructor
  · rintro ⟨⟨road, k⟩, place, allowed⟩
    obtain ⟨rfl, -⟩ := allowed_direction_ends allowed
    exact ⟨road, List.mk_mem_zipIdx_iff_getElem?.mp place, allowed⟩
  · rintro ⟨road, place, allowed⟩
    exact ⟨(road, d.road), List.mk_mem_zipIdx_iff_getElem?.mpr place, allowed⟩

def JoinsEnds (used : List ℤ) (piece : List ℤ) (link : RoadLinkRecord ℝ) : Prop :=
  NodeAt used link.srcNodeId (piece.headD 0) ∧ NodeAt used link.dstNodeId (piece.getLastD 0) ∨
    NodeAt used link.srcNodeId (piece.getLastD 0) ∧ NodeAt used link.dstNodeId (piece.headD 0)

variable {listed : List (Way × List ℤ)} {road : Way × List ℤ}

theorem RunsAs.joins {link : RoadLinkRecord ℝ} {tagged : WayAttributes ℝ} (h : RunsAs used d link)
    (allowed : d ∈ allowedDirections tagged piece k) : JoinsEnds used piece link := by
  obtain ⟨-, ⟨source, target⟩ | ⟨source, target⟩⟩ := allowed_direction_ends allowed
  · exact .inl ⟨source ▸ h.source, target ▸ h.target⟩
  · exact .inr ⟨source ▸ h.source, target ▸ h.target⟩

theorem GraphOf.some_link (h : GraphOf config projected attributes listed used topology)
    (place : listed[k]? = some road) :
    ∃ link ∈ topology.links, link.physicalRoadId = k ∧ JoinsEnds used road.2 link := by
  obtain ⟨d, allowed⟩ := some_direction (attributes road.1) road.2 k
  obtain ⟨rfl, -⟩ := allowed_direction_ends allowed
  obtain ⟨link, known, runs⟩ := paired_left h.links.run (mem_directions.mpr ⟨road, place, allowed⟩)
  exact ⟨link, known, runs.road, runs.joins allowed⟩

theorem GraphOf.each_link (h : GraphOf config projected attributes listed used topology)
    {link : RoadLinkRecord ℝ} (known : link ∈ topology.links) (along : link.physicalRoadId = k)
    (place : listed[k]? = some road) : JoinsEnds used road.2 link := by
  obtain ⟨d, direction, runs⟩ := paired_right h.links.run known
  obtain ⟨other, there, allowed⟩ := mem_directions.mp direction
  obtain rfl : d.road = k := Nat.cast_injective (runs.road.symm.trans along)
  obtain rfl := Option.some.inj (there.symm.trans place)
  exact runs.joins allowed

def Reaches (ways : List Way) (links : List (RoadLinkRecord ℝ)) (way : Way) (n : ℤ) : Prop :=
  ∃ (k : ℕ) (piece : List ℤ), (roads ways)[k]? = some (way, piece) ∧
    ∃ link ∈ links, link.physicalRoadId = k ∧ (link.srcNodeId = n ∨ link.dstNodeId = n)

theorem GraphOf.reaches_iff (h : GraphOf config projected attributes (roads ways) used topology)
    (filled : ∀ road ∈ roads ways, road.2 ≠ []) : Reaches ways topology.links way n ↔
      ∃ u, NodeAt used n u ∧ ∃ piece, (way, piece) ∈ roads ways ∧
        (piece.head? = some u ∨ piece.getLast? = some u) := by
  constructor
  · rintro ⟨k, piece, place, link, known, along, ends⟩
    have listed := List.mem_of_getElem? place
    have ends_of := fun u => (ends_drawn .forward (filled _ listed) u).mp
    have reached : NodeAt used n (piece.headD 0) ∨ NodeAt used n (piece.getLastD 0) := by
      rcases h.each_link known along place with ⟨source, target⟩ | ⟨source, target⟩
      · rcases ends with rfl | rfl
        · exact .inl source
        · exact .inr target
      · rcases ends with rfl | rfl
        · exact .inr source
        · exact .inl target
    rcases reached with first | last
    · exact ⟨_, first, piece, listed, ends_of _ (.inl rfl)⟩
    · exact ⟨_, last, piece, listed, ends_of _ (.inr rfl)⟩
  · rintro ⟨u, reached, piece, listed, ends⟩
    obtain ⟨k, place⟩ := List.mem_iff_getElem?.mp listed
    obtain ⟨link, known, along, joins⟩ := h.some_link place
    refine ⟨k, piece, place, link, known, along, ?_⟩
    have same : ∀ m, NodeAt used m u → m = n := fun m there => there.node_eq h.nodes.distinct reached
    rcases (ends_drawn .forward (filled _ listed) u).mpr ends with rfl | rfl
    · rcases joins with ⟨source, -⟩ | ⟨-, target⟩
      · exact .inl (same _ source)
      · exact .inr (same _ target)
    · rcases joins with ⟨-, target⟩ | ⟨source, -⟩
      · exact .inr (same _ target)
      · exact .inl (same _ source)

theorem Accepted.filled (accepted : Accepted config projected readFloat ways attributes) :
    ∀ road ∈ roads ways, road.2 ≠ [] := by
  intro road listed
  obtain ⟨known, cut⟩ := mem_roads.mp listed
  have := (accepted.cut known).long road.2 cut
  exact List.ne_nil_of_length_pos (by omega)

theorem Accepted.mem_refs (accepted : Accepted config projected readFloat ways attributes)
    (listed : (way, piece) ∈ roads ways) {u : ℤ} (mem : u ∈ piece) : u ∈ way.nodeRefs := by
  obtain ⟨known, cut⟩ := mem_roads.mp listed
  have pieces := accepted.cut known
  have stretch := piece_of_glue pieces.linked
    (fun piece cut => accepted.filled (way, piece) (mem_roads.mpr ⟨known, cut⟩)) cut
  rw [pieces.joined] at stretch
  exact stretch.subset mem

theorem Accepted.end_of_shared (accepted : Accepted config projected readFloat ways attributes)
    (known : way ∈ ways) {u : ℤ} (mem : u ∈ way.nodeRefs) (shared : isShared ways u = true) :
    ∃ piece, (way, piece) ∈ roads ways ∧ (piece.head? = some u ∨ piece.getLast? = some u) := by
  have pieces := accepted.cut known
  rw [← pieces.joined] at mem
  obtain ⟨piece, cut, here⟩ := mem_of_mem_glue mem
  refine ⟨piece, mem_roads.mpr ⟨known, cut⟩, ?_⟩
  rcases mem_ends_or_inner here with first | last | inner
  · exact .inl first
  · exact .inr last
  · rw [pieces.inner piece cut u inner] at shared
    cases shared

theorem GraphOf.share_iff (h : GraphOf config projected attributes (roads ways) used topology)
    (accepted : Accepted config projected readFloat ways attributes) {way' : Way}
    (known : way ∈ ways) (known' : way' ∈ ways) :
    (∃ n, Reaches ways topology.links way n ∧ Reaches ways topology.links way' n) ↔
      ∃ u ∈ way.nodeRefs, u ∈ way'.nodeRefs := by
  have reaches {way : Way} {n : ℤ} : Reaches ways topology.links way n ↔ _ :=
    h.reaches_iff accepted.filled
  have mem_of_end : ∀ {piece : List ℤ} {u : ℤ}, piece.head? = some u ∨ piece.getLast? = some u →
      u ∈ piece := fun ends => ends.elim List.mem_of_head? List.mem_of_getLast?
  have node_of : ∀ {way : Way} {piece : List ℤ} {u : ℤ}, (way, piece) ∈ roads ways →
      (piece.head? = some u ∨ piece.getLast? = some u) → ∃ n, NodeAt used n u := by
    intro way piece u listed ends
    obtain ⟨i, place⟩ := List.mem_iff_getElem?.mp ((h.met u).mpr ⟨_, listed, ends⟩)
    exact ⟨i, i, rfl, place⟩
  constructor
  · rintro ⟨n, here, there⟩
    obtain ⟨u, at_u, piece, listed, ends⟩ := reaches.mp here
    obtain ⟨v, at_v, piece', listed', ends'⟩ := reaches.mp there
    obtain rfl := at_u.source_eq at_v
    exact ⟨u, accepted.mem_refs listed (mem_of_end ends), accepted.mem_refs listed' (mem_of_end ends')⟩
  · rintro ⟨u, mem, mem'⟩
    by_cases same : way' = way
    · subst same
      rw [← (accepted.cut known).joined] at mem
      obtain ⟨piece, cut, -⟩ := mem_of_mem_glue mem
      have listed : (way', piece) ∈ roads ways := mem_roads.mpr ⟨known, cut⟩
      have first := List.head?_eq_some_head (accepted.filled _ listed)
      obtain ⟨n, reached⟩ := node_of listed (.inl first)
      have here := reaches.mpr ⟨_, reached, piece, listed, .inl first⟩
      exact ⟨n, here, here⟩
    · have shared := shared_of_two known known' same mem mem'
      obtain ⟨piece, listed, ends⟩ := accepted.end_of_shared known mem shared
      obtain ⟨piece', listed', ends'⟩ := accepted.end_of_shared known' mem' shared
      obtain ⟨n, reached⟩ := node_of listed ends
      exact ⟨n, reaches.mpr ⟨u, reached, piece, listed, ends⟩,
        reaches.mpr ⟨u, reached, piece', listed', ends'⟩⟩

theorem Accepted.some_road (accepted : Accepted config projected readFloat ways attributes) :
    ∃ road, road ∈ roads ways := by
  obtain ⟨way, known⟩ := List.exists_mem_of_ne_nil ways accepted.some_way
  have pieces := accepted.cut known
  have long := (references_ok accepted.references way known).1
  cases cut : splitPieces (isShared ways) way.nodeRefs with
  | nil =>
    rw [cut] at pieces
    rw [← pieces.joined] at long
    cases long
  | cons piece others =>
    exact ⟨(way, piece), mem_roads.mpr ⟨known, by rw [cut]; exact List.mem_cons_self⟩⟩

theorem empty_graph : GraphOf config projected attributes [] [] ({} : TypedTopology ℝ) where
  nodes := ⟨List.nodup_nil, rfl⟩
  met := by simp
  lines := .nil
  numbered := rfl
  links := ⟨.nil, .nil, rfl, rfl⟩

theorem pairwise_of_range {α : Type} {l : List α} {key : α → ℤ} {m : ℕ}
    (numbered : l.map key = (List.range m).map Nat.cast) :
    l.Pairwise fun a b => key a < key b := by
  rw [← List.pairwise_map (f := key) (R := (· < ·)), numbered, List.pairwise_map]
  exact List.pairwise_lt_range.imp Nat.cast_lt.mpr

theorem GraphOf.catalogued (h : GraphOf config projected attributes listed used topology) :
    ∃ geometry, RoadGeometryCatalog.build topology.centerlines topology.assignments = .ok geometry ∧
      geometry.centerlines = topology.centerlines ∧ geometry.assignments = topology.assignments := by
  have resolves : ∀ a ∈ topology.assignments, ∃ c ∈ topology.centerlines,
      c.geometryId = a.geometryId := by
    intro a known
    obtain ⟨d, direction, along, -⟩ := paired_right h.links.along known
    obtain ⟨road, place, -⟩ := mem_directions.mp direction
    have inside : (d.road : ℤ) ∈ (List.range listed.length).map Nat.cast :=
      List.mem_map_of_mem (List.mem_range.mpr (List.getElem?_eq_some_iff.mp place).1)
    rw [← h.numbered] at inside
    obtain ⟨c, known_line, same⟩ := List.mem_map.mp inside
    exact ⟨c, known_line, same.trans along.symm⟩
  exact ⟨_, RoadGeometryCatalog.build_sorted (pairwise_of_range h.numbered)
    (pairwise_of_range h.links.assigned) resolves, rfl, rfl⟩

/-- An import preserves the road graph: every way is cut into linked pieces that pass no shared
node inside, the topology is the graph of these pieces, and ways meet where they did. -/
structure GraphPreserved (config : ImportConfig ℝ) (projected : Dict ℤ (PointM ℝ))
    (attributes : Way → WayAttributes ℝ) (ways : List Way) (topology : TypedTopology ℝ) :
    Prop where
  joined : ∀ way ∈ ways, Linked (splitPieces (isShared ways) way.nodeRefs) ∧
    glue (splitPieces (isShared ways) way.nodeRefs) = way.nodeRefs
  cut : ∀ road ∈ roads ways, ∀ u ∈ road.2.tail.dropLast, (occurrences ways).count u ≤ 1
  graph : ∃ used, GraphOf config projected attributes (roads ways) used topology
  share : ∀ way ∈ ways, ∀ way' ∈ ways,
    (∃ n, Reaches ways topology.links way n ∧ Reaches ways topology.links way' n) ↔
      ∃ u ∈ way.nodeRefs, u ∈ way'.nodeRefs

theorem Accepted.open_iff (accepted : Accepted config projected readFloat ways attributes)
    (known : way ∈ ways) : (∀ piece ∈ splitPieces (isShared ways) way.nodeRefs,
      piece.head? ≠ piece.getLast?) ↔ ¬ ReturnsUncut (isShared ways) way.nodeRefs := by
  obtain ⟨long, -, moves⟩ := references_ok accepted.references way known
  exact pieces_open_iff long moves fun i j u => shared_of_twice known

theorem GraphPreserved.uncut (preserved : GraphPreserved config projected attributes ways topology)
    (accepted : Accepted config projected readFloat ways attributes) (known : way ∈ ways) :
    ¬ ReturnsUncut (isShared ways) way.nodeRefs := by
  obtain ⟨used, graph⟩ := preserved.graph
  refine (accepted.open_iff known).mp fun piece cut closed => ?_
  have listed : (way, piece) ∈ roads ways := mem_roads.mpr ⟨known, cut⟩
  obtain ⟨k, place⟩ := List.mem_iff_getElem?.mp listed
  obtain ⟨link, -, -, joins⟩ := graph.some_link place
  have same : piece.headD 0 = piece.getLastD 0 := by
    rw [List.headD_eq_head?_getD, closed, List.getLastD_eq_getLast?]
  unfold JoinsEnds at joins
  rw [same, or_self] at joins
  exact link.ends_differ (joins.1.node_eq graph.nodes.distinct joins.2)

theorem Accepted.lines_move (accepted : Accepted config projected readFloat ways attributes)
    (untouched : config.simplifyToleranceM ≤ 0) {road : Way × List ℤ} (listed : road ∈ roads ways) :
    (lineOf config projected (attributes road.1).oneway road.2).IsChain (· ≠ ·) := by
  obtain ⟨known, cut⟩ := mem_roads.mp listed
  have pieces := accepted.cut known
  have moves : (road.2.map (pointOf projected)).IsChain (· ≠ ·) := by
    rw [chain_iff_steps, walk_steps_map]
    rintro step taken same
    obtain ⟨source, source_taken, rfl⟩ := List.mem_map.mp taken
    apply accepted.edges road.1 known source
    · rw [← pieces.joined, walk_steps_glue pieces.linked
        fun piece cut => accepted.filled (road.1, piece) (mem_roads.mpr ⟨known, cut⟩)]
      exact List.mem_flatMap.mpr ⟨road.2, cut, source_taken⟩
    · have same : pointOf projected source.1 = pointOf projected source.2 := same
      rw [same]
      exact points_close_self
  unfold lineOf drawn
  rw [simplify_untouched untouched]
  split
  · rw [List.map_reverse, List.isChain_reverse]
    exact moves.imp fun _ _ => Ne.symm
  · exact moves

end Graph

section Examples

/-- Five places of a small town, on a grid of ten metres. -/
def townPoints : Dict ℤ (PointM ℝ) :=
  [(1, (0, 0)), (2, (10, 0)), (3, (20, 0)), (4, (20, 10)), (5, (10, 10))]

def residential : Tags := [("highway", "residential")]

noncomputable def residentialRoad : WayAttributes ℝ :=
  ⟨.localRoad, .both, { forward := 1, backward := 1 }, defaultSpeedMps .localRoad, 0⟩

noncomputable def exactImport : ImportConfig ℝ :=
  ⟨0, none, 1, "osm_wiki", by decide, lt_irrefl 0, not_le.mpr one_pos⟩

/-- A street, and another that leaves it halfway. -/
def sideStreet : List Way := [⟨7, [1, 2, 3], residential⟩, ⟨9, [5, 2], residential⟩]

def loopStreet : List Way := [⟨7, [1, 2, 3, 4, 2], residential⟩]

theorem residential_read : readAttributes (fun _ => none) exactImport.laneTaggingPolicy
    residential = .ok residentialRoad := by
  have drivable : highwayClass ((residential.get "highway").getD "") = some .localRoad := by
    decide +kernel
  have blank : (strip "").toLower = "" := by decide +kernel
  have level : parseLayer residential = .ok 0 := by
    simp [parseLayer, residential, blank]
  unfold readAttributes
  rw [drivable]
  exact bind_ok.mpr ⟨.both, rfl, bind_ok.mpr ⟨{ forward := 1, backward := 1 }, rfl, bind_ok.mpr
    ⟨defaultSpeedMps .localRoad, rfl, bind_ok.mpr ⟨0, level, rfl⟩⟩⟩⟩

theorem not_close {a b : ℝ} (low_a : |a| ≤ 100) (low_b : |b| ≤ 100) (far : 1 ≤ |b - a|) :
    ¬ isClose a b := by
  have abs_real : ∀ x : ℝ, Scalar.abs x = |x| := by
    intro x
    unfold Scalar.abs
    split
    · rename_i negative
      exact (abs_of_neg negative).symm
    · rename_i positive
      exact (abs_of_nonneg (not_lt.mp positive)).symm
  set fine : ℝ := 1 / (1000000000 : ℤ) with small
  have fine_pos : 0 < fine := by rw [small]; norm_num
  change ¬ (a = b ∨ _ ∧ _ ∧ (Scalar.abs (b - a) ≤ Scalar.abs (fine * b) ∨
    Scalar.abs (b - a) ≤ Scalar.abs (fine * a) ∨ Scalar.abs (b - a) ≤ fine))
  rw [abs_real, abs_real, abs_real, abs_mul, abs_mul, abs_of_pos fine_pos]
  have fine_low : fine ≤ 1 / 1000 := by rw [small]; norm_num
  rintro (rfl | ⟨-, -, close | close | close⟩)
  · rw [sub_self, abs_zero] at far
    linarith
  · have low := mul_le_mul fine_low low_b (abs_nonneg b) (by norm_num)
    exact absurd (far.trans (le_trans close low)) (by norm_num)
  · have low := mul_le_mul fine_low low_a (abs_nonneg a) (by norm_num)
    exact absurd (far.trans (le_trans close low)) (by norm_num)
  · exact absurd (far.trans (le_trans close fine_low)) (by norm_num)

theorem town_apart : ∀ step ∈ [((1 : ℤ), (2 : ℤ)), (2, 3), (3, 4), (4, 2), (5, 2)],
    ¬ pointsClose (pointOf townPoints step.1) (pointOf townPoints step.2) := by
  have across : ∀ {p q : PointM ℝ}, |p.1| ≤ 100 → |q.1| ≤ 100 → 1 ≤ |q.1 - p.1| →
      ¬ pointsClose p q := fun low_p low_q far close => not_close low_p low_q far close.1
  have along : ∀ {p q : PointM ℝ}, |p.2| ≤ 100 → |q.2| ≤ 100 → 1 ≤ |q.2 - p.2| →
      ¬ pointsClose p q := fun low_p low_q far close => not_close low_p low_q far close.2
  have points : pointOf townPoints 1 = (0, 0) ∧ pointOf townPoints 2 = (10, 0) ∧
      pointOf townPoints 3 = (20, 0) ∧ pointOf townPoints 4 = (20, 10) ∧
      pointOf townPoints 5 = (10, 10) := ⟨rfl, rfl, rfl, rfl, rfl⟩
  obtain ⟨at_1, at_2, at_3, at_4, at_5⟩ := points
  simp only [List.forall_mem_cons, at_1, at_2, at_3, at_4, at_5]
  refine ⟨across ?_ ?_ ?_, across ?_ ?_ ?_, along ?_ ?_ ?_, across ?_ ?_ ?_, along ?_ ?_ ?_, ?_⟩
  all_goals norm_num

theorem side_street_accepted :
    Accepted exactImport townPoints (fun _ => none) sideStreet fun _ => residentialRoad where
  some_way := List.cons_ne_nil _ _
  references := rfl
  tags := List.forall_mem_cons.mpr ⟨residential_read, List.forall_mem_cons.mpr
    ⟨residential_read, by simp⟩⟩
  edges := by
    have steps : ∀ way ∈ sideStreet, walkSteps way.nodeRefs ⊆
        [((1 : ℤ), (2 : ℤ)), (2, 3), (3, 4), (4, 2), (5, 2)] := by decide
    exact fun way known step taken => town_apart step (steps way known taken)
  unclipped := rfl

theorem loop_street_accepted :
    Accepted exactImport townPoints (fun _ => none) loopStreet fun _ => residentialRoad where
  some_way := List.cons_ne_nil _ _
  references := rfl
  tags := List.forall_mem_cons.mpr ⟨residential_read, by simp⟩
  edges := by
    have steps : ∀ way ∈ loopStreet, walkSteps way.nodeRefs ⊆
        [((1 : ℤ), (2 : ℤ)), (2, 3), (3, 4), (4, 2), (5, 2)] := by decide
    exact fun way known step taken => town_apart step (steps way known taken)
  unclipped := rfl

end Examples

end Metroflow.Map.Osm
