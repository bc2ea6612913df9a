import Metroflow.City.GrowthFabric
import Metroflow.City.StreetIncidence

namespace Metroflow.City

open Metroflow.Lib Metroflow.Map StreetTopologyBuilder

section Junctions

variable {K : Type} {b : StreetTopologyBuilder K} {street : Street} {nodeId : ℕ}

theorem mem_street_ends : nodeId ∈ streetEnds b ↔ ∃ street ∈ b.streets,
    street.nodeIds.head? = some nodeId ∨ street.nodeIds.getLast? = some nodeId := by
  simp [streetEnds]

theorem mem_junctions : nodeId ∈ junctionNodeIds b ↔
    nodeId < b.points.length ∧
      (1 < (b.incidentStreets nodeId).card ∨ nodeId ∈ streetEnds b) := by
  unfold junctionNodeIds isJunction
  rw [List.mem_filter, List.mem_range, decide_eq_true_eq]
  exact ⟨fun h => h.2, fun h => ⟨h.1, h⟩⟩

theorem end_is_junction (kept : Incidence b) (listed : street ∈ b.streets)
    (ends : street.nodeIds.head? = some nodeId ∨ street.nodeIds.getLast? = some nodeId) :
    nodeId ∈ junctionNodeIds b := by
  have passes : nodeId ∈ street.nodeIds :=
    ends.elim List.mem_of_head? List.mem_of_getLast?
  exact mem_junctions.mpr ⟨kept.known street listed nodeId passes,
    .inr (mem_street_ends.mpr ⟨street, listed, ends⟩)⟩

theorem shared_is_junction (kept : Incidence b) {s t : ℕ} {street other : Street} (apart : s ≠ t)
    (found : b.streets[s]? = some street) (found' : b.streets[t]? = some other)
    (passes : nodeId ∈ street.nodeIds) (passes' : nodeId ∈ other.nodeIds) :
    nodeId ∈ junctionNodeIds b := by
  refine mem_junctions.mpr
    ⟨kept.known street (List.mem_of_getElem? found) nodeId passes, .inl ?_⟩
  rw [Finset.one_lt_card]
  exact ⟨s, (kept.incident_iff _ _).mpr (mem_node_ids_of.mpr ⟨street, found, passes⟩),
    t, (kept.incident_iff _ _).mpr (mem_node_ids_of.mpr ⟨other, found', passes'⟩), apart⟩

structure Chains (b : StreetTopologyBuilder K) (street : Street) (chains : List (List ℕ)) :
    Prop where
  joined : glue chains = street.nodeIds
  linked : Linked chains
  long : ∀ chain ∈ chains, 2 ≤ chain.length
  ends : ∀ chain ∈ chains, ∀ nodeId, chain.head? = some nodeId ∨ chain.getLast? = some nodeId →
    nodeId ∈ junctionNodeIds b
  inner : ∀ chain ∈ chains, ∀ nodeId ∈ chain.tail.dropLast, nodeId ∉ junctionNodeIds b

theorem street_chains_spec (kept : Incidence b) (listed : street ∈ b.streets)
    (grown : 2 ≤ street.nodeIds.length) : Chains b street (streetChains b street) := by
  have cut : ∃ first second rest, street.nodeIds = first :: second :: rest ∧
      CutOf (fun nodeId => decide (nodeId ∈ junctionNodeIds b)) first (second :: rest)
        (streetChains b street) := by
    match nodes : street.nodeIds with
    | [] | [_] => simp [nodes] at grown
    | first :: second :: rest =>
      refine ⟨first, second, rest, rfl, ?_⟩
      unfold streetChains
      rw [nodes]
      exact cut_spec
  obtain ⟨first, second, rest, nodes, cut⟩ := cut
  have start : first ∈ junctionNodeIds b :=
    end_is_junction kept listed (.inl (by rw [nodes]; rfl))
  refine ⟨?_, cut.linked, cut.long, fun chain mem n ends => ?_, fun chain mem n inside => ?_⟩
  · rw [cut.glued (List.cons_ne_nil _ _), nodes]
  · rcases ends with head | last
    · rcases cut.heads chain mem n head with marked | rfl
      · exact of_decide_eq_true marked
      · exact start
    · rcases cut.lasts chain mem n last with marked | stop
      · exact of_decide_eq_true marked
      · refine end_is_junction kept listed (.inr ?_)
        rw [nodes, List.getLast?_cons_cons]
        exact stop
  · exact of_decide_eq_false (cut.inner chain mem n inside)

theorem street_chains_of_seed (seed : ¬ 2 ≤ street.nodeIds.length) :
    streetChains b street = [] := by
  unfold streetChains
  match nodes : street.nodeIds with
  | [] | [_] => rfl
  | _ :: _ :: _ => simp [nodes] at seed

theorem Chains.stretch {chains : List (List ℕ)} {chain : List ℕ} (h : Chains b street chains)
    (mem : chain ∈ chains) : chain <:+: street.nodeIds := by
  rw [← h.joined]
  refine piece_of_glue h.linked (fun piece listed empty => ?_) mem
  have := h.long piece listed
  simp [empty] at this

theorem Chains.junction_ends {chains : List (List ℕ)} (h : Chains b street chains)
    (passes : nodeId ∈ street.nodeIds) (junction : nodeId ∈ junctionNodeIds b) :
    ∃ chain ∈ chains, chain.head? = some nodeId ∨ chain.getLast? = some nodeId := by
  rw [← h.joined] at passes
  obtain ⟨chain, mem, within⟩ := mem_of_mem_glue passes
  rcases mem_ends_or_inner within with head | last | inner
  · exact ⟨chain, mem, .inl head⟩
  · exact ⟨chain, mem, .inr last⟩
  · exact absurd junction (h.inner chain mem nodeId inner)

end Junctions

section Emission

variable {roadClass : RoadClass} {layer : ℤ} {points : List (PointM ℝ)} {first last : ℕ}
  {s s' : Compilation ℝ} {usedNodes : List ℕ} {nodeId : ℕ}

theorem design_ok (designed : roadClass ≠ .ramp ∧ roadClass ≠ .bridge) :
    ∃ lanes, ∃ speed capacity : ℝ, design roadClass = .ok (lanes, speed, capacity) ∧
      1 ≤ lanes ∧ 0 < speed ∧ 0 ≤ capacity := by
  cases roadClass with
  | ramp => exact absurd rfl designed.1
  | bridge => exact absurd rfl designed.2
  | expressway | arterial | collector | localRoad =>
    refine ⟨_, _, _, rfl, by decide, ?_, ?_⟩ <;> (simp [Scalar.ofInt]; try norm_num)

theorem node_index_spec (distinct : usedNodes.Nodup) (nodeId : ℕ) :
    ∃ i usedNodes', Compilation.nodeIndex usedNodes nodeId = (i, usedNodes') ∧
      usedNodes'[i]? = some nodeId ∧ usedNodes <+: usedNodes' ∧ usedNodes'.Nodup ∧
      ∀ n, n ∈ usedNodes' ↔ n ∈ usedNodes ∨ n = nodeId := by
  unfold Compilation.nodeIndex
  split
  · rename_i known
    refine ⟨_, _, rfl, List.getElem?_idxOf known, List.prefix_refl _, distinct, fun n => ?_⟩
    exact ⟨.inl, fun h => h.elim id fun same => same ▸ known⟩
  · rename_i fresh
    refine ⟨_, _, rfl, List.getElem?_concat_length, List.prefix_append _ _, ?_, fun n => ?_⟩
    · rw [List.nodup_append]
      refine ⟨distinct, List.nodup_singleton _, fun a old b new => ?_⟩
      rintro rfl
      exact fresh (List.mem_singleton.mp new ▸ old)
    · rw [List.mem_append, List.mem_singleton]

/-- One chain is emitted as a centerline and a link each way between the images of its ends. -/
structure Emits (roadClass : RoadClass) (layer : ℤ) (points : List (PointM ℝ)) (first last : ℕ)
    (s s' : Compilation ℝ) (centerline : RoadCenterline ℝ) (forward reverse : RoadLinkRecord ℝ)
    (src dst : ℕ) : Prop where
  centerlines : s'.centerlines = s.centerlines ++ [centerline]
  links : s'.links = s.links ++ [forward, reverse]
  assignments : ∃ along back : LinkGeometryAssignment, s'.assignments = s.assignments ++ [along, back] ∧
    along.linkId = s.links.length ∧ back.linkId = s.links.length + 1 ∧
    along.geometryId = s.centerlines.length ∧ back.geometryId = s.centerlines.length ∧
    along.reversed = false ∧ back.reversed = true
  dropped : s'.dropped = s.dropped
  grown : s.usedNodes <+: s'.usedNodes
  distinct : s'.usedNodes.Nodup
  used : ∀ n, n ∈ s'.usedNodes ↔ n ∈ s.usedNodes ∨ n = first ∨ n = last
  src_node : s'.usedNodes[src]? = some first
  dst_node : s'.usedNodes[dst]? = some last
  line : centerline.geometryId = s.centerlines.length ∧ centerline.pointsM = points ∧
    centerline.layer = layer
  along : forward.srcNodeId = src ∧ forward.dstNodeId = dst ∧
    forward.physicalRoadId = s.centerlines.length ∧ forward.roadClass = roadClass ∧
    forward.lengthM = Scalar.pathLength points
  back : reverse.srcNodeId = dst ∧ reverse.dstNodeId = src ∧
    reverse.physicalRoadId = s.centerlines.length ∧ reverse.roadClass = roadClass ∧
    reverse.lengthM = Scalar.pathLength points

theorem emit_ok (layer : ℤ) (designed : roadClass ≠ .ramp ∧ roadClass ≠ .bridge)
    (moves : points.IsChain (· ≠ ·)) (two : 2 ≤ points.length)
    (long : 0 < Scalar.pathLength points) (apart : first ≠ last) (distinct : s.usedNodes.Nodup) :
    ∃ s' centerline forward reverse src dst, s.emit roadClass layer points first last = .ok s' ∧
      Emits roadClass layer points first last s s' centerline forward reverse src dst := by
  obtain ⟨lanes, speed, capacity, designs, lanes_pos, speed_pos, capacity_nonneg⟩ :=
    design_ok designed
  obtain ⟨src, middle, index, found, grown, distinct', used⟩ := node_index_spec distinct first
  obtain ⟨dst, final, index', found', grown', distinct'', used'⟩ := node_index_spec distinct' last
  have first_kept := get_of_prefix grown' found
  have ends : (src : ℤ) ≠ dst := by
    intro same
    rw [Nat.cast_inj.mp same, found'] at first_kept
    exact apart (Option.some.inj first_kept).symm
  have road : (0 : ℤ) ≤ s.centerlines.length := Int.natCast_nonneg _
  obtain ⟨centerline, drawn, line⟩ : ∃ c, RoadCenterline.build s.centerlines.length points layer =
      .ok c ∧ c.geometryId = s.centerlines.length ∧ c.pointsM = points ∧ c.layer = layer :=
    ⟨_, RoadCenterline.build_ok road two (fun _ _ => ⟨rfl, rfl⟩) moves, rfl, rfl, rfl⟩
  have link : ∀ linkId from_ to_ : ℤ, from_ ≠ to_ → ∃ record, RoadLinkRecord.build linkId from_ to_
      roadClass (Scalar.pathLength points) speed capacity lanes s.centerlines.length =
        .ok record ∧ record.srcNodeId = from_ ∧ record.dstNodeId = to_ ∧
      record.physicalRoadId = s.centerlines.length ∧ record.roadClass = roadClass ∧
      record.lengthM = Scalar.pathLength points := fun linkId from_ to_ differ =>
    ⟨_, RoadLinkRecord.build_ok differ (not_le.mpr long) (not_le.mpr speed_pos)
      (not_lt.mpr capacity_nonneg) lanes_pos designed.2 road, rfl, rfl, rfl, rfl, rfl⟩
  obtain ⟨forward, linked, along⟩ := link s.links.length src dst ends
  obtain ⟨reverse, linked', back⟩ := link (s.links.length + 1) dst src ends.symm
  have assign : ∀ (linkId : ℤ) (reversed : Bool), 0 ≤ linkId → ∃ a : LinkGeometryAssignment,
      LinkGeometryAssignment.build linkId s.centerlines.length reversed = .ok a ∧
      a.linkId = linkId ∧ a.geometryId = s.centerlines.length ∧ a.reversed = reversed :=
    fun linkId reversed valid => ⟨_, LinkGeometryAssignment.build_ok valid road, rfl, rfl, rfl⟩
  obtain ⟨first_run, assigned, link_id, geometry_id, direction⟩ :=
    assign s.links.length false (Int.natCast_nonneg _)
  obtain ⟨second_run, assigned', link_id', geometry_id', direction'⟩ :=
    assign (s.links.length + 1) true (by omega)
  refine ⟨⟨final, s.links ++ [forward, reverse], s.centerlines ++ [centerline],
    s.assignments ++ [first_run, second_run], s.dropped⟩, centerline, forward, reverse, src, dst,
    ?_, ?_⟩
  · unfold Compilation.emit
    rw [index]
    dsimp only
    rw [index']
    exact bind_ok.mpr ⟨_, designs, bind_ok.mpr ⟨_, drawn, bind_ok.mpr ⟨_, linked, bind_ok.mpr
      ⟨_, linked', bind_ok.mpr ⟨_, assigned, bind_ok.mpr ⟨_, assigned', rfl⟩⟩⟩⟩⟩⟩
  · exact {
      centerlines := rfl
      links := rfl
      assignments := ⟨_, _, rfl, link_id, link_id', geometry_id, geometry_id', direction, direction'⟩
      dropped := rfl
      grown := grown.trans grown'
      distinct := distinct''
      used := fun n => by rw [used', used, or_assoc]
      src_node := first_kept
      dst_node := found'
      line := line
      along := along
      back := back }

end Emission

section Compile

variable {b : StreetTopologyBuilder ℝ} {streets : List GrownStreet} {chains : List (ℕ × List ℕ)}
  {chain : ℕ × List ℕ} {s : Compilation ℝ} {points : List (PointM ℝ)}

/-- A chain the compiler keeps: it moves from one node to another, on a street of a known class. -/
structure Compilable (b : StreetTopologyBuilder ℝ) (streets : List GrownStreet)
    (chain : ℕ × List ℕ) : Prop where
  long : 2 ≤ chain.2.length
  nodup : chain.2.Nodup
  moves : (chain.2.map b.pointOf).IsChain (· ≠ ·)
  classed : ∃ roadClass, (classByStreet streets).get chain.1 = some roadClass ∧
    roadClass ≠ .ramp ∧ roadClass ≠ .bridge

theorem compile_chain_ok (good : Compilable b streets chain) (distinct : s.usedNodes.Nodup) :
    ∃ roadClass first last s' centerline forward reverse src dst,
      (classByStreet streets).get chain.1 = some roadClass ∧
      chain.2.head? = some first ∧ chain.2.getLast? = some last ∧
      s.compileChain b chain.1 roadClass chain.2 = .ok s' ∧
      Emits roadClass ((b.streets[chain.1]?.map Street.layer).getD 0) (chain.2.map b.pointOf)
        first last s s' centerline forward reverse src dst := by
  obtain ⟨roadClass, classed, designed⟩ := good.classed
  obtain ⟨streetId, nodes⟩ := chain
  have long := Scalar.path_length_pos (by simpa using good.long) good.moves
  match nodes, good with
  | [], good | [_], good => simpa using good.long
  | first :: second :: rest, good =>
    obtain ⟨last, ends⟩ : ∃ last, (first :: second :: rest).getLast? = some last :=
      Option.isSome_iff_exists.mp (by simp)
    have apart : first ≠ last := by
      rintro rfl
      rw [List.getLast?_cons_cons] at ends
      exact (List.nodup_cons.mp good.nodup).1 (List.mem_of_getLast? ends)
    obtain ⟨s', centerline, forward, reverse, src, dst, emitted, spec⟩ :=
      emit_ok ((b.streets[streetId]?.map Street.layer).getD 0) designed good.moves
        (by simp) long apart distinct
    refine ⟨roadClass, first, last, s', centerline, forward, reverse, src, dst, classed, rfl, ends,
      ?_, spec⟩
    unfold Compilation.compileChain
    rw [if_neg (not_le.mpr long), if_neg (by rw [ends]; simpa using apart)]
    unfold Compilation.compilePart
    rw [ends]
    dsimp only
    rw [if_neg apart, if_neg (not_le.mpr long), emitted]

/-- The chain at place `k` became centerline `k` and links `2 k` and `2 k + 1`,
between the compact indices of its end nodes. -/
def ChainEmitted (b : StreetTopologyBuilder ℝ) (usedNodes : List ℕ)
    (centerlines : List (RoadCenterline ℝ)) (links : List (RoadLinkRecord ℝ)) (k : ℕ)
    (nodes : List ℕ) : Prop :=
  ∃ centerline forward reverse first last, ∃ src dst : ℕ,
    centerlines[k]? = some centerline ∧ links[2 * k]? = some forward ∧
    links[2 * k + 1]? = some reverse ∧
    centerline.geometryId = k ∧ centerline.pointsM = nodes.map b.pointOf ∧
    (nodes.head? = some first ∧ usedNodes[src]? = some first) ∧
    (nodes.getLast? = some last ∧ usedNodes[dst]? = some last) ∧
    (forward.srcNodeId = src ∧ forward.dstNodeId = dst ∧ forward.physicalRoadId = k) ∧
    (reverse.srcNodeId = dst ∧ reverse.dstNodeId = src ∧ reverse.physicalRoadId = k)

/-- What has been compiled of the chains so far. -/
structure Compiled (b : StreetTopologyBuilder ℝ) (past : List (ℕ × List ℕ)) (s : Compilation ℝ) :
    Prop where
  distinct : s.usedNodes.Nodup
  dropped : s.dropped = []
  links : s.links.length = 2 * past.length
  lines : s.centerlines.map RoadCenterline.pointsM = past.map fun chain => chain.2.map b.pointOf
  line_ids : s.centerlines.map RoadCenterline.geometryId =
    (List.range past.length).map fun k : ℕ => (k : ℤ)
  run_ids : s.assignments.map LinkGeometryAssignment.linkId =
    (List.range (2 * past.length)).map fun k : ℕ => (k : ℤ)
  runs : s.assignments.map (fun a => (a.linkId, a.geometryId, a.reversed)) =
    (List.range past.length).flatMap fun k : ℕ =>
      [(2 * (k : ℤ), (k : ℤ), false), (2 * (k : ℤ) + 1, (k : ℤ), true)]
  emitted : ∀ k chain, past[k]? = some chain →
    ChainEmitted b s.usedNodes s.centerlines s.links k chain.2

theorem Compiled.line_count (h : Compiled b chains s) : s.centerlines.length = chains.length := by
  have := congrArg List.length h.lines
  simpa using this

theorem Compiled.next {past : List (ℕ × List ℕ)} {s' : Compilation ℝ}
    {roadClass : RoadClass} {layer : ℤ} {first last : ℕ} {centerline : RoadCenterline ℝ}
    {forward reverse : RoadLinkRecord ℝ} {src dst : ℕ} (h : Compiled b past s)
    (head : chain.2.head? = some first) (tail : chain.2.getLast? = some last)
    (step : Emits roadClass layer (chain.2.map b.pointOf) first last s s' centerline forward
      reverse src dst) : Compiled b (past ++ [chain]) s' := by
  have count := h.line_count
  obtain ⟨along, back, assigned, link_id, link_id', geometry, geometry', ahead, behind⟩ :=
    step.assignments
  have length : (past ++ [chain]).length = past.length + 1 := List.length_append
  have twice : 2 * (past.length + 1) = 2 * past.length + 1 + 1 := by omega
  refine ⟨step.distinct, step.dropped.trans h.dropped, ?_, ?_, ?_, ?_, ?_, fun k found at_k => ?_⟩
  · rw [step.links, List.length_append, h.links, length]
    simp only [List.length_cons, List.length_nil]
    omega
  · rw [step.centerlines, List.map_append, List.map_append, h.lines]
    simp [step.line]
  · rw [step.centerlines, List.map_append, h.line_ids, length, List.range_succ, List.map_append]
    simp [step.line, count]
  · rw [assigned, List.map_append, h.run_ids, length, twice, List.range_succ, List.range_succ,
      List.map_append, List.map_append, List.append_assoc]
    simp [link_id, link_id', h.links]
  · rw [assigned, List.map_append, h.runs, length, List.range_succ, List.flatMap_append]
    simp [link_id, link_id', geometry, geometry', ahead, behind, count, h.links]
  · have lines : s.centerlines <+: s'.centerlines := step.centerlines ▸ List.prefix_append _ _
    have links : s.links <+: s'.links := step.links ▸ List.prefix_append _ _
    rw [List.getElem?_append] at at_k
    split at at_k
    · obtain ⟨c, f, r, a, z, i, j, at_c, at_f, at_r, id, drawn, ⟨head', at_i⟩, ⟨tail', at_j⟩, ends⟩ :=
        h.emitted k found at_k
      exact ⟨c, f, r, a, z, i, j, get_of_prefix lines at_c, get_of_prefix links at_f,
        get_of_prefix links at_r, id, drawn, ⟨head', get_of_prefix step.grown at_i⟩,
        ⟨tail', get_of_prefix step.grown at_j⟩, ends⟩
    · rename_i beyond
      obtain ⟨here, rfl⟩ : k = past.length ∧ chain = found := by
        have inside := (List.getElem?_eq_some_iff.mp at_k).1
        have : k - past.length = 0 := by simpa using inside
        rw [this] at at_k
        exact ⟨by omega, Option.some.inj at_k⟩
      subst here
      refine ⟨centerline, forward, reverse, first, last, src, dst, ?_, ?_, ?_, ?_, step.line.2.1,
        ⟨head, step.src_node⟩, ⟨tail, step.dst_node⟩, ?_, ?_⟩
      · rw [step.centerlines, ← count]
        exact List.getElem?_concat_length
      · rw [step.links, ← h.links, List.getElem?_append_right le_rfl, Nat.sub_self]
        rfl
      · rw [step.links, ← h.links, List.getElem?_append_right (Nat.le_add_right _ 1),
          Nat.add_sub_cancel_left]
        rfl
      · rw [step.line.1, count]
      · rw [← count]
        exact ⟨step.along.1, step.along.2.1, step.along.2.2.1⟩
      · rw [← count]
        exact ⟨step.back.1, step.back.2.1, step.back.2.2.1⟩

theorem compile_chains_ok (good : ∀ chain ∈ iterChains b, Compilable b streets chain) :
    ∃ s, compileChains b streets = .ok s ∧ Compiled b (iterChains b) s := by
  unfold compileChains
  refine fold_total (I := fun past s => Compiled b past s) (fun past chain rest s split h => ?_) ?_
  · have listed : chain ∈ iterChains b := by simp [split]
    obtain ⟨roadClass, first, last, s', centerline, forward, reverse, src, dst, classed, head, tail,
      compiled, step⟩ := compile_chain_ok (good chain listed) h.distinct
    refine ⟨s', ?_, h.next head tail step⟩
    rw [classed]
    exact compiled
  · exact ⟨List.nodup_nil, rfl, rfl, rfl, rfl, rfl, rfl, by simp⟩

end Compile

section Preserved

variable {b : StreetTopologyBuilder ℝ} {streets : List GrownStreet} {streetId : ℕ}
  {topology : PreviewCityTopology ℝ} {street : Street} {chain : List ℕ}

theorem mem_iter_chains : (streetId, chain) ∈ iterChains b ↔
    ∃ street ∈ b.streets, street.streetId = streetId ∧ chain ∈ streetChains b street := by
  simp only [iterChains, List.mem_flatMap, List.mem_map, Prod.mk.injEq]
  constructor
  · rintro ⟨street, listed, found, mem, rfl, rfl⟩
    exact ⟨street, listed, rfl, mem⟩
  · rintro ⟨street, listed, rfl, mem⟩
    exact ⟨street, listed, chain, mem, rfl, rfl⟩

/-- Streets move from node to node, and those that have grown are of a class
the generator has a design for. -/
structure Grown (b : StreetTopologyBuilder ℝ) (streets : List GrownStreet) : Prop where
  moves : ∀ street ∈ b.streets, (b.pointsOf street).IsChain (· ≠ ·)
  classed : ∀ street ∈ b.streets, 2 ≤ street.nodeIds.length →
    ∃ roadClass, (classByStreet streets).get street.streetId = some roadClass ∧
      roadClass ≠ .ramp ∧ roadClass ≠ .bridge

theorem Grown.compilable (grown : Grown b streets) (kept : Incidence b) :
    ∀ chain ∈ iterChains b, Compilable b streets chain := by
  rintro ⟨streetId, chain⟩ listed
  obtain ⟨street, mine, rfl, mem⟩ := mem_iter_chains.mp listed
  have long : 2 ≤ street.nodeIds.length := by
    by_contra seed
    rw [street_chains_of_seed seed] at mem
    cases mem
  have spec := street_chains_spec kept mine long
  have stretch := spec.stretch mem
  refine ⟨spec.long chain mem, stretch.sublist.nodup (kept.nodup street mine), ?_,
    grown.classed street mine long⟩
  obtain ⟨before, later, whole⟩ := stretch.map b.pointOf
  have moves := grown.moves street mine
  rw [pointsOf, ← whole] at moves
  exact moves.left_of_append.right_of_append

/-- The compact indices of the nodes between which a street's links run. -/
def compiledNodes (b : StreetTopologyBuilder ℝ) (topology : PreviewCityTopology ℝ)
    (streetId : ℕ) : Set ℤ :=
  {node | ∃ (k : ℕ) (chain : List ℕ), (iterChains b)[k]? = some (streetId, chain) ∧
    ∃ link ∈ topology.links, link.physicalRoadId = k ∧
      (link.srcNodeId = node ∨ link.dstNodeId = node)}

/-- The compiled topology holds each chain once, and nothing else. -/
structure Preserved (b : StreetTopologyBuilder ℝ) (topology : PreviewCityTopology ℝ)
    (usedNodes : List ℕ) : Prop where
  distinct : usedNodes.Nodup
  nodes : topology.nodes = usedNodes.zipIdx.map fun node => ⟨node.2, b.pointOf node.1⟩
  none_dropped : topology.droppedChainCount = 0
  line_count : topology.roadGeometry.centerlines.length = (iterChains b).length
  link_count : topology.links.length = 2 * (iterChains b).length
  emitted : ∀ k chain, (iterChains b)[k]? = some chain →
    ChainEmitted b usedNodes topology.roadGeometry.centerlines topology.links k chain.2
  runs : topology.roadGeometry.assignments.map (fun a => (a.linkId, a.geometryId, a.reversed)) =
    (List.range (iterChains b).length).flatMap fun k : ℕ =>
      [(2 * (k : ℤ), (k : ℤ), false), (2 * (k : ℤ) + 1, (k : ℤ), true)]
  length : (topology.roadGeometry.centerlines.map RoadCenterline.lengthM).sum =
    (b.streets.map b.arcLengthOf).sum

theorem chains_length (kept : Incidence b) (listed : street ∈ b.streets) :
    ((streetChains b street).map fun chain => Scalar.pathLength (chain.map b.pointOf)).sum =
      b.arcLengthOf street := by
  have steps : ∀ nodes : List ℕ, Scalar.pathLength (nodes.map b.pointOf) =
      ((walkSteps nodes).map fun step => Scalar.dist (b.pointOf step.1) (b.pointOf step.2)).sum := by
    intro nodes
    rw [Scalar.path_length_real]
    change ((walkSteps (nodes.map b.pointOf)).map _).sum = _
    rw [walk_steps_map, List.map_map]
    rfl
  unfold arcLengthOf pointsOf
  simp only [steps]
  by_cases grown : 2 ≤ street.nodeIds.length
  · have spec := street_chains_spec kept listed grown
    have filled : ∀ piece ∈ streetChains b street, piece ≠ [] := by
      intro piece mem empty
      have := spec.long piece mem
      simp [empty] at this
    rw [← spec.joined, walk_steps_glue spec.linked filled]
    induction streetChains b street with
    | nil => rfl
    | cons chain chains ih =>
      rw [List.map_cons, List.sum_cons, List.flatMap_cons, List.map_append, List.sum_append, ih]
  · rw [street_chains_of_seed grown]
    match nodes : street.nodeIds with
    | [] | [_] => rfl
    | _ :: _ :: _ => simp [nodes] at grown

theorem catalog_of_compiled {chains : List (ℕ × List ℕ)} {s : Compilation ℝ}
    (h : Compiled b chains s) : ∃ catalog,
      RoadGeometryCatalog.build s.centerlines s.assignments = .ok catalog ∧
      catalog.centerlines = s.centerlines ∧ catalog.assignments = s.assignments := by
  have ordered : ∀ n, ((List.range n).map fun k : ℕ => (k : ℤ)).Pairwise (· < ·) := fun n =>
    List.pairwise_map.mpr (List.pairwise_lt_range.imp fun before => Int.ofNat_lt.mpr before)
  have lines : s.centerlines.Pairwise fun a b => a.geometryId < b.geometryId :=
    List.pairwise_map.mp (h.line_ids ▸ ordered _)
  have runs : s.assignments.Pairwise fun a b => a.linkId < b.linkId :=
    List.pairwise_map.mp (h.run_ids ▸ ordered _)
  have resolves : ∀ a ∈ s.assignments, ∃ c ∈ s.centerlines, c.geometryId = a.geometryId := by
    intro a mem
    have known : a.geometryId ∈ s.centerlines.map RoadCenterline.geometryId := by
      have run : (a.linkId, a.geometryId, a.reversed) ∈
          s.assignments.map fun a => (a.linkId, a.geometryId, a.reversed) :=
        List.mem_map_of_mem mem
      rw [h.runs, List.mem_flatMap] at run
      obtain ⟨k, inside, run⟩ := run
      rw [h.line_ids, List.mem_map]
      refine ⟨k, inside, ?_⟩
      simp only [List.mem_cons, Prod.mk.injEq, List.not_mem_nil, or_false] at run
      rcases run with ⟨-, same, -⟩ | ⟨-, same, -⟩ <;> exact same.symm
    exact List.mem_map.mp known
  have built : ∃ catalog, RoadGeometryCatalog.build s.centerlines s.assignments = .ok catalog ∧
      catalog.centerlines = sortOn RoadCenterline.geometryId s.centerlines ∧
      catalog.assignments = sortOn LinkGeometryAssignment.linkId s.assignments := by
    unfold RoadGeometryCatalog.build
    rw [dif_pos (keys_nodup_of_strict lines), dif_pos (keys_nodup_of_strict runs),
      dif_pos resolves]
    exact ⟨_, rfl, rfl, rfl⟩
  rw [sort_on_eq_self (lines.imp le_of_lt), sort_on_eq_self (runs.imp le_of_lt)] at built
  exact built

theorem compile_preserves (grown : Grown b streets) (kept : Incidence b) :
    ∃ topology usedNodes, compileFromIncidence b streets = .ok topology ∧
      Preserved b topology usedNodes := by
  obtain ⟨s, compiled, h⟩ := compile_chains_ok (grown.compilable kept)
  obtain ⟨catalog, built, lines, runs⟩ := catalog_of_compiled h
  refine ⟨_, s.usedNodes, bind_ok.mpr ⟨s, compiled, bind_ok.mpr ⟨catalog, built, rfl⟩⟩, ?_⟩
  refine ⟨h.distinct, rfl, ?_, ?_, h.links, ?_, ?_, ?_⟩
  · change s.dropped.length = 0
    rw [h.dropped]
    rfl
  · change catalog.centerlines.length = _
    rw [lines, h.line_count]
  · change ∀ (k : ℕ) (chain : ℕ × List ℕ), _ → ChainEmitted b s.usedNodes catalog.centerlines s.links k chain.2
    rw [lines]
    exact h.emitted
  · change catalog.assignments.map _ = _
    rw [runs]
    exact h.runs
  · change (catalog.centerlines.map RoadCenterline.lengthM).sum = _
    have lengths : catalog.centerlines.map RoadCenterline.lengthM =
        (iterChains b).map fun chain => Scalar.pathLength (chain.2.map b.pointOf) := by
      have := congrArg (List.map Scalar.pathLength) h.lines
      rw [List.map_map, List.map_map] at this
      rw [lines]
      exact this
    have by_street : ∀ street ∈ b.streets, (((streetChains b street).map fun chain =>
        (street.streetId, chain)).map fun chain : ℕ × List ℕ =>
          Scalar.pathLength (chain.2.map b.pointOf)).sum = b.arcLengthOf street := by
      intro street listed
      rw [List.map_map]
      exact chains_length kept listed
    rw [lengths, iterChains, List.map_flatMap, List.flatMap_def, List.sum_flatten, List.map_map]
    exact congrArg List.sum (List.map_congr_left by_street)

/-- The links of the centerline at place `k` run between the images of its chain's ends. -/
theorem Preserved.compiled_iff {usedNodes : List ℕ} (h : Preserved b topology usedNodes) {node : ℤ} :
    node ∈ compiledNodes b topology streetId ↔ ∃ chain nodeId, ∃ i : ℕ,
      (streetId, chain) ∈ iterChains b ∧
      (chain.head? = some nodeId ∨ chain.getLast? = some nodeId) ∧
      usedNodes[i]? = some nodeId ∧ node = i := by
  constructor
  · rintro ⟨k, chain, at_k, link, listed, road, ends⟩
    obtain ⟨c, f, r, first, last, src, dst, -, at_f, at_r, -, -, ⟨head, at_src⟩, ⟨tail, at_dst⟩,
      along, back⟩ := h.emitted k _ at_k
    obtain ⟨j, at_j⟩ := List.mem_iff_getElem?.mp listed
    have inside : j < 2 * (iterChains b).length :=
      h.link_count ▸ (List.getElem?_eq_some_iff.mp at_j).1
    have here : j / 2 < (iterChains b).length := by omega
    obtain ⟨c', f', r', _, _, _, _, -, at_f', at_r', -, -, -, -, along', back'⟩ :=
      h.emitted (j / 2) _ (List.getElem?_eq_getElem here)
    have same : link.physicalRoadId = (j / 2 : ℕ) := by
      rcases Nat.mod_two_eq_zero_or_one j with even | odd
      · have : 2 * (j / 2) = j := by omega
        rw [this, at_j] at at_f'
        exact Option.some.inj at_f' ▸ along'.2.2
      · have : 2 * (j / 2) + 1 = j := by omega
        rw [this, at_j] at at_r'
        exact Option.some.inj at_r' ▸ back'.2.2
    have place : j / 2 = k := by
      rw [road] at same
      exact (Nat.cast_inj.mp same).symm
    have runs : (link.srcNodeId = src ∧ link.dstNodeId = dst) ∨
        (link.srcNodeId = dst ∧ link.dstNodeId = src) := by
      rcases Nat.mod_two_eq_zero_or_one j with even | odd
      · have : j = 2 * k := by omega
        rw [this, at_f] at at_j
        exact .inl (Option.some.inj at_j ▸ ⟨along.1, along.2.1⟩)
      · have : j = 2 * k + 1 := by omega
        rw [this, at_r] at at_j
        exact .inr (Option.some.inj at_j ▸ ⟨back.1, back.2.1⟩)
    have mem := List.mem_of_getElem? at_k
    have either : node = src ∨ node = dst := by
      rcases runs with ⟨from_, to_⟩ | ⟨from_, to_⟩ <;> rcases ends with rfl | rfl <;>
        simp [from_, to_]
    rcases either with rfl | rfl
    · exact ⟨chain, first, src, mem, .inl head, at_src, rfl⟩
    · exact ⟨chain, last, dst, mem, .inr tail, at_dst, rfl⟩
  · rintro ⟨chain, nodeId, i, mem, ends, at_i, rfl⟩
    obtain ⟨k, at_k⟩ := List.mem_iff_getElem?.mp mem
    obtain ⟨c, f, r, first, last, src, dst, -, at_f, at_r, -, -, ⟨head, at_src⟩, ⟨tail, at_dst⟩,
      along, back⟩ := h.emitted k _ at_k
    have only : ∀ {j n}, usedNodes[j]? = some n → usedNodes[i]? = some n → j = i := by
      intro j n at_j at_i'
      obtain ⟨inside, same⟩ := List.getElem?_eq_some_iff.mp at_j
      obtain ⟨inside', same'⟩ := List.getElem?_eq_some_iff.mp at_i'
      exact (h.distinct.getElem_inj_iff).mp (same.trans same'.symm)
    refine ⟨k, chain, at_k, f, List.mem_of_getElem? at_f, along.2.2, ?_⟩
    rcases ends with here | here
    · obtain rfl := Option.some.inj (head.symm.trans here)
      exact .inl (along.1.trans (congrArg _ (only at_src at_i)))
    · obtain rfl := Option.some.inj (tail.symm.trans here)
      exact .inr (along.2.1.trans (congrArg _ (only at_dst at_i)))

theorem Preserved.meet_iff {usedNodes : List ℕ} (h : Preserved b topology usedNodes)
    (kept : Incidence b) {other : Street} (listed : street ∈ b.streets) (listed' : other ∈ b.streets)
    (grown : 2 ≤ street.nodeIds.length) (grown' : 2 ≤ other.nodeIds.length)
    (apart : street.streetId ≠ other.streetId) :
    (∃ node, node ∈ compiledNodes b topology street.streetId ∧
      node ∈ compiledNodes b topology other.streetId) ↔
      ∃ nodeId, nodeId ∈ street.nodeIds ∧ nodeId ∈ other.nodeIds := by
  have at_id : ∀ {s : Street}, s ∈ b.streets → b.streets[s.streetId]? = some s := by
    intro s mem
    obtain ⟨i, at_i⟩ := List.mem_iff_getElem?.mp mem
    rw [kept.ids i s at_i]
    exact at_i
  have passes : ∀ {s : Street} {chain nodeId}, s ∈ b.streets → 2 ≤ s.nodeIds.length →
      (s.streetId, chain) ∈ iterChains b →
      chain.head? = some nodeId ∨ chain.getLast? = some nodeId → nodeId ∈ s.nodeIds := by
    intro s chain nodeId mem long mine ends
    obtain ⟨s', mem', same, piece⟩ := mem_iter_chains.mp mine
    obtain rfl : s' = s := by
      have := at_id mem'
      rw [same, at_id mem] at this
      exact (Option.some.inj this).symm
    have within : nodeId ∈ chain := ends.elim List.mem_of_head? List.mem_of_getLast?
    exact ((street_chains_spec kept mem long).stretch piece).subset within
  constructor
  · rintro ⟨node, first, second⟩
    obtain ⟨chain, nodeId, i, mine, ends, at_i, rfl⟩ := h.compiled_iff.mp first
    obtain ⟨chain', nodeId', i', mine', ends', at_i', same⟩ := h.compiled_iff.mp second
    obtain rfl := Nat.cast_inj.mp same
    obtain rfl := Option.some.inj (at_i.symm.trans at_i')
    exact ⟨nodeId, passes listed grown mine ends, passes listed' grown' mine' ends'⟩
  · rintro ⟨nodeId, on, on'⟩
    have junction := shared_is_junction kept apart (at_id listed) (at_id listed') on on'
    obtain ⟨chain, mem, ends⟩ := (street_chains_spec kept listed grown).junction_ends on junction
    obtain ⟨chain', mem', ends'⟩ :=
      (street_chains_spec kept listed' grown').junction_ends on' junction
    have mine := mem_iter_chains.mpr ⟨street, listed, rfl, mem⟩
    have mine' := mem_iter_chains.mpr ⟨other, listed', rfl, mem'⟩
    obtain ⟨k, at_k⟩ := List.mem_iff_getElem?.mp mine
    obtain ⟨_, _, _, first, last, src, dst, -, -, -, -, -, ⟨head, at_src⟩, ⟨tail, at_dst⟩, -, -⟩ :=
      h.emitted k _ at_k
    obtain ⟨i, at_i⟩ : ∃ i, usedNodes[i]? = some nodeId := by
      rcases ends with here | here
      · exact ⟨src, Option.some.inj (head.symm.trans here) ▸ at_src⟩
      · exact ⟨dst, Option.some.inj (tail.symm.trans here) ▸ at_dst⟩
    exact ⟨i, h.compiled_iff.mpr ⟨chain, nodeId, i, mine, ends, at_i, rfl⟩,
      h.compiled_iff.mpr ⟨chain', nodeId, i, mine', ends', at_i, rfl⟩⟩

end Preserved

/-- After any calls, streets that have grown to two nodes and are of a class with a design are
compiled chain by chain: nothing is dropped, every chain becomes one centerline with a link each
way, the length is kept, and streets meet exactly where the builder let them meet. -/
theorem grown_streets_compiled (calls : List (BuilderCall ℝ)) (streets : List GrownStreet)
    (grown : Grown (after calls) streets) :
    (∀ street ∈ (after calls).streets, 2 ≤ street.nodeIds.length →
      Chains (after calls) street (streetChains (after calls) street)) ∧
    ∃ topology usedNodes, compileFromIncidence (after calls) streets = .ok topology ∧
      Preserved (after calls) topology usedNodes ∧
      ∀ street ∈ (after calls).streets, ∀ other ∈ (after calls).streets,
        2 ≤ street.nodeIds.length → 2 ≤ other.nodeIds.length → street.streetId ≠ other.streetId →
        ((∃ node, node ∈ compiledNodes (after calls) topology street.streetId ∧
          node ∈ compiledNodes (after calls) topology other.streetId) ↔
          ∃ nodeId, nodeId ∈ street.nodeIds ∧ nodeId ∈ other.nodeIds) := by
  have kept := incidence_after calls
  obtain ⟨topology, usedNodes, compiled, preserved⟩ := compile_preserves grown kept
  refine ⟨fun street listed long => street_chains_spec kept listed long, topology, usedNodes,
    compiled, preserved, ?_⟩
  exact fun street listed other listed' long long' apart =>
    preserved.meet_iff kept listed listed' long long' apart

/-- A seed that never grew, and a street that starts at it. -/
def seedCalls : List (BuilderCall ℝ) :=
  [.openStreet [(0, 0)] none 0, .openStreet [(0, 0), (1, 0)] (some 0) 0]

def seedClasses : List GrownStreet := [⟨0, .localRoad⟩, ⟨1, .localRoad⟩]

def rampCalls : List (BuilderCall ℝ) := [.openStreet [(0, 0), (1, 0)] none 0]

theorem ramp_refused : compileFromIncidence (after rampCalls) [⟨0, .ramp⟩] =
    .error "<RoadClass.RAMP: 'ramp'>" := by
  have points : (after rampCalls).points = [(0, 0), (1, 0)] := rfl
  have chains : iterChains (after rampCalls) = [(0, [0, 1])] := rfl
  have classed : (classByStreet [⟨0, .ramp⟩]).get 0 = some RoadClass.ramp := by decide
  have long : 0 < Scalar.pathLength (([0, 1] : List ℕ).map (after rampCalls).pointOf) :=
    Scalar.path_length_pos (by simp) (by simp [pointOf, points])
  have refused : Compilation.compileChain (after rampCalls) 0 .ramp {} [0, 1] =
      .error "<RoadClass.RAMP: 'ramp'>" := by
    unfold Compilation.compileChain
    rw [if_neg (not_le.mpr long), if_neg (by simp)]
    unfold Compilation.compilePart
    change (if (0 : ℕ) = 1 then _ else _) = _
    rw [if_neg (by decide), if_neg (not_le.mpr long)]
    rfl
  unfold compileFromIncidence compileChains
  rw [chains, List.foldlM_cons]
  dsimp only
  rw [classed]
  dsimp only
  rw [refused]
  rfl

/-- A street of one node is no chain, so the nodes it shares are not compiled
for it; and there is no design for ramps. -/
theorem seed_and_ramp_not_compiled :
    ((∀ street ∈ (after seedCalls).streets,
        ((after seedCalls).pointsOf street).IsChain (· ≠ ·) ∧
        ((classByStreet seedClasses).get street.streetId).isSome) ∧
      (∃ street ∈ (after seedCalls).streets,
        glue (streetChains (after seedCalls) street) ≠ street.nodeIds) ∧
      ∀ topology, ¬ ((∃ node, node ∈ compiledNodes (after seedCalls) topology 0 ∧
          node ∈ compiledNodes (after seedCalls) topology 1) ↔
        ∃ nodeId, nodeId ∈ (after seedCalls).nodeIdsOf 0 ∧
          nodeId ∈ (after seedCalls).nodeIdsOf 1)) ∧
    (∀ street ∈ (after rampCalls).streets,
      ((after rampCalls).pointsOf street).IsChain (· ≠ ·) ∧
      ((classByStreet [⟨0, .ramp⟩]).get street.streetId).isSome) ∧
    ∀ topology, compileFromIncidence (after rampCalls) [⟨0, .ramp⟩] ≠ .ok topology := by
  have streets : (after seedCalls).streets = [⟨0, [0], 0⟩, ⟨1, [0, 1], 0⟩] := rfl
  have points : (after seedCalls).points = [(0, 0), (1, 0)] := rfl
  have chains : iterChains (after seedCalls) = [(1, [0, 1])] := rfl
  refine ⟨⟨?_, ?_, fun topology both => ?_⟩, ?_, fun topology compiled => ?_⟩
  · rw [streets]
    simp [pointsOf, pointOf, points]
    decide
  · rw [streets]
    exact ⟨_, List.mem_cons_self, by simp [streetChains, glue]⟩
  · obtain ⟨node, ⟨k, chain, at_k, -⟩, -⟩ := both.mpr ⟨0, by decide, by decide⟩
    have mem := List.mem_of_getElem? at_k
    rw [chains] at mem
    simp at mem
  · have streets : (after rampCalls).streets = [⟨0, [0, 1], 0⟩] := rfl
    have points : (after rampCalls).points = [(0, 0), (1, 0)] := rfl
    rw [streets]
    simp [pointsOf, pointOf, points]
    decide
  · rw [ramp_refused] at compiled
    cases compiled

theorem grown_seed : Grown (after seedCalls) seedClasses := by
  have streets : (after seedCalls).streets = [⟨0, [0], 0⟩, ⟨1, [0, 1], 0⟩] := rfl
  have points : (after seedCalls).points = [(0, 0), (1, 0)] := rfl
  constructor
  · rw [streets]
    simp [pointsOf, pointOf, points]
  · rw [streets]
    simp
    exact ⟨.localRoad, by decide, by decide, by decide⟩

theorem seed_streets_compiled : ∃ topology usedNodes,
    compileFromIncidence (after seedCalls) seedClasses = .ok topology ∧
      Preserved (after seedCalls) topology usedNodes := by
  obtain ⟨-, topology, usedNodes, compiled, preserved, -⟩ :=
    grown_streets_compiled seedCalls seedClasses grown_seed
  exact ⟨topology, usedNodes, compiled, preserved⟩

end Metroflow.City
