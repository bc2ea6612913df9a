import Metroflow.City.Segments
import Metroflow.Lib.Loops

namespace Metroflow.City

open Metroflow.Lib

inductive FacilityKind where
  | surface
  | mainline
  | ramp
  | bridge
  | tunnel
  deriving DecidableEq, Repr

structure PhysicalNodeRecord where
  nodeId : ℤ
  semanticId : String
  xMm : ℤ
  yMm : ℤ
  layer : ℤ
  id_nonneg : 0 ≤ nodeId := by decide
  deriving DecidableEq

def PhysicalNodeRecord.pointMm (node : PhysicalNodeRecord) : PointMM := (node.xMm, node.yMm)

/-- A road of the street plan; the fields keep what its constructor checks. -/
@[ext]
structure PhysicalRoadRecord where
  roadId : ℤ
  semanticId : String
  startNodeId : ℤ
  endNodeId : ℤ
  pointsMm : List PointMM
  facility : FacilityKind
  layer : ℤ
  layerTransition : Option (ℤ × ℤ) := none
  ids_nonneg : 0 ≤ roadId ∧ 0 ≤ startNodeId ∧ 0 ≤ endNodeId := by decide
  ends_differ : startNodeId ≠ endNodeId := by decide
  two_points : 2 ≤ pointsMm.length := by decide
  steps_move : pointsMm.IsChain (· ≠ ·) := by decide
  mainline_layer : facility = .mainline → layer = 1 := by decide
  ramp_transition : facility = .ramp ↔ layerTransition.isSome := by decide

instance : DecidableEq PhysicalRoadRecord := fun _ _ => decidable_of_iff _ PhysicalRoadRecord.ext_iff.symm

namespace PhysicalRoadRecord

variable (road : PhysicalRoadRecord)

theorem points_ne_nil : road.pointsMm ≠ [] := by
  intro empty
  have := road.two_points
  rw [empty] at this
  exact absurd this (by decide)

def firstMm : PointMM := road.pointsMm.head road.points_ne_nil

def lastMm : PointMM := road.pointsMm.getLast road.points_ne_nil

def innerMm : List PointMM := road.pointsMm.tail.dropLast

/-- The straight pieces of a road, in order. -/
def pieces : List (PointMM × PointMM) := road.pointsMm.zip road.pointsMm.tail

def canonicalKey : ℤ × ℤ × List PointMM × ℤ :=
  (min road.startNodeId road.endNodeId, max road.startNodeId road.endNodeId,
    if road.startNodeId ≤ road.endNodeId then road.pointsMm else road.pointsMm.reverse, road.layer)

variable {road} {i : ℕ} {a b p : PointMM}

theorem piece_at : road.pieces[i]? = some (a, b) ↔
    road.pointsMm[i]? = some a ∧ road.pointsMm[i + 1]? = some b := by
  unfold pieces
  rw [List.getElem?_zip_eq_some, List.getElem?_tail]

theorem piece_moves (h : road.pieces[i]? = some (a, b)) : a ≠ b := by
  obtain ⟨start, stop⟩ := piece_at.mp h
  obtain ⟨inside, rfl⟩ := List.getElem?_eq_some_iff.mp start
  obtain ⟨inside', rfl⟩ := List.getElem?_eq_some_iff.mp stop
  exact List.isChain_iff_getElem.mp road.steps_move i inside'

theorem point_cases (h : p ∈ road.pointsMm) :
    p = road.firstMm ∨ p = road.lastMm ∨ p ∈ road.innerMm := by
  have split := List.cons_head_tail road.points_ne_nil
  have tail_ne_nil : road.pointsMm.tail ≠ [] := by
    intro empty
    have := congrArg List.length empty
    rw [List.length_tail, List.length_nil] at this
    have := road.two_points
    omega
  rw [← split] at h
  rcases List.mem_cons.mp h with first | later
  · exact .inl first
  · rw [← List.dropLast_append_getLast tail_ne_nil, List.mem_append, List.mem_singleton] at later
    rcases later with inner | last
    · exact .inr (.inr inner)
    · right; left
      rw [last, List.getLast_tail]
      rfl

end PhysicalRoadRecord

structure StructuralAudit where
  isConnected : Bool
  sameLayerProperCrossingCount : ℕ
  tTouchCount : ℕ
  collinearOverlapCount : ℕ
  selfIntersectionCount : ℕ
  nonadjacentWeldCount : ℕ
  duplicateRoadCount : ℕ
  differentLayerFalseJunctionCount : ℕ
  endpointAnchorMismatchCount : ℕ
  centerDisjointGatewayPathCount : ℕ
  riverCrossBankGroupCount : ℕ
  riverGroupRemovalFailures : List String
  deriving DecidableEq, Repr

/-- How many entries of a list have been seen before. -/
def repeats {α : Type*} [DecidableEq α] (l : List α) : ℕ :=
  l.zipIdx.countP fun entry => entry.1 ∈ l.take entry.2

theorem nodup_of_repeats {α : Type*} [DecidableEq α] {l : List α} (h : repeats l = 0) : l.Nodup := by
  unfold repeats at h
  rw [List.countP_eq_zero] at h
  rw [List.nodup_iff_getElem?_ne_getElem?]
  intro i j before inside same
  rw [List.getElem?_eq_getElem inside] at same
  refine h (l[j], j) (List.mk_mem_zipIdx_iff_getElem?.mpr (List.getElem?_eq_getElem inside)) ?_
  rw [decide_eq_true_eq, List.mem_take_iff_getElem]
  obtain ⟨inside', same⟩ := List.getElem?_eq_some_iff.mp same
  exact ⟨i, by omega, same⟩

section Segments

/-- One straight piece of a road, and its place in the road. -/
structure RoadSegment where
  roadId : ℤ
  layer : ℤ
  index : ℕ
  left : PointMM
  right : PointMM
  deriving DecidableEq

def roadSegments (road : PhysicalRoadRecord) : List RoadSegment :=
  road.pieces.zipIdx.map fun entry =>
    ⟨road.roadId, road.layer, entry.2, entry.1.1, entry.1.2⟩

def RoadSegment.cells (s : RoadSegment) : List (ℤ × ℤ) :=
  segmentSupercoverCells s.left s.right 250000

/-- The pairs of entries of a list, the earlier one first. -/
def pairs {α : Type*} : List α → List (α × α)
  | [] => []
  | a :: l => l.map (Prod.mk a) ++ pairs l

/-- The segments of each grid cell, in order. -/
def buckets (segments : List RoadSegment) : List (List (RoadSegment × ℕ)) :=
  (segments.flatMap RoadSegment.cells).dedup.map fun cell =>
    segments.zipIdx.filter fun entry => cell ∈ entry.1.cells

/-- Whether a pair is left alone: on different layers, or neighbours in one road. -/
def pairSkipped (s t : RoadSegment) : Bool :=
  s.layer ≠ t.layer || (s.roadId = t.roadId && |(s.index : ℤ) - t.index| ≤ 1)

def checkedPairs (segments : List RoadSegment) : List (RoadSegment × RoadSegment) :=
  ((((buckets segments).flatMap pairs).dedup.map fun pair => (pair.1.1, pair.2.1)).filter
    fun pair => !pairSkipped pair.1 pair.2)

def pairTouches (s t : RoadSegment) : ℕ :=
  (pointInOpenSegment s.left t.left t.right).toNat +
    (pointInOpenSegment s.right t.left t.right).toNat +
    (pointInOpenSegment t.left s.left s.right).toNat +
    (pointInOpenSegment t.right s.left s.right).toNat

/-- The proper crossings, touches, overlaps and self intersections of the segments. -/
def segmentAudit (segments : List RoadSegment) : ℕ × ℕ × ℕ × ℕ :=
  let checked := checkedPairs segments
  (checked.countP fun pair => pair.1.roadId ≠ pair.2.roadId &&
      properIntersection pair.1.left pair.1.right pair.2.left pair.2.right,
    (checked.map fun pair => pairTouches pair.1 pair.2).sum,
    checked.countP fun pair =>
      collinearOverlap pair.1.left pair.1.right pair.2.left pair.2.right,
    checked.countP fun pair => pair.1.roadId = pair.2.roadId &&
      properIntersection pair.1.left pair.1.right pair.2.left pair.2.right)

theorem mem_pairs {α : Type*} {a b : α} : ∀ {l : List α}, a ∈ l → b ∈ l → a ≠ b →
    (a, b) ∈ pairs l ∨ (b, a) ∈ pairs l
  | c :: l, a_mem, b_mem, apart => by
    unfold pairs
    rcases List.mem_cons.mp a_mem with rfl | a_later <;>
      rcases List.mem_cons.mp b_mem with rfl | b_later
    · exact absurd rfl apart
    · exact .inl (List.mem_append_left _ (List.mem_map_of_mem b_later))
    · exact .inr (List.mem_append_left _ (List.mem_map_of_mem a_later))
    · rcases mem_pairs a_later b_later apart with found | found
      · exact .inl (List.mem_append_right _ found)
      · exact .inr (List.mem_append_right _ found)

theorem pair_skipped_comm (s t : RoadSegment) : pairSkipped s t = pairSkipped t s := by
  unfold pairSkipped
  rw [abs_sub_comm]
  simp only [ne_comm, eq_comm]

theorem mem_checked_pairs {segments : List RoadSegment} {s t : RoadSegment} {i j : ℕ}
    {cell : ℤ × ℤ} (s_at : segments[i]? = some s) (t_at : segments[j]? = some t) (apart : i ≠ j)
    (s_cell : cell ∈ s.cells) (t_cell : cell ∈ t.cells) (kept : pairSkipped s t = false) :
    (s, t) ∈ checkedPairs segments ∨ (t, s) ∈ checkedPairs segments := by
  have listed : cell ∈ (segments.flatMap RoadSegment.cells).dedup :=
    List.mem_dedup.mpr (List.mem_flatMap.mpr ⟨s, List.mem_of_getElem? s_at, s_cell⟩)
  have entry : ∀ {u : RoadSegment} {k : ℕ}, segments[k]? = some u → cell ∈ u.cells →
      (u, k) ∈ segments.zipIdx.filter fun entry => cell ∈ entry.1.cells := by
    intro u k u_at u_cell
    exact List.mem_filter.mpr ⟨List.mk_mem_zipIdx_iff_getElem?.mpr u_at, by simpa using u_cell⟩
  have differ : (s, i) ≠ (t, j) := fun same => apart (congrArg Prod.snd same)
  have compared : ∀ {u v : RoadSegment} {k l : ℕ},
      ((u, k), (v, l)) ∈ pairs (segments.zipIdx.filter fun entry => cell ∈ entry.1.cells) →
      pairSkipped u v = false → (u, v) ∈ checkedPairs segments := by
    intro u v k l found kept
    refine List.mem_filter.mpr ⟨List.mem_map.mpr ⟨((u, k), (v, l)), ?_, rfl⟩, by simp [kept]⟩
    exact List.mem_dedup.mpr (List.mem_flatMap.mpr
      ⟨_, List.mem_map.mpr ⟨cell, listed, rfl⟩, found⟩)
  rcases mem_pairs (entry s_at s_cell) (entry t_at t_cell) differ with found | found
  · exact .inl (compared found kept)
  · exact .inr (compared found (by rw [pair_skipped_comm]; exact kept))

theorem compared_contact {segments : List RoadSegment} {s t : RoadSegment} {x : ℝ × ℝ}
    (clean : segmentAudit segments = (0, 0, 0, 0)) (compared : (s, t) ∈ checkedPairs segments)
    (s_moves : s.left ≠ s.right) (t_moves : t.left ≠ t.right)
    (first : x ∈ segment ℝ (PointMM.toReal s.left) (PointMM.toReal s.right))
    (second : x ∈ segment ℝ (PointMM.toReal t.left) (PointMM.toReal t.right)) :
    (x = PointMM.toReal s.left ∨ x = PointMM.toReal s.right) ∧
      (x = PointMM.toReal t.left ∨ x = PointMM.toReal t.right) := by
  unfold segmentAudit at clean
  simp only [Prod.mk.injEq, List.countP_eq_zero, List.sum_eq_zero_iff] at clean
  obtain ⟨proper, touches, overlaps, selves⟩ := clean
  have proper := proper (s, t) compared
  have selves := selves (s, t) compared
  have overlaps := overlaps (s, t) compared
  have touches := touches (pairTouches s t) (List.mem_map.mpr ⟨(s, t), compared, rfl⟩)
  unfold pairTouches at touches
  simp only [Nat.add_eq_zero_iff, Bool.toNat_eq_zero] at touches
  obtain ⟨⟨⟨touch, touch'⟩, touch''⟩, touch'''⟩ := touches
  have crossing : properIntersection s.left s.right t.left t.right = false := by
    by_cases same : s.roadId = t.roadId
    · simpa [same] using selves
    · simpa [same] using proper
  rcases contact_flagged s_moves t_moves first second with ends | flagged
  · exact ends
  · simp [crossing, touch, touch', touch'', touch''', overlaps] at flagged

theorem checked_contact {segments : List RoadSegment} {s t : RoadSegment} {i j : ℕ} {x : ℝ × ℝ}
    (clean : segmentAudit segments = (0, 0, 0, 0)) (s_at : segments[i]? = some s)
    (t_at : segments[j]? = some t) (apart : i ≠ j) (kept : pairSkipped s t = false)
    (s_moves : s.left ≠ s.right) (t_moves : t.left ≠ t.right)
    (first : x ∈ segment ℝ (PointMM.toReal s.left) (PointMM.toReal s.right))
    (second : x ∈ segment ℝ (PointMM.toReal t.left) (PointMM.toReal t.right)) :
    (x = PointMM.toReal s.left ∨ x = PointMM.toReal s.right) ∧
      (x = PointMM.toReal t.left ∨ x = PointMM.toReal t.right) := by
  have shared : cellOf 250000 x ∈ s.cells := supercover_mem (by decide) first
  have shared' : cellOf 250000 x ∈ t.cells := supercover_mem (by decide) second
  rcases mem_checked_pairs s_at t_at apart shared shared' kept with compared | compared
  · exact compared_contact clean compared s_moves t_moves first second
  · exact (compared_contact clean compared t_moves s_moves second first).symm

theorem skipped_self (s : RoadSegment) : pairSkipped s s = true := by
  simp [pairSkipped]

theorem road_segment_at {road : PhysicalRoadRecord} {i : ℕ} {a b : PointMM}
    (h : road.pieces[i]? = some (a, b)) :
    ⟨road.roadId, road.layer, i, a, b⟩ ∈ roadSegments road :=
  List.mem_map.mpr ⟨((a, b), i), List.mk_mem_zipIdx_iff_getElem?.mpr h, rfl⟩

theorem pieces_contact {roads : List PhysicalRoadRecord} {r s : PhysicalRoadRecord} {i j : ℕ}
    {a b c d : PointMM} {x : ℝ × ℝ}
    (clean : segmentAudit (roads.flatMap roadSegments) = (0, 0, 0, 0))
    (r_mem : r ∈ roads) (s_mem : s ∈ roads) (r_at : r.pieces[i]? = some (a, b))
    (s_at : s.pieces[j]? = some (c, d)) (layers : r.layer = s.layer)
    (apart : r.roadId = s.roadId → i + 1 < j)
    (first : x ∈ segment ℝ (PointMM.toReal a) (PointMM.toReal b))
    (second : x ∈ segment ℝ (PointMM.toReal c) (PointMM.toReal d)) :
    (x = PointMM.toReal a ∨ x = PointMM.toReal b) ∧
      (x = PointMM.toReal c ∨ x = PointMM.toReal d) := by
  have listed := List.mem_flatMap.mpr ⟨r, r_mem, road_segment_at r_at⟩
  have listed' := List.mem_flatMap.mpr ⟨s, s_mem, road_segment_at s_at⟩
  obtain ⟨k, k_at⟩ := List.mem_iff_getElem?.mp listed
  obtain ⟨l, l_at⟩ := List.mem_iff_getElem?.mp listed'
  have kept : pairSkipped ⟨r.roadId, r.layer, i, a, b⟩ ⟨s.roadId, s.layer, j, c, d⟩ = false := by
    have far : r.roadId = s.roadId → 1 < |(i : ℤ) - j| := by
      intro same
      have := apart same
      rw [abs_sub_comm, abs_of_nonneg (by omega)]
      omega
    simpa [pairSkipped, layers] using far
  have differ : k ≠ l := by
    rintro rfl
    rw [Option.some.inj (k_at.symm.trans l_at), skipped_self] at kept
    exact absurd kept (by decide)
  exact checked_contact clean k_at l_at differ kept (PhysicalRoadRecord.piece_moves r_at)
    (PhysicalRoadRecord.piece_moves s_at) first second

end Segments

section Vertices

def nonadjacentWelds (nodes : List PhysicalNodeRecord) : ℕ :=
  let positions := nodes.map fun node => (node.xMm, node.yMm, node.layer)
  (positions.dedup.map fun key => positions.count key * (positions.count key - 1) / 2).sum

def innerOwners (roads : List PhysicalRoadRecord) (key : ℤ × PointMM) : List ℤ :=
  ((roads.filter fun road => road.layer = key.1 ∧ key.2 ∈ road.innerMm).map
    PhysicalRoadRecord.roadId).dedup

def endOwners (roads : List PhysicalRoadRecord) (key : ℤ × PointMM) : List ℤ :=
  roads.flatMap fun road =>
    ([road.firstMm, road.lastMm].filter fun point => (road.layer, point) = key).map
      fun _ => road.roadId

/-- The touches and welds of the roads' vertices. -/
def polylineVertexAudit (roads : List PhysicalRoadRecord) : ℕ × ℕ :=
  let keys := (roads.flatMap fun road => road.innerMm.map (Prod.mk road.layer)).dedup
  ((keys.map fun key => (endOwners roads key).countP (· ∉ innerOwners roads key)).sum,
    (roads.map fun road => repeats road.pointsMm).sum +
      (keys.map fun key =>
        (innerOwners roads key).length * ((innerOwners roads key).length - 1) / 2).sum)

theorem le_one_of_no_pairs {k : ℕ} (h : k * (k - 1) / 2 = 0) : k ≤ 1 := by
  by_contra more
  have two : 2 * 1 ≤ k * (k - 1) := Nat.mul_le_mul (by omega) (by omega)
  omega

theorem nodes_apart {nodes : List PhysicalNodeRecord} (clean : nonadjacentWelds nodes = 0)
    {u v : PhysicalNodeRecord} (u_mem : u ∈ nodes) (v_mem : v ∈ nodes)
    (point : u.pointMm = v.pointMm) (layer : u.layer = v.layer) : u = v := by
  unfold nonadjacentWelds at clean
  rw [List.sum_eq_zero_iff] at clean
  have once : (nodes.map fun node => (node.xMm, node.yMm, node.layer)).Nodup := by
    rw [List.nodup_iff_count_le_one]
    intro key
    by_cases listed : key ∈ nodes.map fun node => (node.xMm, node.yMm, node.layer)
    · exact le_one_of_no_pairs
        (clean _ (List.mem_map.mpr ⟨key, List.mem_dedup.mpr listed, rfl⟩))
    · rw [List.count_eq_zero_of_not_mem listed]
      exact Nat.zero_le 1
  refine List.inj_on_of_nodup_map once u_mem v_mem ?_
  obtain ⟨first, second⟩ := Prod.mk.inj point
  simp only [first, second, layer]

theorem mem_inner_owners {roads : List PhysicalRoadRecord} {key : ℤ × PointMM} {roadId : ℤ} :
    roadId ∈ innerOwners roads key ↔
      ∃ road ∈ roads, (road.layer = key.1 ∧ key.2 ∈ road.innerMm) ∧ road.roadId = roadId := by
  unfold innerOwners
  simp only [List.mem_dedup, List.mem_map, List.mem_filter, decide_eq_true_eq, and_assoc]

variable {roads : List PhysicalRoadRecord} {r s : PhysicalRoadRecord} {p : PointMM}

theorem points_apart (clean : polylineVertexAudit roads = (0, 0)) (r_mem : r ∈ roads) :
    r.pointsMm.Nodup := by
  unfold polylineVertexAudit at clean
  simp only [Prod.mk.injEq, Nat.add_eq_zero_iff, List.sum_eq_zero_iff] at clean
  exact nodup_of_repeats (clean.2.1 _ (List.mem_map.mpr ⟨r, r_mem, rfl⟩))

theorem inner_point_apart (clean : polylineVertexAudit roads = (0, 0)) (r_mem : r ∈ roads)
    (s_mem : s ∈ roads) (apart : r.roadId ≠ s.roadId) (layers : r.layer = s.layer)
    (inner : p ∈ r.innerMm) (point : p ∈ s.pointsMm) : False := by
  unfold polylineVertexAudit at clean
  simp only [Prod.mk.injEq, Nat.add_eq_zero_iff, List.sum_eq_zero_iff] at clean
  obtain ⟨touches, -, welds⟩ := clean
  have listed : (r.layer, p) ∈
      (roads.flatMap fun road => road.innerMm.map (Prod.mk road.layer)).dedup :=
    List.mem_dedup.mpr (List.mem_flatMap.mpr ⟨r, r_mem, List.mem_map_of_mem inner⟩)
  have owner : r.roadId ∈ innerOwners roads (r.layer, p) :=
    mem_inner_owners.mpr ⟨r, r_mem, ⟨rfl, inner⟩, rfl⟩
  have alone := le_one_of_no_pairs (welds _ (List.mem_map.mpr ⟨_, listed, rfl⟩))
  have foreign : s.roadId ∉ innerOwners roads (r.layer, p) := by
    intro owner'
    obtain ⟨k, k_at⟩ := List.mem_iff_getElem.mp owner
    obtain ⟨l, l_at⟩ := List.mem_iff_getElem.mp owner'
    have same : k = l := by
      have := k_at.1
      have := l_at.1
      omega
    subst same
    exact apart (k_at.2.symm.trans l_at.2)
  have no_touch := touches _ (List.mem_map.mpr ⟨_, listed, rfl⟩)
  rw [List.countP_eq_zero] at no_touch
  have ends : p ∈ [s.firstMm, s.lastMm] := by
    rcases PhysicalRoadRecord.point_cases point with rfl | rfl | inner'
    · simp
    · simp
    · exact absurd (mem_inner_owners.mpr ⟨s, s_mem, ⟨layers.symm, inner'⟩, rfl⟩) foreign
  have ending : s.roadId ∈ endOwners roads (r.layer, p) := by
    refine List.mem_flatMap.mpr ⟨s, s_mem, List.mem_map.mpr ⟨p, ?_, rfl⟩⟩
    exact List.mem_filter.mpr ⟨ends, by simp [layers]⟩
  exact no_touch _ ending (by simpa using foreign)

end Vertices

section Audit

variable (nodes : List PhysicalNodeRecord) (roads : List PhysicalRoadRecord)

def nodeById (nodeId : ℤ) : Option PhysicalNodeRecord := nodes.find? (·.nodeId = nodeId)

def anchorMismatches (road : PhysicalRoadRecord) : ℕ :=
  match nodeById nodes road.startNodeId, nodeById nodes road.endNodeId with
  | some start, some stop =>
    (decide (start.pointMm ≠ road.firstMm)).toNat + (decide (stop.pointMm ≠ road.lastMm)).toNat
  | _, _ => 2

def falseLayerJunction (road : PhysicalRoadRecord) : Bool :=
  match nodeById nodes road.startNodeId, nodeById nodes road.endNodeId with
  | some start, some stop =>
    match road.facility, road.layerTransition with
    | .ramp, some transition =>
      ({start.layer, stop.layer} : Finset ℤ) ≠ {transition.1, transition.2}
    | .ramp, none => true
    | _, _ => start.layer ≠ road.layer || stop.layer ≠ road.layer
  | _, _ => false

/-- The roads at a node, among those whose ends are both known. -/
def incidence (nodeId : ℤ) : List PhysicalRoadRecord :=
  roads.filter fun road => (nodeById nodes road.startNodeId).isSome &&
    (nodeById nodes road.endNodeId).isSome &&
    (road.startNodeId = nodeId || road.endNodeId = nodeId)

/-- Adds the node across a road to those seen and to the queue, unless it was seen before. -/
def seeAcross (nodeId : ℤ) (front : List ℤ × List ℤ) (road : PhysicalRoadRecord) :
    List ℤ × List ℤ :=
  let other := if road.startNodeId = nodeId then road.endNodeId else road.startNodeId
  if other ∈ front.1 then front else (other :: front.1, front.2 ++ [other])

/-- Takes one node off the queue and adds its unseen neighbours. -/
def connectStep (front : List ℤ × List ℤ) : Option (List ℤ × List ℤ) :=
  match front.2 with
  | [] => none
  | nodeId :: queue =>
    some ((incidence nodes roads nodeId).foldl (seeAcross nodeId) (front.1, queue))

def isConnected : Bool :=
  match nodes with
  | [] => false
  | node :: _ =>
    (loop (connectStep nodes roads) nodes.length ([node.nodeId], [node.nodeId])).1.length =
      nodes.length

variable {nodes roads}

theorem node_by_id {nodeId : ℤ} {node : PhysicalNodeRecord}
    (h : nodeById nodes nodeId = some node) : node ∈ nodes ∧ node.nodeId = nodeId := by
  unfold nodeById at h
  exact ⟨List.mem_of_find?_eq_some h, by simpa using List.find?_some h⟩

variable (nodes roads)

/-- Counts the faults of a street plan. -/
def auditPhysicalRecords : Except String StructuralAudit := do
  raiseIf (¬ (nodes.map PhysicalNodeRecord.nodeId).Nodup ∨
    ¬ (nodes.map PhysicalNodeRecord.semanticId).Nodup) "duplicate node dense or semantic id"
  raiseIf (¬ (roads.map PhysicalRoadRecord.roadId).Nodup ∨
    ¬ (roads.map PhysicalRoadRecord.semanticId).Nodup) "duplicate road dense or semantic id"
  let (proper, touches, overlaps, selfIntersections) := segmentAudit (roads.flatMap roadSegments)
  let (vertexTouches, vertexWelds) := polylineVertexAudit roads
  return {
    isConnected := isConnected nodes roads
    sameLayerProperCrossingCount := proper
    tTouchCount := touches + vertexTouches
    collinearOverlapCount := overlaps
    selfIntersectionCount := selfIntersections
    nonadjacentWeldCount := nonadjacentWelds nodes + vertexWelds
    duplicateRoadCount := repeats (roads.map PhysicalRoadRecord.canonicalKey)
    differentLayerFalseJunctionCount := roads.countP (falseLayerJunction nodes)
    endpointAnchorMismatchCount := (roads.map (anchorMismatches nodes)).sum
    centerDisjointGatewayPathCount := 0
    riverCrossBankGroupCount := 0
    riverGroupRemovalFailures := [] }

end Audit

section Sound

variable {nodes : List PhysicalNodeRecord} {roads : List PhysicalRoadRecord}
  {r s : PhysicalRoadRecord} {p : PointMM} {x : ℝ × ℝ}

def PhysicalRoadRecord.EndsAt (road : PhysicalRoadRecord) (node : PhysicalNodeRecord) : Prop :=
  road.startNodeId = node.nodeId ∧ road.firstMm = node.pointMm ∨
    road.endNodeId = node.nodeId ∧ road.lastMm = node.pointMm

/-- The points of the plane on a road. -/
def PhysicalRoadRecord.course (road : PhysicalRoadRecord) : Set (ℝ × ℝ) :=
  {x | ∃ piece ∈ road.pieces,
    x ∈ segment ℝ (PointMM.toReal piece.1) (PointMM.toReal piece.2)}

/-- No fault is counted. -/
def StructuralAudit.Clean (audit : StructuralAudit) : Prop :=
  audit.sameLayerProperCrossingCount = 0 ∧ audit.tTouchCount = 0 ∧
    audit.collinearOverlapCount = 0 ∧ audit.selfIntersectionCount = 0 ∧
    audit.nonadjacentWeldCount = 0 ∧ audit.duplicateRoadCount = 0 ∧
    audit.differentLayerFalseJunctionCount = 0 ∧ audit.endpointAnchorMismatchCount = 0

instance (audit : StructuralAudit) : Decidable audit.Clean := by
  unfold StructuralAudit.Clean
  infer_instance

/-- What a clean audit found. -/
structure Audited (nodes : List PhysicalNodeRecord) (roads : List PhysicalRoadRecord) : Prop where
  unique : (roads.map PhysicalRoadRecord.roadId).Nodup
  segments : segmentAudit (roads.flatMap roadSegments) = (0, 0, 0, 0)
  vertices : polylineVertexAudit roads = (0, 0)
  welds : nonadjacentWelds nodes = 0
  layers : ∀ road ∈ roads, falseLayerJunction nodes road = false
  anchors : ∀ road ∈ roads, anchorMismatches nodes road = 0

theorem audited {audit : StructuralAudit} (ok : auditPhysicalRecords nodes roads = .ok audit)
    (clean : audit.Clean) : Audited nodes roads := by
  unfold auditPhysicalRecords at ok
  rw [bind_ok] at ok
  obtain ⟨_, -, ok⟩ := ok
  rw [bind_ok] at ok
  obtain ⟨_, unique, ok⟩ := ok
  rw [raise_if_ok] at unique
  rw [pure_ok] at ok
  subst ok
  obtain ⟨proper, touches, overlaps, selves, welds, -, layers, anchors⟩ := clean
  dsimp only at proper touches overlaps selves welds layers anchors
  rw [Nat.add_eq_zero_iff] at touches welds
  rw [List.countP_eq_zero] at layers
  rw [List.sum_eq_zero_iff] at anchors
  exact {
    unique := by
      rw [not_or, not_not] at unique
      exact unique.1
    segments := Prod.ext proper (Prod.ext touches.1 (Prod.ext overlaps selves))
    vertices := Prod.ext touches.2 welds.2
    welds := welds.1
    layers := fun road listed => by simpa using layers road listed
    anchors := fun road listed => anchors _ (List.mem_map_of_mem listed) }

theorem Audited.end_node (h : Audited nodes roads) (r_mem : r ∈ roads)
    (ends : p = r.firstMm ∨ p = r.lastMm) :
    ∃ node ∈ nodes, r.EndsAt node ∧ node.pointMm = p ∧
      (r.facility ≠ .ramp → node.layer = r.layer) := by
  have anchors := h.anchors r r_mem
  have layers := h.layers r r_mem
  unfold anchorMismatches at anchors
  unfold falseLayerJunction at layers
  split at anchors
  · rename_i start stop start_eq stop_eq
    rw [start_eq, stop_eq] at layers
    dsimp only at layers
    simp only [Nat.add_eq_zero_iff, Bool.toNat_eq_zero, decide_eq_false_iff_not, not_not] at anchors
    have start_node := node_by_id start_eq
    have stop_node := node_by_id stop_eq
    have level : r.facility ≠ .ramp → start.layer = r.layer ∧ stop.layer = r.layer := by
      intro street
      split at layers
      · exact absurd ‹_› street
      · exact absurd ‹_› street
      · simpa using layers
    rcases ends with rfl | rfl
    · exact ⟨start, start_node.1, .inl ⟨start_node.2.symm, anchors.1.symm⟩, anchors.1,
        fun street => (level street).1⟩
    · exact ⟨stop, stop_node.1, .inr ⟨stop_node.2.symm, anchors.2.symm⟩, anchors.2,
        fun street => (level street).2⟩
  · cases anchors

theorem Audited.roads_meet (h : Audited nodes roads) (r_mem : r ∈ roads) (s_mem : s ∈ roads)
    (differ : r ≠ s) (layers : r.layer = s.layer) (first : x ∈ r.course) (second : x ∈ s.course) :
    ∃ p, PointMM.toReal p = x ∧ (p = r.firstMm ∨ p = r.lastMm) ∧
      (p = s.firstMm ∨ p = s.lastMm) := by
  obtain ⟨⟨a, b⟩, r_piece, first⟩ := first
  obtain ⟨⟨c, d⟩, s_piece, second⟩ := second
  obtain ⟨i, r_at⟩ := List.mem_iff_getElem?.mp r_piece
  obtain ⟨j, s_at⟩ := List.mem_iff_getElem?.mp s_piece
  have apart : r.roadId ≠ s.roadId :=
    fun same => differ (List.inj_on_of_nodup_map h.unique r_mem s_mem same)
  obtain ⟨r_end, s_end⟩ := pieces_contact h.segments r_mem s_mem r_at s_at layers
    (fun same => absurd same apart) first second
  have vertex : ∀ {road : PhysicalRoadRecord} {k : ℕ} {u v : PointMM},
      road.pieces[k]? = some (u, v) → x = PointMM.toReal u ∨ x = PointMM.toReal v →
      ∃ p ∈ road.pointsMm, PointMM.toReal p = x := by
    intro road k u v piece ends
    obtain ⟨start, stop⟩ := PhysicalRoadRecord.piece_at.mp piece
    rcases ends with rfl | rfl
    · exact ⟨u, List.mem_of_getElem? start, rfl⟩
    · exact ⟨v, List.mem_of_getElem? stop, rfl⟩
  obtain ⟨p, p_mem, p_eq⟩ := vertex r_at r_end
  obtain ⟨q, q_mem, q_eq⟩ := vertex s_at s_end
  obtain rfl := to_real_inj (p_eq.trans q_eq.symm)
  refine ⟨p, p_eq, ?_, ?_⟩
  · rcases PhysicalRoadRecord.point_cases p_mem with start | stop | inner
    · exact .inl start
    · exact .inr stop
    · exact (inner_point_apart h.vertices r_mem s_mem apart layers inner q_mem).elim
  · rcases PhysicalRoadRecord.point_cases q_mem with start | stop | inner
    · exact .inl start
    · exact .inr stop
    · exact (inner_point_apart h.vertices s_mem r_mem apart.symm layers.symm inner p_mem).elim

/-- The first or the last piece of a road lies back over the piece next to it. -/
def PhysicalRoadRecord.EndFold (road : PhysicalRoadRecord) (i : ℕ) (a b c : PointMM) : Prop :=
  i = 0 ∧ PointMM.toReal a ∈ openSegment ℝ (PointMM.toReal b) (PointMM.toReal c) ∨
    i + 2 = road.pieces.length ∧
      PointMM.toReal c ∈ openSegment ℝ (PointMM.toReal a) (PointMM.toReal b)

theorem Audited.pieces_disjoint (h : Audited nodes roads) (r_mem : r ∈ roads) {i j : ℕ}
    {a b c d : PointMM} (i_at : r.pieces[i]? = some (a, b)) (j_at : r.pieces[j]? = some (c, d))
    (apart : i + 1 < j) (first : x ∈ segment ℝ (PointMM.toReal a) (PointMM.toReal b))
    (second : x ∈ segment ℝ (PointMM.toReal c) (PointMM.toReal d)) : False := by
  obtain ⟨first_end, second_end⟩ :=
    pieces_contact h.segments r_mem r_mem i_at j_at rfl (fun _ => apart) first second
  have once := List.nodup_iff_getElem?_ne_getElem?.mp (points_apart h.vertices r_mem)
  obtain ⟨a_at, b_at⟩ := PhysicalRoadRecord.piece_at.mp i_at
  obtain ⟨c_at, d_at⟩ := PhysicalRoadRecord.piece_at.mp j_at
  have vertices : ∀ {k l : ℕ} {p q : PointMM}, k < l → r.pointsMm[k]? = some p →
      r.pointsMm[l]? = some q → x = PointMM.toReal p → x = PointMM.toReal q → False := by
    intro k l p q before p_at q_at p_eq q_eq
    obtain rfl := to_real_inj (p_eq.symm.trans q_eq)
    exact once k l before (List.getElem?_eq_some_iff.mp q_at).1 (p_at.trans q_at.symm)
  rcases first_end with at_a | at_b <;> rcases second_end with at_c | at_d
  · exact vertices (by omega) a_at c_at at_a at_c
  · exact vertices (by omega) a_at d_at at_a at_d
  · exact vertices (by omega) b_at c_at at_b at_c
  · exact vertices (by omega) b_at d_at at_b at_d

theorem Audited.joint (h : Audited nodes roads) (r_mem : r ∈ roads) {i : ℕ} {a b c : PointMM}
    (i_at : r.pieces[i]? = some (a, b)) (j_at : r.pieces[i + 1]? = some (b, c))
    (first : x ∈ segment ℝ (PointMM.toReal a) (PointMM.toReal b))
    (second : x ∈ segment ℝ (PointMM.toReal b) (PointMM.toReal c)) :
    x = PointMM.toReal b ∨ r.EndFold i a b c := by
  have once := List.nodup_iff_getElem?_ne_getElem?.mp (points_apart h.vertices r_mem)
  obtain ⟨a_at, b_at⟩ := PhysicalRoadRecord.piece_at.mp i_at
  obtain ⟨-, c_at⟩ := PhysicalRoadRecord.piece_at.mp j_at
  have ends_apart : PointMM.toReal a ≠ PointMM.toReal c := by
    intro same
    obtain rfl := to_real_inj same
    exact once i (i + 1 + 1) (by omega) (List.getElem?_eq_some_iff.mp c_at).1 (a_at.trans c_at.symm)
  -- a fold away from the ends is seen by the piece on the other side of the folded one
  have fold_back : PointMM.toReal c ∈ openSegment ℝ (PointMM.toReal a) (PointMM.toReal b) →
      r.EndFold i a b c := by
    intro inside
    refine .inr ⟨?_, inside⟩
    cases next : r.pieces[i + 2]? with
    | none =>
      have beyond := List.getElem?_eq_none_iff.mp next
      have within := (List.getElem?_eq_some_iff.mp j_at).1
      omega
    | some piece =>
      obtain ⟨u, v⟩ := piece
      obtain ⟨u_at, -⟩ := PhysicalRoadRecord.piece_at.mp next
      obtain rfl := Option.some.inj (c_at.symm.trans u_at)
      exact (h.pieces_disjoint r_mem i_at next (by omega) (openSegment_subset_segment ℝ _ _ inside)
        (left_mem_segment ℝ _ _)).elim
  have fold_ahead : PointMM.toReal a ∈ openSegment ℝ (PointMM.toReal b) (PointMM.toReal c) →
      r.EndFold i a b c := by
    intro inside
    refine .inl ⟨?_, inside⟩
    cases i with
    | zero => rfl
    | succ k =>
      cases before : r.pieces[k]? with
      | none =>
        have beyond := List.getElem?_eq_none_iff.mp before
        have within := (List.getElem?_eq_some_iff.mp i_at).1
        omega
      | some piece =>
        obtain ⟨u, v⟩ := piece
        obtain ⟨-, v_at⟩ := PhysicalRoadRecord.piece_at.mp before
        obtain rfl := Option.some.inj (a_at.symm.trans v_at)
        exact (h.pieces_disjoint r_mem before j_at (by omega) (right_mem_segment ℝ _ _)
          (openSegment_subset_segment ℝ _ _ inside)).elim
  rcases mem_segment_cases.mp first with rfl | rfl | inner
  · rcases mem_segment_cases.mp second with same | same | inside
    · exact .inl same
    · exact absurd same ends_apart
    · exact .inr (fold_ahead inside)
  · exact .inl rfl
  · rcases mem_segment_cases.mp second with same | rfl | inner'
    · exact .inl same
    · exact .inr (fold_back inner)
    · rcases overlap_from_end inner inner' with same | inside | inside
      · exact absurd same ends_apart
      · exact .inr (fold_back inside)
      · exact .inr (fold_ahead inside)

/-- In a plan with a clean audit, two roads on one layer meet only where both end, at one node or,
for a ramp, at nodes of two layers; and the pieces of a road meet only at their joints, unless its
first or last piece folds back. -/
theorem clean_audit_simple {audit : StructuralAudit}
    (ok : auditPhysicalRecords nodes roads = .ok audit) (clean : audit.Clean) :
    (∀ r ∈ roads, ∀ s ∈ roads, r ≠ s → r.layer = s.layer → ∀ x ∈ r.course, x ∈ s.course →
      ∃ u ∈ nodes, ∃ v ∈ nodes, PointMM.toReal u.pointMm = x ∧ PointMM.toReal v.pointMm = x ∧
        r.EndsAt u ∧ s.EndsAt v ∧
        (u = v ∨ u.layer ≠ v.layer ∧ (r.facility = .ramp ∨ s.facility = .ramp))) ∧
    ∀ r ∈ roads, ∀ (i j : ℕ) (a b c d : PointMM), i < j → r.pieces[i]? = some (a, b) →
      r.pieces[j]? = some (c, d) → ∀ x ∈ segment ℝ (PointMM.toReal a) (PointMM.toReal b),
      x ∈ segment ℝ (PointMM.toReal c) (PointMM.toReal d) →
      j = i + 1 ∧ (x = PointMM.toReal b ∨ r.EndFold i a b d) := by
  have found := audited ok clean
  constructor
  · intro r r_mem s s_mem differ layers x first second
    obtain ⟨p, p_eq, r_end, s_end⟩ := found.roads_meet r_mem s_mem differ layers first second
    obtain ⟨u, u_mem, r_ends, u_eq, r_level⟩ := found.end_node r_mem r_end
    obtain ⟨v, v_mem, s_ends, v_eq, s_level⟩ := found.end_node s_mem s_end
    refine ⟨u, u_mem, v, v_mem, by rw [u_eq, p_eq], by rw [v_eq, p_eq], r_ends, s_ends, ?_⟩
    by_cases level : u.layer = v.layer
    · exact .inl (nodes_apart found.welds u_mem v_mem (u_eq.trans v_eq.symm) level)
    · refine .inr ⟨level, ?_⟩
      by_contra streets
      obtain ⟨r_street, s_street⟩ := not_or.mp streets
      exact level ((r_level r_street).trans (layers.trans (s_level s_street).symm))
  · intro r r_mem i j a b c d before i_at j_at x first second
    by_cases next : j = i + 1
    · subst next
      obtain ⟨-, b_at⟩ := PhysicalRoadRecord.piece_at.mp i_at
      obtain ⟨c_at, -⟩ := PhysicalRoadRecord.piece_at.mp j_at
      obtain rfl := Option.some.inj (b_at.symm.trans c_at)
      exact ⟨rfl, found.joint r_mem i_at j_at first second⟩
    · exact (found.pieces_disjoint r_mem i_at j_at (by omega) first second).elim

def digestOf (c : Char) : String := String.ofList (List.replicate 64 c)

/-- A street that runs back over itself, and a ramp that comes up from below its start. -/
def foldedNodes : List PhysicalNodeRecord :=
  [{ nodeId := 0, semanticId := digestOf '0', xMm := 0, yMm := 0, layer := 1 },
    { nodeId := 1, semanticId := digestOf '1', xMm := 1000, yMm := 0, layer := 1 },
    { nodeId := 2, semanticId := digestOf '2', xMm := 0, yMm := 0, layer := 0 },
    { nodeId := 3, semanticId := digestOf '3', xMm := 0, yMm := 5000, layer := 1 }]

def foldedStreet : PhysicalRoadRecord where
  roadId := 0
  semanticId := digestOf 'a'
  startNodeId := 0
  endNodeId := 1
  pointsMm := [(0, 0), (2000, 0), (1000, 0)]
  facility := .surface
  layer := 1

def risingRamp : PhysicalRoadRecord where
  roadId := 1
  semanticId := digestOf 'b'
  startNodeId := 2
  endNodeId := 3
  pointsMm := [(0, 0), (0, 5000)]
  facility := .ramp
  layer := 1
  layerTransition := some (0, 1)

def sideStreet : PhysicalRoadRecord where
  roadId := 2
  semanticId := digestOf 'c'
  startNodeId := 3
  endNodeId := 0
  pointsMm := [(0, 5000), (-1000, 2500), (0, 0)]
  facility := .surface
  layer := 1

def foldedRoads : List PhysicalRoadRecord := [foldedStreet, risingRamp, sideStreet]

theorem clean_audit_simple_at_ramp : ∃ audit,
    auditPhysicalRecords foldedNodes foldedRoads = .ok audit ∧ audit.Clean ∧
    ∀ x ∈ risingRamp.course, x ∈ sideStreet.course →
      ∃ u ∈ foldedNodes, ∃ v ∈ foldedNodes, PointMM.toReal u.pointMm = x ∧
        PointMM.toReal v.pointMm = x ∧ risingRamp.EndsAt u ∧ sideStreet.EndsAt v ∧
        (u = v ∨ u.layer ≠ v.layer ∧ (risingRamp.facility = .ramp ∨ sideStreet.facility = .ramp)) := by
  obtain ⟨audit, ok, clean⟩ : ∃ audit,
      auditPhysicalRecords foldedNodes foldedRoads = .ok audit ∧ audit.Clean :=
    ⟨_, rfl, by decide +kernel⟩
  exact ⟨audit, ok, clean, (clean_audit_simple ok clean).1 risingRamp (by decide) sideStreet
    (by decide) (by decide) (by decide)⟩

/-- The audit of this plan is clean: the street and the ramp meet without a common node, and the
street's two pieces share half of its length. -/
theorem clean_audit_with_fold : ∃ audit, auditPhysicalRecords foldedNodes foldedRoads = .ok audit ∧
    audit.Clean ∧
    (foldedStreet ≠ risingRamp ∧ foldedStreet.layer = risingRamp.layer ∧
      PointMM.toReal (0, 0) ∈ foldedStreet.course ∧ PointMM.toReal (0, 0) ∈ risingRamp.course ∧
      ∀ node ∈ foldedNodes, ¬ (foldedStreet.EndsAt node ∧ risingRamp.EndsAt node)) ∧
    ∃ x : ℝ × ℝ, foldedStreet.pieces = [((0, 0), (2000, 0)), ((2000, 0), (1000, 0))] ∧
      x ∈ segment ℝ (PointMM.toReal (0, 0)) (PointMM.toReal (2000, 0)) ∧
      x ∈ segment ℝ (PointMM.toReal (2000, 0)) (PointMM.toReal (1000, 0)) ∧
      x ≠ PointMM.toReal (2000, 0) := by
  refine ⟨_, rfl, by decide +kernel, ⟨by decide, rfl, ?_, ?_, ?_⟩, PointMM.toReal (1000, 0), rfl, ?_,
    right_mem_segment ℝ _ _, ?_⟩
  · exact ⟨((0, 0), (2000, 0)), by decide, left_mem_segment ℝ _ _⟩
  · exact ⟨((0, 0), (0, 5000)), by decide, left_mem_segment ℝ _ _⟩
  · unfold PhysicalRoadRecord.EndsAt
    decide
  · refine openSegment_subset_segment ℝ _ _ (mem_open_segment.mpr ⟨1 / 2, ?_⟩)
    norm_num [PointMM.toReal]
  · intro same
    exact absurd (to_real_inj same) (by decide)

end Sound

end Metroflow.City
