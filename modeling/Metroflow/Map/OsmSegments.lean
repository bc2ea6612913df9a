import Metroflow.Map.OsmPieces

namespace Metroflow.Map.Osm

open Metroflow.Lib

section Simplify

variable {points : List (PointM ℝ)} {start stop point : PointM ℝ} {toleranceM : ℝ}

theorem segment_distance_nonneg : 0 ≤ pointToSegmentDistance point start stop := by
  unfold pointToSegmentDistance
  dsimp only
  split <;> exact Real.sqrt_nonneg _

theorem farthest_inside (inner : 2 < points.length) : 0 < (farthest start stop points).1 ∧
    (farthest start stop points).1 + 1 < points.length := by
  have places : ∀ item ∈ points.tail.dropLast.zipIdx 1, 0 < item.2 ∧ item.2 + 1 < points.length := by
    intro item listed
    obtain ⟨low, high, -⟩ := List.mem_zipIdx listed
    rw [List.length_dropLast, List.length_tail] at high
    omega
  have kept : ∀ (items : List (PointM ℝ × ℕ)) (best : ℕ × ℝ),
      (∀ item ∈ items, 0 < item.2 ∧ item.2 + 1 < points.length) →
      0 < best.1 ∧ best.1 + 1 < points.length →
      let last := items.foldl (fun best item =>
        let distance := pointToSegmentDistance item.1 start stop
        if best.2 < distance then (item.2, distance) else best) best
      0 < last.1 ∧ last.1 + 1 < points.length := by
    intro items
    induction items with
    | nil => exact fun _ _ here => here
    | cons item items ih =>
      intro best inside here
      obtain ⟨first, inside⟩ := List.forall_mem_cons.mp inside
      rw [List.foldl_cons]
      refine ih _ inside ?_
      dsimp only
      split
      · exact first
      · exact here
  unfold farthest
  cases items : points.tail.dropLast.zipIdx 1 with
  | nil =>
    have := congrArg List.length items
    rw [List.length_zipIdx, List.length_dropLast, List.length_tail, List.length_nil] at this
    omega
  | cons item items' =>
    rw [items] at places
    obtain ⟨first, later⟩ := List.forall_mem_cons.mp places
    have farther : (-1 : ℝ) < pointToSegmentDistance item.1 start stop :=
      neg_one_lt_zero.trans_le segment_distance_nonneg
    rw [List.foldl_cons, if_pos farther]
    exact kept items' _ later first

theorem simplify_spec (toleranceM : ℝ) (long : 2 ≤ points.length) :
    2 ≤ (simplifyPolyline toleranceM points).length ∧
      (simplifyPolyline toleranceM points).head? = points.head? ∧
      (simplifyPolyline toleranceM points).getLast? = points.getLast? := by
  fun_induction simplifyPolyline toleranceM points with
  | case1 points kept => exact ⟨long, rfl, rfl⟩
  | case2 points inner start stop best near =>
    have filled : points ≠ [] := List.ne_nil_of_length_pos (by omega)
    refine ⟨le_rfl, ?_, ?_⟩
    · change some (points.headD (0, 0)) = _
      rw [List.headD_eq_head?_getD, List.head?_eq_some_head filled, Option.getD_some]
    · change some (points.getLastD (0, 0)) = _
      rw [List.getLast?_eq_getLast_of_ne_nil filled, List.getLastD_eq_getLast?,
        List.getLast?_eq_getLast_of_ne_nil filled, Option.getD_some]
  | case3 points inner start stop best far inside ih_left ih_right =>
    obtain ⟨left_long, left_start, -⟩ := ih_left (by rw [List.length_take]; omega)
    obtain ⟨right_long, -, right_stop⟩ := ih_right (by rw [List.length_drop]; omega)
    set left := simplifyPolyline toleranceM (points.take (best.1 + 1))
    set right := simplifyPolyline toleranceM (points.drop best.1)
    have left_filled : left.dropLast ≠ [] :=
      List.ne_nil_of_length_pos (by rw [List.length_dropLast]; omega)
    have right_filled : right ≠ [] := List.ne_nil_of_length_pos (by omega)
    refine ⟨by rw [List.length_append]; omega, ?_, ?_⟩
    · rw [List.head?_append_of_ne_nil _ left_filled, List.head?_dropLast, if_pos (by omega),
        left_start, List.head?_take, if_neg (by omega)]
    · rw [List.getLast?_append_of_ne_nil _ right_filled, right_stop, List.getLast?_drop,
        if_neg (by omega)]
  | case4 points inner start stop best far outside =>
    exact absurd (farthest_inside (by omega)) outside

theorem simplify_untouched (exact_line : toleranceM ≤ 0) :
    simplifyPolyline toleranceM points = points := by
  rw [simplifyPolyline, if_pos (.inl exact_line)]

end Simplify

section Roads

variable {K : Type} [Scalar K]

/-- Where a source node lies. -/
def pointOf (projected : Dict ℤ (PointM K)) (nodeId : ℤ) : PointM K :=
  (projected.get nodeId).getD (0, 0)

/-- A piece in the direction of travel. -/
def drawn (oneway : Oneway) (piece : List ℤ) : List ℤ :=
  if oneway = .reverse then piece.reverse else piece

variable (config : ImportConfig K) (projected : Dict ℤ (PointM K))

def lineOf (oneway : Oneway) (piece : List ℤ) : List (PointM K) :=
  simplifyPolyline config.simplifyToleranceM ((drawn oneway piece).map (pointOf projected))

def segmentOf (way : Way) (attributes : WayAttributes K) (partIndex : ℕ) (piece : List ℤ) :
    PhysicalSegment K where
  sourceWayId := way.sourceId
  partIndex := partIndex
  fragmentIndex := 0
  pointsM := lineOf config projected attributes.oneway piece
  roadClass := attributes.roadClass
  lanesForward := attributes.lanes.forward
  lanesBackward := attributes.lanes.backward
  speedMps := attributes.speedMps
  layer := attributes.layer
  startNodeIdentity := .osm ((drawn attributes.oneway piece).headD 0)
  endNodeIdentity := .osm ((drawn attributes.oneway piece).getLastD 0)

theorem length_drawn {oneway : Oneway} {piece : List ℤ} : (drawn oneway piece).length = piece.length := by
  unfold drawn
  split
  · exact List.length_reverse
  · rfl

end Roads

section Segments

variable {config : ImportConfig ℝ} {projected : Dict ℤ (PointM ℝ)} {way : Way}
  {attributes : WayAttributes ℝ} {partIndex : ℕ} {piece : List ℤ} {points : List (PointM ℝ)}

theorem points_close_self {point : PointM ℝ} : pointsClose point point := ⟨.inl rfl, .inl rfl⟩

theorem ends_map_points (projected : Dict ℤ (PointM ℝ)) {u : List ℤ} (filled : u ≠ []) :
    (u.map (pointOf projected)).head? = some (pointOf projected (u.headD 0)) ∧
      (u.map (pointOf projected)).getLast? = some (pointOf projected (u.getLastD 0)) := by
  constructor
  · rw [List.head?_map, List.headD_eq_head?_getD, List.head?_eq_some_head filled, Option.map_some,
      Option.getD_some]
  · rw [List.getLast?_map, List.getLastD_eq_getLast?, List.getLast?_eq_getLast_of_ne_nil filled,
      Option.map_some, Option.getD_some]

theorem line_spec (config : ImportConfig ℝ) (projected : Dict ℤ (PointM ℝ)) (oneway : Oneway)
    (long : 2 ≤ piece.length) :
    2 ≤ (lineOf config projected oneway piece).length ∧
      (lineOf config projected oneway piece).head? =
        some (pointOf projected ((drawn oneway piece).headD 0)) ∧
      (lineOf config projected oneway piece).getLast? =
        some (pointOf projected ((drawn oneway piece).getLastD 0)) := by
  have length : 2 ≤ (drawn oneway piece).length := length_drawn.symm ▸ long
  obtain ⟨start, stop⟩ := ends_map_points projected
    (List.ne_nil_of_length_pos (by omega) : drawn oneway piece ≠ [])
  obtain ⟨line_long, same_start, same_stop⟩ := simplify_spec config.simplifyToleranceM
    (show 2 ≤ ((drawn oneway piece).map (pointOf projected)).length by
      rw [List.length_map]
      exact length)
  exact ⟨line_long, same_start.trans start, same_stop.trans stop⟩

theorem piece_segments_open (unclipped : config.clipBoundsM = none) (long : 2 ≤ piece.length)
    (known : ∀ u ∈ piece, (projected.get u).isSome = true)
    (edges : ∀ step ∈ walkSteps piece, ¬ pointsClose (pointOf projected step.1)
      (pointOf projected step.2))
    (moves : (lineOf config projected attributes.oneway piece).IsChain (· ≠ ·)) :
    pieceSegments config projected way attributes partIndex piece =
      .ok [segmentOf config projected way attributes partIndex piece] := by
  have apart : ¬ ∃ step ∈ walkSteps (piece.map (pointOf projected)), pointsClose step.1 step.2 := by
    rintro ⟨step, listed, close⟩
    rw [walk_steps_map] at listed
    obtain ⟨source, step_listed, rfl⟩ := List.mem_map.mp listed
    exact edges source step_listed close
  have oriented : (if attributes.oneway = .reverse then
      ((piece.map (pointOf projected)).reverse, piece.reverse)
      else (piece.map (pointOf projected), piece)) =
      ((drawn attributes.oneway piece).map (pointOf projected), drawn attributes.oneway piece) := by
    unfold drawn
    split
    · rw [List.map_reverse]
    · rfl
  obtain ⟨line_long, line_start, line_stop⟩ := line_spec config projected attributes.oneway long
  have length : 2 ≤ (drawn attributes.oneway piece).length := length_drawn.symm ▸ long
  obtain ⟨start, stop⟩ := ends_map_points projected
    (List.ne_nil_of_length_pos (by omega) : drawn attributes.oneway piece ≠ [])
  have kept : ¬ ((lineOf config projected attributes.oneway piece).length < 2 ∨
      Scalar.pathLength (lineOf config projected attributes.oneway piece) ≤ 0) :=
    not_or.mpr ⟨not_lt.mpr line_long, not_le.mpr (Scalar.path_length_pos line_long moves)⟩
  unfold lineOf at kept line_start line_stop
  refine bind_ok.mpr ⟨piece.map (pointOf projected), map_all_total fun u listed => ?_, ?_⟩
  · obtain ⟨point, found⟩ := Option.isSome_iff_exists.mp (known u listed)
    unfold pointOf
    rw [found]
    rfl
  · rw [if_neg apart, oriented]
    dsimp only
    rw [pure_ok, unclipped, clipPolyline, List.zipIdx_singleton, List.filterMap_cons_some,
      List.filterMap_nil]
    dsimp only
    rw [if_neg kept, line_start, line_stop, start, stop]
    dsimp only
    rw [if_pos points_close_self, if_pos points_close_self]
    rfl

/-- The stretches of the ways that become roads, in order. -/
def roads (ways : List Way) : List (Way × List ℤ) :=
  ways.flatMap fun way => (splitPieces (isShared ways) way.nodeRefs).map fun piece => (way, piece)

theorem mem_roads {ways : List Way} {road : Way × List ℤ} :
    road ∈ roads ways ↔ road.1 ∈ ways ∧ road.2 ∈ splitPieces (isShared ways) road.1.nodeRefs := by
  obtain ⟨way, piece⟩ := road
  unfold roads
  rw [List.mem_flatMap]
  constructor
  · rintro ⟨other, known, listed⟩
    obtain ⟨_, cut, same⟩ := List.mem_map.mp listed
    obtain ⟨rfl, rfl⟩ := Prod.mk.inj same
    exact ⟨known, cut⟩
  · rintro ⟨known, cut⟩
    exact ⟨way, known, List.mem_map.mpr ⟨piece, cut, rfl⟩⟩

/-- A set of ways whose references and tags pass the checks, imported without clipping. -/
structure Accepted (config : ImportConfig ℝ) (projected : Dict ℤ (PointM ℝ))
    (readFloat : String → Option ℝ) (ways : List Way) (attributes : Way → WayAttributes ℝ) :
    Prop where
  some_way : ways ≠ []
  references : validateWayNodeReferences (fun u => (projected.get u).isSome) ways = .ok ()
  tags : ∀ way ∈ ways,
    readAttributes readFloat config.laneTaggingPolicy way.tags = .ok (attributes way)
  edges : ∀ way ∈ ways, ∀ step ∈ walkSteps way.nodeRefs,
    ¬ pointsClose (pointOf projected step.1) (pointOf projected step.2)
  unclipped : config.clipBoundsM = none

section Ways

variable {readFloat : String → Option ℝ} {ways : List Way} {attributes : Way → WayAttributes ℝ}

theorem references_ok {known : ℤ → Bool} (h : validateWayNodeReferences known ways = .ok ()) :
    ∀ way ∈ ways, 2 ≤ way.nodeRefs.length ∧ (∀ u ∈ way.nodeRefs, known u = true) ∧
      way.nodeRefs.IsChain (· ≠ ·) := by
  intro way listed
  have passed := each_ok.mp h way listed
  split at passed
  · cases passed
  rename_i long
  split at passed
  · cases passed
  rename_i all_known
  split at passed
  · cases passed
  rename_i moves
  refine ⟨not_lt.mp long, fun u mem => ?_, chain_iff_steps.mpr fun step taken same =>
    moves ⟨step, taken, same⟩⟩
  have := List.find?_eq_none.mp all_known u mem
  rwa [Bool.not_eq_true, Bool.not_eq_false'] at this

theorem Accepted.cut (accepted : Accepted config projected readFloat ways attributes)
    (known : way ∈ ways) : CutPieces (isShared ways) way.nodeRefs
      (splitPieces (isShared ways) way.nodeRefs) :=
  split_pieces_spec _ (references_ok accepted.references way known).1

theorem segments_built (accepted : Accepted config projected readFloat ways attributes)
    (moves : ∀ road ∈ roads ways,
      (lineOf config projected (attributes road.1).oneway road.2).IsChain (· ≠ ·)) :
    ∃ segments, buildPhysicalSegments config projected readFloat ways = .ok segments ∧
      List.Forall₂ (fun road segment => ∃ partIndex, segment =
        segmentOf config projected road.1 (attributes road.1) partIndex road.2)
        (roads ways) segments := by
  have each_piece : ∀ way ∈ ways, ∀ piece ∈ splitPieces (isShared ways) way.nodeRefs,
      ∀ partIndex, pieceSegments config projected way (attributes way) partIndex piece =
        .ok [segmentOf config projected way (attributes way) partIndex piece] := by
    intro way known piece listed partIndex
    have cut := accepted.cut known
    have filled : ∀ piece ∈ splitPieces (isShared ways) way.nodeRefs, piece ≠ [] :=
      fun piece listed => List.ne_nil_of_length_pos (by have := cut.long piece listed; omega)
    have stretch : piece <:+: way.nodeRefs := by
      have := piece_of_glue cut.linked filled listed
      rwa [cut.joined] at this
    refine piece_segments_open accepted.unclipped (cut.long piece listed) (fun u mem => ?_)
      (fun step taken => ?_) (moves (way, piece) (mem_roads.mpr ⟨known, listed⟩))
    · exact (references_ok accepted.references way known).2.1 u (stretch.subset mem)
    · apply accepted.edges way known
      rw [← cut.joined, walk_steps_glue cut.linked filled]
      exact List.mem_flatMap.mpr ⟨piece, listed, taken⟩
  have each_way : ∀ way ∈ ways,
      waySegments config projected readFloat (isShared ways) way =
        .ok ((splitPieces (isShared ways) way.nodeRefs).zipIdx.map fun item =>
          segmentOf config projected way (attributes way) item.2 item.1) := by
    intro way known
    refine bind_ok.mpr ⟨_, accepted.tags way known, bind_ok.mpr ⟨_, map_all_total fun item listed =>
      each_piece way known item.1 (List.fst_mem_of_mem_zipIdx listed) item.2, ?_⟩⟩
    rw [pure_ok, ← List.flatMap_def, ← List.map_eq_flatMap]
  refine ⟨_, bind_ok.mpr ⟨_, map_all_total each_way, rfl⟩, ?_⟩
  rw [← List.flatMap_def]
  have same_ways : List.Forall₂ Eq ways ways := List.forall₂_refl ways
  refine List.rel_flatMap same_ways fun way way' same => ?_
  subst same
  rw [List.forall₂_map_right_iff, List.forall₂_map_left_iff]
  conv_lhs => rw [← List.zipIdx_map_fst 0 (splitPieces (isShared ways) way.nodeRefs)]
  rw [List.forall₂_map_left_iff, List.forall₂_same]
  exact fun item _ => ⟨item.2, rfl⟩

end Ways

end Segments

end Metroflow.Map.Osm
