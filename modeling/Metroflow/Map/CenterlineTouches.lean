import Metroflow.Lib.CellPairs
import Metroflow.Lib.SegmentSamples
import Metroflow.Map.RoadGeometry

namespace Metroflow.Map.Centerlines

open Metroflow.Lib

section Counting

variable {K : Type} [Scalar K]

def pointToSegmentDistance (point left right : PointM K) : K :=
  let dx := right.1 - left.1
  let dy := right.2 - left.2
  let span := dx * dx + dy * dy
  if span ≤ 0 then Scalar.hypot (point.1 - left.1) (point.2 - left.2)
  else
    let position := ((point.1 - left.1) * dx + (point.2 - left.2) * dy) / span
    let position := least (greatest position 0) 1
    Scalar.hypot (point.1 - (left.1 + position * dx)) (point.2 - (left.2 + position * dy))

def touchesAVertexOf (point : PointM K) (centerline : RoadCenterline K) (toleranceM : K) : Bool :=
  centerline.pointsM.any fun vertex =>
    decide (Scalar.hypot (point.1 - vertex.1) (point.2 - vertex.2) ≤ toleranceM)

/-- The box of a segment, wider by the tolerance on every side. -/
def widened (toleranceM : K) (left right : PointM K) : Box K where
  minX := least left.1 right.1 - toleranceM
  maxX := greatest left.1 right.1 + toleranceM
  minY := least left.2 right.2 - toleranceM
  maxY := greatest left.2 right.2 + toleranceM

def ownedSegments (centerlines : List (RoadCenterline K)) :
    List (PointM K × PointM K × ℤ × ℕ) :=
  centerlines.zipIdx.flatMap fun (centerline, index) =>
    (centerline.pointsM.zip centerline.pointsM.tail).map fun (left, right) =>
      (left, right, centerline.layer, index)

/-- One vertex against the segments of its cell. -/
def touched (centerlines : List (RoadCenterline K)) (toleranceM : K) (candidates : List ℕ)
    (ownerIndex : ℕ) (layer : ℤ) (point : PointM K) : Bool :=
  candidates.any fun segmentIndex =>
    match (ownedSegments centerlines)[segmentIndex]? with
    | none => false
    | some (left, right, otherLayer, otherIndex) =>
      if otherIndex = ownerIndex ∨ otherLayer ≠ layer then false
      else if toleranceM < pointToSegmentDistance point left right then false
      else
        match centerlines[otherIndex]? with
        | none => false
        | some other => !touchesAVertexOf point other toleranceM

/-- Counts the vertices on another centerline's interior. -/
def countUnregisteredCenterlineTouches (catalog : RoadGeometryCatalog K)
    (toleranceM cellSizeM : K) : Except String ℕ := do
  raiseIf (Scalar.isfinite toleranceM = false ∨ toleranceM ≤ 0)
    "tolerance_m must be finite and > 0"
  raiseIf (Scalar.isfinite cellSizeM = false ∨ cellSizeM ≤ 0)
    "cell_size_m must be finite and > 0"
  let centerlines := catalog.centerlines
  let cells := cellIndex cellSizeM ((ownedSegments centerlines).map fun (left, right, _, _) =>
    widened toleranceM left right)
  pure (centerlines.zipIdx.map fun (centerline, ownerIndex) =>
    centerline.pointsM.countP fun point =>
      let cell := (Scalar.floor (point.1 / cellSizeM), Scalar.floor (point.2 / cellSizeM))
      touched centerlines toleranceM ((cells.get cell).getD []) ownerIndex centerline.layer
        point).sum

end Counting

section Property

variable (centerlines : List (RoadCenterline ℝ)) (toleranceM : ℝ)

/-- A vertex of one centerline lies on another one of its layer, away from its vertices. -/
def Touches (ownerIndex : ℕ) (layer : ℤ) (point : PointM ℝ) : Prop :=
  ∃ otherIndex other, centerlines[otherIndex]? = some other ∧ otherIndex ≠ ownerIndex ∧
    other.layer = layer ∧
    (∃ segment ∈ other.pointsM.zip other.pointsM.tail, ∃ t, 0 ≤ t ∧ t ≤ 1 ∧
      Scalar.dist point (Scalar.along segment.1 segment.2 t) ≤ toleranceM) ∧
    ∀ vertex ∈ other.pointsM, toleranceM < Scalar.dist point vertex

def TouchesAt (ownerIndex position : ℕ) (point : PointM ℝ) : Prop :=
  ∃ owner, centerlines[ownerIndex]? = some owner ∧ owner.pointsM[position]? = some point ∧
    Touches centerlines toleranceM ownerIndex owner.layer point

def touchingPoints : Set (PointM ℝ) :=
  {point | ∃ ownerIndex position, TouchesAt centerlines toleranceM ownerIndex position point}

end Property

section Nearest

variable {point left right : PointM ℝ} {s t toleranceM : ℝ}

theorem foot_nearest (after : s < t → (point.1 - (Scalar.along left right s).1) *
      (right.1 - left.1) + (point.2 - (Scalar.along left right s).2) * (right.2 - left.2) ≤ 0)
    (before : t < s → 0 ≤ (point.1 - (Scalar.along left right s).1) *
      (right.1 - left.1) + (point.2 - (Scalar.along left right s).2) * (right.2 - left.2)) :
    Scalar.dist point (Scalar.along left right s) ≤
      Scalar.dist point (Scalar.along left right t) := by
  rw [Scalar.dist_real, Scalar.dist_real]
  refine Real.sqrt_le_sqrt ?_
  unfold Scalar.along at after before ⊢
  dsimp only at after before ⊢
  have turned : (t - s) * ((point.1 - (left.1 + s * (right.1 - left.1))) * (right.1 - left.1) +
      (point.2 - (left.2 + s * (right.2 - left.2))) * (right.2 - left.2)) ≤ 0 := by
    rcases lt_trichotomy s t with less | same | more
    · exact mul_nonpos_of_nonneg_of_nonpos (sub_nonneg.mpr less.le) (after less)
    · rw [same, sub_self, zero_mul]
    · exact mul_nonpos_of_nonpos_of_nonneg (sub_nonpos.mpr more.le) (before more)
  have gap : 0 ≤ (t - s) ^ 2 * ((right.1 - left.1) ^ 2 + (right.2 - left.2) ^ 2) := by positivity
  linarith

theorem segment_distance_le : pointToSegmentDistance point left right ≤ toleranceM ↔
    ∃ t, 0 ≤ t ∧ t ≤ 1 ∧
      Scalar.dist point (Scalar.along left right t) ≤ toleranceM := by
  unfold pointToSegmentDistance
  dsimp only
  split
  · rename_i flat
    have x := mul_self_nonneg (right.1 - left.1)
    have y := mul_self_nonneg (right.2 - left.2)
    have same_x : right.1 - left.1 = 0 := mul_self_eq_zero.mp (by linarith)
    have same_y : right.2 - left.2 = 0 := mul_self_eq_zero.mp (by linarith)
    have still : ∀ t, Scalar.along left right t = left := by
      intro t
      unfold Scalar.along
      rw [same_x, same_y, mul_zero, add_zero, add_zero]
    simp only [still]
    exact ⟨fun near => ⟨0, le_rfl, zero_le_one, near⟩, fun ⟨_, _, _, near⟩ => near⟩
  · rename_i long
    obtain ⟨dot, dot_eq⟩ : ∃ dot, dot = (point.1 - left.1) * (right.1 - left.1) +
      (point.2 - left.2) * (right.2 - left.2) := ⟨_, rfl⟩
    obtain ⟨span, span_eq⟩ : ∃ span, span = (right.1 - left.1) * (right.1 - left.1) +
      (right.2 - left.2) * (right.2 - left.2) := ⟨_, rfl⟩
    rw [← dot_eq, ← span_eq]
    rw [← span_eq] at long
    have positive := not_le.mp long
    obtain ⟨s, s_eq⟩ : ∃ s, s = least (greatest (dot / span) 0) 1 := ⟨_, rfl⟩
    rw [← s_eq]
    have clamped : 0 ≤ s ∧ s ≤ 1 ∧ (s < 1 → dot / span ≤ s) ∧ (0 < s → s ≤ dot / span) := by
      rw [s_eq]
      unfold least greatest
      split <;> split <;> grind
    obtain ⟨low, high, ahead, behind⟩ := clamped
    have way : (point.1 - (Scalar.along left right s).1) * (right.1 - left.1) +
        (point.2 - (Scalar.along left right s).2) * (right.2 - left.2) = dot - s * span := by
      rw [dot_eq, span_eq]
      unfold Scalar.along
      ring
    constructor
    · exact fun near => ⟨s, low, high, near⟩
    · rintro ⟨t, t_low, t_high, near⟩
      refine le_trans (foot_nearest (t := t) ?_ ?_) near
      · intro less
        rw [way, sub_nonpos]
        exact (div_le_iff₀ positive).mp (ahead (less.trans_le t_high))
      · intro more
        rw [way, sub_nonneg]
        exact (le_div_iff₀ positive).mp (behind (t_low.trans_lt more))

end Nearest

section Cells

variable {centerlines : List (RoadCenterline ℝ)} {toleranceM cellSizeM : ℝ} {ownerIndex : ℕ}
  {layer : ℤ} {point : PointM ℝ}

theorem mem_owned {segment : PointM ℝ × PointM ℝ × ℤ × ℕ} :
    segment ∈ ownedSegments centerlines ↔ ∃ other, centerlines[segment.2.2.2]? = some other ∧
      segment.2.2.1 = other.layer ∧
      (segment.1, segment.2.1) ∈ other.pointsM.zip other.pointsM.tail := by
  obtain ⟨left, right, layer, index⟩ := segment
  unfold ownedSegments
  simp only [List.mem_flatMap, List.mem_map, Prod.exists, Prod.mk.injEq,
    List.mk_mem_zipIdx_iff_getElem?]
  constructor
  · rintro ⟨other, _, found, _, _, _, _, listed, rfl, rfl, rfl, rfl⟩
    exact ⟨other, found, rfl, listed⟩
  · rintro ⟨other, found, rfl, listed⟩
    exact ⟨other, index, found, left.1, left.2, right.1, right.2, listed, rfl, rfl, rfl, rfl⟩

theorem least_real (a b : ℝ) : least a b = min a b := by
  unfold least
  split
  · rename_i below
    exact (min_eq_right_of_lt below).symm
  · rename_i above
    exact (min_eq_left (not_lt.mp above)).symm

theorem greatest_real (a b : ℝ) : greatest a b = max a b := by
  unfold greatest
  split
  · rename_i below
    exact (max_eq_right_of_lt below).symm
  · rename_i above
    exact (max_eq_left (not_lt.mp above)).symm

theorem mem_widened {left right : PointM ℝ} (size : 0 < cellSizeM)
    (near : pointToSegmentDistance point left right ≤ toleranceM) :
    (⌊point.1 / cellSizeM⌋, ⌊point.2 / cellSizeM⌋) ∈
      (widened toleranceM left right).cells cellSizeM := by
  obtain ⟨t, low, high, near⟩ := segment_distance_le.mp near
  have between : ∀ a b : ℝ, min a b ≤ a + t * (b - a) ∧ a + t * (b - a) ≤ max a b := by
    intro a b
    rcases le_total a b with up | down
    · rw [min_eq_left up, max_eq_right up]
      constructor <;> nlinarith
    · rw [min_eq_right down, max_eq_left down]
      constructor <;> nlinarith
  have range : ∀ {x a b : ℝ}, |x - (a + t * (b - a))| ≤ toleranceM →
      ⌊x / cellSizeM⌋ ∈ cellRange cellSizeM (least a b - toleranceM)
        (greatest a b + toleranceM) := by
    intro x a b close
    obtain ⟨below, above⟩ := abs_le.mp close
    obtain ⟨first, last⟩ := between a b
    rw [least_real, greatest_real]
    exact mem_range_of_floors
      (Int.floor_le_floor (div_le_div_of_nonneg_right (by linarith) size.le))
      (Int.floor_le_floor (div_le_div_of_nonneg_right (by linarith) size.le))
  have close_x : |point.1 - (Scalar.along left right t).1| ≤ toleranceM :=
    Scalar.abs_fst_le_dist.trans near
  have close_y : |point.2 - (Scalar.along left right t).2| ≤ toleranceM :=
    Scalar.abs_snd_le_dist.trans near
  exact List.mem_flatMap.mpr ⟨_, range close_x, List.mem_map_of_mem (range close_y)⟩

theorem vertex_away {other : RoadCenterline ℝ} :
    touchesAVertexOf point other toleranceM = false ↔
      ∀ vertex ∈ other.pointsM, toleranceM < Scalar.dist point vertex := by
  unfold touchesAVertexOf
  rw [List.any_eq_false]
  refine forall₂_congr fun vertex _ => ?_
  rw [decide_eq_true_eq, not_le]
  rfl

theorem touched_iff (size : 0 < cellSizeM) :
    touched centerlines toleranceM
      (((cellIndex cellSizeM ((ownedSegments centerlines).map fun (left, right, _, _) =>
        widened toleranceM left right)).get
          (⌊point.1 / cellSizeM⌋, ⌊point.2 / cellSizeM⌋)).getD []) ownerIndex layer point = true ↔
      Touches centerlines toleranceM ownerIndex layer point := by
  unfold touched
  rw [List.any_eq_true]
  constructor
  · rintro ⟨index, -, taken⟩
    split at taken
    · cases taken
    rename_i left right otherLayer otherIndex found
    split at taken
    · cases taken
    rename_i other_line
    split at taken
    · cases taken
    rename_i near
    obtain ⟨other, at_other, rfl, listed⟩ := mem_owned.mp (List.mem_of_getElem? found)
    dsimp only at at_other listed
    rw [at_other] at taken
    push Not at other_line
    refine ⟨otherIndex, other, at_other, other_line.1, other_line.2, ?_, ?_⟩
    · exact ⟨_, listed, segment_distance_le.mp (not_lt.mp near)⟩
    · rw [Bool.not_eq_true'] at taken
      exact vertex_away.mp taken
  · rintro ⟨otherIndex, other, at_other, apart, same_layer, ⟨segment, listed, near⟩, away⟩
    have owned : (segment.1, segment.2, other.layer, otherIndex) ∈ ownedSegments centerlines :=
      mem_owned.mpr ⟨other, at_other, rfl, listed⟩
    obtain ⟨index, found⟩ := List.mem_iff_getElem?.mp owned
    have close := segment_distance_le.mpr near
    refine ⟨index, mem_cell_get.mpr ⟨widened toleranceM segment.1 segment.2, ?_, ?_⟩, ?_⟩
    · rw [List.getElem?_map, found]
      rfl
    · exact mem_widened size close
    · rw [found]
      dsimp only
      rw [if_neg (by push Not; exact ⟨apart, same_layer⟩), if_neg (not_lt.mpr close), at_other]
      dsimp only
      rw [Bool.not_eq_true']
      exact vertex_away.mpr away

end Cells

section Count

variable {catalog : RoadGeometryCatalog ℝ} {toleranceM cellSizeM : ℝ}

def vertexPlaces (centerlines : List (RoadCenterline ℝ)) : List (ℕ × ℕ × PointM ℝ) :=
  centerlines.zipIdx.flatMap fun (centerline, ownerIndex) =>
    centerline.pointsM.zipIdx.map fun (point, position) => (ownerIndex, position, point)

theorem mem_places {centerlines : List (RoadCenterline ℝ)} {place : ℕ × ℕ × PointM ℝ} :
    place ∈ vertexPlaces centerlines ↔ ∃ owner, centerlines[place.1]? = some owner ∧
      owner.pointsM[place.2.1]? = some place.2.2 := by
  obtain ⟨ownerIndex, position, x, y⟩ := place
  unfold vertexPlaces
  simp only [List.mem_flatMap, List.mem_map, Prod.exists, Prod.mk.injEq,
    List.mk_mem_zipIdx_iff_getElem?]
  constructor
  · rintro ⟨owner, _, found, _, _, _, here, rfl, rfl, rfl, rfl⟩
    exact ⟨owner, found, here⟩
  · rintro ⟨owner, found, here⟩
    exact ⟨owner, ownerIndex, found, x, y, position, here, rfl, rfl, rfl, rfl⟩

theorem places_nodup (centerlines : List (RoadCenterline ℝ)) :
    (vertexPlaces centerlines).Nodup := by
  have positions : ∀ {α : Type} (l : List α), (l.zipIdx.map Prod.snd).Nodup := by
    intro α l
    rw [List.zipIdx_map_snd]
    exact List.nodup_range'
  unfold vertexPlaces
  refine List.nodup_flatMap.mpr ⟨fun entry _ => ?_, ?_⟩
  · refine List.Nodup.of_map (fun place => place.2.1) ?_
    rw [List.map_map]
    exact positions entry.1.pointsM
  · refine (List.pairwise_map.mp (positions centerlines)).imp fun {first second} apart => ?_
    intro place in_first in_second
    obtain ⟨_, -, rfl⟩ := List.mem_map.mp in_first
    obtain ⟨_, -, same⟩ := List.mem_map.mp in_second
    exact apart (congrArg Prod.fst same).symm

open Classical in
theorem count_places (tolerance : 0 < toleranceM) (size : 0 < cellSizeM) :
    countUnregisteredCenterlineTouches catalog toleranceM cellSizeM =
      .ok {place : ℕ × ℕ × PointM ℝ |
        TouchesAt catalog.centerlines toleranceM place.1 place.2.1 place.2.2}.ncard := by
  unfold countUnregisteredCenterlineTouches
  refine bind_ok.mpr ⟨(), raise_if_ok.mpr ?_, bind_ok.mpr ⟨(), raise_if_ok.mpr ?_, ?_⟩⟩
  · exact fun bad => bad.elim (fun no => nomatch no) (not_le.mpr tolerance)
  · exact fun bad => bad.elim (fun no => nomatch no) (not_le.mpr size)
  refine congrArg Except.ok ?_
  have places : {place : ℕ × ℕ × PointM ℝ |
      TouchesAt catalog.centerlines toleranceM place.1 place.2.1 place.2.2} =
      ((vertexPlaces catalog.centerlines).filter fun place =>
        TouchesAt catalog.centerlines toleranceM place.1 place.2.1 place.2.2).toFinset := by
    ext place
    rw [Finset.mem_coe, List.mem_toFinset, List.mem_filter, decide_eq_true_eq]
    refine (and_iff_right_of_imp ?_).symm
    rintro ⟨owner, found, here, -⟩
    exact mem_places.mpr ⟨owner, found, here⟩
  rw [places, Set.ncard_coe_finset, List.toFinset_card_of_nodup ((places_nodup _).filter _),
    ← List.countP_eq_length_filter]
  unfold vertexPlaces
  rw [List.countP_flatMap]
  refine congrArg List.sum (List.map_congr_left fun entry listed => ?_)
  obtain ⟨owner, ownerIndex⟩ := entry
  have found := List.mem_zipIdx_iff_getElem?.mp listed
  dsimp only [Function.comp] at found ⊢
  rw [List.countP_map]
  have plain : owner.pointsM = owner.pointsM.zipIdx.map Prod.fst := (List.zipIdx_map_fst 0 _).symm
  conv_lhs => rw [plain]
  rw [List.countP_map]
  refine List.countP_congr fun entry listed => ?_
  obtain ⟨point, position⟩ := entry
  have here := List.mem_zipIdx_iff_getElem?.mp listed
  dsimp only [Function.comp] at here ⊢
  rw [decide_eq_true_eq]
  refine (touched_iff size).trans ⟨fun touches => ⟨owner, found, here, touches⟩, ?_⟩
  rintro ⟨_, found', -, touches⟩
  obtain rfl := Option.some.inj (found.symm.trans found')
  exact touches

theorem ncard_places_iff (centerlines : List (RoadCenterline ℝ)) (toleranceM : ℝ) :
    {place : ℕ × ℕ × PointM ℝ |
        TouchesAt centerlines toleranceM place.1 place.2.1 place.2.2}.ncard =
      (touchingPoints centerlines toleranceM).ncard ↔
    ∀ point ownerIndex position ownerIndex' position',
      TouchesAt centerlines toleranceM ownerIndex position point →
      TouchesAt centerlines toleranceM ownerIndex' position' point →
      ownerIndex = ownerIndex' ∧ position = position' := by
  have finite : {place : ℕ × ℕ × PointM ℝ |
      TouchesAt centerlines toleranceM place.1 place.2.1 place.2.2}.Finite := by
    refine (vertexPlaces centerlines).toFinset.finite_toSet.subset fun place touches => ?_
    obtain ⟨owner, found, here, -⟩ := touches
    exact List.mem_toFinset.mpr (mem_places.mpr ⟨owner, found, here⟩)
  have points : touchingPoints centerlines toleranceM =
      (fun place : ℕ × ℕ × PointM ℝ => place.2.2) '' {place |
        TouchesAt centerlines toleranceM place.1 place.2.1 place.2.2} := by
    ext point
    constructor
    · rintro ⟨ownerIndex, position, touches⟩
      exact ⟨(ownerIndex, position, point), touches, rfl⟩
    · rintro ⟨place, touches, rfl⟩
      exact ⟨place.1, place.2.1, touches⟩
  rw [points, eq_comm, Set.ncard_image_iff finite]
  constructor
  · intro injective point ownerIndex position ownerIndex' position' first second
    have same := @injective (ownerIndex, position, point) first (ownerIndex', position', point)
      second rfl
    exact ⟨congrArg (fun place => place.1) same, congrArg (fun place => place.2.1) same⟩
  · rintro once ⟨ownerIndex, position, point⟩ first ⟨ownerIndex', position', _⟩ second rfl
    obtain ⟨rfl, rfl⟩ := once point _ _ _ _ first second
    rfl

/-- Touching points are counted once each exactly when none is a vertex at two places. -/
theorem touches_counted_once_iff (catalog : RoadGeometryCatalog ℝ) (toleranceM cellSizeM : ℝ)
    (tolerance : 0 < toleranceM) (size : 0 < cellSizeM) :
    countUnregisteredCenterlineTouches catalog toleranceM cellSizeM =
      .ok (touchingPoints catalog.centerlines toleranceM).ncard ↔
    ∀ point ownerIndex position ownerIndex' position',
      TouchesAt catalog.centerlines toleranceM ownerIndex position point →
      TouchesAt catalog.centerlines toleranceM ownerIndex' position' point →
      ownerIndex = ownerIndex' ∧ position = position' := by
  rw [count_places tolerance size, Except.ok.injEq]
  exact ncard_places_iff catalog.centerlines toleranceM

def straight (geometryId : ℕ) (start stop : PointM ℝ) (apart : start ≠ stop) :
    RoadCenterline ℝ where
  geometryId := geometryId
  pointsM := [start, stop]
  layer := 0
  id_nonneg := Int.natCast_nonneg _
  two_points := Lib.two_ends
  finite _ _ := ⟨rfl, rfl⟩
  steps_move := List.isChain_pair.mpr apart

/-- Two roads that begin at one point of a third one. -/
def forked : RoadGeometryCatalog ℝ where
  centerlines :=
    [straight 0 (-10, 0) (10, 0) (by norm_num), straight 1 (0, 0) (0, 10) (by norm_num),
      straight 2 (0, 0) (5, 10) (by norm_num)]
  assignments := []
  geometry_ids := by
    simp [straight]
  link_ids := List.Pairwise.nil
  resolves _ none := absurd none List.not_mem_nil

theorem forked_counted_once_iff :
    countUnregisteredCenterlineTouches forked (1 / 4) 250 =
      .ok (touchingPoints forked.centerlines (1 / 4)).ncard ↔
    ∀ point ownerIndex position ownerIndex' position',
      TouchesAt forked.centerlines (1 / 4) ownerIndex position point →
      TouchesAt forked.centerlines (1 / 4) ownerIndex' position' point →
      ownerIndex = ownerIndex' ∧ position = position' :=
  touches_counted_once_iff forked (1 / 4) 250 (by norm_num) (by norm_num)

/-- The point where two roads begin on a third one is counted twice. -/
theorem forked_counted_twice : countUnregisteredCenterlineTouches forked (1 / 4) 250 ≠
    .ok (touchingPoints forked.centerlines (1 / 4)).ncard := by
  have far : ∀ x : ℝ, (0 - x) ^ 2 = 100 → (1 / 4 : ℝ) < Scalar.dist (0, 0) (x, 0) := by
    intro x square
    rw [Scalar.dist_real, square]
    exact Real.lt_sqrt_of_sq_lt (by norm_num)
  have on_road : ∀ ownerIndex, ownerIndex ≠ 0 →
      Touches forked.centerlines (1 / 4) ownerIndex 0 (0, 0) := by
    intro ownerIndex other
    refine ⟨0, _, rfl, Ne.symm other, rfl, ⟨((-10, 0), (10, 0)), List.mem_singleton.mpr rfl,
      1 / 2, by norm_num, by norm_num, ?_⟩, ?_⟩
    · rw [Scalar.dist_real]
      norm_num [Scalar.along]
    · intro vertex listed
      rcases List.mem_pair.mp listed with rfl | rfl
      · exact far (-10) (by norm_num)
      · exact far 10 (by norm_num)
  intro counted
  rw [count_places (by norm_num) (by norm_num), Except.ok.injEq] at counted
  have once := (ncard_places_iff _ _).mp counted (0, 0) 1 0 2 0
    ⟨_, rfl, rfl, on_road 1 (by decide)⟩ ⟨_, rfl, rfl, on_road 2 (by decide)⟩
  exact absurd once.1 (by decide)

end Count

end Metroflow.Map.Centerlines
