import Metroflow.Lib.Plane

namespace Metroflow.City

open Metroflow.Lib

/-- A point of the street plan, in millimetres. -/
abbrev PointMM := ℤ × ℤ

def properIntersection (a b c d : PointMM) : Bool :=
  if cross a b c = 0 ∨ cross a b d = 0 ∨ cross c d a = 0 ∨ cross c d b = 0 then false
  else decide (0 < cross a b c) != decide (0 < cross a b d) &&
    decide (0 < cross c d a) != decide (0 < cross c d b)

def pointInOpenSegment (point left right : PointMM) : Bool :=
  if cross left right point ≠ 0 then false
  else decide (point ≠ left ∧ point ≠ right ∧
    min left.1 right.1 ≤ point.1 ∧ point.1 ≤ max left.1 right.1 ∧
    min left.2 right.2 ≤ point.2 ∧ point.2 ≤ max left.2 right.2)

/-- Whether two collinear segments share more than a point, along their longer axis. -/
def collinearOverlap (a b c d : PointMM) : Bool :=
  if cross a b c ≠ 0 ∨ cross a b d ≠ 0 then false
  else if |b.2 - a.2| ≤ |b.1 - a.1| then
    decide (max (min a.1 b.1) (min c.1 d.1) < min (max a.1 b.1) (max c.1 d.1))
  else decide (max (min a.2 b.2) (min c.2 d.2) < min (max a.2 b.2) (max c.2 d.2))

section Supercover

/-- Where a coordinate passes a grid line strictly inside its segment. -/
def gridEvents (start delta cellMm : ℤ) : List ℚ :=
  if delta = 0 then []
  else
    let first := min start (start + delta) / cellMm + 1
    let last := (max start (start + delta) - 1) / cellMm
    ((List.range (last + 1 - first).toNat).map fun k : ℕ =>
      (((first + k) * cellMm - start : ℤ) : ℚ) / delta).filter fun event => 0 < event ∧ event < 1

def segmentEvents (left right : PointMM) (cellMm : ℤ) : List ℚ :=
  (0 :: 1 :: (gridEvents left.1 (right.1 - left.1) cellMm ++
    gridEvents left.2 (right.2 - left.2) cellMm)).dedup.insertionSort (· ≤ ·)

/-- The cells of a coordinate; on a grid line these are the ones on both sides. -/
def axisCells (cellMm : ℤ) (x : ℚ) : List ℤ :=
  if x / cellMm = ⌊x / cellMm⌋ then [⌊x / cellMm⌋ - 1, ⌊x / cellMm⌋] else [⌊x / cellMm⌋]

def pointCells (left right : PointMM) (cellMm : ℤ) (t : ℚ) : List (ℤ × ℤ) :=
  (axisCells cellMm (left.1 + t * (right.1 - left.1))).product
    (axisCells cellMm (left.2 + t * (right.2 - left.2)))

/-- The grid cells that a segment touches: at its events, and halfway between them. -/
def segmentSupercoverCells (left right : PointMM) (cellMm : ℤ) : List (ℤ × ℤ) :=
  let ordered := segmentEvents left right cellMm
  (ordered.flatMap (pointCells left right cellMm) ++
    (ordered.zip ordered.tail).flatMap fun pair =>
      pointCells left right cellMm ((pair.1 + pair.2) / 2)).dedup

end Supercover

section Contact

variable {a b c d p q r : PointMM}

def PointMM.toReal (p : PointMM) : ℝ × ℝ := (p.1, p.2)

theorem to_real_inj (h : PointMM.toReal p = PointMM.toReal q) : p = q := by
  obtain ⟨first, second⟩ := Prod.mk.inj h
  exact Prod.ext (by exact_mod_cast first) (by exact_mod_cast second)

theorem cross_to_real (p q r : PointMM) :
    cross (PointMM.toReal p) (PointMM.toReal q) (PointMM.toReal r) = ((cross p q r : ℤ) : ℝ) := by
  simp [cross, PointMM.toReal]

theorem proper_of_crosses
    (h : Crosses (PointMM.toReal a) (PointMM.toReal b) (PointMM.toReal c) (PointMM.toReal d)) :
    properIntersection a b c d = true := by
  obtain ⟨first, second⟩ := h
  simp only [cross_to_real] at first second
  have first : cross a b c * cross a b d < 0 := by exact_mod_cast first
  have second : cross c d a * cross c d b < 0 := by exact_mod_cast second
  unfold properIntersection
  rcases mul_neg_iff.mp first with ⟨pos, neg⟩ | ⟨neg, pos⟩ <;>
    rcases mul_neg_iff.mp second with ⟨pos', neg'⟩ | ⟨neg', pos'⟩ <;>
    simp [pos, pos', pos.ne', neg.ne, pos'.ne', neg'.ne, neg.not_gt, neg'.not_gt]

theorem between_coords {u v t : ℝ} {l h : ℤ} (low : 0 ≤ t) (high : t ≤ 1)
    (u_eq : (l : ℝ) = u) (v_eq : (h : ℝ) = v) :
    ((min l h : ℤ) : ℝ) ≤ u + t * (v - u) ∧ u + t * (v - u) ≤ ((max l h : ℤ) : ℝ) := by
  subst u_eq v_eq
  push_cast
  rcases le_total (l : ℝ) h with up | down
  · rw [min_eq_left up, max_eq_right up]
    constructor <;> nlinarith
  · rw [min_eq_right down, max_eq_left down]
    constructor <;> nlinarith

theorem point_in_open_of_mem (apart : q ≠ r)
    (h : PointMM.toReal p ∈ openSegment ℝ (PointMM.toReal q) (PointMM.toReal r)) :
    pointInOpenSegment p q r = true := by
  have line := cross_of_open h
  rw [cross_to_real] at line
  have line : cross q r p = 0 := by exact_mod_cast line
  obtain ⟨t, low, high, first, second⟩ := mem_open_segment.mp h
  have differs : PointMM.toReal p ≠ PointMM.toReal q ∧ PointMM.toReal p ≠ PointMM.toReal r := by
    constructor
    · intro same
      rw [same] at h
      exact apart (to_real_inj (left_mem_openSegment_iff.mp h))
    · intro same
      rw [same] at h
      exact apart (to_real_inj (right_mem_openSegment_iff.mp h))
  have x := between_coords low.le high.le (l := q.1) (h := r.1) rfl rfl
  have y := between_coords low.le high.le (l := q.2) (h := r.2) rfl rfl
  simp only [PointMM.toReal] at first second
  rw [← first] at x
  rw [← second] at y
  unfold pointInOpenSegment
  rw [if_neg (not_not.mpr line), decide_eq_true_eq]
  refine ⟨fun same => differs.1 (congrArg _ same), fun same => differs.2 (congrArg _ same), ?_⟩
  exact_mod_cast And.intro x.1 (And.intro x.2 y)

theorem strictly_between {u v t : ℝ} {l h : ℤ} (low : 0 < t) (high : t < 1) (apart : l ≠ h)
    (u_eq : (l : ℝ) = u) (v_eq : (h : ℝ) = v) :
    ((min l h : ℤ) : ℝ) < u + t * (v - u) ∧ u + t * (v - u) < ((max l h : ℤ) : ℝ) := by
  subst u_eq v_eq
  push_cast
  rcases lt_or_gt_of_ne apart with up | down
  · have up : (l : ℝ) < h := by exact_mod_cast up
    rw [min_eq_left up.le, max_eq_right up.le]
    constructor <;> nlinarith
  · have down : (h : ℝ) < l := by exact_mod_cast down
    rw [min_eq_right down.le, max_eq_left down.le]
    constructor <;> nlinarith

theorem intervals_overlap {l h l' h' : ℤ} {x : ℝ}
    (first : ((min l h : ℤ) : ℝ) < x ∧ x < (max l h : ℤ))
    (second : ((min l' h' : ℤ) : ℝ) < x ∧ x < (max l' h' : ℤ)) :
    max (min l h) (min l' h') < min (max l h) (max l' h') := by
  have below : ((max (min l h) (min l' h') : ℤ) : ℝ) < x := by
    rw [Int.cast_max]
    exact max_lt first.1 second.1
  have above : x < ((min (max l h) (max l' h') : ℤ) : ℝ) := by
    rw [Int.cast_min]
    exact lt_min first.2 second.2
  exact_mod_cast below.trans above

theorem overlap_of_inner {x : ℝ × ℝ} (ab : a ≠ b) (cd : c ≠ d) (flat_c : cross a b c = 0)
    (flat_d : cross a b d = 0)
    (first : x ∈ openSegment ℝ (PointMM.toReal a) (PointMM.toReal b))
    (second : x ∈ openSegment ℝ (PointMM.toReal c) (PointMM.toReal d)) :
    collinearOverlap a b c d = true := by
  obtain ⟨t, t_pos, t_lt, x_ab, y_ab⟩ := mem_open_segment.mp first
  obtain ⟨s, s_pos, s_lt, x_cd, y_cd⟩ := mem_open_segment.mp second
  have parallel : (b.1 - a.1) * (d.2 - c.2) = (b.2 - a.2) * (d.1 - c.1) := by
    unfold cross at flat_c flat_d
    linear_combination flat_d - flat_c
  have moves : a.1 ≠ b.1 ∨ a.2 ≠ b.2 := by
    by_contra still
    obtain ⟨same, same'⟩ := not_or.mp still
    exact ab (Prod.ext (not_not.mp same) (not_not.mp same'))
  unfold collinearOverlap
  rw [if_neg (by simp [flat_c, flat_d])]
  split
  · rename_i wide
    have ab_moves : a.1 ≠ b.1 := by
      intro same
      rw [same, sub_self, abs_zero, abs_nonpos_iff, sub_eq_zero] at wide
      rcases moves with first | second
      · exact first same
      · exact second wide.symm
    have cd_moves : c.1 ≠ d.1 := by
      intro same
      rw [same, sub_self, mul_zero] at parallel
      rcases mul_eq_zero.mp parallel with zero | zero
      · exact ab_moves (sub_eq_zero.mp zero).symm
      · exact cd (Prod.ext same (sub_eq_zero.mp zero).symm)
    rw [decide_eq_true_eq]
    refine intervals_overlap (x := x.1) ?_ ?_
    · rw [x_ab]
      exact strictly_between t_pos t_lt ab_moves rfl rfl
    · rw [x_cd]
      exact strictly_between s_pos s_lt cd_moves rfl rfl
  · rename_i tall
    have ab_moves : a.2 ≠ b.2 := by
      intro same
      apply tall
      rw [same, sub_self, abs_zero]
      exact abs_nonneg _
    have cd_moves : c.2 ≠ d.2 := by
      intro same
      rw [same, sub_self, mul_zero] at parallel
      rcases mul_eq_zero.mp parallel.symm with zero | zero
      · exact ab_moves (sub_eq_zero.mp zero).symm
      · exact cd (Prod.ext (sub_eq_zero.mp zero).symm same)
    rw [decide_eq_true_eq]
    refine intervals_overlap (x := x.2) ?_ ?_
    · rw [y_ab]
      exact strictly_between t_pos t_lt ab_moves rfl rfl
    · rw [y_cd]
      exact strictly_between s_pos s_lt cd_moves rfl rfl

theorem contact_flagged {x : ℝ × ℝ} (ab : a ≠ b) (cd : c ≠ d)
    (first : x ∈ segment ℝ (PointMM.toReal a) (PointMM.toReal b))
    (second : x ∈ segment ℝ (PointMM.toReal c) (PointMM.toReal d)) :
    (x = PointMM.toReal a ∨ x = PointMM.toReal b) ∧ (x = PointMM.toReal c ∨ x = PointMM.toReal d) ∨
      properIntersection a b c d = true ∨ collinearOverlap a b c d = true ∨
      pointInOpenSegment a c d = true ∨ pointInOpenSegment b c d = true ∨
      pointInOpenSegment c a b = true ∨ pointInOpenSegment d a b = true := by
  rcases mem_segment_cases.mp first with rfl | rfl | inner <;>
    rcases mem_segment_cases.mp second with same | same | inner'
  · exact .inl ⟨.inl rfl, .inl same⟩
  · exact .inl ⟨.inl rfl, .inr same⟩
  · simp [point_in_open_of_mem cd inner']
  · exact .inl ⟨.inr rfl, .inl same⟩
  · exact .inl ⟨.inr rfl, .inr same⟩
  · simp [point_in_open_of_mem cd inner']
  · simp [point_in_open_of_mem ab (same ▸ inner)]
  · simp [point_in_open_of_mem ab (same ▸ inner)]
  · rcases inner_contact inner inner' with crosses | ⟨flat_c, flat_d⟩
    · simp [proper_of_crosses crosses]
    · rw [cross_to_real] at flat_c flat_d
      simp [overlap_of_inner ab cd (by exact_mod_cast flat_c) (by exact_mod_cast flat_d) inner inner']

end Contact

section Cover

theorem between_neighbours {t : ℝ} : ∀ {l : List ℚ} {e : ℚ}, (e : ℝ) ≤ t →
    (∃ last ∈ e :: l, t ≤ last) → (∃ hit ∈ e :: l, (hit : ℝ) = t) ∨
      ∃ pair ∈ (e :: l).zip l, (pair.1 : ℝ) < t ∧ t < pair.2
  | [], e, low, ⟨last, listed, high⟩ => by
    obtain rfl := List.mem_singleton.mp listed
    exact .inl ⟨last, listed, le_antisymm low high⟩
  | next :: l, e, low, ⟨last, listed, high⟩ => by
    by_cases here : (e : ℝ) = t
    · exact .inl ⟨e, List.mem_cons_self, here⟩
    · have above : (e : ℝ) < t := lt_of_le_of_ne low here
      by_cases ahead : t < next
      · exact .inr ⟨(e, next), List.mem_cons_self, above, ahead⟩
      · have later : last ∈ next :: l := by
          rcases List.mem_cons.mp listed with rfl | later
          · exact absurd high (not_le.mpr above)
          · exact later
        rcases between_neighbours (not_lt.mp ahead) ⟨last, later, high⟩ with
          ⟨hit, listed, same⟩ | ⟨pair, listed, inside⟩
        · exact .inl ⟨hit, List.mem_cons_of_mem e listed, same⟩
        · exact .inr ⟨pair, List.mem_cons_of_mem (e, next) listed, inside⟩

theorem none_between : ∀ {l : List ℚ} {e : ℚ}, (e :: l).Pairwise (· ≤ ·) →
    ∀ pair ∈ (e :: l).zip l, ∀ entry ∈ e :: l, entry ≤ pair.1 ∨ pair.2 ≤ entry
  | [], _, _, pair, listed, _, _ => by cases listed
  | next :: l, e, sorted, pair, listed, entry, member => by
    obtain ⟨first, rest⟩ := List.pairwise_cons.mp sorted
    rcases List.mem_cons.mp listed with rfl | later
    · rcases List.mem_cons.mp member with rfl | after
      · exact .inl (le_refl _)
      · right
        rcases List.mem_cons.mp after with rfl | beyond
        · exact le_refl _
        · exact (List.pairwise_cons.mp rest).1 entry beyond
    · rcases List.mem_cons.mp member with rfl | after
      · left
        have start := List.of_mem_zip later
        exact first pair.1 start.1
      · exact none_between rest pair later entry after

variable {cellMm : ℤ}

theorem grid_event_mem {start delta line : ℤ} {event : ℚ} (size : 0 < cellMm)
    (value : (start : ℚ) + event * delta = line * cellMm) (moves : delta ≠ 0) (low : 0 < event)
    (high : event < 1) : event ∈ gridEvents start delta cellMm := by
  have whole : (delta : ℚ) ≠ 0 := by exact_mod_cast moves
  have event_eq : event = ((line * cellMm - start : ℤ) : ℚ) / delta := by
    field_simp
    push_cast
    linear_combination value
  -- strictly inside, the line is strictly between both ends
  have inside : min start (start + delta) < line * cellMm ∧
      line * cellMm < max start (start + delta) := by
    rcases lt_or_gt_of_ne moves with down | up
    · have down' : (delta : ℚ) < 0 := by exact_mod_cast down
      rw [min_eq_right (by omega), max_eq_left (by omega)]
      constructor
      · have : ((start + delta : ℤ) : ℚ) < ((line * cellMm : ℤ) : ℚ) := by push_cast; nlinarith
        exact_mod_cast this
      · have : ((line * cellMm : ℤ) : ℚ) < (start : ℚ) := by push_cast; nlinarith
        exact_mod_cast this
    · have up' : (0 : ℚ) < delta := by exact_mod_cast up
      rw [min_eq_left (by omega), max_eq_right (by omega)]
      constructor
      · have : (start : ℚ) < ((line * cellMm : ℤ) : ℚ) := by push_cast; nlinarith
        exact_mod_cast this
      · have : ((line * cellMm : ℤ) : ℚ) < ((start + delta : ℤ) : ℚ) := by push_cast; nlinarith
        exact_mod_cast this
  have first : min start (start + delta) / cellMm + 1 ≤ line :=
    Int.add_one_le_iff.mpr (Int.ediv_lt_of_lt_mul size inside.1)
  have last : line ≤ (max start (start + delta) - 1) / cellMm :=
    (Int.le_ediv_iff_mul_le size).mpr (Int.le_sub_one_of_lt inside.2)
  unfold gridEvents
  rw [if_neg moves]
  simp only [List.mem_filter, List.mem_map, List.mem_range, decide_eq_true_eq]
  refine ⟨⟨(line - (min start (start + delta) / cellMm + 1)).toNat, by omega, ?_⟩, low, high⟩
  rw [event_eq, Int.toNat_of_nonneg (by omega)]
  simp

/-- Between two neighbouring events a coordinate stays within one grid column. -/
theorem floor_le_of_no_event {start delta : ℤ} {low high : ℚ} {t u : ℝ} (size : 0 < cellMm)
    (none : ∀ event ∈ gridEvents start delta cellMm, event ≤ low ∨ high ≤ event) (unit : 0 ≤ low)
    (unit' : high ≤ 1) (t_in : (low : ℝ) < t ∧ t < high) (u_in : (low : ℝ) < u ∧ u < high) :
    ⌊(start + u * delta) / cellMm⌋ ≤ ⌊(start + t * delta) / cellMm⌋ := by
  have size' : (0 : ℝ) < cellMm := by exact_mod_cast size
  by_contra lower
  have before : start + t * delta < ⌊(start + u * delta) / cellMm⌋ * (cellMm : ℝ) :=
    (div_lt_iff₀ size').mp (Int.floor_lt.mp (not_le.mp lower))
  have after : ⌊(start + u * delta) / cellMm⌋ * (cellMm : ℝ) ≤ start + u * delta :=
    (le_div_iff₀ size').mp (Int.floor_le _)
  generalize ⌊((start : ℝ) + u * delta) / cellMm⌋ = line at before after
  have moves : delta ≠ 0 := by
    rintro rfl
    simp only [Int.cast_zero, mul_zero, add_zero] at before after
    linarith
  have moves' : (delta : ℝ) ≠ 0 := by exact_mod_cast moves
  -- the line is met at an event, which lies between the two values
  have value : (start : ℝ) + ((line * cellMm - start) / delta) * delta = line * cellMm := by
    field_simp
    ring
  have inside : (low : ℝ) < (line * cellMm - start) / delta ∧
      ((line : ℝ) * cellMm - start) / delta < high := by
    generalize ((line : ℝ) * cellMm - start) / delta = w at value
    have past_t : t * delta < w * delta := by linarith
    have to_u : w * delta ≤ u * delta := by linarith
    rcases lt_or_gt_of_ne moves' with down | up
    · exact ⟨u_in.1.trans_le ((mul_le_mul_right_of_neg down).mp to_u),
        ((mul_lt_mul_right_of_neg down).mp past_t).trans t_in.2⟩
    · exact ⟨t_in.1.trans (lt_of_mul_lt_mul_right past_t up.le),
        (le_of_mul_le_mul_right to_u up).trans_lt u_in.2⟩
  have event_eq : (((line * cellMm - start : ℤ) : ℚ) / delta : ℚ) =
      ((line : ℝ) * cellMm - start) / delta := by
    push_cast
    rfl
  rw [← event_eq] at inside
  have above : low < ((line * cellMm - start : ℤ) : ℚ) / delta := by exact_mod_cast inside.1
  have below : ((line * cellMm - start : ℤ) : ℚ) / delta < high := by exact_mod_cast inside.2
  have listed : ((line * cellMm - start : ℤ) : ℚ) / delta ∈ gridEvents start delta cellMm := by
    have whole : (delta : ℚ) ≠ 0 := by exact_mod_cast moves
    have crossing : (start : ℚ) + (((line * cellMm - start : ℤ) : ℚ) / delta) * delta =
        line * cellMm := by
      field_simp
      push_cast
      ring
    exact grid_event_mem size crossing moves (unit.trans_lt above) (below.trans_le unit')
  rcases none _ listed with early | late
  · exact absurd early (not_le.mpr above)
  · exact absurd late (not_le.mpr below)

theorem floor_eq_of_no_event {start delta : ℤ} {low high : ℚ} {t u : ℝ} (size : 0 < cellMm)
    (none : ∀ event ∈ gridEvents start delta cellMm, event ≤ low ∨ high ≤ event) (unit : 0 ≤ low)
    (unit' : high ≤ 1) (t_in : (low : ℝ) < t ∧ t < high) (u_in : (low : ℝ) < u ∧ u < high) :
    ⌊(start + t * delta) / cellMm⌋ = ⌊(start + u * delta) / cellMm⌋ :=
  le_antisymm (floor_le_of_no_event size none unit unit' u_in t_in)
    (floor_le_of_no_event size none unit unit' t_in u_in)

theorem mem_segment_events {left right : PointMM} {event : ℚ} :
    event ∈ segmentEvents left right cellMm ↔ event = 0 ∨ event = 1 ∨
      event ∈ gridEvents left.1 (right.1 - left.1) cellMm ∨
      event ∈ gridEvents left.2 (right.2 - left.2) cellMm := by
  simp [segmentEvents]

theorem segment_events_unit {left right : PointMM} {event : ℚ}
    (h : event ∈ segmentEvents left right cellMm) : 0 ≤ event ∧ event ≤ 1 := by
  have grid : ∀ start delta, event ∈ gridEvents start delta cellMm → 0 ≤ event ∧ event ≤ 1 := by
    intro start delta listed
    unfold gridEvents at listed
    split at listed
    · cases listed
    · have bounds := (List.mem_filter.mp listed).2
      rw [decide_eq_true_eq] at bounds
      exact ⟨bounds.1.le, bounds.2.le⟩
  rcases mem_segment_events.mp h with rfl | rfl | first | second
  · norm_num
  · norm_num
  · exact grid _ _ first
  · exact grid _ _ second

/-- The cell that a point lies in, rounding down on grid lines. -/
noncomputable def cellOf (cellMm : ℤ) (x : ℝ × ℝ) : ℤ × ℤ := (⌊x.1 / cellMm⌋, ⌊x.2 / cellMm⌋)

theorem axis_cells_floor (x : ℚ) : ⌊((x : ℝ)) / cellMm⌋ ∈ axisCells cellMm x := by
  have same : ⌊(x : ℝ) / cellMm⌋ = ⌊x / cellMm⌋ := by
    rw [← Rat.floor_cast (α := ℝ) (x / cellMm)]
    push_cast
    rfl
  unfold axisCells
  rw [same]
  split <;> simp

theorem supercover_mem {left right : PointMM} (size : 0 < cellMm) {x : ℝ × ℝ}
    (h : x ∈ segment ℝ (PointMM.toReal left) (PointMM.toReal right)) :
    cellOf cellMm x ∈ segmentSupercoverCells left right cellMm := by
  rw [segment_eq_image'] at h
  obtain ⟨t, ⟨low, high⟩, rfl⟩ := h
  have coords : cellOf cellMm
      (PointMM.toReal left + t • (PointMM.toReal right - PointMM.toReal left)) =
      (⌊((left.1 : ℝ) + t * ((right.1 - left.1 : ℤ) : ℝ)) / cellMm⌋,
        ⌊((left.2 : ℝ) + t * ((right.2 - left.2 : ℤ) : ℝ)) / cellMm⌋) := by
    simp [cellOf, PointMM.toReal]
  have at_rational : ∀ e : ℚ,
      (⌊((left.1 : ℝ) + e * ((right.1 - left.1 : ℤ) : ℝ)) / cellMm⌋,
        ⌊((left.2 : ℝ) + e * ((right.2 - left.2 : ℤ) : ℝ)) / cellMm⌋) ∈
        pointCells left right cellMm e := by
    intro e
    refine List.mem_product.mpr ⟨?_, ?_⟩
    · have listed : ⌊((left.1 + e * (right.1 - left.1) : ℚ) : ℝ) / cellMm⌋ ∈
          axisCells cellMm (left.1 + e * (right.1 - left.1)) := axis_cells_floor _
      push_cast at listed ⊢
      exact listed
    · have listed : ⌊((left.2 + e * (right.2 - left.2) : ℚ) : ℝ) / cellMm⌋ ∈
          axisCells cellMm (left.2 + e * (right.2 - left.2)) := axis_cells_floor _
      push_cast at listed ⊢
      exact listed
  rw [coords]
  have sorted : (segmentEvents left right cellMm).Pairwise (· ≤ ·) :=
    List.pairwise_insertionSort _ _
  have starts : (0 : ℚ) ∈ segmentEvents left right cellMm := mem_segment_events.mpr (.inl rfl)
  have ends : (1 : ℚ) ∈ segmentEvents left right cellMm := mem_segment_events.mpr (.inr (.inl rfl))
  have unit : ∀ e ∈ segmentEvents left right cellMm, 0 ≤ e ∧ e ≤ 1 := fun e => segment_events_unit
  have grid : ∀ e, e ∈ gridEvents left.1 (right.1 - left.1) cellMm ∨
      e ∈ gridEvents left.2 (right.2 - left.2) cellMm → e ∈ segmentEvents left right cellMm :=
    fun e found => mem_segment_events.mpr (.inr (.inr found))
  unfold segmentSupercoverCells
  generalize segmentEvents left right cellMm = events at sorted starts ends unit grid ⊢
  match events, sorted, starts, ends, unit, grid with
  | [], _, starts, _, _, _ => cases starts
  | first :: rest, sorted, starts, ends, unit, grid =>
    rw [List.mem_dedup, List.mem_append]
    have before : (first : ℝ) ≤ t := by
      have zero : first ≤ 0 := by
        rcases List.mem_cons.mp starts with same | later
        · exact same.ge
        · exact (List.pairwise_cons.mp sorted).1 0 later
      exact le_trans (by exact_mod_cast zero) low
    rcases between_neighbours before ⟨1, ends, by exact_mod_cast high⟩ with
      ⟨hit, listed, rfl⟩ | ⟨pair, listed, inside⟩
    · exact .inl (List.mem_flatMap.mpr ⟨hit, listed, at_rational hit⟩)
    · right
      refine List.mem_flatMap.mpr ⟨pair, listed, ?_⟩
      have members := List.of_mem_zip listed
      have none := none_between sorted pair listed
      have halfway : (pair.1 : ℝ) < ((pair.1 + pair.2) / 2 : ℚ) ∧
          (((pair.1 + pair.2) / 2 : ℚ) : ℝ) < pair.2 := by
        push_cast
        constructor <;> linarith
      have start := (unit pair.1 members.1).1
      have stop := (unit pair.2 (List.mem_cons_of_mem first members.2)).2
      rw [floor_eq_of_no_event size (fun e found => none e (grid e (.inl found))) start stop inside
          halfway,
        floor_eq_of_no_event size (fun e found => none e (grid e (.inr found))) start stop inside
          halfway]
      exact at_rational _

end Cover

end Metroflow.City
