import Metroflow.City.ScaleExtent
import Metroflow.Lib.Loops
import Metroflow.Lib.Sha256

namespace Metroflow.City
open Lib

def organicMaxAxisDisplacementMm : ℤ := 500000

def knot (seed amplitudeMm : ℤ) (axis : String) (index : ℤ) : ℤ :=
  let raw := digestNumber 8 s!"{seed}:organic-{axis}:{index}"
  raw % (2 * amplitudeMm + 1) - amplitudeMm

def organicAxisDisplacementMm (seed value minimum maximum amplitudeMm : ℤ) (axis : String) : ℤ :=
  let intervalCount := 6
  let span := maximum - minimum
  let position := (value - minimum) * intervalCount
  let leftIndex := min (intervalCount - 1) (max 0 (position / span))
  let remainder := position - leftIndex * span
  let left := knot seed amplitudeMm axis leftIndex
  let right := knot seed amplitudeMm axis (leftIndex + 1)
  (left * (span - remainder) + right * remainder) / span

def organicWarpPoint (seed : ℤ) (point : ℤ × ℤ) (extent : Extent) : Except String (ℤ × ℤ) := do
  let (xMm, yMm) := point
  let centerX := (extent.minX + extent.maxX) / 2
  let centerY := (extent.minY + extent.maxY) / 2
  let scaledX := centerX + (xMm - centerX) * 3 / 4
  let warpedX := scaledX + organicAxisDisplacementMm seed yMm extent.minY extent.maxY
    (min ((extent.maxX - extent.minX) / 16) organicMaxAxisDisplacementMm) "x"
  let scaledY := centerY + (yMm - centerY) * 3 / 4
  let warpedY := scaledY + organicAxisDisplacementMm seed warpedX extent.minX extent.maxX
    (min ((extent.maxY - extent.minY) / 16) organicMaxAxisDisplacementMm) "y"
  raiseIf (¬ (extent.minX ≤ warpedX ∧ warpedX ≤ extent.maxX ∧ extent.minY ≤ warpedY ∧
    warpedY ≤ extent.maxY)) "organic warp cannot fit declared extent"
  return (warpedX, warpedY)

def Extent.Contains (extent : Extent) (point : ℤ × ℤ) : Prop :=
  extent.minX ≤ point.1 ∧ point.1 ≤ extent.maxX ∧ extent.minY ≤ point.2 ∧ point.2 ≤ extent.maxY

instance (extent : Extent) (point : ℤ × ℤ) : Decidable (extent.Contains point) :=
  inferInstanceAs (Decidable (_ ∧ _))

section Displacement

variable {value minimum maximum : ℤ} (seed amplitudeMm index : ℤ) (axis : String)

variable {seed amplitudeMm index axis} in
theorem knot_bounded (nonneg : 0 ≤ amplitudeMm) :
    -amplitudeMm ≤ knot seed amplitudeMm axis index ∧
      knot seed amplitudeMm axis index ≤ amplitudeMm := by
  unfold knot
  dsimp only
  generalize (digestNumber 8 _ : ℤ) = raw
  have low := Int.emod_nonneg raw (show 2 * amplitudeMm + 1 ≠ 0 by omega)
  have high := Int.emod_lt_of_pos raw (show 0 < 2 * amplitudeMm + 1 by omega)
  omega

/-- Where a value lies between the knots of its axis. -/
structure Between (value minimum span index remainder : ℤ) : Prop where
  index_range : 0 ≤ index ∧ index ≤ 5
  remainder_range : 0 ≤ remainder ∧ remainder ≤ span
  position : (value - minimum) * 6 = index * span + remainder
  /-- A value on a knot belongs to the interval on its right. -/
  last : remainder = span → index = 5

theorem displacement_between (wide : 0 < maximum - minimum)
    (inside : minimum ≤ value ∧ value ≤ maximum) :
    ∃ index remainder, Between value minimum (maximum - minimum) index remainder ∧
      organicAxisDisplacementMm seed value minimum maximum amplitudeMm axis =
        (knot seed amplitudeMm axis index * (maximum - minimum - remainder) +
          knot seed amplitudeMm axis (index + 1) * remainder) / (maximum - minimum) := by
  have quotient := Int.ediv_mul_add_emod ((value - minimum) * 6) (maximum - minimum)
  have low := Int.emod_nonneg ((value - minimum) * 6) wide.ne'
  have high := Int.emod_lt_of_pos ((value - minimum) * 6) wide
  have first : 0 ≤ (value - minimum) * 6 / (maximum - minimum) :=
    Int.ediv_nonneg (by omega) wide.le
  have last : (value - minimum) * 6 / (maximum - minimum) ≤ 6 := by
    refine Int.ediv_le_of_le_mul wide ?_
    omega
  have chosen : min (6 - 1) (max 0 ((value - minimum) * 6 / (maximum - minimum))) =
      if (value - minimum) * 6 / (maximum - minimum) = 6 then 5
      else (value - minimum) * 6 / (maximum - minimum) := by
    split <;> omega
  unfold organicAxisDisplacementMm
  dsimp only
  rw [chosen]
  generalize (value - minimum) * 6 / (maximum - minimum) = q at *
  refine ⟨_, _, ?_, rfl⟩
  split
  · rename_i top
    subst top
    exact ⟨by omega, by omega, by ring, fun _ => rfl⟩
  · exact ⟨by omega, by omega, by ring, by omega⟩

theorem displacement_bounded (wide : 0 < maximum - minimum) (nonneg : 0 ≤ amplitudeMm)
    (inside : minimum ≤ value ∧ value ≤ maximum) :
    -amplitudeMm ≤ organicAxisDisplacementMm seed value minimum maximum amplitudeMm axis ∧
      organicAxisDisplacementMm seed value minimum maximum amplitudeMm axis ≤ amplitudeMm := by
  obtain ⟨index, remainder, between, eq⟩ := displacement_between seed amplitudeMm axis wide inside
  obtain ⟨low, high⟩ := between.remainder_range
  rw [eq]
  generalize left_eq : knot seed amplitudeMm axis index = left
  generalize right_eq : knot seed amplitudeMm axis (index + 1) = right
  obtain ⟨left_low, left_high⟩ := left_eq ▸ knot_bounded nonneg
  obtain ⟨right_low, right_high⟩ := right_eq ▸ knot_bounded nonneg
  constructor
  · rw [Int.le_ediv_iff_mul_le wide]
    nlinarith
  · refine Int.ediv_le_of_le_mul wide ?_
    nlinarith

theorem quotient_step {a b n : ℤ} (pos : 0 < n) (near : |a - b| ≤ n) : |a / n - b / n| ≤ 1 := by
  obtain ⟨low, high⟩ := abs_le.mp near
  have up : a / n ≤ (b + n) / n := Int.ediv_le_ediv pos (by omega)
  have down : b / n ≤ (a + n) / n := Int.ediv_le_ediv pos (by omega)
  rw [Int.add_ediv_of_dvd_right (dvd_refl n), Int.ediv_self pos.ne'] at up down
  rw [abs_le]
  omega

theorem Between.next {span index remainder index' remainder' : ℤ} (wide : 6 < span)
    (h : Between value minimum span index remainder)
    (h' : Between (value + 1) minimum span index' remainder') :
    index' = index ∧ remainder' = remainder + 6 ∨
      index' = index + 1 ∧ remainder' = remainder + 6 - span := by
  obtain ⟨low, high⟩ := h.remainder_range
  obtain ⟨low', high'⟩ := h'.remainder_range
  have moved : (index' - index) * span = remainder + 6 - remainder' := by
    have := h.position
    have := h'.position
    linarith
  have forward : 0 ≤ index' - index := by
    by_contra back
    have : (index' - index) * span ≤ -1 * span :=
      mul_le_mul_of_nonneg_right (by omega) (by omega)
    omega
  have near : index' - index ≤ 1 := by
    by_contra far
    have : 2 * span ≤ (index' - index) * span :=
      mul_le_mul_of_nonneg_right (by omega) (by omega)
    omega
  rcases (show index' - index = 0 ∨ index' - index = 1 by omega) with same | next
  · rw [same, zero_mul] at moved
    exact .inl ⟨by omega, by omega⟩
  · rw [next, one_mul] at moved
    exact .inr ⟨by omega, by omega⟩

/-- The displacement of neighbouring values differs by one at most: between two knots it rises
or falls by less than the distance of the values. -/
theorem displacement_step (wide : 6 < maximum - minimum) (nonneg : 0 ≤ amplitudeMm)
    (flat : 12 * amplitudeMm ≤ maximum - minimum) (inside : minimum ≤ value ∧ value + 1 ≤ maximum) :
    |organicAxisDisplacementMm seed (value + 1) minimum maximum amplitudeMm axis -
      organicAxisDisplacementMm seed value minimum maximum amplitudeMm axis| ≤ 1 := by
  have pos : 0 < maximum - minimum := by omega
  obtain ⟨i, r, between, eq⟩ :=
    displacement_between seed amplitudeMm axis pos ⟨inside.1, by omega⟩
  obtain ⟨i', r', between', eq'⟩ :=
    displacement_between seed amplitudeMm axis pos ⟨by omega, inside.2⟩
  rw [eq, eq']
  refine quotient_step pos ?_
  have bounded : ∀ index, -amplitudeMm ≤ knot seed amplitudeMm axis index ∧
      knot seed amplitudeMm axis index ≤ amplitudeMm := fun index => knot_bounded nonneg
  obtain ⟨left_low, left_high⟩ := bounded i
  obtain ⟨right_low, right_high⟩ := bounded (i + 1)
  rcases between.next wide between' with ⟨rfl, rfl⟩ | ⟨rfl, rfl⟩
  · have moved : knot seed amplitudeMm axis i' * (maximum - minimum - (r + 6)) +
        knot seed amplitudeMm axis (i' + 1) * (r + 6) -
          (knot seed amplitudeMm axis i' * (maximum - minimum - r) +
            knot seed amplitudeMm axis (i' + 1) * r) =
        6 * (knot seed amplitudeMm axis (i' + 1) - knot seed amplitudeMm axis i') := by ring
    rw [moved, abs_le]
    omega
  · obtain ⟨far_low, far_high⟩ := bounded (i + 1 + 1)
    obtain ⟨low, -⟩ := between'.remainder_range
    obtain ⟨-, high⟩ := between.remainder_range
    generalize knot seed amplitudeMm axis (i + 1 + 1) = far at *
    generalize knot seed amplitudeMm axis (i + 1) = right at *
    generalize knot seed amplitudeMm axis i = left at *
    -- of the six units, some lie before the knot and the rest behind it
    obtain ⟨past, rfl⟩ : ∃ past, r = maximum - minimum - 6 + past :=
      ⟨r - (maximum - minimum) + 6, by ring⟩
    have moved : right * (maximum - minimum - (maximum - minimum - 6 + past + 6 -
          (maximum - minimum))) + far * (maximum - minimum - 6 + past + 6 - (maximum - minimum)) -
          (left * (maximum - minimum - (maximum - minimum - 6 + past)) +
            right * (maximum - minimum - 6 + past)) =
        (right - left) * (6 - past) + (far - right) * past := by ring
    have before : |(right - left) * (6 - past)| ≤ 2 * amplitudeMm * (6 - past) := by
      rw [abs_mul, abs_of_nonneg (show 0 ≤ 6 - past by omega)]
      exact mul_le_mul_of_nonneg_right (abs_le.mpr (by omega)) (by omega)
    have behind : |(far - right) * past| ≤ 2 * amplitudeMm * past := by
      rw [abs_mul, abs_of_nonneg (show 0 ≤ past by omega)]
      exact mul_le_mul_of_nonneg_right (abs_le.mpr (by omega)) (by omega)
    rw [moved]
    refine (abs_add_le _ _).trans ?_
    linarith

end Displacement

section Warp

variable {spec : CityScaleSpec} {extent : Extent} (seed : ℤ) {p q z : ℤ × ℤ}

/-- The displacement across the axis at a place of the vertical axis. -/
def shiftX (seed : ℤ) (extent : Extent) (yMm : ℤ) : ℤ :=
  organicAxisDisplacementMm seed yMm extent.minY extent.maxY
    (min ((extent.maxX - extent.minX) / 16) organicMaxAxisDisplacementMm) "x"

def shiftY (seed : ℤ) (extent : Extent) (xMm : ℤ) : ℤ :=
  organicAxisDisplacementMm seed xMm extent.minX extent.maxX
    (min ((extent.maxY - extent.minY) / 16) organicMaxAxisDisplacementMm) "y"

variable {seed} in
theorem organic_warp_ok : organicWarpPoint seed p extent = .ok z ↔ extent.Contains z ∧
    z.1 = (extent.minX + extent.maxX) / 2 + (p.1 - (extent.minX + extent.maxX) / 2) * 3 / 4 +
      shiftX seed extent p.2 ∧
    z.2 = (extent.minY + extent.maxY) / 2 + (p.2 - (extent.minY + extent.maxY) / 2) * 3 / 4 +
      shiftY seed extent z.1 := by
  simp only [organicWarpPoint, bind_ok, raise_if_ok, pure_ok, not_not]
  constructor
  · rintro ⟨-, fits, rfl⟩
    exact ⟨fits, rfl, rfl⟩
  · rintro ⟨fits, first, second⟩
    obtain ⟨x, y⟩ := z
    dsimp only at first second
    subst first
    subst second
    exact ⟨(), fits, rfl⟩

theorem shift_x_bounded (city : CityExtent extent) {y : ℤ}
    (inside : extent.minY ≤ y ∧ y ≤ extent.maxY) :
    -((extent.maxX - extent.minX) / 16) ≤ shiftX seed extent y ∧
      shiftX seed extent y ≤ (extent.maxX - extent.minX) / 16 := by
  have high := city.high
  have wide := city.wide
  obtain ⟨low, up⟩ := displacement_bounded seed
    (min ((extent.maxX - extent.minX) / 16) organicMaxAxisDisplacementMm) "x"
    (show 0 < extent.maxY - extent.minY by omega)
    (by unfold organicMaxAxisDisplacementMm; omega) inside
  unfold shiftX
  omega

theorem shift_y_bounded (city : CityExtent extent) {x : ℤ}
    (inside : extent.minX ≤ x ∧ x ≤ extent.maxX) :
    -((extent.maxY - extent.minY) / 16) ≤ shiftY seed extent x ∧
      shiftY seed extent x ≤ (extent.maxY - extent.minY) / 16 := by
  have high := city.high
  have wide := city.wide
  obtain ⟨low, up⟩ := displacement_bounded seed
    (min ((extent.maxY - extent.minY) / 16) organicMaxAxisDisplacementMm) "y"
    (show 0 < extent.maxX - extent.minX by omega)
    (by unfold organicMaxAxisDisplacementMm; omega) inside
  unfold shiftY
  omega

theorem organic_warp_fits (city : CityExtent extent) (inside : extent.Contains p) :
    ∃ z, organicWarpPoint seed p extent = .ok z := by
  obtain ⟨left, right, bottom, top⟩ := inside
  have high := city.high
  have wide := city.wide
  have center_x := city.centered_x
  have center_y := city.centered_y
  obtain ⟨x_low, x_high⟩ := shift_x_bounded seed city ⟨bottom, top⟩
  obtain ⟨x, x_eq⟩ : ∃ x, x = (extent.minX + extent.maxX) / 2 +
    (p.1 - (extent.minX + extent.maxX) / 2) * 3 / 4 + shiftX seed extent p.2 := ⟨_, rfl⟩
  have x_inside : extent.minX ≤ x ∧ x ≤ extent.maxX := by omega
  obtain ⟨y_low, y_high⟩ := shift_y_bounded seed city x_inside
  obtain ⟨y, y_eq⟩ : ∃ y, y = (extent.minY + extent.maxY) / 2 +
    (p.2 - (extent.minY + extent.maxY) / 2) * 3 / 4 + shiftY seed extent x := ⟨_, rfl⟩
  refine ⟨(x, y), organic_warp_ok.mpr ⟨⟨x_inside.1, x_inside.2, ?_⟩, x_eq, y_eq⟩⟩
  dsimp only
  omega

theorem shift_x_step (city : CityExtent extent) {y : ℤ}
    (inside : extent.minY ≤ y ∧ y + 1 ≤ extent.maxY) :
    |shiftX seed extent (y + 1) - shiftX seed extent y| ≤ 1 := by
  have high := city.high
  have wide := city.wide
  have stretch := city.stretch
  refine displacement_step seed _ "x" (by omega) ?_ ?_ inside
  · unfold organicMaxAxisDisplacementMm
    omega
  · omega

/-- Points of a city that are warped to one place lie in the same row or in neighbouring ones, at
most two apart in it; in the same row at most one. -/
theorem organic_warp_separates (scaled : ScaledTo spec extent) (p q : ℤ × ℤ)
    (p_inside : extent.Contains p) (q_inside : extent.Contains q) :
    (∃ z, organicWarpPoint seed p extent = .ok z) ∧
      (organicWarpPoint seed p extent = organicWarpPoint seed q extent →
        |p.2 - q.2| ≤ 1 ∧ |p.1 - q.1| ≤ 2 ∧ (p.2 = q.2 → |p.1 - q.1| ≤ 1)) := by
  have city := scaled.city
  obtain ⟨z, warped⟩ := organic_warp_fits seed city p_inside
  refine ⟨⟨z, warped⟩, fun same => ?_⟩
  obtain ⟨-, p_x, p_y⟩ := organic_warp_ok.mp warped
  obtain ⟨-, q_x, q_y⟩ := organic_warp_ok.mp (same ▸ warped)
  have rows : |p.2 - q.2| ≤ 1 := by
    rw [abs_le]
    omega
  have moved : |shiftX seed extent p.2 - shiftX seed extent q.2| ≤ 1 := by
    obtain ⟨low, high⟩ := abs_le.mp rows
    rcases (show p.2 = q.2 ∨ p.2 = q.2 + 1 ∨ q.2 = p.2 + 1 by omega) with level | above | below
    · rw [level, sub_self, abs_zero]
      exact zero_le_one
    · rw [above]
      exact shift_x_step seed city ⟨q_inside.2.2.1, above ▸ p_inside.2.2.2⟩
    · rw [below, abs_sub_comm]
      exact shift_x_step seed city ⟨p_inside.2.2.1, below ▸ q_inside.2.2.2⟩
  rw [abs_le] at moved
  refine ⟨rows, ?_, fun level => ?_⟩
  · rw [abs_le]
    omega
  · rw [level] at p_x
    rw [abs_le]
    omega

/-- Square roots of square numbers. -/
def wholeSqrt (x : ℚ) : ℚ := x.floor.toNat.sqrt

/-- A city of a hundred thousand people on 28 square kilometres, six kilometres wide. -/
def sixKilometreSpec : CityScaleSpec where
  targetPopulation := 100000
  urbanizedAreaKm2 := 28
  population := by decide
  area := by decide +kernel
  density := by decide +kernel

def sixKilometreExtent : Extent := ⟨-3000000, 3000000, -2333334, 2333333⟩

theorem six_kilometre_extent : ScaledTo sixKilometreSpec sixKilometreExtent :=
  ⟨wholeSqrt, ⟨by decide +kernel, by decide +kernel, by decide +kernel⟩, by decide +kernel⟩

/-- With seed one the points (0, 11) and (2, 12) of that city go to one place. -/
theorem points_two_apart_meet : ScaledTo sixKilometreSpec sixKilometreExtent ∧
    sixKilometreExtent.Contains (0, 11) ∧ sixKilometreExtent.Contains (2, 12) ∧
    organicWarpPoint 1 (0, 11) sixKilometreExtent = .ok (178460, 70804) ∧
    organicWarpPoint 1 (2, 12) sixKilometreExtent = .ok (178460, 70804) ∧
    ¬ |(0 : ℤ) - 2| ≤ 1 :=
  ⟨six_kilometre_extent, by decide, by decide, by decide +kernel, by decide +kernel, by decide⟩

theorem six_kilometre_separates :
    (∃ z, organicWarpPoint 1 (0, 11) sixKilometreExtent = .ok z) ∧
      (organicWarpPoint 1 (0, 11) sixKilometreExtent =
          organicWarpPoint 1 (2, 12) sixKilometreExtent →
        |(11 : ℤ) - 12| ≤ 1 ∧ |(0 : ℤ) - 2| ≤ 2 ∧ ((11 : ℤ) = 12 → |(0 : ℤ) - 2| ≤ 1)) :=
  organic_warp_separates 1 six_kilometre_extent (0, 11) (2, 12) (by decide) (by decide)

end Warp

end Metroflow.City
