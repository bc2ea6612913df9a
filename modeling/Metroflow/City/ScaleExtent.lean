import Metroflow.Lib.Rounding

namespace Metroflow.City
open Lib

/-- A scale specification that passes its checks. -/
structure CityScaleSpec where
  targetPopulation : ℤ
  urbanizedAreaKm2 : ℚ
  population : 100000 ≤ targetPopulation ∧ targetPopulation ≤ 1000000
  area : 0 < urbanizedAreaKm2 ∧ urbanizedAreaKm2 ≤ 400
  density : 2500 ≤ targetPopulation / urbanizedAreaKm2 ∧
    targetPopulation / urbanizedAreaKm2 ≤ 6667

/-- Width and height for an area in the proportion nine to seven. -/
def extentMm (sqrt : ℚ → ℚ) (areaKm2 : ℚ) : ℤ × ℤ :=
  let widthM := sqrt (areaKm2 * 1000000 * 9 / 7)
  (roundHalfEven (widthM * 1000), roundHalfEven (widthM * 7 / 9 * 1000))

structure Extent where
  minX : ℤ
  maxX : ℤ
  minY : ℤ
  maxY : ℤ
  deriving DecidableEq

def cityExtent (sqrt : ℚ → ℚ) (spec : CityScaleSpec) : Extent :=
  let (widthMm, heightMm) := extentMm sqrt spec.urbanizedAreaKm2
  let minX := (-widthMm) / 2
  let minY := (-heightMm) / 2
  { minX := minX, maxX := minX + widthMm, minY := minY, maxY := minY + heightMm }

/-- A square root up to rounding. -/
structure RootOf (x root : ℚ) : Prop where
  nonneg : 0 ≤ root
  low : x * (1 - 1 / 2 ^ 50) ≤ root ^ 2
  high : root ^ 2 ≤ x * (1 + 1 / 2 ^ 50)

/-- The extent of a specification, with the square root taken as the library takes it. -/
def ScaledTo (spec : CityScaleSpec) (extent : Extent) : Prop :=
  ∃ sqrt : ℚ → ℚ, RootOf (spec.urbanizedAreaKm2 * 1000000 * 9 / 7)
      (sqrt (spec.urbanizedAreaKm2 * 1000000 * 9 / 7)) ∧
    extent = cityExtent sqrt spec

structure CityExtent (extent : Extent) : Prop where
  wide : 3000000 ≤ extent.maxX - extent.minX
  high : 2000000 ≤ extent.maxY - extent.minY
  /-- A sixteenth of the width, twelve times, is less than the height. -/
  stretch : 12 * ((extent.maxX - extent.minX) / 16) ≤ extent.maxY - extent.minY
  /-- The height is at most the width. -/
  flat : extent.maxY - extent.minY ≤ extent.maxX - extent.minX
  centered_x : -1 ≤ extent.minX + extent.maxX ∧ extent.minX + extent.maxX ≤ 0
  centered_y : -1 ≤ extent.minY + extent.maxY ∧ extent.minY + extent.maxY ≤ 0

theorem width_of_spec {spec : CityScaleSpec} {root : ℚ}
    (h : RootOf (spec.urbanizedAreaKm2 * 1000000 * 9 / 7) root) : 4000 ≤ root := by
  have area := spec.area.1
  have people : (100000 : ℚ) ≤ spec.targetPopulation := by exact_mod_cast spec.population.1
  have dense := (div_le_iff₀ area).mp spec.density.2
  have large : (14 : ℚ) ≤ spec.urbanizedAreaKm2 := by linarith
  have low := h.low
  by_contra small
  have square : root ^ 2 < 4000 ^ 2 := by
    have := h.nonneg
    gcongr
    exact not_le.mp small
  have scaled : (14 : ℚ) * 1000000 * 9 / 7 * (1 - 1 / 2 ^ 50) ≤
      spec.urbanizedAreaKm2 * 1000000 * 9 / 7 * (1 - 1 / 2 ^ 50) := by
    gcongr
  norm_num at scaled square low
  linarith

theorem ScaledTo.city {spec : CityScaleSpec} {extent : Extent} (h : ScaledTo spec extent) :
    CityExtent extent := by
  obtain ⟨sqrt, root, rfl⟩ := h
  have wide := width_of_spec root
  unfold cityExtent extentMm
  dsimp only
  generalize sqrt (spec.urbanizedAreaKm2 * 1000000 * 9 / 7) = widthM at wide
  have width := abs_le.mp (round_half_even_error (widthM * 1000))
  have height := abs_le.mp (round_half_even_error (widthM * 7 / 9 * 1000))
  generalize roundHalfEven (widthM * 1000) = w at width
  generalize roundHalfEven (widthM * 7 / 9 * 1000) = v at height
  have w_large : (3000000 : ℤ) ≤ w := by
    have : (3000000 : ℚ) ≤ w := by linarith
    exact_mod_cast this
  have v_large : (2000000 : ℤ) ≤ v := by
    have : (2000000 : ℚ) ≤ v := by linarith
    exact_mod_cast this
  have flat : v ≤ w := by
    have : (v : ℚ) ≤ w := by linarith
    exact_mod_cast this
  have stretch : 3 * w ≤ 4 * v := by
    have : (3 : ℚ) * w ≤ 4 * v := by linarith
    exact_mod_cast this
  constructor <;> dsimp only <;> omega

end Metroflow.City
