import Metroflow.Lib.Keyed
import Metroflow.Lib.Loops
import Metroflow.Lib.Rounding
import Metroflow.Lib.Sha256

namespace Metroflow.City
open Lib

/-- `round(value, digits)` -/
def roundDigits (digits : ℕ) (value : ℚ) : ℚ := roundHalfEven (value * 10 ^ digits) / 10 ^ digits

structure DevelopmentFieldConfig where
  correlationLengthM : ℚ
  amplitude : ℚ
  length_pos : 0 < correlationLengthM
  amplitude_range : 0 < amplitude ∧ amplitude ≤ 1 / 2

def defaultDevelopmentFieldConfig : DevelopmentFieldConfig where
  correlationLengthM := 400
  amplitude := 28 / 100
  length_pos := by norm_num
  amplitude_range := by norm_num

structure DeterministicDevelopmentField where
  seed : ℤ
  config : DevelopmentFieldConfig := defaultDevelopmentFieldConfig

namespace DeterministicDevelopmentField

def latticeValue (field : DeterministicDevelopmentField) (xIndex yIndex : ℤ) : ℚ :=
  let raw := digestNumber 8 s!"development_field_v1:{field.seed}:{xIndex}:{yIndex}"
  raw / (18446744073709551615 / 2) - 1

def quintic (value : ℚ) : ℚ := value * value * value * (value * (value * 6 - 15) + 10)

def valueAt (field : DeterministicDevelopmentField) (xM yM : ℚ) : ℚ :=
  let length := field.config.correlationLengthM
  let xIndex := ⌊xM / length⌋
  let yIndex := ⌊yM / length⌋
  let xWeight := quintic (xM / length - xIndex)
  let yWeight := quintic (yM / length - yIndex)
  let lowerLeft := field.latticeValue xIndex yIndex
  let lowerRight := field.latticeValue (xIndex + 1) yIndex
  let upperLeft := field.latticeValue xIndex (yIndex + 1)
  let upperRight := field.latticeValue (xIndex + 1) (yIndex + 1)
  let lower := lowerLeft + xWeight * (lowerRight - lowerLeft)
  let upper := upperLeft + xWeight * (upperRight - upperLeft)
  roundDigits 15 (lower + yWeight * (upper - lower))

def intensityAt (field : DeterministicDevelopmentField) (xM yM : ℚ) : ℚ :=
  4 / 10 + field.config.amplitude * field.valueAt xM yM

theorem quintic_range {t : ℚ} (nonneg : 0 ≤ t) (le : t ≤ 1) : 0 ≤ quintic t ∧ quintic t ≤ 1 := by
  constructor
  · have inner : 0 ≤ t * (t * 6 - 15) + 10 := by
      nlinarith [sq_nonneg (4 * t - 5)]
    exact mul_nonneg (by positivity) inner
  · have rest : 1 - quintic t = (1 - t) ^ 3 * (6 * t ^ 2 + 3 * t + 1) := by
      unfold quintic
      ring
    have : 0 ≤ (1 - t) ^ 3 * (6 * t ^ 2 + 3 * t + 1) :=
      mul_nonneg (pow_nonneg (by linarith) 3) (by positivity)
    linarith

theorem mix_range {a b w : ℚ} (a_range : |a| ≤ 1) (b_range : |b| ≤ 1) (w_range : 0 ≤ w ∧ w ≤ 1) :
    |a + w * (b - a)| ≤ 1 := by
  obtain ⟨a_low, a_high⟩ := abs_le.mp a_range
  obtain ⟨b_low, b_high⟩ := abs_le.mp b_range
  have split : a + w * (b - a) = (1 - w) * a + w * b := by ring
  have rest : 0 ≤ 1 - w := by linarith [w_range.2]
  rw [split, abs_le]
  constructor
  · nlinarith [mul_le_mul_of_nonneg_left a_low rest, mul_le_mul_of_nonneg_left b_low w_range.1]
  · nlinarith [mul_le_mul_of_nonneg_left a_high rest, mul_le_mul_of_nonneg_left b_high w_range.1]

theorem round_digits_range {digits : ℕ} {value : ℚ} (range : |value| ≤ 1) :
    |roundDigits digits value| ≤ 1 := by
  obtain ⟨low, high⟩ := abs_le.mp range
  have pos : (0 : ℚ) < 10 ^ digits := by positivity
  have below : -(10 ^ digits : ℤ) ≤ roundHalfEven (value * 10 ^ digits) := by
    refine round_half_even_mono_int.1 ?_
    push_cast
    nlinarith
  have above : roundHalfEven (value * 10 ^ digits) ≤ (10 ^ digits : ℤ) := by
    refine round_half_even_mono_int.2 ?_
    push_cast
    nlinarith
  have below : -(10 ^ digits : ℚ) ≤ roundHalfEven (value * 10 ^ digits) := by exact_mod_cast below
  have above : (roundHalfEven (value * 10 ^ digits) : ℚ) ≤ 10 ^ digits := by exact_mod_cast above
  rw [roundDigits, abs_le, le_div_iff₀ pos, div_le_iff₀ pos]
  exact ⟨by linarith, by linarith⟩

variable (field : DeterministicDevelopmentField)

theorem lattice_value_range (xIndex yIndex : ℤ) : |field.latticeValue xIndex yIndex| ≤ 1 := by
  unfold latticeValue
  dsimp only
  have small := digest_number_lt 8 s!"development_field_v1:{field.seed}:{xIndex}:{yIndex}"
  generalize digestNumber 8 _ = raw at small
  have bound : (raw : ℚ) ≤ 18446744073709551615 := by
    have : raw ≤ 18446744073709551615 := by omega
    exact_mod_cast this
  rw [abs_le]
  constructor
  · have : (0 : ℚ) ≤ raw / (18446744073709551615 / 2) := by positivity
    linarith
  · have : (raw : ℚ) / (18446744073709551615 / 2) ≤ 2 := by
      rw [div_le_iff₀ (by norm_num)]
      linarith
    linarith

theorem value_at_range (xM yM : ℚ) : |field.valueAt xM yM| ≤ 1 := by
  have weight : ∀ t : ℚ, 0 ≤ quintic (t - ⌊t⌋) ∧ quintic (t - ⌊t⌋) ≤ 1 := fun t =>
    quintic_range (Int.fract_nonneg t) (Int.fract_lt_one t).le
  refine round_digits_range (mix_range (mix_range ?_ ?_ (weight _)) (mix_range ?_ ?_ (weight _))
    (weight _))
  all_goals exact field.lattice_value_range _ _

theorem intensity_at_range (xM yM : ℚ) :
    4 / 10 - field.config.amplitude ≤ field.intensityAt xM yM := by
  have low := (abs_le.mp (field.value_at_range xM yM)).1
  have amplitude := field.config.amplitude_range.1
  unfold intensityAt
  nlinarith

end DeterministicDevelopmentField

def styleIds : List String :=
  ["ring_radial", "grid_core", "polycentric_tod", "river_constrained", "superblock_mixed",
    "organic"]

/-- What a terrain's spacing depends on. -/
structure ScalableTerrainField where
  cellSizeM : ℚ
  seed : ℤ
  styleId : String
  cell_range : 0 < cellSizeM ∧ cellSizeM ≤ 50
  style_known : styleId ∈ styleIds

namespace ScalableTerrainField

def cellKeyAt (terrain : ScalableTerrainField) (xM yM : ℚ) : ℤ × ℤ :=
  (⌊xM / terrain.cellSizeM⌋, ⌊yM / terrain.cellSizeM⌋)

def intensityAt (terrain : ScalableTerrainField) (xM yM : ℚ) : ℚ :=
  if terrain.styleId ≠ "grid_core" then
    DeterministicDevelopmentField.intensityAt { seed := terrain.seed } xM yM
  else
    let (cellX, cellY) := terrain.cellKeyAt xM yM
    let value := digestNumber 4 s!"{terrain.seed}:{terrain.styleId}:{cellX}:{cellY}"
    12 / 100 + 56 / 100 * value / 4294967295

/-- The spacing of streets; the square root is the library's, which refuses negative numbers. -/
def spacingAt (sqrt : ℚ → ℚ) (terrain : ScalableTerrainField) (xM yM : ℚ) : Except String ℚ := do
  raiseIf (terrain.intensityAt xM yM < 0) "math domain error"
  return max 80 (min 220 (220 - 140 * sqrt (terrain.intensityAt xM yM)))

theorem intensity_nonneg (terrain : ScalableTerrainField) (xM yM : ℚ) :
    0 ≤ terrain.intensityAt xM yM := by
  unfold intensityAt
  split
  · refine le_trans ?_ (DeterministicDevelopmentField.intensity_at_range _ xM yM)
    norm_num [defaultDevelopmentFieldConfig]
  · positivity

theorem spacing_at_range (sqrt : ℚ → ℚ) (terrain : ScalableTerrainField) (xM yM : ℚ) :
    ∃ spacing, terrain.spacingAt sqrt xM yM = .ok spacing ∧ 80 ≤ spacing ∧ spacing ≤ 220 := by
  refine ⟨max 80 (min 220 (220 - 140 * sqrt (terrain.intensityAt xM yM))), ?_, le_max_left _ _,
    max_le (by norm_num) (min_le_left _ _)⟩
  simp only [spacingAt, bind_ok, raise_if_ok, pure_ok]
  exact ⟨(), not_lt.mpr (terrain.intensity_nonneg xM yM), trivial⟩

end ScalableTerrainField

inductive StreetAxis where
  | x
  | y

def tileMm : ℤ := 2000000

/-- `range(first, last)` -/
def wholeRange (first last : ℤ) : List ℤ :=
  (List.range (last - first).toNat).map fun k : ℕ => first + k

def seamCoordinates (minimum maximum : ℤ) : Except String (List ℤ) := do
  raiseIf (minimum > maximum) "minimum must not exceed maximum"
  return (wholeRange ⌈(minimum : ℚ) / tileMm⌉ (⌊(maximum : ℚ) / tileMm⌋ + 1)).map (· * tileMm)

/-- The distance to the next street from a place on an axis, before seams and ends. -/
def nominalSpacing (sqrt : ℚ → ℚ) (terrain : ScalableTerrainField) (axis : StreetAxis)
    (fixedMm current : ℤ) : Except String ℤ := do
  let spacingM ← match axis with
    | .x => terrain.spacingAt sqrt (current / 1000) (fixedMm / 1000)
    | .y => terrain.spacingAt sqrt (fixedMm / 1000) (current / 1000)
  return roundHalfEven (spacingM * 1000)

/-- The loop from a value on: the values it leaves, that one included. -/
def axisFrom (nominal : ℤ → Except String ℤ) (seams : List ℤ) (maximum current : ℤ) :
    Except String (List ℤ) :=
  if current < maximum then
    match nominal current with
    | .error e => .error e
    | .ok spacing =>
      let nextSeam := (seams.find? fun seam => seam > current).getD maximum
      let right := min (min (current + spacing) nextSeam) maximum
      if right ≤ current then .error "terrain lattice spacing must advance"
      else (axisFrom nominal seams maximum right).map (current :: ·)
  else .ok [current]
termination_by (maximum - current).toNat
decreasing_by omega

def localAxis (sqrt : ℚ → ℚ) (minimum maximum : ℤ) (terrain : ScalableTerrainField)
    (axis : StreetAxis) (fixedMm : ℤ) : Except String (List ℤ) := do
  raiseIf (minimum ≥ maximum) "axis extent must be increasing"
  let seams ← seamCoordinates minimum maximum
  axisFrom (nominalSpacing sqrt terrain axis fixedMm) (seams.filter fun value => value > minimum)
    maximum minimum

section Loop

variable {nominal : ℤ → Except String ℤ} {seams values : List ℤ} {maximum current : ℤ}

/-- An axis from a value to its end: every street at most the nominal spacing behind the one
before it, and none of the seams passed over. -/
structure AxisValues (nominal : ℤ → Except String ℤ) (seams : List ℤ) (maximum current : ℤ)
    (values : List ℤ) : Prop where
  first : values.head? = some current
  last : values.getLast? = some maximum
  increasing : values.Pairwise (· < ·)
  seam : ∀ seam ∈ seams, current < seam → seam ≤ maximum → seam ∈ values
  gap : ∀ step ∈ values.zip values.tail, ∃ spacing, nominal step.1 = .ok spacing ∧
    step.2 - step.1 ≤ spacing

theorem AxisValues.ends : AxisValues nominal seams maximum maximum [maximum] where
  first := rfl
  last := rfl
  increasing := List.pairwise_singleton _ _
  seam := fun seam _ above le => absurd above (not_lt.mpr le)
  gap := by simp

theorem AxisValues.ge_current (h : AxisValues nominal seams maximum current values) :
    ∀ value ∈ values, current ≤ value := by
  have first := h.first
  have increasing := h.increasing
  cases values with
  | nil => cases first
  | cons value rest =>
    obtain rfl := Option.some.inj first
    intro other listed
    rcases List.mem_cons.mp listed with rfl | later
    · exact le_rfl
    · exact (List.rel_of_pairwise_cons increasing later).le

theorem AxisValues.cons {right spacing : ℤ} (h : AxisValues nominal seams maximum right values)
    (advance : current < right) (ran : nominal current = .ok spacing)
    (near : right - current ≤ spacing)
    (none_between : ∀ seam ∈ seams, current < seam → right ≤ seam) :
    AxisValues nominal seams maximum current (current :: values) where
  first := rfl
  last := by
    have last := h.last
    cases values with
    | nil => cases last
    | cons value rest => rw [List.getLast?_cons_cons, last]
  increasing := List.pairwise_cons.mpr
    ⟨fun value listed => advance.trans_le (h.ge_current value listed), h.increasing⟩
  seam := by
    intro seam listed above le
    refine List.mem_cons_of_mem _ ?_
    rcases (none_between seam listed above).eq_or_lt with rfl | later
    · exact List.mem_of_mem_head? (Option.mem_def.mpr h.first)
    · exact h.seam seam listed later le
  gap := by
    have first := h.first
    have gaps := h.gap
    cases values with
    | nil => cases first
    | cons value rest =>
      obtain rfl := Option.some.inj first
      intro step listed
      rcases List.mem_cons.mp listed with rfl | later
      · exact ⟨spacing, ran, near⟩
      · exact gaps step later

theorem next_seam_le (maximum : ℤ) (sorted : seams.Pairwise (· < ·)) {seam : ℤ}
    (listed : seam ∈ seams) (above : current < seam) :
    (seams.find? fun seam => seam > current).getD maximum ≤ seam := by
  induction sorted with
  | nil => cases listed
  | @cons first rest before sorted ih =>
    rw [List.find?_cons]
    by_cases past : first > current
    · rw [decide_eq_true past]
      rcases List.mem_cons.mp listed with rfl | later
      · exact le_rfl
      · exact (before seam later).le
    · rw [decide_eq_false past]
      rcases List.mem_cons.mp listed with rfl | later
      · exact absurd above past
      · exact ih later

theorem lt_next_seam (seams : List ℤ) (less : current < maximum) :
    current < (seams.find? fun seam => seam > current).getD maximum := by
  cases found : seams.find? fun seam => seam > current with
  | none => exact less
  | some seam => simpa using List.find?_some found

theorem axis_from_spec (sorted : seams.Pairwise (· < ·))
    (advances : ∀ place, ∃ spacing, nominal place = .ok spacing ∧ 0 < spacing)
    (le : current ≤ maximum) :
    ∃ values, axisFrom nominal seams maximum current = .ok values ∧
      AxisValues nominal seams maximum current values := by
  generalize size : (maximum - current).toNat = n
  induction n using Nat.strongRecOn generalizing current with
  | ind n ih =>
    rw [axisFrom]
    rcases le.eq_or_lt with rfl | less
    · rw [if_neg (lt_irrefl _)]
      exact ⟨_, rfl, .ends⟩
    · obtain ⟨spacing, ran, pos⟩ := advances current
      have ahead := lt_next_seam seams less
      have passed : ∀ seam ∈ seams, current < seam →
          (seams.find? fun seam => seam > current).getD maximum ≤ seam :=
        fun seam listed above => next_seam_le maximum sorted listed above
      rw [if_pos less, ran]
      dsimp only
      generalize (seams.find? fun seam => seam > current).getD maximum = nextSeam at ahead passed
      generalize right_eq : min (min (current + spacing) nextSeam) maximum = right
      have advance : current < right := by omega
      rw [if_neg (not_le.mpr advance)]
      obtain ⟨values, rest, axis⟩ := ih (maximum - right).toNat (by omega) (by omega) rfl
      refine ⟨current :: values, by rw [rest]; rfl, axis.cons advance ran (by omega) ?_⟩
      intro seam listed above
      have := passed seam listed above
      omega

end Loop

section Axis

variable {minimum maximum : ℤ}

theorem nominal_spacing_range (sqrt : ℚ → ℚ) (terrain : ScalableTerrainField) (axis : StreetAxis)
    (fixedMm current : ℤ) :
    ∃ nominal, nominalSpacing sqrt terrain axis fixedMm current = .ok nominal ∧
      80000 ≤ nominal ∧ nominal ≤ 220000 := by
  have rounded : ∀ spacing : ℚ, 80 ≤ spacing → spacing ≤ 220 →
      80000 ≤ roundHalfEven (spacing * 1000) ∧ roundHalfEven (spacing * 1000) ≤ 220000 := by
    intro spacing low high
    refine ⟨round_half_even_mono_int.1 ?_, round_half_even_mono_int.2 ?_⟩
    · push_cast
      linarith
    · push_cast
      linarith
  unfold nominalSpacing
  cases axis with
  | x =>
    obtain ⟨spacing, ran, low, high⟩ :=
      terrain.spacing_at_range sqrt (current / 1000) (fixedMm / 1000)
    exact ⟨roundHalfEven (spacing * 1000), by rw [ran]; rfl, rounded spacing low high⟩
  | y =>
    obtain ⟨spacing, ran, low, high⟩ :=
      terrain.spacing_at_range sqrt (fixedMm / 1000) (current / 1000)
    exact ⟨roundHalfEven (spacing * 1000), by rw [ran]; rfl, rounded spacing low high⟩

theorem seam_coordinates_spec (le : minimum ≤ maximum) :
    ∃ seams, seamCoordinates minimum maximum = .ok seams ∧ seams.Pairwise (· < ·) ∧
      ∀ seam, seam ∈ seams ↔ tileMm ∣ seam ∧ minimum ≤ seam ∧ seam ≤ maximum := by
  have tile : (0 : ℚ) < (tileMm : ℤ) := by norm_num [tileMm]
  refine ⟨(wholeRange ⌈(minimum : ℚ) / tileMm⌉ (⌊(maximum : ℚ) / tileMm⌋ + 1)).map (· * tileMm),
    ?_, ?_, fun seam => ?_⟩
  · simp only [seamCoordinates, bind_ok, raise_if_ok, pure_ok]
    exact ⟨(), not_lt.mpr le, trivial⟩
  · refine List.pairwise_map.mpr (List.pairwise_map.mpr (List.pairwise_lt_range.imp fun less => ?_))
    have : (0 : ℤ) < tileMm := by decide
    nlinarith
  · have member : ∀ k, k ∈ wholeRange ⌈(minimum : ℚ) / tileMm⌉ (⌊(maximum : ℚ) / tileMm⌋ + 1) ↔
        minimum ≤ k * tileMm ∧ k * tileMm ≤ maximum := by
      intro k
      have low : ⌈(minimum : ℚ) / tileMm⌉ ≤ k ↔ minimum ≤ k * tileMm := by
        rw [Int.ceil_le, div_le_iff₀ tile]
        exact_mod_cast Iff.rfl
      have high : k ≤ ⌊(maximum : ℚ) / tileMm⌋ ↔ k * tileMm ≤ maximum := by
        rw [Int.le_floor, le_div_iff₀ tile]
        exact_mod_cast Iff.rfl
      rw [← low, ← high, wholeRange, List.mem_map]
      constructor
      · rintro ⟨i, inside, rfl⟩
        rw [List.mem_range] at inside
        omega
      · rintro ⟨above, below⟩
        exact ⟨(k - ⌈(minimum : ℚ) / tileMm⌉).toNat, List.mem_range.mpr (by omega), by omega⟩
    rw [List.mem_map]
    constructor
    · rintro ⟨k, listed, rfl⟩
      exact ⟨dvd_mul_left _ _, (member k).mp listed⟩
    · rintro ⟨⟨k, rfl⟩, inside⟩
      rw [mul_comm] at inside
      exact ⟨k, (member k).mpr inside, mul_comm _ _⟩

/-- A local axis is always found: it rises from the minimum to the maximum, passes no seam by
and has no gap above the nominal spacing at the gap's start. -/
theorem local_axis_spec (sqrt : ℚ → ℚ) (terrain : ScalableTerrainField) (axis : StreetAxis)
    (fixedMm : ℤ) (extent : minimum < maximum) :
    ∃ values, localAxis sqrt minimum maximum terrain axis fixedMm = .ok values ∧
      values.head? = some minimum ∧ values.getLast? = some maximum ∧
      values.Pairwise (· < ·) ∧
      (∀ seam, tileMm ∣ seam → minimum ≤ seam → seam ≤ maximum → seam ∈ values) ∧
      ∀ step ∈ values.zip values.tail, 0 < step.2 - step.1 ∧
        ∃ nominal, nominalSpacing sqrt terrain axis fixedMm step.1 = .ok nominal ∧
          step.2 - step.1 ≤ nominal ∧ nominal ≤ 220000 := by
  obtain ⟨seams, found, sorted, member⟩ := seam_coordinates_spec extent.le
  obtain ⟨values, ran, rises⟩ := axis_from_spec (sorted.filter fun value => value > minimum)
    (fun place => by
      obtain ⟨nominal, given, low, -⟩ := nominal_spacing_range sqrt terrain axis fixedMm place
      exact ⟨nominal, given, by omega⟩) extent.le
  refine ⟨values, ?_, rises.first, rises.last, rises.increasing, ?_, ?_⟩
  · simp only [localAxis, bind_ok, raise_if_ok]
    exact ⟨(), not_le.mpr extent, seams, found, ran⟩
  · intro seam divides above below
    rcases above.eq_or_lt with rfl | inner
    · exact List.mem_of_mem_head? (Option.mem_def.mpr rises.first)
    · refine rises.seam seam (List.mem_filter.mpr ⟨?_, decide_eq_true inner⟩) inner below
      exact (member seam).mpr ⟨divides, above, below⟩
  · intro step listed
    obtain ⟨nominal, given, near⟩ := rises.gap step listed
    obtain ⟨nominal', given', -, high⟩ :=
      nominal_spacing_range sqrt terrain axis fixedMm step.1
    rw [given] at given'
    obtain rfl := Except.ok.inj given'
    have forward := step_of_pairwise rises.increasing step listed
    exact ⟨by omega, nominal, given, near, high⟩

/-- Square roots to sixty binary digits. -/
def closeSqrt (x : ℚ) : ℚ := (x * 4 ^ 60).floor.toNat.sqrt / 2 ^ 60

def organicTerrain : ScalableTerrainField where
  cellSizeM := 50
  seed := 1
  styleId := "organic"
  cell_range := by norm_num
  style_known := by decide

theorem organic_axis :
    ∃ values, localAxis closeSqrt (-3000000) 3000000 organicTerrain .x 0 = .ok values ∧
      values.head? = some (-3000000) ∧ values.getLast? = some 3000000 ∧
      values.Pairwise (· < ·) ∧
      (∀ seam, tileMm ∣ seam → -3000000 ≤ seam → seam ≤ 3000000 → seam ∈ values) ∧
      ∀ step ∈ values.zip values.tail, 0 < step.2 - step.1 ∧
        ∃ nominal, nominalSpacing closeSqrt organicTerrain .x 0 step.1 = .ok nominal ∧
          step.2 - step.1 ≤ nominal ∧ nominal ≤ 220000 :=
  local_axis_spec closeSqrt organicTerrain .x 0 (by decide)

end Axis

end Metroflow.City
