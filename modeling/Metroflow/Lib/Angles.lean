import Metroflow.Lib.Plane

namespace Metroflow.Lib

open Real

variable {v w : ℝ × ℝ}

/-- The direction of a vector, counterclockwise from the first axis; `-1` where it has none. -/
noncomputable def angle (v : ℝ × ℝ) : ℝ :=
  if v = 0 then -1
  else if v.2 < 0 then Complex.arg ⟨v.1, v.2⟩ + 2 * π
  else Complex.arg ⟨v.1, v.2⟩

theorem angle_upper (h : v ≠ 0) (upper : 0 ≤ v.2) : angle v = Complex.arg ⟨v.1, v.2⟩ := by
  unfold angle
  rw [if_neg h, if_neg (not_lt.mpr upper)]

theorem angle_lower (lower : v.2 < 0) : angle v = Complex.arg ⟨v.1, v.2⟩ + 2 * π := by
  unfold angle
  have h : v ≠ 0 := by
    rintro rfl
    exact lt_irrefl _ lower
  rw [if_neg h, if_pos lower]

theorem angle_bounds (h : v ≠ 0) : 0 ≤ angle v ∧ angle v < 2 * π := by
  have positive := Real.pi_pos
  rcases le_or_gt 0 v.2 with upper | lower
  · rw [angle_upper h upper]
    have low : 0 ≤ Complex.arg ⟨v.1, v.2⟩ := Complex.arg_nonneg_iff.mpr upper
    have high := Complex.arg_le_pi ⟨v.1, v.2⟩
    exact ⟨low, by linarith⟩
  · rw [angle_lower lower]
    have low := Complex.neg_pi_lt_arg ⟨v.1, v.2⟩
    have high : Complex.arg ⟨v.1, v.2⟩ < 0 := Complex.arg_neg_iff.mpr lower
    exact ⟨by linarith, by linarith⟩

theorem angle_lt_pi_iff (h : v ≠ 0) : angle v < π ↔ 0 < v.2 ∨ v.2 = 0 ∧ 0 ≤ v.1 := by
  rcases le_or_gt 0 v.2 with upper | lower
  · rw [angle_upper h upper, Complex.arg_lt_pi_iff]
    change 0 ≤ v.1 ∨ v.2 ≠ 0 ↔ _
    rcases upper.lt_or_eq with above | level
    · exact ⟨fun _ => .inl above, fun _ => .inr above.ne'⟩
    · rw [← level]
      simp
  · rw [angle_lower lower]
    have low := Complex.neg_pi_lt_arg ⟨v.1, v.2⟩
    constructor
    · intro small
      linarith
    · rintro (above | level)
      · exact absurd above lower.asymm
      · exact absurd level.1 lower.ne

theorem polar (h : v ≠ 0) : ∃ r, 0 < r ∧ v.1 = r * cos (angle v) ∧ v.2 = r * sin (angle v) := by
  set z : ℂ := ⟨v.1, v.2⟩ with z_def
  have away : z ≠ 0 := by
    intro zero
    exact h (Prod.ext (congrArg Complex.re zero) (congrArg Complex.im zero))
  have turned : cos (angle v) = cos z.arg ∧ sin (angle v) = sin z.arg := by
    rcases le_or_gt 0 v.2 with upper | lower
    · rw [angle_upper h upper]
      exact ⟨rfl, rfl⟩
    · rw [angle_lower lower]
      exact ⟨cos_add_two_pi _, sin_add_two_pi _⟩
  refine ⟨‖z‖, norm_pos_iff.mpr away, ?_, ?_⟩
  · rw [turned.1, Complex.norm_mul_cos_arg]
  · rw [turned.2, Complex.norm_mul_sin_arg]

theorem products_polar (h : v ≠ 0) (h' : w ≠ 0) : ∃ r, 0 < r ∧
    v.1 * w.2 - v.2 * w.1 = r * sin (angle w - angle v) ∧
    v.1 * w.1 + v.2 * w.2 = r * cos (angle w - angle v) := by
  obtain ⟨r, r_pos, x, y⟩ := polar h
  obtain ⟨s, s_pos, x', y'⟩ := polar h'
  refine ⟨r * s, mul_pos r_pos s_pos, ?_, ?_⟩
  · rw [x, y, x', y', sin_sub]
    ring
  · rw [x, y, x', y', cos_sub]
    ring

theorem cross_pos_iff (h : v ≠ 0) (h' : w ≠ 0) (same : angle v < π ↔ angle w < π) :
    (0 < v.1 * w.2 - v.2 * w.1 ↔ angle v < angle w) ∧
      (v.1 * w.2 - v.2 * w.1 = 0 ↔ angle v = angle w) := by
  obtain ⟨r, r_pos, crossed, -⟩ := products_polar h h'
  obtain ⟨low, high⟩ := angle_bounds h
  obtain ⟨low', high'⟩ := angle_bounds h'
  have near : -π < angle w - angle v ∧ angle w - angle v < π := by
    by_cases upper : angle v < π
    · have := same.mp upper
      constructor <;> linarith
    · have := not_lt.mp (mt same.mpr upper)
      have := not_lt.mp upper
      constructor <;> linarith
  rw [crossed, mul_pos_iff_of_pos_left r_pos, mul_eq_zero_iff_left r_pos.ne']
  rcases lt_trichotomy (angle v) (angle w) with before | equal | after
  · have := sin_pos_of_pos_of_lt_pi (sub_pos.mpr before) near.2
    exact ⟨⟨fun _ => before, fun _ => this⟩, ⟨fun zero => absurd zero this.ne',
      fun equal => absurd equal before.ne⟩⟩
  · rw [equal, sub_self, sin_zero]
    simp
  · have := sin_neg_of_neg_of_neg_pi_lt (sub_neg.mpr after) near.1
    exact ⟨⟨fun pos => absurd pos this.asymm, fun before => absurd before after.asymm⟩,
      ⟨fun zero => absurd zero this.ne, fun equal => absurd equal after.ne'⟩⟩

theorem same_direction_iff : v.1 * w.2 = v.2 * w.1 ∧ 0 < v.1 * w.1 + v.2 * w.2 ↔
    v ≠ 0 ∧ w ≠ 0 ∧ angle v = angle w := by
  constructor
  · rintro ⟨parallel, forward⟩
    have h : v ≠ 0 := by
      rintro rfl
      simp at forward
    have h' : w ≠ 0 := by
      rintro rfl
      simp at forward
    obtain ⟨r, r_pos, crossed, along⟩ := products_polar h h'
    refine ⟨h, h', ?_⟩
    obtain ⟨low, high⟩ := angle_bounds h
    obtain ⟨low', high'⟩ := angle_bounds h'
    rw [sub_eq_zero.mpr parallel] at crossed
    rw [along, mul_pos_iff_of_pos_left r_pos] at forward
    have flat : sin (angle w - angle v) = 0 := (mul_eq_zero_iff_left r_pos.ne').mp crossed.symm
    have whole : cos (angle w - angle v) = 1 := by
      have := sin_sq_add_cos_sq (angle w - angle v)
      nlinarith
    have none : angle w - angle v = 0 :=
      (cos_eq_one_iff_of_lt_of_lt (by linarith) (by linarith)).mp whole
    linarith
  · rintro ⟨h, h', equal⟩
    obtain ⟨r, r_pos, crossed, along⟩ := products_polar h h'
    rw [equal, sub_self, sin_zero, mul_zero] at crossed
    rw [equal, sub_self, cos_zero, mul_one] at along
    exact ⟨sub_eq_zero.mp crossed, along ▸ r_pos⟩

end Metroflow.Lib
