import Metroflow.Lib.Scalar

namespace Metroflow.Lib.Scalar

/-- The point of a segment at a ratio of its way. -/
def along {K : Type} [Scalar K] (left right : PointM K) (t : K) : PointM K :=
  (left.1 + t * (right.1 - left.1), left.2 + t * (right.2 - left.2))

/-- The points of a segment at the given number of equal steps. -/
def evenly {K : Type} [Scalar K] (left right : PointM K) (steps : ℕ) : List (PointM K) :=
  (List.range (steps + 1)).map fun index : ℕ =>
    along left right (ofInt (index : ℤ) / ofInt (steps : ℤ))

section Boxes

variable {u v x y R : ℝ}

theorem abs_add_le_of_opposite (hx : |x| ≤ R) (hy : |y| ≤ R) (opposite : x * y ≤ 0) :
    |x + y| ≤ R := by
  rw [abs_le] at hx hy ⊢
  rcases mul_nonpos_iff.mp opposite with ⟨x_pos, y_neg⟩ | ⟨x_neg, y_pos⟩
  · constructor <;> linarith
  · constructor <;> linarith

theorem one_side_stays {a b : ℝ} (a_pos : 0 ≤ a) (b_pos : 0 ≤ b) (left : |a * u| ≤ R)
    (right : |b * u| ≤ R) (across : |v| ≤ R) : |-(a * u) + v| ≤ R ∨ |b * u + v| ≤ R := by
  rcases le_total (u * v) 0 with opposite | same
  · refine .inr (abs_add_le_of_opposite right across ?_)
    have := mul_nonpos_of_nonneg_of_nonpos b_pos opposite
    linarith
  · refine .inl (abs_add_le_of_opposite (by rwa [abs_neg]) across ?_)
    have := mul_nonneg a_pos same
    linarith

theorem one_sample_stays {a b c l : ℝ} (a_pos : 0 ≤ a) (b_pos : 0 ≤ b)
    (u_le : |u| ≤ l) (v_le : |v| ≤ l) (diagonal : |u| + |v| ≤ 3 / 2 * l)
    (fine : (a + b) * l ≤ R / 2) (across : |c| * l ≤ R) :
    (|-(a * u) + c * v| ≤ R ∧ |-(a * v) + -(c * u)| ≤ R) ∨
      |b * u + c * v| ≤ R ∧ |b * v + -(c * u)| ≤ R := by
  have l_pos : 0 ≤ l := (abs_nonneg u).trans u_le
  have R_pos : 0 ≤ R := (mul_nonneg (abs_nonneg c) l_pos).trans across
  rw [add_mul] at fine
  have al : a * l ≤ R / 2 := (le_add_of_nonneg_right (mul_nonneg b_pos l_pos)).trans fine
  have bl : b * l ≤ R / 2 := (le_add_of_nonneg_left (mul_nonneg a_pos l_pos)).trans fine
  have step : ∀ {s w : ℝ}, 0 ≤ s → |w| ≤ l → |s * w| ≤ s * l := by
    intro s w s_pos w_le
    rw [abs_mul, abs_of_nonneg s_pos]
    exact mul_le_mul_of_nonneg_left w_le s_pos
  have side : ∀ {w : ℝ}, |w| ≤ l → |c * w| ≤ R := by
    intro w w_le
    rw [abs_mul]
    exact (mul_le_mul_of_nonneg_left w_le (abs_nonneg c)).trans across
  have half : R / 2 ≤ R := by linarith
  have first := one_side_stays a_pos b_pos (((step a_pos u_le).trans al).trans half)
    (((step b_pos u_le).trans bl).trans half) (side v_le)
  have second := one_side_stays a_pos b_pos (((step a_pos v_le).trans al).trans half)
    (((step b_pos v_le).trans bl).trans half) ((abs_neg (c * u)).trans_le (side u_le))
  -- leaving the box on one axis before the foot and on the other after it takes more than `2 * R`
  have mixed : |c| * (|u| + |v|) ≤ 3 / 2 * R := by
    nlinarith [mul_le_mul_of_nonneg_left diagonal (abs_nonneg c)]
  have crossed : ∀ {w w' z z' : ℝ}, |w| ≤ l → |w'| ≤ l → |z| + |z'| = |c| * (|u| + |v|) →
      |-(a * w) + z| ≤ R ∨ |b * w' + z'| ≤ R := by
    intro w w' z z' w_le w'_le total
    by_contra out
    push Not at out
    have before := out.1.trans_le (abs_add_le _ _)
    have later := out.2.trans_le (abs_add_le _ _)
    rw [abs_neg] at before
    have := step a_pos w_le
    have := step b_pos w'_le
    linarith
  have before : |-(a * u) + c * v| ≤ R ∨ |b * v + -(c * u)| ≤ R :=
    crossed u_le v_le (by rw [abs_neg, abs_mul, abs_mul]; ring)
  have later : |-(a * v) + -(c * u)| ≤ R ∨ |b * u + c * v| ≤ R :=
    crossed v_le u_le (by rw [abs_neg, abs_mul, abs_mul]; ring)
  by_cases x_stays : |-(a * u) + c * v| ≤ R
  · by_cases y_stays : |-(a * v) + -(c * u)| ≤ R
    · exact .inl ⟨x_stays, y_stays⟩
    · exact .inr ⟨later.resolve_left y_stays, second.resolve_left y_stays⟩
  · exact .inr ⟨first.resolve_left x_stays, before.resolve_left x_stays⟩

end Boxes

section Samples

variable {p left right : PointM ℝ} {t R : ℝ}

theorem dist_sq : dist p left ^ 2 = (p.1 - left.1) ^ 2 + (p.2 - left.2) ^ 2 := by
  rw [dist_real, Real.sq_sqrt (by positivity)]

theorem abs_fst_le_dist : |p.1 - left.1| ≤ dist p left :=
  abs_le_of_sq_le_sq (by rw [dist_sq]; nlinarith [sq_nonneg (p.2 - left.2)]) dist_nonneg

theorem abs_snd_le_dist : |p.2 - left.2| ≤ dist p left :=
  abs_le_of_sq_le_sq (by rw [dist_sq]; nlinarith [sq_nonneg (p.1 - left.1)]) dist_nonneg

theorem dist_comm : dist p left = dist left p := by
  rw [dist_real, dist_real]
  congr 1
  ring

theorem eq_mul_of_perp {u v x y : ℝ} (long : u ≠ 0 ∨ v ≠ 0) (perp : x * u + y * v = 0) :
    ∃ c, x = -(c * v) ∧ y = c * u := by
  have span : u ^ 2 + v ^ 2 ≠ 0 := by
    intro flat
    have := sq_nonneg u
    have := sq_nonneg v
    rcases long with u_ne | v_ne
    · exact u_ne (pow_eq_zero_iff two_ne_zero |>.mp (by linarith))
    · exact v_ne (pow_eq_zero_iff two_ne_zero |>.mp (by linarith))
  refine ⟨(y * u - x * v) / (u ^ 2 + v ^ 2), ?_, ?_⟩
  · field_simp
    linear_combination u * perp
  · field_simp
    linear_combination v * perp

theorem along_mem_evenly {n k : ℕ} (k_le : k ≤ n) :
    along left right ((k : ℝ) / n) ∈ evenly left right n := by
  refine List.mem_map.mpr ⟨k, List.mem_range.mpr (Nat.lt_succ_of_le k_le), ?_⟩
  change along left right (((k : ℤ) : ℝ) / ((n : ℤ) : ℝ)) = _
  rw [Int.cast_natCast, Int.cast_natCast]

theorem ends_mem_evenly {n : ℕ} (some_steps : 0 < n) :
    along left right 0 ∈ evenly left right n ∧ along left right 1 ∈ evenly left right n := by
  have first : along left right ((0 : ℕ) / n) ∈ _ := along_mem_evenly (Nat.zero_le n)
  have last : along left right ((n : ℝ) / n) ∈ _ := along_mem_evenly le_rfl
  rw [Nat.cast_zero, zero_div] at first
  rw [div_self (Nat.cast_pos.mpr some_steps).ne'] at last
  exact ⟨first, last⟩

theorem in_box_of_dist (within : dist p left ≤ R) : |left.1 - p.1| ≤ R ∧ |left.2 - p.2| ≤ R := by
  rw [dist_comm] at within
  exact ⟨abs_fst_le_dist.trans within, abs_snd_le_dist.trans within⟩

theorem diagonal_le :
    |right.1 - left.1| + |right.2 - left.2| ≤ 3 / 2 * dist right left := by
  have dist_pos := dist_nonneg (a := right) (b := left)
  refine (abs_le_of_sq_le_sq' ?_ (by positivity)).2
  rw [mul_pow, dist_sq, ← sq_abs (right.1 - left.1), ← sq_abs (right.2 - left.2)]
  nlinarith only [sq_nonneg (|right.1 - left.1| - |right.2 - left.2|)]

/-- The way from a point off its foot to another point of the segment. -/
theorem along_off {c s : ℝ} (x_eq : p.1 - (along left right t).1 = -(c * (right.2 - left.2)))
    (y_eq : p.2 - (along left right t).2 = c * (right.1 - left.1)) :
    (along left right s).1 - p.1 = (s - t) * (right.1 - left.1) + c * (right.2 - left.2) ∧
      (along left right s).2 - p.2 =
        (s - t) * (right.2 - left.2) + -(c * (right.1 - left.1)) := by
  unfold along at x_eq y_eq ⊢
  constructor
  · linear_combination -x_eq
  · linear_combination -y_eq

theorem across_le {c : ℝ} (x_eq : p.1 - (along left right t).1 = -(c * (right.2 - left.2)))
    (y_eq : p.2 - (along left right t).2 = c * (right.1 - left.1)) :
    |c| * dist right left ≤ dist p (along left right t) := by
  refine (le_abs_self _).trans (abs_le_of_sq_le_sq ?_ dist_nonneg)
  rw [mul_pow, dist_sq, dist_sq, sq_abs, x_eq, y_eq]
  exact le_of_eq (by ring)

/-- The foot of a point lies between two samples, one of them in the box about the point. -/
theorem sample_about_foot {c : ℝ} {n : ℕ} (n_pos : (0 : ℝ) < n)
    (fine : dist right left ≤ n * (R / 2)) (t_pos : 0 ≤ t) (t_lt : t < 1)
    (x_eq : p.1 - (along left right t).1 = -(c * (right.2 - left.2)))
    (y_eq : p.2 - (along left right t).2 = c * (right.1 - left.1))
    (across : |c| * dist right left ≤ R) :
    ∃ q ∈ evenly left right n, |q.1 - p.1| ≤ R ∧ |q.2 - p.2| ≤ R := by
  have k_le := Nat.floor_le (mul_nonneg t_pos n_pos.le)
  have k_lt := Nat.lt_floor_add_one (t * n)
  generalize ⌊t * n⌋₊ = k at k_le k_lt
  have inside : k + 1 ≤ n := by
    have : (k : ℝ) < n := k_le.trans_lt (mul_lt_of_lt_one_left n_pos t_lt)
    exact_mod_cast this
  have a_pos : 0 ≤ t - (k : ℝ) / n := sub_nonneg.mpr ((div_le_iff₀ n_pos).mpr k_le)
  have b_pos : 0 ≤ ((k + 1 : ℕ) : ℝ) / n - t :=
    sub_nonneg.mpr ((le_div_iff₀ n_pos).mpr (by push_cast; exact k_lt.le))
  have steps : (t - (k : ℝ) / n + (((k + 1 : ℕ) : ℝ) / n - t)) * dist right left ≤ R / 2 := by
    have apart : t - (k : ℝ) / n + (((k + 1 : ℕ) : ℝ) / n - t) = 1 / n := by
      push_cast
      ring
    rw [apart, one_div, inv_mul_le_iff₀ n_pos]
    exact fine
  rcases one_sample_stays a_pos b_pos abs_fst_le_dist abs_snd_le_dist diagonal_le steps across
    with before | after
  · refine ⟨_, along_mem_evenly (Nat.le_of_succ_le inside), ?_⟩
    obtain ⟨x_off, y_off⟩ := along_off x_eq y_eq (s := (k : ℝ) / n)
    rw [x_off, y_off, ← neg_sub t, neg_mul, neg_mul]
    exact before
  · refine ⟨_, along_mem_evenly inside, ?_⟩
    obtain ⟨x_off, y_off⟩ := along_off x_eq y_eq (s := ((k + 1 : ℕ) : ℝ) / n)
    rw [x_off, y_off]
    exact after

theorem exists_sample_in_box {n : ℕ} (some_steps : 0 < n) (fine : dist right left ≤ n * (R / 2))
    (t_pos : 0 ≤ t) (t_le : t ≤ 1) (close : dist p (along left right t) ≤ R)
    (foot : t = 0 ∨ t = 1 ∨ (p.1 - (along left right t).1) * (right.1 - left.1) +
      (p.2 - (along left right t).2) * (right.2 - left.2) = 0) :
    ∃ q ∈ evenly left right n, |q.1 - p.1| ≤ R ∧ |q.2 - p.2| ≤ R := by
  obtain ⟨first, last⟩ : along left right 0 ∈ _ ∧ along left right 1 ∈ _ :=
    ends_mem_evenly some_steps
  rcases foot with rfl | rfl | perp
  · exact ⟨_, first, in_box_of_dist close⟩
  · exact ⟨_, last, in_box_of_dist close⟩
  obtain rfl | t_lt := t_le.eq_or_lt
  · exact ⟨_, last, in_box_of_dist close⟩
  by_cases long : right.1 - left.1 ≠ 0 ∨ right.2 - left.2 ≠ 0
  · obtain ⟨c, x_eq, y_eq⟩ := eq_mul_of_perp long perp
    exact sample_about_foot (Nat.cast_pos.mpr some_steps) fine t_pos t_lt x_eq y_eq
      ((across_le x_eq y_eq).trans close)
  · push Not at long
    have same : along left right 0 = along left right t := by simp [along, long.1, long.2]
    exact ⟨_, first, in_box_of_dist (same ▸ close)⟩

end Samples

end Metroflow.Lib.Scalar
