import Metroflow.Lib.Rounding

namespace Metroflow.Lib

/-- The nearest double-precision number, of two equally near ones the even one; the exponent has
no upper bound here. -/
def double (x : ℚ) : ℚ :=
  let unit : ℚ := 2 ^ (52 - max (Int.log 2 |x|) (-1022))
  roundHalfEven (x * unit) / unit

/-- From this magnitude on a result does not fit a double. -/
def doubleBound : ℚ := 2 ^ 1024

theorem double_zero : double 0 = 0 := by
  have same := round_half_even_int 0
  rw [Int.cast_zero] at same
  unfold double
  dsimp only
  rw [zero_mul, same, Int.cast_zero, zero_div]

theorem double_error (x : ℚ) : |double x - x| ≤ max |x| (2 ^ (-1022 : ℤ)) / 2 ^ 53 := by
  rcases eq_or_ne x 0 with rfl | moved
  · rw [double_zero, sub_zero, abs_zero]
    positivity
  · have pos : 0 < |x| := abs_pos.mpr moved
    unfold double
    dsimp only
    generalize scale_eq : max (Int.log 2 |x|) (-1022) = e
    have unit_pos : (0 : ℚ) < 2 ^ (52 - e) := zpow_pos two_pos _
    have shift : ((roundHalfEven (x * 2 ^ (52 - e)) : ℤ) : ℚ) / 2 ^ (52 - e) - x =
        ((roundHalfEven (x * 2 ^ (52 - e)) : ℤ) - x * 2 ^ (52 - e)) / 2 ^ (52 - e) := by
      field_simp
    have scaled : (2 : ℚ) ^ e ≤ max |x| (2 ^ (-1022 : ℤ)) := by
      rcases le_total (Int.log 2 |x|) (-1022) with tiny | normal
      · rw [max_eq_right tiny] at scale_eq
        exact scale_eq ▸ le_max_right _ _
      · rw [max_eq_left normal] at scale_eq
        exact scale_eq ▸ le_max_of_le_left (Int.zpow_log_le_self (by norm_num) pos)
    have half_unit : (1 : ℚ) / 2 / 2 ^ (52 - e) = 2 ^ e / 2 ^ 53 := by
      rw [zpow_sub₀ two_ne_zero]
      field_simp
    rw [shift, abs_div, abs_of_pos unit_pos]
    calc |((roundHalfEven (x * 2 ^ (52 - e)) : ℤ) : ℚ) - x * 2 ^ (52 - e)| / 2 ^ (52 - e)
        ≤ 1 / 2 / 2 ^ (52 - e) := by gcongr; exact round_half_even_error _
      _ = 2 ^ e / 2 ^ 53 := half_unit
      _ ≤ max |x| (2 ^ (-1022 : ℤ)) / 2 ^ 53 := by gcongr

theorem double_int {a : ℤ} (small : |a| < 2 ^ 53) : double a = a := by
  rcases eq_or_ne a 0 with rfl | moved
  · rw [Int.cast_zero, double_zero]
  · have pos : (0 : ℚ) < |(a : ℚ)| := abs_pos.mpr (Int.cast_ne_zero.mpr moved)
    have log_lt : Int.log 2 |(a : ℚ)| < 53 := by
      rw [← Int.lt_zpow_iff_log_lt (by norm_num) pos]
      exact_mod_cast small
    have digits : 0 ≤ 52 - max (Int.log 2 |(a : ℚ)|) (-1022) := by omega
    obtain ⟨k, digits_eq⟩ := Int.eq_ofNat_of_zero_le digits
    have whole : (a : ℚ) * 2 ^ (52 - max (Int.log 2 |(a : ℚ)|) (-1022)) =
        ((a * 2 ^ k : ℤ) : ℚ) := by
      rw [digits_eq]
      push_cast
      rfl
    unfold double
    dsimp only
    rw [whole, round_half_even_int, ← whole]
    field_simp

end Metroflow.Lib
