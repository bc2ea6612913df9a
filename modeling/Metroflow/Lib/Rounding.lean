import Metroflow.Lib.Common

namespace Metroflow.Lib

/-- The nearest whole number, and of two equally near ones the even one. -/
def roundHalfEven (x : ℚ) : ℤ :=
  let below := x.floor
  let part := x - below
  if part < 1 / 2 then below
  else if 1 / 2 < part then below + 1
  else if below % 2 = 0 then below
  else below + 1

theorem round_half_even_mono_int {x : ℚ} {a : ℤ} :
    (a ≤ x → a ≤ roundHalfEven x) ∧ (x ≤ a → roundHalfEven x ≤ a) := by
  have low : (x.floor : ℚ) ≤ x := Rat.floor_le x
  have above : (a : ℚ) ≤ x → a ≤ x.floor := fun le => Rat.le_floor_iff.mpr le
  have below : x ≤ a → x.floor ≤ a := fun le => by exact_mod_cast low.trans le
  have strict : x ≤ a → (x.floor : ℚ) < x → x.floor + 1 ≤ a := fun le lt => by
    exact_mod_cast lt.trans_le le
  unfold roundHalfEven
  dsimp only
  split_ifs with small large even
  · exact ⟨above, below⟩
  · exact ⟨fun le => (above le).trans (by omega), fun le => strict le (by linarith)⟩
  · exact ⟨above, below⟩
  · refine ⟨fun le => (above le).trans (by omega), fun le => strict le ?_⟩
    linarith [not_lt.mp small]

theorem round_half_even_error (x : ℚ) : |(roundHalfEven x : ℚ) - x| ≤ 1 / 2 := by
  have low : (x.floor : ℚ) ≤ x := Rat.floor_le x
  have high : x < x.floor + 1 := by exact_mod_cast Rat.lt_floor_add_one x
  unfold roundHalfEven
  dsimp only
  rw [abs_le]
  split_ifs with small large even
  · constructor <;> linarith
  · push_cast
    constructor <;> linarith
  · constructor <;> linarith
  · push_cast
    constructor <;> linarith

theorem round_half_even_int (a : ℤ) : roundHalfEven a = a :=
  le_antisymm (round_half_even_mono_int.2 le_rfl) (round_half_even_mono_int.1 le_rfl)

theorem round_half_even_lt {x y : ℚ} (apart : x + 1 < y) : roundHalfEven x < roundHalfEven y := by
  have low := (abs_le.mp (round_half_even_error x)).2
  have high := (abs_le.mp (round_half_even_error y)).1
  have less : (roundHalfEven x : ℚ) < roundHalfEven y := by linarith
  exact_mod_cast less

example : [5 / 2, 7 / 2, 12 / 5].map roundHalfEven = [2, 4, 2] := by decide +kernel

end Metroflow.Lib
