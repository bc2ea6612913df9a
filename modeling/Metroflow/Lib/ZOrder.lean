import Metroflow.Lib.Common

namespace Metroflow.Lib

/-- Cells by quadrants: first by the squares of twice the side that they lie in, and within one
such square the lower row first, in a row the left cell. -/
inductive ZBefore : ℕ × ℕ → ℕ × ℕ → Prop
  | outer {p q : ℕ × ℕ} (squares : ZBefore (p.1 / 2, p.2 / 2) (q.1 / 2, q.2 / 2)) : ZBefore p q
  | inner {p q : ℕ × ℕ} (square : p.1 / 2 = q.1 / 2 ∧ p.2 / 2 = q.2 / 2)
      (quadrant : 2 * (p.2 % 2) + p.1 % 2 < 2 * (q.2 % 2) + q.1 % 2) : ZBefore p q

/-- The bits of two numbers in turn. -/
def interleave (x y : ℕ) : ℕ :=
  (List.range (max x.size y.size)).foldl (fun result bit =>
    (result ||| ((x >>> bit) &&& 1) <<< (2 * bit)) ||| ((y >>> bit) &&& 1) <<< (2 * bit + 1)) 0

theorem test_placed {x bit place k : ℕ} :
    (((x >>> bit) &&& 1) <<< place).testBit k = (decide (k = place) && x.testBit bit) := by
  rw [Nat.testBit_shiftLeft, Nat.testBit_and, Nat.testBit_shiftRight]
  by_cases here : k = place
  · subst here
    simp
  · by_cases below : place ≤ k
    · obtain ⟨m, next⟩ : ∃ m, k - place = m + 1 := ⟨k - place - 1, by omega⟩
      rw [next, Nat.testBit_succ]
      simp [here]
    · simp [here, below]

theorem test_interleave_upto (x y n k : ℕ) :
    ((List.range n).foldl (fun result bit =>
      (result ||| ((x >>> bit) &&& 1) <<< (2 * bit)) ||| ((y >>> bit) &&& 1) <<< (2 * bit + 1))
      0).testBit k =
    (decide (k / 2 < n) && if k % 2 = 0 then x.testBit (k / 2) else y.testBit (k / 2)) := by
  induction n with
  | zero => simp
  | succ n ih =>
    rw [List.range_succ, List.foldl_append, List.foldl_cons, List.foldl_nil, Nat.testBit_or,
      Nat.testBit_or, ih, test_placed, test_placed]
    by_cases even : k % 2 = 0
    · have odd : k ≠ 2 * n + 1 := by omega
      by_cases here : k = 2 * n
      · subst here
        simp
      · have : (k / 2 < n + 1) ↔ k / 2 < n := by omega
        simp [even, odd, here, this]
    · have apart : k ≠ 2 * n := by omega
      by_cases here : k = 2 * n + 1
      · subst here
        have : (2 * n + 1) / 2 = n := by omega
        simp [this]
      · have : (k / 2 < n + 1) ↔ k / 2 < n := by omega
        simp [even, apart, here, this]

theorem test_interleave (x y k : ℕ) : (interleave x y).testBit k =
    if k % 2 = 0 then x.testBit (k / 2) else y.testBit (k / 2) := by
  unfold interleave
  rw [test_interleave_upto]
  by_cases inside : k / 2 < max x.size y.size
  · simp [inside]
  · have beyond : max x.size y.size ≤ k / 2 := not_lt.mp inside
    have none : ∀ {z : ℕ}, z.size ≤ k / 2 → z.testBit (k / 2) = false := fun small =>
      Nat.testBit_lt_two_pow (Nat.size_le.mp small)
    simp [inside, none ((le_max_left _ _).trans beyond), none ((le_max_right _ _).trans beyond)]

theorem interleave_halves (x y : ℕ) :
    interleave x y = 4 * interleave (x / 2) (y / 2) + (2 * (y % 2) + x % 2) := by
  have low : 2 * (y % 2) + x % 2 < 2 ^ 2 := by omega
  refine Nat.eq_of_testBit_eq fun k => ?_
  rw [show 4 = 2 ^ 2 from rfl, Nat.testBit_two_pow_mul_add _ low, test_interleave]
  by_cases small : k < 2
  · rw [if_pos small]
    have cases : k = 0 ∨ k = 1 := by omega
    rcases cases with rfl | rfl
    · simp only [Nat.testBit_zero, Nat.zero_mod, if_true, Nat.zero_div]
      rw [decide_eq_decide]
      omega
    · simp only [Nat.testBit_succ, Nat.testBit_zero]
      simp only [Nat.reduceMod, one_ne_zero, if_false, Nat.reduceDiv, Nat.testBit_zero]
      rw [decide_eq_decide]
      omega
  · rw [if_neg small]
    obtain ⟨j, rfl⟩ : ∃ j, k = j + 2 := ⟨k - 2, by omega⟩
    rw [Nat.add_sub_cancel, test_interleave, Nat.testBit_div_two, Nat.testBit_div_two,
      Nat.add_mod_right, Nat.add_div_right j Nat.two_pos]

theorem interleave_injective {p q : ℕ × ℕ} (same : interleave p.1 p.2 = interleave q.1 q.2) :
    p = q := by
  have bits := fun k => congrArg (fun code => code.testBit k) same
  simp only [test_interleave] at bits
  refine Prod.ext (Nat.eq_of_testBit_eq fun k => ?_) (Nat.eq_of_testBit_eq fun k => ?_)
  · simpa using bits (2 * k)
  · have odd := bits (2 * k + 1)
    have half : (2 * k + 1) / 2 = k := by omega
    simpa [half] using odd

theorem interleave_lt_iff (p q : ℕ × ℕ) :
    interleave p.1 p.2 < interleave q.1 q.2 ↔ ZBefore p q := by
  constructor
  · induction h : p.1 + p.2 + q.1 + q.2 using Nat.strong_induction_on generalizing p q with
    | _ size ih =>
      intro less
      rw [interleave_halves p.1, interleave_halves q.1] at less
      have low : 2 * (p.2 % 2) + p.1 % 2 < 4 := by omega
      have low' : 2 * (q.2 % 2) + q.1 % 2 < 4 := by omega
      by_cases squares : interleave (p.1 / 2) (p.2 / 2) = interleave (q.1 / 2) (q.2 / 2)
      · have square := interleave_injective (p := (p.1 / 2, p.2 / 2)) (q := (q.1 / 2, q.2 / 2))
          squares
        exact .inner ⟨congrArg Prod.fst square, congrArg Prod.snd square⟩ (by omega)
      · by_cases start : p.1 + p.2 + q.1 + q.2 = 0
        · have zeros : p.1 = 0 ∧ p.2 = 0 ∧ q.1 = 0 ∧ q.2 = 0 := by omega
          obtain ⟨a, b, c, d⟩ := zeros
          rw [a, b, c, d] at squares
          exact absurd rfl squares
        · have less' : interleave (p.1 / 2) (p.2 / 2) < interleave (q.1 / 2) (q.2 / 2) := by
            omega
          refine .outer (ih _ ?_ (p.1 / 2, p.2 / 2) (q.1 / 2, q.2 / 2) rfl less')
          dsimp only
          omega
  · intro before
    induction before with
    | outer _ ih =>
      rename_i p q _
      dsimp only at ih
      rw [interleave_halves p.1, interleave_halves q.1]
      omega
    | inner square quadrant =>
      rename_i p q
      rw [interleave_halves p.1, interleave_halves q.1, square.1, square.2]
      omega

end Metroflow.Lib
