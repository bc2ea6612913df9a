import Metroflow.Lib.Common

namespace Metroflow.Lib

section Separable

variable {ι K : Type*} [LinearOrder K] {marginal : ι → ℕ → K} {takers : Finset ι}
  {counts : ι → ℕ} {i : ι}

/-- No unit that is taken costs more than a unit that could be taken next. -/
def Level (marginal : ι → ℕ → K) (takers : Finset ι) (counts : ι → ℕ) : Prop :=
  ∀ i ∈ takers, ∀ j ∈ takers, ∀ k < counts i, marginal i k ≤ marginal j (counts j)

theorem level_zero : Level marginal takers fun _ => 0 := fun _ _ _ _ _ none =>
  absurd none (Nat.not_lt_zero _)

theorem Level.take [DecidableEq ι] (level : Level marginal takers counts)
    (mono : ∀ i, Monotone (marginal i))
    (least : ∀ j ∈ takers, marginal i (counts i) ≤ marginal j (counts j)) :
    Level marginal takers (Function.update counts i (counts i + 1)) := by
  intro j listed_j l listed_l k taken
  have next : marginal l (counts l) ≤
      marginal l (Function.update counts i (counts i + 1) l) := by
    refine mono l ?_
    by_cases same : l = i
    · rw [same, Function.update_self]
      exact Nat.le_succ _
    · rw [Function.update_of_ne same]
  refine le_trans ?_ next
  by_cases same : j = i
  · rw [same, Function.update_self] at taken
    rw [same]
    exact (mono i (Nat.lt_succ_iff.mp taken)).trans (least l listed_l)
  · rw [Function.update_of_ne same] at taken
    exact level j listed_j l listed_l k taken

variable [Field K] [IsStrictOrderedRing K]

/-- What the first units of one taker cost. -/
def paid (marginal : ι → ℕ → K) (i : ι) (count : ℕ) : K := ∑ k ∈ Finset.range count, marginal i k

theorem paid_between {price : K} {taken other : ℕ} (mono : Monotone (marginal i))
    (below : ∀ k < taken, marginal i k ≤ price) (above : price ≤ marginal i taken) :
    price * ((other : K) - taken) ≤ paid marginal i other - paid marginal i taken := by
  unfold paid
  rcases le_total taken other with more | less
  · have rest := Finset.sum_range_add_sum_Ico (marginal i) more
    have dear : (Finset.Ico taken other).card • price ≤
        ∑ k ∈ Finset.Ico taken other, marginal i k :=
      Finset.card_nsmul_le_sum _ _ _ fun k inside =>
        above.trans (mono (Finset.mem_Ico.mp inside).1)
    rw [Nat.card_Ico, nsmul_eq_mul, Nat.cast_sub more] at dear
    linarith
  · have rest := Finset.sum_range_add_sum_Ico (marginal i) less
    have cheap : ∑ k ∈ Finset.Ico other taken, marginal i k ≤
        (Finset.Ico other taken).card • price :=
      Finset.sum_le_card_nsmul _ _ _ fun k inside => below k (Finset.mem_Ico.mp inside).2
    rw [Nat.card_Ico, nsmul_eq_mul, Nat.cast_sub less] at cheap
    linarith

theorem Level.minimal (level : Level marginal takers counts)
    (mono : ∀ i ∈ takers, Monotone (marginal i)) (nonempty : takers.Nonempty) {other : ι → ℕ}
    (same_sum : ∑ i ∈ takers, other i = ∑ i ∈ takers, counts i) :
    ∑ i ∈ takers, paid marginal i (counts i) ≤ ∑ i ∈ takers, paid marginal i (other i) := by
  obtain ⟨cheapest, listed, least⟩ :=
    takers.exists_min_image (fun j => marginal j (counts j)) nonempty
  have exchange : ∑ i ∈ takers, marginal cheapest (counts cheapest) * ((other i : K) - counts i) ≤
      ∑ i ∈ takers, (paid marginal i (other i) - paid marginal i (counts i)) := by
    refine Finset.sum_le_sum fun i taker => ?_
    exact paid_between (mono i taker) (level i taker cheapest listed) (least i taker)
  rw [← Finset.mul_sum, Finset.sum_sub_distrib, Finset.sum_sub_distrib, ← Nat.cast_sum,
    ← Nat.cast_sum, same_sum, sub_self, mul_zero] at exchange
  exact sub_nonneg.mp exchange

end Separable

end Metroflow.Lib
