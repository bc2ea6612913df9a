import Metroflow.Lib.Common

namespace Metroflow.Lib

variable {α κ : Type*} [LinearOrder κ] {quota : α → ℚ} {key : α → κ} {target : ℤ}
  {ranked : List α} {a b : α}

/-- Quotas of a whole target in the order in which the units left over go out: the larger part
first, of equal parts the smaller key. -/
structure Ranked (quota : α → ℚ) (key : α → κ) (target : ℤ) (ranked : List α) : Prop where
  whole : (ranked.map quota).sum = target
  order : ranked.Pairwise fun a b => Int.fract (quota b) < Int.fract (quota a) ∨
    Int.fract (quota a) = Int.fract (quota b) ∧ key a < key b

/-- What the whole parts of the quotas leave of the target. -/
def leftOver (quota : α → ℚ) (target : ℤ) (ranked : List α) : ℤ :=
  target - (ranked.map fun a => ⌊quota a⌋).sum

/-- The whole part of a quota, and one more for the first of the ranking. -/
def share [DecidableEq α] (quota : α → ℚ) (target : ℤ) (ranked : List α) (a : α) : ℤ :=
  ⌊quota a⌋ + if a ∈ ranked.take (leftOver quota target ranked).toNat then 1 else 0

namespace Ranked

variable (h : Ranked quota key target ranked)
include h

theorem descending : ranked.Pairwise fun a b => Int.fract (quota b) ≤ Int.fract (quota a) := by
  refine h.order.imp ?_
  rintro a b (less | ⟨same, -⟩)
  · exact less.le
  · exact same.ge

theorem distinct : ranked.Nodup := by
  refine h.order.imp ?_
  rintro a b (less | ⟨-, less⟩) rfl
  · exact lt_irrefl _ less
  · exact lt_irrefl _ less

theorem sum_fract :
    (ranked.map fun a => Int.fract (quota a)).sum = leftOver quota target ranked := by
  have general : ∀ l : List α, (l.map fun a => Int.fract (quota a)).sum =
      (l.map quota).sum - ((l.map fun a => ⌊quota a⌋).sum : ℤ) := by
    intro l
    induction l with
    | nil => simp
    | cons a l ih =>
      rw [List.map_cons, List.sum_cons, ih, List.map_cons, List.sum_cons, List.map_cons,
        List.sum_cons, Int.cast_add, Int.fract]
      ring
  rw [general, h.whole, leftOver, Int.cast_sub]

theorem left_over_nonneg : 0 ≤ leftOver quota target ranked := by
  have parts : 0 ≤ (ranked.map fun a => Int.fract (quota a)).sum := by
    refine List.sum_nonneg fun x listed => ?_
    obtain ⟨a, -, rfl⟩ := List.mem_map.mp listed
    exact Int.fract_nonneg _
  rw [h.sum_fract] at parts
  exact_mod_cast parts

theorem fract_pos_of_taken (taken : a ∈ ranked.take (leftOver quota target ranked).toNat) :
    0 < Int.fract (quota a) := by
  by_contra whole
  have zero : Int.fract (quota a) = 0 := le_antisymm (not_lt.mp whole) (Int.fract_nonneg _)
  obtain ⟨i, below, at_i⟩ := List.mem_take_iff_getElem.mp taken
  obtain ⟨early, inside⟩ := lt_min_iff.mp below
  have split := List.take_append_drop i ranked
  -- everything behind `a` has no part either, so the parts add up to less than `i`
  have behind : ((ranked.drop i).map fun b => Int.fract (quota b)).sum = 0 := by
    refine List.sum_eq_zero fun x listed => ?_
    obtain ⟨b, later, rfl⟩ := List.mem_map.mp listed
    obtain ⟨j, bound, at_j⟩ := List.mem_drop_iff_getElem.mp later
    refine le_antisymm ?_ (Int.fract_nonneg _)
    rcases Nat.eq_zero_or_pos j with rfl | past
    · rw [← at_j]
      simp only [Nat.add_zero, at_i, zero, le_refl]
    · have order := List.pairwise_iff_getElem.mp h.descending i (i + j) inside (by omega) (by omega)
      rw [at_i, zero] at order
      rw [← at_j]
      exact order
  have before : ((ranked.take i).map fun b => Int.fract (quota b)).sum ≤ i := by
    have each : ∀ x ∈ (ranked.take i).map fun b => Int.fract (quota b), x ≤ 1 := by
      intro x listed
      obtain ⟨b, -, rfl⟩ := List.mem_map.mp listed
      exact (Int.fract_lt_one _).le
    have bound := List.sum_le_card_nsmul _ 1 each
    rw [List.length_map, List.length_take, Nat.min_eq_left inside.le, nsmul_one] at bound
    exact bound
  have parts := h.sum_fract
  rw [← split, List.map_append, List.sum_append, behind, split, add_zero] at parts
  rw [parts] at before
  have small : leftOver quota target ranked ≤ i := by exact_mod_cast before
  omega

theorem left_over_le : (leftOver quota target ranked).toNat ≤ ranked.length := by
  have each : ∀ x ∈ ranked.map fun b => Int.fract (quota b), x ≤ 1 := by
    intro x listed
    obtain ⟨b, -, rfl⟩ := List.mem_map.mp listed
    exact (Int.fract_lt_one _).le
  have bound := List.sum_le_card_nsmul _ 1 each
  rw [List.length_map, nsmul_one, h.sum_fract] at bound
  have small : leftOver quota target ranked ≤ ranked.length := by exact_mod_cast bound
  omega

theorem taken_of_earlier {r : ℕ} (listed : a ∈ ranked) (taken : b ∈ ranked.take r)
    (earlier : Int.fract (quota b) < Int.fract (quota a) ∨
      Int.fract (quota a) = Int.fract (quota b) ∧ key a < key b) : a ∈ ranked.take r := by
  by_contra left
  have behind : a ∈ ranked.drop r := by
    rw [← List.take_append_drop r ranked, List.mem_append] at listed
    exact listed.resolve_left left
  have ordered := h.order
  rw [← List.take_append_drop r ranked] at ordered
  rcases (List.pairwise_append.mp ordered).2.2 b taken a behind with less | ⟨same, less⟩
  · rcases earlier with less' | ⟨same', -⟩
    · exact less.asymm less'
    · exact less.ne same'
  · rcases earlier with less' | ⟨-, less'⟩
    · exact less'.ne same
    · exact less.asymm less'

variable [DecidableEq α]

theorem sum_share : (ranked.map (share quota target ranked)).sum = target := by
  have general : ∀ l : List α, (l.map (share quota target ranked)).sum =
      (l.map fun a => ⌊quota a⌋).sum +
        (l.countP (· ∈ ranked.take (leftOver quota target ranked).toNat) : ℕ) := by
    intro l
    induction l with
    | nil => rfl
    | cons a l ih =>
      rw [List.map_cons, List.sum_cons, ih, List.map_cons, List.sum_cons, List.countP_cons, share]
      by_cases taken : a ∈ ranked.take (leftOver quota target ranked).toNat
      · simp only [taken, decide_true, if_true, Nat.cast_add, Nat.cast_one]
        ring
      · simp only [taken, decide_false, if_false, Bool.false_eq_true, Nat.add_zero]
        ring
  have count : ranked.countP (· ∈ ranked.take (leftOver quota target ranked).toNat) =
      (leftOver quota target ranked).toNat := by
    have front : (ranked.filter (· ∈ ranked.take (leftOver quota target ranked).toNat)).Perm
        (ranked.take (leftOver quota target ranked).toNat) := by
      refine (List.perm_ext_iff_of_nodup (h.distinct.filter _)
        (h.distinct.sublist (List.take_sublist _ _))).mpr fun a => ?_
      rw [List.mem_filter, decide_eq_true_eq]
      exact and_iff_right_of_imp List.mem_of_mem_take
    rw [List.countP_eq_length_filter, front.length_eq, List.length_take,
      Nat.min_eq_left h.left_over_le]
  rw [general, count, Int.toNat_of_nonneg h.left_over_nonneg, leftOver]
  ring

theorem share_within : |(share quota target ranked a : ℚ) - quota a| < 1 := by
  have low := Int.fract_nonneg (quota a)
  have high := Int.fract_lt_one (quota a)
  have parts := Int.floor_add_fract (quota a)
  rw [share, abs_lt]
  split
  · rename_i taken
    have positive := h.fract_pos_of_taken taken
    rw [Int.cast_add, Int.cast_one]
    exact ⟨by linarith, by linarith⟩
  · rw [Int.cast_add, Int.cast_zero, add_zero]
    exact ⟨by linarith, by linarith⟩

theorem share_of_whole {n : ℤ} (whole : quota a = n) : share quota target ranked a = n := by
  rw [share, if_neg, whole, Int.floor_intCast, add_zero]
  intro taken
  have positive := h.fract_pos_of_taken taken
  rw [whole, Int.fract_intCast] at positive
  exact lt_irrefl _ positive

theorem share_mono (listed : b ∈ ranked) (less : quota a < quota b) :
    share quota target ranked a ≤ share quota target ranked b := by
  have floors : ⌊quota a⌋ ≤ ⌊quota b⌋ := Int.floor_le_floor less.le
  unfold share
  rcases floors.lt_or_eq with lower | level
  · split_ifs <;> omega
  · have parts : Int.fract (quota a) < Int.fract (quota b) := by
      rw [Int.fract, Int.fract, level]
      linarith
    by_cases taken : a ∈ ranked.take (leftOver quota target ranked).toNat
    · rw [if_pos taken, if_pos (h.taken_of_earlier listed taken (.inl parts)), level]
    · rw [if_neg taken]
      split_ifs <;> omega

theorem share_same (listed : a ∈ ranked) (same : quota a = quota b) (before : key a < key b) :
    share quota target ranked b ≤ share quota target ranked a ∧
      share quota target ranked a ≤ share quota target ranked b + 1 := by
  unfold share
  rw [same]
  by_cases taken : b ∈ ranked.take (leftOver quota target ranked).toNat
  · have first := h.taken_of_earlier listed taken (.inr ⟨by rw [same], before⟩)
    rw [if_pos taken, if_pos first]
    omega
  · rw [if_neg taken]
    split_ifs <;> omega

end Ranked

end Metroflow.Lib
