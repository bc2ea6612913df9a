import Metroflow.Lib.RingTurns

namespace Metroflow.Lib

section Alternating

variable {K : Type*} [Field K] [LinearOrder K] {l m : List K}

/-- The sum of numbers, the greatest counted for, the next one against, and so on. -/
def alternating (l : List K) : K := (l.map fun z => (-1) ^ l.countP (z < ·) * z).sum

theorem alternating_perm (h : l.Perm m) : alternating l = alternating m := by
  unfold alternating
  rw [(h.map _).sum_eq]
  simp only [h.countP_eq]

theorem alternating_pair {a b : K} (above : b < a) (rest : ∀ z ∈ l, z < b) :
    alternating (a :: b :: l) = a - b + alternating l := by
  have later : l.map (fun z => (-1) ^ (a :: b :: l).countP (z < ·) * z) =
      l.map fun z => (-1) ^ l.countP (z < ·) * z := by
    refine List.map_congr_left fun z listed => ?_
    have below := rest z listed
    rw [List.countP_cons_of_pos (by simpa using below.trans above),
      List.countP_cons_of_pos (by simpa using below)]
    ring
  have first : (a :: b :: l).countP (a < ·) = 0 := by
    rw [List.countP_eq_zero]
    intro z listed
    rcases List.mem_cons.mp listed with rfl | listed
    · simp
    rcases List.mem_cons.mp listed with rfl | listed
    · simpa using above.le
    · simpa using ((rest z listed).trans above).le
  have second : (a :: b :: l).countP (b < ·) = 1 := by
    rw [List.countP_cons_of_pos (by simpa using above), List.countP_cons_of_neg (by simp),
      List.countP_eq_zero.mpr]
    intro z listed
    simpa using (rest z listed).le
  unfold alternating
  rw [List.map_cons, List.map_cons, List.sum_cons, List.sum_cons, first, second, later]
  ring

variable [IsStrictOrderedRing K]

theorem alternating_nonneg (distinct : l.Nodup) (even : Even l.length) :
    0 ≤ alternating l ∧ (l ≠ [] → 0 < alternating l) := by
  have sorted : ∀ m : List K, m.Pairwise (· > ·) → Even m.length →
      0 ≤ alternating m ∧ (m ≠ [] → 0 < alternating m) := by
    intro m
    induction m using List.twoStepInduction with
    | nil => exact fun _ _ => ⟨le_refl _, fun nonempty => absurd rfl nonempty⟩
    | singleton a => exact fun _ odd => absurd odd (by simp)
    | cons_cons a b m ih =>
      intro falling even
      obtain ⟨below_a, falling⟩ := List.pairwise_cons.mp falling
      obtain ⟨below_b, falling⟩ := List.pairwise_cons.mp falling
      rw [List.length_cons, List.length_cons, Nat.even_add_one, Nat.even_add_one, not_not] at even
      have above := below_a b List.mem_cons_self
      have pos : 0 < alternating (a :: b :: m) := by
        rw [alternating_pair above below_b]
        exact add_pos_of_pos_of_nonneg (sub_pos.mpr above) (ih falling even).1
      exact ⟨pos.le, fun _ => pos⟩
  have perm : (l.insertionSort (· ≥ ·)).Perm l := List.perm_insertionSort _ _
  have falling : (l.insertionSort (· ≥ ·)).Pairwise (· > ·) := by
    have weakly : (l.insertionSort (· ≥ ·)).Pairwise (· ≥ ·) := List.pairwise_insertionSort _ _
    have apart : (l.insertionSort (· ≥ ·)).Nodup := perm.nodup_iff.mpr distinct
    exact (weakly.and apart).imp fun pair => lt_of_le_of_ne pair.1 pair.2.symm
  have even' : Even (l.insertionSort (· ≥ ·)).length := perm.length_eq ▸ even
  obtain ⟨nonneg, pos⟩ := sorted _ falling even'
  rw [← alternating_perm perm]
  exact ⟨nonneg, fun nonempty => pos fun empty => nonempty (List.nil_perm.mp (empty ▸ perm))⟩

omit [IsStrictOrderedRing K] in
theorem alternating_append (left : ∀ z ∈ l, Even (m.countP (z < ·)))
    (right : ∀ z ∈ m, Odd (l.countP (z < ·))) :
    alternating (l ++ m) = alternating l - alternating m := by
  have first : l.map (fun z => (-1) ^ (l ++ m).countP (z < ·) * z) =
      l.map fun z => (-1) ^ l.countP (z < ·) * z := by
    refine List.map_congr_left fun z listed => ?_
    rw [List.countP_append, pow_add, (left z listed).neg_one_pow, mul_one]
  have second : m.map (fun z => (-1) ^ (l ++ m).countP (z < ·) * z) =
      m.map fun z => -1 * ((-1) ^ m.countP (z < ·) * z) := by
    refine List.map_congr_left fun z listed => ?_
    rw [List.countP_append, pow_add, (right z listed).neg_one_pow, mul_assoc]
  unfold alternating
  rw [List.map_append, List.sum_append, first, second, List.sum_map_mul_left, neg_one_mul,
    sub_eq_add_neg]

end Alternating

section Slabs

variable {K : Type*} [Field K] [LinearOrder K] {ring : List (K × K)} {levels : List K} {y : K}

theorem sum_steps {α M : Type*} [AddCommGroup M] (f : α → M) (a : α) (l : List α) :
    ((sides (a :: l)).map fun e => f e.2 - f e.1).sum =
      f ((a :: l).getLast (List.cons_ne_nil a l)) - f a := by
  induction l generalizing a with
  | nil => exact (sub_self _).symm
  | cons b l ih =>
    rw [List.getLast_cons (List.cons_ne_nil b l)]
    change f b - f a + ((sides (b :: l)).map fun e => f e.2 - f e.1).sum = _
    rw [ih]
    abel

theorem sum_swap {α β M : Type*} [AddCommMonoid M] (l : List α) (m : List β) (f : α → β → M) :
    (l.map fun a => (m.map fun b => f a b).sum).sum =
      (m.map fun b => (l.map fun a => f a b).sum).sum := by
  simpa using Multiset.sum_map_sum_map (l : Multiset α) (m : Multiset β) (f := f)

/-- What a side adds on a level: its place there, against it where the side goes down. -/
def sideTerm (y : K) (e : (K × K) × (K × K)) : K :=
  if Spans y e then if e.1.2 < e.2.2 then meetAt y e else -meetAt y e else 0

def levelSum (ring : List (K × K)) (y : K) : K := ((sides ring).map (sideTerm y)).sum

omit [Field K] in
theorem gap_of_side {l : List K} (rising : l.Pairwise (· < ·)) {slab : K × K}
    (side : slab ∈ sides l) : slab.1 < slab.2 ∧ ∀ x ∈ l, x ≤ slab.1 ∨ slab.2 ≤ x := by
  obtain ⟨before, after, rfl⟩ := side_split side
  obtain ⟨-, later, across⟩ := List.pairwise_append.mp rising
  obtain ⟨above, later⟩ := List.pairwise_cons.mp later
  have beyond := (List.pairwise_cons.mp later).1
  refine ⟨above _ List.mem_cons_self, fun x listed => ?_⟩
  rcases List.mem_append.mp listed with early | late
  · exact .inl (across x early _ List.mem_cons_self).le
  rcases List.mem_cons.mp late with rfl | late
  · exact .inl (le_refl _)
  rcases List.mem_cons.mp late with rfl | late
  · exact .inr (le_refl _)
  · exact .inr (beyond x late).le

variable [IsStrictOrderedRing K]

/-- The area to the left of a side up to a level, on the levels of the side. -/
def sweep (e : (K × K) × (K × K)) (y : K) : K :=
  let rise := max e.1.2 (min y e.2.2) - e.1.2
  2 * e.1.1 * rise + (e.2.1 - e.1.1) / (e.2.2 - e.1.2) * rise ^ 2

theorem sweep_slab {e : (K × K) × (K × K)} (up : e.1.2 < e.2.2) {slab : K × K}
    (rises : slab.1 < slab.2) (low : e.1.2 ≤ slab.1 ∨ slab.2 ≤ e.1.2)
    (high : e.2.2 ≤ slab.1 ∨ slab.2 ≤ e.2.2) :
    2 * (slab.2 - slab.1) * sideTerm ((slab.1 + slab.2) / 2) e = sweep e slab.2 - sweep e slab.1 := by
  have gap : e.2.2 - e.1.2 ≠ 0 := (sub_pos.mpr up).ne'
  unfold sideTerm sweep
  dsimp only
  rcases low with low | below
  · rcases high with above | high
    · have none : ¬Spans ((slab.1 + slab.2) / 2) e := by
        rw [spans_iff]
        rintro (⟨-, short⟩ | ⟨-, short⟩) <;> linarith
      rw [if_neg none, min_eq_right above, min_eq_right (above.trans rises.le), mul_zero, sub_self]
    · have spans : Spans ((slab.1 + slab.2) / 2) e := spans_iff.mpr (.inl ⟨by linarith, by linarith⟩)
      rw [if_pos spans, if_pos up, min_eq_left high, min_eq_left (rises.le.trans high),
        max_eq_right (low.trans rises.le), max_eq_right low]
      unfold meetAt
      field_simp
      ring
  · have none : ¬Spans ((slab.1 + slab.2) / 2) e := by
      rw [spans_iff]
      rintro (⟨short, -⟩ | ⟨short, -⟩) <;> linarith
    have start : ∀ {y : K}, y ≤ e.1.2 → max e.1.2 (min y e.2.2) = e.1.2 := fun lower =>
      max_eq_left ((min_le_left _ _).trans lower)
    rw [if_neg none, start below, start (rises.le.trans below), mul_zero, sub_self]

theorem sweep_total {e : (K × K) × (K × K)} (up : e.1.2 < e.2.2) (rising : levels.Pairwise (· < ·))
    (first : e.1.2 ∈ levels) (second : e.2.2 ∈ levels) :
    ((sides levels).map fun slab =>
      2 * (slab.2 - slab.1) * sideTerm ((slab.1 + slab.2) / 2) e).sum =
        (e.2.2 - e.1.2) * (e.1.1 + e.2.1) := by
  have steps : ((sides levels).map fun slab =>
      2 * (slab.2 - slab.1) * sideTerm ((slab.1 + slab.2) / 2) e) =
      (sides levels).map fun slab => sweep e slab.2 - sweep e slab.1 := by
    refine List.map_congr_left fun slab side => ?_
    obtain ⟨rises, gap⟩ := gap_of_side rising side
    exact sweep_slab up rises (gap _ first) (gap _ second)
  cases levels with
  | nil => cases first
  | cons a l =>
    have nonempty := List.cons_ne_nil a l
    have start : a ≤ e.1.2 := by
      rcases List.mem_cons.mp first with same | later
      · exact same.ge
      · exact ((List.pairwise_cons.mp rising).1 _ later).le
    have finish : e.2.2 ≤ (a :: l).getLast nonempty := by
      rw [← List.dropLast_append_getLast nonempty, List.mem_append, List.mem_singleton] at second
      rw [← List.dropLast_append_getLast nonempty] at rising
      rcases second with early | same
      · exact ((List.pairwise_append.mp rising).2.2 _ early _ (List.mem_singleton_self _)).le
      · exact same.le
    have gap : e.2.2 - e.1.2 ≠ 0 := (sub_pos.mpr up).ne'
    rw [steps, sum_steps]
    unfold sweep
    dsimp only
    rw [min_eq_right finish, max_eq_right up.le, max_eq_left ((min_le_left _ _).trans start)]
    field_simp
    ring

omit [IsStrictOrderedRing K] in
theorem side_term_swap {e : (K × K) × (K × K)} : sideTerm y e.swap = -sideTerm y e := by
  unfold sideTerm
  simp only [spans_swap]
  split
  · rename_i spans
    rw [meet_swap spans, Prod.fst_swap, Prod.snd_swap]
    rcases lt_or_gt_of_ne (spans_apart spans) with up | down
    · rw [if_neg up.not_gt, if_pos up]
    · rw [if_pos down, if_neg down.not_gt, neg_neg]
  · exact neg_zero.symm

theorem side_total {e : (K × K) × (K × K)} (rising : levels.Pairwise (· < ·))
    (first : e.1.2 ∈ levels) (second : e.2.2 ∈ levels) :
    ((sides levels).map fun slab =>
      2 * (slab.2 - slab.1) * sideTerm ((slab.1 + slab.2) / 2) e).sum =
        (e.2.2 - e.1.2) * (e.1.1 + e.2.1) := by
  rcases lt_trichotomy e.1.2 e.2.2 with up | level | down
  · exact sweep_total up rising first second
  · have none : ∀ y, sideTerm y e = 0 := fun y => if_neg fun spans => spans_apart spans level
    simp only [none, mul_zero, level, sub_self, zero_mul]
    rw [List.sum_eq_zero]
    simp
  · have swapped := sweep_total (e := e.swap) down rising second first
    simp only [side_term_swap, mul_neg, Prod.fst_swap, Prod.snd_swap] at swapped
    have negated := List.sum_map_mul_left (sides levels)
      (fun slab => 2 * (slab.2 - slab.1) * sideTerm ((slab.1 + slab.2) / 2) e) (-1)
    simp only [neg_one_mul] at negated
    rw [negated] at swapped
    linear_combination -swapped

omit [LinearOrder K] [IsStrictOrderedRing K] in
theorem area2_beside (closed : ring.head? = ring.getLast?) :
    area2 ring = ((sides ring).map fun e => (e.2.2 - e.1.2) * (e.1.1 + e.2.1)).sum := by
  have steps : ((sides ring).map fun e => e.2.1 * e.2.2 - e.1.1 * e.1.2).sum = 0 := by
    cases ring with
    | nil => rfl
    | cons v l =>
      rw [List.head?_cons, List.getLast?_eq_some_getLast (List.cons_ne_nil v l)] at closed
      rw [sum_steps (fun v : K × K => v.1 * v.2), ← Option.some.inj closed, sub_self]
  have split := List.sum_map_add (l := sides ring)
    (f := fun e => e.1.1 * e.2.2 - e.2.1 * e.1.2)
    (g := fun e => e.2.1 * e.2.2 - e.1.1 * e.1.2)
  rw [steps, add_zero] at split
  refine split.symm.trans (congrArg List.sum (List.map_congr_left fun e _ => ?_))
  ring

theorem area2_slabs (closed : ring.head? = ring.getLast?) (rising : levels.Pairwise (· < ·))
    (known : ∀ v ∈ ring, v.2 ∈ levels) :
    area2 ring = ((sides levels).map fun slab =>
      2 * (slab.2 - slab.1) * levelSum ring ((slab.1 + slab.2) / 2)).sum := by
  unfold levelSum
  simp only [← List.sum_map_mul_left]
  rw [area2_beside closed, sum_swap]
  refine congrArg List.sum (List.map_congr_left fun e side => ?_)
  obtain ⟨first, second⟩ := side_ends side
  exact (side_total rising (known _ first) (known _ second)).symm

end Slabs

section Content

variable {K : Type*} [Field K] [LinearOrder K] [IsStrictOrderedRing K]
  {ring inner outer : List (K × K)} {levels : List K} {y : K}

/-- Where the sides of a polygon meet a level. -/
def meets (ring : List (K × K)) (y : K) : List K :=
  ((sides ring).filter fun e => Spans y e).map (meetAt y)

omit [IsStrictOrderedRing K] in
theorem mem_meets {x : K} : x ∈ meets ring y ↔ ∃ e ∈ sides ring, Spans y e ∧ meetAt y e = x := by
  unfold meets
  simp only [List.mem_map, List.mem_filter, decide_eq_true_eq, and_assoc]

omit [IsStrictOrderedRing K] in
theorem crossings_meets (x : K) : crossings ring (x, y) = (meets ring y).countP (x < ·) := by
  unfold crossings meets
  rw [List.countP_map, List.countP_filter]
  refine List.countP_congr fun e _ => ?_
  simp [and_comm]

omit [IsStrictOrderedRing K] in
theorem meets_even (closed : ring.head? = ring.getLast?) (y : K) : Even (meets ring y).length := by
  unfold meets
  rw [List.length_map, ← List.countP_eq_length_filter]
  exact even_spans closed

theorem SimpleRing.meets_nodup (simple : SimpleRing ring) (free : ∀ v ∈ ring, v.2 ≠ y) :
    (meets ring y).Nodup := by
  have apart := (simple.meets_apart free).filter fun e => decide (Spans y e)
  refine List.pairwise_map.mpr (apart.imp_of_mem fun {e f} first second differ => ?_)
  exact differ (of_decide_eq_true (List.mem_filter.mp first).2)
    (of_decide_eq_true (List.mem_filter.mp second).2)

omit [IsStrictOrderedRing K] in
theorem alternating_meets : alternating (meets ring y) = ((sides ring).map fun e =>
    if Spans y e then (-1) ^ crossings ring (meetAt y e, y) * meetAt y e else 0).sum := by
  rw [List.sum_map_ite]
  simp only [List.map_const', List.sum_replicate, smul_zero, add_zero]
  unfold alternating
  simp only [← crossings_meets]
  unfold meets
  rw [List.map_map]
  rfl

theorem SimpleRing.level_sums (simple : SimpleRing ring) : ∃ sign : K, (sign = 1 ∨ sign = -1) ∧
    ∀ y, (∀ v ∈ ring, v.2 ≠ y) → levelSum ring y = sign * alternating (meets ring y) := by
  obtain ⟨left, turns⟩ := simple.turns
  have terms : ∀ sign : K, (∀ e ∈ sides ring, ∀ y, Spans y e → (∀ v ∈ ring, v.2 ≠ y) →
      (if e.1.2 < e.2.2 then 1 else -1) = sign * (-1) ^ crossings ring (meetAt y e, y)) →
      ∀ y, (∀ v ∈ ring, v.2 ≠ y) → levelSum ring y = sign * alternating (meets ring y) := by
    intro sign same y free
    unfold levelSum
    rw [alternating_meets, ← List.sum_map_mul_left]
    refine congrArg List.sum (List.map_congr_left fun e side => ?_)
    unfold sideTerm
    split
    · rename_i spans
      rw [← mul_assoc, ← same e side y spans free]
      split
      · rw [one_mul]
      · rw [neg_one_mul]
    · rw [mul_zero]
  by_cases inside : left
  · refine ⟨1, .inl rfl, terms 1 fun e side y spans free => ?_⟩
    have turn := (turns e side y spans (free _ (side_ends side).1) (free _ (side_ends side).2)).mpr
      inside
    split
    · rename_i up
      rw [(turn.mpr up).neg_one_pow, one_mul]
    · rename_i down
      rw [(Nat.not_even_iff_odd.mp (mt turn.mp down)).neg_one_pow, one_mul]
  · refine ⟨-1, .inr rfl, terms (-1) fun e side y spans free => ?_⟩
    have turn := mt (turns e side y spans (free _ (side_ends side).1)
      (free _ (side_ends side).2)).mp inside
    split
    · rename_i up
      rw [iff_true_right up] at turn
      rw [(Nat.not_even_iff_odd.mp turn).neg_one_pow]
      ring
    · rename_i down
      rw [iff_false_right down, not_not] at turn
      rw [turn.neg_one_pow, mul_one]

theorem free_between (rising : levels.Pairwise (· < ·)) (known : ∀ v ∈ ring, v.2 ∈ levels)
    {slab : K × K} (side : slab ∈ sides levels) :
    ∀ v ∈ ring, v.2 ≠ (slab.1 + slab.2) / 2 := by
  intro v listed same
  obtain ⟨rises, gap⟩ := gap_of_side rising side
  rcases gap _ (known v listed) with low | high <;> linarith

theorem SimpleRing.area_abs (simple : SimpleRing ring) (rising : levels.Pairwise (· < ·))
    (known : ∀ v ∈ ring, v.2 ∈ levels) :
    |area2 ring| = ((sides levels).map fun slab =>
      2 * (slab.2 - slab.1) * alternating (meets ring ((slab.1 + slab.2) / 2))).sum := by
  obtain ⟨sign, unit, sums⟩ := simple.level_sums
  have signed : area2 ring = sign * ((sides levels).map fun slab =>
      2 * (slab.2 - slab.1) * alternating (meets ring ((slab.1 + slab.2) / 2))).sum := by
    rw [area2_slabs simple.closed rising known, ← List.sum_map_mul_left]
    refine congrArg List.sum (List.map_congr_left fun slab side => ?_)
    rw [sums _ (free_between rising known side)]
    ring
  have nonneg : 0 ≤ ((sides levels).map fun slab =>
      2 * (slab.2 - slab.1) * alternating (meets ring ((slab.1 + slab.2) / 2))).sum := by
    refine List.sum_nonneg (List.forall_mem_map.mpr fun slab side => ?_)
    have distinct := simple.meets_nodup (free_between rising known side)
    have rises := (gap_of_side rising side).1
    exact mul_nonneg (mul_nonneg zero_le_two (sub_nonneg.mpr rises.le))
      (alternating_nonneg distinct (meets_even simple.closed _)).1
  rw [signed, abs_mul, abs_of_nonneg nonneg]
  rcases unit with rfl | rfl <;> simp

end Content

end Metroflow.Lib
