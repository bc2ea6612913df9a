import Metroflow.Lib.Rings

namespace Metroflow.Lib

section Counts

variable {α : Type*} (a b : α → Prop) [DecidablePred a] [DecidablePred b]

theorem even_count_iff (l : List α) : Even (l.countP fun x => ¬(a x ↔ b x)) ↔
    (Even (l.countP fun x => a x) ↔ Even (l.countP fun x => b x)) := by
  induction l with
  | nil => simp
  | cons x l ih =>
    rw [List.countP_cons, List.countP_cons, List.countP_cons, Nat.even_add, Nat.even_add,
      Nat.even_add, ih]
    by_cases here : a x <;> by_cases there : b x <;>
      simp [here, there, -Nat.not_even_iff_odd] <;> tauto

end Counts

section Swap

variable {K : Type*} [LinearOrder K] {e : (K × K) × (K × K)} {y : K}

theorem spans_swap : Spans y e.swap ↔ Spans y e := not_congr iff_comm

end Swap

variable {K : Type*} [Field K] [LinearOrder K] {ring : List (K × K)} {p q : K × K}
  {e : (K × K) × (K × K)} {y : K}

/-- The ray to the right of a point crosses a side. -/
def Beyond (p : K × K) (e : (K × K) × (K × K)) : Prop := Spans p.2 e ∧ p.1 < meetAt p.2 e

instance (p : K × K) : DecidablePred (Beyond p) := fun e =>
  inferInstanceAs (Decidable (Spans p.2 e ∧ p.1 < meetAt p.2 e))

theorem meet_swap (spans : Spans y e) : meetAt y e.swap = meetAt y e := by
  have gap := sub_ne_zero.mpr (spans_apart spans)
  have gap' := sub_ne_zero.mpr (spans_apart spans).symm
  unfold meetAt
  rw [Prod.fst_swap, Prod.snd_swap]
  field_simp
  ring

theorem beyond_swap : Beyond p e.swap ↔ Beyond p e := by
  unfold Beyond
  rw [spans_swap]
  exact and_congr_right fun spans => by rw [meet_swap spans]

/-- The points of the levels between two points, to the right of the line through them. -/
def Strip (p q v : K × K) : Prop := (p.2 < v.2 ∧ v.2 ≤ q.2) ∧ cross p q v < 0

instance (p q : K × K) : DecidablePred (Strip p q) := fun v =>
  inferInstanceAs (Decidable ((p.2 < v.2 ∧ v.2 ≤ q.2) ∧ cross p q v < 0))

/-- A side changes the number of crossings between two points otherwise than by way of the strip
between them. -/
def Exceptional (p q : K × K) (e : (K × K) × (K × K)) : Prop :=
  ¬((Strip p q e.1 ↔ Strip p q e.2) ↔ (Beyond p e ↔ Beyond q e))

instance (p q : K × K) : DecidablePred (Exceptional p q) := fun e =>
  inferInstanceAs (Decidable (¬((Strip p q e.1 ↔ Strip p q e.2) ↔ (Beyond p e ↔ Beyond q e))))

theorem exceptional_swap : Exceptional p q e.swap ↔ Exceptional p q e := by
  unfold Exceptional
  rw [beyond_swap, beyond_swap, Prod.fst_swap, Prod.snd_swap, iff_comm (a := Strip p q e.2)]

theorem even_exceptional (closed : ring.head? = ring.getLast?) (p q : K × K) :
    Even ((sides ring).countP fun e => Exceptional p q e) ↔
      (Even (crossings ring p) ↔ Even (crossings ring q)) := by
  have entered : Even ((sides ring).countP fun e => ¬(Strip p q e.1 ↔ Strip p q e.2)) := by
    refine (even_changes (Strip p q) ring).mpr fun a b first last => ?_
    rw [closed, last] at first
    rw [Option.some.inj first]
  calc Even ((sides ring).countP fun e => Exceptional p q e)
      ↔ Even ((sides ring).countP fun e =>
          ¬(¬(Strip p q e.1 ↔ Strip p q e.2) ↔ ¬(Beyond p e ↔ Beyond q e))) := by
        unfold Exceptional
        simp only [not_iff_not]
        rfl
    _ ↔ Even ((sides ring).countP fun e => ¬(Beyond p e ↔ Beyond q e)) := by
        rw [even_count_iff, iff_true_left entered]
    _ ↔ (Even (crossings ring p) ↔ Even (crossings ring q)) := even_count_iff _ _ _

section Clear

variable [IsStrictOrderedRing K]

theorem same_side (rises : p.2 < q.2) (clear : ∀ x ∈ segment K e.1 e.2, x ∉ segment K p q)
    {a b : K × K} (mem_a : a ∈ segment K e.1 e.2) (mem_b : b ∈ segment K e.1 e.2)
    (level_a : p.2 ≤ a.2 ∧ a.2 ≤ q.2) (level_b : p.2 ≤ b.2 ∧ b.2 ≤ q.2) (right : cross p q a < 0) :
    cross p q b < 0 := by
  by_contra left
  rw [not_lt] at left
  have gap : 0 < cross p q b - cross p q a := by linarith
  have low : 0 ≤ -cross p q a / (cross p q b - cross p q a) := div_nonneg (by linarith) gap.le
  have high : -cross p q a / (cross p q b - cross p q a) ≤ 1 := (div_le_one gap).mpr (by linarith)
  generalize ratio : -cross p q a / (cross p q b - cross p q a) = t at low high
  rw [div_eq_iff gap.ne'] at ratio
  have between : (a.1 + t * (b.1 - a.1), a.2 + t * (b.2 - a.2)) ∈ segment K a b :=
    mem_segment.mpr ⟨t, low, high, rfl, rfl⟩
  refine clear _ ((convex_segment e.1 e.2).segment_subset mem_a mem_b between) ?_
  refine mem_segment_of_second rises.ne ?_ ?_ ?_
  · have line : cross p q (a.1 + t * (b.1 - a.1), a.2 + t * (b.2 - a.2)) =
        cross p q a + t * (cross p q b - cross p q a) := by
      unfold cross
      ring
    rw [line, ← ratio]
    ring
  · rw [min_eq_left rises.le]
    nlinarith
  · rw [max_eq_right rises.le]
    nlinarith

theorem beyond_iff {r : K × K} (rises : p.2 < q.2) (line : cross p q r = 0)
    (spans : Spans r.2 e) : Beyond r e ↔ cross p q (meetAt r.2 e, r.2) < 0 := by
  have height := sub_pos.mpr rises
  have side : cross p q (meetAt r.2 e, r.2) = (q.2 - p.2) * (r.1 - meetAt r.2 e) := by
    unfold cross at line ⊢
    linear_combination line
  rw [side]
  constructor
  · intro beyond
    exact mul_neg_of_pos_of_neg height (sub_neg.mpr beyond.2)
  · intro right
    exact ⟨spans, sub_neg.mp (neg_of_mul_neg_right right height.le)⟩

/-- A side that does not meet the segment between two points is not exceptional. -/
theorem not_exceptional (rises : p.2 < q.2)
    (clear : ∀ x ∈ segment K e.1 e.2, x ∉ segment K p q) : ¬Exceptional p q e := by
  wlog up : e.1.2 ≤ e.2.2 generalizing e
  · rw [← exceptional_swap]
    refine this ?_ (not_le.mp up).le
    rwa [Prod.fst_swap, Prod.snd_swap, segment_symm]
  have side : ∀ {a b : K × K}, a ∈ segment K e.1 e.2 → b ∈ segment K e.1 e.2 →
      p.2 ≤ a.2 ∧ a.2 ≤ q.2 → p.2 ≤ b.2 ∧ b.2 ≤ q.2 → (cross p q a < 0 ↔ cross p q b < 0) :=
    fun mem_a mem_b level_a level_b => ⟨same_side rises clear mem_a mem_b level_a level_b,
      same_side rises clear mem_b mem_a level_b level_a⟩
  have first := left_mem_segment K e.1 e.2
  have second := right_mem_segment K e.1 e.2
  have low_level : p.2 ≤ p.2 ∧ p.2 ≤ q.2 := ⟨le_refl _, rises.le⟩
  have high_level : p.2 ≤ q.2 ∧ q.2 ≤ q.2 := ⟨rises.le, le_refl _⟩
  have not_beyond : ∀ {r : K × K}, ¬Spans r.2 e → ¬Beyond r e := fun none there => none there.1
  have inside : ∀ {v : K × K}, p.2 < v.2 → v.2 ≤ q.2 → (Strip p q v ↔ cross p q v < 0) :=
    fun low high => and_iff_right ⟨low, high⟩
  have cross_start : cross p q p = 0 := by
    unfold cross
    ring
  unfold Exceptional
  rw [not_not]
  -- each end lies below, between or above the levels of the segment
  rcases le_or_gt e.1.2 p.2 with low | low
  · have out : ¬Strip p q e.1 := fun strip => strip.1.1.not_ge low
    rcases le_or_gt e.2.2 p.2 with low' | low'
    · have out' : ¬Strip p q e.2 := fun strip => strip.1.1.not_ge low'
      have none : ¬Spans p.2 e := by rw [spans_iff]; grind
      have none' : ¬Spans q.2 e := by rw [spans_iff]; grind
      exact iff_of_true (iff_of_false out out') (iff_of_false (not_beyond none) (not_beyond none'))
    · have spans : Spans p.2 e := spans_iff.mpr (.inl ⟨low, low'⟩)
      rcases le_or_gt e.2.2 q.2 with high' | high'
      · have none' : ¬Spans q.2 e := by rw [spans_iff]; grind
        rw [iff_false_left out, iff_false_right (not_beyond none'), not_iff_not,
          inside low' high', beyond_iff rises cross_start spans]
        exact side second (meet_mem spans) ⟨low'.le, high'⟩ low_level
      · have out' : ¬Strip p q e.2 := fun strip => strip.1.2.not_gt high'
        have spans' : Spans q.2 e := spans_iff.mpr (.inl ⟨low.trans rises.le, high'⟩)
        rw [iff_true_left (iff_of_false out out'), beyond_iff rises cross_start spans,
          beyond_iff rises (cross_end p q) spans']
        exact side (meet_mem spans) (meet_mem spans') low_level high_level
  · have none : ¬Spans p.2 e := by rw [spans_iff]; grind
    rcases le_or_gt e.1.2 q.2 with high | high
    · rcases le_or_gt e.2.2 q.2 with high' | high'
      · have none' : ¬Spans q.2 e := by rw [spans_iff]; grind
        rw [iff_true_right (iff_of_false (not_beyond none) (not_beyond none')), inside low high,
          inside (low.trans_le up) high']
        exact side first second ⟨low.le, high⟩ ⟨(low.trans_le up).le, high'⟩
      · have out' : ¬Strip p q e.2 := fun strip => strip.1.2.not_gt high'
        have spans' : Spans q.2 e := spans_iff.mpr (.inl ⟨high, high'⟩)
        rw [iff_false_right out', iff_false_left (not_beyond none), not_iff_not, inside low high,
          beyond_iff rises (cross_end p q) spans']
        exact side first (meet_mem spans') ⟨low.le, high⟩ high_level
    · have out : ¬Strip p q e.1 := fun strip => strip.1.2.not_gt high
      have out' : ¬Strip p q e.2 := fun strip => strip.1.2.not_gt (high.trans_le up)
      have none' : ¬Spans q.2 e := by rw [spans_iff]; grind
      exact iff_of_true (iff_of_false out out') (iff_of_false (not_beyond none) (not_beyond none'))

theorem beyond_level (level : p.2 = q.2) (clear : ∀ x ∈ segment K e.1 e.2, x ∉ segment K p q) :
    Beyond p e ↔ Beyond q e := by
  unfold Beyond
  rw [← level]
  refine and_congr_right fun spans => ?_
  have away := clear _ (meet_mem spans)
  by_contra change
  refine away (mem_segment_of_box ?_ ?_ ?_)
  · unfold cross
    rw [level]
    ring
  · dsimp only
    rw [min_le_iff, le_max_iff]
    grind
  · rw [level, min_self, max_self]
    exact ⟨le_refl _, le_refl _⟩

theorem crossings_along (closed : ring.head? = ring.getLast?)
    (clear : ∀ e ∈ sides ring, ∀ x ∈ segment K e.1 e.2, x ∉ segment K p q) :
    Even (crossings ring p) ↔ Even (crossings ring q) := by
  wlog up : p.2 ≤ q.2 generalizing p q
  · refine (this ?_ (not_le.mp up).le).symm
    simpa only [segment_symm] using clear
  rcases up.lt_or_eq with rises | level
  · rw [← even_exceptional closed, List.countP_eq_zero.mpr]
    · exact Even.zero
    · intro e side
      rw [decide_eq_true_eq]
      exact not_exceptional rises (clear e side)
  · refine iff_of_eq (congrArg Even (List.countP_congr fun e side => ?_))
    rw [decide_eq_true_eq, decide_eq_true_eq]
    exact beyond_level level (clear e side)

end Clear

end Metroflow.Lib
