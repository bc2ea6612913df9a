import Metroflow.Lib.Common

namespace Metroflow.Lib

variable {K : Type*}

/-- Which side of the line through two points a third one lies on; zero on the line. -/
def cross [CommRing K] (p q r : K × K) : K :=
  (q.1 - p.1) * (r.2 - p.2) - (q.2 - p.2) * (r.1 - p.1)

theorem cross_end [CommRing K] (p q : K × K) : cross p q q = 0 := by
  unfold cross
  ring

variable [Field K] [LinearOrder K] [IsStrictOrderedRing K] {a b c d p q r x : K × K}

/-- Each of two segments has its ends on both sides of the other. -/
def Crosses (a b c d : K × K) : Prop :=
  cross a b c * cross a b d < 0 ∧ cross c d a * cross c d b < 0

theorem mem_open_segment : x ∈ openSegment K a b ↔
    ∃ t, 0 < t ∧ t < 1 ∧ x.1 = a.1 + t * (b.1 - a.1) ∧ x.2 = a.2 + t * (b.2 - a.2) := by
  rw [openSegment_eq_image']
  constructor
  · rintro ⟨t, ⟨low, high⟩, rfl⟩
    exact ⟨t, low, high, rfl, rfl⟩
  · rintro ⟨t, low, high, first, second⟩
    exact ⟨t, ⟨low, high⟩, (Prod.ext first second).symm⟩

theorem mem_segment_cases : x ∈ segment K a b ↔ x = a ∨ x = b ∨ x ∈ openSegment K a b := by
  rw [← insert_endpoints_openSegment, Set.mem_insert_iff, Set.mem_insert_iff]

theorem cross_of_open (h : x ∈ openSegment K a b) : cross a b x = 0 := by
  obtain ⟨t, _, _, first, second⟩ := mem_open_segment.mp h
  unfold cross
  rw [first, second]
  ring

theorem inner_contact (hab : x ∈ openSegment K a b) (hcd : x ∈ openSegment K c d) :
    Crosses a b c d ∨ cross a b c = 0 ∧ cross a b d = 0 := by
  obtain ⟨s, s_pos, s_lt, first, second⟩ := mem_open_segment.mp hcd
  obtain ⟨t, t_pos, t_lt, first', second'⟩ := mem_open_segment.mp hab
  have on_ab : (1 - s) * cross a b c + s * cross a b d = 0 := by
    have line := cross_of_open hab
    unfold cross at line ⊢
    rw [first, second] at line
    linear_combination line
  have on_cd : (1 - t) * cross c d a + t * cross c d b = 0 := by
    have line := cross_of_open hcd
    unfold cross at line ⊢
    rw [first', second'] at line
    linear_combination line
  have slopes : cross c d b - cross c d a = -(cross a b d - cross a b c) := by
    unfold cross
    ring
  by_cases flat : cross a b c = 0
  · right
    refine ⟨flat, ?_⟩
    rw [flat, mul_zero, zero_add] at on_ab
    exact (mul_eq_zero.mp on_ab).resolve_left s_pos.ne'
  · left
    have square : 0 < cross a b c * cross a b c := mul_self_pos.mpr flat
    have opposite : s * (cross a b c * cross a b d) = -((1 - s) * (cross a b c * cross a b c)) := by
      linear_combination cross a b c * on_ab
    have first_neg : cross a b c * cross a b d < 0 := by
      have below : s * (cross a b c * cross a b d) < 0 := by
        rw [opposite]
        exact neg_neg_of_pos (mul_pos (by linarith) square)
      exact neg_of_mul_neg_right below s_pos.le
    refine ⟨first_neg, ?_⟩
    have apart : cross c d b - cross c d a ≠ 0 := by
      intro same
      rw [slopes, neg_eq_zero, sub_eq_zero] at same
      rw [same] at first_neg
      exact absurd first_neg (not_lt.mpr (mul_self_nonneg _))
    have at_a : cross c d a = -(t * (cross c d b - cross c d a)) := by linear_combination on_cd
    have at_b : cross c d b = (1 - t) * (cross c d b - cross c d a) := by linear_combination on_cd
    have product : cross c d a * cross c d b =
        -(t * (1 - t) * ((cross c d b - cross c d a) * (cross c d b - cross c d a))) := by
      linear_combination cross c d b * at_a - t * (cross c d b - cross c d a) * at_b
    rw [product]
    have weights : 0 < t * (1 - t) := mul_pos t_pos (by linarith)
    exact neg_neg_of_pos (mul_pos weights (mul_self_pos.mpr apart))

theorem overlap_from_end (hpq : x ∈ openSegment K p q) (hqr : x ∈ openSegment K q r) :
    p = r ∨ r ∈ openSegment K p q ∨ p ∈ openSegment K q r := by
  obtain ⟨s, s_pos, s_lt, first, second⟩ := mem_open_segment.mp hpq
  obtain ⟨t, t_pos, t_lt, first', second'⟩ := mem_open_segment.mp hqr
  -- seen from the common end, the shared point is at 1 - s of one and at t of the other
  have same : t * (r.1 - q.1) = (1 - s) * (p.1 - q.1) ∧ t * (r.2 - q.2) = (1 - s) * (p.2 - q.2) := by
    constructor
    · linear_combination first - first'
    · linear_combination second - second'
  rcases lt_trichotomy t (1 - s) with shorter | equal | longer
  · right; right
    have s_lt' : 0 < 1 - s := by linarith
    refine mem_open_segment.mpr ⟨t / (1 - s), div_pos t_pos s_lt', (div_lt_one s_lt').mpr shorter,
      ?_, ?_⟩
    · field_simp
      linear_combination -same.1
    · field_simp
      linear_combination -same.2
  · left
    rw [← equal] at same
    have first := mul_left_cancel₀ t_pos.ne' same.1
    have second := mul_left_cancel₀ t_pos.ne' same.2
    exact Prod.ext (by linear_combination -first) (by linear_combination -second)
  · right; left
    refine mem_open_segment.mpr ⟨1 - (1 - s) / t, ?_, ?_, ?_, ?_⟩
    · rw [sub_pos]
      exact (div_lt_one t_pos).mpr longer
    · have : 0 < (1 - s) / t := div_pos (by linarith) t_pos
      linarith
    · field_simp
      linear_combination same.1
    · field_simp
      linear_combination same.2

theorem mem_segment : x ∈ segment K a b ↔
    ∃ t, 0 ≤ t ∧ t ≤ 1 ∧ x.1 = a.1 + t * (b.1 - a.1) ∧ x.2 = a.2 + t * (b.2 - a.2) := by
  rw [segment_eq_image']
  constructor
  · rintro ⟨t, ⟨low, high⟩, rfl⟩
    exact ⟨t, low, high, rfl, rfl⟩
  · rintro ⟨t, low, high, first, second⟩
    exact ⟨t, ⟨low, high⟩, (Prod.ext first second).symm⟩

theorem ratio_inside {u v : K} (h : u * v < 0) : 0 < u / (u - v) ∧ u / (u - v) < 1 := by
  rcases mul_neg_iff.mp h with ⟨pos, neg⟩ | ⟨neg, pos⟩
  · have gap : 0 < u - v := by linarith
    exact ⟨div_pos pos gap, (div_lt_one gap).mpr (by linarith)⟩
  · have gap : u - v < 0 := by linarith
    exact ⟨div_pos_of_neg_of_neg neg gap, (div_lt_one_of_neg gap).mpr (by linarith)⟩

theorem meet_of_crosses (h : Crosses a b c d) : ∃ x, x ∈ segment K a b ∧ x ∈ segment K c d := by
  obtain ⟨on_ab, on_cd⟩ := h
  have inside := ratio_inside on_cd
  have inside' := ratio_inside on_ab
  have slopes : cross a b c - cross a b d = -(cross c d a - cross c d b) := by
    unfold cross
    ring
  have gap : cross c d a - cross c d b ≠ 0 := by
    intro same
    rw [same, div_zero] at inside
    exact lt_irrefl _ inside.1
  refine ⟨(a.1 + cross c d a / (cross c d a - cross c d b) * (b.1 - a.1),
    a.2 + cross c d a / (cross c d a - cross c d b) * (b.2 - a.2)),
    mem_segment.mpr ⟨_, inside.1.le, inside.2.le, rfl, rfl⟩,
    mem_segment.mpr ⟨_, inside'.1.le, inside'.2.le, ?_, ?_⟩⟩
  · simp only [slopes]
    field_simp
    unfold cross
    ring
  · simp only [slopes]
    field_simp
    unfold cross
    ring

theorem exists_ratio {l h v : K} (apart : l ≠ h) (low : min l h ≤ v) (high : v ≤ max l h) :
    ∃ t, 0 ≤ t ∧ t ≤ 1 ∧ v = l + t * (h - l) := by
  have gap : h - l ≠ 0 := sub_ne_zero.mpr apart.symm
  refine ⟨(v - l) / (h - l), ?_, ?_, ?_⟩
  · rcases lt_or_gt_of_ne apart with up | down
    · rw [min_eq_left up.le] at low
      exact div_nonneg (by linarith) (by linarith)
    · rw [max_eq_left down.le] at high
      exact div_nonneg_of_nonpos (by linarith) (by linarith)
  · rcases lt_or_gt_of_ne apart with up | down
    · rw [max_eq_right up.le] at high
      exact (div_le_one (by linarith)).mpr (by linarith)
    · rw [min_eq_right down.le] at low
      exact (div_le_one_of_neg (by linarith)).mpr (by linarith)
  · field_simp
    ring

theorem mem_segment_of_first (apart : q.1 ≠ r.1) (line : cross q r p = 0)
    (low : min q.1 r.1 ≤ p.1) (high : p.1 ≤ max q.1 r.1) : p ∈ segment K q r := by
  obtain ⟨t, nonneg, le_one, first⟩ := exists_ratio apart low high
  refine mem_segment.mpr ⟨t, nonneg, le_one, first, ?_⟩
  have gap : r.1 - q.1 ≠ 0 := sub_ne_zero.mpr apart.symm
  apply mul_left_cancel₀ gap
  unfold cross at line
  linear_combination line + (r.2 - q.2) * first

omit [LinearOrder K] [IsStrictOrderedRing K] in
theorem cross_swap : cross a.swap b.swap c.swap = -cross a b c := by
  simp only [cross, Prod.fst_swap, Prod.snd_swap]
  ring

theorem swap_mem_segment : p.swap ∈ segment K q.swap r.swap ↔ p ∈ segment K q r := by
  rw [mem_segment, mem_segment]
  exact exists_congr fun t => and_congr_right fun _ => and_congr_right fun _ => and_comm

theorem mem_segment_of_second (apart : q.2 ≠ r.2) (line : cross q r p = 0)
    (low : min q.2 r.2 ≤ p.2) (high : p.2 ≤ max q.2 r.2) : p ∈ segment K q r :=
  swap_mem_segment.mp (mem_segment_of_first apart (cross_swap.trans (neg_eq_zero.mpr line)) low high)

theorem mem_segment_of_box (line : cross q r p = 0)
    (first : min q.1 r.1 ≤ p.1 ∧ p.1 ≤ max q.1 r.1)
    (second : min q.2 r.2 ≤ p.2 ∧ p.2 ≤ max q.2 r.2) : p ∈ segment K q r := by
  by_cases upright : q.1 = r.1
  · by_cases flat : q.2 = r.2
    · rw [upright, min_self, max_self] at first
      rw [flat, min_self, max_self] at second
      have same : p = r := Prod.ext (le_antisymm first.2 first.1) (le_antisymm second.2 second.1)
      exact same ▸ right_mem_segment K q r
    · exact mem_segment_of_second flat line second.1 second.2
  · exact mem_segment_of_first upright line first.1 first.2

theorem cross_along (t : K) (line_c : cross a b c = 0) (line_d : cross a b d = 0) :
    cross a b (c.1 + t * (d.1 - c.1), c.2 + t * (d.2 - c.2)) = 0 := by
  unfold cross at line_c line_d ⊢
  linear_combination (1 - t) * line_c + t * line_d

theorem meet_of_first (line_c : cross a b c = 0) (line_d : cross a b d = 0)
    (overlap : max (min a.1 b.1) (min c.1 d.1) < min (max a.1 b.1) (max c.1 d.1)) :
    ∃ x, x ∈ segment K a b ∧ x ∈ segment K c d := by
  obtain ⟨⟨ab, -⟩, -, cd⟩ := And.intro (lt_min_iff.mp ((le_max_left _ _).trans_lt overlap))
    (lt_min_iff.mp ((le_max_right _ _).trans_lt overlap))
  obtain ⟨t, nonneg, le_one, first⟩ := exists_ratio (min_lt_max.mp cd)
    (le_max_right (min a.1 b.1) _) (overlap.le.trans (min_le_right _ _))
  refine ⟨_, mem_segment_of_first (min_lt_max.mp ab) (cross_along t line_c line_d) ?_ ?_,
    mem_segment.mpr ⟨t, nonneg, le_one, rfl, rfl⟩⟩
  · exact first ▸ le_max_left _ _
  · exact first ▸ overlap.le.trans (min_le_left _ _)

theorem meet_of_second (line_c : cross a b c = 0) (line_d : cross a b d = 0)
    (overlap : max (min a.2 b.2) (min c.2 d.2) < min (max a.2 b.2) (max c.2 d.2)) :
    ∃ x, x ∈ segment K a b ∧ x ∈ segment K c d := by
  obtain ⟨x, ab, cd⟩ := meet_of_first (cross_swap.trans (neg_eq_zero.mpr line_c))
    (cross_swap.trans (neg_eq_zero.mpr line_d)) overlap
  exact ⟨x.swap, swap_mem_segment.mp ab, swap_mem_segment.mp cd⟩

end Metroflow.Lib
