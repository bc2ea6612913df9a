import Metroflow.Lib.RingParity

namespace Metroflow.Lib

variable {K : Type*} [Field K] [LinearOrder K] [IsStrictOrderedRing K]
  {ring : List (K × K)} {u v w a b : K × K} {others : List ((K × K) × (K × K))} {y : K}

theorem sides_append {V : Type*} (l : List V) (a : V) (m : List V) :
    sides (l ++ a :: m) = sides (l ++ [a]) ++ sides (a :: m) := by
  induction l with
  | nil => rfl
  | cons c l ih =>
    cases l with
    | nil => rfl
    | cons d l =>
      change (c, d) :: sides (d :: l ++ a :: m) = (c, d) :: sides (d :: l ++ [a]) ++ sides (a :: m)
      rw [ih]
      rfl

theorem side_split {V : Type*} {l : List V} {e : V × V} (side : e ∈ sides l) :
    ∃ before after, l = before ++ e.1 :: e.2 :: after := by
  induction l with
  | nil => cases side
  | cons c l ih =>
    cases l with
    | nil => cases side
    | cons d l =>
      rcases List.mem_cons.mp (show e ∈ (c, d) :: sides (d :: l) from side) with rfl | later
      · exact ⟨[], l, rfl⟩
      · obtain ⟨before, after, split⟩ := ih later
        exact ⟨c :: before, after, by rw [split, List.cons_append]⟩

theorem side_of_split {V : Type*} {l before after : List V} {a b : V}
    (split : l = before ++ a :: b :: after) : (a, b) ∈ sides l := by
  rw [split, sides_append]
  exact List.mem_append_right _ List.mem_cons_self

omit [IsStrictOrderedRing K] in
theorem vertex_once {before after : List (K × K)} (simple : SimpleRing ring)
    (split : ring = before ++ u :: v :: w :: after) :
    v ∉ before ++ [u] ∧ v ∉ w :: after := by
  have distinct := simple.distinct
  have closed := simple.closed
  rw [split, List.dropLast_append_of_ne_nil (by simp), List.dropLast_cons_cons, List.dropLast_cons_cons,
    List.append_cons] at distinct
  have parts := List.nodup_append'.mp distinct
  have early : v ∉ before ++ [u] := fun old => parts.2.2 old List.mem_cons_self
  refine ⟨early, fun late => ?_⟩
  have not_inner : v ∉ (w :: after).dropLast := (List.nodup_cons.mp parts.2.1).1
  have nonempty := List.cons_ne_nil w after
  rw [← List.dropLast_append_getLast nonempty, List.mem_append, List.mem_singleton] at late
  have last := late.resolve_left not_inner
  have ends : ring.getLast? = some v := by
    rw [split, last, List.append_cons, List.append_cons, List.getLast?_append_of_ne_nil _ nonempty]
    exact List.getLast?_eq_some_getLast nonempty
  rw [ends, split, List.append_cons] at closed
  exact early (List.mem_of_mem_head? (by
    rw [List.head?_append_of_ne_nil _ (by simp)] at closed
    exact closed))

/-- A side between two vertices, in one direction or the other. -/
def Joins (v a : K × K) (e : (K × K) × (K × K)) : Prop := e = (v, a) ∨ e = (a, v)

/-- Two sides leave a vertex and meet only there; the others meet them at their far ends only. -/
structure Corner (ring : List (K × K)) (v a b : K × K) (others : List ((K × K) × (K × K))) :
    Prop where
  split : ∃ s g, Joins v a s ∧ Joins v b g ∧ (sides ring).Perm (s :: g :: others)
  moves : v ≠ a ∧ v ≠ b
  joint : ∀ x ∈ segment K v a, x ∈ segment K v b → x = v
  first : ∀ e ∈ others, ∀ x ∈ segment K e.1 e.2, x ∈ segment K v a → x = a
  second : ∀ e ∈ others, ∀ x ∈ segment K e.1 e.2, x ∈ segment K v b → x = b

omit [IsStrictOrderedRing K] in
theorem Corner.symm (corner : Corner ring v a b others) : Corner ring v b a others where
  split := by
    obtain ⟨s, g, of_a, of_b, perm⟩ := corner.split
    exact ⟨g, s, of_b, of_a, perm.trans (List.Perm.swap g s others)⟩
  moves := corner.moves.symm
  joint x mem_b mem_a := corner.joint x mem_a mem_b
  first := corner.second
  second := corner.first

theorem SimpleRing.corner {before after : List (K × K)} (simple : SimpleRing ring)
    (split : ring = before ++ u :: v :: w :: after) :
    Corner ring v u w (sides (before ++ [u]) ++ sides (w :: after)) := by
  obtain ⟨early, late⟩ := vertex_once simple split
  have perm : (sides ring).Perm
      ((u, v) :: (v, w) :: (sides (before ++ [u]) ++ sides (w :: after))) := by
    rw [split, sides_append]
    exact (List.perm_append_comm_assoc _ [(u, v), (v, w)] _)
  have apart := (perm.pairwise_iff fun {e f} (h : ∀ x, x ∈ segment K e.1 e.2 →
    x ∈ segment K f.1 f.2 → (x = e.1 ∨ x = e.2) ∧ (x = f.1 ∨ x = f.2)) x mem_f mem_e =>
      (h x mem_e mem_f).symm).mp simple.apart
  obtain ⟨with_first, apart⟩ := List.pairwise_cons.mp apart
  obtain ⟨with_second, apart⟩ := List.pairwise_cons.mp apart
  have moves : v ≠ u ∧ v ≠ w := by
    refine ⟨fun same => early ?_, fun same => late ?_⟩
    · rw [same]
      exact List.mem_append_right _ (List.mem_singleton_self u)
    · rw [same]
      exact List.mem_cons_self
  have away : ∀ e ∈ sides (before ++ [u]) ++ sides (w :: after), v ≠ e.1 ∧ v ≠ e.2 := by
    intro e side
    rcases List.mem_append.mp side with side | side
    · obtain ⟨first, second⟩ := side_ends side
      exact ⟨fun same => early (same ▸ first), fun same => early (same ▸ second)⟩
    · obtain ⟨first, second⟩ := side_ends side
      exact ⟨fun same => late (same ▸ first), fun same => late (same ▸ second)⟩
  refine ⟨⟨(u, v), (v, w), .inr rfl, .inl rfl, perm⟩, moves, ?_, ?_, ?_⟩
  · intro x mem_u mem_w
    have meets := with_first (v, w) List.mem_cons_self
    rw [segment_symm] at mem_u
    obtain ⟨of_u, of_w⟩ := meets x mem_u mem_w
    rcases of_w with same | rfl
    · exact same
    rcases of_u with rfl | same
    · -- the way back along the same side would meet it in the middle
      have middle := meets ((x.1 + v.1) / 2, (x.2 + v.2) / 2)
        (mem_segment.mpr ⟨1 / 2, by norm_num, by norm_num, by ring, by ring⟩)
        (mem_segment.mpr ⟨1 / 2, by norm_num, by norm_num, by ring, by ring⟩)
      have halfway : (x.1 + v.1) / 2 = x.1 ∧ (x.2 + v.2) / 2 = x.2 ∨
          (x.1 + v.1) / 2 = v.1 ∧ (x.2 + v.2) / 2 = v.2 := by
        simpa only [Prod.ext_iff] using middle.1
      rcases halfway with ⟨first, second⟩ | ⟨first, second⟩ <;>
        exact Prod.ext (by linarith) (by linarith)
    · exact same
  · intro e side x mem_e mem_u
    rw [segment_symm] at mem_u
    obtain ⟨ends, of_e⟩ := with_first e (List.mem_cons_of_mem _ side) x mem_u mem_e
    refine ends.resolve_right fun same => ?_
    rcases of_e with here | here
    · exact (away e side).1 (same.symm.trans here)
    · exact (away e side).2 (same.symm.trans here)
  · intro e side x mem_e mem_w
    obtain ⟨ends, of_e⟩ := with_second e side x mem_w mem_e
    refine ends.resolve_left fun same => ?_
    rcases of_e with here | here
    · exact (away e side).1 (same.symm.trans here)
    · exact (away e side).2 (same.symm.trans here)

section Ends

theorem neg_iff_of_scaled {x z c d : K} (c_pos : 0 < c) (d_pos : 0 < d) (same : c * x = d * z) :
    x < 0 ↔ z < 0 := by
  constructor
  · intro neg
    exact neg_of_mul_neg_right (same ▸ mul_neg_of_pos_of_neg c_pos neg) d_pos.le
  · intro neg
    exact neg_of_mul_neg_right (same ▸ mul_neg_of_pos_of_neg d_pos neg) c_pos.le

section Fields

variable {K : Type*} [Field K] (v a : K × K)

theorem meet_start : meetAt v.2 (v, a) = v.1 := by
  unfold meetAt
  rw [sub_self, zero_mul, zero_div, add_zero]

theorem cross_flip (q r : K × K) : cross v q r = -cross v r q := by
  unfold cross
  ring

theorem cross_turn (q r : K × K) : cross q v r = -cross v q r := by
  unfold cross
  ring

theorem cross_scaled {a : K × K} (q : K × K) (y : K) (gap : a.2 ≠ v.2) :
    (a.2 - v.2) * cross v q (meetAt y (v, a), y) = (y - v.2) * cross v q a := by
  have height := sub_ne_zero.mpr gap
  unfold cross meetAt
  field_simp
  ring

end Fields

omit [IsStrictOrderedRing K] in
theorem not_beyond_start (v a : K × K) : ¬Beyond v (v, a) := by
  rintro ⟨-, right⟩
  rw [meet_start] at right
  exact lt_irrefl _ right

omit [IsStrictOrderedRing K] in
theorem not_exceptional_joins {p q : K × K} (here : ¬Exceptional p q (v, a))
    {s : (K × K) × (K × K)} (joins : Joins v a s) : ¬Exceptional p q s := by
  rcases joins with rfl | rfl
  · exact here
  · rwa [← exceptional_swap]

omit [IsStrictOrderedRing K] in
theorem Corner.even_iff (closed : ring.head? = ring.getLast?) (corner : Corner ring v a b others)
    {p q : K × K} (along : ¬Exceptional p q (v, a)) (clear : ∀ e ∈ others, ¬Exceptional p q e) :
    (Even (crossings ring p) ↔ Even (crossings ring q)) ↔ ¬Exceptional p q (v, b) := by
  obtain ⟨s, g, of_a, of_b, perm⟩ := corner.split
  have rest : others.countP (fun e => Exceptional p q e) = 0 :=
    List.countP_eq_zero.mpr fun e side => by simpa using clear e side
  have last : Exceptional p q g ↔ Exceptional p q (v, b) := by
    rcases of_b with rfl | rfl
    · exact Iff.rfl
    · exact exceptional_swap.symm
  rw [← even_exceptional closed, perm.countP_eq, List.countP_cons, List.countP_cons, rest,
    decide_eq_false (not_exceptional_joins along of_a), ← last]
  by_cases other : Exceptional p q g <;> simp [other]

theorem Corner.clear (corner : Corner ring v a b others) {p q : K × K} (rises : p.2 < q.2)
    (on_p : p ∈ segment K v a) (on_q : q ∈ segment K v a) (short : a ∉ segment K p q)
    {e : (K × K) × (K × K)} (side : e ∈ others) : ¬Exceptional p q e := by
  refine not_exceptional rises fun x mem_e mem_x => short ?_
  have along := (convex_segment v a).segment_subset on_p on_q mem_x
  exact corner.first e side x mem_e along ▸ mem_x

theorem Corner.above (closed : ring.head? = ring.getLast?) (corner : Corner ring v a b others)
    (low : v.2 < y) (high : y < a.2) :
    (Even (crossings ring v) ↔ Even (crossings ring (meetAt y (v, a), y))) ↔
      ¬(v.2 < b.2 ∧ cross v a b < 0) := by
  have spans : Spans y (v, a) := spans_iff.mpr (.inl ⟨low.le, high⟩)
  have height : 0 < a.2 - v.2 := by linarith
  have reach : 0 < y - v.2 := by linarith
  have no_strip : ¬Strip v (meetAt y (v, a), y) v := fun strip => lt_irrefl _ strip.1.1
  rw [corner.even_iff closed]
  · refine not_congr ?_
    have turn : cross v (meetAt y (v, a), y) b < 0 ↔ cross v a b < 0 := by
      refine neg_iff_of_scaled height reach ?_
      rw [cross_flip, cross_flip v a]
      linear_combination -cross_scaled v b y (sub_pos.mp height).ne'
    unfold Exceptional
    rw [iff_false_left no_strip, iff_false_left (not_beyond_start v b), not_iff_not]
    rcases le_or_gt b.2 v.2 with down | up
    · refine iff_of_false (not_not.mpr (iff_of_false ?_ ?_)) fun right => right.1.not_ge down
      · exact fun strip => strip.1.1.not_ge down
      · rintro ⟨spans', -⟩
        rw [spans_iff] at spans'
        grind
    rw [and_iff_right up, ← turn]
    rcases le_or_gt b.2 y with short | long
    · have no_beyond : ¬Beyond (meetAt y (v, a), y) (v, b) := by
        rintro ⟨spans', -⟩
        rw [spans_iff] at spans'
        grind
      rw [iff_false_right no_beyond, not_not]
      exact and_iff_right ⟨up, short⟩
    · have no_strip' : ¬Strip v (meetAt y (v, a), y) b := fun strip => strip.1.2.not_gt long
      have spans' : Spans y (v, b) := spans_iff.mpr (.inl ⟨low.le, long⟩)
      rw [iff_false_left no_strip', not_not, beyond_iff (p := v) low (cross_end _ _) spans']
      exact neg_iff_of_scaled (sub_pos.mpr up) reach (cross_scaled v _ y up.ne')
  · have no_strip' : ¬Strip v (meetAt y (v, a), y) a := fun strip => strip.1.2.not_gt high
    unfold Exceptional
    rw [not_not]
    exact iff_of_true (iff_of_false no_strip no_strip')
      (iff_of_false (not_beyond_start v a) fun beyond => lt_irrefl _ beyond.2)
  · refine fun e => corner.clear low (left_mem_segment K v a) (meet_mem spans) fun far => ?_
    exact (box_of_mem (e := (v, (meetAt y (v, a), y))) far).2.2.not_gt (max_lt (low.trans high) high)

/-- From a point of a side up to a vertex: the other side counts if it does not go up and leads to
the right. -/
theorem Corner.below (closed : ring.head? = ring.getLast?) (corner : Corner ring v a b others)
    (low : a.2 < y) (high : y < v.2) :
    (Even (crossings ring (meetAt y (v, a), y)) ↔ Even (crossings ring v)) ↔
      ¬(b.2 ≤ v.2 ∧ cross a v b < 0) := by
  have spans : Spans y (v, a) := spans_iff.mpr (.inr ⟨low.le, high⟩)
  have height : 0 < v.2 - a.2 := by linarith
  have reach : 0 < v.2 - y := by linarith
  have no_strip : ¬Strip (meetAt y (v, a), y) v v := fun strip => by
    have right := strip.2
    rw [cross_end] at right
    exact lt_irrefl _ right
  rw [corner.even_iff closed]
  · refine not_congr ?_
    have turn : cross (meetAt y (v, a), y) v b < 0 ↔ cross a v b < 0 := by
      refine neg_iff_of_scaled height reach ?_
      rw [cross_turn v, cross_turn v, cross_flip, cross_flip v a]
      linear_combination -cross_scaled v b y (sub_pos.mp height).ne
    unfold Exceptional
    rw [iff_false_left no_strip, iff_false_right (not_beyond_start v b), not_iff_not]
    rcases lt_or_ge v.2 b.2 with up | down
    · refine iff_of_false (not_not.mpr (iff_of_false ?_ ?_)) fun right => right.1.not_gt up
      · exact fun strip => strip.1.2.not_gt up
      · rintro ⟨spans', -⟩
        rw [spans_iff] at spans'
        grind
    rw [and_iff_right down, ← turn]
    rcases lt_or_ge y b.2 with short | long
    · have no_beyond : ¬Beyond (meetAt y (v, a), y) (v, b) := by
        rintro ⟨spans', -⟩
        rw [spans_iff] at spans'
        grind
      rw [iff_false_right no_beyond, not_not]
      exact and_iff_right ⟨short, down⟩
    · have no_strip' : ¬Strip (meetAt y (v, a), y) v b := fun strip => strip.1.1.not_ge long
      have spans' : Spans y (v, b) := spans_iff.mpr (.inr ⟨long, high⟩)
      have line : cross (meetAt y (v, a), y) v (meetAt y (v, a), y) = 0 := by
        unfold cross
        ring
      have below : b.2 < v.2 := long.trans_lt high
      rw [iff_false_left no_strip', not_not, beyond_iff (q := v) high line spans']
      refine neg_iff_of_scaled (sub_pos.mpr below) reach ?_
      rw [cross_turn v, cross_turn v _ b]
      linear_combination cross_scaled v (meetAt y (v, a), y) y below.ne
  · have no_strip' : ¬Strip (meetAt y (v, a), y) v a := fun strip => strip.1.1.not_gt low
    unfold Exceptional
    rw [not_not]
    exact iff_of_true (iff_of_false no_strip no_strip')
      (iff_of_false (fun beyond => lt_irrefl _ beyond.2) (not_beyond_start v a))
  · refine fun e => corner.clear high (meet_mem spans) (left_mem_segment K v a) fun far => ?_
    exact (box_of_mem (e := ((meetAt y (v, a), y), v)) far).2.1.not_gt (lt_min low (low.trans high))

theorem Corner.level (corner : Corner ring a v b others) (level : v.2 = a.2) (right : v.1 < a.1) :
    (Even (crossings ring v) ↔ Even (crossings ring a)) ↔ ¬a.2 < b.2 := by
  obtain ⟨s, g, of_v, of_b, perm⟩ := corner.split
  have flat : ∀ {p : K × K}, p.2 = a.2 → ¬Beyond p s := by
    rintro p on_level ⟨spans, -⟩
    rw [spans_iff, on_level] at spans
    rcases of_v with rfl | rfl <;> grind
  have rest : others.countP (fun e => ¬(Beyond v e ↔ Beyond a e)) = 0 := by
    refine List.countP_eq_zero.mpr fun e side => ?_
    rw [decide_eq_true_eq, not_not]
    unfold Beyond
    rw [level]
    refine and_congr_right fun spans => ⟨fun beyond => ?_, right.trans⟩
    by_contra short
    rw [not_lt] at short
    have between : (meetAt a.2 e, a.2) ∈ segment K a v := by
      refine mem_segment_of_box ?_ ?_ ?_
      · unfold cross
        rw [level]
        ring
      · rw [min_eq_right right.le, max_eq_left right.le]
        exact ⟨beyond.le, short⟩
      · rw [level, min_self, max_self]
        exact ⟨le_refl _, le_refl _⟩
    have same := corner.first e side _ (meet_mem spans) between
    exact beyond.ne' (congrArg Prod.fst same)
  have last : ¬(Beyond v g ↔ Beyond a g) ↔ a.2 < b.2 := by
    have same : (Beyond v g ↔ Beyond v (a, b)) ∧ (Beyond a g ↔ Beyond a (a, b)) := by
      rcases of_b with rfl | rfl
      · exact ⟨Iff.rfl, Iff.rfl⟩
      · exact ⟨beyond_swap.symm, beyond_swap.symm⟩
    rw [same.1, same.2, iff_false_right (not_beyond_start a b), not_not]
    unfold Beyond
    rw [level, meet_start, spans_iff]
    grind
  have total := even_count_iff (Beyond v) (Beyond a) (sides ring)
  rw [perm.countP_eq, List.countP_cons, List.countP_cons, rest,
    decide_eq_false (not_not.mpr (iff_of_false (flat level) (flat rfl)))] at total
  refine total.symm.trans ?_
  rw [← last]
  by_cases other : Beyond v g ↔ Beyond a g <;> simp [other]

end Ends

section Turns

/-- The left of a side, seen from its corner with another side, is inside the polygon: a vertex
on a level has its rays go a little above it. -/
def LeftInside (ring : List (K × K)) (v a b : K × K) : Prop :=
  if v.2 < a.2 then Even (crossings ring v) ↔ ¬(v.2 < b.2 ∧ cross v a b < 0)
  else if a.2 < v.2 then ¬(Even (crossings ring v) ↔ ¬(b.2 ≤ v.2 ∧ cross a v b < 0))
  else if v.1 < a.1 then ¬Even (crossings ring v)
  else Even (crossings ring v) ↔ ¬v.2 < b.2

omit [IsStrictOrderedRing K] in
theorem left_inside_up (up : v.2 < a.2) : LeftInside ring v a b ↔
    (Even (crossings ring v) ↔ ¬(v.2 < b.2 ∧ cross v a b < 0)) := by
  unfold LeftInside
  rw [if_pos up]

omit [IsStrictOrderedRing K] in
theorem left_inside_down (down : a.2 < v.2) : LeftInside ring v a b ↔
    ¬(Even (crossings ring v) ↔ ¬(b.2 ≤ v.2 ∧ cross a v b < 0)) := by
  unfold LeftInside
  rw [if_neg down.not_gt, if_pos down]

omit [IsStrictOrderedRing K] in
theorem left_inside_right (level : a.2 = v.2) (right : v.1 < a.1) :
    LeftInside ring v a b ↔ ¬Even (crossings ring v) := by
  unfold LeftInside
  rw [if_neg level.le.not_gt, if_neg level.ge.not_gt, if_pos right]

omit [IsStrictOrderedRing K] in
theorem left_inside_left (level : a.2 = v.2) (left : a.1 < v.1) :
    LeftInside ring v a b ↔ (Even (crossings ring v) ↔ ¬v.2 < b.2) := by
  unfold LeftInside
  rw [if_neg level.le.not_gt, if_neg level.ge.not_gt, if_neg left.not_gt]

omit [Field K] [IsStrictOrderedRing K] in
theorem directions (moves : v ≠ a) :
    v.2 < a.2 ∨ a.2 < v.2 ∨ a.2 = v.2 ∧ v.1 < a.1 ∨ a.2 = v.2 ∧ a.1 < v.1 := by
  rcases lt_trichotomy v.2 a.2 with up | level | down
  · exact .inl up
  · rcases lt_trichotomy v.1 a.1 with right | same | left
    · exact .inr (.inr (.inl ⟨level.symm, right⟩))
    · exact absurd (Prod.ext same level) moves
    · exact .inr (.inr (.inr ⟨level.symm, left⟩))
  · exact .inr (.inl down)

theorem Corner.left_inside_iff (closed : ring.head? = ring.getLast?)
    (corner : Corner ring v a b others) (spans : Spans y (v, a)) (below : v.2 ≠ y)
    (above : a.2 ≠ y) :
    LeftInside ring v a b ↔ (Even (crossings ring (meetAt y (v, a), y)) ↔ v.2 < a.2) := by
  rcases spans_iff.mp spans with ⟨low, high⟩ | ⟨low, high⟩
  · have up : v.2 < a.2 := low.trans_lt high
    have step := corner.above closed (lt_of_le_of_ne low below) high
    rw [left_inside_up up, iff_true_right up]
    tauto
  · have down : a.2 < v.2 := low.trans_lt high
    have step := corner.below closed (lt_of_le_of_ne low above) high
    rw [left_inside_down down, iff_false_right down.not_gt]
    tauto

theorem Corner.not_aligned (corner : Corner ring v a b others) {t : K} (pos : 0 < t)
    (first : b.1 - v.1 = t * (a.1 - v.1)) (second : b.2 - v.2 = t * (a.2 - v.2)) : False := by
  rcases le_or_gt t 1 with short | long
  · have inside : b ∈ segment K v a :=
      mem_segment.mpr ⟨t, pos.le, short, by linear_combination first, by linear_combination second⟩
    exact corner.moves.2 (corner.joint b inside (right_mem_segment K v b)).symm
  · have inside : a ∈ segment K v b := by
      refine mem_segment.mpr ⟨t⁻¹, (inv_pos.mpr pos).le, (inv_le_one₀ pos).mpr long.le, ?_, ?_⟩
      · rw [first, inv_mul_cancel_left₀ pos.ne']
        ring
      · rw [second, inv_mul_cancel_left₀ pos.ne']
        ring
    exact corner.moves.1 (corner.joint a (right_mem_segment K v a) inside).symm

theorem Corner.cross_ne (corner : Corner ring v a b others)
    (same : 0 < (b.2 - v.2) * (a.2 - v.2)) : cross v a b ≠ 0 := by
  intro line
  have height : a.2 - v.2 ≠ 0 := right_ne_zero_of_mul same.ne'
  have ratio : 0 < (b.2 - v.2) / (a.2 - v.2) := by
    rw [div_pos_iff]
    exact mul_pos_iff.mp same
  refine corner.not_aligned ratio ?_ ?_
  · unfold cross at line
    field_simp
    linear_combination -line
  · field_simp

theorem Corner.left_inside_of_up (corner : Corner ring v a b others) (up : v.2 < a.2) :
    LeftInside ring v a b ↔ ¬LeftInside ring v b a := by
  rw [left_inside_up up]
  rcases directions corner.moves.2 with up' | down' | ⟨level, right⟩ | ⟨level, left⟩
  · have turns := corner.cross_ne (mul_pos (sub_pos.mpr up') (sub_pos.mpr up))
    rw [left_inside_up up', cross_flip v b a, neg_lt_zero, and_iff_right up', and_iff_right up]
    rcases lt_or_gt_of_ne turns with right | left
    · rw [iff_false_intro right.not_gt]
      tauto
    · rw [iff_false_intro left.not_gt]
      tauto
  · rw [left_inside_down down', iff_false_intro down'.not_gt, iff_false_intro up.not_ge]
    tauto
  · rw [left_inside_right level right, iff_false_intro level.le.not_gt]
    tauto
  · rw [left_inside_left level left, iff_false_intro level.le.not_gt]
    tauto

theorem Corner.left_inside_of_down (corner : Corner ring v a b others) (down : a.2 < v.2)
    (not_up : b.2 ≤ v.2) : LeftInside ring v a b ↔ ¬LeftInside ring v b a := by
  rw [left_inside_down down, cross_turn v a b, neg_lt_zero, and_iff_right not_up]
  have along : b.2 = v.2 → cross v a b = (v.2 - a.2) * (b.1 - v.1) := by
    intro level
    unfold cross
    rw [level]
    ring
  rcases directions corner.moves.2 with up' | down' | ⟨level, right⟩ | ⟨level, left⟩
  · exact absurd up' not_up.not_gt
  · have turns := corner.cross_ne (mul_pos_of_neg_of_neg (sub_neg.mpr down') (sub_neg.mpr down))
    rw [left_inside_down down', cross_turn v b a, cross_flip v b a, neg_neg, and_iff_right down.le]
    rcases lt_or_gt_of_ne turns with right | left
    · rw [iff_false_intro right.not_gt]
      tauto
    · rw [iff_false_intro left.not_gt]
      tauto
  · have leads : 0 < cross v a b := by
      rw [along level]
      exact mul_pos (sub_pos.mpr down) (sub_pos.mpr right)
    rw [left_inside_right level right]
    tauto
  · have leads : cross v a b < 0 := by
      rw [along level]
      exact mul_neg_of_pos_of_neg (sub_pos.mpr down) (sub_neg.mpr left)
    rw [left_inside_left level left, iff_false_intro leads.not_gt, iff_false_intro down.not_gt]

theorem Corner.left_inside_other (corner : Corner ring v a b others) :
    LeftInside ring v a b ↔ ¬LeftInside ring v b a := by
  have level_ratio : a.2 = v.2 → b.2 = v.2 → 0 < (b.1 - v.1) / (a.1 - v.1) → False := by
    intro level level' pos
    have run : a.1 - v.1 ≠ 0 := by
      intro still
      rw [still, div_zero] at pos
      exact lt_irrefl _ pos
    refine corner.not_aligned pos (div_mul_cancel₀ _ run).symm ?_
    rw [level, level', sub_self, mul_zero]
  rcases directions corner.moves.1 with up | down | ⟨level, along⟩ | ⟨level, along⟩
  · exact corner.left_inside_of_up up
  all_goals rcases directions corner.moves.2 with up' | down' | ⟨level', along'⟩ | ⟨level', along'⟩
  · exact iff_not_comm.mp (corner.symm.left_inside_of_up up')
  · exact corner.left_inside_of_down down down'.le
  · exact corner.left_inside_of_down down level'.le
  · exact corner.left_inside_of_down down level'.le
  · exact iff_not_comm.mp (corner.symm.left_inside_of_up up')
  · exact iff_not_comm.mp (corner.symm.left_inside_of_down down' level.le)
  · exact (level_ratio level level' (div_pos (sub_pos.mpr along') (sub_pos.mpr along))).elim
  · rw [left_inside_right level along, left_inside_left level' along',
      iff_false_intro level.le.not_gt]
    tauto
  · exact iff_not_comm.mp (corner.symm.left_inside_of_up up')
  · exact iff_not_comm.mp (corner.symm.left_inside_of_down down' level.le)
  · rw [left_inside_left level along, left_inside_right level' along',
      iff_false_intro level'.le.not_gt]
    tauto
  · refine (level_ratio level level' ?_).elim
    exact div_pos_of_neg_of_neg (sub_neg.mpr along') (sub_neg.mpr along)

theorem Corner.left_inside_along {others' : List ((K × K) × (K × K))}
    (closed : ring.head? = ring.getLast?) (corner : Corner ring v a b others)
    (corner' : Corner ring a v w others') : LeftInside ring v a b ↔ ¬LeftInside ring a v w := by
  have upright : v.2 ≠ a.2 → (LeftInside ring v a b ↔ ¬LeftInside ring a v w) := by
    intro apart
    have spans : Spans ((v.2 + a.2) / 2) (v, a) := by
      rw [spans_iff]
      rcases lt_or_gt_of_ne apart with up | down
      · exact .inl ⟨by linarith, by linarith⟩
      · exact .inr ⟨by linarith, by linarith⟩
    have below : v.2 ≠ (v.2 + a.2) / 2 := fun same => apart (by linarith)
    have above : a.2 ≠ (v.2 + a.2) / 2 := fun same => apart (by linarith)
    rw [corner.left_inside_iff closed spans below above,
      corner'.left_inside_iff closed (spans_swap.mpr spans) above below,
      show meetAt ((v.2 + a.2) / 2) (a, v) = _ from meet_swap spans]
    rcases lt_or_gt_of_ne apart with up | down
    · rw [iff_true_right up, iff_false_right up.not_gt, not_not]
    · rw [iff_true_right down, iff_false_right down.not_gt]
  rcases directions corner.moves.1 with up | down | ⟨level, along⟩ | ⟨level, along⟩
  · exact upright up.ne
  · exact upright down.ne'
  · have step := corner'.level level.symm along
    rw [left_inside_right level along, left_inside_left level.symm along, ← step]
    by_cases even : Even (crossings ring a) <;> simp [even]
  · have step := corner.level level along
    rw [left_inside_left level along, left_inside_right level.symm along, ← step]
    by_cases even : Even (crossings ring v) <;> simp [even]

theorem SimpleRing.turns (simple : SimpleRing ring) : ∃ left : Prop, ∀ e ∈ sides ring, ∀ y,
    Spans y e → e.1.2 ≠ y → e.2.2 ≠ y →
      ((Even (crossings ring (meetAt y e, y)) ↔ e.1.2 < e.2.2) ↔ left) := by
  have corners := simple.corners
  obtain ⟨v₀, v₁, v₂, rest, start⟩ : ∃ v₀ v₁ v₂ rest, ring = v₀ :: v₁ :: v₂ :: rest := by
    match ring, corners with
    | v₀ :: v₁ :: v₂ :: rest, _ => exact ⟨v₀, v₁, v₂, rest, rfl⟩
  have along : ∀ (before after : List (K × K)) (u v w : K × K),
      ring = before ++ u :: v :: w :: after →
      (LeftInside ring v w u ↔ LeftInside ring v₁ v₂ v₀) := by
    intro before
    induction before using List.reverseRecOn with
    | nil =>
      intro after u v w split
      rw [split] at start
      obtain ⟨rfl, rfl, rfl, -⟩ : u = v₀ ∧ v = v₁ ∧ w = v₂ ∧ after = rest := by
        simpa using start
      exact Iff.rfl
    | append_singleton before t ih =>
      intro after u v w split
      rw [List.append_assoc, List.singleton_append] at split
      have corner := simple.corner split
      have split' : ring = (before ++ [t]) ++ u :: v :: w :: after := by
        rw [split, List.append_assoc, List.singleton_append]
      have corner' := simple.corner split'
      rw [← ih (w :: after) t u v split, corner.symm.left_inside_along simple.closed corner',
        corner'.left_inside_other, not_not]
  refine ⟨LeftInside ring v₁ v₂ v₀, fun e side y spans below above => ?_⟩
  obtain ⟨before, after, split⟩ := side_split side
  induction before using List.reverseRecOn with
  | nil =>
    have first : ring = [] ++ v₀ :: v₁ :: v₂ :: rest := start
    have corner := simple.corner first
    obtain ⟨rfl, rfl⟩ : e.1 = v₀ ∧ e.2 = v₁ := by
      rw [split] at start
      simpa using And.intro (List.cons.inj start).1 (List.cons.inj (List.cons.inj start).2).1
    have apart := spans_apart spans
    rw [← not_iff_not, ← corner.left_inside_other,
      corner.left_inside_iff simple.closed (spans_swap.mpr spans) above below,
      show meetAt y (e.2, e.1) = _ from meet_swap spans]
    rcases lt_or_gt_of_ne apart with up | down
    · rw [iff_true_right up, iff_false_right up.not_gt]
    · rw [iff_true_right down, iff_false_right down.not_gt, not_not]
  | append_singleton before u =>
    rw [List.append_assoc, List.singleton_append] at split
    rw [← along before after u e.1 e.2 split,
      (simple.corner split).symm.left_inside_iff simple.closed spans below above]

end Turns

end Metroflow.Lib
