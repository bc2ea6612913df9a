import Metroflow.Lib.Plane

namespace Metroflow.Lib

section Changes

variable {α : Type*} (p : α → Prop) [DecidablePred p]

theorem even_changes : ∀ l : List α, Even ((l.zip l.tail).countP fun e => ¬ (p e.1 ↔ p e.2)) ↔
    ∀ a b, l.head? = some a → l.getLast? = some b → (p a ↔ p b)
  | [] => by simp
  | [a] => by simp
  | a :: b :: l => by
    have rest := even_changes (b :: l)
    rw [List.tail_cons, List.zip_cons_cons, List.countP_cons]
    obtain ⟨c, last⟩ : ∃ c, (b :: l).getLast? = some c :=
      ⟨_, List.getLast?_eq_some_getLast (by simp)⟩
    rw [List.tail_cons, last] at rest
    rw [List.getLast?_cons_cons, last]
    simp only [List.head?_cons, Option.some.injEq] at rest ⊢
    have here : (∀ x y, b = x → c = y → (p x ↔ p y)) ↔ (p b ↔ p c) :=
      ⟨fun all => all b c rfl rfl, by rintro same x y rfl rfl; exact same⟩
    have there : (∀ x y, a = x → c = y → (p x ↔ p y)) ↔ (p a ↔ p c) :=
      ⟨fun all => all a c rfl rfl, by rintro same x y rfl rfl; exact same⟩
    rw [here] at rest
    rw [there, Nat.even_add, rest]
    by_cases pa : p a <;> by_cases pb : p b <;> by_cases pc : p c <;> simp [pa, pb, pc]

omit [DecidablePred p] in
theorem exists_change {l : List α} {a b : α} (mem_a : a ∈ l) (mem_b : b ∈ l) (there : p a)
    (not_there : ¬ p b) : ∃ e ∈ l.zip l.tail, ¬ (p e.1 ↔ p e.2) := by
  by_contra none_changes
  push Not at none_changes
  have constant : ∀ (c : α) (l : List α), (∀ e ∈ (c :: l).zip l, p e.1 ↔ p e.2) →
      ∀ d ∈ c :: l, p c ↔ p d := by
    intro c l
    induction l generalizing c with
    | nil => simp
    | cons d l ih =>
      intro same
      rw [List.zip_cons_cons, List.forall_mem_cons] at same
      rw [List.forall_mem_cons]
      exact ⟨Iff.rfl, fun x listed => same.1.trans (ih d same.2 x listed)⟩
  cases l with
  | nil => cases mem_a
  | cons c l =>
    have same := constant c l none_changes
    exact not_there ((same b mem_b).mp ((same a mem_a).mpr there))

theorem count_one {l : List α} (apart : l.Pairwise fun a b => p a → p b → False)
    (found : ∃ a ∈ l, p a) : l.countP (fun a => p a) = 1 := by
  induction l with
  | nil => simp at found
  | cons a l ih =>
    obtain ⟨alone, apart⟩ := List.pairwise_cons.mp apart
    by_cases here : p a
    · have none_later : l.countP (fun a => p a) = 0 :=
        List.countP_eq_zero.mpr fun b later there => alone b later here (of_decide_eq_true there)
      rw [List.countP_cons_of_pos (by simpa using here), none_later]
    · rw [List.countP_cons_of_neg (by simpa using here)]
      obtain ⟨b, listed, there⟩ := found
      rcases List.mem_cons.mp listed with rfl | later
      · exact absurd there here
      · exact ih apart ⟨b, later, there⟩

theorem count_split (q : α → Prop) [DecidablePred q] (l : List α) :
    l.countP (fun a => p a) =
      l.countP (fun a => p a ∧ q a) + l.countP (fun a => p a ∧ ¬ q a) := by
  induction l with
  | nil => rfl
  | cons a l ih =>
    rw [List.countP_cons, List.countP_cons, List.countP_cons, ih]
    by_cases pa : p a <;> by_cases qa : q a <;> simp [pa, qa] <;> omega

end Changes

/-- The sides of a closed polygon, given by its vertices with the first again at the end. -/
def sides {V : Type*} (ring : List V) : List (V × V) := ring.zip ring.tail

theorem side_ends {V : Type*} {ring : List V} {e : V × V} (side : e ∈ sides ring) :
    e.1 ∈ ring ∧ e.2 ∈ ring :=
  ⟨(List.of_mem_zip side).1, List.mem_of_mem_tail (List.of_mem_zip side).2⟩

/-- Twice the area of a polygon, positive when it turns to the left. -/
def area2 {R : Type*} [CommRing R] (ring : List (R × R)) : R :=
  ((sides ring).map fun e => e.1.1 * e.2.2 - e.2.1 * e.1.2).sum

theorem area2_flat {R : Type*} [CommRing R] {ring : List (R × R)} {c : R}
    (closed : ring.head? = ring.getLast?) (flat : ∀ v ∈ ring, v.2 = c) : area2 ring = 0 := by
  have along : ∀ (v : R × R) (l : List (R × R)), (∀ w ∈ v :: l, w.2 = c) →
      area2 (v :: l) = c * (v.1 - ((v :: l).getLast (List.cons_ne_nil v l)).1) := by
    intro v l
    induction l generalizing v with
    | nil => simp [area2, sides]
    | cons w l ih =>
      intro level
      obtain ⟨here, level⟩ := List.forall_mem_cons.mp level
      have rest := ih w level
      rw [List.getLast_cons (List.cons_ne_nil w l)]
      change v.1 * w.2 - w.1 * v.2 + area2 (w :: l) = _
      rw [rest, here, level w List.mem_cons_self]
      ring
  cases ring with
  | nil => rfl
  | cons v l =>
    rw [List.head?_cons, List.getLast?_eq_some_getLast (List.cons_ne_nil v l)] at closed
    rw [along v l flat, ← Option.some.inj closed, sub_self, mul_zero]

section Levels

variable {K : Type*} [LinearOrder K]

/-- A side goes from one side of a level to the other; a vertex on the level counts as below. -/
def Spans (y : K) (e : (K × K) × (K × K)) : Prop := ¬ (y < e.1.2 ↔ y < e.2.2)

instance (y : K) : DecidablePred (Spans y) := fun e =>
  inferInstanceAs (Decidable (¬ (y < e.1.2 ↔ y < e.2.2)))

theorem spans_iff {y : K} {e : (K × K) × (K × K)} :
    Spans y e ↔ e.1.2 ≤ y ∧ y < e.2.2 ∨ e.2.2 ≤ y ∧ y < e.1.2 := by
  unfold Spans
  rw [← not_lt, ← not_lt]
  tauto

theorem even_spans {y : K} {ring : List (K × K)} (closed : ring.head? = ring.getLast?) :
    Even ((sides ring).countP fun e => Spans y e) := by
  refine (even_changes (fun v : K × K => y < v.2) ring).mpr fun a b first last => ?_
  rw [closed, last] at first
  rw [Option.some.inj first]

theorem next_entry {l : List K} (sorted : l.Pairwise (· < ·)) {a b : K} (mem_a : a ∈ l)
    (mem_b : b ∈ l) (before : a < b) :
    ∃ c, (a, c) ∈ sides l ∧ a < c ∧ c ≤ b ∧ ∀ x ∈ l, x ≤ a ∨ c ≤ x := by
  induction l with
  | nil => cases mem_a
  | cons x l ih =>
    obtain ⟨above, sorted'⟩ := List.pairwise_cons.mp sorted
    cases l with
    | nil =>
      rw [List.mem_singleton.mp mem_a, List.mem_singleton.mp mem_b] at before
      exact absurd before (lt_irrefl _)
    | cons x' l =>
      have least : ∀ z ∈ x' :: l, x' ≤ z := by
        rw [List.forall_mem_cons]
        exact ⟨le_refl _, fun z later => ((List.pairwise_cons.mp sorted').1 z later).le⟩
      rcases List.mem_cons.mp mem_a with rfl | later
      · refine ⟨x', by simp [sides], above x' List.mem_cons_self, ?_, ?_⟩
        · rcases List.mem_cons.mp mem_b with rfl | later
          · exact absurd before (lt_irrefl _)
          · exact least b later
        · rw [List.forall_mem_cons]
          exact ⟨.inl (le_refl _), fun z later => .inr (least z later)⟩
      · have after : b ∈ x' :: l := by
          rcases List.mem_cons.mp mem_b with rfl | after
          · exact absurd before (above a later).not_gt
          · exact after
        obtain ⟨c, side, low, high, gap⟩ := ih sorted' later after
        refine ⟨c, ?_, low, high, ?_⟩
        · unfold sides at side ⊢
          exact List.mem_cons_of_mem _ side
        · rw [List.forall_mem_cons]
          exact ⟨.inl (above a later).le, gap⟩

theorem spans_apart {y : K} {e : (K × K) × (K × K)} (h : Spans y e) : e.1.2 ≠ e.2.2 := by
  intro level
  refine h ?_
  rw [level]

end Levels

variable {K : Type*} [Field K] [LinearOrder K] [IsStrictOrderedRing K]

/-- Where a side that spans a level meets it. -/
def meetAt (y : K) (e : (K × K) × (K × K)) : K :=
  e.1.1 + (y - e.1.2) * (e.2.1 - e.1.1) / (e.2.2 - e.1.2)

def OnRing (ring : List (K × K)) (p : K × K) : Prop := ∃ e ∈ sides ring, p ∈ segment K e.1 e.2

/-- The sides that the ray to the right of a point crosses. -/
def crossings (ring : List (K × K)) (p : K × K) : ℕ :=
  (sides ring).countP fun e => Spans p.2 e ∧ p.1 < meetAt p.2 e

/-- A point is inside a polygon when the ray from it crosses an odd number of sides. -/
def Inside (ring : List (K × K)) (p : K × K) : Prop := ¬ OnRing ring p ∧ Odd (crossings ring p)

def Outside (ring : List (K × K)) (p : K × K) : Prop := ¬ OnRing ring p ∧ Even (crossings ring p)

/-- A polygon that meets itself only where a side ends and the next begins. -/
structure SimpleRing (ring : List (K × K)) : Prop where
  closed : ring.head? = ring.getLast?
  corners : 3 ≤ ring.dropLast.length
  distinct : ring.dropLast.Nodup
  apart : (sides ring).Pairwise fun e f => ∀ x, x ∈ segment K e.1 e.2 → x ∈ segment K f.1 f.2 →
    (x = e.1 ∨ x = e.2) ∧ (x = f.1 ∨ x = f.2)

variable {ring outer : List (K × K)} {holes : List (List (K × K))} {x y : K} {p : K × K}
  {e f : (K × K) × (K × K)}

theorem cross_meet (spans : Spans y e) : cross e.1 e.2 (x, y) = 0 ↔ x = meetAt y e := by
  have gap := sub_ne_zero.mpr (spans_apart spans).symm
  unfold cross meetAt
  constructor
  · intro line
    field_simp
    linear_combination -line
  · rintro rfl
    field_simp
    ring

theorem meet_mem (spans : Spans y e) : (meetAt y e, y) ∈ segment K e.1 e.2 := by
  have line : cross e.1 e.2 (meetAt y e, y) = 0 := (cross_meet spans).mpr rfl
  have apart := spans_apart spans
  rcases spans_iff.mp spans with ⟨low, high⟩ | ⟨low, high⟩
  · exact mem_segment_of_second apart line (min_le_of_left_le low) (le_max_of_le_right high.le)
  · exact mem_segment_of_second apart line (min_le_of_right_le low) (le_max_of_le_left high.le)

theorem box_of_mem (h : p ∈ segment K e.1 e.2) :
    (min e.1.1 e.2.1 ≤ p.1 ∧ p.1 ≤ max e.1.1 e.2.1) ∧
      min e.1.2 e.2.2 ≤ p.2 ∧ p.2 ≤ max e.1.2 e.2.2 := by
  obtain ⟨t, nonneg, le_one, first, second⟩ := mem_segment.mp h
  have between : ∀ a b : K, min a b ≤ a + t * (b - a) ∧ a + t * (b - a) ≤ max a b := by
    intro a b
    rcases le_total a b with up | down
    · rw [min_eq_left up, max_eq_right up]
      constructor <;> nlinarith
    · rw [min_eq_right down, max_eq_left down]
      constructor <;> nlinarith
  rw [first, second]
  exact ⟨between _ _, between _ _⟩

theorem mem_side_iff (first : e.1.2 ≠ y) (second : e.2.2 ≠ y) :
    (x, y) ∈ segment K e.1 e.2 ↔ Spans y e ∧ meetAt y e = x := by
  constructor
  · intro inside
    obtain ⟨-, low, high⟩ := box_of_mem inside
    have spans : Spans y e := by
      rw [spans_iff]
      rcases le_total e.1.2 e.2.2 with up | down
      · rw [min_eq_left up] at low
        rw [max_eq_right up] at high
        exact .inl ⟨low, lt_of_le_of_ne high second.symm⟩
      · rw [min_eq_right down] at low
        rw [max_eq_left down] at high
        exact .inr ⟨low, lt_of_le_of_ne high first.symm⟩
    refine ⟨spans, ((cross_meet spans).mp ?_).symm⟩
    rcases mem_segment_cases.mp inside with same | same | inner
    · exact absurd (congrArg Prod.snd same).symm first
    · exact absurd (congrArg Prod.snd same).symm second
    · exact cross_of_open inner
  · rintro ⟨spans, rfl⟩
    exact meet_mem spans

theorem on_ring_iff (free : ∀ v ∈ ring, v.2 ≠ y) :
    OnRing ring (x, y) ↔ ∃ e ∈ sides ring, Spans y e ∧ meetAt y e = x := by
  refine exists_congr fun e => and_congr_right fun side => ?_
  exact mem_side_iff (free _ (side_ends side).1) (free _ (side_ends side).2)

theorem SimpleRing.meets_apart (simple : SimpleRing ring) (free : ∀ v ∈ ring, v.2 ≠ y) :
    (sides ring).Pairwise fun e f => Spans y e → Spans y f → meetAt y e ≠ meetAt y f := by
  refine simple.apart.imp_of_mem fun {e f} side _ apart spans spans' same => ?_
  have shared := (apart _ (meet_mem spans) (same ▸ meet_mem spans')).1
  rcases shared with here | here
  · exact free _ (side_ends side).1 (congrArg Prod.snd here).symm
  · exact free _ (side_ends side).2 (congrArg Prod.snd here).symm

theorem left_of_all (closed : ring.head? = ring.getLast?) (free : ∀ v ∈ ring, v.2 ≠ y)
    (left : ∀ e ∈ sides ring, Spans y e → x < meetAt y e) : Outside ring (x, y) := by
  constructor
  · intro on_ring
    obtain ⟨e, side, spans, same⟩ := (on_ring_iff free).mp on_ring
    exact lt_irrefl _ (same ▸ left e side spans)
  · have all : crossings ring (x, y) = (sides ring).countP fun e => Spans y e := by
      refine List.countP_congr fun e side => ?_
      simp only [decide_eq_true_eq]
      exact ⟨And.left, fun spans => ⟨spans, left e side spans⟩⟩
    exact all ▸ even_spans closed

theorem past_the_first (simple : SimpleRing ring) (free : ∀ v ∈ ring, v.2 ≠ y)
    (first : ∃ e ∈ sides ring, Spans y e ∧ meetAt y e < x)
    (one : ∀ e ∈ sides ring, Spans y e → x < meetAt y e ∨
      ∀ f ∈ sides ring, Spans y f → meetAt y f < x → meetAt y f = meetAt y e) :
    Inside ring (x, y) := by
  have before : ∀ e ∈ sides ring, Spans y e → ¬ x < meetAt y e → meetAt y e < x := by
    intro e side spans reached
    rcases one e side spans with later | same
    · exact absurd later reached
    · obtain ⟨f, side', spans', earlier⟩ := first
      exact same f side' spans' earlier ▸ earlier
  constructor
  · intro on_ring
    obtain ⟨e, side, spans, same⟩ := (on_ring_iff free).mp on_ring
    exact lt_irrefl _ (same ▸ before e side spans (same ▸ lt_irrefl x))
  · have single : (sides ring).countP (fun e => Spans y e ∧ ¬ x < meetAt y e) = 1 := by
      refine count_one _ ?_ ?_
      · refine (simple.meets_apart free).imp_of_mem fun {e f} side side' apart here there => ?_
        refine apart here.1 there.1 ?_
        rcases one f side' there.1 with later | same
        · exact absurd later there.2
        · exact same e side here.1 (before e side here.1 here.2)
      · obtain ⟨e, side, spans, earlier⟩ := first
        exact ⟨e, side, spans, not_lt.mpr earlier.le⟩
    have total := count_split (fun e => Spans y e) (fun e => x < meetAt y e) (sides ring)
    have even := even_spans (y := y) simple.closed
    rw [total, single, Nat.even_add_one, Nat.not_even_iff_odd] at even
    exact even

/-- Between the first two crossings of a polygon and its holes lies a point of the polygon that is
in no hole: a hole meets no level before the polygon does. -/
theorem first_gap (simple : SimpleRing outer)
    (free : ∀ ring ∈ outer :: holes, ∀ v ∈ ring, v.2 ≠ y)
    (closed : ∀ hole ∈ holes, hole.head? = hole.getLast?)
    (within : ∀ hole ∈ holes, ∀ p, OnRing hole p → Inside outer p)
    (crossed : ∃ e ∈ sides outer, Spans y e) {meets : List K} (sorted : meets.Pairwise (· < ·))
    (listed : ∀ x, x ∈ meets ↔ ∃ ring ∈ outer :: holes, ∃ e ∈ sides ring, Spans y e ∧
      meetAt y e = x) :
    ∃ a b rest, meets = a :: b :: rest ∧ a < b ∧ Inside outer ((a + b) / 2, y) ∧
      ∀ hole ∈ holes, Outside hole ((a + b) / 2, y) := by
  have outer_free := free outer List.mem_cons_self
  have of_outer : ∀ e ∈ sides outer, Spans y e → meetAt y e ∈ meets := fun e side spans =>
    (listed _).mpr ⟨outer, List.mem_cons_self, e, side, spans, rfl⟩
  have of_hole : ∀ hole ∈ holes, ∀ e ∈ sides hole, Spans y e → meetAt y e ∈ meets :=
    fun hole there e side spans =>
      (listed _).mpr ⟨hole, List.mem_cons_of_mem _ there, e, side, spans, rfl⟩
  obtain ⟨e₀, side₀, spans₀⟩ := crossed
  cases meets with
  | nil => exact absurd (of_outer e₀ side₀ spans₀) List.not_mem_nil
  | cons a meets =>
    have least : ∀ x ∈ a :: meets, a ≤ x := by
      intro x there
      rcases List.mem_cons.mp there with rfl | later
      · exact le_refl _
      · exact (List.rel_of_pairwise_cons sorted later).le
    have no_hole : ∀ hole ∈ holes, ∀ e ∈ sides hole, Spans y e → meetAt y e ≠ a := by
      intro hole there e side spans same
      have inside := within hole there (a, y) ⟨e, side, same ▸ meet_mem spans⟩
      have left : Outside outer (a, y) := by
        refine left_of_all simple.closed outer_free fun f side' spans' => ?_
        refine lt_of_le_of_ne (least _ (of_outer f side' spans')) fun touches => inside.1 ?_
        exact (on_ring_iff outer_free).mpr ⟨f, side', spans', touches.symm⟩
      exact Nat.not_even_iff_odd.mpr inside.2 left.2
    obtain ⟨e₁, side₁, spans₁, here⟩ : ∃ e ∈ sides outer, Spans y e ∧ meetAt y e = a := by
      obtain ⟨ring, there, e, side, spans, same⟩ := (listed a).mp List.mem_cons_self
      rcases List.mem_cons.mp there with rfl | hole
      · exact ⟨e, side, spans, same⟩
      · exact absurd same (no_hole ring hole e side spans)
    cases meets with
    | nil =>
      have only : (sides outer).countP (fun e => Spans y e) = 1 := by
        refine count_one _ ?_ ⟨e₁, side₁, spans₁⟩
        refine (simple.meets_apart outer_free).imp_of_mem ?_
        intro e f side side' apart spans spans'
        refine apart spans spans' ?_
        rw [List.mem_singleton.mp (of_outer e side spans),
          List.mem_singleton.mp (of_outer f side' spans')]
      have even := even_spans (y := y) simple.closed
      rw [only] at even
      exact absurd even (by decide)
    | cons b rest =>
      have before : a < b := List.rel_of_pairwise_cons sorted List.mem_cons_self
      have low : a < (a + b) / 2 := by linarith
      have high : (a + b) / 2 < b := by linarith
      have later : ∀ x ∈ a :: b :: rest, x = a ∨ (a + b) / 2 < x := by
        intro x there
        rcases List.mem_cons.mp there with first | there
        · exact .inl first
        · rcases List.mem_cons.mp there with rfl | there
          · exact .inr high
          · have rest := (List.pairwise_cons.mp sorted).2
            exact .inr (high.trans (List.rel_of_pairwise_cons rest there))
      refine ⟨a, b, rest, rfl, before, ?_, fun hole there => ?_⟩
      · refine past_the_first simple outer_free ⟨e₁, side₁, spans₁, here ▸ low⟩ ?_
        intro e side spans
        refine (later _ (of_outer e side spans)).symm.imp_right fun first f side' spans' early => ?_
        rcases later _ (of_outer f side' spans') with first' | late
        · rw [first, first']
        · exact absurd late early.not_gt
      · refine left_of_all (closed hole there) (free hole (List.mem_cons_of_mem _ there)) ?_
        intro e side spans
        exact (later _ (of_hole hole there e side spans)).resolve_left
          (no_hole hole there e side spans)

/-- Two sides lie in boxes apart, or one ends where the other leaves in another direction. -/
def Separated (e f : (K × K) × (K × K)) : Prop :=
  max e.1.1 e.2.1 < min f.1.1 f.2.1 ∨ max f.1.1 f.2.1 < min e.1.1 e.2.1 ∨
    max e.1.2 e.2.2 < min f.1.2 f.2.2 ∨ max f.1.2 f.2.2 < min e.1.2 e.2.2 ∨
    e.2 = f.1 ∧ cross e.1 e.2 f.2 ≠ 0 ∨ f.2 = e.1 ∧ cross f.1 f.2 e.2 ≠ 0

instance (e f : (K × K) × (K × K)) : Decidable (Separated e f) :=
  inferInstanceAs (Decidable (_ ∨ _ ∨ _ ∨ _ ∨ (_ ∧ _) ∨ (_ ∧ _)))

theorem meet_of_turn (joint : e.2 = f.1) (turn : cross e.1 e.2 f.2 ≠ 0)
    (mem_e : p ∈ segment K e.1 e.2) (mem_f : p ∈ segment K f.1 f.2) : p = e.2 ∧ p = f.1 := by
  obtain ⟨s, -, -, first, second⟩ := mem_segment.mp mem_e
  obtain ⟨t, -, -, first', second'⟩ := mem_segment.mp mem_f
  have line : cross e.1 e.2 p = 0 := by
    unfold cross
    rw [first, second]
    ring
  have scaled : cross e.1 e.2 p = t * cross e.1 e.2 f.2 := by
    unfold cross
    rw [first', second', ← joint]
    ring
  rw [scaled] at line
  obtain rfl := (mul_eq_zero.mp line).resolve_right turn
  have same : p = f.1 := Prod.ext (by rw [first', zero_mul, add_zero])
    (by rw [second', zero_mul, add_zero])
  exact ⟨same.trans joint.symm, same⟩

theorem Separated.apart (h : Separated e f) (mem_e : p ∈ segment K e.1 e.2)
    (mem_f : p ∈ segment K f.1 f.2) : (p = e.1 ∨ p = e.2) ∧ (p = f.1 ∨ p = f.2) := by
  obtain ⟨⟨low, high⟩, low', high'⟩ := box_of_mem mem_e
  obtain ⟨⟨left, right⟩, left', right'⟩ := box_of_mem mem_f
  rcases h with gap | gap | gap | gap | ⟨joint, turn⟩ | ⟨joint, turn⟩
  · exact absurd (high.trans_lt (gap.trans_le left)) (lt_irrefl _)
  · exact absurd (right.trans_lt (gap.trans_le low)) (lt_irrefl _)
  · exact absurd (high'.trans_lt (gap.trans_le left')) (lt_irrefl _)
  · exact absurd (right'.trans_lt (gap.trans_le low')) (lt_irrefl _)
  · obtain ⟨here, there⟩ := meet_of_turn joint turn mem_e mem_f
    exact ⟨.inr here, .inl there⟩
  · obtain ⟨here, there⟩ := meet_of_turn joint turn mem_f mem_e
    exact ⟨.inl there, .inr here⟩

theorem simple_of_separated (closed : ring.head? = ring.getLast?)
    (corners : 3 ≤ ring.dropLast.length) (distinct : ring.dropLast.Nodup)
    (separated : (sides ring).Pairwise Separated) : SimpleRing ring where
  closed := closed
  corners := corners
  distinct := distinct
  apart := separated.imp fun h _ => h.apart

end Metroflow.Lib
