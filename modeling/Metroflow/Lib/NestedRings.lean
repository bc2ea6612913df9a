import Metroflow.Lib.RingAreas

namespace Metroflow.Lib

variable {K : Type*} [Field K] [LinearOrder K] [IsStrictOrderedRing K]
  {ring inner outer : List (K × K)} {levels : List K} {p q : K × K}

def levelsOf (vertices : List (K × K)) : List K :=
  (vertices.map Prod.snd).dedup.insertionSort (· ≤ ·)

omit [Field K] [IsStrictOrderedRing K] in
theorem levels_rising (vertices : List (K × K)) : (levelsOf vertices).Pairwise (· < ·) := by
  have sorted : (levelsOf vertices).Pairwise (· ≤ ·) := List.pairwise_insertionSort _ _
  have apart : (levelsOf vertices).Nodup :=
    (List.perm_insertionSort _ _).nodup_iff.mpr (List.nodup_dedup _)
  exact (sorted.and apart).imp fun pair => lt_of_le_of_ne pair.1 pair.2

omit [Field K] [IsStrictOrderedRing K] in
theorem mem_levels {vertices : List (K × K)} {v : K × K} (listed : v ∈ vertices) :
    v.2 ∈ levelsOf vertices := by
  unfold levelsOf
  rw [List.mem_insertionSort, List.mem_dedup]
  exact List.mem_map_of_mem listed

section Apart

theorem vertex_on_ring {v : K × K} (long : 2 ≤ ring.length) (listed : v ∈ ring) :
    OnRing ring v := by
  obtain ⟨before, after, rfl⟩ := List.append_of_mem listed
  cases after with
  | cons w after => exact ⟨(v, w), side_of_split rfl, left_mem_segment K v w⟩
  | nil =>
    induction before using List.reverseRecOn with
    | nil => exact absurd long (by simp)
    | append_singleton before u =>
      have split : before ++ [u] ++ [v] = before ++ u :: v :: [] := List.append_assoc ..
      exact ⟨(u, v), side_of_split split, right_mem_segment K u v⟩

theorem crossings_constant (closed : outer.head? = outer.getLast?)
    (apart : ∀ x, OnRing inner x → ¬OnRing outer x) (on_p : OnRing inner p)
    (on_q : OnRing inner q) : Even (crossings outer p) ↔ Even (crossings outer q) := by
  have along : ∀ e ∈ sides inner, ∀ x ∈ segment K e.1 e.2, ∀ y ∈ segment K e.1 e.2,
      (Even (crossings outer x) ↔ Even (crossings outer y)) := by
    intro e side x mem_x y mem_y
    refine crossings_along closed fun f side' z mem_f mem_z => ?_
    have mem_e := (convex_segment e.1 e.2).segment_subset mem_x mem_y mem_z
    exact apart z ⟨e, side, mem_e⟩ ⟨f, side', mem_f⟩
  obtain ⟨e, side, mem_e⟩ := on_p
  obtain ⟨f, side', mem_f⟩ := on_q
  have first := along e side p mem_e e.1 (left_mem_segment K e.1 e.2)
  have last := along f side' f.1 (left_mem_segment K f.1 f.2) q mem_f
  refine first.trans (Iff.trans ?_ last)
  by_contra change
  have changes : ∃ g ∈ sides inner, ¬(Even (crossings outer g.1) ↔ Even (crossings outer g.2)) := by
    rcases not_iff.mp change with h
    by_cases even : Even (crossings outer e.1)
    · exact exists_change (fun v => Even (crossings outer v)) (side_ends side).1
        (side_ends side').1 even (fun even' => change (iff_of_true even even'))
    · have even' : Even (crossings outer f.1) := h.mp even
      exact exists_change (fun v => Even (crossings outer v)) (side_ends side').1
        (side_ends side).1 even' even
  obtain ⟨g, side_g, differ⟩ := changes
  exact differ (along g side_g g.1 (left_mem_segment K g.1 g.2) g.2 (right_mem_segment K g.1 g.2))

theorem outside_of_inside (closed : inner.head? = inner.getLast?) (long : 2 ≤ inner.length)
    (inside : ∀ x, OnRing inner x → Inside outer x) : ∀ x, OnRing outer x → Outside inner x := by
  have nonempty : inner.toFinset.Nonempty := by
    rw [List.toFinset_nonempty_iff]
    rintro rfl
    exact absurd long (by simp)
  obtain ⟨v, listed, greatest⟩ := inner.toFinset.exists_max_image Prod.fst nonempty
  have listed := List.mem_toFinset.mp listed
  obtain ⟨-, odd⟩ := inside v (vertex_on_ring long listed)
  -- a side of the outer polygon lies to the right of all of the inner one
  have some_side : (sides outer).countP (fun e => Spans v.2 e ∧ v.1 < meetAt v.2 e) ≠ 0 := by
    intro none
    unfold crossings at odd
    rw [none] at odd
    exact absurd odd (by decide)
  obtain ⟨e, side, beyond⟩ := List.countP_pos_iff.mp (Nat.pos_of_ne_zero some_side)
  obtain ⟨spans, right⟩ := of_decide_eq_true beyond
  have reached : OnRing outer (meetAt v.2 e, v.2) := ⟨e, side, meet_mem spans⟩
  have none : crossings inner (meetAt v.2 e, v.2) = 0 := by
    refine List.countP_eq_zero.mpr fun f side' crossed => ?_
    obtain ⟨spans', right'⟩ := of_decide_eq_true crossed
    obtain ⟨first, second⟩ := side_ends side'
    have bound := (box_of_mem (meet_mem spans')).1.2
    have limit := max_le (greatest _ (List.mem_toFinset.mpr first))
      (greatest _ (List.mem_toFinset.mpr second))
    exact lt_irrefl _ (right.trans (right'.trans_le (bound.trans limit)))
  have apart : ∀ x, OnRing outer x → ¬OnRing inner x := fun x on_outer on_inner =>
    (inside x on_inner).1 on_outer
  intro x on_outer
  refine ⟨apart x on_outer, (crossings_constant closed apart on_outer reached).mpr ?_⟩
  rw [none]
  exact Even.zero

end Apart

section Flat

theorem SimpleRing.no_turn (simple : SimpleRing ring) (flat : ∀ e ∈ sides ring, e.1.2 = e.2.2)
    {before after : List (K × K)} {u v w : K × K} (split : ring = before ++ u :: v :: w :: after) :
    ¬0 < (u.1 - v.1) * (w.1 - v.1) := by
  intro same
  have corner := simple.corner split
  have level : u.2 = v.2 := flat _ (side_of_split split)
  have level' : v.2 = w.2 := flat _ (side_of_split (split.trans (List.append_cons _ _ _)))
  have run : u.1 - v.1 ≠ 0 := left_ne_zero_of_mul same.ne'
  refine corner.not_aligned (t := (w.1 - v.1) / (u.1 - v.1)) ?_ (div_mul_cancel₀ _ run).symm ?_
  · rw [mul_comm] at same
    exact div_pos_iff.mpr (mul_pos_iff.mp same)
  · rw [level, level', sub_self, mul_zero]

theorem SimpleRing.rises (simple : SimpleRing ring) : ∃ e ∈ sides ring, e.1.2 ≠ e.2.2 := by
  by_contra flat
  push Not at flat
  have corners := simple.corners
  have closed := simple.closed
  obtain ⟨c, b, d, rest, start⟩ : ∃ c b d rest, ring = c :: b :: d :: rest := by
    match ring, corners with
    | c :: b :: d :: rest, _ => exact ⟨c, b, d, rest, rfl⟩
  have first : ring = [] ++ c :: b :: d :: rest := start
  have moves := (simple.corner first).moves
  -- a vertex farthest to one side has both its neighbours on the other
  have only : ∀ v ∈ ring, (∀ w ∈ ring, w.1 ≤ v.1) ∨ (∀ w ∈ ring, v.1 ≤ w.1) → v = c := by
    intro v listed extreme
    by_contra other
    obtain ⟨before, after, split⟩ := List.append_of_mem listed
    induction before using List.reverseRecOn with
    | nil =>
      rw [split] at start
      exact other (List.cons.inj start).1
    | append_singleton before u =>
      rw [List.append_assoc, List.singleton_append] at split
      cases after with
      | nil =>
        have first : ring.head? = some c := by rw [start, List.head?_cons]
        have last : ring.getLast? = some v := by simp [split]
        rw [first, last] at closed
        exact other (Option.some.inj closed).symm
      | cons w after =>
        have moves' := (simple.corner split).moves
        have mem_u : u ∈ ring := by simp [split]
        have mem_w : w ∈ ring := by simp [split]
        have level : u.2 = v.2 := flat _ (side_of_split split)
        have level' : v.2 = w.2 := flat _ (side_of_split (split.trans (List.append_cons _ _ _)))
        have first : u.1 ≠ v.1 := fun same => moves'.1 (Prod.ext same.symm level.symm)
        have second : w.1 ≠ v.1 := fun same => moves'.2 (Prod.ext same.symm level')
        refine simple.no_turn flat split ?_
        rcases extreme with greatest | least
        · exact mul_pos_of_neg_of_neg (sub_neg.mpr (lt_of_le_of_ne (greatest u mem_u) first))
            (sub_neg.mpr (lt_of_le_of_ne (greatest w mem_w) second))
        · exact mul_pos (sub_pos.mpr (lt_of_le_of_ne (least u mem_u) first.symm))
            (sub_pos.mpr (lt_of_le_of_ne (least w mem_w) second.symm))
  have nonempty : ring.toFinset.Nonempty := by
    rw [start]
    exact ⟨c, by simp⟩
  obtain ⟨v, listed, greatest⟩ := ring.toFinset.exists_max_image Prod.fst nonempty
  obtain ⟨w, listed', least⟩ := ring.toFinset.exists_min_image Prod.fst nonempty
  simp only [List.mem_toFinset] at listed greatest listed' least
  obtain rfl := only v listed (.inl greatest)
  obtain rfl := only w listed' (.inr least)
  have mem_b : b ∈ ring := by simp [start]
  refine moves.1 (Prod.ext (le_antisymm (greatest b mem_b) (least b mem_b)) ?_)
  exact (flat _ (side_of_split first)).symm

theorem meets_somewhere (rising : levels.Pairwise (· < ·)) (known : ∀ v ∈ ring, v.2 ∈ levels)
    (rises : ∃ e ∈ sides ring, e.1.2 ≠ e.2.2) :
    ∃ slab ∈ sides levels, meets ring ((slab.1 + slab.2) / 2) ≠ [] := by
  obtain ⟨e, side, apart⟩ := rises
  obtain ⟨first, second⟩ := side_ends side
  have between : ∀ {low high : K}, low ∈ levels → high ∈ levels → low < high →
      ∃ slab ∈ sides levels, low < (slab.1 + slab.2) / 2 ∧ (slab.1 + slab.2) / 2 < high := by
    intro low high mem_low mem_high less
    obtain ⟨next, slab, above, below, -⟩ := next_entry rising mem_low mem_high less
    exact ⟨(low, next), slab, by dsimp only; linarith, by dsimp only; linarith⟩
  have spanned : ∃ slab ∈ sides levels, Spans ((slab.1 + slab.2) / 2) e := by
    rcases lt_or_gt_of_ne apart with up | down
    · obtain ⟨slab, listed, low, high⟩ := between (known _ first) (known _ second) up
      exact ⟨slab, listed, spans_iff.mpr (.inl ⟨low.le, high⟩)⟩
    · obtain ⟨slab, listed, low, high⟩ := between (known _ second) (known _ first) down
      exact ⟨slab, listed, spans_iff.mpr (.inr ⟨low.le, high⟩)⟩
  obtain ⟨slab, listed, spans⟩ := spanned
  exact ⟨slab, listed, List.ne_nil_of_mem (mem_meets.mpr ⟨e, side, spans, rfl⟩)⟩

end Flat

omit [IsStrictOrderedRing K] in
theorem SimpleRing.long (simple : SimpleRing ring) : 2 ≤ ring.length := by
  have corners := simple.corners
  rw [List.length_dropLast] at corners
  omega

theorem SimpleRing.area_ne_zero (simple : SimpleRing ring) : area2 ring ≠ 0 := by
  have rising := levels_rising ring
  have known : ∀ v ∈ ring, v.2 ∈ levelsOf ring := fun v listed => mem_levels listed
  generalize levelsOf ring = levels at rising known
  have each : ∀ slab ∈ sides levels, 0 < slab.2 - slab.1 ∧
      0 ≤ alternating (meets ring ((slab.1 + slab.2) / 2)) ∧
      (meets ring ((slab.1 + slab.2) / 2) ≠ [] →
        0 < alternating (meets ring ((slab.1 + slab.2) / 2))) := by
    intro slab side
    have free := free_between rising known side
    exact ⟨sub_pos.mpr (gap_of_side rising side).1,
      alternating_nonneg (simple.meets_nodup free) (meets_even simple.closed _)⟩
  obtain ⟨slab, side, nonempty⟩ := meets_somewhere rising known simple.rises
  have total : ((sides levels).map fun _ => (0 : K)).sum < |area2 ring| := by
    rw [simple.area_abs rising known]
    refine List.sum_lt_sum _ _ (fun slab side => ?_) ⟨slab, side, ?_⟩
    · obtain ⟨height, nonneg, -⟩ := each slab side
      exact mul_nonneg (mul_nonneg zero_le_two height.le) nonneg
    · obtain ⟨height, -, pos⟩ := each slab side
      exact mul_pos (mul_pos two_pos height) (pos nonempty)
  rw [List.map_const', List.sum_replicate, smul_zero] at total
  exact abs_pos.mp total

theorem nested_area (simple : SimpleRing inner) (simple' : SimpleRing outer)
    (inside : ∀ x, OnRing inner x → Inside outer x) : |area2 inner| < |area2 outer| := by
  have rising := levels_rising (inner ++ outer)
  have known : ∀ v ∈ inner, v.2 ∈ levelsOf (inner ++ outer) := fun v listed =>
    mem_levels (List.mem_append_left _ listed)
  have known' : ∀ v ∈ outer, v.2 ∈ levelsOf (inner ++ outer) := fun v listed =>
    mem_levels (List.mem_append_right _ listed)
  generalize levelsOf (inner ++ outer) = levels at rising known known'
  have outside := outside_of_inside simple.closed simple.long inside
  have merged : ∀ slab ∈ sides levels,
      alternating (meets inner ((slab.1 + slab.2) / 2)) ≤
        alternating (meets outer ((slab.1 + slab.2) / 2)) ∧
      (meets outer ((slab.1 + slab.2) / 2) ≠ [] →
        alternating (meets inner ((slab.1 + slab.2) / 2)) <
          alternating (meets outer ((slab.1 + slab.2) / 2))) := by
    intro slab side
    have free := free_between rising known side
    have free' := free_between rising known' side
    generalize (slab.1 + slab.2) / 2 = y at free free'
    have reaches : ∀ {ring : List (K × K)} {x : K}, x ∈ meets ring y → OnRing ring (x, y) := by
      intro ring x listed
      obtain ⟨e, side, spans, rfl⟩ := mem_meets.mp listed
      exact ⟨e, side, meet_mem spans⟩
    have even : ∀ x ∈ meets outer y, Even ((meets inner y).countP (x < ·)) := by
      intro x listed
      rw [← crossings_meets]
      exact (outside _ (reaches listed)).2
    have odd : ∀ x ∈ meets inner y, Odd ((meets outer y).countP (x < ·)) := by
      intro x listed
      rw [← crossings_meets]
      exact (inside _ (reaches listed)).2
    have distinct : (meets outer y ++ meets inner y).Nodup := by
      refine List.nodup_append'.mpr ⟨simple'.meets_nodup free', simple.meets_nodup free, ?_⟩
      exact fun x first second => (inside _ (reaches second)).1 (reaches first)
    have both : Even (meets outer y ++ meets inner y).length := by
      rw [List.length_append]
      exact (meets_even simple'.closed y).add (meets_even simple.closed y)
    obtain ⟨nonneg, pos⟩ := alternating_nonneg distinct both
    rw [alternating_append even odd] at nonneg pos
    refine ⟨sub_nonneg.mp nonneg, fun nonempty => sub_pos.mp (pos ?_)⟩
    exact List.append_ne_nil_of_left_ne_nil nonempty _
  rw [simple.area_abs rising known, simple'.area_abs rising known']
  obtain ⟨slab, side, nonempty⟩ := meets_somewhere rising known' simple'.rises
  refine List.sum_lt_sum _ _ (fun slab side => ?_) ⟨slab, side, ?_⟩
  · have rises := (gap_of_side rising side).1
    exact mul_le_mul_of_nonneg_left (merged slab side).1 (by linarith)
  · have rises := (gap_of_side rising side).1
    exact mul_lt_mul_of_pos_left ((merged slab side).2 nonempty) (by linarith)

/-- Two polygons whose sides coincide or meet in common ends at most. -/
def NonCrossing (ring other : List (K × K)) : Prop :=
  ∀ e ∈ sides ring, ∀ f ∈ sides other, (f = e ∨ f = e.swap) ∨
    ∀ x ∈ segment K e.1 e.2, x ∈ segment K f.1 f.2 → (x = e.1 ∨ x = e.2) ∧ (x = f.1 ∨ x = f.2)

omit [IsStrictOrderedRing K] in
theorem NonCrossing.symm {other : List (K × K)} (h : NonCrossing ring other) :
    NonCrossing other ring := by
  intro f side e side'
  refine (h e side' f side).imp ?_ fun ends x mem_f mem_e => (ends x mem_e mem_f).symm
  rintro (rfl | rfl)
  · exact .inl rfl
  · exact .inr (Prod.swap_swap e).symm

theorem non_crossing_of_left {other : List (K × K)}
    (left : ∀ e ∈ sides ring, ∀ v ∈ other, 0 < cross e.1 e.2 v) : NonCrossing ring other := by
  refine fun e side f side' => .inr fun x mem_e mem_f => ?_
  obtain ⟨first, second⟩ := side_ends side'
  obtain ⟨s, -, -, x_e, y_e⟩ := mem_segment.mp mem_e
  obtain ⟨t, low, high, x_f, y_f⟩ := mem_segment.mp mem_f
  have line : cross e.1 e.2 x = 0 := by
    unfold cross
    rw [x_e, y_e]
    ring
  have mixed : cross e.1 e.2 x = (1 - t) * cross e.1 e.2 f.1 + t * cross e.1 e.2 f.2 := by
    unfold cross
    rw [x_f, y_f]
    ring
  have start := left e side f.1 first
  have finish := left e side f.2 second
  refine absurd line (mixed ▸ ne_of_gt ?_)
  rcases low.eq_or_lt with rfl | positive
  · linarith
  · have here := mul_nonneg (sub_nonneg.mpr high) start.le
    have there := mul_pos positive finish
    linarith

theorem inside_of_vertices (closed : outer.head? = outer.getLast?)
    (free : NonCrossing inner outer) (vertices : ∀ v ∈ inner, Inside outer v) :
    ∀ x, OnRing inner x → Inside outer x := by
  rintro x ⟨e, side, mem_e⟩
  obtain ⟨first, second⟩ := side_ends side
  have inside := vertices _ first
  have apart : ∀ z ∈ segment K e.1 e.2, ¬OnRing outer z := by
    rintro z mem_z ⟨f, side', mem_f⟩
    rcases free e side f side' with (rfl | rfl) | ends
    · exact inside.1 ⟨f, side', left_mem_segment K f.1 f.2⟩
    · exact inside.1 ⟨e.swap, side', right_mem_segment K e.2 e.1⟩
    · rcases (ends z mem_z mem_f).1 with rfl | rfl
      · exact inside.1 ⟨f, side', mem_f⟩
      · exact (vertices _ second).1 ⟨f, side', mem_f⟩
  refine ⟨apart x mem_e, ?_⟩
  rw [← Nat.not_even_iff_odd, crossings_along closed, Nat.not_even_iff_odd]
  · exact inside.2
  · intro f side' z mem_f mem_z
    have within := (convex_segment e.1 e.2).segment_subset mem_e (left_mem_segment K e.1 e.2) mem_z
    exact apart z within ⟨f, side', mem_f⟩

end Metroflow.Lib
