import Metroflow.Lib.SegmentSamples
import Metroflow.Map.OsmSegments

namespace Metroflow.Map.Osm

open Metroflow.Lib

section Property

def NearSegment (toleranceM : ℝ) (point start stop : PointM ℝ) : Prop :=
  ∃ t, 0 ≤ t ∧ t ≤ 1 ∧ Scalar.dist point (Scalar.along start stop t) ≤ toleranceM

inductive Thinned (toleranceM : ℝ) : List (PointM ℝ) → List (PointM ℝ) → Prop
  | last (point : PointM ℝ) : Thinned toleranceM [point] [point]
  | span (start : PointM ℝ) {dropped : List (PointM ℝ)} {stop : PointM ℝ}
      {points thinned : List (PointM ℝ)}
      (near : ∀ point ∈ dropped, NearSegment toleranceM point start stop)
      (rest : Thinned toleranceM (stop :: points) (stop :: thinned)) :
      Thinned toleranceM (start :: dropped ++ stop :: points) (start :: stop :: thinned)

end Property

section Farthest

variable {start stop v : PointM ℝ} {inner before after : List (PointM ℝ)} {toleranceM : ℝ}

theorem near_of_distance {point : PointM ℝ}
    (near : pointToSegmentDistance point start stop ≤ toleranceM) :
    NearSegment toleranceM point start stop := by
  unfold pointToSegmentDistance at near
  dsimp only at near
  split at near
  · refine ⟨0, le_rfl, zero_le_one, ?_⟩
    unfold Scalar.dist Scalar.along
    rw [zero_mul, zero_mul, add_zero, add_zero]
    exact near
  split at near
  · split at near
    · rename_i before_end after_start
      exact ⟨_, after_start.le, before_end.le, near⟩
    · exact ⟨0, le_rfl, zero_le_one, near⟩
  · rw [if_pos zero_lt_one] at near
    exact ⟨1, zero_le_one, le_rfl, near⟩

/-- Inner points that split at the farthest one, the first of equally far ones. -/
structure SplitsAt (start stop : PointM ℝ) (before : List (PointM ℝ)) (v : PointM ℝ)
    (after : List (PointM ℝ)) : Prop where
  nearer : ∀ p ∈ before, pointToSegmentDistance p start stop < pointToSegmentDistance v start stop
  farthest : ∀ p ∈ after, pointToSegmentDistance p start stop ≤ pointToSegmentDistance v start stop

theorem exists_split (start stop : PointM ℝ) (filled : inner ≠ []) :
    ∃ before v after, inner = before ++ v :: after ∧ SplitsAt start stop before v after := by
  induction inner with
  | nil => exact absurd rfl filled
  | cons p inner ih =>
    by_cases rest : ∀ q ∈ inner,
        pointToSegmentDistance q start stop ≤ pointToSegmentDistance p start stop
    · exact ⟨[], p, inner, rfl, fun _ none => absurd none List.not_mem_nil, rest⟩
    · push Not at rest
      obtain ⟨q, listed, farther⟩ := rest
      obtain ⟨before, v, after, rfl, nearer, farthest⟩ := ih (List.ne_nil_of_mem listed)
      have beyond : pointToSegmentDistance p start stop < pointToSegmentDistance v start stop := by
        refine farther.trans_le ?_
        rcases List.mem_append.mp listed with there | there
        · exact (nearer q there).le
        · rcases List.mem_cons.mp there with rfl | there
          · exact le_rfl
          · exact farthest q there
      exact ⟨p :: before, v, after, rfl, List.forall_mem_cons.mpr ⟨beyond, nearer⟩, farthest⟩

theorem farthest_eq (split : SplitsAt start stop before v after) :
    farthest start stop (start :: (before ++ v :: after) ++ [stop]) =
      (before.length + 1, pointToSegmentDistance v start stop) := by
  have behind : ∀ (items : List (PointM ℝ × ℕ)) (best : ℕ × ℝ),
      (∀ item ∈ items, pointToSegmentDistance item.1 start stop ≤ best.2) →
      items.foldl (fun best item =>
        let distance := pointToSegmentDistance item.1 start stop
        if best.2 < distance then (item.2, distance) else best) best = best := by
    intro items best
    induction items with
    | nil => exact fun _ => rfl
    | cons item items ih =>
      intro low
      obtain ⟨first, low⟩ := List.forall_mem_cons.mp low
      rw [List.foldl_cons]
      dsimp only
      rw [if_neg (not_lt.mpr first)]
      exact ih low
  have ahead : ∀ (items : List (PointM ℝ × ℕ)) (best : ℕ × ℝ) (bound : ℝ),
      (∀ item ∈ items, pointToSegmentDistance item.1 start stop < bound) → best.2 < bound →
      (items.foldl (fun best item =>
        let distance := pointToSegmentDistance item.1 start stop
        if best.2 < distance then (item.2, distance) else best) best).2 < bound := by
    intro items
    induction items with
    | nil => exact fun _ _ _ here => here
    | cons item items ih =>
      intro best bound low here
      obtain ⟨first, low⟩ := List.forall_mem_cons.mp low
      rw [List.foldl_cons]
      refine ih _ bound low ?_
      dsimp only
      split
      · exact first
      · exact here
  unfold farthest
  rw [List.cons_append, List.tail_cons, List.dropLast_concat, List.zipIdx_append, List.foldl_append,
    List.zipIdx_cons, List.foldl_cons]
  have started : (-1 : ℝ) < pointToSegmentDistance v start stop :=
    neg_one_lt_zero.trans_le segment_distance_nonneg
  have reached := ahead (before.zipIdx 1) (0, -1) _
    (fun item listed => split.nearer _ (List.fst_mem_of_mem_zipIdx listed)) started
  dsimp only at reached ⊢
  rw [if_pos reached, behind]
  · rw [add_comm]
  · exact fun item listed => split.farthest _ (List.fst_mem_of_mem_zipIdx listed)

theorem long_enough (positive : 0 < toleranceM) :
    ¬(toleranceM ≤ 0 ∨ (start :: (before ++ v :: after) ++ [stop]).length ≤ 2) := by
  rintro (low | short)
  · exact absurd low (not_le.mpr positive)
  · simp at short
    omega

theorem last_concat (points : List (PointM ℝ)) : (points ++ [stop]).getLastD (0, 0) = stop := by
  rw [List.getLastD_eq_getLast?, List.getLast?_concat, Option.getD_some]

theorem simplify_near (positive : 0 < toleranceM)
    (near : ∀ p ∈ inner, pointToSegmentDistance p start stop ≤ toleranceM) :
    simplifyPolyline toleranceM (start :: inner ++ [stop]) = [start, stop] := by
  rw [simplifyPolyline]
  by_cases filled : inner = []
  · rw [filled, if_pos (.inr le_rfl)]
    rfl
  · obtain ⟨before, v, after, rfl, split⟩ := exists_split start stop filled
    have close : pointToSegmentDistance v start stop ≤ toleranceM := near v (by simp)
    rw [if_neg (long_enough positive)]
    dsimp only
    rw [last_concat, List.cons_append, List.headD_cons, ← List.cons_append, farthest_eq split,
      if_pos close]

theorem simplify_split (positive : 0 < toleranceM) (split : SplitsAt start stop before v after)
    (far : toleranceM < pointToSegmentDistance v start stop) :
    simplifyPolyline toleranceM (start :: (before ++ v :: after) ++ [stop]) =
      (simplifyPolyline toleranceM (start :: before ++ [v])).dropLast ++
        simplifyPolyline toleranceM (v :: after ++ [stop]) := by
  have inside : 0 < before.length + 1 ∧
      before.length + 1 + 1 < (start :: (before ++ v :: after) ++ [stop]).length := by
    refine ⟨Nat.succ_pos _, ?_⟩
    simp
  have taken : (start :: (before ++ v :: after) ++ [stop]).take (before.length + 1 + 1) =
      start :: before ++ [v] := by
    rw [show start :: (before ++ v :: after) ++ [stop] =
      (start :: before ++ [v]) ++ (after ++ [stop]) by simp]
    exact List.take_left' (by simp)
  have dropped : (start :: (before ++ v :: after) ++ [stop]).drop (before.length + 1) =
      v :: after ++ [stop] := by simp
  rw [simplifyPolyline, if_neg (long_enough positive)]
  dsimp only
  rw [last_concat, List.cons_append, List.headD_cons, ← List.cons_append, farthest_eq split,
    if_neg (not_le.mpr far), dif_pos inside, taken, dropped]

end Farthest

section Simplified

variable {toleranceM : ℝ} {start stop : PointM ℝ} {inner : List (PointM ℝ)}

theorem Thinned.join {points thinned rest kept : List (PointM ℝ)} {v : PointM ℝ}
    (first : Thinned toleranceM points thinned) (ends : points.getLast? = some v)
    (second : Thinned toleranceM (v :: rest) (v :: kept)) :
    Thinned toleranceM (points ++ rest) (thinned ++ kept) := by
  induction first with
  | last point =>
    obtain rfl : point = v := Option.some.inj ends
    exact second
  | @span start dropped stop points thinned near _ ih =>
    rw [List.append_assoc, List.cons_append, List.cons_append, List.cons_append]
    refine .span start near (ih ?_)
    rw [List.getLast?_append_of_ne_nil _ (List.cons_ne_nil _ _)] at ends
    exact ends

theorem simplify_kept (positive : 0 < toleranceM) (start stop : PointM ℝ)
    (inner : List (PointM ℝ)) :
    ∃ kept : List (PointM ℝ), kept.Sublist inner ∧
      simplifyPolyline toleranceM (start :: inner ++ [stop]) = start :: kept ++ [stop] ∧
      simplifyPolyline toleranceM (start :: kept ++ [stop]) = start :: kept ++ [stop] ∧
      Thinned toleranceM (start :: inner ++ [stop]) (start :: kept ++ [stop]) := by
  induction size : inner.length using Nat.strong_induction_on generalizing inner start stop with
  | _ size ih =>
    by_cases near : ∀ p ∈ inner, pointToSegmentDistance p start stop ≤ toleranceM
    · refine ⟨[], List.nil_sublist _, simplify_near positive near, ?_, ?_⟩
      · exact simplify_near positive fun _ none => absurd none List.not_mem_nil
      · exact .span start (fun p listed => near_of_distance (near p listed)) (.last stop)
    · push Not at near
      obtain ⟨p, listed, beyond⟩ := near
      obtain ⟨before, v, after, rfl, split⟩ := exists_split start stop (List.ne_nil_of_mem listed)
      have far : toleranceM < pointToSegmentDistance v start stop := by
        refine beyond.trans_le ?_
        rcases List.mem_append.mp listed with there | there
        · exact (split.nearer p there).le
        · rcases List.mem_cons.mp there with rfl | there
          · exact le_rfl
          · exact split.farthest p there
      rw [List.length_append, List.length_cons] at size
      obtain ⟨left, left_sub, left_eq, left_again, left_thin⟩ :=
        ih before.length (by omega) start v before rfl
      obtain ⟨right, right_sub, right_eq, right_again, right_thin⟩ :=
        ih after.length (by omega) v stop after rfl
      have joined : (start :: left ++ [v]).dropLast ++ (v :: right ++ [stop]) =
          start :: (left ++ v :: right) ++ [stop] := by
        rw [List.dropLast_concat]
        simp
      -- the split of the kept points is the split of all points
      have kept_split : SplitsAt start stop left v right :=
        ⟨fun q kept => split.nearer q (left_sub.subset kept),
          fun q kept => split.farthest q (right_sub.subset kept)⟩
      refine ⟨left ++ v :: right, left_sub.append (right_sub.cons_cons v), ?_, ?_, ?_⟩
      · rw [simplify_split positive split far, left_eq, right_eq, joined]
      · rw [simplify_split positive kept_split far, left_again, right_again, joined]
      · have thin := left_thin.join (List.getLast?_concat ..) right_thin
        simpa using thin

/-- Simplification keeps the ends, stays within its tolerance and is stable. -/
theorem simplify_polyline_within (toleranceM : ℝ) (positive : 0 < toleranceM)
    (points : List (PointM ℝ)) (long : 2 ≤ points.length) :
    (simplifyPolyline toleranceM points).Sublist points ∧
      (simplifyPolyline toleranceM points).head? = points.head? ∧
      (simplifyPolyline toleranceM points).getLast? = points.getLast? ∧
      Thinned toleranceM points (simplifyPolyline toleranceM points) ∧
      simplifyPolyline toleranceM (simplifyPolyline toleranceM points) =
        simplifyPolyline toleranceM points := by
  obtain _ | ⟨start, rest⟩ := points
  · cases long
  rcases List.eq_nil_or_concat rest with rfl | ⟨inner, stop, rfl⟩
  · exact absurd long (by simp)
  rw [List.concat_eq_append, ← List.cons_append]
  obtain ⟨kept, sub, simplified, again, thinned⟩ := simplify_kept positive start stop inner
  rw [simplified]
  refine ⟨(sub.cons_cons start).append_right [stop], rfl, ?_, thinned, again⟩
  rw [List.getLast?_concat, List.getLast?_concat]

/-- A closed line with a repeated point. -/
theorem simplify_triangle_within :
    let points : List (PointM ℝ) := [(0, 0), (3, 4), (3, 4), (6, 0), (0, 0)]
    (simplifyPolyline 1 points).Sublist points ∧
      (simplifyPolyline 1 points).head? = points.head? ∧
      (simplifyPolyline 1 points).getLast? = points.getLast? ∧
      Thinned 1 points (simplifyPolyline 1 points) ∧
      simplifyPolyline 1 (simplifyPolyline 1 points) = simplifyPolyline 1 points :=
  simplify_polyline_within 1 zero_lt_one _ (by decide)

end Simplified

end Metroflow.Map.Osm
