import Metroflow.Lib.SegmentSamples

namespace Metroflow.Lib.Scalar

section Distances

variable {a b l r : PointM ℝ} {t u : ℝ}

theorem dist_complex : Scalar.dist a b = Dist.dist (⟨a.1, a.2⟩ : ℂ) ⟨b.1, b.2⟩ := by
  rw [dist_real, Complex.dist_eq_re_im]

theorem dist_le_add (a b c : PointM ℝ) : Scalar.dist a c ≤ Scalar.dist a b + Scalar.dist b c := by
  rw [dist_complex, dist_complex, dist_complex]
  exact dist_triangle _ _ _

theorem dist_same : Scalar.dist a a = 0 := by
  rw [dist_complex, dist_self]

theorem eq_of_dist (near : Scalar.dist a b ≤ 0) : a = b := by
  by_contra apart
  exact absurd near (not_le.mpr (dist_pos apart))

theorem along_zero : along l r 0 = l := by simp [along]

theorem along_one : along l r 1 = r := by simp [along]

theorem dist_along : Scalar.dist (along l r t) (along l r u) = |t - u| * Scalar.dist l r := by
  rw [dist_real, dist_real, ← Real.sqrt_sq (abs_nonneg (t - u)), ← Real.sqrt_mul (sq_nonneg _),
    sq_abs]
  congr 1
  unfold along
  ring

theorem dist_along_left : Scalar.dist l (along l r t) = |t| * Scalar.dist l r := by
  have whole : Scalar.dist (along l r 0) (along l r t) = |0 - t| * Scalar.dist l r := dist_along
  rwa [along_zero, zero_sub, abs_neg] at whole

theorem dist_along_right : Scalar.dist (along l r t) r = |1 - t| * Scalar.dist l r := by
  have whole : Scalar.dist (along l r t) (along l r 1) = |t - 1| * Scalar.dist l r := dist_along
  rwa [along_one, abs_sub_comm] at whole

end Distances

section Curves

variable {p q l r x : PointM ℝ} {points front rest : List (PointM ℝ)} {s t : ℝ}

/-- The point of a polyline at an arc length; behind its end it stays there. -/
noncomputable def curve : List (PointM ℝ) → ℝ → PointM ℝ
  | [], _ => (0, 0)
  | [p], _ => p
  | p :: q :: rest, s =>
    if s < Scalar.dist p q then along p q (s / Scalar.dist p q)
    else curve (q :: rest) (s - Scalar.dist p q)

theorem curve_zero (p : PointM ℝ) (rest : List (PointM ℝ)) : curve (p :: rest) 0 = p := by
  induction rest generalizing p with
  | nil => rfl
  | cons q rest ih =>
    rw [curve]
    split
    · rw [zero_div, along_zero]
    · rename_i flat
      have none : Scalar.dist p q = 0 := le_antisymm (not_lt.mp flat) dist_nonneg
      rw [none, sub_zero, ih, eq_of_dist none.le]

theorem path_length_cons : pathLength (p :: q :: rest) =
    Scalar.dist p q + pathLength (q :: rest) := by
  rw [path_length_real, path_length_real, List.tail_cons, List.zip_cons_cons, List.map_cons,
    List.sum_cons, List.tail_cons]

theorem path_length_nonneg : 0 ≤ pathLength points := by
  rw [path_length_real]
  refine List.sum_nonneg fun d listed => ?_
  obtain ⟨_, -, rfl⟩ := List.mem_map.mp listed
  exact dist_nonneg

theorem curve_past (below : Scalar.dist p q ≤ s) :
    curve (p :: q :: rest) s = curve (q :: rest) (s - Scalar.dist p q) := by
  rw [curve, if_neg (not_lt.mpr below)]

theorem curve_first (pos : 0 < Scalar.dist p q) (within : s ≤ Scalar.dist p q) :
    curve (p :: q :: rest) s = along p q (s / Scalar.dist p q) := by
  rcases within.eq_or_lt with rfl | inside
  · rw [curve_past le_rfl, sub_self, curve_zero, div_self pos.ne', along_one]
  · rw [curve, if_pos inside]

theorem curve_later {rest' : List (PointM ℝ)}
    (same : ∀ s, curve (q :: rest) s = curve (q :: rest') s) (s : ℝ) :
    curve (p :: q :: rest) s = curve (p :: q :: rest') s := by
  unfold curve
  split
  · rfl
  · exact same _

theorem path_length_later {rest' : List (PointM ℝ)}
    (same : pathLength (q :: rest) = pathLength (q :: rest')) :
    pathLength (p :: q :: rest) = pathLength (p :: q :: rest') := by
  rw [path_length_cons, same, ← path_length_cons]

theorem inserted_lengths (after_l : 0 < t) (before_r : t < 1) :
    Scalar.dist l (along l r t) = t * Scalar.dist l r ∧
      Scalar.dist (along l r t) r = (1 - t) * Scalar.dist l r := by
  rw [dist_along_left, dist_along_right, abs_of_pos after_l, abs_of_pos (by linarith)]
  exact ⟨rfl, rfl⟩

theorem along_along_left (u : ℝ) : along l (along l r t) u = along l r (t * u) := by
  unfold along
  refine Prod.ext ?_ ?_ <;> dsimp only <;> ring

theorem along_along_right (u : ℝ) : along (along l r t) r u = along l r (t + (1 - t) * u) := by
  unfold along
  refine Prod.ext ?_ ?_ <;> dsimp only <;> ring

theorem curve_insert (long : 0 < Scalar.dist l r) (after_l : 0 < t) (before_r : t < 1) (s : ℝ) :
    curve (front ++ l :: along l r t :: r :: rest) s = curve (front ++ l :: r :: rest) s := by
  induction front generalizing s with
  | nil =>
    obtain ⟨first, second⟩ := inserted_lengths (l := l) (r := r) after_l before_r
    have t_span : 0 < t * Scalar.dist l r := mul_pos after_l long
    have r_span : 0 < (1 - t) * Scalar.dist l r := mul_pos (by linarith) long
    rw [List.nil_append, List.nil_append, curve, first]
    split
    · rename_i early
      rw [curve, if_pos (by nlinarith), along_along_left]
      congr 1
      field_simp
    rename_i late
    rw [curve, second]
    split
    · rename_i early
      rw [curve, if_pos (by linarith), along_along_right]
      congr 1
      have apart : 1 - t ≠ 0 := by linarith
      field_simp
      ring
    · rename_i later
      rw [curve_past (by linarith)]
      congr 1
      ring
  | cons a front ih =>
    cases front with
    | nil => exact curve_later ih s
    | cons a' front => exact curve_later ih s

theorem path_length_insert (after_l : 0 < t) (before_r : t < 1) :
    pathLength (front ++ l :: along l r t :: r :: rest) = pathLength (front ++ l :: r :: rest) := by
  induction front with
  | nil =>
    obtain ⟨first, second⟩ := inserted_lengths (l := l) (r := r) after_l before_r
    rw [List.nil_append, List.nil_append, path_length_cons, path_length_cons, path_length_cons,
      first, second]
    ring
  | cons a front ih =>
    cases front with
    | nil => exact path_length_later ih
    | cons a' front => exact path_length_later ih

/-- A segment of the polyline passes within a distance of a point. -/
def Passes (points : List (PointM ℝ)) (x : PointM ℝ) (near : ℝ) : Prop :=
  ∃ front l r rest, points = front ++ l :: r :: rest ∧ l ≠ r ∧
    ∃ t, 0 ≤ t ∧ t ≤ 1 ∧ Scalar.dist x (along l r t) ≤ near

theorem passes_cons {near : ℝ} : Passes (p :: q :: rest) x near ↔
    (p ≠ q ∧ ∃ t, 0 ≤ t ∧ t ≤ 1 ∧ Scalar.dist x (along p q t) ≤ near) ∨
      Passes (q :: rest) x near := by
  constructor
  · rintro ⟨front, l, r, last, split, close⟩
    cases front with
    | nil =>
      rw [List.nil_append, List.cons.injEq, List.cons.injEq] at split
      obtain ⟨rfl, rfl, -⟩ := split
      exact .inl close
    | cons a front =>
      rw [List.cons_append, List.cons.injEq] at split
      exact .inr ⟨front, l, r, last, split.2, close⟩
  · rintro (close | ⟨front, l, r, last, split, close⟩)
    · exact ⟨[], p, q, rest, rfl, close⟩
    · exact ⟨p :: front, l, r, last, by rw [split, List.cons_append], close⟩

theorem Passes.long {near : ℝ} (passes : Passes points x near) : 2 ≤ points.length := by
  obtain ⟨front, l, r, rest, rfl, -⟩ := passes
  rw [List.length_append, List.length_cons, List.length_cons]
  omega

end Curves

/-- The piece of a chain that an arc length falls on. -/
structure Piece (V : Type) where
  index : ℕ
  left : V
  right : V
  remainder : ℝ

section Pieces

variable {V : Type} {pos : V → PointM ℝ} {index : ℕ} {s t : ℝ} {vertices front rest : List V}
  {piece : Piece V} {l r x : V}

/-- The first piece with a length that is not passed before the arc length is used up. -/
noncomputable def reach (pos : V → PointM ℝ) (index : ℕ) (s : ℝ) : List V → Option (Piece V)
  | left :: right :: rest =>
    if Scalar.dist (pos left) (pos right) ≤ 0 then reach pos (index + 1) s (right :: rest)
    else if Scalar.dist (pos left) (pos right) < s then
      reach pos (index + 1) (s - Scalar.dist (pos left) (pos right)) (right :: rest)
    else some ⟨index, left, right, s⟩
  | _ => none

structure Reaches (pos : V → PointM ℝ) (vertices : List V) (index : ℕ) (s : ℝ) (piece : Piece V) :
    Prop where
  split : ∃ front rest, vertices = front ++ piece.left :: piece.right :: rest ∧
    piece.index = index + front.length
  long : 0 < Scalar.dist (pos piece.left) (pos piece.right)
  within : 0 ≤ piece.remainder ∧ piece.remainder ≤ Scalar.dist (pos piece.left) (pos piece.right)
  point : curve (vertices.map pos) s = along (pos piece.left) (pos piece.right)
    (piece.remainder / Scalar.dist (pos piece.left) (pos piece.right))

theorem reach_spec (nonneg : 0 ≤ s) (found : reach pos index s vertices = some piece) :
    Reaches pos vertices index s piece := by
  induction vertices generalizing index s with
  | nil => cases found
  | cons left rest ih =>
    cases rest with
    | nil => cases found
    | cons right rest =>
      unfold reach at found
      -- a piece of what follows is a piece of the whole
      have later : ∀ s', 0 ≤ s' → s' = s - Scalar.dist (pos left) (pos right) →
          reach pos (index + 1) s' (right :: rest) = some piece →
          Reaches pos (left :: right :: rest) index s piece := by
        intro s' nonneg' same found
        obtain ⟨⟨front, last, split, place⟩, long, within, point⟩ := ih nonneg' found
        refine ⟨⟨left :: front, last, by rw [split, List.cons_append], ?_⟩, long, within, ?_⟩
        · rw [place, List.length_cons]
          omega
        · rw [← point, same]
          exact curve_past (by linarith)
      split at found
      · rename_i flat
        have zero := le_antisymm flat dist_nonneg
        exact later s nonneg (by rw [zero, sub_zero]) found
      split at found
      · rename_i beyond
        exact later _ (by linarith) rfl found
      · rename_i long within
        obtain rfl := Option.some.inj found
        refine ⟨⟨[], rest, rfl, rfl⟩, not_le.mp long, ⟨nonneg, not_lt.mp within⟩, ?_⟩
        exact curve_first (not_le.mp long) (not_lt.mp within)

theorem Reaches.dists (h : Reaches pos vertices index s piece) :
    Scalar.dist (pos piece.left) (curve (vertices.map pos) s) = piece.remainder ∧
      Scalar.dist (pos piece.right) (curve (vertices.map pos) s) =
        Scalar.dist (pos piece.left) (pos piece.right) - piece.remainder := by
  obtain ⟨-, long, ⟨low, high⟩, point⟩ := h
  rw [point]
  constructor
  · rw [dist_along_left, abs_of_nonneg (div_nonneg low long.le), div_mul_cancel₀ _ long.ne']
  · rw [dist_comm, dist_along_right, abs_of_nonneg, sub_mul, one_mul, div_mul_cancel₀ _ long.ne']
    exact sub_nonneg.mpr ((div_le_one long).mpr high)

theorem reach_none (nonneg : 0 ≤ s) (found : reach pos index s vertices = none) {last : V}
    (ends : vertices.getLast? = some last) : curve (vertices.map pos) s = pos last := by
  induction vertices generalizing index s with
  | nil => cases ends
  | cons left rest ih =>
    cases rest with
    | nil =>
      obtain rfl := Option.some.inj ends
      rfl
    | cons right rest =>
      unfold reach at found
      rw [List.getLast?_cons_cons] at ends
      split at found
      · rename_i flat
        have zero := le_antisymm flat dist_nonneg
        have past : curve (pos left :: pos right :: rest.map pos) s =
            curve (pos right :: rest.map pos) (s - Scalar.dist (pos left) (pos right)) :=
          curve_past (flat.trans nonneg)
        rw [zero, sub_zero] at past
        rw [← ih nonneg found ends]
        exact past
      split at found
      · rename_i beyond
        rw [← ih (by linarith) found ends]
        exact curve_past beyond.le
      · cases found

theorem reach_congr {pos' : V → PointM ℝ} (same : ∀ v ∈ vertices, pos' v = pos v) :
    reach pos' index s vertices = reach pos index s vertices := by
  induction vertices generalizing index s with
  | nil => rfl
  | cons left rest ih =>
    cases rest with
    | nil => rfl
    | cons right rest =>
      have later : ∀ index s, reach pos' index s (right :: rest) =
          reach pos index s (right :: rest) := fun _ _ => ih fun v listed => same v (List.mem_cons_of_mem left listed)
      unfold reach
      rw [same left (by simp), same right (by simp), later, later]

theorem reach_mem (found : reach pos index s vertices = some piece) :
    piece.left ∈ vertices ∧ piece.right ∈ vertices := by
  induction vertices generalizing index s with
  | nil => cases found
  | cons left rest ih =>
    cases rest with
    | nil => cases found
    | cons right rest =>
      have later : ∀ index s, reach pos index s (right :: rest) = some piece →
          piece.left ∈ left :: right :: rest ∧ piece.right ∈ left :: right :: rest :=
        fun _ _ found => (ih found).imp (List.mem_cons_of_mem left) (List.mem_cons_of_mem left)
      unfold reach at found
      split at found
      · exact later _ _ found
      split at found
      · exact later _ _ found
      · obtain rfl := Option.some.inj found
        exact ⟨by simp, by simp⟩

theorem reach_within (found : reach pos index s vertices = some piece) :
    piece.remainder ≤ s ∧
      s + (Scalar.dist (pos piece.left) (pos piece.right) - piece.remainder) ≤
        pathLength (vertices.map pos) := by
  induction vertices generalizing index s with
  | nil => cases found
  | cons left rest ih =>
    cases rest with
    | nil => cases found
    | cons right rest =>
      have whole : pathLength ((left :: right :: rest).map pos) =
          Scalar.dist (pos left) (pos right) + pathLength ((right :: rest).map pos) :=
        path_length_cons
      have first : 0 ≤ Scalar.dist (pos left) (pos right) := dist_nonneg
      unfold reach at found
      rw [whole]
      split at found
      · obtain ⟨low, high⟩ := ih found
        exact ⟨low, by linarith⟩
      split at found
      · obtain ⟨low, high⟩ := ih found
        exact ⟨by linarith, by linarith⟩
      · obtain rfl := Option.some.inj found
        have later : 0 ≤ pathLength ((right :: rest).map pos) := path_length_nonneg
        exact ⟨le_rfl, by dsimp only; linarith⟩

theorem reach_index (found : reach pos index s vertices = some piece) : index ≤ piece.index := by
  induction vertices generalizing index s with
  | nil => cases found
  | cons left rest ih =>
    cases rest with
    | nil => cases found
    | cons right rest =>
      unfold reach at found
      split at found
      · exact (Nat.le_succ index).trans (ih found)
      split at found
      · exact (Nat.le_succ index).trans (ih found)
      · obtain rfl := Option.some.inj found
        exact le_rfl

theorem reach_shift : reach pos (index + 1) s vertices =
    (reach pos index s vertices).map fun piece => { piece with index := piece.index + 1 } := by
  induction vertices generalizing index s with
  | nil => rfl
  | cons left rest ih =>
    cases rest with
    | nil => rfl
    | cons right rest =>
      unfold reach
      split
      · exact ih
      split
      · exact ih
      · rfl

noncomputable def Piece.insert (place : ℕ) (x : V) (u : ℝ) (piece : Piece V) : Piece V :=
  if piece.index < place then piece
  else if piece.index = place then
    if piece.remainder ≤ u then { piece with right := x }
    else ⟨place + 1, x, piece.right, piece.remainder - u⟩
  else { piece with index := piece.index + 1 }

theorem reach_later {rest rest' : List V} {place : ℕ} {u : ℝ}
    (same : ∀ s, reach pos (index + 1) s (r :: rest') =
      (reach pos (index + 1) s (r :: rest)).map (Piece.insert (index + 1 + place) x u)) :
    reach pos index s (l :: r :: rest') =
      (reach pos index s (l :: r :: rest)).map (Piece.insert (index + 1 + place) x u) := by
  unfold reach
  split
  · exact same s
  split
  · exact same _
  · have before : index < index + 1 + place := by omega
    rw [Option.map_some, Piece.insert, if_pos before]

theorem reach_insert (long : 0 < Scalar.dist (pos l) (pos r)) (after_l : 0 < t) (before_r : t < 1)
    (at_x : pos x = along (pos l) (pos r) t) :
    reach pos index s (front ++ l :: x :: r :: rest) =
      (reach pos index s (front ++ l :: r :: rest)).map
        (Piece.insert (index + front.length) x (t * Scalar.dist (pos l) (pos r))) := by
  induction front generalizing index s with
  | nil =>
    obtain ⟨first, second⟩ := inserted_lengths (l := pos l) (r := pos r) after_l before_r
    rw [← at_x] at first second
    have t_span : 0 < t * Scalar.dist (pos l) (pos r) := mul_pos after_l long
    have r_span : 0 < (1 - t) * Scalar.dist (pos l) (pos r) := mul_pos (by linarith) long
    rw [List.nil_append, List.nil_append, List.length_nil, Nat.add_zero]
    unfold reach
    rw [first, if_neg (not_le.mpr t_span), if_neg (not_le.mpr long)]
    by_cases beyond : Scalar.dist (pos l) (pos r) < s
    · rw [if_pos beyond, if_pos (by nlinarith), reach, second, if_neg (not_le.mpr r_span),
        if_pos (by linarith), reach_shift]
      have left_over : s - t * Scalar.dist (pos l) (pos r) - (1 - t) * Scalar.dist (pos l) (pos r) =
          s - Scalar.dist (pos l) (pos r) := by ring
      rw [left_over]
      -- the pieces behind the inserted vertex move on by one
      refine Option.map_congr fun piece found => ?_
      have behind := reach_index found
      unfold Piece.insert
      rw [if_neg (by omega), if_neg (by omega)]
    · rw [if_neg beyond, Option.map_some, Piece.insert, if_neg (lt_irrefl index), if_pos rfl]
      by_cases first_half : s ≤ t * Scalar.dist (pos l) (pos r)
      · rw [if_neg (not_lt.mpr first_half), if_pos first_half]
      · rw [if_pos (not_le.mp first_half), if_neg first_half, reach, second,
          if_neg (not_le.mpr r_span), if_neg (by linarith)]
  | cons a front ih =>
    have place : index + (a :: front).length = index + 1 + front.length := by
      rw [List.length_cons]
      omega
    rw [place]
    cases front with
    | nil =>
      rw [List.singleton_append, List.singleton_append]
      rw [List.nil_append, List.nil_append] at ih
      exact reach_later fun _ => ih
    | cons a' front => exact reach_later fun _ => ih

end Pieces

end Metroflow.Lib.Scalar
