import Metroflow.City.StreetSplits

namespace Metroflow.City.StreetTopologyBuilder

open Metroflow.Lib
open Metroflow.Lib.Scalar (Piece reach curve)

section Anchors

variable {pos pos' : ℕ → PointM ℝ} {nodeIds front rest : List ℕ} {last l n r x : ℕ} {s s' : ℝ}
  {piece piece' : Piece ℕ}

/-- A place on a piece within the tolerance of one of its ends. -/
def AtEnd (pos : ℕ → PointM ℝ) (piece : Piece ℕ) : Prop :=
  piece.remainder ≤ 1 / 4 ∨
    Scalar.dist (pos piece.left) (pos piece.right) - piece.remainder ≤ 1 / 4

noncomputable instance : Decidable (AtEnd pos piece) := inferInstanceAs (Decidable (_ ∨ _))

noncomputable def nearEnd (pos : ℕ → PointM ℝ) (piece : Piece ℕ) : ℕ :=
  if piece.remainder ≤ Scalar.dist (pos piece.left) (pos piece.right) - piece.remainder
  then piece.left else piece.right

noncomputable def near (pos : ℕ → PointM ℝ) (point : PointM ℝ) (nodeId : ℕ) : Bool :=
  decide (Scalar.dist (pos nodeId) point ≤ 1 / 4)

/-- The existing node that an arc length resolves to. -/
noncomputable def anchorOf (pos : ℕ → PointM ℝ) (nodeIds : List ℕ) (last : ℕ) (s : ℝ) : Option ℕ :=
  match reach pos 0 s nodeIds with
  | none => some last
  | some piece =>
    if AtEnd pos piece then some (nearEnd pos piece)
    else nodeIds.find? (near pos (curve (nodeIds.map pos) s))

/-- The arc length lies on a piece, away from all vertices. -/
structure Mints (pos : ℕ → PointM ℝ) (nodeIds : List ℕ) (s : ℝ) (piece : Piece ℕ) : Prop where
  reached : reach pos 0 s nodeIds = some piece
  inner : ¬AtEnd pos piece
  far : ∀ nodeId ∈ nodeIds, 1 / 4 < Scalar.dist (pos nodeId) (curve (nodeIds.map pos) s)

/-- A vertex minted at `s'` takes the place of the node that `s` resolves to. -/
def Displaces (pos : ℕ → PointM ℝ) (nodeIds : List ℕ) (s s' : ℝ) (n : ℕ) : Prop :=
  ∃ piece piece', reach pos 0 s nodeIds = some piece ∧ Mints pos nodeIds s' piece' ∧
    Scalar.dist (curve (nodeIds.map pos) s') (curve (nodeIds.map pos) s) ≤ 1 / 4 ∧
    (piece'.index = piece.index ∧ (AtEnd pos piece →
      Scalar.dist (curve (nodeIds.map pos) s') (curve (nodeIds.map pos) s) <
          Scalar.dist (pos n) (curve (nodeIds.map pos) s) ∨
        Scalar.dist (curve (nodeIds.map pos) s') (curve (nodeIds.map pos) s) =
          Scalar.dist (pos n) (curve (nodeIds.map pos) s) ∧ piece'.remainder < piece.remainder) ∨
      piece'.index ≠ piece.index ∧ ¬AtEnd pos piece ∧ n ∉ nodeIds.take (piece'.index + 1))

theorem anchor_congr (same : ∀ v ∈ nodeIds, pos' v = pos v) :
    anchorOf pos' nodeIds last s = anchorOf pos nodeIds last s := by
  unfold anchorOf
  rw [Scalar.reach_congr same]
  cases reached : reach pos 0 s nodeIds with
  | none => rfl
  | some piece =>
    obtain ⟨left, right⟩ := Scalar.reach_mem reached
    have line : nodeIds.map pos' = nodeIds.map pos := List.map_congr_left same
    have at_end : AtEnd pos' piece ↔ AtEnd pos piece := by
      unfold AtEnd
      rw [same _ left, same _ right]
    have nearer : nearEnd pos' piece = nearEnd pos piece := by
      unfold nearEnd
      rw [same _ left, same _ right]
    have searched : nodeIds.find? (near pos' (curve (nodeIds.map pos) s)) =
        nodeIds.find? (near pos (curve (nodeIds.map pos) s)) := by
      refine List.find?_congr fun v listed => ?_
      unfold near
      rw [same v listed]
    simp only [line, at_end, nearer, searched]

theorem anchor_mem (ends : nodeIds.getLast? = some last)
    (anchored : anchorOf pos nodeIds last s = some n) : n ∈ nodeIds := by
  unfold anchorOf at anchored
  cases reached : reach pos 0 s nodeIds with
  | none =>
    rw [reached] at anchored
    obtain rfl := Option.some.inj anchored
    exact List.mem_of_getLast? ends
  | some piece =>
    rw [reached] at anchored
    dsimp only at anchored
    split at anchored
    · obtain rfl := Option.some.inj anchored
      obtain ⟨left, right⟩ := Scalar.reach_mem reached
      unfold nearEnd
      split
      · exact left
      · exact right
    · exact List.mem_of_find?_eq_some anchored

theorem mints_congr (same : ∀ v ∈ nodeIds, pos' v = pos v) (h : Mints pos nodeIds s piece) :
    Mints pos' nodeIds s piece := by
  obtain ⟨left, right⟩ := Scalar.reach_mem h.reached
  have line : nodeIds.map pos' = nodeIds.map pos := List.map_congr_left same
  refine ⟨(Scalar.reach_congr same).trans h.reached, ?_, fun v listed => ?_⟩
  · unfold AtEnd
    rw [same _ left, same _ right]
    exact h.inner
  · rw [same v listed, line]
    exact h.far v listed

theorem displaces_congr (same : ∀ v ∈ nodeIds, pos' v = pos v) (listed : n ∈ nodeIds)
    (h : Displaces pos nodeIds s s' n) : Displaces pos' nodeIds s s' n := by
  obtain ⟨piece, piece', reached, mints, close, which⟩ := h
  obtain ⟨left, right⟩ := Scalar.reach_mem reached
  have line : nodeIds.map pos' = nodeIds.map pos := List.map_congr_left same
  refine ⟨piece, piece', (Scalar.reach_congr same).trans reached, mints_congr same mints, ?_, ?_⟩
  · rw [line]
    exact close
  · unfold AtEnd
    rw [line, same n listed, same _ left, same _ right]
    exact which

theorem displaces_iff (reached : reach pos 0 s nodeIds = some piece)
    (mints : Mints pos nodeIds s' piece') : Displaces pos nodeIds s s' n ↔
      Scalar.dist (curve (nodeIds.map pos) s') (curve (nodeIds.map pos) s) ≤ 1 / 4 ∧
      (piece'.index = piece.index ∧ (AtEnd pos piece →
        Scalar.dist (curve (nodeIds.map pos) s') (curve (nodeIds.map pos) s) <
            Scalar.dist (pos n) (curve (nodeIds.map pos) s) ∨
          Scalar.dist (curve (nodeIds.map pos) s') (curve (nodeIds.map pos) s) =
            Scalar.dist (pos n) (curve (nodeIds.map pos) s) ∧ piece'.remainder < piece.remainder) ∨
        piece'.index ≠ piece.index ∧ ¬AtEnd pos piece ∧ n ∉ nodeIds.take (piece'.index + 1)) := by
  constructor
  · rintro ⟨other, other', reached', mints', which⟩
    obtain rfl := Option.some.inj (reached.symm.trans reached')
    obtain rfl := Option.some.inj (mints.reached.symm.trans mints'.reached)
    exact which
  · exact fun which => ⟨piece, piece', reached, mints, which⟩

theorem find_insert {p : ℕ → Bool} {before behind : List ℕ} (apart : x ≠ n)
    (found : (before ++ behind).find? p = some n) :
    (before ++ x :: behind).find? p = some n ↔ (p x = true → n ∈ before) := by
  rw [List.find?_append] at found ⊢
  cases first : before.find? p with
  | some m =>
    rw [first] at found
    obtain rfl := Option.some.inj found
    exact iff_of_true rfl fun _ => List.mem_of_find?_eq_some first
  | none =>
    rw [first, Option.none_or] at found
    have hit := List.find?_some found
    have later : n ∉ before := fun listed => List.find?_eq_none.mp first n listed hit
    rw [Option.none_or]
    cases hit_x : p x with
    | false =>
      rw [List.find?_cons_of_neg (by rw [hit_x]; exact Bool.false_ne_true), found]
      simp
    | true =>
      rw [List.find?_cons_of_pos hit_x, Option.some.injEq]
      exact iff_of_false apart fun all => later (all rfl)

/-- A vertex on the piece itself takes over what is nearer to it than to the piece's ends. -/
theorem anchor_within {i : ℕ} {ρ u : ℝ} {p : PointM ℝ} {found found' : Option ℕ}
    (left_x : Scalar.dist (pos l) (pos x) = u)
    (x_right : Scalar.dist (pos x) (pos r) = Scalar.dist (pos l) (pos r) - u)
    (after_l : 1 / 4 < u) (before_r : 1 / 4 < Scalar.dist (pos l) (pos r) - u)
    (from_left : Scalar.dist (pos l) p = ρ)
    (from_right : Scalar.dist (pos r) p = Scalar.dist (pos l) (pos r) - ρ) (apart : x ≠ n)
    (anchored : (if AtEnd pos ⟨i, l, r, ρ⟩ then some (nearEnd pos ⟨i, l, r, ρ⟩) else found) =
      some n)
    (kept : found = some n → 1 / 4 < |u - ρ| → found' = some n) :
    (if AtEnd pos (if ρ ≤ u then ⟨i, l, x, ρ⟩ else ⟨i + 1, x, r, ρ - u⟩) then
      some (nearEnd pos (if ρ ≤ u then ⟨i, l, x, ρ⟩ else ⟨i + 1, x, r, ρ - u⟩)) else found') =
        some n ↔
      ¬(|u - ρ| ≤ 1 / 4 ∧ (AtEnd pos ⟨i, l, r, ρ⟩ →
        |u - ρ| < Scalar.dist (pos n) p ∨ |u - ρ| = Scalar.dist (pos n) p ∧ u < ρ)) := by
  rcases le_or_gt ρ u with before | behind
  · rw [if_pos before, abs_of_nonneg (sub_nonneg.mpr before)]
    rw [abs_of_nonneg (sub_nonneg.mpr before)] at kept
    by_cases at_left : ρ ≤ 1 / 4
    · -- the anchor is the left end
      have old_end : AtEnd pos ⟨i, l, r, ρ⟩ := .inl at_left
      have new_end : AtEnd pos ⟨i, l, x, ρ⟩ := .inl at_left
      rw [if_pos old_end, nearEnd, if_pos (by dsimp only; linarith)] at anchored
      obtain rfl := Option.some.inj anchored
      rw [if_pos new_end, nearEnd, left_x, from_left, Option.some.injEq]
      dsimp only
      by_cases first : ρ ≤ u - ρ
      · rw [if_pos first]
        refine iff_of_true rfl fun ⟨_, nearer⟩ => ?_
        rcases nearer old_end with nearer | ⟨-, nearer⟩ <;> linarith
      · rw [if_neg first]
        rw [not_le] at first
        exact iff_of_false apart fun stays => stays ⟨by linarith, fun _ => .inl first⟩
    · have inner : ¬AtEnd pos ⟨i, l, r, ρ⟩ := by
        rintro (close | close) <;> dsimp only at close <;> linarith
      rw [if_neg inner] at anchored
      have ends : AtEnd pos ⟨i, l, x, ρ⟩ ↔ u - ρ ≤ 1 / 4 := by
        unfold AtEnd
        rw [left_x]
        exact or_iff_right at_left
      by_cases at_x : u - ρ ≤ 1 / 4
      · rw [if_pos (ends.mpr at_x), nearEnd, left_x, if_neg (by dsimp only; linarith),
          Option.some.injEq]
        exact iff_of_false apart fun stays => stays ⟨at_x, fun at_end => absurd at_end inner⟩
      · rw [if_neg (mt ends.mp at_x)]
        exact iff_of_true (kept anchored (not_le.mp at_x)) fun ⟨close, _⟩ => at_x close
  · rw [if_neg (not_le.mpr behind), abs_sub_comm, abs_of_pos (sub_pos.mpr behind)]
    rw [abs_sub_comm, abs_of_pos (sub_pos.mpr behind)] at kept
    have rest : Scalar.dist (pos l) (pos r) - u - (ρ - u) = Scalar.dist (pos l) (pos r) - ρ := by
      ring
    by_cases at_right : Scalar.dist (pos l) (pos r) - ρ ≤ 1 / 4
    · -- the anchor is the right end
      have old_end : AtEnd pos ⟨i, l, r, ρ⟩ := .inr at_right
      have new_end : AtEnd pos ⟨i + 1, x, r, ρ - u⟩ := by
        unfold AtEnd
        rw [x_right, rest]
        exact .inr at_right
      rw [if_pos old_end, nearEnd, if_neg (by dsimp only; linarith)] at anchored
      obtain rfl := Option.some.inj anchored
      rw [if_pos new_end, nearEnd, x_right, rest, from_right, Option.some.injEq]
      dsimp only
      by_cases first : ρ - u ≤ Scalar.dist (pos l) (pos r) - ρ
      · rw [if_pos first]
        refine iff_of_false apart fun stays => stays ⟨by linarith, fun _ => ?_⟩
        exact first.lt_or_eq.imp_right fun same => ⟨same, behind⟩
      · rw [if_neg first]
        refine iff_of_true rfl fun ⟨_, nearer⟩ => ?_
        rcases nearer old_end with nearer | ⟨nearer, -⟩ <;> linarith
    · have inner : ¬AtEnd pos ⟨i, l, r, ρ⟩ := by
        rintro (close | close) <;> dsimp only at close <;> linarith
      rw [if_neg inner] at anchored
      have ends : AtEnd pos ⟨i + 1, x, r, ρ - u⟩ ↔ ρ - u ≤ 1 / 4 := by
        unfold AtEnd
        rw [x_right, rest]
        exact or_iff_left at_right
      by_cases at_x : ρ - u ≤ 1 / 4
      · rw [if_pos (ends.mpr at_x), nearEnd, x_right, rest, if_pos (by dsimp only; linarith),
          Option.some.injEq]
        exact iff_of_false apart fun stays => stays ⟨at_x, fun at_end => absurd at_end inner⟩
      · rw [if_neg (mt ends.mp at_x)]
        exact iff_of_true (kept anchored (not_le.mp at_x)) fun ⟨close, _⟩ => at_x close

theorem reach_minted (nonneg' : 0 ≤ s') (mints : Mints pos nodeIds s' piece')
    (split : nodeIds = front ++ piece'.left :: piece'.right :: rest)
    (at_x : pos x = curve (nodeIds.map pos) s') :
    reach pos 0 s (front ++ piece'.left :: x :: piece'.right :: rest) =
        (reach pos 0 s nodeIds).map (Piece.insert front.length x piece'.remainder) ∧
      curve ((front ++ piece'.left :: x :: piece'.right :: rest).map pos) s =
        curve (nodeIds.map pos) s := by
  obtain ⟨-, long, -, point⟩ := Scalar.reach_spec nonneg' mints.reached
  obtain ⟨after_l, before_r⟩ := not_or.mp mints.inner
  rw [not_le] at after_l before_r
  have inner_l : 0 < piece'.remainder / Scalar.dist (pos piece'.left) (pos piece'.right) :=
    div_pos (by linarith) long
  have inner_r : piece'.remainder / Scalar.dist (pos piece'.left) (pos piece'.right) < 1 :=
    (div_lt_one long).mpr (by linarith)
  constructor
  · have inserted : reach pos 0 s (front ++ piece'.left :: x :: piece'.right :: rest) = _ :=
      Scalar.reach_insert long inner_l inner_r (at_x.trans point)
    rw [div_mul_cancel₀ _ long.ne', Nat.zero_add, ← split] at inserted
    exact inserted
  · rw [split, List.map_append, List.map_append, List.map_cons, List.map_cons, List.map_cons,
      List.map_cons, List.map_cons, at_x, point]
    exact Scalar.curve_insert long inner_l inner_r s

theorem anchor_own (nonneg' : 0 ≤ s') (mints : Mints pos nodeIds s' piece')
    (split : nodeIds = front ++ piece'.left :: piece'.right :: rest)
    (place : piece'.index = front.length) (at_x : pos x = curve (nodeIds.map pos) s') :
    anchorOf pos (front ++ piece'.left :: x :: piece'.right :: rest) last s' = some x := by
  obtain ⟨-, long, -, point⟩ := Scalar.reach_spec nonneg' mints.reached
  obtain ⟨after_l, before_r⟩ := not_or.mp mints.inner
  rw [not_le] at after_l before_r
  have left_x : Scalar.dist (pos piece'.left) (pos x) = piece'.remainder := by
    rw [at_x, point, Scalar.dist_along_left, abs_of_pos (div_pos (by linarith) long),
      div_mul_cancel₀ _ long.ne']
  unfold anchorOf
  rw [(reach_minted nonneg' mints split at_x).1, mints.reached, Option.map_some, Piece.insert,
    if_neg (by omega), if_pos place, if_pos le_rfl]
  dsimp only
  have at_end : AtEnd pos { piece' with right := x } := by
    unfold AtEnd
    rw [left_x]
    exact .inr (by norm_num)
  rw [if_pos at_end, nearEnd, left_x, if_neg (by dsimp only; linarith)]

theorem anchor_insert (nonneg : 0 ≤ s) (nonneg' : 0 ≤ s') (mints : Mints pos nodeIds s' piece')
    (split : nodeIds = front ++ piece'.left :: piece'.right :: rest)
    (place : piece'.index = front.length) (at_x : pos x = curve (nodeIds.map pos) s')
    (apart : x ≠ n) (anchored : anchorOf pos nodeIds last s = some n) :
    anchorOf pos (front ++ piece'.left :: x :: piece'.right :: rest) last s = some n ↔
      ¬Displaces pos nodeIds s s' n := by
  obtain ⟨-, long, -, point⟩ := Scalar.reach_spec nonneg' mints.reached
  obtain ⟨after_l, before_r⟩ := not_or.mp mints.inner
  rw [not_le] at after_l before_r
  have inner_l : 0 < piece'.remainder / Scalar.dist (pos piece'.left) (pos piece'.right) :=
    div_pos (by linarith) long
  have inner_r : piece'.remainder / Scalar.dist (pos piece'.left) (pos piece'.right) < 1 :=
    (div_lt_one long).mpr (by linarith)
  obtain ⟨reached_new, curve_new⟩ := reach_minted (s := s) nonneg' mints split at_x
  -- what a search of the new vertices finds
  have searched : nodeIds.find? (near pos (curve (nodeIds.map pos) s)) = some n →
      ((front ++ piece'.left :: x :: piece'.right :: rest).find?
        (near pos (curve (nodeIds.map pos) s)) = some n ↔
      (Scalar.dist (curve (nodeIds.map pos) s') (curve (nodeIds.map pos) s) ≤ 1 / 4 →
        n ∈ nodeIds.take (piece'.index + 1))) := by
    intro found
    have cut : nodeIds = (front ++ [piece'.left]) ++ piece'.right :: rest := by rw [split]; simp
    have taken : nodeIds.take (piece'.index + 1) = front ++ [piece'.left] := by
      rw [cut]
      exact List.take_left' (by rw [place, List.length_append, List.length_singleton])
    have added : front ++ piece'.left :: x :: piece'.right :: rest =
        (front ++ [piece'.left]) ++ x :: piece'.right :: rest := by simp
    rw [added, taken]
    rw [cut] at found
    refine (find_insert apart (cut ▸ found)).trans ?_
    unfold near
    rw [at_x, decide_eq_true_eq]
  unfold anchorOf at anchored ⊢
  rw [reached_new, curve_new]
  cases reached : reach pos 0 s nodeIds with
  | none =>
    rw [reached] at anchored
    refine iff_of_true anchored ?_
    rintro ⟨piece, -, reached', -⟩
    rw [reached] at reached'
    cases reached'
  | some piece =>
    rw [reached] at anchored
    rw [displaces_iff reached mints, Option.map_some]
    dsimp only at anchored ⊢
    by_cases here : piece.index = front.length
    · -- both arc lengths lie on one piece
      have reaches := Scalar.reach_spec nonneg reached
      obtain ⟨from_left, from_right⟩ := reaches.dists
      obtain ⟨⟨front', rest', split', place'⟩, -, -, point'⟩ := reaches
      have lists := List.append_inj (split.symm.trans split') (by omega)
      obtain ⟨left, tail⟩ := List.cons.inj lists.2
      obtain ⟨right, -⟩ := List.cons.inj tail
      obtain ⟨i, l, r, ρ⟩ := piece
      dsimp only at here left right point' from_left from_right
      subst left right here
      have between : Scalar.dist (curve (nodeIds.map pos) s') (curve (nodeIds.map pos) s) =
          |piece'.remainder - ρ| := by
        rw [point, point', Scalar.dist_along, ← sub_div, abs_div, abs_of_pos long,
          div_mul_cancel₀ _ long.ne']
      have left_x : Scalar.dist (pos piece'.left) (pos x) = piece'.remainder := by
        rw [at_x, point, Scalar.dist_along_left, abs_of_pos inner_l, div_mul_cancel₀ _ long.ne']
      have x_right : Scalar.dist (pos x) (pos piece'.right) =
          Scalar.dist (pos piece'.left) (pos piece'.right) - piece'.remainder := by
        rw [at_x, point, Scalar.dist_along_right, abs_of_pos (sub_pos.mpr inner_r), sub_mul,
          one_mul, div_mul_cancel₀ _ long.ne']
      have moved : Piece.insert front.length x piece'.remainder
          ⟨front.length, piece'.left, piece'.right, ρ⟩ =
          if ρ ≤ piece'.remainder then ⟨front.length, piece'.left, x, ρ⟩
          else ⟨front.length + 1, x, piece'.right, ρ - piece'.remainder⟩ := by
        unfold Piece.insert
        rw [if_neg (lt_irrefl _), if_pos rfl]
      rw [between] at searched ⊢
      rw [moved]
      refine (anchor_within left_x x_right after_l before_r from_left from_right apart anchored
        fun found far => (searched found).mpr fun close => absurd close (not_le.mpr far)).trans
          (not_congr (and_congr_right fun _ => ?_))
      exact ⟨fun nearer => .inl ⟨place, nearer⟩, fun nearer => nearer.elim And.right
        fun other => absurd place other.1⟩
    · -- the piece keeps its ends
      have kept : (Piece.insert front.length x piece'.remainder piece).left = piece.left ∧
          (Piece.insert front.length x piece'.remainder piece).right = piece.right ∧
          (Piece.insert front.length x piece'.remainder piece).remainder = piece.remainder := by
        unfold Piece.insert
        rw [if_neg here]
        split <;> exact ⟨rfl, rfl, rfl⟩
      have at_end : AtEnd pos (Piece.insert front.length x piece'.remainder piece) ↔
          AtEnd pos piece := by
        unfold AtEnd
        rw [kept.1, kept.2.1, kept.2.2]
      have nearer_end : nearEnd pos (Piece.insert front.length x piece'.remainder piece) =
          nearEnd pos piece := by
        unfold nearEnd
        rw [kept.1, kept.2.1, kept.2.2]
      have elsewhere : piece'.index ≠ piece.index := fun same => here (same ▸ place)
      by_cases near_end : AtEnd pos piece
      · rw [if_pos (at_end.mpr near_end), nearer_end]
        rw [if_pos near_end] at anchored
        refine iff_of_true anchored ?_
        rintro ⟨-, ⟨same, -⟩ | ⟨-, inner, -⟩⟩
        · exact elsewhere same
        · exact inner near_end
      · rw [if_neg (mt at_end.mp near_end)]
        rw [if_neg near_end] at anchored
        rw [searched anchored]
        constructor
        · rintro before ⟨close, ⟨same, -⟩ | ⟨-, -, later⟩⟩
          · exact elsewhere same
          · exact later (before close)
        · intro kept_first close
          by_contra later
          exact kept_first ⟨close, .inr ⟨elsewhere, near_end, later⟩⟩

end Anchors

section Steps

variable {b b' : StreetTopologyBuilder ℝ} {nodeIds : List ℕ} {last n streetId : ℕ} {s s' : ℝ}
  {street_id : ℤ} {piece : Piece ℕ} {street : Street}

theorem weld_place_at_end (at_end : AtEnd b.pointOf piece) :
    b.weldPlace piece = .vertex (nearEnd b.pointOf piece) := by
  unfold weldPlace nearEnd
  dsimp only
  rcases at_end with close | close
  · by_cases both : Scalar.dist (b.pointOf piece.left) (b.pointOf piece.right) -
        piece.remainder ≤ 1 / 4
    · rw [if_pos ⟨close, both⟩]
    · rw [if_neg fun ends => both ends.2, if_pos close, if_pos (by linarith)]
  · by_cases both : piece.remainder ≤ 1 / 4
    · rw [if_pos ⟨both, close⟩]
    · rw [if_neg fun ends => both ends.1, if_neg both, if_pos close, if_neg (by linarith)]

theorem weld_place_inner (inner : ¬AtEnd b.pointOf piece) :
    b.weldPlace piece = .inside piece.index
      (Scalar.along (b.pointOf piece.left) (b.pointOf piece.right)
        (piece.remainder / Scalar.dist (b.pointOf piece.left) (b.pointOf piece.right))) := by
  obtain ⟨left, right⟩ := not_or.mp inner
  unfold weldPlace
  dsimp only
  rw [if_neg fun ends => left ends.1, if_neg left, if_neg right]

theorem found_vertex_iff {found : Option ℕ} {index : ℕ} {point : PointM ℝ} :
    (match found with
      | some existing => SplitPlace.vertex existing
      | none => .inside index point) = .vertex n ↔ found = some n := by
  cases found with
  | none => simp
  | some existing => rw [SplitPlace.vertex.injEq, Option.some.injEq]

theorem resolved_vertex_iff (nonneg : 0 ≤ s) : b.resolved nodeIds last s = .vertex n ↔
    anchorOf b.pointOf nodeIds last s = some n := by
  unfold resolved anchorOf
  cases reached : reach b.pointOf 0 s nodeIds with
  | none => rw [SplitPlace.vertex.injEq, Option.some.injEq]
  | some piece =>
    dsimp only
    by_cases at_end : AtEnd b.pointOf piece
    · rw [weld_place_at_end at_end, if_pos at_end, SplitPlace.vertex.injEq, Option.some.injEq]
    · rw [weld_place_inner at_end, if_neg at_end,
        ← (Scalar.reach_spec nonneg reached).point]
      dsimp only
      exact found_vertex_iff

/-- A split of a street at an arc length that is not refused. -/
structure Accepts (b : StreetTopologyBuilder ℝ) (street_id : ℤ) (street : Street) (s : ℝ) :
    Prop where
  street_ok : b.requireStreet street_id = .ok street
  nonneg : 0 ≤ s
  within : s ≤ b.arcLengthOf street + 1 / 4

theorem split_accepts (h : splitAtArcLength street_id s b = (.ok n, b')) :
    ∃ street, Accepts b street_id street s := by
  obtain ⟨place, mid, read, -⟩ := Call.bind_returns.mp h
  obtain ⟨found, -⟩ := Call.query_returns.mp read
  unfold splitPlace at found
  obtain ⟨street, street_ok, found⟩ := bind_ok.mp found
  dsimp only at found
  split at found
  · cases found
  rename_i finite
  split at found
  · cases found
  rename_i within
  rw [weld_tolerance_real, not_lt] at within
  exact ⟨street, street_ok, not_lt.mp fun negative => finite (.inr negative), within⟩

theorem Mints.no_anchor (h : Mints b.pointOf nodeIds s piece) :
    anchorOf b.pointOf nodeIds last s = none := by
  unfold anchorOf
  rw [h.reached]
  dsimp only
  rw [if_neg h.inner, List.find?_eq_none]
  intro nodeId listed
  unfold near
  rw [decide_eq_true_eq, not_le]
  exact h.far nodeId listed

theorem Mints.accepts (h : Mints b.pointOf street.nodeIds s piece)
    (street_ok : b.requireStreet street_id = .ok street) : Accepts b street_id street s := by
  obtain ⟨after_l, before_r⟩ := not_or.mp h.inner
  rw [not_le] at after_l before_r
  obtain ⟨low, high⟩ := Scalar.reach_within h.reached
  refine ⟨street_ok, by linarith, ?_⟩
  change s ≤ Scalar.pathLength (street.nodeIds.map b.pointOf) + 1 / 4
  linarith

theorem split_outcome (accepts : Accepts b street_id street s)
    (ends : street.nodeIds.getLast? = some last) :
    (∃ n, anchorOf b.pointOf street.nodeIds last s = some n ∧
      splitAtArcLength street_id s b = (.ok n, b)) ∨
    ∃ piece front rest, Mints b.pointOf street.nodeIds s piece ∧
      street.nodeIds = front ++ piece.left :: piece.right :: rest ∧ piece.index = front.length ∧
      splitAtArcLength street_id s b = (.ok b.points.length,
        b.minted street_id.toNat front.length (curve (street.nodeIds.map b.pointOf) s)) := by
  rcases split_result accepts.street_ok accepts.nonneg accepts.within ends with
    ⟨n, -, resolved, -, result⟩ |
    ⟨piece, front, rest, reached, split, place, left, right, far, result⟩
  · exact .inl ⟨n, (resolved_vertex_iff accepts.nonneg).mp resolved, result⟩
  · refine .inr ⟨piece, front, rest, ⟨reached, ?_, far⟩, split, place, result⟩
    exact not_or.mpr ⟨not_le.mpr left, not_le.mpr right⟩

theorem anchored_iff (accepts : Accepts b street_id street s)
    (ends : street.nodeIds.getLast? = some last) :
    splitAtArcLength street_id s b = (.ok n, b) ↔
      anchorOf b.pointOf street.nodeIds last s = some n := by
  rcases split_outcome accepts ends with
    ⟨m, anchor, result⟩ | ⟨piece, front, rest, mints, -, -, result⟩
  · rw [anchor, result, Prod.mk.injEq, Except.ok.injEq, Option.some.injEq]
    exact and_iff_left rfl
  · rw [mints.no_anchor, result]
    refine iff_of_false (fun same => ?_) (fun none => nomatch none)
    have count := congrArg (fun result => result.2.points.length) same
    dsimp only at count
    rw [minted_points, List.length_append, List.length_singleton] at count
    omega

theorem require_street_iff : b.requireStreet street_id = .ok street ↔
    0 ≤ street_id ∧ b.streets[street_id.toNat]? = some street := by
  unfold requireStreet
  by_cases nonneg : 0 ≤ street_id
  · rw [if_pos nonneg, and_iff_right nonneg]
    cases b.streets[street_id.toNat]? with
    | none => exact iff_of_false (fun same => nomatch same) (fun same => nomatch same)
    | some other => rw [Except.ok.injEq, Option.some.injEq]
  · rw [if_neg nonneg]
    exact iff_of_false (fun same => nomatch same) fun same => nonneg same.1

theorem Accepts.elsewhere {place : ℕ} {x : PointM ℝ} (accepts : Accepts b street_id street s)
    (kept : Incidence b) (apart : street_id.toNat ≠ streetId) :
    Accepts (b.minted streetId place x) street_id street s := by
  obtain ⟨known, found⟩ := require_street_iff.mp accepts.street_ok
  refine ⟨require_street_iff.mpr ⟨known, ?_⟩, accepts.nonneg, ?_⟩
  · unfold minted
    rw [with_node_on_elsewhere apart]
    exact found
  · have line : (b.minted streetId place x).pointsOf street = b.pointsOf street :=
      List.map_congr_left fun v listed =>
        minted_point_old (kept.known street (List.mem_of_getElem? found) v listed)
    unfold arcLengthOf
    rw [line]
    exact accepts.within

theorem Accepts.here {front rest : List ℕ} (accepts : Accepts b street_id street s)
    (accepts' : Accepts b street_id street s')
    (kept : Incidence b) (mints : Mints b.pointOf street.nodeIds s' piece)
    (split : street.nodeIds = front ++ piece.left :: piece.right :: rest) :
    ∃ street1, street1.nodeIds = front ++ piece.left :: b.points.length :: piece.right :: rest ∧
      Accepts (b.minted street_id.toNat front.length (curve (street.nodeIds.map b.pointOf) s'))
        street_id street1 s := by
  obtain ⟨known, found⟩ := require_street_iff.mp accepts.street_ok
  obtain ⟨-, long, -, point⟩ := Scalar.reach_spec accepts'.nonneg mints.reached
  obtain ⟨after_l, before_r⟩ := not_or.mp mints.inner
  rw [not_le] at after_l before_r
  set x := curve (street.nodeIds.map b.pointOf) s' with at_x
  have after : (b.minted street_id.toNat front.length x).streets[street_id.toNat]? =
      some { street with
        nodeIds := street.nodeIds.insertIdx (front.length + 1) b.points.length } :=
    (with_node_on_street (b := b.withNode x) found).mpr (.inr ⟨rfl, rfl⟩)
  obtain ⟨old_line, new_line⟩ := minted_line (x := x) kept found split
  refine ⟨_, ?_, require_street_iff.mpr ⟨known, after⟩, accepts.nonneg, ?_⟩
  · dsimp only
    rw [split, insert_idx_between]
  · have line : (b.minted street_id.toNat front.length x).arcLengthOf { street with
        nodeIds := street.nodeIds.insertIdx (front.length + 1) b.points.length } =
        Scalar.pathLength ((b.minted street_id.toNat front.length x).polyline street_id.toNat) := by
      rw [polyline, node_ids_of_found after]
      rfl
    have before : b.arcLengthOf street = Scalar.pathLength (b.polyline street_id.toNat) := by
      rw [polyline, node_ids_of_found found]
      rfl
    rw [line, new_line, point, Scalar.path_length_insert (div_pos (by linarith) long)
      ((div_lt_one long).mpr (by linarith)), ← old_line, ← before]
    exact accepts.within

/-- A later split displaces the anchor of an arc length. -/
def DisplacedBy (b : StreetTopologyBuilder ℝ) (street_id : ℤ) (s : ℝ) (n : ℕ) (step : ℤ × ℝ) :
    Prop :=
  step.1 = street_id ∧ Displaces b.pointOf (b.nodeIdsOf street_id.toNat) s step.2 n

theorem anchor_step (kept : Incidence b) (anchored : splitAtArcLength street_id s b = (.ok n, b))
    {step : ℤ × ℝ} : splitAtArcLength street_id s (splitAtArcLength step.1 step.2 b).2 =
        (.ok n, (splitAtArcLength step.1 step.2 b).2) ↔ ¬b.DisplacedBy street_id s n step := by
  obtain ⟨street, accepts⟩ := split_accepts anchored
  obtain ⟨known, found⟩ := require_street_iff.mp accepts.street_ok
  obtain ⟨last, ends⟩ := street_last kept found
  have anchor := (anchored_iff accepts ends).mp anchored
  have displaced : b.DisplacedBy street_id s n step ↔ step.1 = street_id ∧
      Displaces b.pointOf street.nodeIds s step.2 n := by
    unfold DisplacedBy
    rw [node_ids_of_found found]
  rw [displaced]
  rcases run : splitAtArcLength step.1 step.2 b with ⟨e | m, b'⟩
  · obtain rfl := split_clean b _ _ run
    refine iff_of_true anchored ?_
    rintro ⟨same, piece, piece', -, mints, -⟩
    rw [same] at run
    rcases split_outcome (mints.accepts accepts.street_ok) ends with ⟨_, -, result⟩ | ⟨_, _, _, -, -, -, result⟩ <;>
      rw [run] at result <;> cases result
  obtain ⟨street', accepts'⟩ := split_accepts run
  obtain ⟨known', found'⟩ := require_street_iff.mp accepts'.street_ok
  obtain ⟨last', ends'⟩ := street_last kept found'
  rcases split_outcome accepts' ends' with
    ⟨_, anchor', result⟩ | ⟨piece, front, rest, mints, split, place, result⟩
  · rw [run] at result
    obtain ⟨-, rfl⟩ := Prod.mk.inj result
    refine iff_of_true anchored ?_
    rintro ⟨same, piece, piece', -, mints, -⟩
    obtain rfl : street = street' :=
      Except.ok.inj (accepts.street_ok.symm.trans (same ▸ accepts'.street_ok))
    rw [mints.no_anchor] at anchor'
    cases anchor'
  rw [run] at result
  obtain ⟨-, rfl⟩ := Prod.mk.inj result
  by_cases same : step.1 = street_id
  · -- a vertex on the street itself
    rw [and_iff_right same]
    rw [same] at accepts' ⊢
    obtain rfl : street = street' :=
      Except.ok.inj (accepts.street_ok.symm.trans accepts'.street_ok)
    have listed := anchor_mem ends anchor
    have old : ∀ v ∈ street.nodeIds, (b.minted street_id.toNat front.length
        (curve (street.nodeIds.map b.pointOf) step.2)).pointOf v = b.pointOf v := fun v listed =>
      minted_point_old (kept.known street (List.mem_of_getElem? found) v listed)
    obtain ⟨street1, new_ids, accepts1⟩ := accepts.here accepts' kept mints split
    have ends1 : street1.nodeIds.getLast? = some last := by
      rw [new_ids]
      rw [split] at ends
      simpa using ends
    rw [anchored_iff accepts1 ends1, new_ids]
    refine (anchor_insert accepts.nonneg accepts'.nonneg (mints_congr old mints) split place ?_ ?_
      ((anchor_congr old).trans anchor)).trans (not_congr ⟨?_, displaces_congr old listed⟩)
    · rw [minted_point_new, List.map_congr_left old]
    · exact (kept.known street (List.mem_of_getElem? found) n listed).ne'
    · exact displaces_congr (fun v listed => (old v listed).symm) listed
  · -- a vertex on another street
    have apart : street_id.toNat ≠ step.1.toNat := by omega
    refine iff_of_true ((anchored_iff (accepts.elsewhere kept apart) ends).mpr ?_)
      fun displaced => same displaced.1
    rw [anchor_congr fun v listed => minted_point_old
      (kept.known street (List.mem_of_getElem? found) v listed)]
    exact anchor

theorem split_again (kept : Incidence b) (h : splitAtArcLength street_id s b = (.ok n, b')) :
    splitAtArcLength street_id s b' = (.ok n, b') := by
  obtain ⟨street, accepts⟩ := split_accepts h
  obtain ⟨known, found⟩ := require_street_iff.mp accepts.street_ok
  obtain ⟨last, ends⟩ := street_last kept found
  rcases split_outcome accepts ends with
    ⟨m, anchor, result⟩ | ⟨piece, front, rest, mints, split, place, result⟩
  · rw [h] at result
    obtain ⟨-, rfl⟩ := Prod.mk.inj result
    exact h
  · rw [h] at result
    obtain ⟨same, rfl⟩ := Prod.mk.inj result
    obtain rfl := Except.ok.inj same
    have old : ∀ v ∈ street.nodeIds, (b.minted street_id.toNat front.length
        (curve (street.nodeIds.map b.pointOf) s)).pointOf v = b.pointOf v := fun v listed =>
      minted_point_old (kept.known street (List.mem_of_getElem? found) v listed)
    obtain ⟨street1, new_ids, accepts1⟩ := accepts.here accepts kept mints split
    have ends1 : street1.nodeIds.getLast? = some last := by
      rw [new_ids]
      rw [split] at ends
      simpa using ends
    rw [anchored_iff accepts1 ends1, new_ids]
    refine anchor_own accepts.nonneg (mints_congr old mints) split place ?_
    rw [minted_point_new, List.map_congr_left old]

theorem split_incidence (kept : Incidence b) :
    Incidence (splitAtArcLength street_id s b).2 := by
  rcases run : splitAtArcLength street_id s b with ⟨e | m, b'⟩
  · obtain rfl := split_clean b _ _ run
    exact kept
  · exact kept.changes (split_returns kept run)

/-- The state after some splits, whether each of them returned or raised. -/
noncomputable def splits (b : StreetTopologyBuilder ℝ) (steps : List (ℤ × ℝ)) :
    StreetTopologyBuilder ℝ :=
  steps.foldl (fun b step => (splitAtArcLength step.1 step.2 b).2) b

theorem splits_snoc (steps : List (ℤ × ℝ)) (step : ℤ × ℝ) :
    b.splits (steps ++ [step]) = (splitAtArcLength step.1 step.2 (b.splits steps)).2 := by
  unfold splits
  rw [List.foldl_append]
  rfl

theorem splits_incidence (kept : Incidence b) (steps : List (ℤ × ℝ)) :
    Incidence (b.splits steps) := by
  induction steps using List.reverseRecOn with
  | nil => exact kept
  | append_singleton steps step ih =>
    rw [splits_snoc]
    exact split_incidence ih

end Steps

section Kilometre

variable {s : ℝ}

noncomputable def kilometre : StreetTopologyBuilder ℝ :=
  after [.openStreet [(0, 0), (1000, 0)] none 0]

theorem kilometre_length : Scalar.dist (kilometre.pointOf 0) (kilometre.pointOf 1) = 1000 := by
  change Real.sqrt ((0 - 1000) ^ 2 + (0 - 0) ^ 2) = 1000
  rw [show ((0 : ℝ) - 1000) ^ 2 + (0 - 0) ^ 2 = 1000 ^ 2 by norm_num, Real.sqrt_sq (by norm_num)]

theorem kilometre_reach (within : s ≤ 1000) :
    reach kilometre.pointOf 0 s [0, 1] = some ⟨0, 0, 1, s⟩ := by
  unfold reach
  rw [kilometre_length, if_neg (by norm_num), if_neg (not_lt.mpr within)]

theorem kilometre_accepts (nonneg : 0 ≤ s) (within : s ≤ 1000) :
    Accepts kilometre 0 ⟨0, [0, 1], 0⟩ s := by
  obtain ⟨-, whole⟩ := Scalar.reach_within (kilometre_reach within)
  dsimp only at whole
  rw [kilometre_length] at whole
  refine ⟨rfl, nonneg, ?_⟩
  change s ≤ Scalar.pathLength ([0, 1].map kilometre.pointOf) + 1 / 4
  linarith

theorem kilometre_curve (nonneg : 0 ≤ s) (within : s ≤ 1000) :
    Scalar.dist (kilometre.pointOf 0) (curve ([0, 1].map kilometre.pointOf) s) = s ∧
      Scalar.dist (kilometre.pointOf 1) (curve ([0, 1].map kilometre.pointOf) s) = 1000 - s := by
  obtain ⟨from_left, from_right⟩ := (Scalar.reach_spec nonneg (kilometre_reach within)).dists
  dsimp only at from_left from_right
  rw [kilometre_length] at from_right
  exact ⟨from_left, from_right⟩

theorem kilometre_anchor (nonneg : 0 ≤ s) (near : s ≤ 1 / 4) :
    splitAtArcLength 0 s kilometre = (.ok 0, kilometre) := by
  refine (anchored_iff (kilometre_accepts nonneg (by linarith)) rfl).mpr ?_
  have at_end : AtEnd kilometre.pointOf ⟨0, 0, 1, s⟩ := .inl near
  unfold anchorOf
  rw [kilometre_reach (by linarith)]
  dsimp only
  rw [if_pos at_end, nearEnd, kilometre_length, if_pos (by dsimp only; linarith)]

end Kilometre

end Metroflow.City.StreetTopologyBuilder
