import Metroflow.Lib.Angles
import Metroflow.Lib.Keyed

namespace Metroflow.City.Rays

open Metroflow.Lib

section Model

/-- 0 from the first axis up to its other side, 1 from there on. -/
def rayHalf (ray : ℤ × ℤ) : ℤ :=
  if 0 < ray.2 ∨ ray.2 = 0 ∧ 0 ≤ ray.1 then 0 else 1

def squaredLength (ray : ℤ × ℤ) : ℤ := ray.1 * ray.1 + ray.2 * ray.2

def compareRays (left right : ℤ × ℤ) : ℤ :=
  if rayHalf left ≠ rayHalf right then
    if rayHalf left < rayHalf right then -1 else 1
  else
    let cross := left.1 * right.2 - left.2 * right.1
    if cross ≠ 0 then
      if 0 < cross then -1 else 1
    else
      (if squaredLength right < squaredLength left then 1 else 0) -
        (if squaredLength left < squaredLength right then 1 else 0)

/-- `half_edge_ids.sort(key=cmp_to_key(...))`, where `ray` is the ray of a half-edge. -/
def sortByRay {α : Type*} (ray : α → ℤ × ℤ) (halfEdgeIds : List α) : List α :=
  halfEdgeIds.mergeSort fun left right => compareRays (ray left) (ray right) ≤ 0

end Model

section Order

variable {v w u : ℤ × ℤ}

noncomputable def onPlane (ray : ℤ × ℤ) : ℝ × ℝ := (ray.1, ray.2)

/-- The angle of a ray over the full turn, and then its length. -/
noncomputable def rayKey (ray : ℤ × ℤ) : ℝ ×ₗ ℤ :=
  toLex (angle (onPlane ray), squaredLength ray)

theorem on_plane_ne (h : v ≠ 0) : onPlane v ≠ 0 := by
  intro zero
  obtain ⟨x, y⟩ := Prod.mk.inj zero
  exact h (Prod.ext (Int.cast_eq_zero.mp x) (Int.cast_eq_zero.mp y))

theorem ray_half_iff (h : v ≠ 0) : rayHalf v = 0 ↔ angle (onPlane v) < Real.pi := by
  rw [angle_lt_pi_iff (on_plane_ne h)]
  unfold rayHalf onPlane
  norm_cast
  split <;> simp_all

theorem ray_half_cases (v : ℤ × ℤ) : rayHalf v = 0 ∨ rayHalf v = 1 := by
  unfold rayHalf
  split
  · exact .inl rfl
  · exact .inr rfl

theorem ray_half_lt (h : v ≠ 0) (h' : w ≠ 0) (less : rayHalf v < rayHalf w) :
    angle (onPlane v) < angle (onPlane w) := by
  have upper : rayHalf v = 0 := by
    rcases ray_half_cases v with zero | one
    · exact zero
    · rcases ray_half_cases w with zero | one' <;> omega
  have lower : ¬ rayHalf w = 0 := by omega
  exact ((ray_half_iff h).mp upper).trans_le (not_lt.mp (mt (ray_half_iff h').mpr lower))

theorem cross_iff (h : v ≠ 0) (h' : w ≠ 0) (same : rayHalf v = rayHalf w) :
    (0 < v.1 * w.2 - v.2 * w.1 ↔ angle (onPlane v) < angle (onPlane w)) ∧
      (v.1 * w.2 - v.2 * w.1 = 0 ↔ angle (onPlane v) = angle (onPlane w)) := by
  have turned := cross_pos_iff (on_plane_ne h) (on_plane_ne h')
    ((ray_half_iff h).symm.trans ((Eq.congr_left same).trans (ray_half_iff h')))
  unfold onPlane at turned ⊢
  dsimp only at turned
  norm_cast at turned

theorem compare_rays_eq (h : v ≠ 0) (h' : w ≠ 0) : compareRays v w =
    if rayKey v < rayKey w then -1 else if rayKey w < rayKey v then 1 else 0 := by
  have before : ∀ {a b : ℤ × ℤ}, angle (onPlane a) < angle (onPlane b) → rayKey a < rayKey b :=
    fun less => Prod.Lex.toLex_lt_toLex.mpr (.inl less)
  unfold compareRays
  split
  · rename_i halves
    split
    · rename_i less
      rw [if_pos (before (ray_half_lt h h' less))]
    · rename_i less
      have after := before (ray_half_lt h' h (by omega))
      rw [if_neg after.asymm, if_pos after]
  · rename_i halves
    obtain ⟨left, level⟩ := cross_iff h h' (not_not.mp halves)
    dsimp only
    split
    · rename_i turned
      split
      · rename_i positive
        rw [if_pos (before (left.mp positive))]
      · rename_i positive
        have after : angle (onPlane w) < angle (onPlane v) :=
          lt_of_le_of_ne (not_lt.mp (mt left.mpr positive)) (Ne.symm (mt level.mpr turned))
        rw [if_neg (before after).asymm, if_pos (before after)]
    · rename_i flat
      have equal := level.mp (not_not.mp flat)
      have lengths : ∀ {a b : ℤ × ℤ}, angle (onPlane a) = angle (onPlane b) →
          (rayKey a < rayKey b ↔ squaredLength a < squaredLength b) := by
        intro a b same
        unfold rayKey
        rw [Prod.Lex.toLex_lt_toLex, same]
        simp
      simp only [lengths equal, lengths equal.symm]
      grind

theorem ray_key_inj (h : v ≠ 0) (h' : w ≠ 0) (same : rayKey v = rayKey w) : v = w := by
  obtain ⟨angles, lengths⟩ := Prod.mk.inj (toLex_inj.mp same)
  obtain ⟨parallel, forward⟩ :=
    same_direction_iff.mpr ⟨on_plane_ne h, on_plane_ne h', angles⟩
  unfold onPlane at parallel forward
  unfold squaredLength at lengths
  norm_cast at parallel forward
  obtain ⟨a, b⟩ := v
  obtain ⟨c, d⟩ := w
  dsimp only at parallel forward lengths
  norm_cast at parallel forward
  -- equal squares and equal directions: the inner product is the squared length
  have inner : (a * c + b * d) * (a * c + b * d) = (a * a + b * b) * (a * a + b * b) := by
    calc (a * c + b * d) * (a * c + b * d)
        = (a * a + b * b) * (c * c + d * d) - (a * d - b * c) * (a * d - b * c) := by ring
      _ = (a * a + b * b) * (a * a + b * b) := by rw [parallel, ← lengths]; ring
  have along : a * c + b * d = a * a + b * b := by
    rcases mul_self_eq_mul_self_iff.mp inner with equal | opposite
    · exact equal
    · have := mul_self_nonneg a
      have := mul_self_nonneg b
      linarith
  have apart : (a - c) * (a - c) + (b - d) * (b - d) = 0 := by linarith
  obtain ⟨first, second⟩ := mul_self_add_mul_self_eq_zero.mp apart
  exact Prod.ext (sub_eq_zero.mp first) (sub_eq_zero.mp second)

theorem compare_neg_iff (h : v ≠ 0) (h' : w ≠ 0) : compareRays v w < 0 ↔ rayKey v < rayKey w := by
  rw [compare_rays_eq h h']
  grind

theorem compare_nonpos_iff (h : v ≠ 0) (h' : w ≠ 0) :
    compareRays v w ≤ 0 ↔ rayKey v ≤ rayKey w := by
  rw [compare_rays_eq h h']
  grind

theorem compare_zero_iff (h : v ≠ 0) (h' : w ≠ 0) : compareRays v w = 0 ↔ v = w := by
  rw [compare_rays_eq h h']
  constructor
  · intro zero
    refine ray_key_inj h h' (le_antisymm ?_ ?_) <;> grind
  · rintro rfl
    simp

theorem compare_swap (h : v ≠ 0) (h' : w ≠ 0) : compareRays v w = -compareRays w v := by
  rw [compare_rays_eq h h', compare_rays_eq h' h]
  grind

variable {α : Type*} {ray : α → ℤ × ℤ} {halfEdgeIds halfEdgeIds' : List α}

theorem sort_by_ray_perm : (sortByRay ray halfEdgeIds).Perm halfEdgeIds := List.mergeSort_perm _ _

theorem sort_by_ray_eq (nonzero : ∀ id, ray id ≠ 0) :
    sortByRay ray halfEdgeIds = sortOn (fun id => rayKey (ray id)) halfEdgeIds := by
  have same : ∀ left right, decide (compareRays (ray left) (ray right) ≤ 0) =
      decide (rayKey (ray left) ≤ rayKey (ray right)) := fun left right =>
    decide_eq_decide.mpr (compare_nonpos_iff (nonzero left) (nonzero right))
  unfold sortByRay sortOn
  simp only [same]

theorem sort_by_ray_sorted (nonzero : ∀ id, ray id ≠ 0) :
    (sortByRay ray halfEdgeIds).Pairwise fun left right =>
      rayKey (ray left) ≤ rayKey (ray right) := by
  rw [sort_by_ray_eq nonzero]
  exact sort_on_sorted

theorem sort_by_ray_of_perm (nonzero : ∀ id, ray id ≠ 0) (same : halfEdgeIds.Perm halfEdgeIds') :
    (sortByRay ray halfEdgeIds).map ray = (sortByRay ray halfEdgeIds').map ray := by
  have perm : (sortByRay ray halfEdgeIds).Perm (sortByRay ray halfEdgeIds') :=
    sort_by_ray_perm.trans (same.trans sort_by_ray_perm.symm)
  have sorted : ∀ ids, ((sortByRay ray ids).map ray).Pairwise fun v w => rayKey v ≤ rayKey w :=
    fun ids => List.pairwise_map.mpr (sort_by_ray_sorted nonzero)
  refine (perm.map ray).eq_of_pairwise ?_ (sorted _) (sorted _)
  intro v w mem mem' before after
  obtain ⟨id, -, rfl⟩ := List.mem_map.mp mem
  obtain ⟨id', -, rfl⟩ := List.mem_map.mp mem'
  exact ray_key_inj (nonzero id) (nonzero id') (le_antisymm before after)

/-- The comparison of rays is a strict weak order: by the polar angle over the full turn, and then
by the length. -/
theorem rays_ordered :
    (∀ v w : ℤ × ℤ, v ≠ 0 → w ≠ 0 → compareRays v w = -compareRays w v) ∧
    (∀ v w u : ℤ × ℤ, v ≠ 0 → w ≠ 0 → u ≠ 0 → compareRays v w ≤ 0 → compareRays w u ≤ 0 →
      compareRays v u ≤ 0 ∧ (compareRays v u = 0 → compareRays v w = 0 ∧ compareRays w u = 0)) ∧
    (∀ v w : ℤ × ℤ, v ≠ 0 → w ≠ 0 → (compareRays v w = 0 ↔ v = w)) ∧
    (∀ v w : ℤ × ℤ, v ≠ 0 → w ≠ 0 → (compareRays v w < 0 ↔
      angle (onPlane v) < angle (onPlane w) ∨
        angle (onPlane v) = angle (onPlane w) ∧ squaredLength v < squaredLength w)) ∧
    (∀ v : ℤ × ℤ, v ≠ 0 → 0 ≤ angle (onPlane v) ∧ angle (onPlane v) < 2 * Real.pi ∧
      ∃ r, 0 < r ∧ (v.1 : ℝ) = r * Real.cos (angle (onPlane v)) ∧
        (v.2 : ℝ) = r * Real.sin (angle (onPlane v))) ∧
    ∀ (α : Type) (ray : α → ℤ × ℤ), (∀ id, ray id ≠ 0) → ∀ halfEdgeIds : List α,
      (sortByRay ray halfEdgeIds).Perm halfEdgeIds ∧
      ((sortByRay ray halfEdgeIds).Pairwise fun left right =>
        compareRays (ray left) (ray right) ≤ 0) ∧
      ∀ halfEdgeIds', halfEdgeIds.Perm halfEdgeIds' →
        (sortByRay ray halfEdgeIds).map ray = (sortByRay ray halfEdgeIds').map ray := by
  refine ⟨fun v w h h' => compare_swap h h', ?_, fun v w h h' => compare_zero_iff h h', ?_, ?_, ?_⟩
  · intro v w u h h' h'' before after
    have below := (compare_nonpos_iff h h').mp before
    have above := (compare_nonpos_iff h' h'').mp after
    refine ⟨(compare_nonpos_iff h h'').mpr (below.trans above), fun zero => ?_⟩
    obtain rfl := (compare_zero_iff h h'').mp zero
    obtain rfl := ray_key_inj h h' (le_antisymm below above)
    exact ⟨zero, zero⟩
  · intro v w h h'
    rw [compare_neg_iff h h']
    exact Prod.Lex.toLex_lt_toLex
  · intro v h
    obtain ⟨low, high⟩ := angle_bounds (on_plane_ne h)
    exact ⟨low, high, polar (on_plane_ne h)⟩
  · intro α ray nonzero halfEdgeIds
    refine ⟨sort_by_ray_perm, ?_, fun halfEdgeIds' same => sort_by_ray_of_perm nonzero same⟩
    exact (sort_by_ray_sorted nonzero).imp fun {left right} le =>
      (compare_nonpos_iff (nonzero left) (nonzero right)).mpr le

/-- Three rays over the full turn. -/
theorem three_rays_ordered : compareRays (3, 1) (2, -5) ≤ 0 ∧
    (angle (onPlane (-3, 1)) < angle (onPlane (2, -5)) ∨
      angle (onPlane (-3, 1)) = angle (onPlane (2, -5)) ∧
        squaredLength (-3, 1) < squaredLength (2, -5)) ∧
    (sortByRay (fun ray : Bool => if ray then ((2, -5) : ℤ × ℤ) else (-3, 1)) [true, false]).Perm
      [true, false] := by
  obtain ⟨-, transitive, -, ordered, -, sorted⟩ := rays_ordered
  refine ⟨(transitive (3, 1) (-3, 1) (2, -5) ?_ ?_ ?_ ?_ ?_).1,
    (ordered (-3, 1) (2, -5) ?_ ?_).mp ?_, (sorted Bool _ ?_ _).1⟩
  all_goals decide

end Order

end Metroflow.City.Rays
