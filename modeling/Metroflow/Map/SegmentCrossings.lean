import Metroflow.Lib.CellPairs
import Metroflow.Map.RoadGeometry

namespace Metroflow.Map

open Metroflow.Lib

section Tests

variable {K : Type} [Scalar K]

def splitTolerance : K := 1 / Scalar.ofInt (10 ^ 8)

/-- Two ends in one place, up to the tolerance. -/
def hasSharedEndpoint (leftA leftB rightA rightB : PointM K) : Prop :=
  ∃ left ∈ [leftA, leftB], ∃ right ∈ [rightA, rightB],
    isclose left.1 right.1 splitTolerance ∧ isclose left.2 right.2 splitTolerance

instance (leftA leftB rightA rightB : PointM K) :
    Decidable (hasSharedEndpoint leftA leftB rightA rightB) := by
  unfold hasSharedEndpoint
  infer_instance

/-- Where two segments cross properly, as shares of their lengths. -/
def crossParameters (leftA leftB rightA rightB : PointM K) : Option (K × K) :=
  let leftDx := leftB.1 - leftA.1
  let leftDy := leftB.2 - leftA.2
  let rightDx := rightB.1 - rightA.1
  let rightDy := rightB.2 - rightA.2
  let denominator := leftDx * rightDy - leftDy * rightDx
  if isclose denominator 0 (1 / Scalar.ofInt (10 ^ 12)) then none
  else
    let offsetX := rightA.1 - leftA.1
    let offsetY := rightA.2 - leftA.2
    let leftT := (offsetX * rightDy - offsetY * rightDx) / denominator
    let rightT := (offsetX * leftDy - offsetY * leftDx) / denominator
    if (splitTolerance < leftT ∧ leftT < 1 - splitTolerance) ∧
        splitTolerance < rightT ∧ rightT < 1 - splitTolerance then some (leftT, rightT)
    else none

def segmentsCrossProperly (leftA leftB rightA rightB : PointM K) : Bool :=
  (crossParameters leftA leftB rightA rightB).isSome

/-- `left + t * (right - left)` -/
def pointAt (left right : PointM K) (t : K) : PointM K :=
  (left.1 + t * (right.1 - left.1), left.2 + t * (right.2 - left.2))

namespace RoadGeometryCatalog

variable (catalog : RoadGeometryCatalog K)

def layeredSegments : List (PointM K × PointM K × ℤ) :=
  catalog.centerlines.flatMap fun centerline =>
    (centerline.pointsM.zip centerline.pointsM.tail).map fun (left, right) =>
      (left, right, centerline.layer)

/-- Counts the proper crossings of segments on one layer. -/
def countInteriorCenterlineIntersections (cellSizeM : K) : ℕ :=
  let segments := catalog.layeredSegments
  let cells := cellIndex cellSizeM
    (segments.map fun (left, right, _) => Box.around left right)
  (((cells.map Prod.snd).flatMap pairsIn).foldl
    (visitOnce fun (count : ℕ) (pair : ℕ × ℕ) =>
      match segments[pair.1]?, segments[pair.2]? with
      | some (leftA, leftB, leftLayer), some (rightA, rightB, rightLayer) =>
        if leftLayer ≠ rightLayer then count
        else if hasSharedEndpoint leftA leftB rightA rightB then count
        else if segmentsCrossProperly leftA leftB rightA rightB then count + 1
        else count
      | _, _ => count)
    ([], 0)).2

end RoadGeometryCatalog

end Tests

/-- Where two lines meet, by the shares of their steps `(ux, uy)` and `(vx, vy)`. -/
theorem meeting_shares {K : Type} [Field K] {ax ay ux uy bx by' vx vy : K}
    (slanted : ux * vy - uy * vx ≠ 0) :
    ax + ((bx - ax) * vy - (by' - ay) * vx) / (ux * vy - uy * vx) * ux =
        bx + ((bx - ax) * uy - (by' - ay) * ux) / (ux * vy - uy * vx) * vx ∧
      ay + ((bx - ax) * vy - (by' - ay) * vx) / (ux * vy - uy * vx) * uy =
        by' + ((bx - ax) * uy - (by' - ay) * ux) / (ux * vy - uy * vx) * vy := by
  obtain ⟨d, turned⟩ : ∃ d, d = ux * vy - uy * vx := ⟨_, rfl⟩
  rw [← turned] at slanted ⊢
  constructor
  · field_simp
    rw [turned]
    ring
  · field_simp
    rw [turned]
    ring

section Exact

variable {K : Type} [Field K] [LinearOrder K] [FloorRing K] [Roots K]
  {leftA leftB rightA rightB : PointM K} {t leftT rightT : K}

theorem cross_parameters_spec
    (h : crossParameters leftA leftB rightA rightB = some (leftT, rightT)) :
    (splitTolerance < leftT ∧ leftT < 1 - splitTolerance) ∧
      (splitTolerance < rightT ∧ rightT < 1 - splitTolerance) ∧
      pointAt leftA leftB leftT = pointAt rightA rightB rightT := by
  unfold crossParameters at h
  dsimp only at h
  split at h
  · cases h
  · rename_i slanted
    split at h
    · rename_i inside
      obtain ⟨rfl, rfl⟩ := Prod.mk.inj (Option.some.inj h)
      refine ⟨inside.1, inside.2, ?_⟩
      obtain ⟨same_x, same_y⟩ := meeting_shares fun flat => slanted (.inl flat)
      exact Prod.ext same_x same_y
    · cases h
variable [IsStrictOrderedRing K]

theorem split_tolerance_pos : 0 < (splitTolerance : K) := by
  unfold splitTolerance
  rw [Scalar.of_int_exact]
  positivity

theorem shared_endpoint_comm : hasSharedEndpoint leftA leftB rightA rightB ↔
    hasSharedEndpoint rightA rightB leftA leftB := by
  have flip : ∀ {a b c d : PointM K}, hasSharedEndpoint a b c d → hasSharedEndpoint c d a b := by
    rintro a b c d ⟨left, left_mem, right, right_mem, near_x, near_y⟩
    exact ⟨right, right_mem, left, left_mem, isclose_comm.mp near_x, isclose_comm.mp near_y⟩
  exact ⟨flip, flip⟩

theorem isclose_neg_zero {d absTol : K} : isclose (-d) 0 absTol ↔ isclose d 0 absTol := by
  unfold isclose
  simp only [Scalar.abs_exact, zero_sub, neg_neg, abs_neg, mul_neg, neg_eq_zero]

theorem cross_parameters_swap : crossParameters rightA rightB leftA leftB =
    (crossParameters leftA leftB rightA rightB).map Prod.swap := by
  have turned : (rightB.1 - rightA.1) * (leftB.2 - leftA.2) -
      (rightB.2 - rightA.2) * (leftB.1 - leftA.1) =
      -((leftB.1 - leftA.1) * (rightB.2 - rightA.2) -
        (leftB.2 - leftA.2) * (rightB.1 - rightA.1)) := by ring
  have share : ∀ u v d : K, ((leftA.1 - rightA.1) * u - (leftA.2 - rightA.2) * v) / -d =
      ((rightA.1 - leftA.1) * u - (rightA.2 - leftA.2) * v) / d := by
    intro u v d
    rw [div_neg, ← neg_div]
    congr 1
    ring
  unfold crossParameters
  dsimp only
  simp only [turned, isclose_neg_zero, share]
  split
  · rfl
  · split
    · rename_i inside
      rw [if_pos (And.symm inside)]
      rfl
    · rename_i outside
      rw [if_neg fun inside => outside (And.symm inside)]
      rfl

theorem between_ends (first : 0 ≤ t) (last : t ≤ 1) (a b : K) :
    min a b ≤ a + t * (b - a) ∧ a + t * (b - a) ≤ max a b := by
  rcases le_total a b with up | down
  · rw [min_eq_left up, max_eq_right up]
    constructor <;> nlinarith
  · rw [min_eq_right down, max_eq_left down]
    constructor <;> nlinarith

theorem common_cell {cellSize : K} (size : 0 < cellSize)
    (h : crossParameters leftA leftB rightA rightB = some (leftT, rightT)) :
    ∃ cell, cell ∈ (Box.around leftA leftB).cells cellSize ∧
      cell ∈ (Box.around rightA rightB).cells cellSize := by
  obtain ⟨⟨left_low, left_high⟩, ⟨right_low, right_high⟩, meet⟩ := cross_parameters_spec h
  have pos := split_tolerance_pos (K := K)
  have left_x := between_ends (pos.trans left_low).le (left_high.trans (sub_lt_self 1 pos)).le
    leftA.1 leftB.1
  have left_y := between_ends (pos.trans left_low).le (left_high.trans (sub_lt_self 1 pos)).le
    leftA.2 leftB.2
  have right_x := between_ends (pos.trans right_low).le (right_high.trans (sub_lt_self 1 pos)).le
    rightA.1 rightB.1
  have right_y := between_ends (pos.trans right_low).le (right_high.trans (sub_lt_self 1 pos)).le
    rightA.2 rightB.2
  have inside := mem_cells_around (p := pointAt leftA leftB leftT) size left_x.1 left_x.2 left_y.1
    left_y.2
  have inside' := mem_cells_around (p := pointAt rightA rightB rightT) size right_x.1 right_x.2
    right_y.1 right_y.2
  rw [← meet] at inside'
  exact ⟨_, inside, inside'⟩

end Exact

end Metroflow.Map
