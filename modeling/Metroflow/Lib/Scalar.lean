import Metroflow.Lib.Common

namespace Metroflow.Lib

/-- Numbers as floats are used: the operations, and no law about them. -/
class Scalar (K : Type) extends Zero K, One K, Neg K, Add K, Sub K, Mul K, Div K, LE K, LT K where
  [equal : DecidableEq K]
  [atMost : DecidableLE K]
  [below : DecidableLT K]
  isfinite : K → Bool
  sqrt : K → K
  hypot : K → K → K
  atan2 : K → K → K
  degrees : K → K
  floor : K → ℤ
  ofInt : ℤ → K

attribute [reducible, instance] Scalar.equal Scalar.atMost Scalar.below

/-- A point of the plane, in metres. -/
abbrev PointM (K : Type) := K × K

namespace Scalar

variable {K : Type} [Scalar K]

def dist (a b : PointM K) : K := hypot (a.1 - b.1) (a.2 - b.2)

def abs (x : K) : K := if x < 0 then -x else x

def ceil (x : K) : ℤ := -floor (-x)

/-- Rounds towards zero. -/
def trunc (x : K) : ℤ := if x < 0 then ceil x else floor x

/-- The length of a chain of points, summed from its start. -/
def pathLength (points : List (PointM K)) : K :=
  ((points.zip points.tail).map fun piece => dist piece.1 piece.2).foldl (· + ·) 0

end Scalar

/-- The real numbers, where nothing is rounded. -/
noncomputable instance Scalar.real : Scalar ℝ where
  equal := inferInstance
  atMost := inferInstance
  below := inferInstance
  isfinite _ := true
  sqrt := Real.sqrt
  hypot x y := Real.sqrt (x ^ 2 + y ^ 2)
  atan2 y x := Complex.arg ⟨x, y⟩
  degrees x := x * 180 / Real.pi
  floor := Int.floor
  ofInt := Int.cast

namespace Scalar

variable {a b : PointM ℝ} {points : List (PointM ℝ)}

theorem dist_real : dist a b = Real.sqrt ((a.1 - b.1) ^ 2 + (a.2 - b.2) ^ 2) := rfl

theorem dist_nonneg : 0 ≤ dist a b := Real.sqrt_nonneg _

theorem dist_pos (apart : a ≠ b) : 0 < dist a b := by
  rw [dist_real, Real.sqrt_pos]
  by_contra flat
  have x := sq_nonneg (a.1 - b.1)
  have y := sq_nonneg (a.2 - b.2)
  have same_x : (a.1 - b.1) ^ 2 = 0 := by linarith
  have same_y : (a.2 - b.2) ^ 2 = 0 := by linarith
  exact apart (Prod.ext (sub_eq_zero.mp (pow_eq_zero_iff two_ne_zero |>.mp same_x))
    (sub_eq_zero.mp (pow_eq_zero_iff two_ne_zero |>.mp same_y)))

theorem path_length_real : pathLength points =
    ((points.zip points.tail).map fun piece => dist piece.1 piece.2).sum :=
  List.sum_eq_foldl.symm

theorem path_length_pos (long : 2 ≤ points.length) (moves : points.IsChain (· ≠ ·)) :
    0 < pathLength points := by
  rw [path_length_real]
  match points, long with
  | a :: b :: rest, _ =>
    have apart : a ≠ b := (List.isChain_cons_cons.mp moves).1
    have later : 0 ≤ (((b :: rest).zip rest).map fun piece => dist piece.1 piece.2).sum :=
      List.sum_nonneg (by
        intro d listed
        obtain ⟨_, -, rfl⟩ := List.mem_map.mp listed
        exact dist_nonneg)
    rw [List.tail_cons, List.zip_cons_cons, List.map_cons, List.sum_cons]
    exact add_pos_of_pos_of_nonneg (dist_pos apart) later

end Scalar

end Metroflow.Lib
