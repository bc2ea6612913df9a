import Metroflow.Lib.Scalar

namespace Metroflow.Lib

/-- The functions that a field does not have of itself. -/
class Roots (K : Type) where
  sqrt : K → K
  hypot : K → K → K
  atan2 : K → K → K
  degrees : K → K

namespace Scalar

variable {K : Type} [Field K] [LinearOrder K] [FloorRing K] [Roots K]

/-- The numbers of an ordered field, where nothing is rounded. -/
instance (priority := low) exact : Scalar K where
  equal := inferInstance
  atMost := inferInstance
  below := inferInstance
  isfinite _ := true
  sqrt := Roots.sqrt
  hypot := Roots.hypot
  atan2 := Roots.atan2
  degrees := Roots.degrees
  floor := Int.floor
  ofInt := Int.cast

theorem of_int_exact (n : ℤ) : (Scalar.ofInt n : K) = n := rfl

theorem abs_exact [IsStrictOrderedRing K] (x : K) : Scalar.abs x = |x| := by
  unfold Scalar.abs
  split
  · rename_i negative
    exact (abs_of_neg negative).symm
  · rename_i nonneg
    exact (abs_of_nonneg (not_lt.mp nonneg)).symm

end Scalar

/-- The root of a fraction, to nine decimal places. -/
def sqrtRat (q : ℚ) : ℚ := (Nat.sqrt ⌊q * 10 ^ 18⌋.toNat : ℚ) / 10 ^ 9

/-- Fractions, for runs without angles. -/
instance : Roots ℚ where
  sqrt := sqrtRat
  hypot x y := sqrtRat (x ^ 2 + y ^ 2)
  atan2 _ _ := 0
  degrees x := x * (180 / (314159265 / 10 ^ 8))

section Nearness

variable {K : Type} [Scalar K]

/-- `min(a, b)` -/
def least (a b : K) : K := if b < a then b else a

/-- `max(a, b)` -/
def greatest (a b : K) : K := if a < b then b else a

/-- `math.isclose` with its relative tolerance of `1e-9`. -/
def isclose (a b absTol : K) : Prop :=
  let diff := Scalar.abs (b - a)
  let relTol : K := 1 / Scalar.ofInt (10 ^ 9)
  a = b ∨ diff ≤ Scalar.abs (relTol * b) ∨ diff ≤ Scalar.abs (relTol * a) ∨ diff ≤ absTol

instance (a b absTol : K) : Decidable (isclose a b absTol) := by
  unfold isclose
  infer_instance

end Nearness

section Exact

variable {K : Type} [Field K] [LinearOrder K] [FloorRing K] [Roots K] {a b absTol : K}

theorem least_exact : least a b = min a b := by
  unfold least
  split
  · rename_i below
    exact (min_eq_right_of_lt below).symm
  · rename_i above
    exact (min_eq_left (not_lt.mp above)).symm

theorem greatest_exact : greatest a b = max a b := by
  unfold greatest
  split
  · rename_i below
    exact (max_eq_right_of_lt below).symm
  · rename_i above
    exact (max_eq_left (not_lt.mp above)).symm

variable [IsStrictOrderedRing K]

theorem isclose_comm : isclose a b absTol ↔ isclose b a absTol := by
  unfold isclose
  simp only [Scalar.abs_exact, abs_sub_comm b a, eq_comm (a := a) (b := b)]
  tauto

end Exact

end Metroflow.Lib
