import Metroflow.Lib.Common

namespace Metroflow.Lib

/-- A float whose finite values are exact numbers. -/
inductive Extended (K : Type) where
  | finite (x : K)
  | posInf
  | negInf
  | nan
  deriving DecidableEq, Repr

namespace Extended

section Arithmetic

variable {K : Type} [Field K]

def isFinite : Extended K → Bool
  | .finite _ => true
  | _ => false

/-- An infinity with the sign of a number; zero has none to give. -/
def signed [LinearOrder K] (x : K) : Extended K :=
  if 0 < x then .posInf else if x < 0 then .negInf else .nan

instance : Neg (Extended K) where
  neg
    | .finite x => .finite (-x)
    | .posInf => .negInf
    | .negInf => .posInf
    | .nan => .nan

instance : Add (Extended K) where
  add
    | .finite x, .finite y => .finite (x + y)
    | .nan, _ | _, .nan => .nan
    | .posInf, .negInf | .negInf, .posInf => .nan
    | .posInf, _ | _, .posInf => .posInf
    | .negInf, _ | _, .negInf => .negInf

instance [LinearOrder K] : Mul (Extended K) where
  mul
    | .finite x, .finite y => .finite (x * y)
    | .finite x, .posInf | .posInf, .finite x => signed x
    | .finite x, .negInf | .negInf, .finite x => signed (-x)
    | .posInf, .posInf | .negInf, .negInf => .posInf
    | .posInf, .negInf | .negInf, .posInf => .negInf
    | .nan, _ | _, .nan => .nan

/-- A quotient by zero is never formed. -/
instance [LinearOrder K] : Div (Extended K) where
  div
    | .finite x, .finite y => .finite (x / y)
    | .finite _, .posInf | .finite _, .negInf => .finite 0
    | .posInf, .finite y => signed y
    | .negInf, .finite y => signed (-y)
    | _, _ => .nan

@[simp]
theorem finite_add_finite {x y : K} : Extended.finite x + .finite y = .finite (x + y) := rfl

@[simp]
theorem finite_div_finite [LinearOrder K] {x y : K} :
    Extended.finite x / .finite y = .finite (x / y) := rfl

@[simp]
theorem finite_mul_finite [LinearOrder K] {x y : K} :
    Extended.finite x * .finite y = .finite (x * y) := rfl

end Arithmetic

section Order

variable {K : Type} [LinearOrder K]

def Less : Extended K → Extended K → Prop
  | .finite x, .finite y => x < y
  | .negInf, .finite _ | .negInf, .posInf | .finite _, .posInf => True
  | _, _ => False

instance : LT (Extended K) := ⟨Less⟩

instance : DecidableLT (Extended K) := fun a b => by
  change Decidable (Less a b)
  unfold Less
  split <;> infer_instance

/-- Equal as floats: a float that is no number equals none. -/
def Equals (a b : Extended K) : Prop := a = b ∧ a ≠ .nan

instance (a b : Extended K) : Decidable (Equals a b) := inferInstanceAs (Decidable (_ ∧ _))

/-- The larger of two values by one comparison, the first where it decides nothing. -/
def pyMax (a b : Extended K) : Extended K := if a < b then b else a

/-- The larger of two values, or the number where one of them is none. -/
def maxNum (a b : Extended K) : Extended K :=
  if a = .nan then b else if a < b then b else a

variable {a b c : Extended K} {x y : K}

@[simp]
theorem finite_lt_finite : Extended.finite x < .finite y ↔ x < y := Iff.rfl

theorem less_trans (h : a < b) (h' : b < c) : a < c := by
  change Less a b at h
  change Less b c at h'
  change Less a c
  cases a <;> cases b <;> cases c <;> simp_all [Less]
  exact h.trans h'

theorem less_irrefl : ¬ a < a := by
  change ¬ Less a a
  cases a <;> simp [Less]

theorem py_max_eq (number : a ≠ .nan) : pyMax a b = maxNum a b := by
  rw [pyMax, maxNum, if_neg number]

theorem py_max_swap : pyMax (.finite x) a = maxNum a (.finite x) := by
  unfold pyMax maxNum
  cases a with
  | finite y =>
    rw [if_neg (by nofun : Extended.finite y ≠ .nan)]
    rcases lt_trichotomy x y with below | rfl | above
    · rw [if_pos (finite_lt_finite.mpr below), if_neg (finite_lt_finite.not.mpr below.not_gt)]
    · rw [if_neg less_irrefl]
    · rw [if_neg (finite_lt_finite.not.mpr above.not_gt), if_pos (finite_lt_finite.mpr above)]
  | posInf => rfl
  | negInf => rfl
  | nan => rfl

end Order

end Extended

theorem scan_maximal {α : Type*} {greater : α → α → Bool}
    (irrefl : ∀ a, greater a a = false)
    (trans : ∀ a b c, greater a b = true → greater b c = true → greater a c = true)
    (first : α) (others : List α) :
    let best := others.foldl (fun best a => if greater a best then a else best) first
    best ∈ first :: others ∧ ∀ a ∈ first :: others, greater a best = false := by
  induction others using List.reverseRecOn with
  | nil => exact ⟨List.mem_cons_self, by simpa using irrefl first⟩
  | append_singleton others a ih =>
    obtain ⟨listed, top⟩ := ih
    rw [List.foldl_append, List.foldl_cons, List.foldl_nil]
    generalize others.foldl (fun best a => if greater a best then a else best) first = best
      at listed top
    dsimp only
    by_cases better : greater a best = true
    · rw [if_pos better]
      refine ⟨by simp, fun b there => ?_⟩
      rw [← List.cons_append, List.mem_append, List.mem_singleton] at there
      rcases there with old | rfl
      · by_contra above
        exact Bool.false_ne_true ((top b old).symm.trans
          (trans b a best (Bool.not_eq_false _ ▸ above) better))
      · exact irrefl b
    · rw [if_neg better]
      refine ⟨?_, fun b there => ?_⟩
      · rw [← List.cons_append]
        exact List.mem_append_left _ listed
      · rw [← List.cons_append, List.mem_append, List.mem_singleton] at there
        rcases there with old | rfl
        · exact top b old
        · exact Bool.not_eq_true _ ▸ better

end Metroflow.Lib
