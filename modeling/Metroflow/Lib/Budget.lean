import Metroflow.Lib.Heap

namespace Metroflow.Lib

open Finset

/-- Work handed out one unit at a time: what is left of every budget and how
often each job was served. -/
structure Allocation (R J : Type*) where
  remaining : R → ℤ
  served : J → ℤ

namespace Allocation

variable {R J : Type*} [DecidableEq R]

/-- A job can be served while every budget it draws on has a unit left. -/
def Open (uses : J → Finset R) (a : Allocation R J) (j : J) : Prop :=
  ∀ r ∈ uses j, 0 < a.remaining r

instance (uses : J → Finset R) (a : Allocation R J) (j : J) : Decidable (a.Open uses j) :=
  inferInstanceAs (Decidable (∀ r ∈ uses j, 0 < a.remaining r))

/-- Serving a job takes one unit from each of its budgets. -/
def serve [DecidableEq J] (uses : J → Finset R) (a : Allocation R J) (j : J) : Allocation R J where
  remaining r := a.remaining r - if r ∈ uses j then 1 else 0
  served := Function.update a.served j (a.served j + 1)

def start (budget : R → ℤ) : Allocation R J where
  remaining := budget
  served _ := 0

/-- The balance of a run of services: what was taken is what is missing, and
no budget that started nonnegative is overdrawn. -/
structure Balanced [Fintype J] (uses : J → Finset R) (budget : R → ℤ) (a : Allocation R J) :
    Prop where
  balance : ∀ r, a.remaining r + ∑ j with r ∈ uses j, a.served j = budget r
  covered : ∀ r, 0 ≤ budget r → 0 ≤ a.remaining r
  counted : ∀ j, 0 ≤ a.served j

variable {uses : J → Finset R} {budget : R → ℤ} {a : Allocation R J} {j : J}

@[simp]
theorem serve_served_self [DecidableEq J] :
    (a.serve uses j).served j = a.served j + 1 :=
  Function.update_self ..

theorem serve_served_other [DecidableEq J] {k : J} (h : k ≠ j) :
    (a.serve uses j).served k = a.served k :=
  Function.update_of_ne h ..

theorem serve_remaining_le [DecidableEq J] (r : R) : (a.serve uses j).remaining r ≤ a.remaining r := by
  change a.remaining r - _ ≤ a.remaining r
  split <;> omega

theorem closed_of_serve [DecidableEq J] {k : J} (h : ¬ a.Open uses k) : ¬ (a.serve uses j).Open uses k := by
  intro opened
  apply h
  intro r hr
  exact lt_of_lt_of_le (opened r hr) (serve_remaining_le r)

variable [Fintype J]

theorem balanced_start : (start budget : Allocation R J).Balanced uses budget where
  balance r := by simp [start]
  covered r h := h
  counted j := le_refl 0

theorem served_sum [DecidableEq J] (r : R) :
    ∑ k with r ∈ uses k, (a.serve uses j).served k =
      (∑ k with r ∈ uses k, a.served k) + if r ∈ uses j then 1 else 0 := by
  have each : ∀ k, (a.serve uses j).served k = a.served k + if k = j then 1 else 0 := by
    intro k
    by_cases same : k = j
    · subst same
      simp
    · simp [serve_served_other, same]
  simp only [each, sum_add_distrib]
  congr 1
  simp [sum_ite_eq']

theorem Balanced.serve [DecidableEq J] (h : a.Balanced uses budget) (ready : a.Open uses j) :
    (a.serve uses j).Balanced uses budget where
  balance r := by
    rw [served_sum]
    have := h.balance r
    change a.remaining r - (if r ∈ uses j then 1 else 0) + _ = _
    omega
  covered r hr := by
    change 0 ≤ a.remaining r - if r ∈ uses j then 1 else 0
    have kept := h.covered r hr
    split
    · rename_i used
      have := ready r used
      omega
    · omega
  counted k := by
    by_cases same : k = j
    · subst same
      have := h.counted k
      rw [serve_served_self]
      omega
    · rw [serve_served_other same]
      exact h.counted k

theorem Balanced.within (h : a.Balanced uses budget) {r : R} (hr : 0 ≤ budget r) :
    ∑ j with r ∈ uses j, a.served j ≤ budget r := by
  have := h.balance r
  have := h.covered r hr
  omega

theorem Balanced.served_le (h : a.Balanced uses budget) {r : R} (hr : 0 ≤ budget r)
    (used : r ∈ uses j) : a.served j ≤ budget r := by
  refine le_trans ?_ (h.within hr)
  exact single_le_sum (f := a.served) (fun k _ => h.counted k) (by simp [used])

end Allocation

end Metroflow.Lib
