import Metroflow.Lib.Common

namespace Metroflow.Lib

section Lookup

variable {n : ℕ} {α : Type*} [DecidableEq α] {key : Fin n → α} {a : α} {i : Fin n}

/-- The first index of a table whose key is the one looked up. -/
def indexOf (key : Fin n → α) (a : α) : Option (Fin n) :=
  (List.finRange n).find? fun i => key i = a

theorem key_of_index_of (h : indexOf key a = some i) : key i = a := by
  simpa using List.find?_some h

@[simp]
theorem index_of_eq_none : indexOf key a = none ↔ ∀ i, key i ≠ a := by
  simp [indexOf]

theorem index_of_eq_some (unique : Function.Injective key) : indexOf key a = some i ↔ key i = a := by
  constructor
  · exact key_of_index_of
  · intro found
    cases h : indexOf key a with
    | none => exact absurd found (index_of_eq_none.mp h i)
    | some j => rw [unique ((key_of_index_of h).trans found.symm)]

theorem index_of_key (unique : Function.Injective key) (i : Fin n) : indexOf key (key i) = some i :=
  (index_of_eq_some unique).mpr rfl

theorem lookup_filter {κ β : Type*} [BEq κ] [LawfulBEq κ] {keep : κ → Bool} {key : κ}
    (kept : keep key = true) (entries : List (κ × β)) :
    (entries.filter fun entry => keep entry.1).lookup key = entries.lookup key := by
  induction entries with
  | nil => rfl
  | cons entry entries ih =>
    rw [List.filter_cons]
    by_cases same : key = entry.1
    · subst same
      rw [if_pos kept, List.lookup_cons, List.lookup_cons, beq_self_eq_true]
    · have skips : (entry :: entries).lookup key = entries.lookup key := by
        rw [List.lookup_cons, beq_false_of_ne same]
      rw [skips, ← ih]
      split
      · rw [List.lookup_cons, beq_false_of_ne same]
      · rfl

end Lookup

section Counting

variable {n : ℕ} {α : Type*}

theorem card_update (P : α → Prop) [DecidablePred P] (table : Fin n → α) (i : Fin n) (a : α) :
    (Finset.univ.filter fun j => P (Function.update table i a j)).card +
        (if P (table i) then 1 else 0) =
      (Finset.univ.filter fun j => P (table j)).card + if P a then 1 else 0 := by
  have split : ∀ f : Fin n → α, (Finset.univ.filter fun j => P (f j)).card =
      (if P (f i) then 1 else 0) + ((Finset.univ.erase i).filter fun j => P (f j)).card := by
    intro f
    rw [Finset.card_filter, Finset.card_filter]
    exact (Finset.add_sum_erase _ (fun j => if P (f j) then 1 else 0) (Finset.mem_univ i)).symm
  have rest : ((Finset.univ.erase i).filter fun j => P (Function.update table i a j)) =
      (Finset.univ.erase i).filter fun j => P (table j) := by
    apply Finset.filter_congr
    intro j apart
    rw [Function.update_of_ne (Finset.ne_of_mem_erase apart)]
  rw [split, split table, rest, Function.update_self]
  omega

theorem update_count {ι : Type*} [DecidableEq ι] (counts : ι → ℕ) (i j : ι) :
    Function.update counts i (counts i + 1) j = counts j + if i = j then 1 else 0 := by
  by_cases same : i = j
  · subst same
    simp
  · simp [Function.update_of_ne (Ne.symm same), same]

end Counting

end Metroflow.Lib
