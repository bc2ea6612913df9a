import Mathlib

namespace Metroflow.Lib

section Instances

-- Each is a constant, so that a literal or a membership test means the same in every module.

instance two_at_least_two : Nat.AtLeastTwo 2 := ⟨le_refl 2⟩

instance four_at_least_two : Nat.AtLeastTwo 4 := ⟨by decide⟩

instance five_at_least_two : Nat.AtLeastTwo 5 := ⟨by decide⟩

instance ten_at_least_two : Nat.AtLeastTwo 10 := ⟨by decide⟩

instance twenty_at_least_two : Nat.AtLeastTwo 20 := ⟨by decide⟩

instance hundred_at_least_two : Nat.AtLeastTwo 100 := ⟨by decide⟩

instance thousand_at_least_two : Nat.AtLeastTwo 1000 := ⟨by decide⟩

instance two_ne_zero' : NeZero 2 := ⟨by decide⟩

instance three_ne_zero' : NeZero 3 := ⟨by decide⟩

instance fin_lawful (n : ℕ) : LawfulBEq (Fin n) := inferInstance

instance cell_lawful : LawfulBEq (ℤ × ℤ) := inferInstance

instance tag_lawful : LawfulBEq (Option String) := inferInstance

instance id_le_trans : IsTrans ℤ fun a b => a ≤ b := inferInstance

instance id_le_antisymm : Std.Antisymm fun a b : ℤ => a ≤ b := inferInstance

end Instances

section Sizes

-- What the records of the small networks are checked for when they are built.

theorem zero_id : (0 : ℤ) ≤ 0 := le_refl 0

theorem one_id : (0 : ℤ) ≤ 1 := by decide

theorem two_id : (0 : ℤ) ≤ 2 := by decide

theorem three_id : (0 : ℤ) ≤ 3 := by decide

theorem four_id : (0 : ℤ) ≤ 4 := by decide

theorem zero_ids : (0 : ℤ) ≤ 0 ∧ (0 : ℤ) ≤ 0 := by decide

theorem one_zero_ids : (0 : ℤ) ≤ 1 ∧ (0 : ℤ) ≤ 0 := by decide

theorem one_ids : (0 : ℤ) ≤ 1 ∧ (0 : ℤ) ≤ 1 := by decide

theorem ids_zero_one : (0 : ℤ) ≠ 1 := by decide

theorem ids_one_two : (1 : ℤ) ≠ 2 := by decide

theorem ids_two_three : (2 : ℤ) ≠ 3 := by decide

theorem one_lane : 1 ≤ 1 := le_refl 1

theorem one_lane_int : (1 : ℤ) ≤ 1 := le_refl 1

theorem two_ends : 2 ≤ 2 := le_refl 2

theorem nothing_nonneg : (0 : ℚ) ≤ 0 := le_refl 0

theorem one_nonneg : (0 : ℚ) ≤ 1 := zero_le_one

theorem one_unit : (0 : ℚ) ≤ 1 ∧ (1 : ℚ) ≤ 1 := ⟨zero_le_one, le_refl 1⟩

theorem second_pos : (0 : ℚ) < 1 := one_pos

theorem ten_pos : (0 : ℚ) < 10 := by norm_num

theorem hundred_pos : (0 : ℚ) < 100 := by norm_num

theorem id_of_not_neg {i : ℤ} (h : ¬ i < 0) : 0 ≤ i := not_lt.mp h

theorem one_le_of_not_few {i : ℤ} (h : ¬ i < 1) : 1 ≤ i := not_lt.mp h

end Sizes

end Metroflow.Lib
