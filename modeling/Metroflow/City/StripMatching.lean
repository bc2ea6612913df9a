import Metroflow.Lib.Keyed
import Metroflow.Lib.Loops
import Metroflow.Lib.Rounding

namespace Metroflow.City
open Lib

/-- The place on the longer side that goes with one on the shorter side. -/
def matchedIndex (shorter longer index : ℕ) : ℤ :=
  roundHalfEven (index * (longer - 1) / (shorter - 1))

def matchedPairs (m n : ℕ) : List (ℤ × ℤ) :=
  if m ≤ n then (List.range m).map fun index : ℕ => ((index : ℤ), matchedIndex m n index)
  else (List.range n).map fun index : ℕ => (matchedIndex n m index, (index : ℤ))

def monotonePartialMatch (lower upper : List ℤ) : Except String (List (ℤ × ℤ)) := do
  raiseIf (lower.length < 2 ∨ upper.length < 2) "row strip requires at least two boundary vertices"
  let pairs := matchedPairs lower.length upper.length
  raiseIf ((∃ step ∈ pairs.zip pairs.tail, step.1.1 ≥ step.2.1) ∨
    ∃ step ∈ pairs.zip pairs.tail, step.1.2 ≥ step.2.2)
    "row strip matching must be strictly monotone"
  return pairs

variable {shorter longer i j m n : ℕ}

theorem matched_index_zero : matchedIndex shorter longer 0 = 0 := by
  have zero := round_half_even_int 0
  rw [Int.cast_zero] at zero
  rw [matchedIndex, Nat.cast_zero, zero_mul, zero_div, zero]

theorem matched_index_same (two : 2 ≤ n) : matchedIndex n n i = i := by
  have pos : ((n : ℚ) - 1) ≠ 0 := by
    have large : (2 : ℚ) ≤ n := by exact_mod_cast two
    linarith
  have place := round_half_even_int i
  rw [Int.cast_natCast] at place
  rw [matchedIndex, mul_div_assoc, div_self pos, mul_one, place]

theorem matched_index_last (two : 2 ≤ shorter) :
    matchedIndex shorter longer (shorter - 1) = longer - 1 := by
  have pos : ((shorter : ℚ) - 1) ≠ 0 := by
    have large : (2 : ℚ) ≤ shorter := by exact_mod_cast two
    linarith
  have last := round_half_even_int ((longer : ℤ) - 1)
  rw [Int.cast_sub, Int.cast_natCast, Int.cast_one] at last
  rw [matchedIndex, Nat.cast_sub (by omega), Nat.cast_one, mul_div_right_comm, div_self pos,
    one_mul, last]

theorem matched_index_strict (two : 2 ≤ shorter) (le : shorter ≤ longer) (less : i < j) :
    matchedIndex shorter longer i < matchedIndex shorter longer j := by
  rcases le.eq_or_lt with rfl | longer_side
  · rw [matched_index_same two, matched_index_same two]
    exact_mod_cast less
  · have pos : (0 : ℚ) < shorter - 1 := by
      have large : (2 : ℚ) ≤ shorter := by exact_mod_cast two
      linarith
    refine round_half_even_lt ?_
    have later : (i : ℚ) + 1 ≤ j := by exact_mod_cast less
    have sides : (shorter : ℚ) < longer := by exact_mod_cast longer_side
    rw [div_add_one pos.ne', div_lt_div_iff_of_pos_right pos]
    calc (i : ℚ) * (longer - 1) + (shorter - 1) < i * (longer - 1) + (longer - 1) := by linarith
      _ = (i + 1) * ((longer : ℚ) - 1) := by ring
      _ ≤ j * (longer - 1) := mul_le_mul_of_nonneg_right later (by linarith)

theorem matched_pairs_strict (lower : 2 ≤ m) (upper : 2 ≤ n) :
    (matchedPairs m n).Pairwise fun left right => left.1 < right.1 ∧ left.2 < right.2 := by
  unfold matchedPairs
  split
  · rename_i le
    refine List.pairwise_map.mpr (List.pairwise_lt_range.imp fun less => ⟨?_, ?_⟩)
    · exact Nat.cast_lt.mpr less
    · exact matched_index_strict lower le less
  · rename_i more
    refine List.pairwise_map.mpr (List.pairwise_lt_range.imp fun less => ⟨?_, ?_⟩)
    · exact matched_index_strict upper (le_of_not_ge more) less
    · exact Nat.cast_lt.mpr less

theorem matched_pairs_ends (lower : 2 ≤ m) (upper : 2 ≤ n) :
    (0, 0) ∈ matchedPairs m n ∧ ((m : ℤ) - 1, (n : ℤ) - 1) ∈ matchedPairs m n := by
  unfold matchedPairs
  split
  · rename_i le
    constructor
    · exact List.mem_map.mpr ⟨0, List.mem_range.mpr (by omega), by rw [matched_index_zero]; rfl⟩
    · refine List.mem_map.mpr ⟨m - 1, List.mem_range.mpr (by omega), ?_⟩
      rw [matched_index_last lower, Nat.cast_sub (by omega), Nat.cast_one]
  · rename_i more
    constructor
    · exact List.mem_map.mpr ⟨0, List.mem_range.mpr (by omega), by rw [matched_index_zero]; rfl⟩
    · refine List.mem_map.mpr ⟨n - 1, List.mem_range.mpr (by omega), ?_⟩
      rw [matched_index_last upper, Nat.cast_sub (by omega), Nat.cast_one]

theorem matched_pairs_cover (lower : 2 ≤ m) :
    (m ≤ n → ∀ i < m, ∃ j, ((i : ℤ), j) ∈ matchedPairs m n) ∧
      (n ≤ m → ∀ j < n, ∃ i, (i, (j : ℤ)) ∈ matchedPairs m n) := by
  constructor
  · intro le i inside
    rw [matchedPairs, if_pos le]
    exact ⟨_, List.mem_map.mpr ⟨i, List.mem_range.mpr inside, rfl⟩⟩
  · intro le j inside
    rcases le.eq_or_lt with rfl | less
    · rw [matchedPairs, if_pos le_rfl]
      refine ⟨j, List.mem_map.mpr ⟨j, List.mem_range.mpr inside, ?_⟩⟩
      rw [matched_index_same lower]
    · rw [matchedPairs, if_neg (not_le.mpr less)]
      exact ⟨_, List.mem_map.mpr ⟨j, List.mem_range.mpr inside, rfl⟩⟩

/-- Two sides of at least two vertices each are always matched, in strict order on both, from the
first pair to the last, and no vertex of the shorter side is left out. -/
theorem strip_matched (lower upper : List ℤ) (two : 2 ≤ lower.length)
    (two' : 2 ≤ upper.length) :
    ∃ pairs, monotonePartialMatch lower upper = .ok pairs ∧
      (pairs.Pairwise fun left right => left.1 < right.1 ∧ left.2 < right.2) ∧
      (0, 0) ∈ pairs ∧ ((lower.length : ℤ) - 1, (upper.length : ℤ) - 1) ∈ pairs ∧
      (lower.length ≤ upper.length → ∀ i < lower.length, ∃ j, ((i : ℤ), j) ∈ pairs) ∧
      (upper.length ≤ lower.length → ∀ j < upper.length, ∃ i, (i, (j : ℤ)) ∈ pairs) := by
  have strict := matched_pairs_strict two two'
  obtain ⟨first, last⟩ := matched_pairs_ends two two'
  obtain ⟨left, right⟩ := matched_pairs_cover (n := upper.length) two
  refine ⟨matchedPairs lower.length upper.length, ?_, strict, first, last, left, right⟩
  have steps := step_of_pairwise strict
  simp only [monotonePartialMatch, bind_ok, raise_if_ok, pure_ok]
  refine ⟨(), by omega, (), ?_, trivial⟩
  rintro (⟨step, listed, back⟩ | ⟨step, listed, back⟩)
  · exact absurd (steps step listed).1 (not_lt.mpr back)
  · exact absurd (steps step listed).2 (not_lt.mpr back)

def lowerBank : List ℤ := [10, 20, 30]

def upperBank : List ℤ := [10, 16, 23, 30]

theorem banks_matched :
    ∃ pairs, monotonePartialMatch lowerBank upperBank = .ok pairs ∧
      (pairs.Pairwise fun left right => left.1 < right.1 ∧ left.2 < right.2) ∧
      (0, 0) ∈ pairs ∧ ((lowerBank.length : ℤ) - 1, (upperBank.length : ℤ) - 1) ∈ pairs ∧
      (lowerBank.length ≤ upperBank.length → ∀ i < lowerBank.length, ∃ j, ((i : ℤ), j) ∈ pairs) ∧
      (upperBank.length ≤ lowerBank.length → ∀ j < upperBank.length, ∃ i, (i, (j : ℤ)) ∈ pairs) :=
  strip_matched lowerBank upperBank (by decide) (by decide)

example : matchedPairs 3 4 = [(0, 0), (1, 2), (2, 3)] := by decide +kernel

end Metroflow.City
