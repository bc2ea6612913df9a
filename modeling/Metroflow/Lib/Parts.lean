import Metroflow.Lib.Common

namespace Metroflow.Lib

variable {α : Type*} {l : List α} {n k i : ℕ}

/-- The size of one of `k` parts of `n` entries, of which the first take what is left over. -/
def partSize (n k i : ℕ) : ℕ := n / k + if i < n % k then 1 else 0

def partStart (n k i : ℕ) : ℕ := i * (n / k) + min i (n % k)

theorem part_start_succ : partStart n k (i + 1) = partStart n k i + partSize n k i := by
  unfold partStart partSize
  split
  · rename_i early
    rw [min_eq_left early, min_eq_left early.le]
    ring
  · rename_i late
    rw [min_eq_right (not_lt.mp late), min_eq_right (by omega)]
    ring

theorem part_start_end (pos : 0 < k) : partStart n k k = n := by
  unfold partStart
  rw [min_eq_right (Nat.mod_lt n pos).le]
  exact Nat.div_add_mod n k

theorem part_size_close (i j : ℕ) : partSize n k i ≤ partSize n k j + 1 := by
  unfold partSize
  split <;> omega

theorem part_size_pos (enough : k ≤ n) (below : i < k) : 0 < partSize n k i := by
  have whole : 1 ≤ n / k := (Nat.one_le_div_iff (Nat.zero_lt_of_lt below)).mpr enough
  unfold partSize
  omega

def evenParts (l : List α) (k : ℕ) : List (List α) :=
  (List.range k).map fun i => (l.drop (partStart l.length k i)).take (partSize l.length k i)

theorem front_of_even_parts (l : List α) (k m : ℕ) :
    ((List.range m).map fun i => (l.drop (partStart l.length k i)).take
      (partSize l.length k i)).flatten = l.take (partStart l.length k m) := by
  induction m with
  | zero => simp [partStart]
  | succ m ih =>
    rw [List.range_succ, List.map_append, List.flatten_append, ih, part_start_succ, List.take_add]
    simp

theorem even_parts_flatten (pos : 0 < k) : (evenParts l k).flatten = l := by
  unfold evenParts
  rw [front_of_even_parts, part_start_end pos, List.take_length]

theorem even_parts_sizes (enough : k ≤ l.length) : ∀ a ∈ evenParts l k,
    a ≠ [] ∧ ∀ b ∈ evenParts l k, a.length ≤ b.length + 1 := by
  have length : ∀ a ∈ evenParts l k, ∃ i < k, a.length = partSize l.length k i := by
    intro a listed
    obtain ⟨i, mem, rfl⟩ := List.mem_map.mp listed
    have below := List.mem_range.mp mem
    refine ⟨i, below, ?_⟩
    have room : partStart l.length k (i + 1) ≤ l.length := by
      conv_rhs => rw [← part_start_end (n := l.length) (Nat.zero_lt_of_lt below)]
      exact Nat.add_le_add (Nat.mul_le_mul_right _ below) (min_le_min_right _ below)
    rw [part_start_succ] at room
    rw [List.length_take, List.length_drop]
    omega
  intro a listed
  obtain ⟨i, below, size⟩ := length a listed
  constructor
  · rintro rfl
    have := part_size_pos (n := l.length) enough below
    rw [← size] at this
    exact absurd this (lt_irrefl _)
  · intro b listed'
    obtain ⟨j, -, size'⟩ := length b listed'
    rw [size, size']
    exact part_size_close i j

theorem even_parts_order {R : α → α → Prop} (pos : 0 < k) (sorted : l.Pairwise R) :
    (evenParts l k).Pairwise fun a b => ∀ x ∈ a, ∀ y ∈ b, R x y := by
  rw [← even_parts_flatten (l := l) pos] at sorted
  exact (List.pairwise_flatten.mp sorted).2

end Metroflow.Lib
