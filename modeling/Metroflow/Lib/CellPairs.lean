import Metroflow.Lib.Dict
import Metroflow.Lib.ExactScalar
import Metroflow.Lib.Keyed

namespace Metroflow.Lib

section Once

variable {α σ : Type*} [DecidableEq α]

/-- Visits what has not come up before. -/
def visitOnce (visit : σ → α → σ) (s : List α × σ) (a : α) : List α × σ :=
  if a ∈ s.1 then s else (s.1 ++ [a], visit s.2 a)

/-- Each item of a list where it first comes up. -/
def firsts (l : List α) : List α := (l.foldl (visitOnce fun _ _ => ()) ([], ())).1

theorem firsts_concat (l : List α) (a : α) :
    firsts (l ++ [a]) = if a ∈ firsts l then firsts l else firsts l ++ [a] := by
  unfold firsts
  rw [List.foldl_append, List.foldl_cons, List.foldl_nil]
  generalize l.foldl (visitOnce fun _ _ => ()) ([], ()) = s
  unfold visitOnce
  split <;> rfl

theorem firsts_spec (l : List α) : (firsts l).Nodup ∧ ∀ a, a ∈ firsts l ↔ a ∈ l := by
  induction l using List.reverseRecOn with
  | nil => exact ⟨List.nodup_nil, fun _ => Iff.rfl⟩
  | append_singleton l b ih =>
    obtain ⟨distinct, same⟩ := ih
    rw [firsts_concat]
    split
    · rename_i seen
      refine ⟨distinct, fun a => ?_⟩
      rw [same, List.mem_append, List.mem_singleton, or_iff_left_of_imp]
      rintro rfl
      exact (same a).mp seen
    · rename_i fresh
      refine ⟨List.nodup_append'.mpr ⟨distinct, List.nodup_singleton b, ?_⟩, fun a => ?_⟩
      · exact List.disjoint_singleton.mpr fresh
      · rw [List.mem_append, List.mem_append, same]

theorem visit_once_fold (visit : σ → α → σ) (l : List α) (s : σ) :
    l.foldl (visitOnce visit) ([], s) = (firsts l, (firsts l).foldl visit s) := by
  induction l using List.reverseRecOn with
  | nil => rfl
  | append_singleton l a ih =>
    rw [List.foldl_append, List.foldl_cons, List.foldl_nil, ih, firsts_concat]
    unfold visitOnce
    split
    · rfl
    · rw [List.foldl_append, List.foldl_cons, List.foldl_nil]

end Once

section Pairs

variable {α : Type*}

/-- The pairs of entries of a list, the earlier one first. -/
def orderedPairs (l : List α) : List (α × α) :=
  l.zipIdx.flatMap fun entry => (l.drop (entry.2 + 1)).map (Prod.mk entry.1)

theorem mem_ordered_pairs [LinearOrder α] {l : List α} (strict : l.Pairwise (· < ·)) {a b : α} :
    (a, b) ∈ orderedPairs l ↔ a ∈ l ∧ b ∈ l ∧ a < b := by
  have rising := List.pairwise_iff_getElem.mp strict
  have split : (a, b) ∈ orderedPairs l ↔ ∃ k, l[k]? = some a ∧ b ∈ l.drop (k + 1) := by
    simp only [orderedPairs, List.mem_flatMap, List.mem_map, Prod.exists, Prod.mk.injEq,
      List.mk_mem_zipIdx_iff_getElem?]
    constructor
    · rintro ⟨_, k, a_at, _, later, rfl, rfl⟩
      exact ⟨k, a_at, later⟩
    · rintro ⟨k, a_at, later⟩
      exact ⟨a, k, a_at, b, later, rfl, rfl⟩
  rw [split]
  constructor
  · rintro ⟨k, a_at, later⟩
    obtain ⟨k_lt, rfl⟩ := List.getElem?_eq_some_iff.mp a_at
    obtain ⟨m, m_lt, rfl⟩ := List.mem_drop_iff_getElem.mp later
    exact ⟨List.getElem_mem k_lt, List.getElem_mem _, rising k _ k_lt _ (by omega)⟩
  · rintro ⟨a_mem, b_mem, below⟩
    obtain ⟨k, k_lt, rfl⟩ := List.mem_iff_getElem.mp a_mem
    obtain ⟨m, m_lt, rfl⟩ := List.mem_iff_getElem.mp b_mem
    have order : k < m := by
      by_contra before
      rcases (not_lt.mp before).lt_or_eq with after | rfl
      · exact lt_asymm below (rising m k m_lt k_lt after)
      · exact lt_irrefl _ below
    refine ⟨k, List.getElem?_eq_getElem k_lt, List.mem_drop_iff_getElem.mpr ⟨m - (k + 1), ?_, ?_⟩⟩
    · omega
    · congr 1
      omega

end Pairs

section Cells

variable {K : Type} [Scalar K]

/-- A box, by its least and its greatest coordinates. -/
structure Box (K : Type) where
  minX : K
  maxX : K
  minY : K
  maxY : K

def Box.around (left right : PointM K) : Box K where
  minX := least left.1 right.1
  maxX := greatest left.1 right.1
  minY := least left.2 right.2
  maxY := greatest left.2 right.2

/-- `range(math.floor(low / cell_size), math.floor(high / cell_size) + 1)` -/
def cellRange (cellSize low high : K) : List ℤ :=
  let first := Scalar.floor (low / cellSize)
  (List.range (Scalar.floor (high / cellSize) + 1 - first).toNat).map fun step : ℕ => first + step

def Box.cells (cellSize : K) (box : Box K) : List (ℤ × ℤ) :=
  (cellRange cellSize box.minX box.maxX).flatMap fun x =>
    (cellRange cellSize box.minY box.maxY).map (Prod.mk x)

/-- The positions of the boxes under the cells they reach. -/
def cellIndex (cellSize : K) (boxes : List (Box K)) : Dict (ℤ × ℤ) (List ℕ) :=
  boxes.zipIdx.foldl (fun cells entry =>
    (entry.1.cells cellSize).foldl (fun cells cell => cells.appendAt cell entry.2) cells) []

/-- The pairs of positions of each cell, in order. -/
def pairsIn (indices : List ℕ) : List (ℕ × ℕ) := orderedPairs (sortOn id indices.dedup)

variable {cellSize : K} {boxes : List (Box K)} {cell : ℤ × ℤ} {i j : ℕ}

theorem mem_range_of_floors {low high : K} {n : ℤ} (first : Scalar.floor (low / cellSize) ≤ n)
    (last : n ≤ Scalar.floor (high / cellSize)) : n ∈ cellRange cellSize low high := by
  unfold cellRange
  refine List.mem_map.mpr ⟨(n - Scalar.floor (low / cellSize)).toNat, List.mem_range.mpr ?_, ?_⟩
  · omega
  · omega

theorem cell_index_groups : Dict.Groups (cellIndex cellSize boxes) (boxes.zipIdx.flatMap
    fun entry => (entry.1.cells cellSize).map fun cell => (cell, entry.2)) := by
  have row : ∀ (reached : List (ℤ × ℤ)) (index : ℕ) (cells : Dict (ℤ × ℤ) (List ℕ)) entries,
      Dict.Groups cells entries →
      Dict.Groups (reached.foldl (fun cells cell => cells.appendAt cell index) cells)
        (entries ++ reached.map fun cell => (cell, index)) := by
    intro reached index
    induction reached with
    | nil => intro cells entries h; rwa [List.map_nil, List.append_nil]
    | cons cell reached ih =>
      intro cells entries h
      rw [List.foldl_cons, List.map_cons, List.append_cons]
      exact ih _ _ h.append_at
  unfold cellIndex
  generalize boxes.zipIdx = entered
  induction entered using List.reverseRecOn with
  | nil => exact .nil
  | append_singleton entered entry ih =>
    rw [List.foldl_append, List.foldl_cons, List.foldl_nil, List.flatMap_append,
      List.flatMap_singleton]
    exact row _ _ _ _ ih

theorem mem_cell_get : i ∈ ((cellIndex cellSize boxes).get cell).getD [] ↔
    ∃ box, boxes[i]? = some box ∧ cell ∈ box.cells cellSize := by
  rw [cell_index_groups.get, Dict.mem_values_at]
  simp only [List.mem_flatMap, List.mem_map, Prod.exists, Prod.mk.injEq,
    List.mk_mem_zipIdx_iff_getElem?]
  constructor
  · rintro ⟨box, _, at_i, _, _, reached, same, rfl⟩
    exact ⟨box, at_i, same ▸ reached⟩
  · rintro ⟨box, at_i, reached⟩
    exact ⟨box, i, at_i, cell.1, cell.2, reached, rfl, rfl⟩

theorem mem_cell_index {item : (ℤ × ℤ) × List ℕ} (listed : item ∈ cellIndex cellSize boxes) :
    i ∈ item.2 ↔ ∃ box, boxes[i]? = some box ∧ item.1 ∈ box.cells cellSize := by
  rw [← mem_cell_get, cell_index_groups.get, cell_index_groups.listed item listed]

theorem mem_pairs_of_index {order : List (List ℕ)}
    (same : order.Perm ((cellIndex cellSize boxes).map Prod.snd)) :
    (i, j) ∈ order.flatMap pairsIn ↔ i < j ∧ ∃ left right cell, boxes[i]? = some left ∧
      boxes[j]? = some right ∧ cell ∈ left.cells cellSize ∧ cell ∈ right.cells cellSize := by
  have strict : ∀ indices : List ℕ, (sortOn id indices.dedup).Pairwise (· < ·) := fun indices =>
    sort_on_strict ((List.map_id indices.dedup).symm ▸ List.nodup_dedup indices)
  have mem : (i, j) ∈ order.flatMap pairsIn ↔
      ∃ item ∈ cellIndex cellSize boxes, i ∈ item.2 ∧ j ∈ item.2 ∧ i < j := by
    rw [List.mem_flatMap]
    constructor
    · rintro ⟨indices, listed, pair⟩
      obtain ⟨item, known, rfl⟩ := List.mem_map.mp (same.mem_iff.mp listed)
      obtain ⟨first, second, less⟩ := (mem_ordered_pairs (strict _)).mp pair
      rw [mem_sort_on, List.mem_dedup] at first second
      exact ⟨item, known, first, second, less⟩
    · rintro ⟨item, known, first, second, less⟩
      refine ⟨item.2, same.mem_iff.mpr (List.mem_map_of_mem known),
        (mem_ordered_pairs (strict _)).mpr ⟨?_, ?_, less⟩⟩
      · rwa [mem_sort_on, List.mem_dedup]
      · rwa [mem_sort_on, List.mem_dedup]
  rw [mem]
  constructor
  · rintro ⟨item, known, first, second, less⟩
    obtain ⟨left, left_at, left_cell⟩ := (mem_cell_index known).mp first
    obtain ⟨right, right_at, right_cell⟩ := (mem_cell_index known).mp second
    exact ⟨less, left, right, item.1, left_at, right_at, left_cell, right_cell⟩
  · rintro ⟨less, left, right, cell, left_at, right_at, left_cell, right_cell⟩
    have reached : cell ∈ (cellIndex cellSize boxes).map Prod.fst := by
      rw [cell_index_groups.keys]
      refine List.mem_map.mpr ⟨(cell, i), List.mem_flatMap.mpr ⟨(left, i), ?_, ?_⟩, rfl⟩
      · exact List.mk_mem_zipIdx_iff_getElem?.mpr left_at
      · exact List.mem_map_of_mem left_cell
    obtain ⟨item, known, rfl⟩ := List.mem_map.mp reached
    exact ⟨item, known, (mem_cell_index known).mpr ⟨left, left_at, left_cell⟩,
      (mem_cell_index known).mpr ⟨right, right_at, right_cell⟩, less⟩

end Cells

section Exact

variable {K : Type} [Field K] [LinearOrder K] [IsStrictOrderedRing K] [FloorRing K] [Roots K]
  {cellSize low high x : K}

theorem mem_cell_range (size : 0 < cellSize) (above : low ≤ x) (below : x ≤ high) :
    ⌊x / cellSize⌋ ∈ cellRange cellSize low high :=
  mem_range_of_floors (Int.floor_le_floor (div_le_div_of_nonneg_right above size.le))
    (Int.floor_le_floor (div_le_div_of_nonneg_right below size.le))

theorem mem_cells_around {left right p : PointM K} (size : 0 < cellSize)
    (x_above : min left.1 right.1 ≤ p.1) (x_below : p.1 ≤ max left.1 right.1)
    (y_above : min left.2 right.2 ≤ p.2) (y_below : p.2 ≤ max left.2 right.2) :
    (⌊p.1 / cellSize⌋, ⌊p.2 / cellSize⌋) ∈ (Box.around left right).cells cellSize := by
  unfold Box.cells Box.around
  simp only [least_exact, greatest_exact]
  exact List.mem_flatMap.mpr ⟨_, mem_cell_range size x_above x_below,
    List.mem_map_of_mem (mem_cell_range size y_above y_below)⟩

end Exact

end Metroflow.Lib
