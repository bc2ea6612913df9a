import Metroflow.Map.OsmImport

namespace Metroflow.Map.Osm

open Metroflow.Lib

section Slices

variable {α : Type} {entries : List α} {indices : List ℕ} {i j k : ℕ}

theorem slices_cons_cons : slices entries (i :: j :: indices) =
    (entries.take (j + 1)).drop i :: slices entries (j :: indices) := rfl

theorem length_slice (forward : i < j) (inside : j < entries.length) :
    2 ≤ ((entries.take (j + 1)).drop i).length := by
  rw [List.length_drop, List.length_take]
  omega

theorem head_slice (forward : i < j) : ((entries.take (j + 1)).drop i).head? =
    entries[i]? := by
  rw [List.head?_drop, List.getElem?_take_of_lt (by omega)]

theorem last_slice (forward : i < j) (inside : j < entries.length) :
    ((entries.take (j + 1)).drop i).getLast? = entries[j]? := by
  rw [List.getLast?_drop, List.length_take, if_neg (by omega), List.getLast?_take, if_neg (by omega)]
  simp [List.getElem?_eq_getElem inside]

theorem tail_slice : ((entries.take (j + 1)).drop i).tail = (entries.take (j + 1)).drop (i + 1) := by
  rw [List.tail_drop]

theorem mem_inner_slice {a : α} (mem : a ∈ ((entries.take (j + 1)).drop i).tail.dropLast) :
    ∃ k, i < k ∧ k < j ∧ entries[k]? = some a := by
  rw [tail_slice] at mem
  obtain ⟨n, found⟩ := List.mem_iff_getElem?.mp mem
  rw [List.getElem?_dropLast] at found
  split at found
  · rename_i inner
    rw [List.length_drop, List.length_take] at inner
    rw [List.getElem?_drop, List.getElem?_take_of_lt (by omega)] at found
    exact ⟨i + 1 + n, by omega, by omega, found⟩
  · cases found

theorem slices_spec (increasing : (i :: indices).IsChain (· < ·))
    (inside : ∀ k ∈ i :: indices, k < entries.length) :
    Linked (slices entries (i :: indices)) ∧
      (∀ first ∈ (slices entries (i :: indices)).head?, first.head? = entries[i]?) ∧
      (slices entries (i :: indices)).flatMap List.tail =
        (entries.take ((i :: indices).getLast (List.cons_ne_nil _ _) + 1)).drop (i + 1) := by
  induction indices generalizing i with
  | nil =>
    refine ⟨List.isChain_nil, fun first none_yet => (by cases none_yet), ?_⟩
    rw [List.getLast_singleton, List.drop_of_length_le (by rw [List.length_take]; omega)]
    rfl
  | cons j indices ih =>
    obtain ⟨forward, later⟩ := List.isChain_cons_cons.mp increasing
    obtain ⟨i_inside, rest⟩ := List.forall_mem_cons.mp inside
    have j_inside := (List.forall_mem_cons.mp rest).1
    obtain ⟨linked, starts, joined⟩ := ih later rest
    rw [slices_cons_cons]
    refine ⟨List.isChain_cons.mpr ⟨fun next follows => ?_, linked⟩, fun first here => ?_, ?_⟩
    · rw [last_slice forward j_inside, starts next follows]
    · obtain rfl := Option.some.inj here
      exact head_slice forward
    · rw [List.flatMap_cons, joined, tail_slice, List.getLast_cons (List.cons_ne_nil _ _)]
      have ordered : j ≤ (j :: indices).getLast (List.cons_ne_nil _ _) := by
        have sorted := List.isChain_iff_pairwise.mp later
        rcases List.mem_cons.mp (List.getLast_mem (List.cons_ne_nil j indices)) with same | after
        · exact same.ge
        · exact ((List.pairwise_cons.mp sorted).1 _ after).le
      set e := (j :: indices).getLast (List.cons_ne_nil _ _)
      have split : entries.take (e + 1) =
          entries.take (j + 1) ++ (entries.take (e + 1)).drop (j + 1) := by
        conv_lhs => rw [← List.take_append_drop (j + 1) (entries.take (e + 1)), List.take_take,
          min_eq_left (by omega)]
      conv_rhs => rw [split, List.drop_append_of_le_length (by rw [List.length_take]; omega)]

theorem none_between (increasing : indices.IsChain (· < ·)) {step : ℕ × ℕ}
    (listed : step ∈ walkSteps indices) (mem : k ∈ indices) : ¬ (step.1 < k ∧ k < step.2) := by
  induction indices with
  | nil => cases mem
  | cons i indices ih =>
    cases indices with
    | nil => cases listed
    | cons j indices =>
      obtain ⟨forward, later⟩ := List.isChain_cons_cons.mp increasing
      have sorted := List.isChain_iff_pairwise.mp increasing
      rw [walk_steps_cons] at listed
      rcases List.mem_cons.mp listed with rfl | deeper
      · rintro ⟨after, before⟩
        rcases List.mem_cons.mp mem with rfl | mem
        · exact lt_irrefl _ after
        rcases List.mem_cons.mp mem with rfl | mem
        · exact lt_irrefl _ before
        · have := (List.pairwise_cons.mp (List.isChain_iff_pairwise.mp later)).1 k mem
          exact lt_asymm this before
      · rcases List.mem_cons.mp mem with rfl | mem
        · have start : step.1 ∈ j :: indices := (List.of_mem_zip deeper).1
          have := (List.pairwise_cons.mp sorted).1 _ start
          exact fun both => lt_asymm this both.1
        · exact ih later deeper mem

theorem step_of_none_between (increasing : indices.IsChain (· < ·)) (first : i ∈ indices)
    (last : j ∈ indices) (forward : i < j) (none_there : ∀ k ∈ indices, ¬ (i < k ∧ k < j)) :
    (i, j) ∈ walkSteps indices := by
  induction indices with
  | nil => cases first
  | cons a indices ih =>
    have sorted := (List.pairwise_cons.mp (List.isChain_iff_pairwise.mp increasing)).1
    have last_later : j ∈ indices := by
      rcases List.mem_cons.mp last with rfl | later
      · rcases List.mem_cons.mp first with rfl | later
        · exact absurd forward (lt_irrefl _)
        · exact absurd forward (sorted i later).asymm
      · exact later
    cases indices with
    | nil => cases last_later
    | cons b indices =>
      obtain ⟨next, later⟩ := List.isChain_cons_cons.mp increasing
      have rest := (List.forall_mem_cons.mp none_there).2
      rw [walk_steps_cons]
      rcases List.mem_cons.mp first with rfl | first_later
      · have here : ¬ b < j := fun before => (List.forall_mem_cons.mp rest).1 ⟨next, before⟩
        rcases List.mem_cons.mp last_later with rfl | beyond
        · exact List.mem_cons_self
        · have := (List.pairwise_cons.mp (List.isChain_iff_pairwise.mp later)).1 j beyond
          exact absurd this here
      · exact List.mem_cons_of_mem _ (ih later first_later last_later rest)

end Slices

section Split

variable {shared : ℤ → Bool} {refs : List ℤ} {k : ℕ} {u : ℤ}

theorem mem_inner_indices :
    k ∈ ((refs.tail.dropLast.zipIdx 1).filter fun item => shared item.1).map Prod.snd ↔
      0 < k ∧ k < refs.length - 1 ∧ ∃ u, refs[k]? = some u ∧ shared u = true := by
  have inner : ∀ u, (u, k) ∈ refs.tail.dropLast.zipIdx 1 ↔
      0 < k ∧ k < refs.length - 1 ∧ refs[k]? = some u := by
    intro u
    rw [List.mk_mem_zipIdx_iff_le_and_getElem?_sub, List.getElem?_dropLast, List.length_tail]
    refine and_congr_right fun positive => ?_
    rw [List.getElem?_tail, Nat.sub_add_cancel positive]
    split
    · rename_i below
      exact ⟨fun found => ⟨by omega, found⟩, fun both => both.2⟩
    · rename_i beyond
      exact ⟨fun none_there => (by cases none_there), fun both => absurd both.1 (by omega)⟩
  rw [List.mem_map]
  constructor
  · rintro ⟨⟨u, place⟩, kept, rfl⟩
    obtain ⟨listed, marked⟩ := List.mem_filter.mp kept
    obtain ⟨positive, below, found⟩ := (inner u).mp listed
    exact ⟨positive, below, u, found, marked⟩
  · rintro ⟨positive, below, u, found, marked⟩
    exact ⟨(u, k), List.mem_filter.mpr ⟨(inner u).mpr ⟨positive, below, found⟩, marked⟩, rfl⟩

theorem inner_indices_sorted :
    (((refs.tail.dropLast.zipIdx 1).filter fun item => shared item.1).map Prod.snd).Pairwise
      (· < ·) := by
  have whole : ((refs.tail.dropLast.zipIdx 1).map Prod.snd).Pairwise (· < ·) := by
    rw [List.zipIdx_map_snd]
    exact List.pairwise_lt_range'
  exact whole.sublist (List.filter_sublist.map _)

structure CutPlaces (shared : ℤ → Bool) (refs : List ℤ) (indices : List ℕ) : Prop where
  increasing : indices.IsChain (· < ·)
  starts : indices.head? = some 0
  stops : indices.getLast? = some (refs.length - 1)
  inside : ∀ k ∈ indices, k < refs.length
  marked : ∀ k, 0 < k → k < refs.length - 1 →
    (k ∈ indices ↔ refs.head? = refs.getLast? ∨ ∃ u, refs[k]? = some u ∧ shared u = true)

theorem split_indices_spec (shared : ℤ → Bool) (long : 2 ≤ refs.length) :
    CutPlaces shared refs (splitIndices shared refs) := by
  unfold splitIndices
  split
  · rename_i closed
    exact {
      increasing := List.pairwise_lt_range.isChain
      starts := by rw [List.head?_range, if_neg (by omega)]
      stops := by rw [List.getLast?_range, if_neg (by omega)]
      inside := fun k listed => List.mem_range.mp listed
      marked := fun k _ below => ⟨fun _ => .inl closed, fun _ => List.mem_range.mpr (by omega)⟩ }
  · rename_i opened
    have inner := @mem_inner_indices shared refs
    exact {
      increasing := by
        refine List.Pairwise.isChain (List.pairwise_cons.mpr ⟨fun k listed => ?_,
          List.pairwise_append.mpr ⟨inner_indices_sorted, List.pairwise_singleton _ _,
            fun k listed last same => ?_⟩⟩)
        · rcases List.mem_append.mp listed with cut | last
          · exact (inner.mp cut).1
          · rw [List.mem_singleton.mp last]
            omega
        · rw [List.mem_singleton.mp same]
          exact (inner.mp listed).2.1
      starts := rfl
      stops := by rw [← List.cons_append, List.getLast?_concat]
      inside := by
        intro k listed
        rcases List.mem_cons.mp listed with rfl | later
        · omega
        rcases List.mem_append.mp later with cut | last
        · have := (inner.mp cut).2.1
          omega
        · rw [List.mem_singleton.mp last]
          omega
      marked := by
        intro k positive below
        rw [List.mem_cons, List.mem_append, inner, List.mem_singleton]
        constructor
        · rintro (rfl | ⟨-, -, shared⟩ | rfl)
          · exact absurd positive (lt_irrefl 0)
          · exact .inr shared
          · exact absurd below (lt_irrefl _)
        · rintro (closed | shared)
          · exact absurd closed opened
          · exact .inr (.inl ⟨positive, below, shared⟩) }

/-- Where a way is cut: the pieces put together are the way, and no piece passes a
shared node. -/
structure CutPieces (shared : ℤ → Bool) (refs : List ℤ) (pieces : List (List ℤ)) : Prop where
  linked : Linked pieces
  joined : glue pieces = refs
  long : ∀ piece ∈ pieces, 2 ≤ piece.length
  inner : ∀ piece ∈ pieces, ∀ u ∈ piece.tail.dropLast, shared u = false

theorem mem_split_pieces (shared : ℤ → Bool) (long : 2 ≤ refs.length) {piece : List ℤ} :
    piece ∈ splitPieces shared refs ↔ ∃ i j, (i, j) ∈ walkSteps (splitIndices shared refs) ∧
      i < j ∧ j < refs.length ∧ piece = (refs.take (j + 1)).drop i := by
  have places := split_indices_spec shared long
  unfold splitPieces slices
  rw [List.mem_map]
  constructor
  · rintro ⟨⟨i, j⟩, step, rfl⟩
    have forward := chain_iff_steps.mp places.increasing _ step
    exact ⟨i, j, step, forward, places.inside j (List.mem_of_mem_tail (List.of_mem_zip step).2), rfl⟩
  · rintro ⟨i, j, step, -, -, rfl⟩
    exact ⟨(i, j), step, rfl⟩

theorem split_pieces_spec (shared : ℤ → Bool) (long : 2 ≤ refs.length) :
    CutPieces shared refs (splitPieces shared refs) := by
  have places := split_indices_spec shared long
  have each {piece : List ℤ} : piece ∈ splitPieces shared refs ↔ _ := mem_split_pieces shared long
  have stretch : Linked (splitPieces shared refs) ∧ glue (splitPieces shared refs) = refs := by
    unfold splitPieces
    obtain ⟨indices, split⟩ : ∃ indices, splitIndices shared refs = 0 :: indices := by
      have starts := places.starts
      cases same : splitIndices shared refs with
      | nil =>
        rw [same] at starts
        cases starts
      | cons first indices =>
        rw [same] at starts
        exact ⟨indices, by rw [Option.some.inj starts]⟩
    rw [split] at places ⊢
    obtain ⟨linked, starts, joined⟩ := slices_spec places.increasing places.inside
    have stops := places.stops
    rw [List.getLast?_eq_getLast_of_ne_nil (List.cons_ne_nil _ _)] at stops
    rw [Option.some.inj stops, Nat.sub_add_cancel (by omega), List.take_length] at joined
    refine ⟨linked, ?_⟩
    cases parts : slices refs (0 :: indices) with
    | nil =>
      rw [parts, List.drop_one] at joined
      have := congrArg List.length joined
      rw [List.flatMap_nil, List.length_nil, List.length_tail] at this
      omega
    | cons first others =>
      rw [parts] at starts joined
      rw [glue_cons, joined, List.take_one, starts first rfl, ← List.head?_eq_getElem?, zero_add,
        ← List.take_one]
      exact List.take_append_drop 1 refs
  exact {
    linked := stretch.1
    joined := stretch.2
    long := by
      intro piece listed
      obtain ⟨i, j, -, forward, inside, rfl⟩ := each.mp listed
      exact length_slice forward inside
    inner := by
      intro piece listed u mem
      obtain ⟨i, j, step, forward, inside, rfl⟩ := each.mp listed
      obtain ⟨k, after, before, found⟩ := mem_inner_slice mem
      rw [Bool.eq_false_iff]
      intro marked
      have cut := (places.marked k (by omega) (by omega)).mpr (.inr ⟨u, found, marked⟩)
      exact none_between places.increasing step cut ⟨after, before⟩ }

/-- An open way comes back to a node without passing a shared node in between. -/
def ReturnsUncut (shared : ℤ → Bool) (refs : List ℤ) : Prop :=
  refs.head? ≠ refs.getLast? ∧ ∃ (i j : ℕ) (u : ℤ), i < j ∧ refs[i]? = some u ∧
    refs[j]? = some u ∧ ∀ (k : ℕ) (v : ℤ), i < k → k < j → refs[k]? = some v → shared v = false

theorem pieces_open_iff (long : 2 ≤ refs.length) (moves : refs.IsChain (· ≠ ·))
    (twice : ∀ (i j : ℕ) (u : ℤ), i < j → refs[i]? = some u → refs[j]? = some u →
      shared u = true) :
    (∀ piece ∈ splitPieces shared refs, piece.head? ≠ piece.getLast?) ↔
      ¬ ReturnsUncut shared refs := by
  have places := split_indices_spec shared long
  have each {piece : List ℤ} : piece ∈ splitPieces shared refs ↔ _ := mem_split_pieces shared long
  constructor
  · rintro apart ⟨opened, i, j, u, forward, first, last, unmarked⟩
    obtain ⟨inside, -⟩ := List.getElem?_eq_some_iff.mp last
    have marked := twice i j u forward first last
    have listed : ∀ k, k < refs.length → refs[k]? = some u → k ∈ splitIndices shared refs := by
      intro k below found
      by_cases start : k = 0
      · exact start ▸ List.mem_of_head? places.starts
      by_cases stop : k = refs.length - 1
      · exact stop ▸ List.mem_of_getLast? places.stops
      · exact (places.marked k (by omega) (by omega)).mpr (.inr ⟨u, found, marked⟩)
    have none_there : ∀ k ∈ splitIndices shared refs, ¬ (i < k ∧ k < j) := by
      rintro k cut ⟨after, before⟩
      rcases (places.marked k (by omega) (by omega)).mp cut with closed | ⟨v, found, shared⟩
      · exact opened closed
      · rw [unmarked k v after before found] at shared
        cases shared
    have step := step_of_none_between places.increasing (listed i (by omega) first)
      (listed j inside last) forward none_there
    apply apart _ (each.mpr ⟨i, j, step, forward, inside, rfl⟩)
    rw [head_slice forward, last_slice forward inside, first, last]
  · intro uncut piece listed same
    obtain ⟨i, j, step, forward, inside, rfl⟩ := each.mp listed
    rw [head_slice forward, last_slice forward inside] at same
    obtain ⟨u, last⟩ : ∃ u, refs[j]? = some u := ⟨_, List.getElem?_eq_getElem inside⟩
    have none_there : ∀ k, 0 < k → k < refs.length - 1 → i < k → k < j →
        k ∉ splitIndices shared refs :=
      fun k _ _ after before cut => none_between places.increasing step cut ⟨after, before⟩
    have next : i + 1 < j := by
      by_contra adjacent
      obtain rfl : j = i + 1 := by omega
      obtain ⟨_, found⟩ := List.getElem?_eq_some_iff.mp (same.trans last)
      obtain ⟨_, found'⟩ := List.getElem?_eq_some_iff.mp last
      exact List.isChain_iff_getElem.mp moves i inside (found.trans found'.symm)
    refine uncut ⟨fun closed => ?_, i, j, u, forward, same.trans last, last,
      fun k v after before found => ?_⟩
    · exact none_there (i + 1) (by omega) (by omega) (by omega) next
        ((places.marked _ (by omega) (by omega)).mpr (.inl closed))
    · rw [Bool.eq_false_iff]
      intro marked
      exact none_there k (by omega) (by omega) after before
        ((places.marked k (by omega) (by omega)).mpr (.inr ⟨v, found, marked⟩))

end Split


section Shared

variable {ways : List Way} {way way' : Way} {u : ℤ} {i j : ℕ}

theorem unshared_iff : isShared ways u = false ↔ (occurrences ways).count u ≤ 1 := by
  have counted : ((ways.filter fun way => u ∈ way.nodeRefs).map Way.sourceId).dedup.length ≤
      (occurrences ways).count u := by
    refine (List.dedup_sublist _).length_le.trans ?_
    rw [List.length_map]
    unfold occurrences
    induction ways with
    | nil => exact le_rfl
    | cons way ways ih =>
      rw [List.flatMap_cons, List.count_append, List.filter_cons]
      split
      · rename_i passes
        have := List.count_pos_iff.mpr (of_decide_eq_true passes)
        rw [List.length_cons]
        omega
      · omega
  unfold isShared
  rw [decide_eq_false_iff_not]
  omega

theorem shared_of_twice (known : way ∈ ways) (forward : i < j) (first : way.nodeRefs[i]? = some u)
    (last : way.nodeRefs[j]? = some u) : isShared ways u = true := by
  obtain ⟨i_inside, first⟩ := List.getElem?_eq_some_iff.mp first
  obtain ⟨j_inside, last⟩ := List.getElem?_eq_some_iff.mp last
  have twice : 2 ≤ way.nodeRefs.count u := List.duplicate_iff_two_le_count.mp
    (List.duplicate_iff_exists_distinct_get.mpr
      ⟨⟨i, i_inside⟩, ⟨j, j_inside⟩, forward, first.symm, last.symm⟩)
  have within : way.nodeRefs.count u ≤ (occurrences ways).count u := by
    obtain ⟨before, after, rfl⟩ := List.append_of_mem known
    unfold occurrences
    rw [List.flatMap_append, List.flatMap_cons, List.count_append, List.count_append]
    omega
  rw [← Bool.not_eq_false, unshared_iff]
  omega

theorem shared_of_two (known : way ∈ ways) (known' : way' ∈ ways) (apart : way' ≠ way)
    (mem : u ∈ way.nodeRefs) (mem' : u ∈ way'.nodeRefs) : isShared ways u = true := by
  rw [← Bool.not_eq_false, unshared_iff]
  obtain ⟨before, after, rfl⟩ := List.append_of_mem known
  have here := List.count_pos_iff.mpr mem
  have there : 0 < (before.flatMap Way.nodeRefs).count u ∨
      0 < (after.flatMap Way.nodeRefs).count u := by
    rw [List.count_pos_iff, List.count_pos_iff, List.mem_flatMap, List.mem_flatMap]
    rcases List.mem_append.mp known' with earlier | later
    · exact .inl ⟨way', earlier, mem'⟩
    · exact .inr ⟨way', (List.mem_cons.mp later).resolve_left apart, mem'⟩
  unfold occurrences
  rw [List.flatMap_append, List.flatMap_cons, List.count_append, List.count_append]
  omega

end Shared

end Metroflow.Map.Osm
