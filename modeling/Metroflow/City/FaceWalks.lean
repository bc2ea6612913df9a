import Metroflow.Lib.ClosedWalks
import Metroflow.Lib.Dict
import Metroflow.Lib.Loops

namespace Metroflow.City
open Lib

/-- `values[index]`, a negative index counted from the end. -/
def pyItem (values : List ℤ) (index : ℤ) : Option ℤ :=
  if index < 0 then values.reverse[(-index - 1).toNat]? else values[index.toNat]?

/-- One pass over a face boundary: the first node between two visits of one neighbour is removed,
with the visit before it. -/
def pruneStep (output : List ℤ) : Option (List ℤ) :=
  if output.length < 3 then none
  else
    let spur := (List.range output.length).find? fun index : ℕ =>
      pyItem output (index - 1) = pyItem output ((index + 1) % output.length : ℕ)
    spur.map fun index =>
      let shorter := output.eraseIdx index
      shorter.eraseIdx (((index : ℤ) - 1) % shorter.length).toNat

def pruneFaceSpurs (face : List ℤ) : List ℤ := loop pruneStep face.length face

def firstRepeat : Dict ℤ ℕ → ℕ → List ℤ → Option (ℕ × ℕ)
  | _, _, [] => none
  | firstIndexByNode, index, nodeId :: rest =>
    match firstIndexByNode.get nodeId with
    | none => firstRepeat (firstIndexByNode.set nodeId index) (index + 1) rest
    | some firstIndex => some (firstIndex, index)

section Repeats

variable {seen : Dict ℤ ℕ} {face past rest : List ℤ} {first index : ℕ}

/-- The nodes passed, with their places. -/
def Recorded (seen : Dict ℤ ℕ) (past : List ℤ) : Prop :=
  ∀ node i, seen.get node = some i → past[i]? = some node

theorem Recorded.set (h : Recorded seen past) {node : ℤ} :
    Recorded (seen.set node past.length) (past ++ [node]) := by
  intro other i known
  rw [Dict.get_set] at known
  split at known
  · rename_i same
    obtain rfl := Option.some.inj known
    rw [List.getElem?_concat_length, same]
  · have place := h other i known
    rw [List.getElem?_append_left (List.getElem?_eq_some_iff.mp place).1, place]

theorem first_repeat_some (h : Recorded seen past)
    (found : firstRepeat seen past.length rest = some (first, index)) :
    first < index ∧ ∃ node, (past ++ rest)[first]? = some node ∧
      (past ++ rest)[index]? = some node := by
  induction rest generalizing seen past with
  | nil => cases found
  | cons node rest ih =>
    unfold firstRepeat at found
    split at found
    · have shifted : firstRepeat (seen.set node past.length) (past ++ [node]).length rest =
          some (first, index) := by
        rw [List.length_append]
        exact found
      have later := ih h.set shifted
      rwa [List.append_assoc] at later
    · rename_i firstIndex known
      obtain ⟨rfl, rfl⟩ := Prod.mk.inj (Option.some.inj found)
      have place := h node firstIndex known
      have before := (List.getElem?_eq_some_iff.mp place).1
      refine ⟨before, node, ?_, ?_⟩
      · rw [List.getElem?_append_left before, place]
      · rw [List.getElem?_append_right le_rfl, Nat.sub_self]
        rfl

theorem first_repeat_none (known : ∀ node ∈ past, seen.get node ≠ none) (distinct : past.Nodup)
    (none_found : firstRepeat seen past.length rest = none) : (past ++ rest).Nodup := by
  induction rest generalizing seen past with
  | nil => rwa [List.append_nil]
  | cons node rest ih =>
    unfold firstRepeat at none_found
    split at none_found
    · rename_i new
      have apart : node ∉ past := fun listed => known node listed new
      have shifted : firstRepeat (seen.set node past.length) (past ++ [node]).length rest =
          none := by
        rw [List.length_append]
        exact none_found
      have recorded : ∀ other ∈ past ++ [node], (seen.set node past.length).get other ≠ none := by
        intro other listed
        rw [Dict.get_set]
        split
        · exact Option.some_ne_none _
        · rename_i elsewhere
          refine known other ?_
          rcases List.mem_append.mp listed with old | here
          · exact old
          · exact absurd (List.mem_singleton.mp here) elsewhere
      have later := ih recorded (List.Nodup.append distinct (List.nodup_singleton node)
        (List.disjoint_singleton.mpr apart)) shifted
      rwa [List.append_assoc] at later
    · cases none_found

theorem first_repeat_parts (found : firstRepeat [] 0 face = some (first, index)) :
    first < index ∧ index < face.length ∧ ∃ node before between after,
      face.take first = before ∧ (face.take index).drop first = node :: between ∧
      face.drop index = node :: after ∧ face = before ++ node :: between ++ node :: after := by
  obtain ⟨less, node, at_first, at_index⟩ :=
    first_repeat_some (show Recorded [] [] from fun node i known => by cases known) found
  rw [List.nil_append] at at_first at_index
  obtain ⟨inside, at_index⟩ := List.getElem?_eq_some_iff.mp at_index
  obtain ⟨inside', at_first⟩ := List.getElem?_eq_some_iff.mp at_first
  have middle : (face.take index).drop first = node :: (face.take index).drop (first + 1) := by
    rw [List.drop_eq_getElem_cons (by rw [List.length_take]; omega), List.getElem_take, at_first]
  have last : face.drop index = node :: face.drop (index + 1) := by
    rw [List.drop_eq_getElem_cons inside, at_index]
  refine ⟨less, inside, node, _, _, _, rfl, middle, last, ?_⟩
  rw [← middle, ← last]
  have front : face.take first ++ (face.take index).drop first = face.take index := by
    have start : face.take first = (face.take index).take first := by
      rw [List.take_take, min_eq_left less.le]
    rw [start, List.take_append_drop]
  rw [front, List.take_append_drop]

end Repeats

/-- The simple cycles of a face walk, cut apart where a node repeats. -/
def splitFaceWalk (face : List ℤ) : List (List ℤ) :=
  match _found : firstRepeat [] 0 face with
  | none => if 3 ≤ face.length then [face] else []
  | some (first, index) =>
    let cycle := (face.take index).drop first
    let remainder := face.take first ++ face.drop index
    (if 3 ≤ cycle.length then splitFaceWalk cycle else []) ++
      if 3 ≤ remainder.length then splitFaceWalk remainder else []
termination_by face.length
decreasing_by
  all_goals
    obtain ⟨less, inside, -⟩ := first_repeat_parts _found
    simp only [List.length_drop, List.length_take, List.length_append]
    omega

section Pruning

variable {output shorter walk rest : List ℤ}

/-- A part of a walk whose other edges are gone both ways. -/
def KeepsEdges (walk : List ℤ) (kept : Multiset (ℤ × ℤ)) : Prop :=
  ∃ removed, BothWays removed ∧ (cycleEdges walk : Multiset (ℤ × ℤ)) = kept + removed

theorem py_item_nat (values : List ℤ) (index : ℕ) : pyItem values index = values[index]? := by
  rw [pyItem, if_neg (by omega), Int.toNat_natCast]

theorem py_item_last (l : List ℤ) (a : ℤ) : pyItem (l ++ [a]) (-1) = some a := by
  rw [pyItem, if_pos (by decide), List.reverse_append]
  rfl

theorem erase_at (before : List ℤ) (a : ℤ) (after : List ℤ) :
    (before ++ a :: after).eraseIdx before.length = before ++ after := by
  rw [List.eraseIdx_append_of_length_le le_rfl, Nat.sub_self]
  rfl

theorem erased_first (node : ℤ) {middle : List ℤ} (neighbour : ℤ) :
    (((node :: (middle ++ [neighbour])).eraseIdx 0).eraseIdx ((((0 : ℕ) : ℤ) - 1) %
      ((node :: (middle ++ [neighbour])).eraseIdx 0).length).toNat) = middle := by
  have place : (((0 : ℕ) : ℤ) - 1) % (middle ++ [neighbour]).length = middle.length := by
    rw [← Int.add_emod_right, List.length_append, List.length_singleton]
    have eq : ((0 : ℕ) : ℤ) - 1 + ((middle.length + 1 : ℕ) : ℤ) = middle.length := by omega
    rw [eq]
    exact Int.emod_eq_of_lt (by omega) (by omega)
  change (middle ++ [neighbour]).eraseIdx _ = middle
  rw [List.eraseIdx_cons_zero, place, Int.toNat_natCast, erase_at, List.append_nil]

theorem erased_later (before : List ℤ) (neighbour node : ℤ) (after : List ℤ) :
    (((before ++ neighbour :: node :: after).eraseIdx (before.length + 1)).eraseIdx
      ((((before.length + 1 : ℕ) : ℤ) - 1) %
        ((before ++ neighbour :: node :: after).eraseIdx (before.length + 1)).length).toNat) =
      before ++ after := by
  have first : (before ++ neighbour :: node :: after).eraseIdx (before.length + 1) =
      before ++ neighbour :: after := by
    have split : before ++ neighbour :: node :: after =
        (before ++ [neighbour]) ++ node :: after := by
      rw [List.append_assoc, List.singleton_append]
    have length : before.length + 1 = (before ++ [neighbour]).length := by
      rw [List.length_append, List.length_singleton]
    rw [split, length, erase_at, List.append_assoc, List.singleton_append]
  have place : (((before.length + 1 : ℕ) : ℤ) - 1) % (before ++ neighbour :: after).length =
      before.length := by
    rw [List.length_append, List.length_cons, Nat.cast_add, Nat.cast_one, add_sub_cancel_right]
    exact Int.emod_eq_of_lt (by omega) (by omega)
  rw [first, place, Int.toNat_natCast, erase_at]

theorem spur_parts {index : ℕ} (three : 3 ≤ output.length) (inside : index < output.length)
    (spur : pyItem output (index - 1) = pyItem output ((index + 1) % output.length : ℕ)) :
    ∃ neighbour node rest, output.IsRotated (neighbour :: [node] ++ neighbour :: rest) ∧
      ((output.eraseIdx index).eraseIdx
        (((index : ℤ) - 1) % (output.eraseIdx index).length).toNat).IsRotated
          (neighbour :: rest) := by
  rw [py_item_nat] at spur
  cases index with
  | zero =>
    obtain ⟨node, rest, rfl⟩ := List.exists_cons_of_length_pos (show 0 < output.length by omega)
    rcases List.eq_nil_or_concat' rest with rfl | ⟨middle, neighbour, rfl⟩
    · simp at three
    cases middle with
    | nil => simp at three
    | cons next middle =>
      have same : some neighbour = some next := by
        have last : pyItem (node :: (next :: middle ++ [neighbour])) ((0 : ℕ) - 1) =
            some neighbour := py_item_last (node :: next :: middle) neighbour
        rw [last, Nat.mod_eq_of_lt (by omega)] at spur
        exact spur
      refine ⟨neighbour, node, middle, ?_, ?_⟩
      · rw [Option.some.inj same]
        exact (List.isRotated_append : (node :: next :: middle ++ [next]).IsRotated _)
      · rw [erased_first, Option.some.inj same]
  | succ k =>
    have split : output = output.take k ++ output[k] :: output[k + 1] :: output.drop (k + 2) := by
      rw [← List.drop_eq_getElem_cons, ← List.drop_eq_getElem_cons, List.take_append_drop]
    have length : (output.take k).length = k := by
      rw [List.length_take]
      omega
    generalize output.take k = before at split length
    generalize output[k] = neighbour at split
    generalize output[k + 1] = node at split
    generalize output.drop (k + 2) = after at split
    subst split
    subst length
    rw [Nat.cast_add, Nat.cast_one, add_sub_cancel_right, py_item_nat] at spur
    rw [List.getElem?_append_right le_rfl, Nat.sub_self, List.getElem?_cons_zero] at spur
    -- what follows the node, around the end of the list, begins with the neighbour again
    obtain ⟨rest, follows⟩ : ∃ rest, after ++ before = neighbour :: rest := by
      cases after with
      | nil =>
        cases before with
        | nil => simp at three
        | cons first before =>
          have wraps : (before.length + 1 + 1 + 1) % (before.length + 1 + 1 + 1) = 0 :=
            Nat.mod_self _
          simp only [List.length_append, List.length_cons, List.length_nil, Nat.zero_add,
            Nat.add_assoc, Nat.reduceAdd] at spur wraps
          rw [wraps] at spur
          exact ⟨before, by rw [List.nil_append, Option.some.inj spur]⟩
      | cons next after =>
        have later : (before.length + 1 + 1) %
            (before ++ neighbour :: node :: next :: after).length = before.length + 2 := by
          refine Nat.mod_eq_of_lt ?_
          simp only [List.length_append, List.length_cons]
          omega
        rw [later, List.getElem?_append_right (by omega), Nat.add_sub_cancel_left] at spur
        exact ⟨after ++ before, by rw [List.cons_append, Option.some.inj spur]⟩
    refine ⟨neighbour, node, rest, ?_, ?_⟩
    · have turned : (before ++ neighbour :: node :: after).IsRotated
          (neighbour :: node :: after ++ before) := List.isRotated_append
      rw [List.cons_append, List.cons_append, follows] at turned
      exact turned
    · rw [erased_later, ← follows]
      exact List.isRotated_append

theorem prune_step_edges (pruned : pruneStep output = some shorter) :
    shorter.length < output.length ∧ KeepsEdges output (cycleEdges shorter) := by
  unfold pruneStep at pruned
  split at pruned
  · cases pruned
  · rename_i three
    rw [Option.map_eq_some_iff] at pruned
    obtain ⟨index, found, rfl⟩ := pruned
    have spur : pyItem output (index - 1) = pyItem output ((index + 1) % output.length : ℕ) := by
      simpa using List.find?_some found
    have inside := List.mem_range.mp (List.mem_of_find?_eq_some found)
    obtain ⟨neighbour, node, rest, before, after⟩ := spur_parts (not_lt.mp three) inside spur
    refine ⟨?_, ?_⟩
    · dsimp only
      rw [after.perm.length_eq, before.perm.length_eq]
      simp
    · refine ⟨cycleEdges [neighbour, node],
        both_ways_of_short (show [neighbour, node].length < 3 from Nat.lt_succ_self 2), ?_⟩
      have edges := cycle_edges_rotated before
      rw [cycle_edges_append] at edges
      refine (Multiset.coe_eq_coe.mpr edges).trans ?_
      rw [← Multiset.coe_add, add_comm]
      exact congrArg (· + _) (Multiset.coe_eq_coe.mpr (cycle_edges_rotated after).symm)

theorem prune_face_spurs_spec (face : List ℤ) :
    pruneStep (pruneFaceSpurs face) = none ∧
      KeepsEdges face (cycleEdges (pruneFaceSpurs face)) := by
  constructor
  · exact loop_halts (I := fun _ => True) (fun _ _ _ _ => trivial) List.length
      (fun _ _ _ pruned => (prune_step_edges pruned).1) trivial le_rfl
  · have start : KeepsEdges face (cycleEdges face) := ⟨0, rfl, (add_zero _).symm⟩
    have kept : ∀ output shorter, KeepsEdges face (cycleEdges output) →
        pruneStep output = some shorter → KeepsEdges face (cycleEdges shorter) := by
      rintro output shorter ⟨removed, both, eq⟩ pruned
      obtain ⟨-, removed', both', eq'⟩ := prune_step_edges pruned
      exact ⟨removed' + removed, both'.add both, by rw [eq, eq', add_assoc]⟩
    exact loop_invariant (I := fun output : List ℤ => KeepsEdges face (cycleEdges output)) kept _
      start

end Pruning

section Splitting

variable {walk : List ℤ}

/-- The edges of several closed walks. -/
def edgesOf (cycles : List (List ℤ)) : Multiset (ℤ × ℤ) :=
  (cycles.map fun cycle => (cycleEdges cycle : Multiset (ℤ × ℤ))).sum

theorem edges_of_append (cycles others : List (List ℤ)) :
    edgesOf (cycles ++ others) = edgesOf cycles + edgesOf others := by
  rw [edgesOf, List.map_append, List.sum_append, edgesOf, edgesOf]

/-- Simple cycles that keep the edges of a walk up to edges gone both ways. -/
structure SplitInto (walk : List ℤ) (cycles : List (List ℤ)) : Prop where
  simple : ∀ cycle ∈ cycles, 3 ≤ cycle.length ∧ cycle.Nodup
  edges : KeepsEdges walk (edgesOf cycles)

theorem SplitInto.part {cycles : List (List ℤ)} (h : SplitInto walk cycles) :
    SplitInto walk (if 3 ≤ walk.length then cycles else []) := by
  split
  · exact h
  · rename_i short
    exact ⟨by simp, _, both_ways_of_short (not_le.mp short), (zero_add _).symm⟩

theorem SplitInto.join {node : ℤ} {before between after : List ℤ} {cycles others : List (List ℤ)}
    (h : SplitInto (node :: between) cycles) (h' : SplitInto (before ++ node :: after) others) :
    SplitInto (before ++ node :: between ++ node :: after) (cycles ++ others) where
  simple cycle listed := by
    rcases List.mem_append.mp listed with inner | outer
    · exact h.simple cycle inner
    · exact h'.simple cycle outer
  edges := by
    obtain ⟨removed, both, eq⟩ := h.edges
    obtain ⟨removed', both', eq'⟩ := h'.edges
    have turned : (before ++ node :: between ++ node :: after).IsRotated
        (node :: between ++ node :: (after ++ before)) := by
      have moved : (before ++ (node :: between ++ node :: after)).IsRotated
          (node :: between ++ node :: after ++ before) := List.isRotated_append
      rw [← List.append_assoc, List.append_assoc (node :: between)] at moved
      exact moved
    have rest : (before ++ node :: after).IsRotated (node :: (after ++ before)) :=
      (List.isRotated_append : (before ++ node :: after).IsRotated _)
    have edges : (cycleEdges (before ++ node :: between ++ node :: after) : Multiset (ℤ × ℤ)) =
        cycleEdges (node :: between) + cycleEdges (before ++ node :: after) := by
      rw [Multiset.coe_eq_coe.mpr (cycle_edges_rotated turned), cycle_edges_append,
        ← Multiset.coe_add, Multiset.coe_eq_coe.mpr (cycle_edges_rotated rest)]
    refine ⟨removed + removed', both.add both', ?_⟩
    rw [edges, eq, eq', edges_of_append, add_add_add_comm]

theorem split_face_walk_spec (face : List ℤ) : SplitInto face (splitFaceWalk face) := by
  generalize size : face.length = n
  induction n using Nat.strongRecOn generalizing face with
  | ind n ih =>
    rw [splitFaceWalk]
    split
    · rename_i none_found
      have distinct := first_repeat_none (show ∀ node ∈ [], Dict.get [] node ≠ none by simp)
        List.nodup_nil none_found
      split
      · rename_i long
        refine ⟨?_, 0, rfl, ?_⟩
        · intro cycle listed
          rw [List.mem_singleton.mp listed]
          exact ⟨long, distinct⟩
        · simp [edgesOf]
      · rename_i short
        exact ⟨by simp, _, both_ways_of_short (not_le.mp short), (zero_add _).symm⟩
    · rename_i first index found
      obtain ⟨less, inside, node, before, between, after, front, middle, last, eq⟩ :=
        first_repeat_parts found
      have smaller : (node :: between).length < face.length ∧
          (before ++ node :: after).length < face.length := by
        rw [← front, ← middle, ← last]
        simp only [List.length_drop, List.length_take, List.length_append]
        omega
      dsimp only
      rw [front, middle, last]
      conv => enter [1]; rw [eq]
      exact (ih _ (size ▸ smaller.1) _ rfl).part.join (ih _ (size ▸ smaller.2) _ rfl).part

end Splitting

def signedArea (polygon : List (ℚ × ℚ)) : ℚ := 1 / 2 * area2 polygon

theorem signed_area_walk (walk : List ℤ) (position : ℤ → ℚ × ℚ) :
    signedArea (close (walk.map position)) = 1 / 2 * ((cycleEdges walk : Multiset (ℤ × ℤ)).map
      fun e => crossTerm (position e.1, position e.2)).sum := by
  rw [signedArea, area2_close, cycle_edges_map, List.map_map, Multiset.map_coe, Multiset.sum_coe]
  rfl

theorem sum_signed_areas (cycles : List (List ℤ)) (position : ℤ → ℚ × ℚ) :
    (cycles.map fun cycle => signedArea (close (cycle.map position))).sum =
      1 / 2 * ((edgesOf cycles).map fun e => crossTerm (position e.1, position e.2)).sum := by
  induction cycles with
  | nil => simp [edgesOf]
  | cons cycle cycles ih =>
    have first : edgesOf (cycle :: cycles) = cycleEdges cycle + edgesOf cycles := List.sum_cons
    rw [List.map_cons, List.sum_cons, ih, signed_area_walk, first, Multiset.map_add,
      Multiset.sum_add, mul_add]

/-- A pruned and split face walk is simple cycles of at least three nodes. They have the area of
the walk and their edges are edges of it; those that are not theirs go both ways. -/
theorem face_walk_cycles (face : List ℤ) (position : ℤ → ℚ × ℚ) :
    (∀ cycle ∈ splitFaceWalk (pruneFaceSpurs face), 3 ≤ cycle.length ∧ cycle.Nodup) ∧
      ((splitFaceWalk (pruneFaceSpurs face)).map
        fun cycle => signedArea (close (cycle.map position))).sum =
          signedArea (close (face.map position)) ∧
      edgesOf (splitFaceWalk (pruneFaceSpurs face)) ≤ cycleEdges face ∧
      BothWays ((cycleEdges face : Multiset (ℤ × ℤ)) -
        edgesOf (splitFaceWalk (pruneFaceSpurs face))) ∧
      pruneStep (pruneFaceSpurs face) = none := by
  obtain ⟨ended, pruned, both, eq⟩ := prune_face_spurs_spec face
  obtain ⟨simple, split, both', eq'⟩ := split_face_walk_spec (pruneFaceSpurs face)
  have edges : (cycleEdges face : Multiset (ℤ × ℤ)) =
      edgesOf (splitFaceWalk (pruneFaceSpurs face)) + (split + pruned) := by
    rw [eq, eq', add_assoc]
  have removed := both'.add both
  refine ⟨simple, ?_, ?_, ?_, ended⟩
  · have cancel := removed.sum_eq_zero
      (fun e : ℤ × ℤ => crossTerm (position e.1, position e.2))
      (fun e => cross_term_swap (position e.1, position e.2))
    rw [sum_signed_areas, signed_area_walk, edges, Multiset.map_add, Multiset.sum_add, cancel,
      add_zero]
  · rw [edges]
    exact Multiset.le_add_right _ _
  · rw [edges, add_tsub_cancel_left]
    exact removed

/-- Two triangles at one node, with a spur on the first. -/
example : splitFaceWalk (pruneFaceSpurs [0, 1, 5, 1, 2, 0, 3, 4]) = [[0, 1, 2], [0, 3, 4]] := by
  decide +kernel

end Metroflow.City
