import Metroflow.City.EndpointPlanarization

namespace Metroflow.City.Planarization

open Metroflow.Lib Metroflow.Map Metroflow.City.Planar

section Places

variable {K : Type} [Scalar K]

theorem found_ok {κ α : Type} [DecidableEq κ] {d : Dict κ α} {key : κ} {value : α} :
    found d key = .ok value ↔ d.get key = some value := by
  unfold found
  cases d.get key <;> simp

/-- Every value of a mapping has a property. -/
def Each {κ α : Type} [DecidableEq κ] (P : α → Prop) (d : Dict κ α) : Prop :=
  ∀ key value, d.get key = some value → P value

theorem Each.nil {κ α : Type} [DecidableEq κ] {P : α → Prop} : Each P ([] : Dict κ α) :=
  fun _ _ none => by cases none

theorem Each.set {κ α : Type} [DecidableEq κ] {P : α → Prop} {d : Dict κ α} {key : κ} {value : α}
    (h : Each P d) (new : P value) : Each P (d.set key value) := by
  intro other value' at_other
  rw [Dict.get_set] at at_other
  split at at_other
  · exact Option.some.inj at_other ▸ new
  · exact h other value' at_other

theorem add_ids_none {d : Dict (PointM K) (List ℤ)} (h : Each (· = []) d) (key : PointM K) :
    Each (· = []) (addIds d key []) := by
  refine h.set ?_
  rw [List.append_nil]
  cases at_key : d.get key with
  | none => rfl
  | some ids => exact h key ids at_key

theorem add_roots_spec {byCoordinate : Dict (PointM K) (List ℤ)}
    (endless : Each (· = []) byCoordinate)
    {places : List (PointM K × PointM K)} {s s' : Rooting K}
    (init : Each (· = []) s.endpointIdsByRoot)
    (h : places.foldlM (addRoot byCoordinate) s = .ok s') : Each (· = []) s'.endpointIdsByRoot := by
  refine fold_invariant (I := fun s : Rooting K => Each (· = []) s.endpointIdsByRoot) ?_ init h
  intro place _ s s' kept step
  unfold addRoot at step
  obtain ⟨ids, at_place, step⟩ := bind_ok.mp step
  obtain rfl : ids = [] := endless _ _ (found_ok.mp at_place)
  rw [← pure_ok.mp step]
  exact add_ids_none kept _

/-- Places take new nodes, and no node gives its place to another. -/
structure Placed (firstId : ℤ) (s : Placing K) : Prop where
  order : firstId ≤ s.nextNodeId
  new : Each (firstId ≤ ·) s.nodeIdByRoot
  kept : s.coincidentNodeAliases = []

theorem place_roots_spec {byRoot : Dict (PointM K) (List ℤ)} (endless : Each (· = []) byRoot)
    {firstId : ℤ} {places : List (PointM K × PointM K)} {s s' : Placing K} (init : Placed firstId s)
    (h : places.foldlM (placeRoot byRoot) s = .ok s') : Placed firstId s' := by
  refine fold_invariant (I := Placed firstId) ?_ init h
  intro place _ s s' placed step
  unfold placeRoot at step
  obtain ⟨ids, at_place, step⟩ := bind_ok.mp step
  obtain rfl : ids = [] := endless _ _ (found_ok.mp at_place)
  rw [← pure_ok.mp step]
  exact ⟨placed.order.trans (Int.le_add_one le_rfl), placed.new.set placed.order, placed.kept⟩

theorem place_coordinates_spec {byRoot : Dict (PointM K) ℤ} {firstId : ℤ}
    (new : Each (firstId ≤ ·) byRoot) {places : List (PointM K × PointM K)}
    {s s' : Parents K × Dict (PointM K) ℤ} (init : Each (firstId ≤ ·) s.2)
    (h : places.foldlM (placeCoordinate byRoot) s = .ok s') : Each (firstId ≤ ·) s'.2 := by
  refine fold_invariant (I := fun s : Parents K × Dict (PointM K) ℤ => Each (firstId ≤ ·) s.2)
    ?_ init h
  intro place _ s s' kept step
  unfold placeCoordinate at step
  obtain ⟨id, at_root, step⟩ := bind_ok.mp step
  rw [← pure_ok.mp step]
  exact kept.set (new _ _ (found_ok.mp at_root))

end Places

section Positions

variable {K : Type} [Scalar K] {crossings : List (Crossing K)}

/-- A position well inside a road. -/
def Inner (t : K) : Prop := splitTolerance < t ∧ t < 1 - splitTolerance

/-- A road is split at its ends and at new nodes well inside it, by its own crossings. -/
def SplitAt (crossings : List (Crossing K)) (firstId geometryId : ℤ) (ends : ℤ × ℤ)
    (values : List (K × ℤ)) : Prop :=
  ∃ inner, values = [(0, ends.1), (1, ends.2)] ++ inner ∧
    (∀ value ∈ inner, Inner value.1 ∧ firstId ≤ value.2) ∧
    ((∀ crossing ∈ crossings, crossing.leftGeometryId ≠ geometryId ∧
      crossing.rightGeometryId ≠ geometryId) → inner = [])

theorem get_append_at {κ α : Type} [DecidableEq κ] (d : Dict κ (List α)) (key other : κ)
    (value : α) : (d.appendAt key value).get other =
      if other = key then some ((d.get key).getD [] ++ [value]) else d.get other := by
  unfold Dict.appendAt
  rw [Dict.get_set]

theorem SplitAt.append {firstId geometryId key : ℤ} {ends : ℤ × ℤ} {splitNodes : SplitNodes K}
    {values : List (K × ℤ)} {past : List (Crossing K)} {crossing : Crossing K}
    (value : K × ℤ) (h : SplitAt past firstId geometryId ends values)
    (at_geometry : splitNodes.get geometryId = some values)
    (named : crossing.leftGeometryId = key ∨ crossing.rightGeometryId = key)
    (last : crossing ∈ past) (inner : Inner value.1) (new : firstId ≤ value.2) :
    ∃ values', (splitNodes.appendAt key value).get geometryId = some values' ∧
      SplitAt past firstId geometryId ends values' := by
  obtain ⟨between, rfl, each, quiet⟩ := h
  rw [get_append_at]
  by_cases here : geometryId = key
  · rw [if_pos here, ← here, at_geometry]
    refine ⟨_, rfl, between ++ [value], (List.append_assoc _ _ _), ?_, fun none => ?_⟩
    · rw [List.forall_mem_append, List.forall_mem_singleton]
      exact ⟨each, inner, new⟩
    · exact (named.elim (here ▸ (none crossing last).1) (here ▸ (none crossing last).2)).elim
  · rw [if_neg here]
    exact ⟨_, at_geometry, between, rfl, each, quiet⟩

theorem add_split_nodes_spec {byCoordinate : Dict (PointM K) ℤ} {firstId : ℤ}
    (new : Each (firstId ≤ ·) byCoordinate) {resolved : List (ResolvedCrossing K)}
    (inner : ∀ r ∈ resolved, r.crossing ∈ crossings ∧ Inner r.leftT ∧ Inner r.rightT)
    {splitNodes splitNodes' : SplitNodes K} {geometryId : ℤ} {ends : ℤ × ℤ}
    (init : ∃ values, splitNodes.get geometryId = some values ∧
      SplitAt crossings firstId geometryId ends values)
    (h : resolved.foldlM (addSplitNodes byCoordinate) splitNodes = .ok splitNodes') :
    ∃ values, splitNodes'.get geometryId = some values ∧
      SplitAt crossings firstId geometryId ends values := by
  refine fold_invariant (I := fun splitNodes : SplitNodes K => ∃ values,
    splitNodes.get geometryId = some values ∧
      SplitAt crossings firstId geometryId ends values) ?_ init h
  rintro r listed s s' ⟨values, at_geometry, split⟩ step
  obtain ⟨known, left, right⟩ := inner r listed
  unfold addSplitNodes at step
  obtain ⟨nodeId, at_place, step⟩ := bind_ok.mp step
  have fresh := new _ _ (found_ok.mp at_place)
  rw [← pure_ok.mp step]
  obtain ⟨values', at_geometry, split⟩ := SplitAt.append (r.leftT, nodeId) split at_geometry
    (.inl rfl) known left fresh
  exact SplitAt.append (r.rightT, nodeId) split at_geometry (.inr rfl) known right fresh

end Positions

variable {K : Type} [Field K] [LinearOrder K] [IsStrictOrderedRing K] [FloorRing K] [Roots K]

section Positions

variable {t : K}

theorem tolerance_small : (splitTolerance : K) < 1 := by
  unfold splitTolerance
  rw [Scalar.of_int_exact]
  norm_num

theorem Inner.pos (h : Inner t) : 0 < t := split_tolerance_pos.trans h.1

theorem Inner.lt_one (h : Inner t) : t < 1 := h.2.trans (sub_lt_self 1 split_tolerance_pos)

theorem not_isclose {a b : K} (a_unit : |a| ≤ 1) (b_unit : |b| ≤ 1)
    (far : splitTolerance < |b - a|) : ¬isclose a b splitTolerance := by
  have tolerance : (splitTolerance : K) = 1 / 10 ^ 8 := by
    unfold splitTolerance
    rw [Scalar.of_int_exact]
    norm_num
  have relative : (1 / Scalar.ofInt (10 ^ 9) : K) = 1 / 10 ^ 9 := by
    rw [Scalar.of_int_exact]
    norm_num
  rw [tolerance] at far ⊢
  unfold isclose
  simp only [Scalar.abs_exact, relative, abs_mul]
  have rel : |(1 / 10 ^ 9 : K)| = 1 / 10 ^ 9 := abs_of_pos (by positivity)
  rw [rel]
  have small : (1 / 10 ^ 9 : K) < 1 / 10 ^ 8 := by norm_num
  have nonneg : (0 : K) ≤ 1 / 10 ^ 9 := by positivity
  rintro (rfl | near | near | near)
  · rw [sub_self, abs_zero] at far
    exact absurd far (not_lt.mpr (by positivity))
  · have := mul_le_mul_of_nonneg_left b_unit nonneg
    linarith
  · have := mul_le_mul_of_nonneg_left a_unit nonneg
    linarith
  · exact absurd near (not_le.mpr far)

theorem Inner.abs_le_one (h : Inner t) : |t| ≤ 1 := by
  rw [abs_of_pos h.pos]
  exact h.lt_one.le

theorem Inner.not_close_zero (h : Inner t) : ¬isclose t 0 splitTolerance := by
  refine not_isclose h.abs_le_one (by rw [abs_zero]; exact zero_le_one) ?_
  rw [zero_sub, abs_neg, abs_of_pos h.pos]
  exact h.1

theorem Inner.not_close_one (h : Inner t) : ¬isclose t 1 splitTolerance := by
  refine not_isclose h.abs_le_one (by rw [abs_one]) ?_
  rw [abs_of_pos (sub_pos.mpr h.lt_one)]
  linarith [h.2]

theorem ends_not_close : ¬isclose (0 : K) 1 splitTolerance := by
  refine not_isclose (by rw [abs_zero]; exact zero_le_one) (by rw [abs_one]) ?_
  rw [sub_zero, abs_one]
  exact tolerance_small

theorem snap_inner (h : Inner t) (ends : ℤ × ℤ) : snapEndpointPosition t ends = (t, none) := by
  unfold snapEndpointPosition
  rw [if_neg h.not_close_zero, if_neg h.not_close_one]

theorem found_inner {segments : List (Segment K)} {cellSizeM : K} (size : 0 < cellSizeM)
    {crossing : Crossing K} (h : crossing ∈ findProperCrossings segments cellSizeM) :
    Inner crossing.leftT ∧ Inner crossing.rightT := by
  have listed := (found_perm_all segments size).mem_iff.mp h
  obtain ⟨pair, -, found⟩ := List.mem_filterMap.mp listed
  unfold crossingOf properIntersection at found
  split at found
  · cases found
  · obtain ⟨placed, at_place, made⟩ := Option.map_eq_some_iff.mp found
    obtain ⟨shares, crossed, rfl⟩ := Option.map_eq_some_iff.mp at_place
    obtain ⟨left, right, -⟩ := cross_parameters_spec crossed
    rw [← made]
    exact ⟨left, right⟩

end Positions


section Splitting

omit [IsStrictOrderedRing K] in
theorem not_before_of_lt {a b : K × ℤ} (less : a.1 < b.1) :
    splitBefore b a = false ∧ splitBefore a b = true := by
  unfold splitBefore
  rw [if_neg less.ne', if_neg less.ne]
  exact ⟨decide_eq_false less.asymm, decide_eq_true less⟩

variable {nodes : List (Planar.Node K)} {endpointNodes : Dict ℤ (ℤ × ℤ)}
  {crossings : List (Crossing K)}

/-- The crossings keep their positions, and no place is at an end of a road. -/
structure Resolved (crossings : List (Crossing K)) (s : Resolving K) : Prop where
  inner : ∀ r ∈ s.resolvedCrossings, r.crossing ∈ crossings ∧ Inner r.leftT ∧ Inner r.rightT
  endless : Each (· = []) s.endpointIdsByCoordinate

theorem resolve_crossings_spec {s : Resolving K}
    (inner : ∀ crossing ∈ crossings, Inner crossing.leftT ∧ Inner crossing.rightT)
    (h : crossings.foldlM (resolveCrossing endpointNodes) {} = .ok s) : Resolved crossings s := by
  refine fold_progress (I := fun past s => Resolved past s) ?_
    ⟨by simp, .nil⟩ h
  rintro past crossing rest s s' split ⟨old, endless⟩ step
  obtain ⟨left, right⟩ := inner crossing (by simp [split])
  unfold resolveCrossing at step
  obtain ⟨leftEnds, -, step⟩ := bind_ok.mp step
  rw [snap_inner left] at step
  obtain ⟨rightEnds, -, step⟩ := bind_ok.mp step
  rw [snap_inner right] at step
  rw [← pure_ok.mp step]
  refine ⟨?_, add_ids_none endless _⟩
  dsimp only
  rw [List.forall_mem_append]
  refine ⟨fun r listed => ?_, ?_⟩
  · obtain ⟨known, positions⟩ := old r listed
    exact ⟨List.mem_append_left _ known, positions⟩
  · rw [List.forall_mem_singleton]
    exact ⟨List.mem_append_right _ (List.mem_singleton_self crossing), left, right⟩

theorem split_nodes_spec {outputNodes : List (Planar.Node K)} {splitNodes : SplitNodes K}
    (inner : ∀ crossing ∈ crossings, Inner crossing.leftT ∧ Inner crossing.rightT)
    (h : splitNodesOf nodes endpointNodes crossings = .ok (outputNodes, splitNodes))
    {geometryId : ℤ} {ends : ℤ × ℤ} (at_geometry : endpointNodes.get geometryId = some ends) :
    ∃ values, splitNodes.get geometryId = some values ∧
      SplitAt crossings (nextAfter (nodes.map Planar.Node.nodeId)) geometryId ends values := by
  unfold splitNodesOf at h
  obtain ⟨resolving, resolved, h⟩ := bind_ok.mp h
  obtain ⟨rooting, rooted, h⟩ := bind_ok.mp h
  obtain ⟨placing, placed, h⟩ := bind_ok.mp h
  obtain ⟨coordinates, coordinated, h⟩ := bind_ok.mp h
  obtain ⟨split, splitting, h⟩ := bind_ok.mp h
  obtain ⟨-, rfl⟩ := Prod.mk.inj (pure_ok.mp h)
  have perm := List.perm_insertionSort
    (fun a b : Crossing K => crossingBefore b a = false) crossings
  obtain ⟨positions, endless⟩ := resolve_crossings_spec
    (fun crossing listed => inner crossing (perm.mem_iff.mp listed)) resolved
  have rooted := add_roots_spec endless .nil rooted
  have placed := place_roots_spec rooted
    ⟨le_rfl, .nil, rfl⟩ placed
  have new := place_coordinates_spec placed.new .nil coordinated
  refine add_split_nodes_spec new
    (fun r listed => ⟨perm.mem_iff.mp (positions r listed).1, (positions r listed).2⟩) ?_ splitting
  have start : (startSplitNodes endpointNodes placing.coincidentNodeAliases :
      SplitNodes K).get geometryId = some [(0, ends.1), (1, ends.2)] := by
    unfold startSplitNodes
    rw [placed.kept]
    refine (Dict.get_map_values
      (f := fun ends : ℤ × ℤ => [((0 : K), ends.1), (1, ends.2)])).trans ?_
    rw [at_geometry]
    rfl
  exact ⟨_, start, [], rfl, by simp, fun _ => rfl⟩

theorem sorted_split_nodes {inner : List (K × ℤ)} {src dst : ℤ}
    (each : ∀ value ∈ inner, Inner value.1) :
    ([((0 : K), src), (1, dst)] ++ inner).insertionSort (fun a b => splitBefore b a = false) =
      (0, src) :: inner.insertionSort (fun a b => splitBefore b a = false) ++ [(1, dst)] := by
  have last : ((1, dst) :: inner).insertionSort (fun a b => splitBefore b a = false) =
      inner.insertionSort (fun a b => splitBefore b a = false) ++ [(1, dst)] := by
    have below : ∀ value ∈ inner.insertionSort (fun a b => splitBefore b a = false),
        decide (¬splitBefore value ((1 : K), dst) = false) = true := by
      intro value listed
      have less := (each value ((List.mem_insertionSort _).mp listed)).lt_one
      rw [(not_before_of_lt (b := ((1 : K), dst)) less).2]
      decide
    rw [List.insertionSort_cons_eq_take_drop, List.takeWhile_eq_self_iff.mpr below,
      List.dropWhile_eq_nil_iff.mpr below]
  have first : ∀ value ∈ (1, dst) :: inner, splitBefore value ((0 : K), src) = false := by
    rw [List.forall_mem_cons]
    exact ⟨(not_before_of_lt (a := ((0 : K), src)) zero_lt_one).1, fun value listed =>
      (not_before_of_lt (a := ((0 : K), src)) (each value listed).pos).1⟩
  rw [List.cons_append, List.singleton_append, List.insertionSort_cons_of_forall_rel _ first, last]
  rfl

theorem deduplicate_spec {firstId geometryId : ℤ} {ends : ℤ × ℤ} {values positions : List (K × ℤ)}
    (split : SplitAt crossings firstId geometryId ends values) (apart : ends.1 ≠ ends.2)
    (known : ends.2 < firstId) (h : deduplicateSplitNodes values geometryId = .ok positions) :
    ∃ kept, positions = (0, ends.1) :: kept ++ [(1, ends.2)] ∧
      ((∀ crossing ∈ crossings, crossing.leftGeometryId ≠ geometryId ∧
        crossing.rightGeometryId ≠ geometryId) → kept = []) := by
  obtain ⟨inner, rfl, each, quiet⟩ := split
  unfold deduplicateSplitNodes at h
  rw [sorted_split_nodes fun value listed => (each value listed).1, List.cons_append,
    fold_cons] at h
  obtain ⟨out, start, h⟩ := h
  obtain rfl : [((0 : K), ends.1)] = out := Except.ok.inj start
  obtain ⟨mid, run, h⟩ := fold_append.mp h
  have sorted : ∀ value ∈ inner.insertionSort (fun a b => splitBefore b a = false),
      value ∈ inner := fun value listed => (List.mem_insertionSort _).mp listed
  obtain ⟨kept, rfl, members⟩ : ∃ kept, mid = (0, ends.1) :: kept ∧
      ∀ value ∈ kept, value ∈ inner := by
    refine fold_invariant (I := fun out => ∃ kept, out = (0, ends.1) :: kept ∧
      ∀ value ∈ kept, value ∈ inner) ?_ ⟨[], rfl, by simp⟩ run
    rintro value listed out out' ⟨kept, rfl, members⟩ step
    have more : ∃ kept', (0, ends.1) :: kept ++ [value] = ((0 : K), ends.1) :: kept' ∧
        ∀ value ∈ kept', value ∈ inner := by
      refine ⟨kept ++ [value], rfl, ?_⟩
      rw [List.forall_mem_append, List.forall_mem_singleton]
      exact ⟨members, sorted value listed⟩
    unfold addSplitNode at step
    split at step
    · split_ifs at step
      · exact ⟨kept, (Except.ok.inj step).symm, members⟩
      · exact Except.ok.inj step ▸ more
    · exact Except.ok.inj step ▸ more
  rw [fold_cons] at h
  obtain ⟨last, step, done⟩ := h
  obtain rfl := fold_nil.mp done
  refine ⟨kept, ?_, fun none => List.eq_nil_iff_forall_not_mem.mpr fun value listed => ?_⟩
  · obtain ⟨final, at_last, other, far⟩ : ∃ final : K × ℤ,
        ((0, ends.1) :: kept).getLast? = some final ∧ final.2 ≠ ends.2 ∧
          ¬isclose final.1 1 splitTolerance := by
      refine ⟨_, List.getLast?_eq_getLast_of_ne_nil (List.cons_ne_nil _ _), ?_⟩
      rcases List.mem_cons.mp (List.getLast_mem (List.cons_ne_nil ((0 : K), ends.1) kept)) with
        here | later
      · rw [here]
        exact ⟨apart, ends_not_close⟩
      · obtain ⟨position, fresh⟩ := each _ (members _ later)
        exact ⟨(known.trans_le fresh).ne', position.not_close_one⟩
    unfold addSplitNode at step
    rw [at_last] at step
    dsimp only at step
    rw [if_neg other, if_neg far] at step
    exact (Except.ok.inj step).symm
  · rw [quiet none] at members
    cases members value listed

end Splitting

end Metroflow.City.Planarization
