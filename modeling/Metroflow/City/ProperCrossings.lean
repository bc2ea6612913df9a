import Metroflow.City.SegmentGrid
import Metroflow.Map.SegmentCrossings

namespace Metroflow.City.Planarization

open Metroflow.Lib Metroflow.Map

section Lists

variable {α β : Type*}

/-- Lists without repetition that agree on what `f` keeps give the same values. -/
theorem filter_map_perm {l l' : List α} {f : α → Option β} (distinct : l.Nodup)
    (distinct' : l'.Nodup) (same : ∀ a b, f a = some b → (a ∈ l ↔ a ∈ l')) :
    (l.filterMap f).Perm (l'.filterMap f) := by
  have kept : ∀ m : List α, m.filterMap f = (m.filter fun a => (f a).isSome).filterMap f := by
    intro m
    rw [List.filterMap_filter]
    refine List.filterMap_congr fun a _ => ?_
    cases f a <;> rfl
  rw [kept l, kept l']
  refine List.Perm.filterMap f ((List.perm_ext_iff_of_nodup (distinct.filter _)
    (distinct'.filter _)).mpr fun a => ?_)
  rw [List.mem_filter, List.mem_filter]
  refine and_congr_left fun some => ?_
  obtain ⟨b, found⟩ := Option.isSome_iff_exists.mp some
  exact same a b found

theorem pairs_map (f : α → β) (l : List α) : pairs (l.map f) = (pairs l).map (Prod.map f f) := by
  induction l with
  | nil => rfl
  | cons a l ih =>
    rw [List.map_cons, pairs, pairs, ih, List.map_append, List.map_map, List.map_map]
    rfl

theorem pairs_perm {f : α → α → Option β} (symm : ∀ a b, f a b = f b a) {l l' : List α}
    (h : l.Perm l') : ((pairs l).filterMap fun pair => f pair.1 pair.2).Perm
      ((pairs l').filterMap fun pair => f pair.1 pair.2) := by
  induction h with
  | nil => exact .refl _
  | cons a tails ih =>
    unfold pairs
    rw [List.filterMap_append, List.filterMap_append]
    exact ((tails.map _).filterMap _).append ih
  | swap a b l =>
    simp only [pairs, List.map_cons, List.filterMap_append, List.cons_append,
      List.filterMap_cons, symm b a]
    have turn : ∀ first second rest : List β,
        (first ++ (second ++ rest)).Perm (second ++ (first ++ rest)) := fun first second rest => by
      rw [← List.append_assoc, ← List.append_assoc]
      exact List.perm_append_comm.append_right rest
    cases f a b with
    | none => exact turn _ _ _
    | some c => exact (turn _ _ _).cons c
  | trans _ _ first second => exact first.trans second

end Lists

section Crossings

variable {K : Type} [Scalar K]

structure Segment (K : Type) where
  geometryId : ℤ
  start : PointM K
  finish : PointM K
  layer : ℤ

structure Crossing (K : Type) where
  leftGeometryId : ℤ
  rightGeometryId : ℤ
  leftT : K
  rightT : K
  point : PointM K

def centerlineSegment (centerline : RoadCenterline K) : Except String (Segment K) :=
  match centerline.pointsM with
  | [start, finish] => .ok ⟨centerline.geometryId, start, finish, centerline.layer⟩
  | _ => .error "endpoint topology planarization requires two-point centerlines"

def properIntersection (left right : Segment K) : Option (PointM K × K × K) :=
  (crossParameters left.start left.finish right.start right.finish).map fun (leftT, rightT) =>
    (pointAt left.start left.finish leftT, leftT, rightT)

/-- What a pair of segments adds to the crossings. -/
def crossingOf (left right : Segment K) : Option (Crossing K) :=
  if left.layer ≠ right.layer ∨
      hasSharedEndpoint left.start left.finish right.start right.finish then none
  else (properIntersection left right).map fun (point, leftT, rightT) =>
    ⟨left.geometryId, right.geometryId, leftT, rightT, point⟩

def checkPair (segments : List (Segment K)) (crossings : List (Crossing K)) (pair : ℕ × ℕ) :
    List (Crossing K) :=
  match segments[pair.1]?, segments[pair.2]? with
  | some left, some right => crossings ++ (crossingOf left right).toList
  | _, _ => crossings

def findProperCrossings (segments : List (Segment K)) (cellSizeM : K) : List (Crossing K) :=
  let cells := cellIndex cellSizeM
    (segments.map fun segment => Box.around segment.start segment.finish)
  ((((sortOn (fun item => toLex item.1) cells).map Prod.snd).flatMap pairsIn).foldl
    (visitOnce (checkPair segments)) ([], [])).2

def allPairCrossings (segments : List (Segment K)) : List (Crossing K) :=
  (pairs segments).filterMap fun pair => crossingOf pair.1 pair.2

/-- A crossing without the order of its segments. -/
def Crossing.unordered (crossing : Crossing K) : Sym2 (ℤ × K) × PointM K :=
  (s((crossing.leftGeometryId, crossing.leftT), (crossing.rightGeometryId, crossing.rightT)),
    crossing.point)

def crossingAt (segments : List (Segment K)) (pair : ℕ × ℕ) : Option (Crossing K) :=
  segments[pair.1]?.bind fun left => segments[pair.2]?.bind fun right => crossingOf left right

theorem check_pair_eq (segments : List (Segment K)) (crossings : List (Crossing K))
    (pair : ℕ × ℕ) :
    checkPair segments crossings pair = crossings ++ (crossingAt segments pair).toList := by
  unfold checkPair crossingAt
  cases segments[pair.1]? with
  | none => exact (List.append_nil _).symm
  | some left =>
    cases segments[pair.2]? with
    | none => exact (List.append_nil _).symm
    | some right => rfl

theorem check_pairs_eq (segments : List (Segment K)) (visited : List (ℕ × ℕ)) :
    visited.foldl (checkPair segments) [] = visited.filterMap (crossingAt segments) := by
  induction visited using List.reverseRecOn with
  | nil => rfl
  | append_singleton visited pair ih =>
    rw [List.foldl_append, List.foldl_cons, List.foldl_nil, ih, check_pair_eq,
      List.filterMap_append]
    cases found : crossingAt segments pair <;> simp [found]

theorem all_pairs_indexed (segments : List (Segment K)) : allPairCrossings segments =
    (pairs (List.range segments.length)).filterMap (crossingAt segments) := by
  have positions : List.range segments.length = segments.zipIdx.map Prod.snd := by
    rw [List.zipIdx_map_snd, List.range_eq_range']
  unfold allPairCrossings
  rw [positions, pairs_map, List.filterMap_map]
  conv_lhs => rw [← List.zipIdx_map_fst 0 segments, pairs_map, List.filterMap_map]
  refine List.filterMap_congr fun entries listed => ?_
  obtain ⟨first, second⟩ := mem_of_mem_pairs listed
  have left_at := List.mk_mem_zipIdx_iff_getElem?.mp first
  have right_at := List.mk_mem_zipIdx_iff_getElem?.mp second
  simp only [Function.comp_apply, Prod.map_fst, Prod.map_snd, crossingAt, left_at, right_at,
    Option.bind_some]

end Crossings

section Exact

variable {K : Type} [Field K] [LinearOrder K] [IsStrictOrderedRing K] [FloorRing K] [Roots K]
  {segments : List (Segment K)} {cellSizeM : K}

theorem crossing_of_symm (left right : Segment K) :
    (crossingOf right left).map Crossing.unordered =
      (crossingOf left right).map Crossing.unordered := by
  have apart_comm : (right.layer ≠ left.layer ∨
        hasSharedEndpoint right.start right.finish left.start left.finish) ↔
      (left.layer ≠ right.layer ∨
        hasSharedEndpoint left.start left.finish right.start right.finish) :=
    or_congr ne_comm shared_endpoint_comm
  unfold crossingOf properIntersection
  rw [cross_parameters_swap]
  simp only [apart_comm]
  split
  · rfl
  · cases found : crossParameters left.start left.finish right.start right.finish with
    | none => rfl
    | some shares =>
      have meet := (cross_parameters_spec found).2.2
      simp only [Option.map_some, Crossing.unordered, Prod.fst_swap, Prod.snd_swap, meet,
        Sym2.eq_swap]

theorem found_perm_all (segments : List (Segment K)) (size : 0 < cellSizeM) :
    (findProperCrossings segments cellSizeM).Perm (allPairCrossings segments) := by
  unfold findProperCrossings
  dsimp only
  rw [visit_once_fold, check_pairs_eq, all_pairs_indexed]
  obtain ⟨once, members⟩ := firsts_spec ((((sortOn (fun item => toLex item.1)
    (cellIndex cellSizeM (segments.map fun segment => Box.around segment.start segment.finish))).map
      Prod.snd).flatMap pairsIn))
  refine filter_map_perm once (nodup_pairs List.nodup_range) fun (i, j) crossing found => ?_
  rw [members, mem_pairs_of_index (sort_on_perm.map Prod.snd)]
  obtain ⟨left, left_at, found⟩ := Option.bind_eq_some_iff.mp found
  obtain ⟨right, right_at, found⟩ := Option.bind_eq_some_iff.mp found
  dsimp only at left_at right_at
  have crossed : ∃ shares, crossParameters left.start left.finish right.start right.finish =
      some shares := by
    unfold crossingOf properIntersection at found
    split at found
    · cases found
    · obtain ⟨_, found, -⟩ := Option.map_eq_some_iff.mp found
      obtain ⟨shares, found, -⟩ := Option.map_eq_some_iff.mp found
      exact ⟨shares, found⟩
  obtain ⟨shares, crossed⟩ := crossed
  obtain ⟨cell, left_cell, right_cell⟩ := common_cell size crossed
  constructor
  · rintro ⟨less, -⟩
    have i_mem := List.mem_range.mpr (List.getElem?_eq_some_iff.mp left_at).1
    have j_mem := List.mem_range.mpr (List.getElem?_eq_some_iff.mp right_at).1
    rcases mem_pairs i_mem j_mem less.ne with ahead | behind
    · exact ahead
    · exact absurd (pairs_pairwise List.pairwise_lt_range _ behind) less.asymm
  · intro listed
    refine ⟨pairs_pairwise List.pairwise_lt_range _ listed, Box.around left.start left.finish,
      Box.around right.start right.finish, cell, ?_, ?_, left_cell, right_cell⟩
    · rw [List.getElem?_map, left_at]
      rfl
    · rw [List.getElem?_map, right_at]
      rfl

end Exact

end Metroflow.City.Planarization
