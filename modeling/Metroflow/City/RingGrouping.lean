import Metroflow.City.InteriorWitness
import Metroflow.Lib.Dict
import Metroflow.Lib.Keyed
import Metroflow.Lib.NestedRings

namespace Metroflow.City.Blocks

open Metroflow.Lib

section Model

structure BoundaryDraft where
  semanticId : String
  polygonMm : Ring
  signedTwiceAreaMm2 : ℤ

abbrev Indexed := BoundaryDraft × ℕ

def allInside (outer : Ring) : List PointMM → Except String Bool
  | [] => .ok true
  | point :: points => do
    let status ← pointStatus (.int point) outer
    if status = .inside then allInside outer points else return false

def strictlyContainsRing (outer inner : Ring) : Except String Bool :=
  allInside outer inner.dropLast

def candidateOuters (positive : List Indexed) (inner : BoundaryDraft) :
    Except String (List Indexed) :=
  keepAll (fun outer =>
    if |inner.signedTwiceAreaMm2| < |outer.1.signedTwiceAreaMm2| then
      strictlyContainsRing outer.1.polygonMm inner.polygonMm
    else .ok false) positive

/-- The smallest area first, and among equal areas the first semantic id. -/
def sizeKey (boundary : BoundaryDraft) : ℤ ×ₗ String :=
  toLex (|boundary.signedTwiceAreaMm2|, boundary.semanticId)

structure Grouping where
  holesByOuter : Dict ℕ (List Indexed) := []
  unbounded : List Indexed := []

def groupInner (positive : List Indexed) (s : Grouping) (inner : Indexed) :
    Except String Grouping := do
  let candidates ← candidateOuters positive inner.1
  match (sortOn (fun outer => sizeKey outer.1) candidates).head? with
  | none => return { s with unbounded := s.unbounded ++ [inner] }
  | some owner => return { s with holesByOuter := s.holesByOuter.appendAt owner.2 inner }

def positiveOf (boundaries : List BoundaryDraft) : List Indexed :=
  boundaries.zipIdx.filter fun ring => 0 < ring.1.signedTwiceAreaMm2

def negativeOf (boundaries : List BoundaryDraft) : List Indexed :=
  boundaries.zipIdx.filter fun ring => ring.1.signedTwiceAreaMm2 < 0

def bySemanticId (rings : List Indexed) : List ℕ :=
  (sortOn (fun ring => ring.1.semanticId) rings).map Prod.snd

/-- The outer rings, the holes of each, and the rings around which nothing lies. -/
def groupOrientedRings (boundaries : List BoundaryDraft) :
    Except String (List ℕ × Dict ℕ (List ℕ) × List ℕ) := do
  let grouping ← (negativeOf boundaries).foldlM (groupInner (positiveOf boundaries)) {}
  return ((positiveOf boundaries).map Prod.snd,
    grouping.holesByOuter.map fun item => (item.1, bySemanticId item.2),
    bySemanticId grouping.unbounded)

end Model

section Property

/-- The inner ring lies in the interior of the outer one. -/
def Contains (outer inner : BoundaryDraft) : Prop :=
  ∀ x, OnRing inner.polygonMm.toRat x → Inside outer.polygonMm.toRat x

/-- The smallest of the positive rings that strictly contain a ring. -/
structure Owns (boundaries : List BoundaryDraft) (outer inner : BoundaryDraft) : Prop where
  positive : 0 < outer.signedTwiceAreaMm2
  contains : Contains outer inner
  smallest : ∀ other ∈ boundaries, 0 < other.signedTwiceAreaMm2 → Contains other inner →
    sizeKey outer ≤ sizeKey other

/-- Each negative ring is a hole of its owner alone, or stands alone. -/
structure HoleAssignment (boundaries : List BoundaryDraft) (positive : List ℕ)
    (holes : Dict ℕ (List ℕ)) (unbounded : List ℕ) : Prop where
  outers : ∀ i, i ∈ positive ↔
    ∃ ring, boundaries[i]? = some ring ∧ 0 < ring.signedTwiceAreaMm2
  owned : ∀ o i, i ∈ (holes.get o).getD [] ↔ ∃ outer inner, boundaries[o]? = some outer ∧
    boundaries[i]? = some inner ∧ inner.signedTwiceAreaMm2 < 0 ∧ Owns boundaries outer inner
  alone : ∀ i, i ∈ unbounded ↔ ∃ inner, boundaries[i]? = some inner ∧
    inner.signedTwiceAreaMm2 < 0 ∧
    ∀ outer ∈ boundaries, 0 < outer.signedTwiceAreaMm2 → ¬Contains outer inner
  once : (positive ++ holes.flatMap Prod.snd ++ unbounded).Perm (List.range boundaries.length)

/-- Simple rings with their areas and names of their own, none of which crosses another. -/
structure OrientedRings (boundaries : List BoundaryDraft) : Prop where
  simple : ∀ ring ∈ boundaries, SimpleRing ring.polygonMm.toRat
  areas : ∀ ring ∈ boundaries, ring.signedTwiceAreaMm2 = area2 ring.polygonMm
  names : (boundaries.map fun ring => ring.semanticId).Nodup
  apart : boundaries.Pairwise fun ring other =>
    NonCrossing ring.polygonMm.toRat other.polygonMm.toRat

/-- No test of what contains a ring overflows, and none is wrong of a ring that comes before all
rings that contain it, or is the first of them. -/
def TestsTrusted (boundaries : List BoundaryDraft) (inner : BoundaryDraft) : Prop :=
  ∀ outer ∈ boundaries, 0 < outer.signedTwiceAreaMm2 →
    |inner.signedTwiceAreaMm2| < |outer.signedTwiceAreaMm2| →
    ∃ verdict, strictlyContainsRing outer.polygonMm inner.polygonMm = .ok verdict ∧
      ((∀ other ∈ boundaries, 0 < other.signedTwiceAreaMm2 → Contains other inner →
        sizeKey outer ≤ sizeKey other) → (verdict = true ↔ Contains outer inner))

end Property

section Geometry

variable {boundaries : List BoundaryDraft} {inner outer : BoundaryDraft} {ring : Ring}

theorem area2_to_rat (ring : Ring) : area2 ring.toRat = ((area2 (R := ℤ) ring : ℤ) : ℚ) := by
  unfold area2
  rw [sides_to_rat, List.map_map, Int.cast_list_sum, List.map_map]
  refine congrArg List.sum (List.map_congr_left fun side _ => ?_)
  unfold toRat
  simp

theorem OrientedRings.non_crossing (h : OrientedRings boundaries) (mem : inner ∈ boundaries)
    (mem' : outer ∈ boundaries) (differ : inner ≠ outer) :
    NonCrossing inner.polygonMm.toRat outer.polygonMm.toRat := by
  have : Std.Symm fun ring other : BoundaryDraft =>
      NonCrossing ring.polygonMm.toRat other.polygonMm.toRat := ⟨fun _ _ free => free.symm⟩
  exact h.apart.forall mem mem' differ

theorem contains_iff (h : OrientedRings boundaries) (mem : inner ∈ boundaries)
    (mem' : outer ∈ boundaries) (differ : inner ≠ outer) : Contains outer inner ↔
      ∀ v ∈ inner.polygonMm.dropLast, Inside outer.polygonMm.toRat (toRat v) := by
  have simple := h.simple inner mem
  constructor
  · intro contains v listed
    refine contains _ (vertex_on_ring simple.long ?_)
    exact List.mem_map_of_mem (List.mem_of_mem_dropLast listed)
  · intro vertices
    refine inside_of_vertices (h.simple outer mem').closed (h.non_crossing mem mem' differ) ?_
    intro v listed
    obtain ⟨w, known, rfl⟩ := List.mem_map.mp listed
    exact vertices w (vertex_listed simple known)

theorem smaller_of_contains (h : OrientedRings boundaries) (mem : inner ∈ boundaries)
    (mem' : outer ∈ boundaries) (contains : Contains outer inner) :
    |inner.signedTwiceAreaMm2| < |outer.signedTwiceAreaMm2| := by
  have less := nested_area (h.simple inner mem) (h.simple outer mem') contains
  rw [area2_to_rat, area2_to_rat, ← h.areas inner mem, ← h.areas outer mem'] at less
  exact_mod_cast less

end Geometry

section Tests

variable {boundaries : List BoundaryDraft} {inner outer : BoundaryDraft} {ring : Ring}

theorem all_inside_exact (points : List PointMM)
    (exact : ∀ point ∈ points, Exactly (.int point) ring) :
    ∃ verdict, allInside ring points = .ok verdict ∧
      (verdict = true ↔ ∀ point ∈ points, Inside ring.toRat (toRat point)) := by
  induction points with
  | nil => exact ⟨true, rfl, by simp⟩
  | cons point points ih =>
    obtain ⟨here, later⟩ := List.forall_mem_cons.mp exact
    obtain ⟨status, run, inside, -⟩ := point_status_exact here
    obtain ⟨verdict, run', iff⟩ := ih later
    have place : status = .inside ↔ Inside ring.toRat (toRat point) := inside
    rw [List.forall_mem_cons, ← place]
    unfold allInside
    rw [run, ok_bind]
    by_cases within : status = .inside
    · rw [if_pos within]
      exact ⟨verdict, run', by rw [iff]; exact (and_iff_right within).symm⟩
    · rw [if_neg within]
      exact ⟨false, rfl, by simp [within]⟩

theorem tests_trusted_of_small (h : OrientedRings boundaries)
    (small : ∀ ring ∈ boundaries, Small ring.polygonMm) (mem : inner ∈ boundaries)
    (negative : inner.signedTwiceAreaMm2 < 0) : TestsTrusted boundaries inner := by
  intro outer mem' positive _
  obtain ⟨verdict, run, iff⟩ := all_inside_exact inner.polygonMm.dropLast
    fun point _ => exactly_small (small outer mem') point
  refine ⟨verdict, run, fun _ => iff.trans (contains_iff h mem mem' ?_).symm⟩
  rintro rfl
  exact negative.not_gt positive

end Tests

section Owners

variable {boundaries : List BoundaryDraft} {positive negative : List Indexed}

theorem mem_positive {ring : BoundaryDraft} {i : ℕ} : (ring, i) ∈ positiveOf boundaries ↔
    boundaries[i]? = some ring ∧ 0 < ring.signedTwiceAreaMm2 := by
  unfold positiveOf
  rw [List.mem_filter, List.mk_mem_zipIdx_iff_getElem?, decide_eq_true_eq]

theorem mem_negative {ring : BoundaryDraft} {i : ℕ} : (ring, i) ∈ negativeOf boundaries ↔
    boundaries[i]? = some ring ∧ ring.signedTwiceAreaMm2 < 0 := by
  unfold negativeOf
  rw [List.mem_filter, List.mk_mem_zipIdx_iff_getElem?, decide_eq_true_eq]

/-- What the tests make the owner of a ring, where none of them fails. -/
def ownerIn (positive : List Indexed) (inner : BoundaryDraft) : Option Indexed :=
  match candidateOuters positive inner with
  | .ok candidates => (sortOn (fun outer => sizeKey outer.1) candidates).head?
  | .error _ => none

theorem grouping_spec {grouping : Grouping}
    (run : negative.foldlM (groupInner positive) {} = .ok grouping) :
    (∀ inner ∈ negative, ∃ candidates, candidateOuters positive inner.1 = .ok candidates) ∧
    Dict.Groups grouping.holesByOuter (negative.filterMap fun inner =>
      (ownerIn positive inner.1).map fun owner => (owner.2, inner)) ∧
    grouping.unbounded = negative.filter (fun inner => (ownerIn positive inner.1).isNone) ∧
    (grouping.holesByOuter.flatMap Prod.snd ++ grouping.unbounded).Perm negative := by
  refine fold_progress (I := fun past s =>
    (∀ inner ∈ past, ∃ candidates, candidateOuters positive inner.1 = .ok candidates) ∧
    Dict.Groups s.holesByOuter (past.filterMap fun inner =>
      (ownerIn positive inner.1).map fun owner => (owner.2, inner)) ∧
    s.unbounded = past.filter (fun inner => (ownerIn positive inner.1).isNone) ∧
    (s.holesByOuter.flatMap Prod.snd ++ s.unbounded).Perm past) ?_
    ⟨by simp, .nil, rfl, .nil⟩ run
  rintro past inner rest s s' - ⟨each, groups, alone, all⟩ step
  unfold groupInner at step
  obtain ⟨candidates, tested, step⟩ := bind_ok.mp step
  have owner_def : ownerIn positive inner.1 =
      (sortOn (fun outer => sizeKey outer.1) candidates).head? := by
    unfold ownerIn
    rw [tested]
  have each' : ∀ other ∈ past ++ [inner], ∃ candidates,
      candidateOuters positive other.1 = .ok candidates := by
    rw [List.forall_mem_append, List.forall_mem_singleton]
    exact ⟨each, candidates, tested⟩
  rw [← owner_def] at step
  rw [List.filterMap_append, List.filter_append]
  cases found : ownerIn positive inner.1 with
  | none =>
    rw [found] at step
    rw [← pure_ok.mp step]
    refine ⟨each', ?_, ?_, ?_⟩
    · simpa [found] using groups
    · simp [found, alone]
    · rw [← List.append_assoc]
      exact all.append_right [inner]
  | some owner =>
    rw [found] at step
    rw [← pure_ok.mp step]
    refine ⟨each', ?_, ?_, ?_⟩
    · have grown : Dict.Groups (s.holesByOuter.appendAt owner.2 inner)
          (_ ++ [(owner.2, inner)]) := groups.append_at
      simpa [found] using grown
    · simp [found, alone]
    · have moved : ((s.holesByOuter.appendAt owner.2 inner).flatMap Prod.snd).Perm
          (s.holesByOuter.flatMap Prod.snd ++ [inner]) := Dict.append_at_flat
      refine (moved.append_right s.unbounded).trans ?_
      rw [List.append_assoc]
      refine (List.perm_append_comm.append_left _).trans ?_
      rw [← List.append_assoc]
      exact all.append_right [inner]

variable {inner outer : BoundaryDraft} {o : ℕ}

theorem owner_in_some (owner : ownerIn positive inner = some (outer, o)) :
    ∃ candidates, candidateOuters positive inner = .ok candidates ∧ (outer, o) ∈ candidates ∧
      ∀ other ∈ candidates, sizeKey outer ≤ sizeKey other.1 := by
  unfold ownerIn at owner
  split at owner
  · rename_i candidates tested
    obtain ⟨listed, least⟩ := sort_on_head owner
    exact ⟨candidates, tested, listed, least⟩
  · cases owner

theorem owner_of_candidate {candidates : List Indexed}
    (tested : candidateOuters positive inner = .ok candidates) (listed : (outer, o) ∈ candidates) :
    ∃ found, ownerIn positive inner = some found ∧ sizeKey found.1 ≤ sizeKey outer := by
  cases owner : ownerIn positive inner with
  | none =>
    unfold ownerIn at owner
    rw [tested] at owner
    rw [sort_on_head_none.mp owner] at listed
    cases listed
  | some found =>
    obtain ⟨candidates', tested', -, least⟩ := owner_in_some owner
    obtain rfl := Except.ok.inj (tested'.symm.trans tested)
    exact ⟨found, rfl, least _ listed⟩

theorem mem_candidates {candidates : List Indexed}
    (tested : candidateOuters (positiveOf boundaries) inner = .ok candidates) :
    (outer, o) ∈ candidates ↔ (boundaries[o]? = some outer ∧ 0 < outer.signedTwiceAreaMm2) ∧
      |inner.signedTwiceAreaMm2| < |outer.signedTwiceAreaMm2| ∧
      strictlyContainsRing outer.polygonMm inner.polygonMm = .ok true := by
  rw [(keep_all_ok tested).2, mem_positive]
  refine and_congr_right fun _ => ?_
  dsimp only
  split
  · rename_i larger
    exact (and_iff_right larger).symm
  · rename_i smaller
    exact iff_of_false nofun fun found => smaller found.1

theorem OrientedRings.same_of_key (h : OrientedRings boundaries) {a b : BoundaryDraft}
    (mem : a ∈ boundaries) (mem' : b ∈ boundaries) (same : sizeKey a = sizeKey b) : a = b :=
  List.inj_on_of_nodup_map h.names mem mem' (congrArg (fun key => (ofLex key).2) same)

theorem OrientedRings.same_index (h : OrientedRings boundaries) {o o' : ℕ}
    (at_o : boundaries[o]? = some outer) (at_o' : boundaries[o']? = some outer) : o = o' := by
  obtain ⟨inside, -⟩ := List.getElem?_eq_some_iff.mp at_o
  exact (List.getElem?_inj inside (List.Nodup.of_map _ h.names)).mp (at_o.trans at_o'.symm)

def OwnerRight (boundaries : List BoundaryDraft) (inner : BoundaryDraft) : Prop :=
  ∀ outer o, ownerIn (positiveOf boundaries) inner = some (outer, o) ↔
    boundaries[o]? = some outer ∧ Owns boundaries outer inner

theorem owner_right_of_trusted (h : OrientedRings boundaries) (mem : inner ∈ boundaries)
    (trusted : TestsTrusted boundaries inner) :
    (∃ candidates, candidateOuters (positiveOf boundaries) inner = .ok candidates) ∧
      OwnerRight boundaries inner := by
  have total : ∃ candidates,
      candidateOuters (positiveOf boundaries) inner = .ok candidates := by
    refine keep_all_total fun ⟨outer, o⟩ listed => ?_
    obtain ⟨at_o, positive⟩ := mem_positive.mp listed
    dsimp only
    split
    · rename_i larger
      obtain ⟨verdict, run, -⟩ := trusted outer (List.mem_of_getElem? at_o) positive larger
      exact ⟨verdict, run⟩
    · exact ⟨false, rfl⟩
  refine ⟨total, ?_⟩
  obtain ⟨candidates, tested⟩ := total
  -- the owner of a ring is a candidate
  have accepted : ∀ outer o, boundaries[o]? = some outer → Owns boundaries outer inner →
      (outer, o) ∈ candidates := by
    intro outer o at_o owns
    have mem' := List.mem_of_getElem? at_o
    have larger := smaller_of_contains h mem mem' owns.contains
    obtain ⟨verdict, run, right⟩ := trusted outer mem' owns.positive larger
    rw [(right owns.smallest).mpr owns.contains] at run
    exact (mem_candidates tested).mpr ⟨⟨at_o, owns.positive⟩, larger, run⟩
  have sound : ∀ outer o, ownerIn (positiveOf boundaries) inner = some (outer, o) →
      boundaries[o]? = some outer ∧ Owns boundaries outer inner := by
    intro outer o owner
    obtain ⟨candidates', tested', listed, least⟩ := owner_in_some owner
    obtain rfl := Except.ok.inj (tested'.symm.trans tested)
    obtain ⟨⟨at_o, positive⟩, larger, run⟩ := (mem_candidates tested).mp listed
    have first : ∀ other ∈ boundaries, 0 < other.signedTwiceAreaMm2 → Contains other inner →
        sizeKey outer ≤ sizeKey other := by
      intro other mem' positive' contains
      obtain ⟨m, mem_m, ⟨positive_m, contains_m⟩, least_m⟩ := exists_least sizeKey
        (p := fun m => 0 < m.signedTwiceAreaMm2 ∧ Contains m inner) ⟨other, mem', positive', contains⟩
      obtain ⟨i, at_i⟩ := List.mem_iff_getElem?.mp mem_m
      have owns : Owns boundaries m inner := ⟨positive_m, contains_m,
        fun b mem_b positive_b contains_b => least_m b mem_b ⟨positive_b, contains_b⟩⟩
      exact (least _ (accepted m i at_i owns)).trans (least_m other mem' ⟨positive', contains⟩)
    obtain ⟨verdict, run', right⟩ := trusted outer (List.mem_of_getElem? at_o) positive larger
    obtain rfl := Except.ok.inj (run'.symm.trans run)
    exact ⟨at_o, positive, (right first).mp rfl, first⟩
  refine fun outer o => ⟨sound outer o, fun ⟨at_o, owns⟩ => ?_⟩
  obtain ⟨⟨outer', o'⟩, owner, -⟩ := owner_of_candidate tested (accepted outer o at_o owns)
  obtain ⟨at_o', owns'⟩ := sound outer' o' owner
  have mem' := List.mem_of_getElem? at_o
  have mem'' := List.mem_of_getElem? at_o'
  have keys := le_antisymm (owns.smallest outer' mem'' owns'.positive owns'.contains)
    (owns'.smallest outer mem' owns.positive owns.contains)
  obtain rfl := h.same_of_key mem' mem'' keys
  rw [owner, h.same_index at_o at_o']

theorem trusted_of_owner_right (h : OrientedRings boundaries)
    (total : ∃ candidates, candidateOuters (positiveOf boundaries) inner = .ok candidates)
    (right : OwnerRight boundaries inner) : TestsTrusted boundaries inner := by
  intro outer mem' positive larger
  obtain ⟨candidates, tested⟩ := total
  obtain ⟨o, at_o⟩ := List.mem_iff_getElem?.mp mem'
  have ran : ∃ verdict, strictlyContainsRing outer.polygonMm inner.polygonMm = .ok verdict := by
    obtain ⟨verdict, run⟩ := (keep_all_ok tested).1 (outer, o) (mem_positive.mpr ⟨at_o, positive⟩)
    rw [if_pos larger] at run
    exact ⟨verdict, run⟩
  obtain ⟨verdict, run⟩ := ran
  refine ⟨verdict, run, fun first => ⟨?_, fun contains => ?_⟩⟩
  · rintro rfl
    have listed := (mem_candidates tested).mpr ⟨⟨at_o, positive⟩, larger, run⟩
    obtain ⟨⟨outer', o'⟩, owner, least⟩ := owner_of_candidate tested listed
    obtain ⟨at_o', owns⟩ := (right outer' o').mp owner
    have mem'' := List.mem_of_getElem? at_o'
    have keys := le_antisymm least (first outer' mem'' owns.positive owns.contains)
    exact h.same_of_key mem'' mem' keys ▸ owns.contains
  · have owner := (right outer o).mpr ⟨at_o, positive, contains, first⟩
    obtain ⟨candidates', tested', listed, -⟩ := owner_in_some owner
    obtain rfl := Except.ok.inj (tested'.symm.trans tested)
    have accepted := ((mem_candidates tested).mp listed).2.2
    exact Except.ok.inj (run.symm.trans accepted)

end Owners

section Assignment

variable {boundaries : List BoundaryDraft} {grouping : Grouping} {inner : BoundaryDraft}

theorem mem_by_semantic_id {rings : List Indexed} {i : ℕ} :
    i ∈ bySemanticId rings ↔ ∃ ring, (ring, i) ∈ rings := by
  unfold bySemanticId
  simp only [List.mem_map, mem_sort_on, Prod.exists, exists_eq_right]

theorem mem_holes (groups : Dict.Groups grouping.holesByOuter
      ((negativeOf boundaries).filterMap fun inner =>
        (ownerIn (positiveOf boundaries) inner.1).map fun owner => (owner.2, inner))) {o i : ℕ} :
    i ∈ (Dict.get (grouping.holesByOuter.map fun item => (item.1, bySemanticId item.2)) o).getD []
      ↔ ∃ inner, (inner, i) ∈ negativeOf boundaries ∧
        ∃ outer, ownerIn (positiveOf boundaries) inner = some (outer, o) := by
  have values : (Dict.get (grouping.holesByOuter.map fun item =>
      (item.1, bySemanticId item.2)) o).getD [] =
        bySemanticId ((grouping.holesByOuter.get o).getD []) := by
    rw [Dict.get_map_values]
    cases grouping.holesByOuter.get o with
    | none => simp [bySemanticId, sortOn]
    | some values => rfl
  rw [values, mem_by_semantic_id, groups.get]
  refine exists_congr fun inner => ?_
  rw [Dict.mem_values_at, List.mem_filterMap]
  constructor
  · rintro ⟨⟨ring, k⟩, listed, found⟩
    obtain ⟨⟨outer, o'⟩, owner, same⟩ := Option.map_eq_some_iff.mp found
    obtain ⟨rfl, rfl, rfl⟩ : o' = o ∧ ring = inner ∧ k = i := by simpa using same
    exact ⟨listed, outer, owner⟩
  · rintro ⟨listed, outer, owner⟩
    exact ⟨(inner, i), listed, by rw [owner]; rfl⟩

theorem assigned_once (h : OrientedRings boundaries)
    (all : (grouping.holesByOuter.flatMap Prod.snd ++ grouping.unbounded).Perm
      (negativeOf boundaries)) :
    ((positiveOf boundaries).map Prod.snd ++
      (grouping.holesByOuter.map fun item => (item.1, bySemanticId item.2)).flatMap Prod.snd ++
      bySemanticId grouping.unbounded).Perm (List.range boundaries.length) := by
  have by_id : ∀ rings : List Indexed, (bySemanticId rings).Perm (rings.map Prod.snd) :=
    fun rings => sort_on_perm.map Prod.snd
  have holes : ((grouping.holesByOuter.map fun item =>
      (item.1, bySemanticId item.2)).flatMap Prod.snd).Perm
        ((grouping.holesByOuter.flatMap Prod.snd).map Prod.snd) := by
    rw [List.flatMap_map, List.map_flatMap]
    exact List.Perm.flatMap_left _ fun item _ => by_id item.2
  have signs : negativeOf boundaries =
      boundaries.zipIdx.filter fun ring => !decide (0 < ring.1.signedTwiceAreaMm2) := by
    refine List.filter_congr fun ⟨ring, i⟩ listed => ?_
    have mem := List.mem_of_getElem? (List.mk_mem_zipIdx_iff_getElem?.mp listed)
    have oriented : ring.signedTwiceAreaMm2 ≠ 0 := by
      have area := (h.simple ring mem).area_ne_zero
      rw [area2_to_rat, ← h.areas ring mem] at area
      exact_mod_cast area
    dsimp only
    rw [← decide_not, decide_eq_decide]
    omega
  have indices : List.range boundaries.length = boundaries.zipIdx.map Prod.snd := by
    rw [List.zipIdx_map_snd, List.range_eq_range']
  rw [indices, List.append_assoc]
  refine ((holes.append (by_id _)).append_left _).trans ?_
  rw [← List.map_append, ← List.map_append]
  refine ((all.append_left _).trans ?_).map Prod.snd
  rw [signs]
  exact List.filter_append_perm _ _

variable {inner outer : BoundaryDraft} {o : ℕ}

theorem owner_in_indexed (owner : ownerIn (positiveOf boundaries) inner = some (outer, o)) :
    boundaries[o]? = some outer := by
  obtain ⟨candidates, tested, listed, -⟩ := owner_in_some owner
  exact ((mem_candidates tested).mp listed).1.1

theorem no_owner_iff (right : OwnerRight boundaries inner) :
    ownerIn (positiveOf boundaries) inner = none ↔
      ∀ outer ∈ boundaries, 0 < outer.signedTwiceAreaMm2 → ¬Contains outer inner := by
  constructor
  · intro none outer mem positive contains
    obtain ⟨m, mem_m, ⟨positive_m, contains_m⟩, least⟩ := exists_least sizeKey
      (p := fun m => 0 < m.signedTwiceAreaMm2 ∧ Contains m inner) ⟨outer, mem, positive, contains⟩
    obtain ⟨i, at_i⟩ := List.mem_iff_getElem?.mp mem_m
    have owner := (right m i).mpr ⟨at_i, positive_m, contains_m,
      fun b mem_b positive_b contains_b => least b mem_b ⟨positive_b, contains_b⟩⟩
    rw [none] at owner
    cases owner
  · intro alone
    rw [Option.eq_none_iff_forall_not_mem]
    rintro ⟨outer, o⟩ owner
    obtain ⟨at_o, owns⟩ := (right outer o).mp owner
    exact alone outer (List.mem_of_getElem? at_o) owns.positive owns.contains

theorem assignment_iff (h : OrientedRings boundaries)
    (run : (negativeOf boundaries).foldlM (groupInner (positiveOf boundaries)) {} = .ok grouping) :
    HoleAssignment boundaries ((positiveOf boundaries).map Prod.snd)
        (grouping.holesByOuter.map fun item => (item.1, bySemanticId item.2))
        (bySemanticId grouping.unbounded) ↔
      ∀ inner ∈ boundaries, inner.signedTwiceAreaMm2 < 0 → OwnerRight boundaries inner := by
  obtain ⟨-, groups, alone, all⟩ := grouping_spec run
  constructor
  · intro assignment inner mem negative outer o
    obtain ⟨i, at_i⟩ := List.mem_iff_getElem?.mp mem
    have owned := assignment.owned o i
    rw [mem_holes groups] at owned
    constructor
    · intro owner
      obtain ⟨outer', inner', at_o, at_i', -, owns⟩ :=
        owned.mp ⟨inner, mem_negative.mpr ⟨at_i, negative⟩, outer, owner⟩
      obtain rfl := Option.some.inj (at_i.symm.trans at_i')
      obtain rfl := Option.some.inj (at_o.symm.trans (owner_in_indexed owner))
      exact ⟨at_o, owns⟩
    · rintro ⟨at_o, owns⟩
      obtain ⟨inner', listed, outer', owner⟩ :=
        owned.mpr ⟨outer, inner, at_o, at_i, negative, owns⟩
      obtain rfl := Option.some.inj (at_i.symm.trans (mem_negative.mp listed).1)
      rw [owner, Option.some.inj (at_o.symm.trans (owner_in_indexed owner))]
  · intro right
    refine ⟨fun i => ?_, fun o i => ?_, fun i => ?_, assigned_once h all⟩
    · simp only [List.mem_map, Prod.exists, exists_eq_right, mem_positive]
    · rw [mem_holes groups]
      constructor
      · rintro ⟨inner, listed, outer, owner⟩
        obtain ⟨at_i, negative⟩ := mem_negative.mp listed
        obtain ⟨at_o, owns⟩ :=
          (right inner (List.mem_of_getElem? at_i) negative outer o).mp owner
        exact ⟨outer, inner, at_o, at_i, negative, owns⟩
      · rintro ⟨outer, inner, at_o, at_i, negative, owns⟩
        exact ⟨inner, mem_negative.mpr ⟨at_i, negative⟩, outer,
          (right inner (List.mem_of_getElem? at_i) negative outer o).mpr ⟨at_o, owns⟩⟩
    · rw [mem_by_semantic_id, alone]
      refine exists_congr fun inner => ?_
      rw [List.mem_filter, mem_negative, Option.isNone_iff_eq_none, and_assoc]
      refine and_congr_right fun at_i => and_congr_right fun negative => ?_
      exact no_owner_iff (right inner (List.mem_of_getElem? at_i) negative)

/-- The rings are grouped rightly exactly when the rounded tests can be trusted, as they can with
coordinates up to 2^25. -/
theorem rings_grouped_iff (h : OrientedRings boundaries) :
    ((∃ positive holes unbounded, groupOrientedRings boundaries = .ok (positive, holes, unbounded) ∧
        HoleAssignment boundaries positive holes unbounded) ↔
      ∀ inner ∈ boundaries, inner.signedTwiceAreaMm2 < 0 → TestsTrusted boundaries inner) ∧
    ((∀ ring ∈ boundaries, Small ring.polygonMm) →
      ∀ inner ∈ boundaries, inner.signedTwiceAreaMm2 < 0 → TestsTrusted boundaries inner) := by
  refine ⟨?_, fun small inner mem negative => tests_trusted_of_small h small mem negative⟩
  constructor
  · rintro ⟨positive, holes, unbounded, grouped, assignment⟩ inner mem negative
    obtain ⟨grouping, run, grouped⟩ := bind_ok.mp grouped
    obtain ⟨rfl, rfl, rfl⟩ : (positiveOf boundaries).map Prod.snd = positive ∧
        grouping.holesByOuter.map (fun item => (item.1, bySemanticId item.2)) = holes ∧
        bySemanticId grouping.unbounded = unbounded := by
      simpa using pure_ok.mp grouped
    obtain ⟨i, at_i⟩ := List.mem_iff_getElem?.mp mem
    obtain ⟨each, -⟩ := grouping_spec run
    exact trusted_of_owner_right h (each (inner, i) (mem_negative.mpr ⟨at_i, negative⟩))
      ((assignment_iff h run).mp assignment inner mem negative)
  · intro trusted
    have right := fun inner mem negative =>
      owner_right_of_trusted h mem (trusted inner mem negative)
    obtain ⟨grouping, run, -⟩ := fold_total (I := fun _ _ => True)
      (f := groupInner (positiveOf boundaries)) (l := negativeOf boundaries) (s := {}) (by
        rintro past ⟨inner, i⟩ rest s split -
        have listed : (inner, i) ∈ negativeOf boundaries := by simp [split]
        obtain ⟨at_i, negative⟩ := mem_negative.mp listed
        obtain ⟨⟨candidates, tested⟩, -⟩ := right inner (List.mem_of_getElem? at_i) negative
        unfold groupInner
        rw [tested, ok_bind]
        cases (sortOn (fun outer : Indexed => sizeKey outer.1) candidates).head? with
        | none => exact ⟨_, rfl, trivial⟩
        | some owner => exact ⟨_, rfl, trivial⟩) trivial
    refine ⟨_, _, _, ?_, (assignment_iff h run).mpr fun inner mem negative =>
      (right inner mem negative).2⟩
    unfold groupOrientedRings
    rw [run, ok_bind]
    rfl

/-- A square with a square hole. -/
theorem square_hole_grouped :
    let boundaries : List BoundaryDraft :=
      [⟨"outer", [(0, 0), (6, 0), (6, 6), (0, 6), (0, 0)], 72⟩,
        ⟨"hole", [(2, 2), (2, 4), (4, 4), (4, 2), (2, 2)], -8⟩]
    ((∃ positive holes unbounded, groupOrientedRings boundaries = .ok (positive, holes, unbounded) ∧
        HoleAssignment boundaries positive holes unbounded) ↔
      ∀ inner ∈ boundaries, inner.signedTwiceAreaMm2 < 0 → TestsTrusted boundaries inner) ∧
    ((∀ ring ∈ boundaries, Small ring.polygonMm) →
      ∀ inner ∈ boundaries, inner.signedTwiceAreaMm2 < 0 → TestsTrusted boundaries inner) := by
  refine rings_grouped_iff ⟨?_, by decide, by decide, ?_⟩
  · refine List.forall_mem_cons.mpr ⟨?_, List.forall_mem_singleton.mpr ?_⟩ <;>
      exact simple_of_separated (by decide +kernel) (by decide) (by decide +kernel)
        (by decide +kernel)
  · exact List.pairwise_pair.mpr (non_crossing_of_left (by decide +kernel))

/-- A ring with a long side that leans by a millimetre, and a triangle just inside it. -/
def leaningRings : List BoundaryDraft :=
  [⟨"outer", [(67108854, 1), (67108864, 1), (67108865, 268435457), (67108854, 268435457),
      (67108854, 1)], 5637144576⟩,
    ⟨"hole", [(67108864, 2), (67108860, 2), (67108860, 5), (67108864, 2)], -12⟩]

/-- Rounding puts the leaning side on the corner of the triangle, so the hole counts as a ring
around which nothing lies. -/
theorem leaning_ring_loses_hole : ¬ ∀ boundaries, OrientedRings boundaries →
    ∃ positive holes unbounded, groupOrientedRings boundaries = .ok (positive, holes, unbounded) ∧
      HoleAssignment boundaries positive holes unbounded := by
  intro correct
  have rings : OrientedRings leaningRings := by
    refine ⟨?_, by decide +kernel, by decide, ?_⟩
    · refine List.forall_mem_cons.mpr ⟨?_, List.forall_mem_singleton.mpr ?_⟩ <;>
        exact simple_of_separated (by decide +kernel) (by decide) (by decide +kernel)
          (by decide +kernel)
    · exact List.pairwise_pair.mpr (non_crossing_of_left (by decide +kernel))
  obtain ⟨positive, holes, unbounded, found, assignment⟩ := correct leaningRings rings
  have returned : groupOrientedRings leaningRings = .ok ([0], [], [1]) := by
    decide +kernel
  obtain ⟨rfl, rfl, rfl⟩ : [0] = positive ∧ [] = holes ∧ [1] = unbounded := by
    simpa using Except.ok.inj (returned.symm.trans found)
  obtain ⟨hole, at_one, -, none⟩ := (assignment.alone 1).mp (List.mem_singleton_self 1)
  obtain ⟨outer, tail⟩ : ∃ outer, leaningRings = [outer, hole] := by
    obtain rfl := Option.some.inj at_one
    exact ⟨_, rfl⟩
  rw [tail] at none rings
  obtain ⟨rfl, rfl⟩ : outer = leaningRings[0] ∧ hole = leaningRings[1] := by simp [tail]
  refine none _ List.mem_cons_self (by decide) ((contains_iff rings (by simp) (by simp) ?_).mpr ?_)
  · intro same
    exact absurd (congrArg (fun ring => ring.signedTwiceAreaMm2) same) (by decide)
  · have vertices : ∀ v ∈ leaningRings[1].polygonMm.dropLast,
        (∀ side ∈ sides leaningRings[0].polygonMm.toRat, ¬onSide (toRat v) side.1 side.2) ∧
          Odd (crossings leaningRings[0].polygonMm.toRat (toRat v)) := by
      decide +kernel
    intro v listed
    obtain ⟨off, odd⟩ := vertices v listed
    exact ⟨fun ⟨side, member, there⟩ => off side member (on_side_iff.mpr there), odd⟩

end Assignment

end Metroflow.City.Blocks
