import Metroflow.City.Segments
import Metroflow.Lib.Doubles
import Metroflow.Lib.Loops
import Metroflow.Lib.Rings

namespace Metroflow.City.Blocks

open Metroflow.Lib

def toRat (point : PointMM) : ℚ × ℚ := (point.1, point.2)

/-- A polygon of the plan, closed by its first vertex. -/
abbrev Ring := List PointMM

def Ring.toRat (ring : Ring) : List (ℚ × ℚ) := ring.map Blocks.toRat

/-- A point with whole coordinates, or with fractions. -/
inductive ExactPointMM where
  | int (point : PointMM)
  | fraction (point : ℚ × ℚ)
  deriving DecidableEq

def ExactPointMM.toRat : ExactPointMM → ℚ × ℚ
  | .int point => Blocks.toRat point
  | .fraction point => point

inductive PointStatus where
  | boundary
  | inside
  | outside
  deriving DecidableEq, Repr

/-- The float nearest to a number. -/
def toFloat (x : ℚ) : Except String ℚ :=
  if doubleBound ≤ |double x| then .error "integer division result too large for a float"
  else .ok (double x)

def meetsBeyond (point : ExactPointMM) (left right : PointMM) : Except String Bool :=
  match point with
  | .int p => do
    -- the quotient of whole numbers is a float, and so is its sum with a fraction
    let quotient ← toFloat (((p.2 - left.2) * (right.1 - left.1) : ℤ) /
      ((right.2 - left.2 : ℤ) : ℚ))
    let base ← toFloat left.1
    let intersectionX := double (base + quotient)
    -- past the largest float the sum is infinite
    return if doubleBound ≤ |intersectionX| then decide (0 < intersectionX)
      else decide ((p.1 : ℚ) < intersectionX)
  | .fraction p => .ok (decide (p.1 < meetAt p.2 (toRat left, toRat right)))

def onSide (p left right : ℚ × ℚ) : Prop :=
  cross left right p = 0 ∧ (min left.1 right.1 ≤ p.1 ∧ p.1 ≤ max left.1 right.1) ∧
    min left.2 right.2 ≤ p.2 ∧ p.2 ≤ max left.2 right.2

instance (p left right : ℚ × ℚ) : Decidable (onSide p left right) :=
  inferInstanceAs (Decidable (_ ∧ (_ ∧ _) ∧ _ ∧ _))

def pointStatusFrom (point : ExactPointMM) :
    Bool → List (PointMM × PointMM) → Except String PointStatus
  | inside, [] => .ok (if inside then .inside else .outside)
  | inside, (left, right) :: rest =>
    if onSide point.toRat (toRat left) (toRat right) then .ok .boundary
    else if ¬ Spans point.toRat.2 (toRat left, toRat right) then pointStatusFrom point inside rest
    else do
      let beyond ← meetsBeyond point left right
      pointStatusFrom point (if beyond then !inside else inside) rest

def pointStatus (point : ExactPointMM) (polygon : Ring) : Except String PointStatus :=
  pointStatusFrom point false (sides polygon)

def clearOfHoles (point : ExactPointMM) : List Ring → Except String Bool
  | [] => .ok true
  | hole :: holes => do
    let status ← pointStatus point hole
    if status = .outside then clearOfHoles point holes else return false

def validCandidate (outer : Ring) (holes : List Ring) (point : ExactPointMM) :
    Except String Bool := do
  let status ← pointStatus point outer
  if status = .inside then clearOfHoles point holes else return false

def vertexCentroid (vertices : List PointMM) : Except String PointMM := do
  raiseIf (vertices = []) "Fraction(0, 0)"
  return (roundHalfEven ((vertices.map Prod.fst).sum / vertices.length),
    roundHalfEven ((vertices.map Prod.snd).sum / vertices.length))

def ordinates (outer : Ring) (holes : List Ring) : List ℤ :=
  ((outer :: holes).flatMap fun ring => ring.dropLast.map Prod.snd).dedup.insertionSort (· ≤ ·)

def besideMidpoint (left right : PointMM) : PointMM :=
  let deltaX := right.1 - left.1
  let deltaY := right.2 - left.2
  ((left.1 + right.1) / 2 + (if deltaY = 0 then 0 else if 0 < deltaY then -1 else 1),
    (left.2 + right.2) / 2 + (if deltaX = 0 then 0 else if 0 < deltaX then 1 else -1))

def candidates (outer : Ring) (holes : List Ring) (centroid : PointMM) : List PointMM :=
  let levels := ordinates outer holes
  centroid ::
    (levels.flatMap fun ordinate => [(centroid.1, ordinate - 1), (centroid.1, ordinate + 1)]) ++
    ((sides levels).filter fun gap => 1 < gap.2 - gap.1).map
      (fun gap => (centroid.1, (gap.1 + gap.2) / 2)) ++
    (sides outer).map fun side => besideMidpoint side.1 side.2

/-- Where the sides of the rings meet a level, in order. -/
def intersections (rings : List Ring) (ordinate : ℚ) : List ℚ :=
  (rings.flatMap fun ring => (sides ring.toRat).filterMap fun side =>
    if Spans ordinate side then some (meetAt ordinate side) else none).dedup.insertionSort (· ≤ ·)

/-- The middles of the gaps between the sides, halfway between the ordinates. -/
def rationalCandidates (outer : Ring) (holes : List Ring) : List (ℚ × ℚ) :=
  ((sides (ordinates outer holes)).filter fun gap => gap.1 < gap.2).flatMap fun gap =>
    let ordinate : ℚ := (gap.1 + gap.2) / 2
    ((sides (intersections (outer :: holes) ordinate)).filter fun pair => pair.1 < pair.2).map
      fun pair => ((pair.1 + pair.2) / 2, ordinate)

def least {K : Type} [LinearOrder K] (points : List (K × K)) : Option (K × K) :=
  (points.map toLex).min?.map ofLex

def noWitness : String := "bounded face has no canonical exact interior witness"

def interiorWitness (outer : Ring) (holes : List Ring) : Except String ExactPointMM := do
  let centroid ← vertexCentroid outer.dropLast
  let valid ← keepAll (fun point => validCandidate outer holes (.int point))
    (candidates outer holes centroid)
  match least valid with
  | some point => return .int point
  | none =>
    let valid ← keepAll (fun point => validCandidate outer holes (.fraction point))
      (rationalCandidates outer holes)
    match least valid with
    | some point => return .fraction point
    | none => .error noWitness

section Exact

variable {ring outer : Ring} {holes : List Ring} {point : ExactPointMM} {p : ℚ × ℚ} {y : ℚ}
  {left right : PointMM}

theorem on_side_iff {left right : ℚ × ℚ} : onSide p left right ↔ p ∈ segment ℚ left right := by
  constructor
  · rintro ⟨line, first, second⟩
    exact mem_segment_of_box line first second
  · intro inside
    have box := @box_of_mem ℚ _ _ _ p (left, right) inside
    refine ⟨?_, box.1, box.2⟩
    rcases mem_segment_cases.mp inside with rfl | rfl | inner
    · unfold cross
      ring
    · exact cross_end _ _
    · exact cross_of_open inner

theorem sides_to_rat (ring : Ring) :
    sides ring.toRat = (sides ring).map fun side => (toRat side.1, toRat side.2) := by
  unfold sides Ring.toRat
  rw [← List.map_tail, List.zip_map]
  rfl

theorem point_status_from {l : List (PointMM × PointMM)}
    (agrees : ∀ side ∈ l, Spans point.toRat.2 (toRat side.1, toRat side.2) →
      point.toRat ∉ segment ℚ (toRat side.1) (toRat side.2) → meetsBeyond point side.1 side.2 =
        .ok (decide (point.toRat.1 < meetAt point.toRat.2 (toRat side.1, toRat side.2))))
    (inside : Bool) : ∃ status, pointStatusFrom point inside l = .ok status ∧
      (status = .boundary ↔ ∃ side ∈ l, point.toRat ∈ segment ℚ (toRat side.1) (toRat side.2)) ∧
      (status ≠ .boundary → (status = .inside ↔ (inside = true ↔ Even (l.countP fun side =>
        Spans point.toRat.2 (toRat side.1, toRat side.2) ∧
          point.toRat.1 < meetAt point.toRat.2 (toRat side.1, toRat side.2))))) := by
  induction l generalizing inside with
  | nil => cases inside <;> simp [pointStatusFrom]
  | cons side rest ih =>
    obtain ⟨here, later⟩ := List.forall_mem_cons.mp agrees
    obtain ⟨left, right⟩ := side
    unfold pointStatusFrom
    rw [List.exists_mem_cons_iff]
    by_cases on_side : onSide point.toRat (toRat left) (toRat right)
    · rw [if_pos on_side]
      exact ⟨_, rfl, ⟨fun _ => .inl (on_side_iff.mp on_side), fun _ => rfl⟩,
        fun off => absurd rfl off⟩
    rw [if_neg on_side]
    rw [on_side_iff] at on_side
    by_cases spans : Spans point.toRat.2 (toRat left, toRat right)
    · rw [if_neg (not_not.mpr spans), here spans on_side, ok_bind]
      by_cases beyond : point.toRat.1 < meetAt point.toRat.2 (toRat left, toRat right)
      · rw [decide_eq_true beyond, if_pos rfl]
        obtain ⟨status, run, boundary, parity⟩ := ih later (!inside)
        refine ⟨status, run, boundary.trans (or_iff_right on_side).symm, fun off => ?_⟩
        rw [List.countP_cons_of_pos (by simpa using ⟨spans, beyond⟩), Nat.even_add_one, parity off]
        cases inside <;> simp
      · rw [decide_eq_false beyond, if_neg Bool.false_ne_true]
        obtain ⟨status, run, boundary, parity⟩ := ih later inside
        refine ⟨status, run, boundary.trans (or_iff_right on_side).symm, fun off => ?_⟩
        rw [List.countP_cons_of_neg (by simpa using fun _ => not_lt.mp beyond), parity off]
    · rw [if_pos spans]
      obtain ⟨status, run, boundary, parity⟩ := ih later inside
      refine ⟨status, run, boundary.trans (or_iff_right on_side).symm, fun off => ?_⟩
      rw [List.countP_cons_of_neg (by simpa using fun there => absurd there spans), parity off]

/-- The crossings of a side are judged as by exact arithmetic. -/
def Exactly (point : ExactPointMM) (ring : Ring) : Prop :=
  ∀ side ∈ sides ring, Spans point.toRat.2 (toRat side.1, toRat side.2) →
    point.toRat ∉ segment ℚ (toRat side.1) (toRat side.2) → meetsBeyond point side.1 side.2 =
      .ok (decide (point.toRat.1 < meetAt point.toRat.2 (toRat side.1, toRat side.2)))

theorem exactly_fraction (p : ℚ × ℚ) (ring : Ring) : Exactly (.fraction p) ring :=
  fun _ _ _ _ => rfl

theorem point_status_exact (exact : Exactly point ring) :
    ∃ status, pointStatus point ring = .ok status ∧
      (status = .inside ↔ Inside ring.toRat point.toRat) ∧
      (status = .outside ↔ Outside ring.toRat point.toRat) := by
  obtain ⟨status, run, boundary, parity⟩ := point_status_from exact false
  have on_ring : status = .boundary ↔ OnRing ring.toRat point.toRat := by
    rw [boundary, OnRing, sides_to_rat]
    simp only [List.mem_map, exists_exists_and_eq_and]
  have counted : ((sides ring).countP fun side =>
      Spans point.toRat.2 (toRat side.1, toRat side.2) ∧
        point.toRat.1 < meetAt point.toRat.2 (toRat side.1, toRat side.2)) =
      crossings ring.toRat point.toRat := by
    unfold crossings
    rw [sides_to_rat, List.countP_map]
    rfl
  rw [counted] at parity
  refine ⟨status, run, ?_⟩
  unfold Inside Outside
  rw [← on_ring, ← Nat.not_even_iff_odd]
  cases status with
  | boundary => simp
  | inside =>
    have odd := (parity nofun).mp rfl
    simp_all
  | outside =>
    have even := parity nofun
    simp_all

def InteriorPoint (outer : Ring) (holes : List Ring) (p : ℚ × ℚ) : Prop :=
  Inside outer.toRat p ∧ ∀ hole ∈ holes, Outside hole.toRat p

theorem clear_of_holes_exact (exact : ∀ hole ∈ holes, Exactly point hole) :
    ∃ verdict, clearOfHoles point holes = .ok verdict ∧
      (verdict = true ↔ ∀ hole ∈ holes, Outside hole.toRat point.toRat) := by
  induction holes with
  | nil => exact ⟨true, rfl, by simp⟩
  | cons hole holes ih =>
    obtain ⟨here, later⟩ := List.forall_mem_cons.mp exact
    obtain ⟨status, run, -, outside⟩ := point_status_exact here
    obtain ⟨verdict, run', clear⟩ := ih later
    rw [List.forall_mem_cons, ← outside]
    unfold clearOfHoles
    rw [run, ok_bind]
    by_cases out : status = .outside
    · rw [if_pos out]
      exact ⟨verdict, run', by rw [clear]; exact (and_iff_right out).symm⟩
    · rw [if_neg out]
      exact ⟨false, rfl, by simp [out]⟩

theorem valid_candidate_exact (exact : ∀ ring ∈ outer :: holes, Exactly point ring) :
    ∃ verdict, validCandidate outer holes point = .ok verdict ∧
      (verdict = true ↔ InteriorPoint outer holes point.toRat) := by
  obtain ⟨here, later⟩ := List.forall_mem_cons.mp exact
  obtain ⟨status, run, inside, -⟩ := point_status_exact here
  obtain ⟨verdict, run', clear⟩ := clear_of_holes_exact later
  unfold validCandidate InteriorPoint
  rw [run, ok_bind, ← inside]
  by_cases within : status = .inside
  · rw [if_pos within]
    exact ⟨verdict, run', by rw [clear]; exact (and_iff_right within).symm⟩
  · rw [if_neg within]
    exact ⟨false, rfl, by simp [within]⟩

theorem valid_fraction : validCandidate outer holes (.fraction p) = .ok true ↔
    InteriorPoint outer holes p := by
  obtain ⟨verdict, run, iff⟩ := valid_candidate_exact fun ring _ => exactly_fraction p ring
  rw [run, Except.ok.injEq]
  exact iff

end Exact

structure PolygonWithHoles (outer : Ring) (holes : List Ring) : Prop where
  outer_simple : SimpleRing outer.toRat
  turns_left : 0 < area2 outer
  holes_simple : ∀ hole ∈ holes, SimpleRing hole.toRat
  holes_within : ∀ hole ∈ holes, ∀ p, OnRing hole.toRat p → Inside outer.toRat p
  holes_apart : holes.Pairwise fun hole other => ∀ p, OnRing hole.toRat p → ¬ OnRing other.toRat p

section Gaps

variable {ring outer : Ring} {holes : List Ring} {y : ℚ}

theorem mem_ordinates {level : ℤ} : level ∈ ordinates outer holes ↔
    ∃ ring ∈ outer :: holes, ∃ v ∈ ring.dropLast, v.2 = level := by
  unfold ordinates
  rw [List.mem_insertionSort, List.mem_dedup, List.mem_flatMap]
  simp only [List.mem_map]

theorem ordinates_sorted : (ordinates outer holes).Pairwise (· < ·) := by
  have sorted : (ordinates outer holes).Pairwise (· ≤ ·) := List.pairwise_insertionSort _ _
  have apart : (ordinates outer holes).Nodup :=
    (List.perm_insertionSort _ _).nodup_iff.mpr (List.nodup_dedup _)
  exact (sorted.and apart).imp fun pair => lt_of_le_of_ne pair.1 pair.2

theorem mem_intersections {rings : List Ring} {x : ℚ} : x ∈ intersections rings y ↔
    ∃ ring ∈ rings, ∃ side ∈ sides ring.toRat, Spans y side ∧ meetAt y side = x := by
  unfold intersections
  rw [List.mem_insertionSort, List.mem_dedup, List.mem_flatMap]
  refine exists_congr fun ring => and_congr_right fun _ => ?_
  rw [List.mem_filterMap]
  refine exists_congr fun side => and_congr_right fun _ => ?_
  split
  · rename_i spans
    rw [Option.some.injEq]
    exact (and_iff_right spans).symm
  · rename_i misses
    exact ⟨nofun, fun there => absurd there.1 misses⟩

theorem intersections_sorted {rings : List Ring} : (intersections rings y).Pairwise (· < ·) := by
  have sorted : (intersections rings y).Pairwise (· ≤ ·) := List.pairwise_insertionSort _ _
  have apart : (intersections rings y).Nodup :=
    (List.perm_insertionSort _ _).nodup_iff.mpr (List.nodup_dedup _)
  exact (sorted.and apart).imp fun pair => lt_of_le_of_ne pair.1 pair.2

theorem to_rat_injective : Function.Injective toRat := by
  intro v w same
  obtain ⟨first, second⟩ := Prod.mk.inj same
  exact Prod.ext (by exact_mod_cast first) (by exact_mod_cast second)

theorem ring_closed (simple : SimpleRing ring.toRat) : ring.head? = ring.getLast? := by
  have closed := simple.closed
  rw [Ring.toRat, List.head?_map, List.getLast?_map] at closed
  exact Option.map_injective to_rat_injective closed

theorem ring_corners (simple : SimpleRing ring.toRat) : 3 ≤ ring.dropLast.length := by
  have corners := simple.corners
  rwa [Ring.toRat, ← List.map_dropLast, List.length_map] at corners

theorem vertex_listed (simple : SimpleRing ring.toRat) {v : PointMM} (listed : v ∈ ring) :
    v ∈ ring.dropLast := by
  have closed := ring_closed simple
  have corners := ring_corners simple
  cases ring with
  | nil => cases listed
  | cons w l =>
    cases l with
    | nil => exact absurd corners (by simp)
    | cons w' l =>
      have nonempty : w :: w' :: l ≠ [] := List.cons_ne_nil _ _
      rw [← List.dropLast_append_getLast nonempty, List.mem_append, List.mem_singleton] at listed
      rcases listed with inner | rfl
      · exact inner
      · rw [List.head?_cons, List.getLast?_eq_some_getLast nonempty] at closed
        rw [← Option.some.inj closed]
        exact List.mem_cons_self

theorem outer_levels (face : PolygonWithHoles outer holes) :
    ∃ v ∈ outer, ∃ w ∈ outer, v.2 < w.2 := by
  by_contra level
  push Not at level
  have nonempty : outer ≠ [] := by
    rintro rfl
    exact lt_irrefl _ face.turns_left
  obtain ⟨v, listed⟩ := List.exists_mem_of_ne_nil outer nonempty
  have flat : area2 outer = 0 := area2_flat (ring_closed face.outer_simple) fun w listed' =>
    le_antisymm (level v listed w listed') (level w listed' v listed)
  exact face.turns_left.ne' flat

theorem rational_candidate (face : PolygonWithHoles outer holes) :
    ∃ p ∈ rationalCandidates outer holes, InteriorPoint outer holes p := by
  obtain ⟨v, listed_v, w, listed_w, rise⟩ := outer_levels face
  have simple : ∀ ring ∈ outer :: holes, SimpleRing ring.toRat :=
    List.forall_mem_cons.mpr ⟨face.outer_simple, face.holes_simple⟩
  have known : ∀ ring ∈ outer :: holes, ∀ v ∈ ring, v.2 ∈ ordinates outer holes :=
    fun ring there v listed => mem_ordinates.mpr
      ⟨ring, there, v, vertex_listed (simple ring there) listed, rfl⟩
  obtain ⟨upper, gap, above, below, empty⟩ := next_entry ordinates_sorted
    (known outer List.mem_cons_self v listed_v) (known outer List.mem_cons_self w listed_w) rise
  have above' : (v.2 : ℚ) < upper := by exact_mod_cast above
  have below' : (upper : ℚ) ≤ w.2 := by exact_mod_cast below
  have low : (v.2 : ℚ) < (v.2 + upper) / 2 := by linarith
  have high : ((v.2 : ℚ) + upper) / 2 < upper := by linarith
  have free : ∀ ring ∈ outer.toRat :: holes.map Ring.toRat, ∀ u ∈ ring,
      u.2 ≠ ((v.2 : ℚ) + upper) / 2 := by
    rw [← List.map_cons, List.forall_mem_map]
    intro ring there u' listed' same
    obtain ⟨u, listed, rfl⟩ := List.mem_map.mp listed'
    rcases empty u.2 (known ring there u listed) with beneath | beyond
    · have : (u.2 : ℚ) ≤ v.2 := by exact_mod_cast beneath
      exact (this.trans_lt low).ne same
    · have : (upper : ℚ) ≤ u.2 := by exact_mod_cast beyond
      exact (high.trans_le this).ne' same
  have crossed : ∃ e ∈ sides outer.toRat, Spans (((v.2 : ℚ) + upper) / 2) e :=
    exists_change (fun u : ℚ × ℚ => ((v.2 : ℚ) + upper) / 2 < u.2) (List.mem_map_of_mem listed_w)
      (List.mem_map_of_mem listed_v) (high.trans_le below') low.not_gt
  have listed : ∀ x, x ∈ intersections (outer :: holes) (((v.2 : ℚ) + upper) / 2) ↔
      ∃ ring ∈ outer.toRat :: holes.map Ring.toRat, ∃ side ∈ sides ring,
        Spans (((v.2 : ℚ) + upper) / 2) side ∧ meetAt (((v.2 : ℚ) + upper) / 2) side = x := by
    intro x
    rw [mem_intersections, ← List.map_cons]
    simp only [List.mem_map, exists_exists_and_eq_and]
  obtain ⟨a, b, rest, meets, before, inside, outside⟩ := first_gap face.outer_simple free
    (List.forall_mem_map.mpr fun hole there => (face.holes_simple hole there).closed)
    (List.forall_mem_map.mpr face.holes_within) crossed intersections_sorted listed
  refine ⟨_, List.mem_flatMap.mpr ⟨_, List.mem_filter.mpr ⟨gap, decide_eq_true above⟩,
    List.mem_map.mpr ⟨(a, b), List.mem_filter.mpr ⟨?_, decide_eq_true before⟩, rfl⟩⟩, inside, ?_⟩
  · rw [meets]
    exact List.mem_cons_self
  · exact List.forall_mem_map.mp outside

end Gaps

section Floats

variable {ring outer : Ring} {holes : List Ring} {point : ExactPointMM} {p left right : PointMM}
  {e : String}

/-- The coordinates at which rounding hides no crossing. -/
def Small (ring : Ring) : Prop := ∀ v ∈ ring, |v.1| ≤ 2 ^ 25 ∧ |v.2| ≤ 2 ^ 25

theorem double_small {x : ℚ} (small : |x| ≤ 2 ^ 27) :
    |double x| < doubleBound ∧ |double x - x| ≤ max |x| 1 / 2 ^ 53 := by
  have tiny : (2 : ℚ) ^ (-1022 : ℤ) ≤ 1 := zpow_le_one_of_nonpos₀ one_le_two (by norm_num)
  have error : |double x - x| ≤ max |x| 1 / 2 ^ 53 := by
    refine (double_error x).trans ?_
    gcongr
  refine ⟨?_, error⟩
  have bound : max |x| 1 ≤ 2 ^ 27 := max_le small (by norm_num)
  have near : |double x| ≤ 2 ^ 27 + 2 ^ 27 / 2 ^ 53 := by
    have split : double x = x + (double x - x) := by ring
    rw [split]
    refine (abs_add_le _ _).trans (add_le_add small (error.trans ?_))
    gcongr
  have far : (2 : ℚ) ^ 28 < doubleBound := pow_lt_pow_right₀ one_lt_two (by norm_num)
  refine near.trans_lt (lt_trans ?_ far)
  norm_num

theorem crossing_apart (spans : Spans (p.2 : ℚ) (toRat left, toRat right))
    (off : toRat p ∉ segment ℚ (toRat left) (toRat right)) :
    1 ≤ |(meetAt (p.2 : ℚ) (toRat left, toRat right) - p.1) * (right.2 - left.2)| := by
  have height : (right.2 : ℚ) - left.2 ≠ 0 := sub_ne_zero.mpr (spans_apart spans).symm
  have whole : (meetAt (p.2 : ℚ) (toRat left, toRat right) - p.1) * (right.2 - left.2) =
      (((left.1 - p.1) * (right.2 - left.2) + (p.2 - left.2) * (right.1 - left.1) : ℤ) : ℚ) := by
    unfold meetAt toRat
    push_cast
    field_simp
    ring
  have moved : (meetAt (p.2 : ℚ) (toRat left, toRat right) - p.1) * (right.2 - left.2) ≠ 0 := by
    refine mul_ne_zero (sub_ne_zero.mpr fun same => off ?_) height
    have meets := meet_mem spans
    rw [same] at meets
    exact meets
  rw [whole] at moved ⊢
  exact_mod_cast Int.one_le_abs (by exact_mod_cast moved)

theorem rounded_crossing {lx q s : ℚ} {x h : ℚ} (base : |lx| ≤ 2 ^ 25) (sum : |lx + q| ≤ 2 ^ 25)
    (height : |h| ≤ 2 ^ 26) (apart : 1 ≤ |(lx + q - x) * h|)
    (rounded : s = double (lx + double q)) :
    |double q| < doubleBound ∧ |s| < doubleBound ∧ (x < s ↔ x < lx + q) := by
  have quotient : |q| ≤ 2 ^ 26 := by
    have split : q = lx + q - lx := by ring
    rw [split]
    refine (abs_sub _ _).trans ((add_le_add sum base).trans (le_of_eq ?_))
    norm_num
  obtain ⟨finite, error⟩ := double_small (quotient.trans (by norm_num))
  have first : |double q - q| ≤ 2 ^ 26 / 2 ^ 53 := by
    refine error.trans ?_
    gcongr
    exact max_le quotient (by norm_num)
  have sum' : |lx + double q| ≤ 2 ^ 25 + 1 := by
    have split : lx + double q = lx + q + (double q - q) := by ring
    rw [split]
    refine (abs_add_le _ _).trans (add_le_add sum (first.trans (by norm_num)))
  obtain ⟨finite', error'⟩ := double_small (sum'.trans (by norm_num))
  have second : |s - (lx + double q)| ≤ (2 ^ 25 + 1) / 2 ^ 53 := by
    rw [rounded]
    refine error'.trans ?_
    gcongr
    exact max_le sum' (by norm_num)
  have total : |s - (lx + q)| < 1 / 2 ^ 26 := by
    have split : s - (lx + q) = s - (lx + double q) + (double q - q) := by ring
    rw [split]
    refine (abs_add_le _ _).trans_lt ((add_le_add second first).trans_lt (by norm_num))
  have far : 1 / 2 ^ 26 ≤ |lx + q - x| := by
    rw [abs_mul] at apart
    rw [div_le_iff₀ (by norm_num)]
    exact apart.trans (mul_le_mul_of_nonneg_left height (abs_nonneg _))
  refine ⟨finite, rounded ▸ finite', ?_⟩
  rw [abs_lt] at total
  constructor
  · intro before
    by_contra after
    rw [abs_of_nonpos (by linarith)] at far
    linarith
  · intro before
    rw [abs_of_pos (by linarith)] at far
    linarith

theorem meets_beyond_small (small_left : |left.1| ≤ 2 ^ 25 ∧ |left.2| ≤ 2 ^ 25)
    (small_right : |right.1| ≤ 2 ^ 25 ∧ |right.2| ≤ 2 ^ 25)
    (spans : Spans (p.2 : ℚ) (toRat left, toRat right))
    (off : toRat p ∉ segment ℚ (toRat left) (toRat right)) :
    meetsBeyond (.int p) left right =
      .ok (decide ((p.1 : ℚ) < meetAt (p.2 : ℚ) (toRat left, toRat right))) := by
  have cast_le : ∀ {a : ℤ}, |a| ≤ 2 ^ 25 → |(a : ℚ)| ≤ 2 ^ 25 := by
    intro a bound
    exact_mod_cast bound
  have meet_eq : meetAt (p.2 : ℚ) (toRat left, toRat right) = left.1 +
      (((p.2 - left.2) * (right.1 - left.1) : ℤ) : ℚ) / ((right.2 - left.2 : ℤ) : ℚ) := by
    unfold meetAt toRat
    push_cast
    rfl
  have within : |meetAt (p.2 : ℚ) (toRat left, toRat right)| ≤ 2 ^ 25 := by
    obtain ⟨low, high⟩ := (box_of_mem (meet_mem spans)).1
    have left_le := abs_le.mp (cast_le small_left.1)
    have right_le := abs_le.mp (cast_le small_right.1)
    exact abs_le.mpr ⟨(le_min left_le.1 right_le.1).trans low,
      high.trans (max_le left_le.2 right_le.2)⟩
  have height : |((right.2 : ℚ) - left.2)| ≤ 2 ^ 26 := by
    refine (abs_sub _ _).trans ((add_le_add (cast_le small_right.2) (cast_le small_left.2)).trans
      (le_of_eq ?_))
    norm_num
  have apart := crossing_apart spans off
  rw [meet_eq] at within apart ⊢
  obtain ⟨finite, finite', same⟩ := rounded_crossing (cast_le small_left.1) within height apart rfl
  have base : double (left.1 : ℚ) = left.1 := double_int (small_left.1.trans_lt (by norm_num))
  have base_finite : |(left.1 : ℚ)| < doubleBound :=
    (cast_le small_left.1).trans_lt (pow_lt_pow_right₀ one_lt_two (by norm_num))
  unfold meetsBeyond toFloat
  dsimp only
  rw [if_neg (not_le.mpr finite), ok_bind, base, if_neg (not_le.mpr base_finite), ok_bind,
    if_neg (not_le.mpr finite')]
  exact congrArg Except.ok (decide_eq_decide.mpr same)

theorem exactly_small (small : Small ring) (p : PointMM) : Exactly (.int p) ring :=
  fun _ side spans off =>
    meets_beyond_small (small _ (side_ends side).1) (small _ (side_ends side).2) spans off

theorem point_status_from_error {l : List (PointMM × PointMM)} {inside : Bool}
    (failed : pointStatusFrom point inside l = .error e) : e ≠ noWitness := by
  induction l generalizing inside with
  | nil => cases inside <;> cases failed
  | cons side rest ih =>
    obtain ⟨left, right⟩ := side
    unfold pointStatusFrom at failed
    split at failed
    · cases failed
    split at failed
    · exact ih failed
    rcases bind_error.mp failed with failed | ⟨beyond, -, failed⟩
    · have overflow : ∀ {x : ℚ}, toFloat x = .error e → e ≠ noWitness := by
        intro x failed
        unfold toFloat at failed
        split at failed
        · rw [← Except.error.inj failed]
          decide
        · cases failed
      unfold meetsBeyond at failed
      split at failed
      · rcases bind_error.mp failed with failed | ⟨quotient, -, failed⟩
        · exact overflow failed
        · rcases bind_error.mp failed with failed | ⟨base, -, failed⟩
          · exact overflow failed
          · cases failed
      · cases failed
    · exact ih failed

theorem valid_candidate_error (failed : validCandidate outer holes point = .error e) :
    e ≠ noWitness := by
  rcases bind_error.mp failed with failed | ⟨status, -, failed⟩
  · exact point_status_from_error failed
  split at failed
  · clear * - failed
    induction holes with
    | nil => cases failed
    | cons hole holes ih =>
      rcases bind_error.mp failed with failed | ⟨status, -, failed⟩
      · exact point_status_from_error failed
      · split at failed
        · exact ih failed
        · cases failed
  · cases failed

end Floats

section Witness

variable {outer : Ring} {holes : List Ring}

theorem least_none {K : Type} [LinearOrder K] {points : List (K × K)} :
    least points = none ↔ points = [] := by
  unfold least
  rw [Option.map_eq_none_iff, List.min?_eq_none_iff, List.map_eq_nil_iff]

theorem least_some {K : Type} [LinearOrder K] {points : List (K × K)} {p : K × K} :
    least points = some p ↔ p ∈ points ∧ ∀ q ∈ points, toLex p ≤ toLex q := by
  unfold least
  rw [Option.map_eq_some_iff]
  constructor
  · rintro ⟨_, found, rfl⟩
    obtain ⟨mapped, first⟩ := List.min?_eq_some_iff.mp found
    obtain ⟨p, listed, rfl⟩ := List.mem_map.mp mapped
    exact ⟨listed, fun q listed' => first _ (List.mem_map_of_mem listed')⟩
  · rintro ⟨listed, first⟩
    exact ⟨toLex p, List.min?_eq_some_iff.mpr ⟨List.mem_map_of_mem listed,
      List.forall_mem_map.mpr first⟩, rfl⟩

/-- No test of a whole candidate overflows, and of those found valid the least is. -/
def Trusted (outer : Ring) (holes : List Ring) : Prop :=
  ∀ centroid, vertexCentroid outer.dropLast = .ok centroid →
    (∀ point ∈ candidates outer holes centroid,
      ∃ verdict, validCandidate outer holes (.int point) = .ok verdict) ∧
    ∀ point ∈ candidates outer holes centroid, validCandidate outer holes (.int point) = .ok true →
      (∀ other ∈ candidates outer holes centroid,
        validCandidate outer holes (.int other) = .ok true → toLex point ≤ toLex other) →
      InteriorPoint outer holes (toRat point)

theorem trusted_of_small (small : ∀ ring ∈ outer :: holes, Small ring) : Trusted outer holes := by
  intro centroid _
  have exact_verdict := fun point =>
    valid_candidate_exact fun ring there => exactly_small (small ring there) point
  constructor
  · intro point _
    obtain ⟨verdict, run, -⟩ := exact_verdict point
    exact ⟨verdict, run⟩
  · intro point _ valid _
    obtain ⟨verdict, run, iff⟩ := exact_verdict point
    rw [run] at valid
    exact iff.mp (Except.ok.inj valid)

theorem rational_search (face : PolygonWithHoles outer holes) :
    ∃ valid p, keepAll (fun point => validCandidate outer holes (.fraction point))
      (rationalCandidates outer holes) = .ok valid ∧ least valid = some p ∧
      InteriorPoint outer holes p := by
  obtain ⟨valid, run⟩ : ∃ valid, keepAll (fun point => validCandidate outer holes (.fraction point))
      (rationalCandidates outer holes) = .ok valid := by
    refine keep_all_total fun point _ => ?_
    obtain ⟨verdict, run, -⟩ := valid_candidate_exact fun ring (_ : ring ∈ outer :: holes) =>
      exactly_fraction point ring
    exact ⟨verdict, run⟩
  have members := (keep_all_ok run).2
  cases found : least valid with
  | none =>
    obtain ⟨p, listed, interior⟩ := rational_candidate face
    have kept := (members p).mpr ⟨listed, valid_fraction.mpr interior⟩
    rw [least_none.mp found] at kept
    cases kept
  | some p =>
    exact ⟨valid, p, run, found, valid_fraction.mp ((members p).mp (least_some.mp found).1).2⟩

/-- The error for a missing witness is never raised; the point returned is an interior one exactly
when the rounded tests can be trusted, as they can with coordinates up to 2^25. -/
theorem interior_witness_exact (face : PolygonWithHoles outer holes) :
    interiorWitness outer holes ≠ .error noWitness ∧
    ((∃ witness, interiorWitness outer holes = .ok witness ∧
      InteriorPoint outer holes witness.toRat) ↔ Trusted outer holes) ∧
    ((∀ ring ∈ outer :: holes, Small ring) → Trusted outer holes) := by
  obtain ⟨centroid, center⟩ : ∃ centroid, vertexCentroid outer.dropLast = .ok centroid := by
    have corners := ring_corners face.outer_simple
    have nonempty : outer.dropLast ≠ [] := by
      intro empty
      rw [empty] at corners
      exact absurd corners (by decide)
    exact ⟨_, bind_ok.mpr ⟨(), raise_if_ok.mpr nonempty, rfl⟩⟩
  obtain ⟨second, p, run_second, least_second, interior⟩ := rational_search face
  unfold Trusted interiorWitness
  rw [center, ok_bind]
  refine ⟨?_, ?_, fun small => center ▸ trusted_of_small small⟩
  · intro missing
    rcases bind_error.mp missing with failed | ⟨valid, -, missing⟩
    · obtain ⟨point, -, failed⟩ := keep_all_error failed
      exact valid_candidate_error failed rfl
    · split at missing
      · cases missing
      · rw [run_second, ok_bind, least_second] at missing
        cases missing
  · constructor
    · rintro ⟨witness, found, inside⟩ centroid' same
      obtain rfl := Except.ok.inj same
      obtain ⟨valid, run, found⟩ := bind_ok.mp found
      obtain ⟨each, members⟩ := keep_all_ok run
      refine ⟨each, fun point listed accepted first => ?_⟩
      have least_valid : least valid = some point := by
        refine least_some.mpr ⟨(members point).mpr ⟨listed, accepted⟩, fun other kept => ?_⟩
        obtain ⟨listed', accepted'⟩ := (members other).mp kept
        exact first other listed' accepted'
      rw [least_valid] at found
      rw [← pure_ok.mp found] at inside
      exact inside
    · intro trusted
      obtain ⟨each, first⟩ := trusted centroid rfl
      obtain ⟨valid, run⟩ := keep_all_total each
      have members := (keep_all_ok run).2
      rw [run, ok_bind]
      cases found : least valid with
      | none =>
        dsimp only
        rw [run_second, ok_bind, least_second]
        exact ⟨.fraction p, rfl, interior⟩
      | some point =>
        obtain ⟨kept, before⟩ := least_some.mp found
        obtain ⟨listed, accepted⟩ := (members point).mp kept
        refine ⟨.int point, rfl, first point listed accepted fun other listed' accepted' => ?_⟩
        exact before other ((members other).mpr ⟨listed', accepted'⟩)

/-- A square with a square hole. -/
theorem square_witness_exact : interiorWitness [(0, 0), (6, 0), (6, 6), (0, 6), (0, 0)]
      [[(2, 2), (2, 4), (4, 4), (4, 2), (2, 2)]] ≠ .error noWitness ∧
    ((∃ witness, interiorWitness [(0, 0), (6, 0), (6, 6), (0, 6), (0, 0)]
        [[(2, 2), (2, 4), (4, 4), (4, 2), (2, 2)]] = .ok witness ∧
        InteriorPoint [(0, 0), (6, 0), (6, 6), (0, 6), (0, 0)]
          [[(2, 2), (2, 4), (4, 4), (4, 2), (2, 2)]] witness.toRat) ↔
      Trusted [(0, 0), (6, 0), (6, 6), (0, 6), (0, 0)]
        [[(2, 2), (2, 4), (4, 4), (4, 2), (2, 2)]]) ∧
    ((∀ ring ∈ [[(0, 0), (6, 0), (6, 6), (0, 6), (0, 0)],
        [(2, 2), (2, 4), (4, 4), (4, 2), (2, 2)]], Small ring) →
      Trusted [(0, 0), (6, 0), (6, 6), (0, 6), (0, 0)]
        [[(2, 2), (2, 4), (4, 4), (4, 2), (2, 2)]]) := by
  refine interior_witness_exact ⟨?_, by decide, ?_, ?_, List.pairwise_singleton _ _⟩
  · exact simple_of_separated (by decide +kernel) (by decide) (by decide +kernel)
      (by decide +kernel)
  · rw [List.forall_mem_singleton]
    exact simple_of_separated (by decide +kernel) (by decide) (by decide +kernel)
      (by decide +kernel)
  · rw [List.forall_mem_singleton]
    rintro p ⟨side, listed, inside⟩
    obtain ⟨⟨left, right⟩, below, above⟩ := box_of_mem inside
    have box : 2 ≤ p.1 ∧ p.1 ≤ 4 ∧ 2 ≤ p.2 ∧ p.2 ≤ 4 := by
      simp only [Ring.toRat, toRat, sides, List.map_cons, List.map_nil, List.tail_cons,
        List.zip_cons_cons, List.zip_nil_right, List.mem_cons, List.not_mem_nil, or_false] at listed
      rcases listed with rfl | rfl | rfl | rfl <;> norm_num at left right below above <;>
        exact ⟨by linarith, by linarith, by linarith, by linarith⟩
    obtain ⟨low, high, low', high'⟩ := box
    constructor
    · rintro ⟨side, listed, inside⟩
      obtain ⟨⟨left, right⟩, below, above⟩ := box_of_mem inside
      simp only [Ring.toRat, toRat, sides, List.map_cons, List.map_nil, List.tail_cons,
        List.zip_cons_cons, List.zip_nil_right, List.mem_cons, List.not_mem_nil, or_false] at listed
      rcases listed with rfl | rfl | rfl | rfl <;> norm_num at left right below above <;> linarith
    · have right_only : crossings (Ring.toRat [(0, 0), (6, 0), (6, 6), (0, 6), (0, 0)]) p = 1 := by
        have north : 0 < p.2 := by linarith
        have south : p.2 < 6 := by linarith
        have east : p.1 < 6 := by linarith
        have west : ¬ p.1 < 0 := by linarith
        simp [crossings, sides, Ring.toRat, toRat, Spans, meetAt, north.not_gt, south, east, west]
      rw [right_only]
      exact odd_one

/-- A ring that is hollow on the left, with a long side that leans by a millimetre. -/
def leaningRing : Ring :=
  [(67108863, 0), (67108866, 0), (67108866, 268435458), (67108863, 268435458),
    (67108863, 268435457), (67108865, 268435457), (67108864, 1), (67108863, 1), (67108863, 0)]

/-- Rounding puts the leaning side on the candidate to its left, so the candidate in the hollow
counts as inside. -/
theorem leaning_ring_misjudged : ¬ ∀ outer holes, PolygonWithHoles outer holes →
    ∃ witness, interiorWitness outer holes = .ok witness ∧
      InteriorPoint outer holes witness.toRat := by
  intro correct
  have face : PolygonWithHoles leaningRing [] := by
    refine ⟨?_, by decide, by simp, by simp, List.Pairwise.nil⟩
    exact simple_of_separated (by decide +kernel) (by decide) (by decide +kernel)
      (by decide +kernel)
  obtain ⟨witness, found, ⟨-, odd⟩, -⟩ := correct leaningRing [] face
  have returned : interiorWitness leaningRing [] = .ok (.int (67108864, 2)) := by decide +kernel
  obtain rfl := Except.ok.inj (returned.symm.trans found)
  have even : crossings leaningRing.toRat (toRat (67108864, 2)) = 2 := by decide +kernel
  rw [ExactPointMM.toRat, even] at odd
  exact absurd odd (by decide)

end Witness

end Metroflow.City.Blocks
