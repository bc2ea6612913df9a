import Metroflow.City.StreetAnchors
import Metroflow.Lib.Dict

namespace Metroflow.City.StreetTopologyBuilder

open Metroflow.Lib
open Metroflow.Lib.Scalar (Piece curve)

section Model

variable {K : Type} [Scalar K]

/-- Two nodes at one place that nobody declared a crossing. -/
structure CoincidentNodeError (K : Type) where
  other : ℕ
  nodeId : ℕ
  place : PointM K

def bucketKey (cell : K) (point : PointM K) : ℤ × ℤ :=
  (Scalar.floor (point.1 / cell), Scalar.floor (point.2 / cell))

def bucketsAround (key : ℤ × ℤ) : List (ℤ × ℤ) :=
  [-1, 0, 1].flatMap fun dx => [-1, 0, 1].map fun dy => (key.1 + dx, key.2 + dy)

variable (b : StreetTopologyBuilder K) (toleranceM : K)

def meetNode (nodeId : ℕ) (point : PointM K) (other : ℕ) : Except (CoincidentNodeError K) Unit :=
  if toleranceM < Scalar.dist (b.pointOf other) point then .ok ()
  else if (min other nodeId, max other nodeId) ∈ b.gradeSeparated then .ok ()
  else .error ⟨other, nodeId, b.pointOf other⟩

/-- Compares a node with those of the buckets around, and puts it into its own. -/
def meetBuckets (cell : K) (buckets : Dict (ℤ × ℤ) (List ℕ)) (entry : PointM K × ℕ) :
    Except (CoincidentNodeError K) (Dict (ℤ × ℤ) (List ℕ)) := do
  let key := bucketKey cell entry.1
  (bucketsAround key).forM fun near =>
    ((buckets.get near).getD []).forM (b.meetNode toleranceM entry.2 entry.1)
  return buckets.appendAt key entry.2

def assertNoCoincidentNodes : Except (CoincidentNodeError K) Unit := do
  let least : K := 1 / Scalar.ofInt 1000000000
  let cell := if toleranceM < least then least else toleranceM
  let _ ← b.points.zipIdx.foldlM (b.meetBuckets toleranceM cell) []
  return ()

end Model

section Buckets

variable {b : StreetTopologyBuilder ℝ} {toleranceM cell : ℝ} {p q : PointM ℝ}
  {past : List (PointM ℝ × ℕ)} {buckets : Dict (ℤ × ℤ) (List ℕ)}

theorem floor_near {x y : ℝ} (cell_pos : 0 < cell) (near : |x - y| ≤ cell) :
    ⌊x / cell⌋ - ⌊y / cell⌋ = -1 ∨ ⌊x / cell⌋ - ⌊y / cell⌋ = 0 ∨ ⌊x / cell⌋ - ⌊y / cell⌋ = 1 := by
  have ratio : |x / cell - y / cell| ≤ 1 := by
    rw [← sub_div, abs_div, abs_of_pos cell_pos]
    exact (div_le_one cell_pos).mpr near
  obtain ⟨low, high⟩ := abs_le.mp ratio
  have above : ⌊x / cell⌋ ≤ ⌊y / cell⌋ + 1 := by
    rw [← Int.floor_add_one]
    exact Int.floor_le_floor (by linarith)
  have below : ⌊y / cell⌋ ≤ ⌊x / cell⌋ + 1 := by
    rw [← Int.floor_add_one]
    exact Int.floor_le_floor (by linarith)
  omega

theorem mem_buckets_around (cell_pos : 0 < cell) (near : Scalar.dist p q ≤ cell) :
    bucketKey cell p ∈ bucketsAround (bucketKey cell q) := by
  have x := floor_near cell_pos (Scalar.abs_fst_le_dist.trans near)
  have y := floor_near cell_pos (Scalar.abs_snd_le_dist.trans near)
  refine List.mem_flatMap.mpr ⟨⌊p.1 / cell⌋ - ⌊q.1 / cell⌋, by simpa using x,
    List.mem_map.mpr ⟨⌊p.2 / cell⌋ - ⌊q.2 / cell⌋, by simpa using y, ?_⟩⟩
  exact Prod.ext (add_sub_cancel _ _) (add_sub_cancel _ _)

theorem meet_node_ok {nodeId other : ℕ} : b.meetNode toleranceM nodeId q other = .ok () ↔
    (Scalar.dist (b.pointOf other) q ≤ toleranceM →
      (min other nodeId, max other nodeId) ∈ b.gradeSeparated) := by
  unfold meetNode
  split
  · rename_i far
    exact iff_of_true rfl fun near => absurd near (not_le.mpr far)
  rename_i near
  split
  · rename_i declared
    exact iff_of_true rfl fun _ => declared
  · rename_i undeclared
    exact iff_of_false nofun fun all => undeclared (all (not_lt.mp near))

theorem meet_around_ok (entry : PointM ℝ × ℕ) (cell_pos : 0 < cell)
    (covers : toleranceM ≤ cell)
    (placed : ∀ e ∈ past, b.pointOf e.2 = e.1)
    (groups : Dict.Groups buckets (past.map fun e => (bucketKey cell e.1, e.2))) :
    ((bucketsAround (bucketKey cell entry.1)).forM fun near =>
      ((buckets.get near).getD []).forM (b.meetNode toleranceM entry.2 entry.1)) = .ok () ↔
    ∀ e ∈ past, b.meetNode toleranceM entry.2 entry.1 e.2 = .ok () := by
  rw [each_ok]
  simp only [each_ok, groups.get, Dict.mem_values_at, List.mem_map, Prod.mk.injEq]
  constructor
  · intro around e listed
    refine meet_node_ok.mpr fun near => meet_node_ok.mp ?_ near
    rw [placed e listed] at near
    exact around _ (mem_buckets_around cell_pos (near.trans covers)) e.2 ⟨e, listed, rfl, rfl⟩
  · rintro all key - other ⟨e, listed, -, rfl⟩
    exact all e listed

theorem meet_buckets_ok (cell_pos : 0 < cell) (covers : toleranceM ≤ cell)
    (placed : ∀ e ∈ past, b.pointOf e.2 = e.1) :
    (∃ buckets, past.foldlM (b.meetBuckets toleranceM cell) [] = .ok buckets) ↔
      past.Pairwise fun e e' => b.meetNode toleranceM e'.2 e'.1 e.2 = .ok () := by
  suffices both : (∀ buckets, past.foldlM (b.meetBuckets toleranceM cell) [] = .ok buckets →
      Dict.Groups buckets (past.map fun e => (bucketKey cell e.1, e.2))) ∧
      ((∃ buckets, past.foldlM (b.meetBuckets toleranceM cell) [] = .ok buckets) ↔
        past.Pairwise fun e e' => b.meetNode toleranceM e'.2 e'.1 e.2 = .ok ()) from both.2
  induction past using List.reverseRecOn with
  | nil =>
    refine ⟨fun buckets done => ?_, iff_of_true ⟨[], rfl⟩ List.Pairwise.nil⟩
    obtain rfl := fold_nil.mp done
    exact .nil
  | append_singleton past entry ih =>
    obtain ⟨groups, pairs⟩ := ih fun e listed => placed e (List.mem_append_left _ listed)
    have last : ∀ {m after}, past.foldlM (b.meetBuckets toleranceM cell) [] = .ok m →
        (b.meetBuckets toleranceM cell m entry = .ok after ↔
          (∀ e ∈ past, b.meetNode toleranceM entry.2 entry.1 e.2 = .ok ()) ∧
            m.appendAt (bucketKey cell entry.1) entry.2 = after) := by
      intro m after before
      rw [← meet_around_ok entry cell_pos covers
        (fun e listed => placed e (List.mem_append_left _ listed)) (groups m before)]
      unfold meetBuckets
      rw [bind_ok]
      exact ⟨fun ⟨_, looked, built⟩ => ⟨looked, pure_ok.mp built⟩,
        fun ⟨looked, built⟩ => ⟨_, looked, pure_ok.mpr built⟩⟩
    constructor
    · intro after done
      obtain ⟨m, before, one⟩ := fold_append.mp done
      obtain ⟨m', now, ended⟩ := fold_cons.mp one
      obtain rfl := fold_nil.mp ended
      obtain ⟨-, rfl⟩ := (last before).mp now
      rw [List.map_append]
      exact (groups m before).append_at
    · rw [List.pairwise_append, ← pairs]
      simp only [List.pairwise_singleton, true_and, List.mem_singleton, forall_eq]
      constructor
      · rintro ⟨after, done⟩
        obtain ⟨m, before, one⟩ := fold_append.mp done
        obtain ⟨m', now, -⟩ := fold_cons.mp one
        exact ⟨⟨m, before⟩, ((last before).mp now).1⟩
      · rintro ⟨⟨m, before⟩, met⟩
        exact ⟨_, fold_append.mpr ⟨m, before, fold_cons.mpr
          ⟨_, (last before).mpr ⟨met, rfl⟩, fold_nil.mpr rfl⟩⟩⟩

/-- Two nodes within the tolerance that are not declared a crossing. -/
def Stacked (b : StreetTopologyBuilder ℝ) (toleranceM : ℝ) (i j : ℕ) : Prop :=
  i < j ∧ j < b.points.length ∧ Scalar.dist (b.pointOf i) (b.pointOf j) ≤ toleranceM ∧
    (i, j) ∉ b.gradeSeparated

theorem point_of_get {i : ℕ} (known : i < b.points.length) : b.pointOf i = b.points[i] :=
  List.getD_eq_getElem _ _ known

theorem assert_ok_iff (b : StreetTopologyBuilder ℝ) (toleranceM : ℝ) :
    b.assertNoCoincidentNodes toleranceM = .ok () ↔ ∀ i j, ¬b.Stacked toleranceM i j := by
  have placed : ∀ e ∈ b.points.zipIdx, b.pointOf e.2 = e.1 := by
    rintro ⟨point, i⟩ listed
    obtain ⟨known, here⟩ := List.getElem?_eq_some_iff.mp (List.mk_mem_zipIdx_iff_getElem?.mp listed)
    rw [point_of_get known]
    exact here
  have cell_pos : (0 : ℝ) < if toleranceM < 1 / Scalar.ofInt 1000000000 then
      1 / Scalar.ofInt 1000000000 else toleranceM := by
    have least_pos : (0 : ℝ) < 1 / Scalar.ofInt 1000000000 := by simp [Scalar.ofInt]
    split
    · exact least_pos
    · linarith
  have covers : toleranceM ≤ if toleranceM < 1 / Scalar.ofInt 1000000000 then
      1 / Scalar.ofInt 1000000000 else toleranceM := by
    split
    · linarith
    · exact le_rfl
  have pairs : b.assertNoCoincidentNodes toleranceM = .ok () ↔
      b.points.zipIdx.Pairwise fun e e' => b.meetNode toleranceM e'.2 e'.1 e.2 = .ok () := by
    unfold assertNoCoincidentNodes
    dsimp only
    rw [← meet_buckets_ok cell_pos covers placed, bind_ok]
    exact exists_congr fun buckets => and_iff_left rfl
  rw [pairs, List.pairwise_iff_getElem]
  simp only [List.length_zipIdx, List.getElem_zipIdx, Nat.zero_add, meet_node_ok]
  constructor
  · rintro all i j ⟨less, known, near, undeclared⟩
    have declared := all i j (less.trans known) known less
    rw [min_eq_left less.le, max_eq_right less.le, ← point_of_get known] at declared
    exact undeclared (declared near)
  · intro none i j known_i known less near
    rw [min_eq_left less.le, max_eq_right less.le]
    rw [← point_of_get known] at near
    exact not_not.mp fun undeclared => none i j ⟨less, known, near, undeclared⟩

end Buckets

section Declarations

variable {b : StreetTopologyBuilder ℝ} {points : List (PointM ℝ)} {point : PointM ℝ}

/-- Only nodes that exist are declared crossings. -/
def Declared (b : StreetTopologyBuilder ℝ) : Prop :=
  ∀ pair ∈ b.gradeSeparated, pair.2 < b.points.length

abbrev KeepsDeclared {α : Type} (op : Op ℝ α) : Prop :=
  Call.Meets Declared op (fun _ => Declared) Declared

theorem keeps_query {α : Type} {q : StreetTopologyBuilder ℝ → Except (TopologyError ℝ) α} :
    KeepsDeclared (Call.query q) :=
  .query (fun _ _ here _ => here) fun _ _ here _ => here

theorem keeps_pure {α : Type} {a : α} : KeepsDeclared (pure a : Op ℝ α) := .pure fun _ => id

theorem keeps_node_on {place : StreetTopologyBuilder ℝ → ℕ} {streetId nodeId : ℕ} :
    KeepsDeclared (Call.change fun b => b.withNodeOn streetId (place b) nodeId) :=
  .change fun _ here => here

theorem keeps_mint : KeepsDeclared (mintNode point) := by
  refine keeps_query.bind fun _ => Call.Meets.bind (.change fun b here pair listed => ?_)
    fun _ => keeps_pure
  exact (here pair listed).trans_le (by simp [withNode])

theorem keeps_mint_all : KeepsDeclared (mintNodes points) := by
  induction points with
  | nil => exact keeps_pure
  | cons point points ih => exact keeps_mint.bind fun _ => ih.bind fun _ => keeps_pure

theorem keeps_split {street_id : ℤ} {s : ℝ} : KeepsDeclared (splitAtArcLength street_id s) := by
  refine keeps_query.bind fun place => ?_
  cases place with
  | vertex => exact keeps_pure
  | inside => exact keeps_mint.bind fun _ => Call.Meets.bind keeps_node_on fun _ => keeps_pure

theorem keeps_call (call : BuilderCall ℝ) : KeepsDeclared call.op := by
  cases call with
  | openStreet points start layer =>
    refine Call.Meets.drop ?_
    cases points with
    | nil => exact keeps_query
    | cons first rest =>
      refine keeps_query.bind fun _ => Call.Meets.bind ?_ fun _ => keeps_mint_all.bind fun _ =>
        Call.Meets.bind (.change fun _ here => here) fun _ => keeps_pure
      cases start with
      | none => exact keeps_mint
      | some nodeId => exact keeps_query
  | extendStreet =>
    exact Call.Meets.drop (keeps_query.bind fun _ => keeps_mint.bind fun _ =>
      Call.Meets.bind keeps_node_on fun _ => keeps_pure)
  | extendStreetToNode | prependStreetToNode =>
    refine Call.Meets.drop (keeps_query.bind fun found => ?_)
    obtain ⟨street, nodeId, already⟩ := found
    cases already with
    | true => exact keeps_pure
    | false => exact Call.Meets.bind keeps_node_on fun _ => keeps_pure
  | splitAtArcLength => exact keeps_split.drop
  | contact =>
    refine Call.Meets.drop (keeps_query.bind fun best => ?_)
    cases best with
    | none => exact keeps_pure
    | some best =>
      dsimp only
      split
      · exact keeps_pure
      · exact keeps_split.bind fun _ => keeps_pure
  | bindNodeIntoStreet =>
    refine Call.Meets.drop (keeps_query.bind fun found => ?_)
    obtain ⟨street, nodeId⟩ := found
    dsimp only
    split
    · exact keeps_pure
    · refine keeps_query.bind fun best => ?_
      cases best with
      | none => exact keeps_pure
      | some index => exact Call.Meets.bind keeps_node_on fun _ => keeps_pure
  | registerGradeSeparation nodeA nodeB =>
    refine Call.Meets.bind (Q := fun pair b => Declared b ∧ pair.1 < b.points.length ∧
      pair.2 < b.points.length) (.query (fun b pair here found => ?_) fun _ _ here _ => here)
      fun pair => .change fun b known => ?_
    · obtain ⟨a, first, found⟩ := bind_ok.mp found
      obtain ⟨a', second, found⟩ := bind_ok.mp found
      obtain rfl := pure_ok.mp found
      exact ⟨here, require_node_ok first, require_node_ok second⟩
    · intro other listed
      rcases Finset.mem_insert.mp listed with rfl | old
      · exact max_lt known.2.1 known.2.2
      · exact known.1 other old

theorem declared_after (calls : List (BuilderCall ℝ)) : Declared (after calls) := by
  unfold after
  induction calls using List.reverseRecOn with
  | nil => simp [Declared]
  | append_singleton calls call ih =>
    rw [List.foldl_append]
    exact (keeps_call call).keeps ih

end Declarations

section Splits

variable {b : StreetTopologyBuilder ℝ} {street_id : ℤ} {street : Street} {s : ℝ} {place i j : ℕ}
  {x : PointM ℝ} {streetId last : ℕ}

/-- The split mints a node where a node off the street is within the tolerance. -/
def Crowded (b : StreetTopologyBuilder ℝ) (street_id : ℤ) (s : ℝ) : Prop :=
  ∃ street piece, b.requireStreet street_id = .ok street ∧
    Mints b.pointOf street.nodeIds s piece ∧ ∃ nodeId < b.points.length,
      nodeId ∉ street.nodeIds ∧
      Scalar.dist (b.pointOf nodeId) (curve (street.nodeIds.map b.pointOf) s) ≤ weldToleranceM

theorem stacked_minted (declared : Declared b) :
    (b.minted streetId place x).Stacked weldToleranceM i j ↔ b.Stacked weldToleranceM i j ∨
      i < b.points.length ∧ j = b.points.length ∧
        Scalar.dist (b.pointOf i) x ≤ weldToleranceM := by
  have grown : (b.minted streetId place x).points.length = b.points.length + 1 := by
    rw [minted_points, List.length_append, List.length_singleton]
  unfold Stacked
  rw [grown]
  constructor
  · rintro ⟨less, known, near, undeclared⟩
    rcases Nat.lt_succ_iff_lt_or_eq.mp known with old | rfl
    · rw [minted_point_old (less.trans old), minted_point_old old] at near
      exact .inl ⟨less, old, near, undeclared⟩
    · rw [minted_point_old less, minted_point_new] at near
      exact .inr ⟨less, rfl, near⟩
  · rintro (⟨less, known, near, undeclared⟩ | ⟨less, rfl, near⟩)
    · refine ⟨less, known.trans (Nat.lt_succ_self _), ?_, undeclared⟩
      rwa [minted_point_old (less.trans known), minted_point_old known]
    · refine ⟨less, Nat.lt_succ_self _, ?_, fun listed => ?_⟩
      · rwa [minted_point_old less, minted_point_new]
      · exact absurd (declared _ listed) (lt_irrefl _)

theorem split_passes_iff (kept : Incidence b) (declared : Declared b) :
    (splitAtArcLength street_id s b).2.assertNoCoincidentNodes weldToleranceM = .ok () ↔
      b.assertNoCoincidentNodes weldToleranceM = .ok () ∧ ¬b.Crowded street_id s := by
  have unchanged : (∀ street piece, b.requireStreet street_id = .ok street →
      ¬Mints b.pointOf street.nodeIds s piece) → ¬b.Crowded street_id s := by
    rintro none ⟨street, piece, street_ok, mints, -⟩
    exact none street piece street_ok mints
  rcases run : splitAtArcLength street_id s b with ⟨e | m, b'⟩
  · obtain rfl := split_clean b _ _ run
    refine (and_iff_left (unchanged fun street piece street_ok mints => ?_)).symm
    obtain ⟨last, ends⟩ := street_last kept (require_street_ok street_ok)
    rcases split_outcome (mints.accepts street_ok) ends with
      ⟨_, -, result⟩ | ⟨_, _, _, -, -, -, result⟩ <;> rw [run] at result <;> cases result
  obtain ⟨street, accepts⟩ := split_accepts run
  obtain ⟨last, ends⟩ := street_last kept (require_street_ok accepts.street_ok)
  rcases split_outcome accepts ends with
    ⟨n, anchor, result⟩ | ⟨piece, front, rest, mints, split, -, result⟩
  · rw [run] at result
    obtain ⟨-, rfl⟩ := Prod.mk.inj result
    refine (and_iff_left (unchanged fun street' piece street_ok mints => ?_)).symm
    obtain rfl := Except.ok.inj (accepts.street_ok.symm.trans street_ok)
    rw [mints.no_anchor] at anchor
    cases anchor
  · rw [run] at result
    obtain ⟨-, rfl⟩ := Prod.mk.inj result
    simp only [assert_ok_iff, stacked_minted declared, not_or, forall_and]
    refine and_congr_right fun _ => ?_
    constructor
    · rintro apart ⟨street', piece', street_ok, -, nodeId, known, -, near⟩
      obtain rfl := Except.ok.inj (accepts.street_ok.symm.trans street_ok)
      exact apart nodeId _ ⟨known, rfl, near⟩
    · rintro clear i j ⟨known, -, near⟩
      refine clear ⟨street, piece, accepts.street_ok, mints, i, known, fun on => ?_, near⟩
      rw [weld_tolerance_real] at near
      exact absurd near (not_le.mpr (mints.far i on))

theorem after_snoc (calls : List (BuilderCall ℝ)) (call : BuilderCall ℝ) :
    after (calls ++ [call]) = (call.op (after calls)).2 := List.foldl_append

theorem splits_after (calls : List (BuilderCall ℝ)) (steps : List (ℤ × ℝ)) :
    (after calls).splits steps =
      after (calls ++ steps.map fun step => .splitAtArcLength step.1 step.2) := by
  induction steps using List.reverseRecOn with
  | nil => simp [splits]
  | append_singleton steps step ih =>
    rw [splits_snoc, ih, List.map_append, ← List.append_assoc, List.map_singleton, after_snoc]
    exact Call.drop_state.symm

/-- A street and one that ends a hand's breadth beside its middle. -/
noncomputable def besideStreet : StreetTopologyBuilder ℝ :=
  after [.openStreet [(0, 0), (10, 0)] none 0, .openStreet [(5, 1 / 5), (5, 10)] none 0]

theorem beside_street_passes : besideStreet.assertNoCoincidentNodes weldToleranceM = .ok () := by
  have far : ∀ {p q : PointM ℝ}, 1 / 4 < |p.1 - q.1| ∨ 1 / 4 < |p.2 - q.2| →
      ¬Scalar.dist p q ≤ weldToleranceM := by
    intro p q apart near
    rw [weld_tolerance_real] at near
    rcases apart with x | y
    · exact absurd (Scalar.abs_fst_le_dist.trans near) (not_le.mpr x)
    · exact absurd (Scalar.abs_snd_le_dist.trans near) (not_le.mpr y)
  rw [assert_ok_iff]
  rintro i j ⟨less, known, near, -⟩
  revert near
  apply far
  have points : besideStreet.points = [(0, 0), (10, 0), (5, 1 / 5), (5, 10)] := rfl
  unfold pointOf
  rw [points] at known ⊢
  dsimp only [List.length_cons, List.length_nil] at known
  interval_cases j <;> interval_cases i <;> norm_num

end Splits

end Metroflow.City.StreetTopologyBuilder
