import Metroflow.City.SegmentIndex
import Metroflow.City.StreetIncidence
import Metroflow.Lib.Cuts
import Metroflow.Lib.Nearest

namespace Metroflow.City

open Metroflow.Lib Metroflow.Map

section Grids

variable {K : Type} [Scalar K] {grid : Grid K} {point : PointM K} {cell : ℤ × ℤ} {item : ℕ}

namespace Grid

theorem items_at_add : (grid.add point item).itemsAt cell =
    if cell = grid.key point then grid.itemsAt cell ++ [item] else grid.itemsAt cell := by
  unfold itemsAt add
  rw [Dict.get_set]
  split
  · rename_i same
    rw [same]
    rfl
  · rfl

theorem mem_items_at_add {other : ℕ} : other ∈ (grid.add point item).itemsAt cell ↔
    other ∈ grid.itemsAt cell ∨ other = item ∧ cell = grid.key point := by
  rw [items_at_add]
  split
  · rename_i same
    simp [same]
  · rename_i apart
    simp [apart]

theorem fold_add_cell {points : List (PointM K)} :
    (points.foldl (fun grid point => grid.add point item) grid).cell = grid.cell := by
  induction points generalizing grid with
  | nil => rfl
  | cons point points ih => exact ih

theorem fold_add_key {points : List (PointM K)} :
    (points.foldl (fun grid point => grid.add point item) grid).key = grid.key := by
  funext point
  unfold key
  rw [fold_add_cell]

theorem mem_fold_add {points : List (PointM K)} {other : ℕ} :
    other ∈ (points.foldl (fun grid point => grid.add point item) grid).itemsAt cell ↔
      other ∈ grid.itemsAt cell ∨ other = item ∧ ∃ point ∈ points, cell = grid.key point := by
  induction points generalizing grid with
  | nil => simp
  | cons point points ih =>
    rw [List.foldl_cons, ih, mem_items_at_add, List.exists_mem_cons_iff, or_assoc, ← and_or_left]
    rfl

theorem mem_offsets {span d : ℤ} : d ∈ offsets span ↔ -span ≤ d ∧ d ≤ span := by
  unfold offsets
  rw [List.mem_map]
  constructor
  · rintro ⟨index, listed, rfl⟩
    rw [List.mem_range] at listed
    omega
  · rintro ⟨low, high⟩
    refine ⟨(d + span).toNat, List.mem_range.mpr (by omega), by omega⟩

end Grid

end Grids

section Search

variable {grid : Grid ℝ} {p q : PointM ℝ} {radius c : ℝ}

theorem ceil_real {x : ℝ} : Scalar.ceil x = ⌈x⌉ := by
  change -⌊-x⌋ = ⌈x⌉
  rw [Int.floor_neg, neg_neg]

theorem floor_near {x y : ℝ} {span : ℤ} (pos : 0 < c) (close : |y - x| ≤ span * c) :
    -span ≤ ⌊y / c⌋ - ⌊x / c⌋ ∧ ⌊y / c⌋ - ⌊x / c⌋ ≤ span := by
  obtain ⟨low, high⟩ := abs_le.mp close
  have le : y / c ≤ x / c + span := by
    rw [div_add' _ _ _ pos.ne', div_le_div_iff_of_pos_right pos]
    linarith
  have ge : x / c ≤ y / c + span := by
    rw [div_add' _ _ _ pos.ne', div_le_div_iff_of_pos_right pos]
    linarith
  have le := Int.floor_le_floor le
  have ge := Int.floor_le_floor ge
  rw [Int.floor_add_intCast] at le ge
  omega

theorem Grid.mem_near {item : ℕ} (pos : 0 < grid.cell)
    (x_close : |q.1 - p.1| ≤ ⌈radius / grid.cell⌉ * grid.cell)
    (y_close : |q.2 - p.2| ≤ ⌈radius / grid.cell⌉ * grid.cell)
    (entered : item ∈ grid.itemsAt (grid.key q)) : item ∈ grid.near p radius := by
  unfold near
  simp only [List.mem_toFinset, List.mem_flatMap, mem_offsets, ceil_real]
  refine ⟨_, floor_near pos x_close, _, floor_near pos y_close, ?_⟩
  change item ∈ grid.itemsAt (⌊p.1 / grid.cell⌋ + _, ⌊p.2 / grid.cell⌋ + _)
  rw [add_sub_cancel, add_sub_cancel]
  exact entered

theorem segment_foot (p left right : PointM ℝ) : ∃ t, 0 ≤ t ∧ t ≤ 1 ∧
    pointToSegmentDistance p left right = Scalar.dist p (Scalar.along left right t) ∧
    (t = 0 ∨ t = 1 ∨ (p.1 - (Scalar.along left right t).1) * (right.1 - left.1) +
      (p.2 - (Scalar.along left right t).2) * (right.2 - left.2) = 0) := by
  unfold pointToSegmentDistance
  dsimp only
  split
  · refine ⟨0, le_rfl, zero_le_one, ?_, .inl rfl⟩
    unfold Scalar.dist Scalar.along
    simp only [zero_mul, add_zero]
  rename_i long
  split
  · refine ⟨0, le_rfl, zero_le_one, ?_, .inl rfl⟩
    rw [if_neg (by norm_num)]
    rfl
  rename_i after_start
  split
  · exact ⟨1, zero_le_one, le_rfl, rfl, .inr (.inl rfl)⟩
  rename_i before_end
  refine ⟨_, not_lt.mp after_start, not_lt.mp before_end, rfl, .inr (.inr ?_)⟩
  have reached := div_mul_cancel₀ ((p.1 - left.1) * (right.1 - left.1) +
    (p.2 - left.2) * (right.2 - left.2)) (not_le.mp long).ne'
  unfold Scalar.along
  dsimp only
  linear_combination -reached

end Search

namespace Fabric

section Invariant

variable {K : Type} [Scalar K] (f : Fabric K)

/-- A reference to the segment is in the cells of all its sample points. -/
def Entered (key : ℕ × ℕ) : Prop :=
  ∃ item, f.segmentRefs[item]? = some key ∧
    ∀ q ∈ f.samplePoints (f.segmentAt key).1 (f.segmentAt key).2,
      item ∈ f.segmentGrid.itemsAt (f.segmentGrid.key q)

/-- What counts as indexed on some streets can be found by its samples. -/
structure Guarded (on : ℕ → Prop) : Prop where
  cell : f.segmentGrid.cell = f.cell
  entered : ∀ key ∈ f.indexedSegments, on key.1 → f.Live key ∧ f.Entered key

/-- Every segment is indexed, and what counts as indexed can be found. -/
structure Indexed : Prop extends Guarded f fun _ => True where
  complete : ∀ key, f.Live key → key ∈ f.indexedSegments

/-- The index is right but for one street, which is to be indexed again. -/
structure Pending (streetId : ℕ) : Prop extends Guarded f fun other => other ≠ streetId where
  complete : ∀ key, key.1 ≠ streetId → f.Live key → key ∈ f.indexedSegments

/-- The index is right but for the last segment of one street. -/
structure Growing (streetId : ℕ) : Prop extends Guarded f fun _ => True where
  complete : ∀ key, f.Live key → key ∈ f.indexedSegments ∨
    key = (streetId, (f.pointsOf streetId).length - 2)

variable {f} {on : ℕ → Prop} {s i : ℕ} {key : ℕ × ℕ}

theorem index_segment_builder : (f.indexSegment s i).builder = f.builder := by
  unfold indexSegment
  split <;> rfl

theorem index_segment_cell : (f.indexSegment s i).cell = f.cell := by
  unfold indexSegment
  split <;> rfl

theorem index_segment_indexed :
    (f.indexSegment s i).indexedSegments = insert (s, i) f.indexedSegments := by
  unfold indexSegment
  split
  · rename_i known
    exact (Finset.insert_eq_of_mem known).symm
  · rfl

theorem live_of_builder {f' : Fabric K} (same : f'.builder = f.builder) :
    f'.Live key ↔ f.Live key := by
  unfold Live pointsOf
  rw [same]

theorem segment_at_of_builder {f' : Fabric K} (same : f'.builder = f.builder) :
    f'.segmentAt key = f.segmentAt key := by
  unfold segmentAt pointsOf
  rw [same]

theorem Guarded.index_segment (h : f.Guarded on) (live : f.Live (s, i)) :
    (f.indexSegment s i).Guarded on := by
  have builder : (f.indexSegment s i).builder = f.builder := index_segment_builder
  by_cases known : (s, i) ∈ f.indexedSegments
  · have unchanged : f.indexSegment s i = f := if_pos known
    rw [unchanged]
    exact h
  have fresh : f.indexSegment s i = { f with
      indexedSegments := insert (s, i) f.indexedSegments
      segmentRefs := f.segmentRefs ++ [(s, i)]
      segmentGrid := (f.samplePoints (f.segmentAt (s, i)).1 (f.segmentAt (s, i)).2).foldl
        (fun grid point => grid.add point f.segmentRefs.length) f.segmentGrid } := if_neg known
  have grid_key : (f.indexSegment s i).segmentGrid.key = f.segmentGrid.key := by
    rw [fresh]
    exact Grid.fold_add_key
  have refs : (f.indexSegment s i).segmentRefs = f.segmentRefs ++ [(s, i)] := by rw [fresh]
  have items : ∀ cell item, item ∈ (f.indexSegment s i).segmentGrid.itemsAt cell ↔
      item ∈ f.segmentGrid.itemsAt cell ∨ item = f.segmentRefs.length ∧
        ∃ q ∈ f.samplePoints (f.segmentAt (s, i)).1 (f.segmentAt (s, i)).2,
          cell = f.segmentGrid.key q := by
    intro cell item
    rw [fresh]
    exact Grid.mem_fold_add
  have samples : (f.indexSegment s i).samplePoints = f.samplePoints := by
    unfold samplePoints
    rw [index_segment_cell]
  refine ⟨?_, fun key listed here => ⟨(live_of_builder builder).mpr ?_, ?_⟩⟩
  · rw [index_segment_cell, ← h.cell, fresh]
    exact Grid.fold_add_cell
  · rw [index_segment_indexed, Finset.mem_insert] at listed
    rcases listed with rfl | old
    · exact live
    · exact (h.entered key old here).1
  · unfold Entered
    rw [segment_at_of_builder builder, grid_key, refs, samples]
    rw [index_segment_indexed, Finset.mem_insert] at listed
    rcases listed with rfl | old
    · refine ⟨f.segmentRefs.length, by simp, fun q sampled => ?_⟩
      exact (items _ _).mpr (.inr ⟨rfl, q, sampled, rfl⟩)
    · obtain ⟨item, found, entered⟩ := (h.entered key old here).2
      refine ⟨item, ?_, fun q sampled => (items _ _).mpr (.inl (entered q sampled))⟩
      rw [List.getElem?_append_left (List.getElem?_eq_some_iff.mp found).1, found]

theorem Guarded.index_segments (h : f.Guarded on) (places : List ℕ)
    (live : ∀ i ∈ places, f.Live (s, i)) :
    (places.foldl (fun f i => f.indexSegment s i) f).Guarded on ∧
      (places.foldl (fun f i => f.indexSegment s i) f).builder = f.builder ∧
      (places.foldl (fun f i => f.indexSegment s i) f).cell = f.cell ∧
      ∀ key, key ∈ (places.foldl (fun f i => f.indexSegment s i) f).indexedSegments ↔
        key ∈ f.indexedSegments ∨ key.1 = s ∧ key.2 ∈ places := by
  induction places generalizing f with
  | nil => exact ⟨h, rfl, rfl, fun key => by simp⟩
  | cons i places ih =>
    obtain ⟨here, later⟩ := List.forall_mem_cons.mp live
    have builder : (f.indexSegment s i).builder = f.builder := index_segment_builder
    obtain ⟨guarded, builder', cell', indexed⟩ := ih (h.index_segment here)
      fun i listed => (live_of_builder builder).mpr (later i listed)
    refine ⟨guarded, builder'.trans builder, cell'.trans index_segment_cell, fun key => ?_⟩
    rw [List.foldl_cons, indexed, index_segment_indexed, Finset.mem_insert, Prod.ext_iff,
      List.mem_cons]
    tauto

theorem Growing.index_last (h : f.Growing s) (long : 2 ≤ (f.pointsOf s).length) :
    (f.indexSegment s ((f.pointsOf s).length - 2)).Indexed := by
  have live : f.Live (s, (f.pointsOf s).length - 2) := by
    unfold Live
    dsimp only
    omega
  refine ⟨h.toGuarded.index_segment live, fun key alive => ?_⟩
  rw [index_segment_indexed, Finset.mem_insert]
  exact (h.complete key ((live_of_builder index_segment_builder).mp alive)).symm

theorem Growing.of_short (h : f.Growing s) (short : (f.pointsOf s).length < 2) : f.Indexed := by
  refine ⟨h.toGuarded, fun key alive => (h.complete key alive).resolve_right ?_⟩
  rintro rfl
  unfold Live at alive
  dsimp only at alive
  omega

theorem Pending.reindex (h : f.Pending s) : (f.reindexStreet s).Indexed ∧
    (f.reindexStreet s).builder = f.builder ∧ (f.reindexStreet s).cell = f.cell := by
  have start : ({ f with
      indexedSegments := f.indexedSegments.filter fun key => key.1 ≠ s } : Fabric K).Guarded
      fun _ => True := by
    refine ⟨h.cell, fun key listed _ => ?_⟩
    obtain ⟨listed, elsewhere⟩ := Finset.mem_filter.mp listed
    exact h.entered key listed elsewhere
  obtain ⟨guarded, builder, cell, indexed⟩ := start.index_segments
    (s := s) (List.range ((f.pointsOf s).length - 1)) fun i listed => by
      rw [List.mem_range] at listed
      change i + 1 < (f.pointsOf s).length
      omega
  refine ⟨⟨guarded, fun key alive => (indexed key).mpr ?_⟩, builder, cell⟩
  have alive : f.Live key := (live_of_builder builder).mp alive
  by_cases here : key.1 = s
  · refine .inr ⟨here, List.mem_range.mpr ?_⟩
    unfold Live at alive
    rw [here] at alive
    omega
  · exact .inl (Finset.mem_filter.mpr ⟨h.complete key here alive, by simpa using here⟩)

end Invariant

section Frames

open StreetTopologyBuilder (Incidence Change Changes)

variable {K : Type} [Scalar K] {f : Fabric K} {b b' : StreetTopologyBuilder K} {s t n index : ℕ}
  {street : Street} {key : ℕ × ℕ}

theorem point_of_kept (grown : b.points <+: b'.points) (known : n < b.points.length) :
    b'.pointOf n = b.pointOf n := by
  unfold StreetTopologyBuilder.pointOf
  rw [List.getD_eq_getElem?_getD, List.getD_eq_getElem?_getD,
    get_of_prefix grown (List.getElem?_eq_getElem known), List.getElem?_eq_getElem known]

theorem points_kept (kept : Incidence f.builder) (grown : f.builder.points <+: b'.points) :
    (f.builder.nodeIdsOf s).map b'.pointOf = f.pointsOf s :=
  List.map_congr_left fun _ passes => point_of_kept grown (kept.known_on passes)

theorem points_of_kept (kept : Incidence f.builder) (grown : f.builder.points <+: b'.points)
    (same : b'.streets[s]? = f.builder.streets[s]?) :
    ({ f with builder := b' } : Fabric K).pointsOf s = f.pointsOf s := by
  have ids : b'.nodeIdsOf s = f.builder.nodeIdsOf s := by
    unfold StreetTopologyBuilder.nodeIdsOf
    rw [same]
  change (b'.nodeIdsOf s).map b'.pointOf = _
  rw [ids, points_kept kept grown]

theorem Entered.with_builder (h : f.Entered key)
    (same : ({ f with builder := b' } : Fabric K).segmentAt key = f.segmentAt key) :
    ({ f with builder := b' } : Fabric K).Entered key := by
  unfold Entered
  rw [same]
  exact h

theorem live_iff_of_points {f' : Fabric K} (same : f'.pointsOf key.1 = f.pointsOf key.1) :
    f'.Live key ↔ f.Live key := by
  unfold Live
  rw [same]

theorem segment_at_of_points {f' : Fabric K} (same : f'.pointsOf key.1 = f.pointsOf key.1) :
    f'.segmentAt key = f.segmentAt key := by
  unfold segmentAt
  rw [same]

theorem Indexed.pending (h : f.Indexed) (kept : Incidence f.builder)
    (grown : f.builder.points <+: b'.points)
    (elsewhere : ∀ s ≠ t, b'.streets[s]? = f.builder.streets[s]?) :
    ({ f with builder := b' } : Fabric K).Pending t := by
  have same : ∀ s ≠ t, ({ f with builder := b' } : Fabric K).pointsOf s = f.pointsOf s :=
    fun s apart => points_of_kept kept grown (elsewhere s apart)
  refine ⟨⟨h.cell, fun key listed apart => ?_⟩, fun key apart alive => ?_⟩
  · obtain ⟨live, entered⟩ := h.entered key listed trivial
    exact ⟨(live_iff_of_points (same _ apart)).mpr live,
      entered.with_builder (segment_at_of_points (same _ apart))⟩
  · exact h.complete key ((live_iff_of_points (same _ apart)).mp alive)

theorem Indexed.growing (h : f.Indexed) (kept : Incidence f.builder)
    (grown : f.builder.points <+: b'.points)
    (elsewhere : ∀ s ≠ t, b'.streets[s]? = f.builder.streets[s]?)
    (here : b'.nodeIdsOf t = f.builder.nodeIdsOf t ++ [n]) :
    ({ f with builder := b' } : Fabric K).Growing t := by
  have same : ∀ s ≠ t, ({ f with builder := b' } : Fabric K).pointsOf s = f.pointsOf s :=
    fun s apart => points_of_kept kept grown (elsewhere s apart)
  have longer : ({ f with builder := b' } : Fabric K).pointsOf t =
      f.pointsOf t ++ [b'.pointOf n] := by
    change (b'.nodeIdsOf t).map b'.pointOf = _
    rw [here, List.map_append, points_kept kept grown]
    rfl
  refine ⟨⟨h.cell, fun key listed _ => ?_⟩, fun key alive => ?_⟩
  · obtain ⟨live, entered⟩ := h.entered key listed trivial
    by_cases at_t : key.1 = t
    · have live' : key.2 + 1 < (f.pointsOf t).length := at_t ▸ live
      refine ⟨?_, entered.with_builder ?_⟩
      · unfold Live
        rw [at_t, longer, List.length_append]
        omega
      · unfold segmentAt
        rw [at_t, longer, List.getD_append _ _ _ _ live', List.getD_append _ _ _ _ (by omega)]
    · exact ⟨(live_iff_of_points (same _ at_t)).mpr live,
        entered.with_builder (segment_at_of_points (same _ at_t))⟩
  · by_cases at_t : key.1 = t
    · unfold Live at alive
      rw [at_t, longer, List.length_append, List.length_singleton] at alive
      by_cases old : key.2 + 1 < (f.pointsOf t).length
      · left
        refine h.complete key ?_
        unfold Live
        rw [at_t]
        exact old
      · right
        rw [longer, List.length_append, List.length_singleton]
        exact Prod.ext at_t (by dsimp only; omega)
    · exact .inl (h.complete key ((live_iff_of_points (same _ at_t)).mp alive))

theorem Indexed.opened (h : f.Indexed) (kept : Incidence f.builder)
    (grown : f.builder.points <+: b'.points) {layer : ℤ}
    (streets : b'.streets = f.builder.streets ++ [⟨f.builder.streets.length, [n], layer⟩]) :
    ({ f with builder := b' } : Fabric K).Indexed := by
  have elsewhere : ∀ s ≠ f.builder.streets.length, b'.streets[s]? = f.builder.streets[s]? := by
    intro s apart
    rw [streets, List.getElem?_append]
    split
    · rfl
    · rw [List.getElem?_eq_none (by simp; omega), List.getElem?_eq_none (by omega)]
  have pending := h.pending kept grown elsewhere
  have fresh : ∀ key : ℕ × ℕ, key.1 = f.builder.streets.length →
      ¬ ({ f with builder := b' } : Fabric K).Live key ∧ ¬ f.Live key := by
    intro key here
    refine ⟨fun alive => ?_, fun alive => ?_⟩
    · change key.2 + 1 < ((b'.nodeIdsOf key.1).map b'.pointOf).length at alive
      unfold StreetTopologyBuilder.nodeIdsOf at alive
      simp [here, streets] at alive
    · change key.2 + 1 < ((f.builder.nodeIdsOf key.1).map f.builder.pointOf).length at alive
      unfold StreetTopologyBuilder.nodeIdsOf at alive
      simp [here] at alive
  refine ⟨⟨h.cell, fun key listed _ => ?_⟩, fun key alive => ?_⟩
  · refine pending.entered key listed fun here => ?_
    exact (fresh key here).2 (h.entered key listed trivial).1
  · exact pending.complete key (fun here => (fresh key here).1 alive) alive

end Frames

section Runs

open StreetTopologyBuilder (Incidence Change Changes)

variable {K : Type} [Scalar K] {f : Fabric K} {cellM : K} {α : Type}

/-- What every call keeps: a complete index, and a builder whose streets are paths. -/
structure Kept (cellM : K) (f : Fabric K) : Prop extends Indexed f where
  size : f.cell = cellM
  incidence : Incidence f.builder

theorem on_builder_meets {op : StreetTopologyBuilder.Op K α} {P : Fabric K → Prop}
    {Q : α → Fabric K → Prop} (clean : Call.Clean op)
    (returned : ∀ f a b', P f → op f.builder = (.ok a, b') → Q a { f with builder := b' }) :
    Call.Meets P (onBuilder op) Q P := by
  intro f start
  refine ⟨fun a f' ended => ?_, fun e f' raised => ?_⟩
  · obtain ⟨found, rfl⟩ := Prod.mk.inj ended
    exact returned f a _ start (Prod.ext found rfl)
  · obtain ⟨found, rfl⟩ := Prod.mk.inj raised
    have same : (op f.builder).2 = f.builder := clean f.builder e _ (Prod.ext found rfl)
    have unchanged : ({ f with builder := (op f.builder).2 } : Fabric K) = f :=
      congrArg (fun b => ({ f with builder := b } : Fabric K)) same
    exact (congrArg P unchanged).mpr start

theorem succeeds_meets {op : Op K α} {P Q : Fabric K → Prop}
    (h : Call.Meets P op (fun _ => Q) P) :
    Call.Meets P (succeeds op) (fun done f => if done then Q f else P f) P := by
  intro f start
  obtain ⟨returned, raised⟩ := h f start
  unfold succeeds
  rcases there : op f with ⟨e | a, f'⟩
  · have after := raised e f' there
    cases e <;> refine ⟨fun done s' ended => ?_, fun e' s' stopped => ?_⟩ <;>
      simp_all
  · have after := returned a f' there
    refine ⟨fun done s' ended => ?_, fun e' s' stopped => ?_⟩ <;> simp_all

theorem Kept.add_node (h : f.Kept cellM) {point : PointM K} {nodeId : ℕ} :
    (f.addNode point nodeId).Kept cellM :=
  ⟨⟨⟨h.cell, h.entered⟩, h.complete⟩, h.size, h.incidence⟩

theorem Kept.index_class (h : f.Kept cellM) {streetId vertexIndex : ℕ} {roadClass : RoadClass} :
    (f.indexClassSegment streetId vertexIndex roadClass).Kept cellM :=
  ⟨⟨⟨h.cell, h.entered⟩, h.complete⟩, h.size, h.incidence⟩

/-- A street grew at its end, and its last segment is not indexed yet. -/
structure Extended (cellM : K) (streetId : ℕ) (f : Fabric K) : Prop extends
    Growing f streetId where
  size : f.cell = cellM
  incidence : Incidence f.builder

/-- A street was changed, and is not indexed again yet. -/
structure Changed (cellM : K) (streetId : ℕ) (f : Fabric K) : Prop extends
    Pending f streetId where
  size : f.cell = cellM
  incidence : Incidence f.builder

theorem Kept.extended (h : f.Kept cellM) {streetId : ℕ} : f.Extended cellM streetId :=
  ⟨⟨h.toGuarded, fun key alive => .inl (h.complete key alive)⟩, h.size, h.incidence⟩

theorem Kept.changed (h : f.Kept cellM) {streetId : ℕ} : f.Changed cellM streetId :=
  ⟨⟨⟨h.cell, fun key listed _ => h.entered key listed trivial⟩,
    fun key _ alive => h.complete key alive⟩, h.size, h.incidence⟩

theorem reindex_meets {streetId : ℕ} :
    Call.Meets (Changed cellM streetId) (Call.change fun f : Fabric K => f.reindexStreet streetId)
      (fun _ => Kept cellM) (ε := TopologyError K) (Kept cellM) := by
  refine .change fun f h => ?_
  obtain ⟨indexed, builder, cell⟩ := h.reindex
  exact ⟨indexed, cell.trans h.size, builder ▸ h.incidence⟩

theorem index_last_meets {streetId : ℕ} :
    Call.Meets (Extended cellM streetId) (indexLastSegment streetId) (fun _ => Kept cellM)
      (Kept (K := K) cellM) := by
  refine .bind (Q := fun length f => Extended cellM streetId f ∧
    length = (f.pointsOf streetId).length) (.query ?_ ?_) fun length => ?_
  · rintro f _ h ⟨⟩
    exact ⟨h, rfl⟩
  · rintro f e h ⟨⟩
  split
  · rename_i short
    refine .pure fun f h => ?_
    obtain ⟨h, rfl⟩ := h
    exact ⟨h.of_short short, h.size, h.incidence⟩
  · rename_i long
    refine .bind (Q := fun _ => Kept cellM) (.change fun f h => ?_) fun _ =>
      .bind (Q := fun _ => Kept cellM) (.query (fun f _ h _ => h) fun f _ h _ => h) fun _ =>
        .change fun f h => h.index_class
    obtain ⟨h, rfl⟩ := h
    exact ⟨h.index_last (not_lt.mp long), index_segment_cell.trans h.size,
      index_segment_builder (f := f) ▸ h.incidence⟩

open StreetTopologyBuilder (BuilderCall)

/-- The calls that keep the index complete. -/
abbrev Keeps {α : Type} (cellM : K) (op : Op K α) : Prop :=
  Call.Meets (Kept cellM) op (fun _ => Kept cellM) (Kept cellM)

variable {streetId nodeId : ℤ} {point : PointM K} {x : K}

theorem open_keeps {roadClass : RoadClass} {startNodeId : Option ℤ} {layer : ℤ} :
    Keeps cellM (openStreet roadClass point startNodeId layer) := by
  refine .bind (Q := fun _ => Kept cellM) (on_builder_meets
    (BuilderCall.openStreet [point] startNodeId layer).clean.of_drop ?_) fun streetId =>
    .bind (Q := fun _ => Kept cellM) (.change fun f h => ?_) fun _ =>
    .bind (Q := fun _ => Kept cellM) (.query (fun f _ h _ => h) fun f _ h _ => h) fun _ =>
    .bind (Q := fun _ => Kept cellM) (.change fun f h => h.add_node) fun _ => .pure fun f h => h
  · intro f streetId b' h returned
    have changes := StreetTopologyBuilder.open_street_returns returned
    obtain ⟨mid, nodeIds, -, streets, one, -, -, -, rfl⟩ :=
      StreetTopologyBuilder.open_street_inv returned
    obtain ⟨n, rfl⟩ := List.length_eq_one_iff.mp one
    have opened : (mid.withStreet [n] layer).streets =
        f.builder.streets ++ [⟨f.builder.streets.length, [n], layer⟩] := by
      change mid.streets ++ [⟨mid.streets.length, [n], layer⟩] = _
      rw [streets]
    exact ⟨h.toIndexed.opened h.incidence changes.points_kept opened, h.size,
      h.incidence.changes changes⟩
  · exact ⟨⟨⟨h.cell, h.entered⟩, h.complete⟩, h.size, h.incidence⟩

theorem extend_keeps : Keeps cellM (extend streetId point) := by
  refine .bind (Q := fun _ => Extended cellM streetId.toNat) ((on_builder_meets
    (BuilderCall.extendStreet streetId point).clean.of_drop ?_)) fun nodeId =>
    .bind (Q := fun _ => Extended cellM streetId.toNat) (.change fun f h => ?_) fun _ =>
      index_last_meets
  · intro f nodeId b' h returned
    have changes := StreetTopologyBuilder.extend_street_returns h.incidence returned
    obtain ⟨street, found, rfl, rfl⟩ := StreetTopologyBuilder.extend_street_inv returned
    exact ⟨h.toIndexed.growing h.incidence changes.points_kept
      (fun s apart => StreetTopologyBuilder.with_node_on_elsewhere apart)
      (StreetTopologyBuilder.with_node_on_end found), h.size, h.incidence.changes changes⟩
  · exact ⟨⟨⟨h.cell, h.entered⟩, h.complete⟩, h.size, h.incidence⟩

theorem extend_to_node_keeps : Keeps cellM (extendToNode streetId nodeId x) := by
  refine .bind (succeeds_meets (Q := Extended cellM streetId.toNat) (on_builder_meets
    (BuilderCall.extendStreetToNode streetId nodeId x).clean.of_drop ?_)) fun done => ?_
  · intro f nodeId b' h returned
    have changes := StreetTopologyBuilder.extend_to_node_returns returned
    rcases StreetTopologyBuilder.extend_to_node_inv returned with
      rfl | ⟨street, found, known, absent, rfl⟩
    · exact h.extended
    · exact ⟨h.toIndexed.growing h.incidence changes.points_kept
        (fun s apart => StreetTopologyBuilder.with_node_on_elsewhere apart)
        (StreetTopologyBuilder.with_node_on_end found), h.size, h.incidence.changes changes⟩
  · cases done with
    | true => exact index_last_meets.bind fun _ => .pure fun f h => h
    | false => exact .pure fun f h => h

theorem prepend_to_node_keeps : Keeps cellM (prependToNode streetId nodeId x) := by
  refine .bind (succeeds_meets (Q := Changed cellM streetId.toNat) (on_builder_meets
    (BuilderCall.prependStreetToNode streetId nodeId x).clean.of_drop ?_)) fun done => ?_
  · intro f nodeId b' h returned
    have changes := StreetTopologyBuilder.prepend_to_node_returns returned
    rcases StreetTopologyBuilder.prepend_to_node_inv returned with
      rfl | ⟨street, found, known, absent, rfl⟩
    · exact h.changed
    · exact ⟨h.toIndexed.pending h.incidence changes.points_kept
        fun s apart => StreetTopologyBuilder.with_node_on_elsewhere apart,
        h.size, h.incidence.changes changes⟩
  · cases done with
    | true => exact reindex_meets.bind fun _ => .pure fun f h => h
    | false => exact .pure fun f h => h

theorem bind_keeps : Keeps cellM (bindNodeIntoStreet streetId nodeId x) := by
  refine .bind (Q := fun done f => if done then Changed cellM streetId.toNat f else Kept cellM f)
    (on_builder_meets (BuilderCall.bindNodeIntoStreet streetId nodeId x).clean.of_drop ?_)
    fun done => ?_
  · intro f done b' h returned
    have changes := StreetTopologyBuilder.bind_node_returns returned
    rcases StreetTopologyBuilder.bind_node_inv returned with
      rfl | ⟨rfl, street, index, n, found, within, known, absent, rfl⟩
    · split
      · exact h.changed
      · exact h
    · exact ⟨h.toIndexed.pending h.incidence changes.points_kept
        fun s apart => StreetTopologyBuilder.with_node_on_elsewhere apart,
        h.size, h.incidence.changes changes⟩
  · cases done with
    | true => exact reindex_meets.bind fun _ => .pure fun f h => h
    | false => exact .pure fun f h => h

theorem contact_keeps : Keeps cellM (contact streetId point x) := by
  refine .bind (Q := fun found f =>
      if found = none then Kept cellM f else Changed cellM streetId.toNat f)
    (on_builder_meets (BuilderCall.contact streetId point x).clean.of_drop ?_) fun found => ?_
  · intro f found b' h returned
    have changes := StreetTopologyBuilder.contact_returns h.incidence returned
    rcases StreetTopologyBuilder.contact_inv returned with ⟨rfl, rfl⟩ | ⟨n, along, rfl, split_at⟩
    · exact h
    rw [if_neg (Option.some_ne_none n)]
    rcases StreetTopologyBuilder.split_inv split_at with
      rfl | ⟨street, index, point, -, at_street, within, rfl⟩
    · exact h.changed
    · exact ⟨h.toIndexed.pending h.incidence changes.points_kept
        fun s apart => StreetTopologyBuilder.with_node_on_elsewhere apart,
        h.size, h.incidence.changes changes⟩
  · cases found with
    | none => exact .pure fun f h => h
    | some n =>
      exact reindex_meets.bind fun _ => .bind (Q := fun _ => Kept cellM)
        (.change fun f h => h.add_node) fun _ => .pure fun f h => h

theorem split_unchanged (whole : (FabricCall.splitAtArcLength streetId x).inserts f = false) :
    ((splitAtArcLength streetId x) f).2 = f := by
  have same : (StreetTopologyBuilder.splitAtArcLength streetId x f.builder).2 = f.builder := by
    rcases there : StreetTopologyBuilder.splitAtArcLength streetId x f.builder with ⟨_ | n, b'⟩
    · exact StreetTopologyBuilder.split_clean _ _ _ there
    · rcases StreetTopologyBuilder.split_inv there with rfl | ⟨_, index, point, inside, -⟩
      · rfl
      · rw [FabricCall.inserts, inside] at whole
        cases whole
  exact congrArg (fun b => ({ f with builder := b } : Fabric K)) same

theorem Kept.call (h : f.Kept cellM) {call : FabricCall K} (whole : call.inserts f = false) :
    (call.op f).2.Kept cellM := by
  cases call with
  | openStreet => exact open_keeps.drop.keeps h
  | extend => exact extend_keeps.keeps h
  | extendToNode => exact extend_to_node_keeps.drop.keeps h
  | prependToNode => exact prepend_to_node_keeps.drop.keeps h
  | splitAtArcLength streetId arcLengthM =>
    have dropped : ((splitAtArcLength streetId arcLengthM).drop f).2 =
        ((splitAtArcLength streetId arcLengthM) f).2 := Call.drop_state
    change ((splitAtArcLength streetId arcLengthM).drop f).2.Kept cellM
    rw [dropped, split_unchanged whole]
    exact h
  | bindNodeIntoStreet => exact bind_keeps.drop.keeps h
  | contact => exact contact_keeps.drop.keeps h

theorem kept_empty : ({ cell := cellM } : Fabric K).Kept cellM where
  cell := rfl
  entered key listed := absurd listed (Finset.notMem_empty key)
  complete key alive := absurd alive (by simp [Live, pointsOf, StreetTopologyBuilder.nodeIdsOf])
  size := rfl
  incidence := StreetTopologyBuilder.incidence_empty

/-- No call of the run splits a street at a place where it gets a new node. -/
def NoInsertingSplit (cellM : K) (calls : List (FabricCall K)) : Prop :=
  ∀ before call, before ++ [call] <+: calls → call.inserts (after cellM before) = false

theorem kept_after {calls : List (FabricCall K)} (whole : NoInsertingSplit cellM calls) :
    (after cellM calls).Kept cellM := by
  induction calls using List.reverseRecOn with
  | nil => exact kept_empty
  | append_singleton calls call ih =>
    have earlier := ih fun before other run => whole before other (run.trans (List.prefix_append _ _))
    unfold after at earlier ⊢
    rw [List.foldl_append]
    exact earlier.call (whole calls call (List.prefix_refl _))

end Runs

/-- A reference to a segment of another street. -/
def Candidate {K : Type} [Scalar K] (f : Fabric K) (exclude : ℤ) (item : ℕ) : Prop :=
  ((f.segmentRefs.getD item (0, 0)).1 : ℤ) ≠ exclude ∧ f.Live (f.segmentRefs.getD item (0, 0))

instance {K : Type} [Scalar K] (f : Fabric K) (exclude : ℤ) : DecidablePred (f.Candidate exclude) := fun item =>
  inferInstanceAs (Decidable (((f.segmentRefs.getD item (0, 0)).1 : ℤ) ≠ exclude ∧
    (f.segmentRefs.getD item (0, 0)).2 + 1 <
      (f.pointsOf (f.segmentRefs.getD item (0, 0)).1).length))

section Search

variable {f : Fabric ℝ} {key : ℕ × ℕ} {point : PointM ℝ} {radius : ℝ}

theorem steps_fine {left right : PointM ℝ} {c : ℝ} (positive : 0 < c) :
    Scalar.dist left right ≤ ((max (Scalar.trunc (Scalar.dist left right /
      (c * (1 / Scalar.ofInt 2))) + 1) 2).toNat : ℝ) * (c / 2) := by
  have half : c * (1 / Scalar.ofInt 2) = c / 2 := by
    change c * (1 / ((2 : ℤ) : ℝ)) = c / 2
    push_cast
    ring
  rw [half]
  have ratio : 0 ≤ Scalar.dist left right / (c / 2) :=
    div_nonneg Scalar.dist_nonneg (half_pos positive).le
  have floor : Scalar.trunc (Scalar.dist left right / (c / 2)) =
      ⌊Scalar.dist left right / (c / 2)⌋ := if_neg (not_lt.mpr ratio)
  rw [floor]
  set samples := max (⌊Scalar.dist left right / (c / 2)⌋ + 1) 2
  have cast : ((samples.toNat : ℕ) : ℝ) = (samples : ℝ) := by
    have : ((samples.toNat : ℕ) : ℤ) = samples := Int.toNat_of_nonneg (by omega)
    exact_mod_cast this
  rw [cast, ← div_le_iff₀ (half_pos positive)]
  refine (Int.lt_floor_add_one _).le.trans ?_
  exact_mod_cast le_max_left (⌊Scalar.dist left right / (c / 2)⌋ + 1) 2

theorem Entered.near (entered : f.Entered key) (positive : 0 < f.cell)
    (grid : f.segmentGrid.cell = f.cell) (radius_pos : 0 < radius)
    (within : f.distanceTo point key ≤ radius) :
    ∃ item ∈ f.segmentGrid.near point radius, f.segmentRefs[item]? = some key := by
  obtain ⟨item, found, entered⟩ := entered
  obtain ⟨t, t_pos, t_le, distance, foot⟩ :=
    segment_foot point (f.segmentAt key).1 (f.segmentAt key).2
  have wide : radius ≤ ⌈radius / f.cell⌉ * f.cell := (div_le_iff₀ positive).mp (Int.le_ceil _)
  have cells : (1 : ℝ) ≤ (⌈radius / f.cell⌉ : ℤ) := by
    exact_mod_cast Int.one_le_ceil_iff.mpr (div_pos radius_pos positive)
  have size : f.cell ≤ ⌈radius / f.cell⌉ * f.cell := le_mul_of_one_le_left positive.le cells
  set left := (f.segmentAt key).1
  set right := (f.segmentAt key).2
  set steps := max (Scalar.trunc (Scalar.dist left right / (f.cell * (1 / Scalar.ofInt 2))) + 1) 2
  have fine : Scalar.dist right left ≤ steps.toNat * (⌈radius / f.cell⌉ * f.cell / 2) := by
    rw [Scalar.dist_comm]
    refine (steps_fine positive).trans ?_
    exact mul_le_mul_of_nonneg_left (by linarith) (Nat.cast_nonneg _)
  obtain ⟨q, sampled, x_close, y_close⟩ := Scalar.exists_sample_in_box (n := steps.toNat)
    (by omega) fine t_pos t_le ((distance.symm.trans_le within).trans wide) foot
  refine ⟨item, Grid.mem_near (q := q) (grid ▸ positive) ?_ ?_ (entered q sampled), found⟩
  · rw [grid]
    exact x_close
  · rw [grid]
    exact y_close

theorem nearer_street_eq {exclude : ℤ} : f.nearerStreet point exclude =
    nearer (f.Candidate exclude) (fun item => (f.segmentRefs.getD item (0, 0)).1)
      fun item => f.distanceTo point (f.segmentRefs.getD item (0, 0)) := by
  funext best item
  unfold nearerStreet nearer Candidate Live
  dsimp only
  split
  · rename_i excluded
    exact (if_neg fun taken => taken.1.1 excluded).symm
  rename_i other
  split
  · rename_i short
    exact (if_neg fun taken => absurd taken.1.2 (not_lt.mpr short)).symm
  rename_i long
  exact if_congr (by simp only [other, not_le.mp long, ne_eq, not_false_eq_true, true_and]; rfl)
    rfl rfl

theorem Kept.search_spec {cellM : ℝ} (kept : f.Kept cellM) (positive : 0 < cellM)
    (order : SetOrder) (radius_pos : 0 < radius) (exclude : ℤ) :
    ((∃ streetId, f.nearestContactStreet order point radius exclude = some streetId) ↔
      ∃ key, (key.1 : ℤ) ≠ exclude ∧ f.Live key ∧ f.distanceTo point key ≤ radius) ∧
    ∀ streetId, f.nearestContactStreet order point radius exclude = some streetId →
      (streetId : ℤ) ≠ exclude ∧ ∃ i, f.Live (streetId, i) ∧
        f.distanceTo point (streetId, i) ≤ radius ∧
        ∀ key, (key.1 : ℤ) ≠ exclude → f.Live key →
          f.distanceTo point (streetId, i) ≤ f.distanceTo point key := by
  have reached : ∀ key : ℕ × ℕ, (key.1 : ℤ) ≠ exclude → f.Live key →
      f.distanceTo point key ≤ radius → ∃ item ∈ order.walk (f.segmentGrid.near point radius),
        f.Candidate exclude item ∧ f.segmentRefs.getD item (0, 0) = key := by
    intro key other alive within
    obtain ⟨-, entered⟩ := kept.entered key (kept.complete key alive) trivial
    obtain ⟨item, near, found⟩ := entered.near (kept.size ▸ positive) kept.cell radius_pos within
    have ref : f.segmentRefs.getD item (0, 0) = key := by
      rw [List.getD_eq_getElem?_getD, found]
      rfl
    refine ⟨item, (order.mem_walk _ _).mpr near, ?_, ref⟩
    unfold Candidate
    rw [ref]
    exact ⟨other, alive⟩
  unfold nearestContactStreet
  rw [nearer_street_eq]
  refine ⟨nearest_some_iff.trans ⟨?_, ?_⟩, fun streetId found => ?_⟩
  · rintro ⟨item, -, ⟨other, alive⟩, within⟩
    exact ⟨_, other, alive, within⟩
  · rintro ⟨key, other, alive, within⟩
    obtain ⟨item, listed, candidate, ref⟩ := reached key other alive within
    exact ⟨item, listed, candidate, ref.symm ▸ within⟩
  · obtain ⟨item, -, ⟨other, alive⟩, within, rfl, least⟩ := nearest_least found
    refine ⟨other, (f.segmentRefs.getD item (0, 0)).2, alive, within, fun key apart live => ?_⟩
    rcases le_total (f.distanceTo point key) radius with close | far
    · obtain ⟨item', listed, candidate, rfl⟩ := reached key apart live close
      exact least item' listed candidate
    · exact le_trans within far

/-- While no split puts a new node on a street, the search answers as a scan of all segments
would: it finds a street exactly where another one has a segment within the radius, and one
that is closest. -/
theorem contact_search_complete {cell : ℝ} (positive : 0 < cell) {calls : List (FabricCall ℝ)}
    (whole : NoInsertingSplit cell calls) (order : SetOrder) (point : PointM ℝ) {radius : ℝ}
    (radius_pos : 0 < radius) (exclude : ℤ) :
    ((∃ streetId, (after cell calls).nearestContactStreet order point radius exclude =
        some streetId) ↔
      ∃ key, (key.1 : ℤ) ≠ exclude ∧ (after cell calls).Live key ∧
        (after cell calls).distanceTo point key ≤ radius) ∧
    ∀ streetId, (after cell calls).nearestContactStreet order point radius exclude =
        some streetId →
      (streetId : ℤ) ≠ exclude ∧ ∃ i, (after cell calls).Live (streetId, i) ∧
        (after cell calls).distanceTo point (streetId, i) ≤ radius ∧
        ∀ key, (key.1 : ℤ) ≠ exclude → (after cell calls).Live key →
          (after cell calls).distanceTo point (streetId, i) ≤
            (after cell calls).distanceTo point key :=
  (kept_after whole).search_spec positive order radius_pos exclude

end Search

section Straight

def straight : StreetTopologyBuilder ℝ :=
  { points := [(0, 0), (1000, 0)], incident := [{0}, {0}], streets := [⟨0, [0, 1], 0⟩] }

def straightCalls : List (FabricCall ℝ) := [.openStreet .arterial (0, 0) none 0, .extend 0 (1000, 0)]

theorem straight_after : (after 40 straightCalls).builder = straight ∧
    (after 40 straightCalls).segmentRefs = [(0, 0)] := ⟨rfl, rfl⟩

theorem dist_on_axis {x y : ℝ} : Scalar.dist (x, 0) (y, 0) = |x - y| := by
  rw [Scalar.dist_real, sub_self, zero_pow two_ne_zero, add_zero, Real.sqrt_sq_eq_abs]

theorem split_straight : straight.splitPlace 0 500 = .ok (.inside 0 (500, 0)) := by
  have street : straight.requireStreet 0 = .ok ⟨0, [0, 1], 0⟩ := rfl
  have first : straight.pointOf 0 = (0, 0) := rfl
  have last : straight.pointOf 1 = (1000, 0) := rfl
  have tolerance : (StreetTopologyBuilder.weldToleranceM : ℝ) = 1 / 4 := by
    change 1 / ((4 : ℤ) : ℝ) = 1 / 4
    norm_num
  have total : straight.arcLengthOf ⟨0, [0, 1], 0⟩ = 1000 := by
    unfold StreetTopologyBuilder.arcLengthOf StreetTopologyBuilder.pointsOf
    rw [Scalar.path_length_real]
    simp [first, last, dist_on_axis]
  have located : straight.locateArc 500 0 0 [0, 1] = .ok (.inside 0 (500, 0)) := by
    have span : Scalar.dist (straight.pointOf 0) (straight.pointOf 1) = 1000 := by
      rw [first, last, dist_on_axis]
      norm_num
    unfold StreetTopologyBuilder.locateArc
    dsimp only
    rw [span, tolerance, first, last]
    norm_num
  have apart : ([0, 1].find? fun existing => decide (Scalar.dist (straight.pointOf existing)
      ((500, 0) : PointM ℝ) ≤ StreetTopologyBuilder.weldToleranceM)) = none := by
    rw [tolerance]
    simp only [List.find?_cons, List.find?_nil, first, last, dist_on_axis]
    norm_num
  unfold StreetTopologyBuilder.splitPlace
  rw [street]
  change (if (Scalar.isfinite (500 : ℝ)) = false ∨ (500 : ℝ) < 0 then _ else _) = _
  rw [if_neg (by simp [Scalar.isfinite])]
  dsimp only
  rw [total, tolerance, if_neg (by norm_num), located]
  dsimp only
  rw [← tolerance, apart]

/-- The street after the split. -/
def halved : StreetTopologyBuilder ℝ :=
  { points := [(0, 0), (1000, 0), (500, 0)], incident := [{0}, {0}, {0}]
    streets := [⟨0, [0, 2, 1], 0⟩] }

theorem split_straight_returns :
    StreetTopologyBuilder.splitAtArcLength 0 500 straight = (.ok 2, halved) :=
  Call.bind_returns.mpr ⟨_, straight, Call.query_returns.mpr ⟨split_straight, rfl⟩, rfl⟩

theorem halved_after : (after 40 (straightCalls ++ [.splitAtArcLength 0 500])).builder = halved ∧
    (after 40 (straightCalls ++ [.splitAtArcLength 0 500])).segmentRefs = [(0, 0)] := by
  unfold after
  rw [List.foldl_append]
  change (Call.drop (splitAtArcLength 0 500) (after 40 straightCalls)).2.builder = halved ∧
    (Call.drop (splitAtArcLength 0 500) (after 40 straightCalls)).2.segmentRefs = [(0, 0)]
  rw [Call.drop_state]
  refine ⟨?_, straight_after.2⟩
  exact congrArg Prod.snd split_straight_returns

theorem halved_points {f : Fabric ℝ} (builder : f.builder = halved) :
    f.pointsOf 0 = [(0, 0), (500, 0), (1000, 0)] := by
  unfold pointsOf
  rw [builder]
  rfl

theorem halved_first {f : Fabric ℝ} (builder : f.builder = halved) :
    f.distanceTo (1000, 0) (0, 0) = 500 := by
  unfold distanceTo segmentAt
  rw [halved_points builder]
  simp only [List.getD_cons_zero, List.getD_cons_succ]
  have root : Real.sqrt 250000 = 500 := by
    rw [show (250000 : ℝ) = 500 ^ 2 by norm_num]
    exact Real.sqrt_sq (by norm_num)
  unfold pointToSegmentDistance
  norm_num [Scalar.hypot, root]

theorem halved_second {f : Fabric ℝ} (builder : f.builder = halved) :
    f.distanceTo (1000, 0) (0, 1) = 0 := by
  unfold distanceTo segmentAt
  rw [halved_points builder]
  simp only [List.getD_cons_zero, List.getD_cons_succ]
  unfold pointToSegmentDistance
  norm_num [Scalar.hypot]

/-- After that split a search at the street's end misses its second half. -/
theorem split_hides_segment : ¬ ∀ (cell : ℝ), 0 < cell → ∀ (calls : List (FabricCall ℝ))
    (order : SetOrder) (point : PointM ℝ) (radius : ℝ), 0 < radius → ∀ exclude : ℤ,
    ((∃ streetId, (after cell calls).nearestContactStreet order point radius exclude =
        some streetId) ↔
      ∃ key, (key.1 : ℤ) ≠ exclude ∧ (after cell calls).Live key ∧
        (after cell calls).distanceTo point key ≤ radius) := by
  intro complete
  obtain ⟨builder, refs⟩ := halved_after
  have found := (complete 40 (by norm_num) (straightCalls ++ [.splitAtArcLength 0 500])
    .ascending (1000, 0) 1 one_pos (-1)).mpr ⟨(0, 1), by norm_num, ?_, ?_⟩
  · unfold nearestContactStreet at found
    rw [nearer_street_eq, nearest_some_iff] at found
    obtain ⟨item, -, -, within⟩ := found
    have only : (after 40 (straightCalls ++ [.splitAtArcLength 0 500])).segmentRefs.getD item
        (0, 0) = (0, 0) := by
      rw [refs]
      cases item <;> rfl
    rw [only, halved_first builder] at within
    norm_num at within
  · unfold Live
    rw [halved_points builder]
    decide
  · rw [halved_second builder]
    exact zero_le_one

/-- The straight street is found at its end. -/
theorem straight_contact : ∃ streetId,
    (after 40 straightCalls).nearestContactStreet .ascending (1000, 0) 1 (-1) = some streetId := by
  refine (contact_search_complete (by norm_num) ?_ .ascending (1000, 0)
    one_pos (-1)).1.mpr ⟨(0, 0), by norm_num, ?_, ?_⟩
  · intro before call run
    have listed := run.subset (List.mem_append_right before (List.mem_singleton_self call))
    rcases List.mem_cons.mp listed with rfl | listed
    · rfl
    · rw [List.mem_singleton.mp listed]
      rfl
  · exact Nat.one_lt_two
  · unfold distanceTo segmentAt pointsOf
    rw [straight_after.1]
    change pointToSegmentDistance (1000, 0) (0, 0) (1000, 0) ≤ 1
    unfold pointToSegmentDistance
    norm_num [Scalar.hypot]

end Straight

end Fabric

end Metroflow.City
