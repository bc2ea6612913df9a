import Metroflow.City.ChannelApportionment
import Metroflow.Lib.Intake
import Metroflow.Lib.Parts
import Metroflow.Lib.ZOrder

namespace Metroflow.City.Taz

open Metroflow.Lib

section Model

structure ExtentMM where
  xmin : ℤ
  ymin : ℤ
  xmax : ℤ
  ymax : ℤ

structure MortonRow where
  blockId : ℤ
  semanticId : String
  witnessMm : ℚ × ℚ

/-- A row with the key it is sorted by. -/
structure ParsedRow where
  morton : ℕ
  dx : ℚ
  dy : ℚ
  semanticId : String
  blockId : ℤ

/-- The bits of two numbers that are not negative in turn. -/
def mortonCode (x y : ℤ) : ℕ := interleave x.toNat y.toNat

def exactExtent (extent : ExtentMM) : Except String ExtentMM := do
  raiseIf (extent.xmax ≤ extent.xmin ∨ extent.ymax ≤ extent.ymin)
    "extent_mm must have positive width and height"
  return extent

def mortonWitnessKey (witnessMm : ℚ × ℚ) (extentMm : ExtentMM) : Except String (ℕ × ℚ × ℚ) := do
  let extent ← exactExtent extentMm
  raiseIf (¬(extent.xmin ≤ witnessMm.1 ∧ witnessMm.1 ≤ extent.xmax) ∨
    ¬(extent.ymin ≤ witnessMm.2 ∧ witnessMm.2 ≤ extent.ymax))
    "witness must lie inside the inclusive extent"
  let dx := witnessMm.1 - extent.xmin
  let dy := witnessMm.2 - extent.ymin
  return (mortonCode ⌊dx⌋ ⌊dy⌋, dx, dy)

structure ParsedMorton where
  parsed : List ParsedRow := []
  blockIds : Finset ℤ := ∅
  semanticIds : Finset String := ∅

def parseMortonRow (text : PyText) (extentMm : ExtentMM) (s : ParsedMorton) (row : MortonRow) :
    Except String ParsedMorton := do
  let blockId ← plainNonnegativeInt row.blockId "block_id"
  let semanticId ← digestText text row.semanticId "block_semantic_id"
  raiseIf (blockId ∈ s.blockIds ∨ semanticId ∈ s.semanticIds)
    "Morton rows require unique block and semantic IDs"
  let (morton, dx, dy) ← mortonWitnessKey row.witnessMm extentMm
  return {
    parsed := s.parsed ++ [⟨morton, dx, dy, semanticId, blockId⟩]
    blockIds := insert blockId s.blockIds
    semanticIds := insert semanticId s.semanticIds }

def ParsedRow.sortKey (row : ParsedRow) : ℕ ×ₗ ℚ ×ₗ ℚ ×ₗ String ×ₗ ℤ :=
  toLex (row.morton, toLex (row.dx, toLex (row.dy, toLex (row.semanticId, row.blockId))))

/-- The next TAZ takes the blocks from `start` on. -/
def takeTaz (parsed : List ParsedRow) (q r : ℕ) (s : ℕ × List (ℕ × List ℤ)) (tazId : ℕ) :
    ℕ × List (ℕ × List ℤ) :=
  let size := q + if tazId < r then 1 else 0
  (s.1 + size, s.2 ++ [(tazId, ((parsed.drop s.1).take size).map ParsedRow.blockId)])

def partitionMortonRows (text : PyText) (rows : List MortonRow) (extentMm : ExtentMM)
    (tazCount : ℤ) : Except String (List (ℕ × List ℤ)) := do
  let tazCount ← plainNonnegativeInt tazCount "taz_count"
  raiseIf (tazCount < 1) "taz_count must be positive"
  let _ ← exactExtent extentMm
  let s ← rows.foldlM (parseMortonRow text extentMm) {}
  raiseIf (s.parsed.length < tazCount) "TAZ count cannot exceed addressable block count"
  let parsed := sortOn ParsedRow.sortKey s.parsed
  let k := tazCount.toNat
  return ((List.range k).foldl (takeTaz parsed (parsed.length / k) (parsed.length % k)) (0, [])).2

structure OwnerRow where
  semanticId : String
  tazId : ℤ
  accessNodeIds : List ℤ

/-- The claims on each access node that were read so far. -/
structure OwnerClaims where
  candidates : Dict ℤ (List (String × ℤ)) := []
  semanticIds : Finset String := ∅
  visitCount : ℕ := 0

def OwnerClaims.add (s : OwnerClaims) (row : OwnerRow) : OwnerClaims where
  candidates := row.accessNodeIds.foldl (fun candidates nodeId =>
    candidates.appendAt nodeId (row.semanticId, row.tazId)) s.candidates
  semanticIds := insert row.semanticId s.semanticIds
  visitCount := s.visitCount + row.accessNodeIds.length

def readOwnerRow (text : PyText) (s : OwnerClaims) (row : OwnerRow) :
    Except String OwnerClaims := do
  let semanticId ← digestText text row.semanticId "block_semantic_id"
  raiseIf (semanticId ∈ s.semanticIds) "node-owner rows require unique block semantic IDs"
  let tazId ← plainNonnegativeInt row.tazId "taz_id"
  let nodeIds ← row.accessNodeIds.mapM fun node => plainNonnegativeInt node "access node id"
  raiseIf (nodeIds = [] ∨ ¬nodeIds.Nodup) "access node IDs must be nonempty and unique per block"
  return s.add ⟨semanticId, tazId, nodeIds⟩

def readCoordinate (coordinates : Dict ℤ (ℤ × ℤ)) (item : ℤ × ℤ × ℤ) :
    Except String (Dict ℤ (ℤ × ℤ)) := do
  let nodeId ← plainNonnegativeInt item.1 "node_xy_mm_by_id node ID"
  return coordinates.set nodeId item.2

structure Ownership where
  owners : List (ℤ × ℤ) := []
  conflicts : List (ℤ × List (String × ℤ) × ℤ) := []

/-- The first claim on a node wins. -/
def ownAccessNode (candidates : Dict ℤ (List (String × ℤ))) (s : Ownership) (nodeId : ℤ) :
    Except String Ownership := do
  let ordered := sortOn toLex ((candidates.get nodeId).getD [])
  match ordered with
  | [] => .error "tuple index out of range"
  | first :: rest =>
    return {
      owners := s.owners ++ [(nodeId, first.2)]
      conflicts := if rest = [] then s.conflicts
        else s.conflicts ++ [(nodeId, ordered, first.2)] }

/-- The nearest owned node, of equally near ones the one with the least id. -/
def nearestKey (x y : ℤ) (item : ℤ × (ℤ × ℤ) × ℤ) : ℤ ×ₗ ℤ ×ₗ ℤ :=
  toLex ((x - item.2.1.1) ^ 2 + (y - item.2.1.2) ^ 2, toLex (item.1, item.2.2))

def ownOtherNode (coordinates : Dict ℤ (ℤ × ℤ)) (ownedNodes : List (ℤ × (ℤ × ℤ) × ℤ))
    (owners : List (ℤ × ℤ)) (unownedId : ℤ) : Except String (List (ℤ × ℤ)) :=
  match coordinates.get unownedId with
  | none => .error s!"{unownedId}"
  | some (x, y) =>
    match (sortOn (nearestKey x y) ownedNodes).head? with
    | none => .error "min() iterable argument is empty"
    | some best => .ok (owners ++ [(unownedId, best.2.2)])

def nodeTazOwnershipFromIndex (text : PyText) (blockRows : List OwnerRow)
    (nodeXyMmById : Dict ℤ (ℤ × ℤ)) :
    Except String (List (ℤ × ℤ) × List (ℤ × List (String × ℤ) × ℤ) × ℕ) := do
  let coordinates ← nodeXyMmById.foldlM readCoordinate []
  let claims ← blockRows.foldlM (readOwnerRow text) {}
  let owned ← (sortOn id (claims.candidates.map Prod.fst)).foldlM
    (ownAccessNode claims.candidates) {}
  let ownerMap : Dict ℤ ℤ := owned.owners
  let missing := (sortOn id (ownerMap.map Prod.fst)).filter fun nodeId =>
    nodeId ∉ coordinates.map Prod.fst
  raiseIf (missing ≠ []) s!"node_xy_mm_by_id is missing owned node IDs: {missing}"
  let unowned := (sortOn id (coordinates.map Prod.fst)).filter fun nodeId =>
    nodeId ∉ ownerMap.map Prod.fst
  raiseIf (unowned ≠ [] ∧ ownerMap = [])
    "nearest-owned-mm assignment requires at least one owned node"
  let ownedNodes := (sortOn id (ownerMap.map Prod.fst)).map fun nodeId =>
    (nodeId, (coordinates.get nodeId).getD (0, 0), (ownerMap.get nodeId).getD 0)
  let owners ← unowned.foldlM (ownOtherNode coordinates ownedNodes) owned.owners
  return (sortOn Prod.fst owners, owned.conflicts, claims.visitCount)

end Model

section Property

/-- The millimetre cell that a witness lies in. -/
def cellOf (extent : ExtentMM) (row : MortonRow) : ℕ × ℕ :=
  (⌊row.witnessMm.1 - extent.xmin⌋.toNat, ⌊row.witnessMm.2 - extent.ymin⌋.toNat)

/-- Blocks with ids of their own and witnesses inside the extent. -/
structure MortonRows (text : PyText) (extent : ExtentMM) (rows : List MortonRow) : Prop where
  wide : extent.xmin < extent.xmax ∧ extent.ymin < extent.ymax
  ids : ∀ row ∈ rows, 0 ≤ row.blockId
  digests : ∀ row ∈ rows, digestText text row.semanticId "block_semantic_id" = .ok row.semanticId
  inside : ∀ row ∈ rows, (extent.xmin ≤ row.witnessMm.1 ∧ row.witnessMm.1 ≤ extent.xmax) ∧
    extent.ymin ≤ row.witnessMm.2 ∧ row.witnessMm.2 ≤ extent.ymax
  blocks : (rows.map MortonRow.blockId).Nodup
  names : (rows.map MortonRow.semanticId).Nodup

/-- First by the cells in the order of their quadrants; within one cell by the witness and then by
the semantic id. -/
def Precedes (extent : ExtentMM) (a b : MortonRow) : Prop :=
  ZBefore (cellOf extent a) (cellOf extent b) ∨ cellOf extent a = cellOf extent b ∧
    toLex (a.witnessMm.1, toLex (a.witnessMm.2, a.semanticId)) <
      toLex (b.witnessMm.1, toLex (b.witnessMm.2, b.semanticId))

/-- The blocks cut into zones of one size along the order of the quadrants. -/
structure TazPartition (extent : ExtentMM) (rows : List MortonRow) (tazCount : ℕ)
    (result : List (ℕ × List ℤ)) : Prop where
  tazs : result.map Prod.fst = List.range tazCount
  once : (result.flatMap Prod.snd).Perm (rows.map MortonRow.blockId)
  nonempty : ∀ taz ∈ result, taz.2 ≠ []
  balanced : ∀ taz ∈ result, ∀ taz' ∈ result, taz.2.length ≤ taz'.2.length + 1
  order : result.Pairwise fun taz taz' => ∀ row ∈ rows, ∀ row' ∈ rows,
    row.blockId ∈ taz.2 → row'.blockId ∈ taz'.2 → Precedes extent row row'

end Property

section Partition

variable {text : PyText} {rows rows' : List MortonRow} {extent : ExtentMM} {row row' : MortonRow}

def parsedRow (extent : ExtentMM) (row : MortonRow) : ParsedRow :=
  let dx := row.witnessMm.1 - extent.xmin
  let dy := row.witnessMm.2 - extent.ymin
  ⟨mortonCode ⌊dx⌋ ⌊dy⌋, dx, dy, row.semanticId, row.blockId⟩

def ParsedMorton.add (extent : ExtentMM) (s : ParsedMorton) (row : MortonRow) : ParsedMorton where
  parsed := s.parsed ++ [parsedRow extent row]
  blockIds := insert row.blockId s.blockIds
  semanticIds := insert row.semanticId s.semanticIds

theorem read_morton_rows (rows : List MortonRow) : rows.foldl (ParsedMorton.add extent) {} =
    ⟨rows.map (parsedRow extent), (rows.map MortonRow.blockId).toFinset,
      (rows.map MortonRow.semanticId).toFinset⟩ := by
  induction rows using List.reverseRecOn with
  | nil => rfl
  | append_singleton rows row ih =>
    rw [List.foldl_append, List.foldl_cons, List.foldl_nil, ih]
    unfold ParsedMorton.add
    simp only [List.map_append, List.map_cons, List.map_nil, List.toFinset_append,
      List.toFinset_cons, List.toFinset_nil, ParsedMorton.mk.injEq, true_and]
    constructor <;> · ext; simp

theorem read_morton_ok (h : MortonRows text extent rows) :
    rows.foldlM (parseMortonRow text extent) {} =
      .ok (rows.foldl (ParsedMorton.add extent) {}) := by
  have wide : exactExtent extent = .ok extent := by
    unfold exactExtent
    refine bind_ok.mpr ⟨(), raise_if_ok.mpr ?_, rfl⟩
    rw [not_or, not_le, not_le]
    exact h.wide
  obtain ⟨s, run, rfl⟩ := fold_total (f := parseMortonRow text extent) (l := rows) (s := {})
    (I := fun past s => s = past.foldl (ParsedMorton.add extent) {}) (by
    rintro past row rest s split rfl
    have listed : row ∈ rows := by simp [split]
    refine ⟨_, ?_, by rw [List.foldl_append, List.foldl_cons, List.foldl_nil]⟩
    rw [read_morton_rows]
    unfold parseMortonRow mortonWitnessKey
    refine bind_ok.mpr ⟨_, plain_nonnegative_int_ok.mpr ⟨h.ids row listed, rfl⟩, ?_⟩
    refine bind_ok.mpr ⟨_, h.digests row listed, ?_⟩
    refine bind_ok.mpr ⟨(), raise_if_ok.mpr ?_, ?_⟩
    · have blocks := h.blocks
      have names := h.names
      rw [split, List.map_append, List.map_cons] at blocks names
      have apart := (List.nodup_append.mp blocks).2.2
      have apart' := (List.nodup_append.mp names).2.2
      rw [List.mem_toFinset, List.mem_toFinset]
      rintro (seen | seen)
      · exact apart _ seen _ List.mem_cons_self rfl
      · exact apart' _ seen _ List.mem_cons_self rfl
    · rw [wide, ok_bind]
      obtain ⟨x, y⟩ := h.inside row listed
      refine bind_ok.mpr ⟨_, bind_ok.mpr ⟨(), raise_if_ok.mpr ?_, rfl⟩, rfl⟩
      rw [not_or, not_not, not_not]
      exact ⟨x, y⟩) rfl
  exact run

theorem precedes_of_key (apart : row.semanticId ≠ row'.semanticId)
    (less : (parsedRow extent row).sortKey < (parsedRow extent row').sortKey) :
    Precedes extent row row' := by
  have before := interleave_lt_iff (cellOf extent row) (cellOf extent row')
  unfold ParsedRow.sortKey parsedRow mortonCode at less
  simp only [Prod.Lex.toLex_lt_toLex] at less
  unfold Precedes
  simp only [Prod.Lex.toLex_lt_toLex]
  rcases less with first | ⟨same, later⟩
  · exact .inl (before.mp first)
  · refine .inr ⟨interleave_injective same, ?_⟩
    rcases later with x | ⟨x, y | ⟨y, id | ⟨id, -⟩⟩⟩
    · exact .inl (sub_lt_sub_iff_right _ |>.mp x)
    · exact .inr ⟨sub_left_inj.mp x, .inl (sub_lt_sub_iff_right _ |>.mp y)⟩
    · exact .inr ⟨sub_left_inj.mp x, .inr ⟨sub_left_inj.mp y, id⟩⟩
    · exact absurd id apart

theorem take_tazs (parsed : List ParsedRow) (k n : ℕ) :
    (List.range n).foldl (takeTaz parsed (parsed.length / k) (parsed.length % k)) (0, []) =
      (partStart parsed.length k n, (List.range n).map fun i =>
        (i, ((parsed.drop (partStart parsed.length k i)).take
          (partSize parsed.length k i)).map ParsedRow.blockId)) := by
  induction n with
  | zero => simp [partStart]
  | succ n ih =>
    rw [List.range_succ, List.foldl_append, ih, List.foldl_cons, List.foldl_nil, part_start_succ,
      List.map_append]
    rfl

theorem sort_keys_nodup (blocks : (rows.map MortonRow.blockId).Nodup) :
    ((rows.map (parsedRow extent)).map ParsedRow.sortKey).Nodup := by
  refine List.Nodup.of_map (fun key => (ofLex (ofLex (ofLex (ofLex key).2).2).2).2) ?_
  rw [List.map_map, List.map_map]
  exact blocks

/-- The rows in the order in which they are cut. -/
def sortedRows (extent : ExtentMM) (rows : List MortonRow) : List ParsedRow :=
  sortOn ParsedRow.sortKey (rows.map (parsedRow extent))

theorem partition_runs (h : MortonRows text extent rows) {tazCount : ℤ} (pos : 1 ≤ tazCount)
    (enough : tazCount ≤ rows.length) : partitionMortonRows text rows extent tazCount =
      .ok ((List.range tazCount.toNat).map fun i =>
        (i, (((sortedRows extent rows).drop
          (partStart (sortedRows extent rows).length tazCount.toNat i)).take
          (partSize (sortedRows extent rows).length tazCount.toNat i)).map ParsedRow.blockId)) := by
  have wide : exactExtent extent = .ok extent := by
    unfold exactExtent
    refine bind_ok.mpr ⟨(), raise_if_ok.mpr ?_, rfl⟩
    rw [not_or, not_le, not_le]
    exact h.wide
  unfold partitionMortonRows
  refine bind_ok.mpr ⟨_, plain_nonnegative_int_ok.mpr ⟨by omega, rfl⟩, ?_⟩
  refine bind_ok.mpr ⟨(), raise_if_ok.mpr (not_lt.mpr pos), ?_⟩
  rw [wide, ok_bind, read_morton_ok h, ok_bind, read_morton_rows]
  refine bind_ok.mpr ⟨(), raise_if_ok.mpr ?_, ?_⟩
  · rw [List.length_map]
    exact not_lt.mpr enough
  · dsimp only
    rw [take_tazs]
    rfl

theorem MortonRows.perm (h : MortonRows text extent rows) (same : rows.Perm rows') :
    MortonRows text extent rows' where
  wide := h.wide
  ids row mem := h.ids row (same.mem_iff.mpr mem)
  digests row mem := h.digests row (same.mem_iff.mpr mem)
  inside row mem := h.inside row (same.mem_iff.mpr mem)
  blocks := (same.map _).nodup_iff.mp h.blocks
  names := (same.map _).nodup_iff.mp h.names

theorem tazs_of_parts (h : MortonRows text extent rows) {k : ℕ} (pos : 0 < k)
    (enough : k ≤ rows.length) : TazPartition extent rows k ((List.range k).map fun i =>
      (i, (((sortedRows extent rows).drop (partStart (sortedRows extent rows).length k i)).take
        (partSize (sortedRows extent rows).length k i)).map ParsedRow.blockId)) := by
  have perm : (sortedRows extent rows).Perm (rows.map (parsedRow extent)) := sort_on_perm
  have length : (sortedRows extent rows).length = rows.length := by
    rw [perm.length_eq, List.length_map]
  have sorted : (sortedRows extent rows).Pairwise fun a b => a.sortKey < b.sortKey :=
    sort_on_strict (sort_keys_nodup h.blocks)
  have sizes := even_parts_sizes (l := sortedRows extent rows) (k := k) (length ▸ enough)
  have flat := even_parts_flatten (l := sortedRows extent rows) pos
  have order := even_parts_order pos sorted
  unfold evenParts at sizes flat order
  simp only [List.forall_mem_map] at sizes
  refine ⟨?_, ?_, ?_, ?_, ?_⟩
  · rw [List.map_map]
    exact List.map_id _
  · have ids : (rows.map (parsedRow extent)).map ParsedRow.blockId =
        rows.map MortonRow.blockId := List.map_map
    rw [← ids, List.flatMap_map]
    refine .trans ?_ (perm.map ParsedRow.blockId)
    conv_rhs => rw [← flat, List.map_flatten, List.map_map]
    exact .refl _
  · simp only [List.forall_mem_map, ne_eq, List.map_eq_nil_iff]
    exact fun i mem => (sizes i mem).1
  · simp only [List.forall_mem_map, List.length_map]
    exact fun i mem j mem' => (sizes i mem).2 j mem'
  · rw [List.pairwise_map] at order ⊢
    refine order.imp fun {i j} before row mem row' mem' inside inside' => ?_
    -- the blocks of a zone come from the rows with their ids
    have source : ∀ {row : MortonRow} {i : ℕ}, row ∈ rows →
        row.blockId ∈ (((sortedRows extent rows).drop
          (partStart (sortedRows extent rows).length k i)).take
          (partSize (sortedRows extent rows).length k i)).map ParsedRow.blockId →
        parsedRow extent row ∈ ((sortedRows extent rows).drop
          (partStart (sortedRows extent rows).length k i)).take
          (partSize (sortedRows extent rows).length k i) := by
      intro row i mem inside
      obtain ⟨parsed, taken, same⟩ := List.mem_map.mp inside
      have known := perm.mem_iff.mp (List.mem_of_mem_drop (List.mem_of_mem_take taken))
      obtain ⟨other, mem', rfl⟩ := List.mem_map.mp known
      rwa [← List.inj_on_of_nodup_map h.blocks mem' mem same]
    have less := before _ (source mem inside) _ (source mem' inside')
    refine precedes_of_key (fun same => ?_) less
    rw [List.inj_on_of_nodup_map h.names mem mem' same] at less
    exact lt_irrefl _ less

theorem partition_spec (h : MortonRows text extent rows) {tazCount : ℤ} (pos : 1 ≤ tazCount)
    (enough : tazCount ≤ rows.length) :
    ∃ result, partitionMortonRows text rows extent tazCount = .ok result ∧
      TazPartition extent rows tazCount.toNat result ∧
      ∀ rows', rows.Perm rows' → partitionMortonRows text rows' extent tazCount = .ok result := by
  refine ⟨_, partition_runs h pos enough, tazs_of_parts h (by omega) (by omega), ?_⟩
  · intro rows' same
    rw [partition_runs (h.perm same) pos (same.length_eq ▸ enough)]
    unfold sortedRows
    rw [sort_on_eq_of_perm (same.map (parsedRow extent)) (sort_keys_nodup h.blocks)]

end Partition

section Ownership

variable {text : PyText} {rows rows' : List OwnerRow} {coords coords' : Dict ℤ (ℤ × ℤ)} {n : ℤ}

/-- A block claims the node. -/
def Claimed (rows : List OwnerRow) (n : ℤ) : Prop := ∃ row ∈ rows, n ∈ row.accessNodeIds

/-- The square of the distance between two nodes. -/
def apart (coords : Dict ℤ (ℤ × ℤ)) (n a : ℤ) : ℤ :=
  let at_n := (coords.get n).getD (0, 0)
  let at_a := (coords.get a).getD (0, 0)
  (at_n.1 - at_a.1) ^ 2 + (at_n.2 - at_a.2) ^ 2

/-- Blocks that claim nodes, and a map that has all these. -/
structure OwnerRows (text : PyText) (rows : List OwnerRow) (coords : Dict ℤ (ℤ × ℤ)) : Prop where
  some : rows ≠ []
  digests : ∀ row ∈ rows, digestText text row.semanticId "block_semantic_id" = .ok row.semanticId
  names : (rows.map OwnerRow.semanticId).Nodup
  tazs : ∀ row ∈ rows, 0 ≤ row.tazId
  access : ∀ row ∈ rows, (∀ node ∈ row.accessNodeIds, 0 ≤ node) ∧ row.accessNodeIds ≠ [] ∧
    row.accessNodeIds.Nodup
  nodes : (coords.map Prod.fst).Nodup ∧ ∀ item ∈ coords, 0 ≤ item.1
  known : ∀ n, Claimed rows n → n ∈ coords.map Prod.fst

/-- Every node has one owner, by the first block that claims it or else by the nearest node that a
block claims. -/
structure NodeOwnership (rows : List OwnerRow) (coords : Dict ℤ (ℤ × ℤ))
    (owners : List (ℤ × ℤ)) (conflicts : List (ℤ × List (String × ℤ) × ℤ)) : Prop where
  once : (owners.map Prod.fst).Nodup ∧ ∀ n, n ∈ owners.map Prod.fst ↔ n ∈ coords.map Prod.fst
  access : ∀ n taz, (n, taz) ∈ owners → Claimed rows n →
    ∃ row ∈ rows, n ∈ row.accessNodeIds ∧ row.tazId = taz ∧
      ∀ other ∈ rows, n ∈ other.accessNodeIds → row.semanticId ≤ other.semanticId
  nearest : ∀ n taz, (n, taz) ∈ owners → ¬Claimed rows n →
    ∃ a, Claimed rows a ∧ (a, taz) ∈ owners ∧
      ∀ b, Claimed rows b → toLex (apart coords n a, a) ≤ toLex (apart coords n b, b)
  disputed : (conflicts.map Prod.fst).Nodup ∧ ∀ n, n ∈ conflicts.map Prod.fst ↔
    ∃ row ∈ rows, ∃ row' ∈ rows, row.semanticId ≠ row'.semanticId ∧
      n ∈ row.accessNodeIds ∧ n ∈ row'.accessNodeIds
  entries : ∀ conflict ∈ conflicts, (conflict.1, conflict.2.2) ∈ owners ∧
    ∀ claim, claim ∈ conflict.2.1 ↔
      ∃ row ∈ rows, conflict.1 ∈ row.accessNodeIds ∧ claim = (row.semanticId, row.tazId)

/-- All claims, in the order in which they are read. -/
def claimsOf (rows : List OwnerRow) : List (ℤ × String × ℤ) :=
  rows.flatMap fun row => row.accessNodeIds.map fun node => (node, row.semanticId, row.tazId)

theorem mem_claims_of {claim : String × ℤ} : (n, claim) ∈ claimsOf rows ↔
    ∃ row ∈ rows, n ∈ row.accessNodeIds ∧ claim = (row.semanticId, row.tazId) := by
  unfold claimsOf
  simp only [List.mem_flatMap, List.mem_map, Prod.mk.injEq]
  constructor
  · rintro ⟨row, mem, node, listed, rfl, rfl⟩
    exact ⟨row, mem, listed, rfl⟩
  · rintro ⟨row, mem, listed, rfl⟩
    exact ⟨row, mem, n, listed, rfl, rfl⟩

theorem claimed_iff : Claimed rows n ↔ n ∈ (claimsOf rows).map Prod.fst := by
  unfold Claimed
  rw [List.mem_map]
  constructor
  · rintro ⟨row, mem, listed⟩
    exact ⟨_, mem_claims_of.mpr ⟨row, mem, listed, rfl⟩, rfl⟩
  · rintro ⟨⟨n, claim⟩, listed, rfl⟩
    obtain ⟨row, mem, access, -⟩ := mem_claims_of.mp listed
    exact ⟨row, mem, access⟩

/-- The claims on a node, the least semantic id first. -/
def claimsOn (rows : List OwnerRow) (n : ℤ) : List (String × ℤ) :=
  sortOn toLex (Dict.valuesAt (claimsOf rows) n)

def winnerOf (rows : List OwnerRow) (n : ℤ) : ℤ := ((claimsOn rows n).head?.map Prod.snd).getD 0

def claimedNodes (rows : List OwnerRow) : List ℤ :=
  sortOn id ((claimsOf rows).map Prod.fst).dedup

def ownedNodesOf (rows : List OwnerRow) (coords : Dict ℤ (ℤ × ℤ)) : List (ℤ × (ℤ × ℤ) × ℤ) :=
  (claimedNodes rows).map fun n => (n, (coords.get n).getD (0, 0), winnerOf rows n)

def nearestTaz (rows : List OwnerRow) (coords : Dict ℤ (ℤ × ℤ)) (n : ℤ) : ℤ :=
  let place := (coords.get n).getD (0, 0)
  ((sortOn (nearestKey place.1 place.2) (ownedNodesOf rows coords)).head?.map
    fun best => best.2.2).getD 0

def allOwners (rows : List OwnerRow) (coords : Dict ℤ (ℤ × ℤ)) : List (ℤ × ℤ) :=
  (claimedNodes rows).map (fun n => (n, winnerOf rows n)) ++
    ((sortOn id (coords.map Prod.fst)).filter (· ∉ claimedNodes rows)).map fun n =>
      (n, nearestTaz rows coords n)

def conflictsOf (rows : List OwnerRow) : List (ℤ × List (String × ℤ) × ℤ) :=
  ((claimedNodes rows).filter fun n => 2 ≤ (claimsOn rows n).length).map fun n =>
    (n, claimsOn rows n, winnerOf rows n)

theorem mem_claimed_nodes : n ∈ claimedNodes rows ↔ Claimed rows n := by
  unfold claimedNodes
  rw [mem_sort_on, List.mem_dedup, claimed_iff]

theorem claimed_nodes_nodup : (claimedNodes rows).Nodup :=
  sort_on_perm.nodup_iff.mpr (List.nodup_dedup _)

theorem add_claims {d : Dict ℤ (List (String × ℤ))} {entries : List (ℤ × String × ℤ)}
    (h : Dict.Groups d entries) (nodes : List ℤ) (claim : String × ℤ) :
    Dict.Groups (nodes.foldl (fun d node => d.appendAt node claim) d)
      (entries ++ nodes.map fun node => (node, claim)) := by
  induction nodes generalizing d entries with
  | nil => simpa using h
  | cons node nodes ih =>
    rw [List.foldl_cons, List.map_cons, List.append_cons]
    exact ih h.append_at

theorem read_claims (rows : List OwnerRow) :
    Dict.Groups (rows.foldl OwnerClaims.add {}).candidates (claimsOf rows) ∧
    (rows.foldl OwnerClaims.add {}).semanticIds = (rows.map OwnerRow.semanticId).toFinset ∧
    (rows.foldl OwnerClaims.add {}).visitCount =
      (rows.map fun row => row.accessNodeIds.length).sum := by
  induction rows using List.reverseRecOn with
  | nil => exact ⟨.nil, rfl, rfl⟩
  | append_singleton rows row ih =>
    obtain ⟨groups, ids, visits⟩ := ih
    rw [List.foldl_append, List.foldl_cons, List.foldl_nil]
    refine ⟨?_, ?_, ?_⟩
    · have split : claimsOf (rows ++ [row]) = claimsOf rows ++
          row.accessNodeIds.map fun node => (node, row.semanticId, row.tazId) := by
        unfold claimsOf
        rw [List.flatMap_append, List.flatMap_singleton]
      rw [split]
      exact add_claims groups _ _
    · change insert row.semanticId (rows.foldl OwnerClaims.add {}).semanticIds = _
      rw [ids]
      ext
      simp
    · change (rows.foldl OwnerClaims.add {}).visitCount + row.accessNodeIds.length = _
      rw [visits]
      simp

theorem read_owner_rows (h : OwnerRows text rows coords) :
    rows.foldlM (readOwnerRow text) {} = .ok (rows.foldl OwnerClaims.add {}) := by
  obtain ⟨s, run, rfl⟩ := fold_total (f := readOwnerRow text) (l := rows) (s := {})
    (I := fun past s => s = past.foldl OwnerClaims.add {}) (by
    rintro past row rest s split rfl
    have listed : row ∈ rows := by simp [split]
    obtain ⟨nonneg, some, distinct⟩ := h.access row listed
    refine ⟨_, ?_, by rw [List.foldl_append, List.foldl_cons, List.foldl_nil]⟩
    unfold readOwnerRow
    refine bind_ok.mpr ⟨_, h.digests row listed, ?_⟩
    refine bind_ok.mpr ⟨(), raise_if_ok.mpr ?_, ?_⟩
    · have names := h.names
      rw [split, List.map_append, List.map_cons] at names
      rw [(read_claims past).2.1, List.mem_toFinset]
      exact fun seen => (List.nodup_append.mp names).2.2 _ seen _ List.mem_cons_self rfl
    · refine bind_ok.mpr ⟨_, plain_nonnegative_int_ok.mpr ⟨h.tazs row listed, rfl⟩, ?_⟩
      refine bind_ok.mpr ⟨_, plain_members.mpr ⟨nonneg, rfl⟩, ?_⟩
      refine bind_ok.mpr ⟨(), raise_if_ok.mpr ?_, rfl⟩
      rw [not_or, not_not]
      exact ⟨some, distinct⟩) rfl
  exact run

theorem coordinates_read (h : OwnerRows text rows coords) :
    coords.foldlM readCoordinate [] = .ok coords := by
  have plain : ∀ (todo d : Dict ℤ (ℤ × ℤ)), (∀ item ∈ todo, 0 ≤ item.1) →
      todo.foldlM readCoordinate d = .ok (d.update todo) := by
    intro todo
    induction todo with
    | nil => exact fun d _ => rfl
    | cons item todo ih =>
      intro d nonneg
      obtain ⟨here, later⟩ := List.forall_mem_cons.mp nonneg
      rw [List.foldlM_cons]
      refine bind_ok.mpr ⟨d.set item.1 item.2, bind_ok.mpr ⟨item.1,
        plain_nonnegative_int_ok.mpr ⟨here, rfl⟩, rfl⟩, ih _ later⟩
  rw [plain coords [] h.nodes.2, Dict.update_fresh h.nodes.1 (by simp), List.nil_append]

theorem claims_on_claimed (claimed : Claimed rows n) : claimsOn rows n ≠ [] := by
  obtain ⟨row, mem, access⟩ := claimed
  have listed : (row.semanticId, row.tazId) ∈ claimsOn rows n :=
    mem_sort_on.mpr (Dict.mem_values_at.mpr (mem_claims_of.mpr ⟨row, mem, access, rfl⟩))
  exact List.ne_nil_of_mem listed

theorem own_access_nodes {candidates : Dict ℤ (List (String × ℤ))}
    (groups : Dict.Groups candidates (claimsOf rows)) (nodes : List ℤ)
    (claimed : ∀ n ∈ nodes, Claimed rows n) :
    nodes.foldlM (ownAccessNode candidates) {} = .ok {
      owners := nodes.map fun n => (n, winnerOf rows n)
      conflicts := (nodes.filter fun n => 2 ≤ (claimsOn rows n).length).map fun n =>
        (n, claimsOn rows n, winnerOf rows n) } := by
  induction nodes using List.reverseRecOn with
  | nil => rfl
  | append_singleton nodes n ih =>
    obtain ⟨before, here⟩ := List.forall_mem_append.mp claimed
    rw [List.foldlM_append, ih before, ok_bind, List.foldlM_cons]
    have ordered : sortOn toLex ((candidates.get n).getD []) = claimsOn rows n := by
      rw [groups.get]
      rfl
    refine bind_ok.mpr ⟨_, ?_, rfl⟩
    unfold ownAccessNode winnerOf
    rw [ordered]
    cases claims : claimsOn rows n with
    | nil => exact absurd claims (claims_on_claimed (here n (List.mem_singleton_self n)))
    | cons first rest =>
      rw [List.map_append, List.filter_append, List.map_append]
      cases rest with
      | nil => simp [claims]
      | cons second rest => simp [claims]

theorem own_other_nodes {owned : List (ℤ × (ℤ × ℤ) × ℤ)} (some : owned ≠ []) (nodes : List ℤ)
    (known : ∀ n ∈ nodes, n ∈ coords.map Prod.fst) (owners : List (ℤ × ℤ)) :
    nodes.foldlM (ownOtherNode coords owned) owners = .ok (owners ++ nodes.map fun n =>
      (n, ((sortOn (nearestKey ((coords.get n).getD (0, 0)).1 ((coords.get n).getD (0, 0)).2)
        owned).head?.map fun best => best.2.2).getD 0)) := by
  induction nodes generalizing owners with
  | nil =>
    rw [List.map_nil, List.append_nil]
    rfl
  | cons n nodes ih =>
    obtain ⟨here, later⟩ := List.forall_mem_cons.mp known
    obtain ⟨place, found⟩ := Dict.mem_keys_iff.mp here
    have near : (sortOn (nearestKey place.1 place.2) owned).head? ≠ none :=
      fun none => some (sort_on_head_none.mp none)
    obtain ⟨best, first⟩ := Option.ne_none_iff_exists'.mp near
    rw [List.foldlM_cons]
    refine bind_ok.mpr ⟨owners ++ [(n, best.2.2)], ?_, ?_⟩
    · unfold ownOtherNode
      rw [found]
      dsimp only
      rw [first]
    · rw [ih later, List.map_cons, found, Option.getD_some, first, List.append_assoc]
      rfl

theorem mem_owned_nodes {item : ℤ × (ℤ × ℤ) × ℤ} : item ∈ ownedNodesOf rows coords ↔
    ∃ a, Claimed rows a ∧ (a, (coords.get a).getD (0, 0), winnerOf rows a) = item := by
  unfold ownedNodesOf
  simp only [List.mem_map, mem_claimed_nodes]

theorem some_claimed (h : OwnerRows text rows coords) : ∃ n, Claimed rows n := by
  obtain ⟨row, mem⟩ := List.exists_mem_of_ne_nil _ h.some
  obtain ⟨n, access⟩ := List.exists_mem_of_ne_nil _ (h.access row mem).2.1
  exact ⟨n, row, mem, access⟩

theorem ownership_runs (h : OwnerRows text rows coords) :
    nodeTazOwnershipFromIndex text rows coords = .ok (sortOn Prod.fst (allOwners rows coords),
      conflictsOf rows, (rows.map fun row => row.accessNodeIds.length).sum) := by
  obtain ⟨groups, -, visits⟩ := read_claims rows
  have keys : sortOn id ((rows.foldl OwnerClaims.add {}).candidates.map Prod.fst) =
      claimedNodes rows := by
    refine sort_on_eq_of_perm ?_ (by rw [List.map_id]; exact groups.distinct)
    rw [List.perm_ext_iff_of_nodup groups.distinct (List.nodup_dedup _)]
    intro n
    rw [groups.keys, List.mem_dedup]
  have names : ((claimedNodes rows).map fun n => (n, winnerOf rows n)).map Prod.fst =
      claimedNodes rows := by
    rw [List.map_map]
    exact List.map_id _
  have sorted : sortOn id (claimedNodes rows) = claimedNodes rows :=
    sort_on_eq_self sort_on_sorted
  have claimed : ∀ n ∈ claimedNodes rows, Claimed rows n := fun n => mem_claimed_nodes.mp
  obtain ⟨a, here⟩ := some_claimed h
  unfold nodeTazOwnershipFromIndex
  rw [coordinates_read h, ok_bind, read_owner_rows h, ok_bind, keys,
    own_access_nodes groups _ claimed, ok_bind]
  dsimp only
  rw [names, sorted, visits]
  refine bind_ok.mpr ⟨(), raise_if_ok.mpr ?_, bind_ok.mpr ⟨(), raise_if_ok.mpr ?_, ?_⟩⟩
  · rw [not_not, List.filter_eq_nil_iff]
    intro n listed
    rw [decide_eq_true_eq, not_not]
    exact h.known n (claimed n listed)
  · rintro ⟨-, none⟩
    rw [List.map_eq_nil_iff] at none
    have listed := mem_claimed_nodes.mpr here
    rw [none] at listed
    cases listed
  · have owned : ((claimedNodes rows).map fun n => (n, (coords.get n).getD (0, 0),
        (Dict.get ((claimedNodes rows).map fun n => (n, winnerOf rows n)) n).getD 0)) =
        ownedNodesOf rows coords := by
      refine List.map_congr_left fun n listed => ?_
      have won : Dict.get ((claimedNodes rows).map fun n => (n, winnerOf rows n)) n =
          some (winnerOf rows n) := by
        rw [Dict.get_eq_some_iff (by rw [names]; exact claimed_nodes_nodup)]
        exact List.mem_map_of_mem listed
      rw [won, Option.getD_some]
    rw [owned]
    have some : ownedNodesOf rows coords ≠ [] :=
      List.ne_nil_of_mem (mem_owned_nodes.mpr ⟨a, here, rfl⟩)
    rw [own_other_nodes some, ok_bind]
    · rfl
    · intro n kept
      exact mem_sort_on.mp (List.mem_of_mem_filter kept)

theorem owner_iff {taz : ℤ} :
    (n, taz) ∈ sortOn Prod.fst (allOwners rows coords) ↔
      Claimed rows n ∧ taz = winnerOf rows n ∨
      ¬Claimed rows n ∧ n ∈ coords.map Prod.fst ∧ taz = nearestTaz rows coords n := by
  rw [mem_sort_on]
  unfold allOwners
  simp only [List.mem_append, List.mem_map, Prod.mk.injEq, List.mem_filter, decide_eq_true_eq,
    mem_claimed_nodes]
  constructor
  · rintro (⟨n, claimed, rfl, rfl⟩ | ⟨n, ⟨listed, apart⟩, rfl, rfl⟩)
    · exact .inl ⟨claimed, rfl⟩
    · exact .inr ⟨apart, List.mem_map.mp (mem_sort_on.mp listed), rfl⟩
  · rintro (⟨claimed, rfl⟩ | ⟨apart, listed, rfl⟩)
    · exact .inl ⟨n, claimed, rfl, rfl⟩
    · exact .inr ⟨n, ⟨mem_sort_on.mpr (List.mem_map.mpr listed), apart⟩, rfl, rfl⟩

theorem owners_once (h : OwnerRows text rows coords) :
    (((sortOn Prod.fst (allOwners rows coords)).map Prod.fst).Nodup) ∧
    ∀ n, n ∈ (sortOn Prod.fst (allOwners rows coords)).map Prod.fst ↔ n ∈ coords.map Prod.fst := by
  have names : (allOwners rows coords).map Prod.fst = claimedNodes rows ++
      (sortOn id (coords.map Prod.fst)).filter (· ∉ claimedNodes rows) := by
    unfold allOwners
    rw [List.map_append, List.map_map, List.map_map]
    exact congrArg₂ _ (List.map_id _) (List.map_id _)
  constructor
  · rw [(sort_on_perm.map Prod.fst).nodup_iff, names]
    refine List.Nodup.append claimed_nodes_nodup
      (List.Nodup.filter _ (sort_on_perm.nodup_iff.mpr h.nodes.1)) ?_
    intro n claimed kept
    exact of_decide_eq_true (List.mem_filter.mp kept).2 claimed
  · intro n
    rw [(sort_on_perm.map Prod.fst).mem_iff, names, List.mem_append, List.mem_filter,
      decide_eq_true_eq, mem_claimed_nodes, mem_sort_on]
    constructor
    · rintro (claimed | ⟨listed, -⟩)
      · exact h.known n claimed
      · exact listed
    · intro listed
      by_cases claimed : Claimed rows n
      · exact .inl claimed
      · exact .inr ⟨listed, claimed⟩

theorem mem_claims_on {claim : String × ℤ} : claim ∈ claimsOn rows n ↔
    ∃ row ∈ rows, n ∈ row.accessNodeIds ∧ claim = (row.semanticId, row.tazId) := by
  unfold claimsOn
  rw [mem_sort_on, Dict.mem_values_at, mem_claims_of]

theorem winner_spec (claimed : Claimed rows n) :
    ∃ row ∈ rows, n ∈ row.accessNodeIds ∧ row.tazId = winnerOf rows n ∧
      ∀ other ∈ rows, n ∈ other.accessNodeIds → row.semanticId ≤ other.semanticId := by
  have some : (claimsOn rows n).head? ≠ none :=
    fun none => claims_on_claimed claimed (List.head?_eq_none_iff.mp none)
  obtain ⟨first, head⟩ := Option.ne_none_iff_exists'.mp some
  obtain ⟨listed, least⟩ := sort_on_head head
  obtain ⟨row, mem, access, rfl⟩ := mem_claims_of.mp (Dict.mem_values_at.mp listed)
  refine ⟨row, mem, access, ?_, fun other mem' access' => ?_⟩
  · unfold winnerOf
    rw [head]
    rfl
  · have below := least _ (Dict.mem_values_at.mpr (mem_claims_of.mpr ⟨other, mem', access', rfl⟩))
    exact (Prod.Lex.toLex_le_toLex.mp below).elim le_of_lt fun same => le_of_eq same.1

theorem nearest_spec (h : OwnerRows text rows coords) :
    ∃ a, Claimed rows a ∧ winnerOf rows a = nearestTaz rows coords n ∧
      ∀ b, Claimed rows b → toLex (apart coords n a, a) ≤ toLex (apart coords n b, b) := by
  obtain ⟨b, claimed⟩ := some_claimed h
  have some : (sortOn (nearestKey ((coords.get n).getD (0, 0)).1 ((coords.get n).getD (0, 0)).2)
      (ownedNodesOf rows coords)).head? ≠ none := fun none =>
    List.ne_nil_of_mem (mem_owned_nodes.mpr ⟨b, claimed, rfl⟩) (sort_on_head_none.mp none)
  obtain ⟨best, head⟩ := Option.ne_none_iff_exists'.mp some
  obtain ⟨listed, least⟩ := sort_on_head head
  obtain ⟨a, won, rfl⟩ := mem_owned_nodes.mp listed
  refine ⟨a, won, ?_, fun b claimed => ?_⟩
  · unfold nearestTaz
    dsimp only
    rw [head]
    rfl
  · have below := least _ (mem_owned_nodes.mpr ⟨b, claimed, rfl⟩)
    unfold nearestKey at below
    rw [Prod.Lex.toLex_le_toLex] at below ⊢
    refine below.imp id (And.imp id fun later => ?_)
    exact (Prod.Lex.toLex_le_toLex.mp later).elim le_of_lt fun same => le_of_eq same.1

theorem claims_on_nodup (h : OwnerRows text rows coords) : (claimsOn rows n).Nodup := by
  have distinct : (claimsOf rows).Nodup := by
    unfold claimsOf
    refine List.nodup_flatMap.mpr ⟨fun row mem => ?_, ?_⟩
    · exact (h.access row mem).2.2.map fun a b same => congrArg Prod.fst same
    · refine (List.pairwise_map.mp h.names).imp fun {row row'} apart => ?_
      intro claim claimed claimed'
      obtain ⟨_, -, rfl⟩ := List.mem_map.mp claimed
      obtain ⟨_, -, same⟩ := List.mem_map.mp claimed'
      exact apart (congrArg (fun claim => claim.2.1) same).symm
  refine sort_on_perm.nodup_iff.mpr ?_
  refine (distinct.filter _).map_on fun claim kept claim' kept' same => ?_
  have first := of_decide_eq_true (List.mem_filter.mp kept).2
  have second := of_decide_eq_true (List.mem_filter.mp kept').2
  exact Prod.ext (first.trans second.symm) same

theorem disputed_iff (h : OwnerRows text rows coords) : 2 ≤ (claimsOn rows n).length ↔
    ∃ row ∈ rows, ∃ row' ∈ rows, row.semanticId ≠ row'.semanticId ∧
      n ∈ row.accessNodeIds ∧ n ∈ row'.accessNodeIds := by
  have members : ∀ claim, claim ∈ claimsOn rows n ↔ ∃ row ∈ rows, n ∈ row.accessNodeIds ∧
      claim = (row.semanticId, row.tazId) := fun claim => mem_claims_on
  have distinct := claims_on_nodup (n := n) h
  constructor
  · intro several
    match claims : claimsOn rows n with
    | [] | [_] => simp [claims] at several
    | first :: second :: rest =>
      rw [claims] at distinct members
      obtain ⟨row, mem, access, rfl⟩ := (members first).mp List.mem_cons_self
      obtain ⟨row', mem', access', rfl⟩ :=
        (members second).mp (List.mem_cons_of_mem _ List.mem_cons_self)
      refine ⟨row, mem, row', mem', fun same => ?_, access, access'⟩
      rw [List.inj_on_of_nodup_map h.names mem mem' same] at distinct
      exact (List.nodup_cons.mp distinct).1 List.mem_cons_self
  · rintro ⟨row, mem, row', mem', apart, access, access'⟩
    have first := (members _).mpr ⟨row, mem, access, rfl⟩
    have second := (members _).mpr ⟨row', mem', access', rfl⟩
    match claims : claimsOn rows n with
    | [] => simp [claims] at first
    | [only] =>
      rw [claims, List.mem_singleton] at first second
      exact absurd (congrArg Prod.fst (first.trans second.symm)) apart
    | _ :: _ :: rest => simp

theorem node_ownership (h : OwnerRows text rows coords) :
    NodeOwnership rows coords (sortOn Prod.fst (allOwners rows coords)) (conflictsOf rows) := by
  have disputed : (conflictsOf rows).map Prod.fst =
      (claimedNodes rows).filter fun n => 2 ≤ (claimsOn rows n).length := by
    unfold conflictsOf
    rw [List.map_map]
    exact List.map_id _
  refine ⟨owners_once h, ?_, ?_, ?_, ?_⟩
  · intro n taz listed claimed
    obtain ⟨-, rfl⟩ | ⟨unclaimed, -⟩ := owner_iff.mp listed
    · exact winner_spec claimed
    · exact absurd claimed unclaimed
  · intro n taz listed unclaimed
    obtain ⟨claimed, -⟩ | ⟨-, -, rfl⟩ := owner_iff.mp listed
    · exact absurd claimed unclaimed
    · obtain ⟨a, claimed, won, least⟩ := nearest_spec (n := n) h
      exact ⟨a, claimed, owner_iff.mpr (.inl ⟨claimed, won.symm⟩), least⟩
  · refine ⟨disputed ▸ claimed_nodes_nodup.filter _, fun n => ?_⟩
    rw [disputed, List.mem_filter, decide_eq_true_eq, mem_claimed_nodes, disputed_iff h]
    refine ⟨And.right, fun two => ⟨?_, two⟩⟩
    obtain ⟨row, mem, -, -, -, access, -⟩ := two
    exact ⟨row, mem, access⟩
  · intro conflict listed
    obtain ⟨n, kept, rfl⟩ := List.mem_map.mp listed
    have claimed := mem_claimed_nodes.mp (List.mem_of_mem_filter kept)
    exact ⟨owner_iff.mpr (.inl ⟨claimed, rfl⟩), fun claim => mem_claims_on⟩

theorem OwnerRows.perm (h : OwnerRows text rows coords) (same : rows.Perm rows')
    (items : coords.Perm coords') : OwnerRows text rows' coords' where
  some := fun none => h.some (List.Perm.nil_eq (none ▸ same.symm)).symm
  digests row mem := h.digests row (same.mem_iff.mpr mem)
  names := (same.map _).nodup_iff.mp h.names
  tazs row mem := h.tazs row (same.mem_iff.mpr mem)
  access row mem := h.access row (same.mem_iff.mpr mem)
  nodes := ⟨(items.map _).nodup_iff.mp h.nodes.1, fun item mem =>
    h.nodes.2 item (items.mem_iff.mpr mem)⟩
  known := by
    rintro n ⟨row, mem, access⟩
    exact (items.map _).mem_iff.mp (h.known n ⟨row, same.mem_iff.mpr mem, access⟩)

theorem ownership_perm (h : OwnerRows text rows coords) (same : rows.Perm rows')
    (items : coords.Perm coords') : nodeTazOwnershipFromIndex text rows' coords' =
      nodeTazOwnershipFromIndex text rows coords := by
  have entries : (claimsOf rows).Perm (claimsOf rows') := same.flatMap_right _
  have claims : claimsOn rows' = claimsOn rows := by
    funext n
    refine (sort_on_eq_of_perm ((entries.filter _).map Prod.snd) ?_).symm
    exact (sort_on_perm.nodup_iff.mp (claims_on_nodup h)).map toLex.injective
  have winners : winnerOf rows' = winnerOf rows := by
    unfold winnerOf
    rw [claims]
  have nodes : claimedNodes rows' = claimedNodes rows := by
    refine (sort_on_eq_of_perm ((entries.map Prod.fst).dedup) ?_).symm
    rw [List.map_id]
    exact List.nodup_dedup _
  have places : (coords'.get ·) = (coords.get ·) := by
    funext n
    exact (Dict.get_of_perm items h.nodes.1).symm
  have owned : ownedNodesOf rows' coords' = ownedNodesOf rows coords := by
    unfold ownedNodesOf
    simp only [nodes, winners, congrFun places]
  have nearest : nearestTaz rows' coords' = nearestTaz rows coords := by
    unfold nearestTaz
    simp only [owned, congrFun places]
  have others : sortOn id (coords'.map Prod.fst) = sortOn id (coords.map Prod.fst) := by
    refine (sort_on_eq_of_perm (items.map Prod.fst) ?_).symm
    rw [List.map_id]
    exact h.nodes.1
  rw [ownership_runs h, ownership_runs (h.perm same items)]
  unfold allOwners conflictsOf
  rw [nodes, winners, claims, others, nearest, (same.map _).sum_eq]

end Ownership

section Zones

/-- The zones are cut along the order of the quadrants, and every node is owned by one of them. -/
theorem zones_partitioned_and_owned {text : PyText} {rows : List MortonRow} {extent : ExtentMM}
    {tazCount : ℤ} {owning : List OwnerRow} {coords : Dict ℤ (ℤ × ℤ)}
    (blocks : MortonRows text extent rows) (pos : 1 ≤ tazCount) (enough : tazCount ≤ rows.length)
    (claims : OwnerRows text owning coords) :
    (∃ result, partitionMortonRows text rows extent tazCount = .ok result ∧
      TazPartition extent rows tazCount.toNat result ∧
      ∀ rows', rows.Perm rows' → partitionMortonRows text rows' extent tazCount = .ok result) ∧
    ∃ owners conflicts visits,
      nodeTazOwnershipFromIndex text owning coords = .ok (owners, conflicts, visits) ∧
      NodeOwnership owning coords owners conflicts ∧
      ∀ owning' coords', owning.Perm owning' → coords.Perm coords' →
        nodeTazOwnershipFromIndex text owning' coords' = .ok (owners, conflicts, visits) := by
  refine ⟨partition_spec blocks pos enough, _, _, _, ownership_runs claims,
    node_ownership claims, fun owning' coords' same items => ?_⟩
  rw [ownership_perm claims same items]
  exact ownership_runs claims

def threeBlocks : List MortonRow :=
  [⟨7, String.ofList (List.replicate 64 'a'), (7 / 2, 3)⟩,
    ⟨5, String.ofList (List.replicate 64 'b'), (1, 2)⟩,
    ⟨6, String.ofList (List.replicate 64 'c'), (13 / 4, 3)⟩]

/-- Two blocks that both claim node 1, and no block claims node 3. -/
def twoOwners : List OwnerRow :=
  [⟨String.ofList (List.replicate 64 'b'), 1, [1, 2]⟩,
    ⟨String.ofList (List.replicate 64 'a'), 0, [1]⟩]

theorem three_blocks_partitioned_and_owned :
    (∃ result, partitionMortonRows plainText threeBlocks ⟨0, 0, 4, 4⟩ 2 = .ok result ∧
      TazPartition ⟨0, 0, 4, 4⟩ threeBlocks 2 result ∧
      ∀ rows', threeBlocks.Perm rows' →
        partitionMortonRows plainText rows' ⟨0, 0, 4, 4⟩ 2 = .ok result) ∧
    ∃ owners conflicts visits,
      nodeTazOwnershipFromIndex plainText twoOwners [(3, (5, 5)), (1, (0, 0)), (2, (9, 9))] =
        .ok (owners, conflicts, visits) ∧
      NodeOwnership twoOwners [(3, (5, 5)), (1, (0, 0)), (2, (9, 9))] owners conflicts ∧
      ∀ owning' coords', twoOwners.Perm owning' →
        List.Perm [(3, (5, 5)), (1, (0, 0)), (2, (9, 9))] coords' →
        nodeTazOwnershipFromIndex plainText owning' coords' = .ok (owners, conflicts, visits) :=
  zones_partitioned_and_owned
    { wide := by decide
      ids := by decide
      digests := by
        simp only [threeBlocks, List.forall_mem_cons, List.not_mem_nil, false_imp_iff,
          implies_true, and_true]
        refine ⟨?_, ?_, ?_⟩ <;> exact plain_digest_text _ rfl (by decide) (by decide)
      inside := by decide +kernel
      blocks := by decide
      names := by decide +kernel }
    (by decide) (by decide)
    { some := by decide
      digests := by
        simp only [twoOwners, List.forall_mem_cons, List.not_mem_nil, false_imp_iff,
          implies_true, and_true]
        refine ⟨?_, ?_⟩ <;> exact plain_digest_text _ rfl (by decide) (by decide)
      names := by decide +kernel
      tazs := by decide
      access := by decide
      nodes := by decide
      known := by
        rintro n ⟨row, listed, access⟩
        have some : ∀ row ∈ twoOwners, ∀ n ∈ row.accessNodeIds, n ∈ [3, 1, 2] := by decide
        exact some row listed n access }

end Zones

end Metroflow.City.Taz
