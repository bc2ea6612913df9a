import Metroflow.City.ChannelApportionment
import Metroflow.Lib.Intake
import Metroflow.Lib.Rounding

namespace Metroflow.City.LandUse

open Metroflow.Lib

section Model

inductive V2LandUseType where
  | residential
  | commercial
  | industrial
  | mixedUse
  deriving DecidableEq, Repr

structure FeatureRow where
  blockId : ℤ
  semanticId : String
  centrality : ℚ
  intensity : ℚ
  exposure : ℚ
  deriving DecidableEq

/-- The rows read so far. -/
structure ParsedFeatures where
  parsed : List FeatureRow := []
  blockIds : Finset ℤ := ∅
  semanticIds : Finset String := ∅

def ParsedFeatures.add (s : ParsedFeatures) (row : FeatureRow) : ParsedFeatures where
  parsed := s.parsed ++ [row]
  blockIds := insert row.blockId s.blockIds
  semanticIds := insert row.semanticId s.semanticIds

def parseFeatureRow (text : PyText) (s : ParsedFeatures) (row : FeatureRow) :
    Except String ParsedFeatures := do
  let blockId ← plainNonnegativeInt row.blockId "block_id"
  let semanticId ← digestText text row.semanticId "block_semantic_id"
  raiseIf (blockId ∈ s.blockIds ∨ semanticId ∈ s.semanticIds)
    "feature rows require unique block and semantic IDs"
  [row.centrality, row.intensity, row.exposure].forM fun value =>
    raiseIf (value < 0 ∨ 1 < value) "feature values must be finite and in [0, 1]"
  return s.add row

/-- How many blocks become commercial, industrial, mixed and residential. -/
def landUseCounts (blockCount : ℤ) : Except String (ℤ × ℤ × ℤ × ℤ) := do
  let blockCount ← plainNonnegativeInt blockCount "block_count"
  let commercial := max 1 (roundHalfEven (12 * blockCount / 100))
  let industrial := max 1 (roundHalfEven (12 * blockCount / 100))
  let mixed := max 1 (roundHalfEven (23 * blockCount / 100))
  let residential := blockCount - commercial - industrial - mixed
  raiseIf (residential < 1) "block count cannot retain all four land-use types"
  return (commercial, industrial, mixed, residential)

structure Frontage where
  adjacency : Dict ℤ (List ℤ)
  roadIds : Finset ℤ := ∅
  visitCount : ℕ := 0

/-- `adjacency[member].update(other for other in members if other != member)` -/
def meetOthers (members : List ℤ) (adjacency : Dict ℤ (List ℤ)) (member : ℤ) :
    Dict ℤ (List ℤ) :=
  adjacency.set member
    ((adjacency.get member).getD [] ∪ members.filter fun other => other ≠ member)

def Frontage.add (s : Frontage) (row : ℤ × List ℤ) : Frontage where
  adjacency := row.2.foldl (meetOthers row.2) s.adjacency
  roadIds := insert row.1 s.roadIds
  visitCount := s.visitCount + row.2.length

def addRoad (blockIds : Finset ℤ) (s : Frontage) (row : ℤ × List ℤ) : Except String Frontage := do
  let roadId ← plainNonnegativeInt row.1 "road id"
  raiseIf (roadId ∈ s.roadIds) "road reverse-index IDs must be unique"
  let members ← row.2.mapM fun value => plainNonnegativeInt value "road member block id"
  raiseIf (¬members.Nodup) "road reverse-index members must be unique"
  raiseIf (∃ member ∈ members, member ∉ blockIds)
    "road reverse index references a non-developable block"
  return s.add (roadId, members)

/-- The blocks that share a road with each block, and how many road members were read. -/
def frontageAdjacencyFromIndex (developableBlockIds : List ℤ)
    (roadToBlockIds : List (ℤ × List ℤ)) : Except String (List (ℤ × List ℤ) × ℕ) := do
  let blockIds ← developableBlockIds.mapM fun value =>
    plainNonnegativeInt value "developable block id"
  raiseIf (¬blockIds.Nodup) "developable block IDs must be unique"
  let s ← roadToBlockIds.foldlM (addRoad blockIds.toFinset)
    { adjacency := blockIds.map fun blockId => (blockId, []) }
  return ((sortOn id blockIds).map fun blockId =>
    (blockId, sortOn id ((s.adjacency.get blockId).getD [])), s.visitCount)

def exactScore (values coefficients : List ℚ) : ℚ :=
  (List.zipWith (fun value coefficient => coefficient * value) values coefficients).sum

def commercialScore (row : FeatureRow) : ℚ :=
  exactScore [row.centrality, row.intensity, row.exposure] [55 / 100, 30 / 100, 15 / 100]

def industrialScore (row : FeatureRow) : ℚ :=
  50 / 100 * row.exposure + 35 / 100 * (1 - row.centrality) + 15 / 100 * (1 - row.intensity)

def mixedScore (row : FeatureRow) : ℚ :=
  exactScore [row.centrality, row.intensity, row.exposure] [45 / 100, 35 / 100, 20 / 100]

/-- The best score first, and among equal scores the first semantic id. -/
def rankedRows (rows : List FeatureRow) (candidates : Finset ℤ) (score : FeatureRow → ℚ) :
    List FeatureRow :=
  sortOn (fun row => toLex (-score row, row.semanticId))
    (rows.filter fun row => row.blockId ∈ candidates)

def ranked (rows : List FeatureRow) (candidates : Finset ℤ) (score : FeatureRow → ℚ) : List ℤ :=
  (rankedRows rows candidates score).map FeatureRow.blockId

structure LandUseSets where
  commercialIds : Finset ℤ
  industrialIds : Finset ℤ
  mixedIds : Finset ℤ
  residentialIds : Finset ℤ

/-- The three selections, before blocks next to industry are converted. -/
def selectLandUse (rows : List FeatureRow) (blockIds : Finset ℤ)
    (commercialCount industrialCount mixedCount : ℤ) : LandUseSets :=
  let available := blockIds
  let commercialIds := (sliceTo (ranked rows available commercialScore) commercialCount).toFinset
  let available := available \ commercialIds
  let industrialIds := (sliceTo (ranked rows available industrialScore) industrialCount).toFinset
  let available := available \ industrialIds
  let mixedIds := (sliceTo (ranked rows available mixedScore) mixedCount).toFinset
  ⟨commercialIds, industrialIds, mixedIds, available \ mixedIds⟩

/-- Residential blocks with an industrial neighbour become mixed. -/
def convertNeighbors (frozenAdjacency : Dict ℤ (List ℤ)) (sets : LandUseSets) : LandUseSets :=
  let converted := sets.residentialIds.filter fun blockId =>
    ∃ neighbor ∈ (frozenAdjacency.get blockId).getD [], neighbor ∈ sets.industrialIds
  { sets with
    mixedIds := sets.mixedIds ∪ converted
    residentialIds := sets.residentialIds \ converted }

/-- `assignments[block_id]`, where the later of the merged mappings prevail. -/
def LandUseSets.useOf (sets : LandUseSets) (blockId : ℤ) : Option V2LandUseType :=
  if blockId ∈ sets.residentialIds then some .residential
  else if blockId ∈ sets.mixedIds then some .mixedUse
  else if blockId ∈ sets.industrialIds then some .industrial
  else if blockId ∈ sets.commercialIds then some .commercial
  else none

def classifyLandUseRows (text : PyText) (featureRows : List FeatureRow)
    (roadToBlockIds : List (ℤ × List ℤ)) : Except String (List (ℤ × V2LandUseType)) := do
  let read ← featureRows.foldlM (parseFeatureRow text) {}
  let (commercialCount, industrialCount, mixedCount, _) ← landUseCounts read.parsed.length
  let (adjacencyRows, _) ←
    frontageAdjacencyFromIndex (read.parsed.map FeatureRow.blockId) roadToBlockIds
  let sets := convertNeighbors (Dict.update [] adjacencyRows)
    (selectLandUse read.parsed read.blockIds commercialCount industrialCount mixedCount)
  raiseIf (sets.commercialIds = ∅ ∨ sets.industrialIds = ∅ ∨ sets.mixedIds = ∅ ∨
    sets.residentialIds = ∅) "adjacency conversion must retain all four land-use types"
  (sortOn id (read.parsed.map FeatureRow.blockId)).mapM fun blockId =>
    match sets.useOf blockId with
    | some landUse => .ok (blockId, landUse)
    | none => .error s!"{blockId}"

end Model

section Property

/-- Two blocks on one road. -/
def ShareFrontage (roads : List (ℤ × List ℤ)) (a b : ℤ) : Prop :=
  a ≠ b ∧ ∃ road ∈ roads, a ∈ road.2 ∧ b ∈ road.2

/-- A better score, or the same and an earlier semantic id. -/
def Better (score : FeatureRow → ℚ) (a b : FeatureRow) : Prop :=
  score b < score a ∨ score a = score b ∧ a.semanticId < b.semanticId

/-- As many rows of a pool as asked for, each better than all that are left. -/
structure Best (score : FeatureRow → ℚ) (count : ℤ) (pool chosen : List FeatureRow) : Prop where
  count : (chosen.length : ℤ) = count
  nodup : chosen.Nodup
  listed : chosen ⊆ pool
  better : ∀ a ∈ chosen, ∀ b ∈ pool, b ∉ chosen → Better score a b

/-- The blocks as they are to be classified. -/
structure LandUseClasses (rows : List FeatureRow) (roads : List (ℤ × List ℤ))
    (result : List (ℤ × V2LandUseType)) : Prop where
  once : (result.map Prod.fst).Nodup ∧ ∀ id, id ∈ result.map Prod.fst ↔
    id ∈ rows.map FeatureRow.blockId
  occurs : ∀ landUse, ∃ id, (id, landUse) ∈ result
  apart : ∀ a b, (a, .residential) ∈ result → (b, .industrial) ∈ result → ¬ShareFrontage roads a b
  selected : ∃ c i m r, landUseCounts rows.length = .ok (c, i, m, r) ∧
    ∃ commercial industrial mixed,
      Best commercialScore c rows commercial ∧
      Best industrialScore i (rows.filter (· ∉ commercial)) industrial ∧
      Best mixedScore m (rows.filter fun row => row ∉ commercial ∧ row ∉ industrial) mixed ∧
      ∀ row ∈ rows,
        ((row.blockId, .commercial) ∈ result ↔ row ∈ commercial) ∧
        ((row.blockId, .industrial) ∈ result ↔ row ∈ industrial) ∧
        ((row.blockId, .mixedUse) ∈ result ↔ row ∉ commercial ∧ row ∉ industrial ∧
          (row ∈ mixed ∨ ∃ other, (other, .industrial) ∈ result ∧
            ShareFrontage roads row.blockId other))

/-- The same roads in another order, with their members in another order. -/
def SameRoads (roads roads' : List (ℤ × List ℤ)) : Prop :=
  ∃ mid, roads.Perm mid ∧
    List.Forall₂ (fun road road' => road.1 = road'.1 ∧ road.2.Perm road'.2) mid roads'

end Property

section Reading

variable {text : PyText} {rows : List FeatureRow} {roads : List (ℤ × List ℤ)}

/-- A row that passes its own checks. -/
structure Fits (text : PyText) (row : FeatureRow) : Prop where
  id_nonneg : 0 ≤ row.blockId
  digest : digestText text row.semanticId "block_semantic_id" = .ok row.semanticId
  features : ∀ value ∈ [row.centrality, row.intensity, row.exposure], 0 ≤ value ∧ value ≤ 1

def Clash (a b : FeatureRow) : Prop := a.blockId = b.blockId ∨ a.semanticId = b.semanticId

theorem read_rows (rows : List FeatureRow) : rows.foldl ParsedFeatures.add {} =
    ⟨rows, (rows.map FeatureRow.blockId).toFinset, (rows.map FeatureRow.semanticId).toFinset⟩ := by
  induction rows using List.reverseRecOn with
  | nil => rfl
  | append_singleton rows row ih =>
    rw [List.foldl_append, List.foldl_cons, List.foldl_nil, ih]
    unfold ParsedFeatures.add
    simp only [List.map_append, List.map_cons, List.map_nil, List.toFinset_append,
      List.toFinset_cons, List.toFinset_nil, ParsedFeatures.mk.injEq, true_and]
    constructor <;> · ext; simp

theorem parse_intake :
    Intake (parseFeatureRow text) {} ParsedFeatures.add (Fits text) Clash where
  step past row s := by
    rw [read_rows]
    unfold parseFeatureRow
    constructor
    · intro run
      obtain ⟨blockId, plain, run⟩ := bind_ok.mp run
      obtain ⟨nonneg, rfl⟩ := plain_nonnegative_int_ok.mp plain
      obtain ⟨semanticId, digest, run⟩ := bind_ok.mp run
      obtain rfl := digest_text_value digest
      obtain ⟨_, fresh, run⟩ := bind_ok.mp run
      obtain ⟨_, features, run⟩ := bind_ok.mp run
      rw [raise_if_ok] at fresh
      refine ⟨⟨nonneg, digest, fun value listed => ?_⟩, ?_, (pure_ok.mp run).symm⟩
      · have passed := each_ok.mp features value listed
        rw [raise_if_ok] at passed
        grind
      · rintro other listed (same | same) <;> refine fresh ?_ <;> simp only [List.mem_toFinset, List.mem_map]
        · exact .inl ⟨other, listed, same⟩
        · exact .inr ⟨other, listed, same⟩
    · rintro ⟨fits, apart, rfl⟩
      refine bind_ok.mpr ⟨_, plain_nonnegative_int_ok.mpr ⟨fits.id_nonneg, rfl⟩, ?_⟩
      refine bind_ok.mpr ⟨_, fits.digest, ?_⟩
      refine bind_ok.mpr ⟨(), raise_if_ok.mpr ?_, ?_⟩
      · simp only [List.mem_toFinset, List.mem_map]
        rintro (⟨other, listed, same⟩ | ⟨other, listed, same⟩)
        · exact apart other listed (.inl same)
        · exact apart other listed (.inr same)
      · refine bind_ok.mpr ⟨_, each_ok.mpr fun value listed => raise_if_ok.mpr ?_, rfl⟩
        have := fits.features value listed
        grind

/-- Rows that can be classified. -/
structure FeatureRows (text : PyText) (rows : List FeatureRow) : Prop where
  fits : ∀ row ∈ rows, Fits text row
  blocks : (rows.map FeatureRow.blockId).Nodup
  names : (rows.map FeatureRow.semanticId).Nodup

theorem read_rows_ok {s : ParsedFeatures} :
    rows.foldlM (parseFeatureRow text) {} = .ok s ↔ FeatureRows text rows ∧
      s = ⟨rows, (rows.map FeatureRow.blockId).toFinset,
        (rows.map FeatureRow.semanticId).toFinset⟩ := by
  rw [parse_intake.run, read_rows]
  constructor
  · rintro ⟨fits, pairs, same⟩
    exact ⟨⟨fits, List.pairwise_map.mpr (pairs.imp fun free same => free (.inl same)),
      List.pairwise_map.mpr (pairs.imp fun free same => free (.inr same))⟩, same⟩
  · rintro ⟨⟨fits, blocks, names⟩, same⟩
    refine ⟨fits, ?_, same⟩
    refine ((List.pairwise_map.mp blocks).and (List.pairwise_map.mp names)).imp ?_
    rintro a b ⟨first, second⟩ (same | same)
    · exact first same
    · exact second same

end Reading

section Frontages

variable {roads roads' : List (ℤ × List ℤ)} {blockIds : Finset ℤ}

/-- A road that passes its own checks. -/
structure RoadFits (blockIds : Finset ℤ) (row : ℤ × List ℤ) : Prop where
  id_nonneg : 0 ≤ row.1
  members_nonneg : ∀ member ∈ row.2, 0 ≤ member
  nodup : row.2.Nodup
  known : ∀ member ∈ row.2, member ∈ blockIds

theorem read_road_ids (roads : List (ℤ × List ℤ)) (s : Frontage) :
    (roads.foldl Frontage.add s).roadIds = s.roadIds ∪ (roads.map Prod.fst).toFinset := by
  induction roads generalizing s with
  | nil => simp
  | cons road roads ih =>
    rw [List.foldl_cons, ih]
    ext
    simp [Frontage.add]

theorem road_intake (adjacency : Dict ℤ (List ℤ)) :
    Intake (addRoad blockIds) { adjacency := adjacency } Frontage.add (RoadFits blockIds)
      fun road other => road.1 = other.1 where
  step past row s := by
    have ids := read_road_ids past { adjacency := adjacency }
    rw [Finset.empty_union] at ids
    unfold addRoad
    constructor
    · intro run
      obtain ⟨roadId, plain, run⟩ := bind_ok.mp run
      obtain ⟨nonneg, rfl⟩ := plain_nonnegative_int_ok.mp plain
      obtain ⟨_, fresh, run⟩ := bind_ok.mp run
      obtain ⟨members, plain, run⟩ := bind_ok.mp run
      obtain ⟨members_nonneg, rfl⟩ := plain_members.mp plain
      obtain ⟨_, nodup, run⟩ := bind_ok.mp run
      obtain ⟨_, known, run⟩ := bind_ok.mp run
      rw [raise_if_ok] at fresh nodup known
      push Not at nodup known
      refine ⟨⟨nonneg, members_nonneg, nodup, known⟩, ?_, (pure_ok.mp run).symm⟩
      intro other listed same
      refine fresh ?_
      rw [ids, List.mem_toFinset]
      exact same ▸ List.mem_map_of_mem listed
    · rintro ⟨fits, apart, rfl⟩
      refine bind_ok.mpr ⟨_, plain_nonnegative_int_ok.mpr ⟨fits.id_nonneg, rfl⟩, ?_⟩
      refine bind_ok.mpr ⟨(), raise_if_ok.mpr ?_, ?_⟩
      · rw [ids, List.mem_toFinset]
        intro listed
        obtain ⟨other, mem, same⟩ := List.mem_map.mp listed
        exact apart other mem same
      · refine bind_ok.mpr ⟨_, plain_members.mpr ⟨fits.members_nonneg, rfl⟩, ?_⟩
        refine bind_ok.mpr ⟨(), raise_if_ok.mpr (not_not.mpr fits.nodup), ?_⟩
        refine bind_ok.mpr ⟨(), raise_if_ok.mpr ?_, rfl⟩
        push Not
        exact fits.known

theorem mem_meet_others {others members : List ℤ} {d : Dict ℤ (List ℤ)} {a b : ℤ} :
    b ∈ ((members.foldl (meetOthers others) d).get a).getD [] ↔
      b ∈ (d.get a).getD [] ∨ a ∈ members ∧ b ∈ others ∧ b ≠ a := by
  induction members generalizing d with
  | nil => simp
  | cons member members ih =>
    rw [List.foldl_cons, ih]
    unfold meetOthers
    rw [Dict.get_set]
    by_cases here : a = member
    · subst here
      simp only [if_true, Option.getD_some, List.mem_union_iff, List.mem_filter, List.mem_cons,
        true_or, true_and, decide_eq_true_eq]
      grind
    · rw [if_neg here, List.mem_cons, or_iff_right here]

theorem mem_adjacency {s : Frontage} {a b : ℤ} :
    b ∈ ((roads.foldl Frontage.add s).adjacency.get a).getD [] ↔
      b ∈ (s.adjacency.get a).getD [] ∨ ShareFrontage roads a b := by
  induction roads generalizing s with
  | nil => simp [ShareFrontage]
  | cons road roads ih =>
    rw [List.foldl_cons, ih]
    unfold Frontage.add ShareFrontage
    simp only [mem_meet_others, List.exists_mem_cons_iff]
    grind

/-- Roads that can be read. -/
structure RoadIndex (blockIds : Finset ℤ) (roads : List (ℤ × List ℤ)) : Prop where
  fits : ∀ road ∈ roads, RoadFits blockIds road
  distinct : (roads.map Prod.fst).Nodup

theorem RoadIndex.perm (h : RoadIndex blockIds roads) (same : SameRoads roads roads') :
    RoadIndex blockIds roads' := by
  obtain ⟨mid, perm, pairs⟩ := same
  have keys : mid.map Prod.fst = roads'.map Prod.fst := paired_map_eq pairs fun a b h => h.1
  refine ⟨fun road listed => ?_, keys ▸ (perm.map Prod.fst).nodup_iff.mp h.distinct⟩
  obtain ⟨before, mem, same, members⟩ := paired_right pairs listed
  have fits := h.fits before (perm.mem_iff.mpr mem)
  exact ⟨same ▸ fits.id_nonneg, fun m listed => fits.members_nonneg m (members.mem_iff.mpr listed),
    members.nodup_iff.mp fits.nodup, fun m listed => fits.known m (members.mem_iff.mpr listed)⟩

theorem SameRoads.share (same : SameRoads roads roads') {a b : ℤ} :
    ShareFrontage roads' a b ↔ ShareFrontage roads a b := by
  obtain ⟨mid, perm, pairs⟩ := same
  unfold ShareFrontage
  refine and_congr_right fun _ => ⟨?_, ?_⟩
  · rintro ⟨road, listed, first, second⟩
    obtain ⟨before, mem, -, members⟩ := paired_right pairs listed
    exact ⟨before, perm.mem_iff.mpr mem, members.mem_iff.mpr first, members.mem_iff.mpr second⟩
  · rintro ⟨road, listed, first, second⟩
    obtain ⟨later, mem, -, members⟩ := paired_left pairs (perm.mem_iff.mp listed)
    exact ⟨later, mem, members.mem_iff.mp first, members.mem_iff.mp second⟩

/-- The adjacency that reading roads leaves. -/
def frontageRows (ids : List ℤ) (roads : List (ℤ × List ℤ)) : List (ℤ × List ℤ) × ℕ :=
  let s := roads.foldl Frontage.add { adjacency := ids.map fun blockId => (blockId, []) }
  ((sortOn id ids).map fun blockId =>
    (blockId, sortOn id ((s.adjacency.get blockId).getD [])), s.visitCount)

theorem frontage_adjacency_ok {ids : List ℤ} {result : List (ℤ × List ℤ) × ℕ} :
    frontageAdjacencyFromIndex ids roads = .ok result ↔ (∀ blockId ∈ ids, 0 ≤ blockId) ∧
      ids.Nodup ∧ RoadIndex ids.toFinset roads ∧ result = frontageRows ids roads := by
  unfold frontageAdjacencyFromIndex
  constructor
  · intro run
    obtain ⟨blockIds, plain, checked⟩ := bind_ok.mp run
    obtain ⟨nonneg, rfl⟩ := plain_members.mp plain
    obtain ⟨_, nodup, reading⟩ := bind_ok.mp checked
    obtain ⟨s, read, returned⟩ := bind_ok.mp reading
    obtain ⟨fits, pairs, rfl⟩ := (road_intake _).run.mp read
    rw [raise_if_ok, not_not] at nodup
    exact ⟨nonneg, nodup, ⟨fits, List.pairwise_map.mpr pairs⟩, (pure_ok.mp returned).symm⟩
  · rintro ⟨nonneg, nodup, index, rfl⟩
    refine bind_ok.mpr ⟨_, plain_members.mpr ⟨nonneg, rfl⟩, ?_⟩
    refine bind_ok.mpr ⟨(), raise_if_ok.mpr (not_not.mpr nodup), ?_⟩
    refine bind_ok.mpr ⟨_, (road_intake _).run.mpr ⟨index.fits, ?_, rfl⟩, rfl⟩
    exact List.pairwise_map.mp index.distinct

theorem mem_frontage_rows {ids : List ℤ} (nodup : ids.Nodup) {a b : ℤ} (known : a ∈ ids) :
    b ∈ ((Dict.update [] (frontageRows ids roads).1).get a).getD [] ↔
      ShareFrontage roads a b := by
  have keys : (frontageRows ids roads).1.map Prod.fst = sortOn id ids := by
    unfold frontageRows
    rw [List.map_map]
    exact List.map_id _
  have distinct : ((frontageRows ids roads).1.map Prod.fst).Nodup :=
    keys ▸ sort_on_perm.nodup_iff.mpr nodup
  rw [Dict.update_fresh distinct (by simp), List.nil_append]
  have row : (a, sortOn id (((roads.foldl Frontage.add { adjacency := ids.map fun blockId =>
      (blockId, []) }).adjacency.get a).getD [])) ∈ (frontageRows ids roads).1 :=
    List.mem_map_of_mem (f := fun blockId => (blockId, _)) (mem_sort_on.mpr known)
  rw [(Dict.get_eq_some_iff distinct).mpr row, Option.getD_some, mem_sort_on, mem_adjacency]
  refine or_iff_right ?_
  have empty : ((Dict.get (ids.map fun blockId => (blockId, ([] : List ℤ))) a).getD []) = [] := by
    have start : (ids.map fun blockId => (blockId, ([] : List ℤ))).map Prod.fst = ids := by
      rw [List.map_map]
      exact List.map_id _
    have row : (a, []) ∈ ids.map fun blockId => (blockId, ([] : List ℤ)) :=
      List.mem_map_of_mem (f := fun blockId => (blockId, [])) known
    rw [(Dict.get_eq_some_iff (start.symm ▸ nodup)).mpr row, Option.getD_some]
  rw [empty]
  exact List.not_mem_nil

end Frontages

section Selections

variable {text : PyText} {rows pool chosen : List FeatureRow} {score : FeatureRow → ℚ} {count : ℤ}

def bestRows (score : FeatureRow → ℚ) (count : ℤ) (pool : List FeatureRow) : List FeatureRow :=
  (sortOn (fun row => toLex (-score row, row.semanticId)) pool).take count.toNat

theorem keys_nodup (score : FeatureRow → ℚ) (names : (pool.map FeatureRow.semanticId).Nodup) :
    (pool.map fun row => toLex (-score row, row.semanticId)).Nodup := by
  refine List.Nodup.of_map (fun key => (ofLex key).2) ?_
  rw [List.map_map]
  exact names

theorem best_rows_best (names : (pool.map FeatureRow.semanticId).Nodup) (nonneg : 0 ≤ count)
    (enough : count ≤ pool.length) : Best score count pool (bestRows score count pool) where
  count := by
    unfold bestRows
    rw [List.length_take, length_sort_on]
    omega
  nodup := (sort_on_perm.nodup_iff.mpr (List.Nodup.of_map _ names)).sublist (List.take_sublist _ _)
  listed _ taken := mem_sort_on.mp (List.mem_of_mem_take taken)
  better a taken b listed left := by
    have sorted := sort_on_strict (keys_nodup score names)
    rw [← List.take_append_drop count.toNat (sortOn _ pool)] at sorted
    have behind : b ∈ (sortOn (fun row => toLex (-score row, row.semanticId)) pool).drop
        count.toNat := by
      have found : b ∈ sortOn (fun row => toLex (-score row, row.semanticId)) pool :=
        mem_sort_on.mpr listed
      rw [← List.take_append_drop count.toNat (sortOn _ pool), List.mem_append] at found
      exact found.resolve_left left
    have less := (List.pairwise_append.mp sorted).2.2 a taken b behind
    rw [Prod.Lex.toLex_lt_toLex] at less
    exact less.imp neg_lt_neg_iff.mp fun ⟨same, first⟩ => ⟨neg_inj.mp same, first⟩

theorem best_rows_perm (names : (pool.map FeatureRow.semanticId).Nodup) {pool' : List FeatureRow}
    (same : pool.Perm pool') : bestRows score count pool = bestRows score count pool' := by
  unfold bestRows
  rw [sort_on_eq_of_perm same (keys_nodup _ names)]

def idsOf (rows : List FeatureRow) : Finset ℤ := (rows.map FeatureRow.blockId).toFinset

theorem mem_ids_of (blocks : (rows.map FeatureRow.blockId).Nodup) (listed : chosen ⊆ rows)
    {row : FeatureRow} (mem : row ∈ rows) : row.blockId ∈ idsOf chosen ↔ row ∈ chosen := by
  unfold idsOf
  rw [List.mem_toFinset, List.mem_map]
  constructor
  · rintro ⟨other, taken, same⟩
    exact List.inj_on_of_nodup_map blocks (listed taken) mem same ▸ taken
  · intro taken
    exact ⟨row, taken, rfl⟩

theorem length_without (nodup : rows.Nodup) (distinct : chosen.Nodup) (listed : chosen ⊆ rows) :
    (rows.filter (· ∉ chosen)).length + chosen.length = rows.length := by
  have same : (rows.filter (· ∈ chosen)).Perm chosen := by
    refine (List.perm_ext_iff_of_nodup (nodup.filter _) distinct).mpr fun row => ?_
    rw [List.mem_filter, decide_eq_true_eq]
    exact ⟨And.right, fun taken => ⟨listed taken, taken⟩⟩
  have split := List.length_eq_length_filter_add (l := rows) fun row => decide (row ∈ chosen)
  rw [same.length_eq] at split
  simp only [← decide_not] at split
  omega

theorem slice_ranked {available : Finset ℤ} (nonneg : 0 ≤ count) :
    (sliceTo (ranked rows available score) count).toFinset =
      idsOf (bestRows score count (rows.filter fun row => row.blockId ∈ available)) := by
  rw [slice_to_of_nonneg nonneg]
  unfold ranked rankedRows idsOf bestRows
  rw [List.map_take]

/-- The rows chosen one selection after the other. -/
structure Choices where
  commercial : List FeatureRow
  industrial : List FeatureRow
  mixed : List FeatureRow

def choose (rows : List FeatureRow) (c i m : ℤ) : Choices :=
  let commercial := bestRows commercialScore c rows
  let industrial := bestRows industrialScore i (rows.filter (· ∉ commercial))
  ⟨commercial, industrial,
    bestRows mixedScore m (rows.filter fun row => row ∉ commercial ∧ row ∉ industrial)⟩

theorem best_rows_subset : bestRows score count pool ⊆ pool :=
  fun _ taken => mem_sort_on.mp (List.mem_of_mem_take taken)

theorem select_land_use_eq (fine : FeatureRows text rows) {c i m : ℤ} (c_nonneg : 0 ≤ c)
    (i_nonneg : 0 ≤ i) (m_nonneg : 0 ≤ m) : selectLandUse rows (idsOf rows) c i m =
      ⟨idsOf (choose rows c i m).commercial, idsOf (choose rows c i m).industrial,
        idsOf (choose rows c i m).mixed,
        ((idsOf rows \ idsOf (choose rows c i m).commercial) \
          idsOf (choose rows c i m).industrial) \ idsOf (choose rows c i m).mixed⟩ := by
  have everything : rows.filter (fun row => row.blockId ∈ idsOf rows) = rows :=
    List.filter_eq_self.mpr fun row mem =>
      decide_eq_true ((mem_ids_of fine.blocks (List.Subset.refl _) mem).mpr mem)
  have known : ∀ row ∈ rows, row.blockId ∈ idsOf rows := fun row mem =>
    (mem_ids_of fine.blocks (List.Subset.refl _) mem).mpr mem
  have commercial : ∀ row ∈ rows, row.blockId ∈ idsOf (bestRows commercialScore c rows) ↔
      row ∈ bestRows commercialScore c rows := fun row mem =>
    mem_ids_of fine.blocks best_rows_subset mem
  have rest : rows.filter (fun row => row.blockId ∈
      idsOf rows \ idsOf (bestRows commercialScore c rows)) =
        rows.filter (· ∉ bestRows commercialScore c rows) := by
    refine List.filter_congr fun row mem => ?_
    rw [decide_eq_decide, Finset.mem_sdiff, commercial row mem]
    exact and_iff_right (known row mem)
  have industrial : ∀ row ∈ rows, row.blockId ∈ idsOf (bestRows industrialScore i
      (rows.filter (· ∉ bestRows commercialScore c rows))) ↔ row ∈ bestRows industrialScore i
      (rows.filter (· ∉ bestRows commercialScore c rows)) := fun row mem =>
    mem_ids_of fine.blocks (fun _ taken => List.mem_of_mem_filter (best_rows_subset taken)) mem
  have left : rows.filter (fun row => row.blockId ∈
      (idsOf rows \ idsOf (bestRows commercialScore c rows)) \ idsOf (bestRows industrialScore i
        (rows.filter (· ∉ bestRows commercialScore c rows)))) =
        rows.filter (fun row => row ∉ bestRows commercialScore c rows ∧
          row ∉ bestRows industrialScore i
            (rows.filter (· ∉ bestRows commercialScore c rows))) := by
    refine List.filter_congr fun row mem => ?_
    rw [decide_eq_decide, Finset.mem_sdiff, Finset.mem_sdiff, commercial row mem,
      industrial row mem]
    exact and_congr_left fun _ => and_iff_right (known row mem)
  unfold selectLandUse choose
  simp only [slice_ranked c_nonneg, slice_ranked i_nonneg, slice_ranked m_nonneg, everything, rest,
    left]

end Selections

section Classes

variable {text : PyText} {rows rows' : List FeatureRow} {roads roads' : List (ℤ × List ℤ)}
  {result : List (ℤ × V2LandUseType)} {c i m r : ℤ}

/-- The blocks of each land use, after blocks next to industry are converted. -/
def finalSets (rows : List FeatureRow) (roads : List (ℤ × List ℤ)) (c i m : ℤ) : LandUseSets :=
  convertNeighbors (Dict.update [] (frontageRows (rows.map FeatureRow.blockId) roads).1)
    (selectLandUse rows (idsOf rows) c i m)

structure LandUseSets.Occupied (sets : LandUseSets) : Prop where
  commercial : sets.commercialIds.Nonempty
  industrial : sets.industrialIds.Nonempty
  mixed : sets.mixedIds.Nonempty
  residential : sets.residentialIds.Nonempty

theorem classify_ok : classifyLandUseRows text rows roads = .ok result ↔
    FeatureRows text rows ∧ RoadIndex (idsOf rows) roads ∧
    ∃ c i m r, landUseCounts rows.length = .ok (c, i, m, r) ∧
      (finalSets rows roads c i m).Occupied ∧
      List.Forall₂ (fun blockId entry => ∃ landUse,
        (finalSets rows roads c i m).useOf blockId = some landUse ∧ entry = (blockId, landUse))
        (sortOn id (rows.map FeatureRow.blockId)) result := by
  have occupied : ∀ sets : LandUseSets, ¬(sets.commercialIds = ∅ ∨ sets.industrialIds = ∅ ∨
      sets.mixedIds = ∅ ∨ sets.residentialIds = ∅) ↔ sets.Occupied := by
    intro sets
    simp only [not_or, ← ne_eq, ← Finset.nonempty_iff_ne_empty]
    exact ⟨fun ⟨a, b, c, d⟩ => ⟨a, b, c, d⟩, fun h => ⟨h.1, h.2, h.3, h.4⟩⟩
  have entry : ∀ (sets : LandUseSets) (blockId : ℤ) (entry : ℤ × V2LandUseType),
      (match sets.useOf blockId with
        | some landUse => (.ok (blockId, landUse) : Except String _)
        | none => .error s!"{blockId}") = .ok entry ↔
      ∃ landUse, sets.useOf blockId = some landUse ∧ entry = (blockId, landUse) := by
    intro sets blockId entry
    cases sets.useOf blockId with
    | none => simp
    | some landUse => simp [eq_comm]
  unfold classifyLandUseRows
  constructor
  · intro run
    obtain ⟨read, reading, classifying⟩ := bind_ok.mp run
    obtain ⟨fine, rfl⟩ := read_rows_ok.mp reading
    obtain ⟨⟨c, i, m, r⟩, counts, rest⟩ := bind_ok.mp classifying
    obtain ⟨⟨adjacencyRows, visits⟩, frontage, rest⟩ := bind_ok.mp rest
    obtain ⟨-, -, index, same⟩ := frontage_adjacency_ok.mp frontage
    obtain ⟨_, nonempty, mapped⟩ := bind_ok.mp rest
    obtain rfl : adjacencyRows = _ := congrArg Prod.fst same
    rw [raise_if_ok, occupied] at nonempty
    refine ⟨fine, index, c, i, m, r, counts, nonempty, ?_⟩
    exact (map_all_ok.mp mapped).imp fun blockId row found => (entry _ _ _).mp found
  · rintro ⟨fine, index, c, i, m, r, counts, nonempty, pairs⟩
    refine bind_ok.mpr ⟨_, read_rows_ok.mpr ⟨fine, rfl⟩, bind_ok.mpr ⟨_, counts, ?_⟩⟩
    refine bind_ok.mpr ⟨_, frontage_adjacency_ok.mpr ⟨fun blockId listed => ?_, fine.blocks,
      index, rfl⟩, ?_⟩
    · obtain ⟨row, mem, rfl⟩ := List.mem_map.mp listed
      exact (fine.fits row mem).id_nonneg
    · refine bind_ok.mpr ⟨(), raise_if_ok.mpr ((occupied _).mpr nonempty), ?_⟩
      exact map_all_ok.mpr (pairs.imp fun blockId row found => (entry _ _ _).mpr found)

theorem land_use_counts_ok {n : ℤ} (counts : landUseCounts n = .ok (c, i, m, r)) :
    1 ≤ c ∧ 1 ≤ i ∧ 1 ≤ m ∧ 1 ≤ r ∧ c + i + m + r = n := by
  unfold landUseCounts at counts
  obtain ⟨blockCount, plain, counted⟩ := bind_ok.mp counts
  obtain ⟨-, rfl⟩ := plain_nonnegative_int_ok.mp plain
  obtain ⟨_, enough, returned⟩ := bind_ok.mp counted
  rw [raise_if_ok, not_lt] at enough
  obtain ⟨rfl, rfl, rfl, rfl⟩ := by simpa using pure_ok.mp returned
  exact ⟨le_max_left _ _, le_max_left _ _, le_max_left _ _, enough, by ring⟩

/-- A block that shares a road with an industrial one. -/
def NextToIndustry (rows : List FeatureRow) (roads : List (ℤ × List ℤ)) (c i m : ℤ)
    (row : FeatureRow) : Prop :=
  ∃ other ∈ (choose rows c i m).industrial, ShareFrontage roads row.blockId other.blockId

theorem choose_subset (rows : List FeatureRow) (c i m : ℤ) : (choose rows c i m).commercial ⊆ rows ∧
    (∀ row ∈ (choose rows c i m).industrial, row ∈ rows ∧ row ∉ (choose rows c i m).commercial) ∧
    ∀ row ∈ (choose rows c i m).mixed, row ∈ rows ∧ row ∉ (choose rows c i m).commercial ∧
      row ∉ (choose rows c i m).industrial := by
  refine ⟨best_rows_subset, fun row taken => ?_, fun row taken => ?_⟩
  · obtain ⟨mem, apart⟩ := List.mem_filter.mp (best_rows_subset taken)
    exact ⟨mem, of_decide_eq_true apart⟩
  · obtain ⟨mem, apart⟩ := List.mem_filter.mp (best_rows_subset taken)
    exact ⟨mem, of_decide_eq_true apart⟩

/-- The sets by the choices they come from. -/
structure SetsOf (rows : List FeatureRow) (roads : List (ℤ × List ℤ)) (c i m : ℤ)
    (sets : LandUseSets) (row : FeatureRow) : Prop where
  commercial : row.blockId ∈ sets.commercialIds ↔ row ∈ (choose rows c i m).commercial
  industrial : row.blockId ∈ sets.industrialIds ↔ row ∈ (choose rows c i m).industrial
  mixed : row.blockId ∈ sets.mixedIds ↔ row ∈ (choose rows c i m).mixed ∨
    (row ∉ (choose rows c i m).commercial ∧ row ∉ (choose rows c i m).industrial) ∧
      NextToIndustry rows roads c i m row
  residential : row.blockId ∈ sets.residentialIds ↔ row ∉ (choose rows c i m).commercial ∧
    row ∉ (choose rows c i m).industrial ∧ row ∉ (choose rows c i m).mixed ∧
      ¬NextToIndustry rows roads c i m row

theorem final_sets_of (fine : FeatureRows text rows) (c_nonneg : 0 ≤ c) (i_nonneg : 0 ≤ i)
    (m_nonneg : 0 ≤ m) {row : FeatureRow} (mem : row ∈ rows) :
    SetsOf rows roads c i m (finalSets rows roads c i m) row := by
  have ids : ∀ {chosen : List FeatureRow}, chosen ⊆ rows →
      (row.blockId ∈ idsOf chosen ↔ row ∈ chosen) := fun listed =>
    mem_ids_of fine.blocks listed mem
  obtain ⟨sub_c, sub_i, sub_m⟩ := choose_subset rows c i m
  have commercial := ids sub_c
  have industrial := ids fun row taken => (sub_i row taken).1
  have mixed := ids fun row taken => (sub_m row taken).1
  have known := (ids (List.Subset.refl rows)).mpr mem
  have near : (∃ neighbor ∈ ((Dict.update []
      (frontageRows (rows.map FeatureRow.blockId) roads).1).get row.blockId).getD [],
      neighbor ∈ idsOf (choose rows c i m).industrial) ↔ NextToIndustry rows roads c i m row := by
    unfold NextToIndustry
    simp only [mem_frontage_rows fine.blocks (List.mem_map_of_mem mem)]
    constructor
    · rintro ⟨neighbor, shares, taken⟩
      obtain ⟨other, chosen, rfl⟩ := List.mem_map.mp (List.mem_toFinset.mp taken)
      exact ⟨other, chosen, shares⟩
    · rintro ⟨other, chosen, shares⟩
      exact ⟨other.blockId, shares, List.mem_toFinset.mpr (List.mem_map_of_mem chosen)⟩
  unfold finalSets
  rw [select_land_use_eq fine c_nonneg i_nonneg m_nonneg]
  unfold convertNeighbors
  refine ⟨commercial, industrial, ?_, ?_⟩
  · simp only [Finset.mem_union, Finset.mem_filter, Finset.mem_sdiff, mixed, commercial,
      industrial, known, near, true_and]
    grind
  · simp only [Finset.mem_filter, Finset.mem_sdiff, mixed, commercial, industrial, known, near,
      true_and]
    grind

theorem SetsOf.use_of {sets : LandUseSets} {row : FeatureRow} (h : SetsOf rows roads c i m sets row) :
    (sets.useOf row.blockId = some .commercial ↔ row ∈ (choose rows c i m).commercial) ∧
    (sets.useOf row.blockId = some .industrial ↔ row ∈ (choose rows c i m).industrial) ∧
    (sets.useOf row.blockId = some .mixedUse ↔ row ∉ (choose rows c i m).commercial ∧
      row ∉ (choose rows c i m).industrial ∧
        (row ∈ (choose rows c i m).mixed ∨ NextToIndustry rows roads c i m row)) ∧
    (sets.useOf row.blockId = some .residential → ¬NextToIndustry rows roads c i m row) := by
  obtain ⟨-, sub_i, sub_m⟩ := choose_subset rows c i m
  have apart_i := fun taken => (sub_i row taken).2
  have apart_m := fun taken => (sub_m row taken).2
  obtain ⟨commercial, industrial, mixed, residential⟩ := h
  unfold LandUseSets.useOf
  split_ifs <;> simp <;> grind

theorem mem_classified {sets : LandUseSets} {ids : List ℤ}
    (pairs : List.Forall₂ (fun blockId entry => ∃ landUse,
      sets.useOf blockId = some landUse ∧ entry = (blockId, landUse)) ids result) {blockId : ℤ}
    {landUse : V2LandUseType} : (blockId, landUse) ∈ result ↔
      blockId ∈ ids ∧ sets.useOf blockId = some landUse := by
  constructor
  · intro listed
    obtain ⟨id, mem, landUse', found, same⟩ := paired_right pairs listed
    obtain ⟨rfl, rfl⟩ := Prod.ext_iff.mp same
    exact ⟨mem, found⟩
  · rintro ⟨mem, found⟩
    obtain ⟨entry, listed, landUse', found', rfl⟩ := paired_left pairs mem
    rw [Option.some.inj (found.symm.trans found')]
    exact listed

theorem FeatureRows.perm (fine : FeatureRows text rows) (same : rows.Perm rows') :
    FeatureRows text rows' where
  fits row mem := fine.fits row (same.mem_iff.mpr mem)
  blocks := (same.map _).nodup_iff.mp fine.blocks
  names := (same.map _).nodup_iff.mp fine.names

theorem ids_of_perm (same : rows.Perm rows') : idsOf rows' = idsOf rows :=
  (List.toFinset_eq_of_perm _ _ (same.map _)).symm

theorem choose_perm (fine : FeatureRows text rows) (same : rows.Perm rows') :
    choose rows' c i m = choose rows c i m := by
  have names : ∀ p : FeatureRow → Bool, ((rows.filter p).map FeatureRow.semanticId).Nodup :=
    fun p => fine.names.sublist (List.filter_sublist.map _)
  unfold choose
  simp only [← best_rows_perm fine.names same, ← best_rows_perm (names _) (same.filter _)]

theorem convert_congr {d d' : Dict ℤ (List ℤ)} {sets : LandUseSets}
    (same : ∀ blockId ∈ sets.residentialIds, ∀ neighbor,
      neighbor ∈ (d.get blockId).getD [] ↔ neighbor ∈ (d'.get blockId).getD []) :
    convertNeighbors d sets = convertNeighbors d' sets := by
  have converted : (sets.residentialIds.filter fun blockId =>
      ∃ neighbor ∈ (d.get blockId).getD [], neighbor ∈ sets.industrialIds) =
        sets.residentialIds.filter fun blockId =>
          ∃ neighbor ∈ (d'.get blockId).getD [], neighbor ∈ sets.industrialIds := by
    refine Finset.filter_congr fun blockId left => ?_
    simp only [same blockId left]
  unfold convertNeighbors
  rw [converted]

theorem final_sets_perm (fine : FeatureRows text rows) (same : rows.Perm rows')
    (same' : SameRoads roads roads') (c_nonneg : 0 ≤ c) (i_nonneg : 0 ≤ i) (m_nonneg : 0 ≤ m) :
    finalSets rows' roads' c i m = finalSets rows roads c i m := by
  have selection : selectLandUse rows' (idsOf rows') c i m =
      selectLandUse rows (idsOf rows) c i m := by
    rw [select_land_use_eq fine c_nonneg i_nonneg m_nonneg,
      select_land_use_eq (fine.perm same) c_nonneg i_nonneg m_nonneg, choose_perm fine same,
      ids_of_perm same]
  unfold finalSets
  rw [selection, select_land_use_eq fine c_nonneg i_nonneg m_nonneg]
  refine convert_congr fun blockId left neighbor => ?_
  have known : blockId ∈ rows.map FeatureRow.blockId := by
    simp only [Finset.mem_sdiff] at left
    exact List.mem_toFinset.mp left.1.1.1
  rw [mem_frontage_rows fine.blocks known, mem_frontage_rows (fine.perm same).blocks
    ((same.map _).mem_iff.mp known), same'.share]

theorem residential_known {blockId : ℤ} (fine : FeatureRows text rows) (c_nonneg : 0 ≤ c)
    (i_nonneg : 0 ≤ i) (m_nonneg : 0 ≤ m)
    (left : blockId ∈ (finalSets rows roads c i m).residentialIds) :
    ∃ row ∈ rows, row.blockId = blockId := by
  unfold finalSets convertNeighbors at left
  rw [select_land_use_eq fine c_nonneg i_nonneg m_nonneg] at left
  simp only [Finset.mem_sdiff] at left
  exact List.mem_map.mp (List.mem_toFinset.mp left.1.1.1.1)

theorem Best.inhabited {score : FeatureRow → ℚ} {count : ℤ} {pool chosen : List FeatureRow}
    (h : Best score count pool chosen) (pos : 1 ≤ count) : ∃ row, row ∈ chosen := by
  refine List.exists_mem_of_length_pos ?_
  have := h.count
  omega

theorem choices_best (fine : FeatureRows text rows) (c_nonneg : 0 ≤ c) (i_nonneg : 0 ≤ i)
    (m_nonneg : 0 ≤ m) (enough : c + i + m ≤ rows.length) :
    Best commercialScore c rows (choose rows c i m).commercial ∧
    Best industrialScore i (rows.filter (· ∉ (choose rows c i m).commercial))
      (choose rows c i m).industrial ∧
    Best mixedScore m (rows.filter fun row => row ∉ (choose rows c i m).commercial ∧
      row ∉ (choose rows c i m).industrial) (choose rows c i m).mixed := by
  have names : ∀ p : FeatureRow → Bool, ((rows.filter p).map FeatureRow.semanticId).Nodup :=
    fun p => fine.names.sublist (List.filter_sublist.map _)
  have nodup : rows.Nodup := List.Nodup.of_map _ fine.names
  have commercial : Best commercialScore c rows (choose rows c i m).commercial :=
    best_rows_best fine.names c_nonneg (by omega)
  have left := length_without nodup commercial.nodup commercial.listed
  have count := commercial.count
  have industrial : Best industrialScore i (rows.filter (· ∉ (choose rows c i m).commercial))
      (choose rows c i m).industrial := best_rows_best (names _) i_nonneg (by omega)
  have left' := length_without (nodup.filter _) industrial.nodup industrial.listed
  have count' := industrial.count
  rw [List.filter_filter] at left'
  refine ⟨commercial, industrial, best_rows_best (names _) m_nonneg ?_⟩
  have same : (rows.filter fun row => row ∉ (choose rows c i m).commercial ∧
      row ∉ (choose rows c i m).industrial) = rows.filter fun row =>
        decide (row ∉ (choose rows c i m).industrial) &&
          decide (row ∉ (choose rows c i m).commercial) := by
    refine List.filter_congr fun row _ => ?_
    rw [← Bool.decide_and, decide_eq_decide]
    exact and_comm
  have length := congrArg List.length same
  unfold choose at *
  omega

/-- Blocks are classified by score and frontage, in whatever order they and the roads come. -/
theorem land_use_classified (run : classifyLandUseRows text rows roads = .ok result) :
    LandUseClasses rows roads result ∧ ∀ rows' roads', rows.Perm rows' → SameRoads roads roads' →
      classifyLandUseRows text rows' roads' = .ok result := by
  obtain ⟨fine, index, c, i, m, r, counts, occupied, pairs⟩ := classify_ok.mp run
  obtain ⟨c_pos, i_pos, m_pos, r_pos, total⟩ := land_use_counts_ok counts
  have c_nonneg : 0 ≤ c := by omega
  have i_nonneg : 0 ≤ i := by omega
  have m_nonneg : 0 ≤ m := by omega
  have sets : ∀ row ∈ rows, SetsOf rows roads c i m (finalSets rows roads c i m) row :=
    fun row mem => final_sets_of fine c_nonneg i_nonneg m_nonneg mem
  have classed : ∀ row ∈ rows, ∀ landUse, (row.blockId, landUse) ∈ result ↔
      (finalSets rows roads c i m).useOf row.blockId = some landUse := by
    intro row mem landUse
    rw [mem_classified pairs, mem_sort_on]
    exact and_iff_right (List.mem_map_of_mem mem)
  have firsts : result.map Prod.fst = sortOn id (rows.map FeatureRow.blockId) := by
    have same := paired_map_eq pairs (f := id) (g := Prod.fst) fun a b h => by
      obtain ⟨_, -, rfl⟩ := h
      rfl
    rw [← same, List.map_id]
  have of_result : ∀ {blockId landUse}, (blockId, landUse) ∈ result →
      ∃ row ∈ rows, row.blockId = blockId := by
    intro blockId landUse listed
    have mem := (mem_classified pairs).mp listed
    exact List.mem_map.mp (mem_sort_on.mp mem.1)
  have share : ∀ row ∈ rows, (∃ other, (other, .industrial) ∈ result ∧
      ShareFrontage roads row.blockId other) ↔ NextToIndustry rows roads c i m row := by
    intro row mem
    constructor
    · rintro ⟨_, listed, shares⟩
      obtain ⟨other, mem', rfl⟩ := of_result listed
      exact ⟨other, (sets other mem').use_of.2.1.mp ((classed other mem' _).mp listed), shares⟩
    · rintro ⟨other, chosen, shares⟩
      have mem' := ((choose_subset rows c i m).2.1 other chosen).1
      exact ⟨_, (classed other mem' _).mpr ((sets other mem').use_of.2.1.mpr chosen), shares⟩
  have best := choices_best fine c_nonneg i_nonneg m_nonneg (by omega)
  refine ⟨⟨?_, ?_, ?_, ?_⟩, ?_⟩
  · rw [firsts]
    exact ⟨sort_on_perm.nodup_iff.mpr fine.blocks, fun _ => mem_sort_on⟩
  · intro landUse
    cases landUse with
    | residential =>
      obtain ⟨blockId, left⟩ := occupied.residential
      obtain ⟨row, mem, rfl⟩ := residential_known fine c_nonneg i_nonneg m_nonneg left
      refine ⟨row.blockId, (classed row mem _).mpr ?_⟩
      unfold LandUseSets.useOf
      rw [if_pos left]
    | commercial =>
      obtain ⟨row, chosen⟩ := best.1.inhabited c_pos
      have mem := (choose_subset rows c i m).1 chosen
      exact ⟨row.blockId, (classed row mem _).mpr ((sets row mem).use_of.1.mpr chosen)⟩
    | industrial =>
      obtain ⟨row, chosen⟩ := best.2.1.inhabited i_pos
      have mem := ((choose_subset rows c i m).2.1 row chosen).1
      exact ⟨row.blockId, (classed row mem _).mpr ((sets row mem).use_of.2.1.mpr chosen)⟩
    | mixedUse =>
      obtain ⟨row, chosen⟩ := best.2.2.inhabited m_pos
      obtain ⟨mem, apart, apart'⟩ := (choose_subset rows c i m).2.2 row chosen
      exact ⟨row.blockId, (classed row mem _).mpr
        ((sets row mem).use_of.2.2.1.mpr ⟨apart, apart', .inl chosen⟩)⟩
  · intro a b home industry shares
    obtain ⟨row, mem, rfl⟩ := of_result home
    exact (sets row mem).use_of.2.2.2 ((classed row mem _).mp home)
      ((share row mem).mp ⟨b, industry, shares⟩)
  · refine ⟨c, i, m, r, counts, _, _, _, best.1, best.2.1, best.2.2, fun row mem => ?_⟩
    obtain ⟨commercial, industrial, mixed, -⟩ := (sets row mem).use_of
    rw [classed row mem, classed row mem, classed row mem, share row mem]
    exact ⟨commercial, industrial, mixed⟩
  · intro rows' roads' same same'
    refine classify_ok.mpr ⟨fine.perm same, ids_of_perm same ▸ index.perm same', c, i, m, r, ?_, ?_⟩
    · rw [← same.length_eq]
      exact counts
    · rw [final_sets_perm fine same same' c_nonneg i_nonneg m_nonneg,
        ← sort_on_eq_of_perm (same.map FeatureRow.blockId) (by rw [List.map_id]; exact fine.blocks)]
      exact ⟨occupied, pairs⟩

def fiveBlocks : List FeatureRow :=
  [⟨0, String.ofList (List.replicate 64 'a'), 1, 1, 0⟩,
    ⟨1, String.ofList (List.replicate 64 'b'), 0, 0, 1⟩,
    ⟨2, String.ofList (List.replicate 64 'c'), 1 / 2, 1 / 2, 1 / 2⟩,
    ⟨3, String.ofList (List.replicate 64 'd'), 1 / 4, 1 / 4, 1 / 4⟩,
    ⟨4, String.ofList (List.replicate 64 'e'), 1 / 8, 1 / 8, 1 / 8⟩]

theorem five_blocks_classified :
    LandUseClasses fiveBlocks [(0, [1, 3]), (1, [0, 2, 4])] [(0, .commercial), (1, .industrial),
      (2, .mixedUse), (3, .mixedUse), (4, .residential)] ∧
    ∀ rows' roads', fiveBlocks.Perm rows' → SameRoads [(0, [1, 3]), (1, [0, 2, 4])] roads' →
      classifyLandUseRows plainText rows' roads' = .ok [(0, .commercial), (1, .industrial),
        (2, .mixedUse), (3, .mixedUse), (4, .residential)] := by
  have digests : ∀ row ∈ fiveBlocks,
      digestText plainText row.semanticId "block_semantic_id" = .ok row.semanticId := by
    simp only [fiveBlocks, List.forall_mem_cons, List.not_mem_nil, false_imp_iff, implies_true,
      and_true]
    refine ⟨?_, ?_, ?_, ?_, ?_⟩ <;> exact plain_digest_text _ rfl (by decide) (by decide)
  have nonneg : ∀ row ∈ fiveBlocks, 0 ≤ row.blockId := by decide
  have features : ∀ row ∈ fiveBlocks, ∀ value ∈ [row.centrality, row.intensity, row.exposure],
      0 ≤ value ∧ value ≤ 1 := by decide +kernel
  have blocks : (fiveBlocks.map FeatureRow.blockId).Nodup := by decide
  have names : (fiveBlocks.map FeatureRow.semanticId).Nodup := by decide +kernel
  have fine : FeatureRows plainText fiveBlocks :=
    ⟨fun row listed => ⟨nonneg row listed, digests row listed, features row listed⟩, blocks, names⟩
  have index : RoadIndex (idsOf fiveBlocks) [(0, [1, 3]), (1, [0, 2, 4])] := by
    refine ⟨fun road listed => ?_, by decide⟩
    simp only [List.mem_cons, List.not_mem_nil, or_false] at listed
    rcases listed with rfl | rfl
    · exact ⟨by decide, by decide, by decide, by decide⟩
    · exact ⟨by decide, by decide, by decide, by decide⟩
  have commercial : (sliceTo (ranked fiveBlocks (idsOf fiveBlocks) commercialScore) 1).toFinset =
      {0} := by
    unfold ranked rankedRows
    rw [sort_on_insertion]
    decide +kernel
  have industrial : (sliceTo (ranked fiveBlocks (idsOf fiveBlocks \ {0}) industrialScore)
      1).toFinset = {1} := by
    unfold ranked rankedRows
    rw [sort_on_insertion]
    decide +kernel
  have mixed : (sliceTo (ranked fiveBlocks ((idsOf fiveBlocks \ {0}) \ {1}) mixedScore)
      1).toFinset = {2} := by
    unfold ranked rankedRows
    rw [sort_on_insertion]
    decide +kernel
  have sets : finalSets fiveBlocks [(0, [1, 3]), (1, [0, 2, 4])] 1 1 1 =
      ⟨{0}, {1}, {2, 3}, {4}⟩ := by
    unfold finalSets selectLandUse convertNeighbors frontageRows
    simp only [commercial, industrial, mixed, sort_on_insertion]
    rw [LandUseSets.mk.injEq]
    decide +kernel
  refine land_use_classified (classify_ok.mpr ⟨fine, index, 1, 1, 1, 2, by decide +kernel, ?_, ?_⟩)
  · rw [sets]
    exact ⟨⟨0, by decide⟩, ⟨1, by decide⟩, ⟨2, by decide⟩, ⟨4, by decide⟩⟩
  · rw [sets, sort_on_insertion]
    decide +kernel

end Classes

end Metroflow.City.LandUse
