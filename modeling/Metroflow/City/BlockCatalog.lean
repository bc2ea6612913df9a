import Metroflow.City.BlockLandUse

namespace Metroflow.City.BlockUse

open Metroflow.Lib

section Model

/-- `tuple(sorted((left, right)))` -/
def edgeOf (left right : PointM ℚ) : PointM ℚ × PointM ℚ :=
  if toLex right < toLex left then (right, left) else (left, right)

def edgesOf (polygon : List (PointM ℚ)) : List (PointM ℚ × PointM ℚ) :=
  (polygon.zip polygon.tail).map fun e => edgeOf e.1 e.2

/-- The pairs of different ids; the ids are sorted, so that the later ones are the greater ones. -/
def pairsOf (blockIds : List ℤ) : List (ℤ × ℤ) :=
  (sortedSet blockIds).flatMap fun left =>
    ((sortedSet blockIds).filter fun right => left < right).map (Prod.mk left)

def meet (adjacency : Dict ℤ (List ℤ)) (pair : ℤ × ℤ) : Dict ℤ (List ℤ) :=
  let adjacency := adjacency.set pair.1 (((adjacency.get pair.1).getD []).insert pair.2)
  adjacency.set pair.2 (((adjacency.get pair.2).getD []).insert pair.1)

def edgeEntries (blocks : List (ℤ × List (PointM ℚ))) : List ((PointM ℚ × PointM ℚ) × ℤ) :=
  blocks.flatMap fun block => (edgesOf block.2).map fun edge => (edge, block.1)

def blockAdjacency (blocks : List (ℤ × List (PointM ℚ))) : Dict ℤ (List ℤ) :=
  let edgeToBlockIds := (edgeEntries blocks).foldl (fun d e => Dict.appendAt d e.1 e.2) []
  (edgeToBlockIds.flatMap fun item => pairsOf item.2).foldl meet
    (Dict.update [] (blocks.map fun block => (block.1, [])))

def ratesPerHectare : BlockLandUseType → Except String (ℚ × ℚ × ℚ)
  | .residential => .ok (95, 0, 25)
  | .commercial => .ok (0, 170, 70)
  | .industrial => .ok (0, 90, 0)
  | .mixedUse => .ok (75, 95, 55)
  | .openSpace => .error "open_space"

def capacity (hectares scale rate : ℚ) : ℤ :=
  if rate = 0 then 0 else max 1 (roundHalfEven (hectares * rate * scale))

def capacities (areaM2 developmentIntensity : ℚ) (landUseType : BlockLandUseType) :
    Except String (ℤ × ℤ × ℤ) := do
  let rates ← ratesPerHectare landUseType
  let scale := 45 / 100 + 55 / 100 * developmentIntensity
  let hectares := areaM2 / 10000
  return (capacity hectares scale rates.1, capacity hectares scale rates.2.1,
    capacity hectares scale rates.2.2)

structure BlockLandUse where
  blockId : ℤ
  landUseType : BlockLandUseType
  polygonM : List (PointM ℚ)
  centroidM : PointM ℚ
  areaM2 : ℚ
  frontageStreetIds : List ℤ
  accessNodeId : Option ℤ
  developmentIntensity : ℚ
  centralityScore : ℚ
  arterialExposure : ℚ
  slopeRisePerM : ℚ
  populationCapacity : ℤ
  jobCapacity : ℤ
  leisureCapacity : ℤ

namespace BlockLandUse

noncomputable def postInit (item : BlockLandUse) : Except String BlockLandUse := do
  let polygon := item.polygonM
  let frontage := sortedSet item.frontageStreetIds
  let itemCapacities := (item.populationCapacity, item.jobCapacity, item.leisureCapacity)
  raiseIf (item.blockId < 0) "block_id must be >= 0"
  raiseIf (polygon.length < 4 ∨ polygon.head? ≠ polygon.getLast?)
    "land-use polygon must be a closed block ring"
  raiseIf (item.areaM2 ≤ 0 ∨ item.slopeRisePerM < 0)
    "land-use area must be > 0 and slope must be >= 0"
  raiseIf (∃ value ∈ [item.developmentIntensity, item.centralityScore, item.arterialExposure],
      value < 0 ∨ 1 < value) "land-use scores must be in [0, 1]"
  raiseIf (frontage = [] ∨ ∃ value ∈ frontage, value < 0) "land-use block requires street frontage"
  raiseIf (itemCapacities.1 < 0 ∨ itemCapacities.2.1 < 0 ∨ itemCapacities.2.2 < 0)
    "land-use capacities must be >= 0"
  let validated ← CityBlock.postInit
    ⟨item.blockId, polygon, item.areaM2, perimeterOf polygon, frontage⟩
  raiseIf (¬isclose item.centroidM.1 validated.centroidM.1 (1 / 10 ^ 9) (1 / 10 ^ 6) ∨
      ¬isclose item.centroidM.2 validated.centroidM.2 (1 / 10 ^ 9) (1 / 10 ^ 6))
    "land-use centroid does not match block polygon"
  if item.landUseType = .openSpace then
    raiseIf (item.accessNodeId ≠ none ∨ itemCapacities ≠ (0, 0, 0))
      "open-space blocks cannot have access or capacity"
  else do
    raiseIf (item.accessNodeId = none) "developed blocks require access and capacity"
    let expected ← capacities item.areaM2 item.developmentIntensity item.landUseType
    raiseIf (itemCapacities ≠ expected) "land-use capacities do not match area-based rates"
  return { item with frontageStreetIds := frontage }

def isDeveloped (item : BlockLandUse) : Bool := item.landUseType ≠ .openSpace

def densityPerHectare (item : BlockLandUse) : ℚ :=
  (item.populationCapacity + item.jobCapacity + item.leisureCapacity : ℤ) / (item.areaM2 / 10000)

end BlockLandUse

def BlockFeature.withUse (feature : BlockFeature) (landUseType : BlockLandUseType)
    (found : ℤ × ℤ × ℤ) : BlockLandUse where
  blockId := feature.block.blockId
  landUseType := landUseType
  polygonM := feature.block.polygonM
  centroidM := feature.block.centroidM
  areaM2 := feature.block.areaM2
  frontageStreetIds := feature.block.frontageStreetIds
  accessNodeId := if landUseType = .openSpace then none else some feature.accessNodeId
  developmentIntensity := feature.developmentIntensity
  centralityScore := feature.centralityScore
  arterialExposure := feature.arterialExposure
  slopeRisePerM := feature.slopeRisePerM
  populationCapacity := found.1
  jobCapacity := found.2.1
  leisureCapacity := found.2.2

/-- `_build_block_assignment` -/
noncomputable def buildBlockAssignment (feature : BlockFeature) (landUseType : BlockLandUseType) :
    Except String BlockLandUse := do
  let found ← (if landUseType = .openSpace then pure (0, 0, 0)
    else capacities feature.block.areaM2 feature.developmentIntensity landUseType)
  (feature.withUse landUseType found).postInit

inductive BlockPOIType where
  | home
  | workplace
  | leisure
  deriving DecidableEq, Repr

structure BlockPOI where
  poiId : ℤ
  blockId : ℤ
  poiType : BlockPOIType
  xM : ℚ
  yM : ℚ
  accessNodeId : ℤ
  capacityHint : ℤ

def BlockPOI.postInit (poi : BlockPOI) : Except String BlockPOI := do
  raiseIf (poi.poiId < 0 ∨ poi.blockId < 0 ∨ poi.accessNodeId < 0)
    "POI and access identifiers must be >= 0"
  raiseIf (poi.capacityHint ≤ 0) "POI capacity_hint must be > 0"
  return poi

def poiMix (block : BlockLandUse) : List (BlockPOIType × ℤ) :=
  match block.landUseType with
  | .residential => [(.home, block.populationCapacity), (.leisure, block.leisureCapacity)]
  | .commercial => [(.workplace, block.jobCapacity), (.leisure, block.leisureCapacity)]
  | .industrial => [(.workplace, block.jobCapacity)]
  | .mixedUse => [(.home, block.populationCapacity), (.workplace, block.jobCapacity),
      (.leisure, block.leisureCapacity)]
  | .openSpace => []

/-- The entries of the loops over the developed blocks and their mixes. -/
def poiEntries (block : BlockLandUse) : List (BlockLandUse × ℤ × BlockPOIType × ℤ) :=
  match block.accessNodeId with
  | none => []
  | some node =>
    if block.isDeveloped then (poiMix block).map fun entry => (block, node, entry) else []

def addPoi (pois : List BlockPOI) (entry : BlockLandUse × ℤ × BlockPOIType × ℤ) :
    Except String (List BlockPOI) := do
  let (block, node, poiType, capacityHint) := entry
  let poi ← BlockPOI.postInit {
    poiId := pois.length
    blockId := block.blockId
    poiType := poiType
    xM := block.centroidM.1
    yM := block.centroidM.2
    accessNodeId := node
    capacityHint := capacityHint }
  return pois ++ [poi]

def buildPois (blocks : List BlockLandUse) : Except String (List BlockPOI) :=
  (blocks.flatMap poiEntries).foldlM addPoi []

/-- Homes next to industry, each pair once. -/
def sharedEdgeCount (landUse : Dict ℤ BlockLandUseType) (adjacency : Dict ℤ (List ℤ)) : ℤ :=
  (adjacency.map fun item => ((item.2.countP fun right => item.1 < right ∧
    (landUse.get item.1 = some .industrial ∧ landUse.get right = some .residential ∨
      landUse.get item.1 = some .residential ∧ landUse.get right = some .industrial) : ℕ) : ℤ)).sum

/-- The share of the blocks with both homes and leisure. -/
def accessRatio (residentialIds : List ℤ) (types : ℤ → List BlockPOIType) : ℚ :=
  (residentialIds.countP fun blockId => .home ∈ types blockId ∧ .leisure ∈ types blockId : ℕ) /
    (max residentialIds.length 1 : ℕ)

/-- `statistics.median` -/
def median (values : List ℚ) : Except String ℚ :=
  let data := sortOn id values
  if data.length = 0 then .error "no median for empty data"
  else if data.length % 2 = 1 then .ok (data.getD (data.length / 2) 0)
  else .ok ((data.getD (data.length / 2 - 1) 0 + data.getD (data.length / 2) 0) / 2)

structure LandUseCatalog where
  terrainFingerprint : String
  urbanFormFingerprint : String
  streetNetworkFingerprint : String
  blockCatalogFingerprint : String
  blocks : List BlockLandUse
  pois : List BlockPOI
  developedBlockCount : ℤ
  industrialResidentialSharedEdgeCount : ℤ
  essentialAccessRatio : ℚ
  medianDevelopedDensityPerHectare : ℚ

def isSha256 (value : String) : Prop :=
  value.length = 64 ∧ value.toList.all (fun c => c ∈ "0123456789abcdefABCDEF".toList) = true

instance (value : String) : Decidable (isSha256 value) := by
  unfold isSha256
  infer_instance

/-- One POI of the catalog; the types noted of a block are the keys of its capacities. -/
def notePoi (blockById : Dict ℤ BlockLandUse) (noted : Dict ℤ (Dict BlockPOIType ℤ))
    (poi : BlockPOI) : Except String (Dict ℤ (Dict BlockPOIType ℤ)) :=
  match blockById.get poi.blockId with
  | none => .error "POI references a missing or open-space block"
  | some block => do
    raiseIf (block.isDeveloped = false) "POI references a missing or open-space block"
    raiseIf (some poi.accessNodeId ≠ block.accessNodeId)
      "POI access node does not match its block"
    raiseIf (¬isclose poi.xM block.centroidM.1 (1 / 10 ^ 9) (1 / 10 ^ 9) ∨
        ¬isclose poi.yM block.centroidM.2 (1 / 10 ^ 9) (1 / 10 ^ 9))
      "POI coordinates do not match block centroid"
    let capacitiesOf := (noted.get poi.blockId).getD []
    raiseIf (poi.poiType ∈ capacitiesOf.map Prod.fst) "land-use block cannot repeat a POI type"
    return noted.set poi.blockId (capacitiesOf.set poi.poiType poi.capacityHint)

def poiTypes : List BlockPOIType := [.home, .workplace, .leisure]

def checkMix (noted : Dict ℤ (Dict BlockPOIType ℤ)) (block : BlockLandUse) :
    Except String Unit := do
  let expectedMix : Dict BlockPOIType ℤ := Dict.update [] (poiMix block)
  let found := (noted.get block.blockId).getD []
  raiseIf (∃ poiType ∈ poiTypes, ¬(poiType ∈ found.map Prod.fst ↔
      poiType ∈ expectedMix.map Prod.fst)) "developed block POI mix does not match land use"
  raiseIf (∃ poiType ∈ poiTypes, found.get poiType ≠ expectedMix.get poiType)
    "developed block POI capacities are inconsistent"

/-- The checks of a catalog, which leave its blocks and POIs sorted. -/
def LandUseCatalog.postInit (catalog : LandUseCatalog) : Except String LandUseCatalog := do
  raiseIf (∃ value ∈ [catalog.terrainFingerprint, catalog.urbanFormFingerprint,
      catalog.streetNetworkFingerprint, catalog.blockCatalogFingerprint], ¬isSha256 value)
    "land-use source fingerprints must be SHA-256 digests"
  let blocks := sortOn BlockLandUse.blockId catalog.blocks
  let pois := sortOn BlockPOI.poiId catalog.pois
  raiseIf (blocks = [] ∨
      blocks.map BlockLandUse.blockId ≠ (List.range blocks.length).map Int.ofNat)
    "land-use blocks must be non-empty with dense IDs"
  raiseIf (pois.map BlockPOI.poiId ≠ (List.range pois.length).map Int.ofNat)
    "land-use POIs must have dense zero-based IDs"
  let developed := blocks.filter BlockLandUse.isDeveloped
  raiseIf (catalog.developedBlockCount ≠ developed.length ∨ developed = [])
    "developed_block_count does not match land-use blocks"
  let noted ← pois.foldlM (notePoi (Dict.update [] (blocks.map fun item => (item.blockId, item))))
    (Dict.update [] (blocks.map fun item => (item.blockId, [])))
  raiseIf (∃ poiType ∈ poiTypes, poiType ∉ pois.map BlockPOI.poiType)
    "land-use catalog requires home, workplace, and leisure POIs"
  developed.forM (checkMix noted)
  let residential := (developed.filter fun item => item.landUseType = .residential).map
    BlockLandUse.blockId
  let computedAccessRatio := accessRatio residential fun blockId =>
    ((noted.get blockId).getD []).map Prod.fst
  raiseIf (¬isclose catalog.essentialAccessRatio computedAccessRatio (1 / 10 ^ 9) (1 / 10 ^ 12))
    "essential_access_ratio does not match residential POIs"
  let computedSharedCount := sharedEdgeCount
    (Dict.update [] (blocks.map fun item => (item.blockId, item.landUseType)))
    (blockAdjacency (blocks.map fun item => (item.blockId, item.polygonM)))
  raiseIf (catalog.industrialResidentialSharedEdgeCount ≠ computedSharedCount)
    "industrial-residential adjacency metric is inconsistent"
  raiseIf (computedSharedCount ≠ 0) "industrial and residential blocks cannot share an edge"
  let medianDensity ← median (sortOn id (developed.map BlockLandUse.densityPerHectare))
  raiseIf (¬isclose catalog.medianDevelopedDensityPerHectare medianDensity
      (1 / 10 ^ 9) (1 / 10 ^ 9)) "median developed density does not match block capacities"
  return { catalog with
    blocks := blocks
    pois := pois
    medianDevelopedDensityPerHectare := medianDensity }

/-- `build_block_land_use_catalog` from the features of the blocks on. -/
noncomputable def buildBlockLandUseCatalog (terrainFingerprint urbanFormFingerprint
    streetNetworkFingerprint blockCatalogFingerprint : String) (features : List BlockFeature) :
    Except String LandUseCatalog := do
  let adjacency := blockAdjacency (features.map fun f => (f.id, f.block.polygonM))
  let landUseByBlockId ← assignLandUse features adjacency
  let blocks ← features.mapM fun feature =>
    match landUseByBlockId.get feature.id with
    | none => .error s!"{feature.id}"
    | some landUseType => buildBlockAssignment feature landUseType
  let pois ← buildPois blocks
  let residentialIds := (blocks.filter fun item => item.landUseType = .residential).map
    BlockLandUse.blockId
  let essentialRatio := accessRatio residentialIds fun blockId =>
    (pois.filter fun poi => poi.blockId = blockId).map BlockPOI.poiType
  let developed := blocks.filter BlockLandUse.isDeveloped
  let medianDensity ← median (developed.map BlockLandUse.densityPerHectare)
  LandUseCatalog.postInit {
    terrainFingerprint := terrainFingerprint
    urbanFormFingerprint := urbanFormFingerprint
    streetNetworkFingerprint := streetNetworkFingerprint
    blockCatalogFingerprint := blockCatalogFingerprint
    blocks := blocks
    pois := pois
    developedBlockCount := developed.length
    industrialResidentialSharedEdgeCount := sharedEdgeCount landUseByBlockId adjacency
    essentialAccessRatio := essentialRatio
    medianDevelopedDensityPerHectare := medianDensity }

end Model

section Assignments

variable {feature : BlockFeature} {use : BlockLandUseType} {block : CityBlock}

theorem isclose_self {K : Type} [Field K] [LinearOrder K] (a relTol absTol : K) :
    isclose a a relTol absTol := .inl rfl

theorem perimeter_pos {polygon : List (PointM ℚ)} (long : 4 ≤ polygon.length)
    (distinct : polygon.dropLast.Nodup) : 0 < perimeterOf polygon := by
  match polygon, long, distinct with
  | a :: b :: c :: rest, _, distinct =>
    have apart : a ≠ b := by
      rw [List.dropLast_cons_cons, List.dropLast_cons_cons] at distinct
      exact fun same => (List.nodup_cons.mp distinct).1 (same ▸ List.mem_cons_self)
    have apart' : ((a.1 : ℝ), (a.2 : ℝ)) ≠ ((b.1 : ℝ), (b.2 : ℝ)) := fun same => apart <| by
      obtain ⟨first, second⟩ := Prod.mk.inj same
      exact Prod.ext (Rat.cast_injective first) (Rat.cast_injective second)
    unfold perimeterOf
    rw [Scalar.path_length_real, List.map_cons, List.map_cons, List.tail_cons, List.zip_cons_cons,
      List.map_cons, List.sum_cons]
    refine add_pos_of_pos_of_nonneg (Scalar.dist_pos apart') (List.sum_nonneg fun x listed => ?_)
    obtain ⟨piece, -, rfl⟩ := List.mem_map.mp listed
    exact Scalar.dist_nonneg

theorem CityBlock.rebuilt (fits : block.postInit = .ok block) :
    (0 ≤ block.blockId ∧ 4 ≤ block.polygonM.length ∧
      block.polygonM.head? = block.polygonM.getLast? ∧ 0 < block.areaM2 ∧
      sortedSet block.frontageStreetIds = block.frontageStreetIds ∧
      ¬(block.frontageStreetIds = [] ∨ ∃ value ∈ block.frontageStreetIds, value < 0)) ∧
    CityBlock.postInit { block with perimeterM := perimeterOf block.polygonM } =
      .ok { block with perimeterM := perimeterOf block.polygonM } := by
  unfold CityBlock.postInit at fits ⊢
  dsimp only at fits ⊢
  obtain ⟨_, nonneg, fits⟩ := bind_ok.mp fits
  obtain ⟨_, closed, fits⟩ := bind_ok.mp fits
  obtain ⟨_, distinct, fits⟩ := bind_ok.mp fits
  obtain ⟨_, simple, fits⟩ := bind_ok.mp fits
  obtain ⟨_, area, fits⟩ := bind_ok.mp fits
  obtain ⟨_, -, fits⟩ := bind_ok.mp fits
  obtain ⟨_, matching, fits⟩ := bind_ok.mp fits
  obtain ⟨_, -, fits⟩ := bind_ok.mp fits
  obtain ⟨_, frontage, fits⟩ := bind_ok.mp fits
  have sorted : sortedSet block.frontageStreetIds = block.frontageStreetIds :=
    congrArg CityBlock.frontageStreetIds (pure_ok.mp fits)
  rw [nonneg, closed, distinct, simple, area, matching, frontage, sorted]
  rw [raise_if_ok] at nonneg closed distinct area frontage
  rw [not_or, not_lt, not_not] at closed
  rw [sorted] at frontage
  have positive := perimeter_pos closed.1 (not_not.mp distinct)
  rw [(raise_if_ok (u := ())).mpr (not_le.mpr positive),
    (raise_if_ok (u := ())).mpr (not_not.mpr (isclose_self _ _ _))]
  exact ⟨⟨not_lt.mp nonneg, closed.1, closed.2, not_le.mp area, rfl, frontage⟩, rfl⟩

theorem capacity_pos {hectares scale rate : ℚ} : 0 ≤ capacity hectares scale rate ∧
    (rate ≠ 0 → 0 < capacity hectares scale rate) := by
  unfold capacity
  split
  · rename_i zero
    exact ⟨le_rfl, fun other => absurd zero other⟩
  · have one := le_max_left 1 (roundHalfEven (hectares * rate * scale))
    exact ⟨by omega, fun _ => by omega⟩

structure Built (feature : BlockFeature) (use : BlockLandUseType) (item : BlockLandUse) : Prop where
  blockId : item.blockId = feature.id
  landUseType : item.landUseType = use
  polygonM : item.polygonM = feature.block.polygonM
  access : item.accessNodeId = if use = .openSpace then none else some feature.accessNodeId
  hints : ∀ entry ∈ poiMix item, 0 < entry.2
  fits : item.postInit = .ok item

theorem build_block_assignment_ok (feature : BlockFeature) (use : BlockLandUseType) :
    ∃ item, buildBlockAssignment feature use = .ok item ∧ Built feature use item := by
  obtain ⟨⟨id_nonneg, long, closed, area, sorted, frontage⟩, rebuilt⟩ :=
    CityBlock.rebuilt feature.block_fits
  have scores : ¬∃ value ∈ [feature.developmentIntensity, feature.centralityScore,
      feature.arterialExposure], value < 0 ∨ 1 < value := by
    rintro ⟨value, listed, outside⟩
    have range := feature.scores value listed
    rcases outside with below | above
    · exact absurd range.1 (not_le.mpr below)
    · exact absurd range.2 (not_le.mpr above)
  obtain ⟨found, derived, nonneg, expected, hints⟩ : ∃ found : ℤ × ℤ × ℤ,
      (if use = .openSpace then pure (0, 0, 0)
        else capacities feature.block.areaM2 feature.developmentIntensity use) = .ok found ∧
      ¬(found.1 < 0 ∨ found.2.1 < 0 ∨ found.2.2 < 0) ∧ (use = .openSpace → found = (0, 0, 0)) ∧
      ∀ entry ∈ poiMix (feature.withUse use found), 0 < entry.2 := by
    cases use with
    | openSpace => exact ⟨(0, 0, 0), rfl, by decide, fun _ => rfl,
        by simp [poiMix, BlockFeature.withUse]⟩
    | residential | commercial | mixedUse | industrial =>
      refine ⟨_, rfl, ?_, nofun, ?_⟩
      · simp only [not_or, not_lt]
        exact ⟨capacity_pos.1, capacity_pos.1, capacity_pos.1⟩
      · simp [poiMix, BlockFeature.withUse, capacity_pos.2]
  have fits : (feature.withUse use found).postInit = .ok (feature.withUse use found) := by
    unfold BlockLandUse.postInit BlockFeature.withUse
    dsimp only
    rw [sorted]
    refine bind_ok.mpr ⟨(), raise_if_ok.mpr (not_lt.mpr id_nonneg), ?_⟩
    refine bind_ok.mpr ⟨(), raise_if_ok.mpr (not_or.mpr ⟨not_lt.mpr long, not_not.mpr closed⟩), ?_⟩
    refine bind_ok.mpr ⟨(), raise_if_ok.mpr (not_or.mpr ⟨not_le.mpr area,
      not_lt.mpr feature.slope_nonneg⟩), ?_⟩
    refine bind_ok.mpr ⟨(), raise_if_ok.mpr scores, ?_⟩
    refine bind_ok.mpr ⟨(), raise_if_ok.mpr frontage, ?_⟩
    refine bind_ok.mpr ⟨(), raise_if_ok.mpr nonneg, ?_⟩
    refine bind_ok.mpr ⟨_, rebuilt, bind_ok.mpr ⟨(), raise_if_ok.mpr ?_, ?_⟩⟩
    · exact not_or.mpr ⟨not_not.mpr (isclose_self _ _ _), not_not.mpr (isclose_self _ _ _)⟩
    split
    · rename_i isOpen
      rw [expected isOpen]
      rfl
    · rename_i developed
      rw [if_neg developed] at derived
      refine bind_ok.mpr ⟨(), raise_if_ok.mpr (by simp), bind_ok.mpr ⟨found, derived, ?_⟩⟩
      rw [(raise_if_ok (u := ())).mpr (not_not.mpr rfl)]
      rfl
  exact ⟨_, bind_ok.mpr ⟨found, derived, fits⟩, rfl, rfl, rfl, rfl, hints, fits⟩

end Assignments

section Adjacency

variable {blocks : List (ℤ × List (PointM ℚ))} {d : Dict ℤ (List ℤ)} {a b : ℤ}

theorem get_update_nil {α β : Type} {items : List α} {key : α → ℤ} {d : Dict ℤ (List β)} {k : ℤ}
    (none : ∀ k, (d.get k).getD [] = []) :
    ((Dict.update d (items.map fun item => (key item, []))).get k).getD [] = [] := by
  induction items generalizing d with
  | nil => exact none k
  | cons item items ih =>
    refine ih fun k => ?_
    rw [Dict.get_set]
    split
    · rfl
    · exact none k

theorem mem_pairs_of {ids : List ℤ} : (a, b) ∈ pairsOf ids ↔ a ∈ ids ∧ b ∈ ids ∧ a < b := by
  unfold pairsOf sortedSet
  simp [and_assoc]

theorem mem_meet {pairs : List (ℤ × ℤ)} : b ∈ ((pairs.foldl meet d).get a).getD [] ↔
    b ∈ (d.get a).getD [] ∨ (a, b) ∈ pairs ∨ (b, a) ∈ pairs := by
  induction pairs generalizing d with
  | nil => simp
  | cons pair pairs ih =>
    have here : b ∈ ((meet d pair).get a).getD [] ↔
        b ∈ (d.get a).getD [] ∨ (a, b) = pair ∨ (b, a) = pair := by
      unfold meet
      dsimp only
      rw [Dict.get_set, Dict.get_set, Dict.get_set]
      split <;> split <;> grind
    rw [List.foldl_cons, ih, here, List.mem_cons, List.mem_cons]
    grind

theorem keys_meet {pairs : List (ℤ × ℤ)} (distinct : (d.map Prod.fst).Nodup) :
    ((pairs.foldl meet d).map Prod.fst).Nodup := by
  induction pairs generalizing d with
  | nil => exact distinct
  | cons pair pairs ih => exact ih (Dict.nodup_keys_set (Dict.nodup_keys_set distinct))

def SharesEdge (polygon polygon' : List (PointM ℚ)) : Prop :=
  ∃ edge ∈ edgesOf polygon, edge ∈ edgesOf polygon'

theorem block_adjacency_spec : ((blockAdjacency blocks).map Prod.fst).Nodup ∧
    ∀ a b, b ∈ ((blockAdjacency blocks).get a).getD [] ↔ a ≠ b ∧
      ∃ p q, (a, p) ∈ blocks ∧ (b, q) ∈ blocks ∧ SharesEdge p q := by
  have groups : ∀ entries : List ((PointM ℚ × PointM ℚ) × ℤ),
      Dict.Groups (entries.foldl (fun d e => Dict.appendAt d e.1 e.2) []) entries := by
    intro entries
    induction entries using List.reverseRecOn with
    | nil => exact .nil
    | append_singleton entries entry ih =>
      rw [List.foldl_append]
      exact ih.append_at
  have entry : ∀ edge c, (edge, c) ∈ edgeEntries blocks ↔
      ∃ p, (c, p) ∈ blocks ∧ edge ∈ edgesOf p := by
    intro edge c
    simp [edgeEntries, and_comm, and_assoc]
  have shared : ∀ a b, (∃ item ∈ (edgeEntries blocks).foldl (fun d e => Dict.appendAt d e.1 e.2) [],
      (a, b) ∈ pairsOf item.2) ↔
        a < b ∧ ∃ p q, (a, p) ∈ blocks ∧ (b, q) ∈ blocks ∧ SharesEdge p q := by
    intro a b
    constructor
    · rintro ⟨item, listed, paired⟩
      obtain ⟨in_a, in_b, less⟩ := mem_pairs_of.mp paired
      rw [(groups _).listed item listed, Dict.mem_values_at, entry] at in_a in_b
      obtain ⟨p, known, edge⟩ := in_a
      obtain ⟨q, known', edge'⟩ := in_b
      exact ⟨less, p, q, known, known', item.1, edge, edge'⟩
    · rintro ⟨less, p, q, known, known', edge, at_p, at_q⟩
      have first := (entry edge a).mpr ⟨p, known, at_p⟩
      have second := (entry edge b).mpr ⟨q, known', at_q⟩
      obtain ⟨item, listed, rfl⟩ := List.mem_map.mp
        (((groups (edgeEntries blocks)).keys edge).mpr (List.mem_map_of_mem first))
      refine ⟨item, listed, mem_pairs_of.mpr ⟨?_, ?_, less⟩⟩
      · rw [(groups _).listed item listed, Dict.mem_values_at]
        exact first
      · rw [(groups _).listed item listed, Dict.mem_values_at]
        exact second
  constructor
  · exact keys_meet (Dict.nodup_keys_update List.nodup_nil)
  · intro a b
    unfold blockAdjacency
    dsimp only
    rw [mem_meet, get_update_nil fun _ => rfl, List.mem_flatMap, List.mem_flatMap, shared, shared,
      or_iff_right List.not_mem_nil]
    constructor
    · rintro (⟨less, sharing⟩ | ⟨less, p, q, known, known', edge, at_p, at_q⟩)
      · exact ⟨less.ne, sharing⟩
      · exact ⟨less.ne', q, p, known', known, edge, at_q, at_p⟩
    · rintro ⟨apart, p, q, known, known', edge, at_p, at_q⟩
      rcases lt_or_gt_of_ne apart with less | less
      · exact .inl ⟨less, p, q, known, known', edge, at_p, at_q⟩
      · exact .inr ⟨less, q, p, known', known, edge, at_q, at_p⟩

end Adjacency

section Pois

variable {items : List BlockLandUse} {item : BlockLandUse}

/-- What the POIs of a block need. -/
structure Served (item : BlockLandUse) : Prop where
  id_nonneg : 0 ≤ item.blockId
  access : item.isDeveloped = true → ∃ node, 0 ≤ node ∧ item.accessNodeId = some node
  closed : item.isDeveloped = false → item.accessNodeId = none
  hints : ∀ entry ∈ poiMix item, 0 < entry.2

theorem Served.entries (served : Served item) (developed : item.isDeveloped = true) :
    ∃ node, 0 ≤ node ∧ item.accessNodeId = some node ∧
      poiEntries item = (poiMix item).map fun entry => (item, node, entry) := by
  obtain ⟨node, nonneg, access⟩ := served.access developed
  refine ⟨node, nonneg, access, ?_⟩
  unfold poiEntries
  rw [access]
  dsimp only
  rw [if_pos developed]

theorem Served.mem (served : Served item) {e : BlockLandUse × ℤ × BlockPOIType × ℤ}
    (listed : e ∈ poiEntries item) : item.isDeveloped = true ∧ e.1 = item ∧ 0 ≤ e.2.1 ∧
      item.accessNodeId = some e.2.1 ∧ e.2.2 ∈ poiMix item := by
  by_cases developed : item.isDeveloped = true
  · obtain ⟨node, nonneg, access, entries⟩ := served.entries developed
    rw [entries] at listed
    obtain ⟨entry, mix, rfl⟩ := List.mem_map.mp listed
    exact ⟨developed, rfl, nonneg, access, mix⟩
  · unfold poiEntries at listed
    rw [served.closed (Bool.not_eq_true _ ▸ developed)] at listed
    cases listed

/-- A POI as its entry makes it. -/
structure Placed (e : BlockLandUse × ℤ × BlockPOIType × ℤ) (poi : BlockPOI) : Prop where
  row : (poi.blockId, poi.poiType, poi.capacityHint) = (e.1.blockId, e.2.2)
  place : (poi.xM, poi.yM) = e.1.centroidM
  access : poi.accessNodeId = e.2.1

theorem build_pois_ok (served : ∀ item ∈ items, Served item) : ∃ pois, buildPois items = .ok pois ∧
    pois.map BlockPOI.poiId = (List.range pois.length).map Int.ofNat ∧
    List.Forall₂ Placed (items.flatMap poiEntries) pois := by
  refine fold_total (I := fun past pois => pois.map BlockPOI.poiId =
    (List.range pois.length).map Int.ofNat ∧ List.Forall₂ Placed past pois)
    (fun past e rest pois split held => ?_) ⟨rfl, .nil⟩
  have listed : e ∈ items.flatMap poiEntries := split ▸ List.mem_append_right _ List.mem_cons_self
  obtain ⟨item, known, entry⟩ := List.mem_flatMap.mp listed
  obtain ⟨-, rfl, nonneg, -, mix⟩ := (served item known).mem entry
  obtain ⟨block, node, poiType, hint⟩ := e
  have hint_pos := (served block known).hints _ mix
  have id_nonneg := (served block known).id_nonneg
  refine ⟨_, bind_ok.mpr ⟨_, bind_ok.mpr ⟨(), raise_if_ok.mpr ?_, bind_ok.mpr ⟨(),
    raise_if_ok.mpr (not_le.mpr hint_pos), rfl⟩⟩, rfl⟩, ?_, ?_⟩
  · dsimp only at nonneg ⊢
    omega
  · rw [List.map_append, held.1, List.length_append, List.length_singleton, List.range_succ,
      List.map_append]
    rfl
  · exact List.rel_append held.2 (.cons ⟨rfl, rfl, rfl⟩ .nil)

def rowsOf (pois : List BlockPOI) : List (ℤ × BlockPOIType × ℤ) :=
  pois.map fun poi => (poi.blockId, poi.poiType, poi.capacityHint)

theorem mix_nodup (item : BlockLandUse) : ((poiMix item).map Prod.fst).Nodup := by
  unfold poiMix
  cases item.landUseType <;> simp

theorem values_at_append {κ α : Type} [DecidableEq κ] {l l' : List (κ × α)} {k : κ} :
    Dict.valuesAt (l ++ l') k = Dict.valuesAt l k ++ Dict.valuesAt l' k := by
  unfold Dict.valuesAt
  rw [List.filter_append, List.map_append]

theorem values_at_rows {pois : List BlockPOI} (served : ∀ item ∈ items, Served item)
    (distinct : (items.map BlockLandUse.blockId).Nodup)
    (placed : List.Forall₂ Placed (items.flatMap poiEntries) pois) (listed : item ∈ items)
    (developed : item.isDeveloped = true) :
    Dict.valuesAt (rowsOf pois) item.blockId = poiMix item := by
  have rows : rowsOf pois =
      (items.flatMap poiEntries).map fun e => (e.1.blockId, e.2.2) :=
    (paired_map_eq placed fun _ _ here => here.row.symm).symm
  have elsewhere : ∀ (l : List BlockLandUse) (k : ℤ), (∀ other ∈ l, Served other) →
      k ∉ l.map BlockLandUse.blockId →
      Dict.valuesAt ((l.flatMap poiEntries).map fun e => (e.1.blockId, e.2.2)) k = [] := by
    intro l k served absent
    refine List.map_eq_nil_iff.mpr (List.filter_eq_nil_iff.mpr fun row listed => ?_)
    obtain ⟨e, entry, rfl⟩ := List.mem_map.mp listed
    obtain ⟨other, known, entry⟩ := List.mem_flatMap.mp entry
    obtain ⟨-, rfl, -⟩ := (served other known).mem entry
    rw [decide_eq_true_eq]
    exact fun same => absent (same ▸ List.mem_map_of_mem known)
  rw [rows]
  obtain ⟨before, after, rfl⟩ := List.append_of_mem listed
  rw [List.map_append, List.map_cons] at distinct
  obtain ⟨-, rest, apart⟩ := List.nodup_append.mp distinct
  obtain ⟨apart', -⟩ := List.nodup_cons.mp rest
  obtain ⟨node, -, -, entries⟩ := (served item listed).entries developed
  have own : Dict.valuesAt ((poiEntries item).map fun e => (e.1.blockId, e.2.2)) item.blockId =
      poiMix item := by
    unfold Dict.valuesAt
    rw [entries, List.map_map, List.filter_eq_self.mpr, List.map_map]
    · exact List.map_id _
    · intro row listed
      obtain ⟨_, -, rfl⟩ := List.mem_map.mp listed
      exact decide_eq_true rfl
  rw [List.flatMap_append, List.flatMap_cons, List.map_append, List.map_append, values_at_append,
    values_at_append, own,
    elsewhere before _ (fun other known => served other (List.mem_append_left _ known))
      fun here => apart _ here _ List.mem_cons_self rfl,
    elsewhere after _ (fun other known => served other (List.mem_append_right _
      (List.mem_cons_of_mem _ known))) apart', List.nil_append, List.append_nil]

theorem note_pois_ok {pois : List BlockPOI} (served : ∀ item ∈ items, Served item)
    (distinct : (items.map BlockLandUse.blockId).Nodup)
    (placed : List.Forall₂ Placed (items.flatMap poiEntries) pois) : ∃ noted,
      pois.foldlM (notePoi (Dict.update [] (items.map fun item => (item.blockId, item))))
        (Dict.update [] (items.map fun item => (item.blockId, []))) = .ok noted ∧
      ∀ k, (noted.get k).getD [] = Dict.valuesAt (rowsOf pois) k := by
  have keys : ((items.map fun item => (item.blockId, item)).map Prod.fst).Nodup := by
    rw [List.map_map]
    exact distinct
  refine fold_total (I := fun past (noted : Dict ℤ (Dict BlockPOIType ℤ)) =>
    ∀ k, (noted.get k).getD [] = Dict.valuesAt (rowsOf past) k)
    (fun past poi rest noted split held => ?_) fun k => get_update_nil fun _ => rfl
  obtain ⟨e, listed, here⟩ := paired_right placed
    (split ▸ List.mem_append_right _ List.mem_cons_self : poi ∈ pois)
  obtain ⟨item, known, entry⟩ := List.mem_flatMap.mp listed
  obtain ⟨developed, rfl, -, access, -⟩ := (served item known).mem entry
  obtain ⟨blockId, mix⟩ := Prod.mk.inj here.row
  have found : (Dict.update [] (items.map fun item => (item.blockId, item))).get poi.blockId =
      some e.1 := by
    rw [Dict.update_fresh keys fun _ _ => rfl, List.nil_append, blockId]
    exact (Dict.get_eq_some_iff keys).mpr (List.mem_map_of_mem known)
  have single : ∀ k, Dict.valuesAt (rowsOf [poi]) k =
      if poi.blockId = k then [(poi.poiType, poi.capacityHint)] else [] := by
    intro k
    by_cases same : poi.blockId = k <;> simp [Dict.valuesAt, rowsOf, same]
  have new : poi.poiType ∉ ((noted.get poi.blockId).getD []).map Prod.fst := by
    -- the mix of the block would have the type twice
    have types := mix_nodup e.1
    have parts : rowsOf pois = rowsOf past ++ (rowsOf [poi] ++ rowsOf rest) := by
      rw [split]
      exact List.map_append
    rw [← values_at_rows served distinct placed known developed, parts, values_at_append,
      values_at_append, ← blockId, single, if_pos rfl, List.map_append] at types
    rw [held]
    exact fun before => (List.nodup_append.mp types).2.2 _ before _ List.mem_cons_self rfl
  unfold notePoi
  rw [found]
  dsimp only
  refine ⟨_, bind_ok.mpr ⟨(), raise_if_ok.mpr (by simp [developed]), bind_ok.mpr ⟨(),
    raise_if_ok.mpr (by simp [here.access, access]), bind_ok.mpr ⟨(), raise_if_ok.mpr ?_,
      bind_ok.mpr ⟨(), raise_if_ok.mpr new, rfl⟩⟩⟩⟩, fun k => ?_⟩
  · obtain ⟨x, y⟩ := Prod.mk.inj here.place
    rw [x, y]
    exact not_or.mpr ⟨not_not.mpr (isclose_self _ _ _), not_not.mpr (isclose_self _ _ _)⟩
  · have later : rowsOf (past ++ [poi]) = rowsOf past ++ rowsOf [poi] := List.map_append
    rw [Dict.get_set, later, values_at_append, single, ← held]
    split
    · rename_i same
      have fresh : Dict.get ((noted.get poi.blockId).getD []) poi.poiType = none := by
        cases got : Dict.get ((noted.get poi.blockId).getD []) poi.poiType with
        | none => rfl
        | some _ => exact absurd (Dict.mem_keys_iff.mpr ⟨_, got⟩) new
      rw [Option.getD_some, Dict.set_of_get_none fresh, if_pos same.symm, same]
    · rename_i other
      rw [if_neg (Ne.symm other), List.append_nil]

end Pois

section Accepted

variable {features : List BlockFeature} {adjacency : Dict ℤ (List ℤ)}
  {d d' : Dict ℤ BlockLandUseType} {items : List BlockLandUse}

theorem median_ok (values : List ℚ) (some_value : values ≠ []) : ∃ m, median values = .ok m ∧
    median (sortOn id values) = .ok m := by
  have sorted : sortOn id (sortOn id values) = sortOn id values :=
    sort_on_eq_self sort_on_sorted
  have length : (sortOn id values).length ≠ 0 := by
    rw [length_sort_on]
    exact fun none => some_value (List.length_eq_zero_iff.mp none)
  unfold median
  rw [sorted]
  dsimp only
  rw [if_neg length]
  split
  · exact ⟨_, rfl, rfl⟩
  · exact ⟨_, rfl, rfl⟩

/-- Homes and industry are no neighbours. -/
def Separate (d : Dict ℤ BlockLandUseType) (adjacency : Dict ℤ (List ℤ)) : Prop :=
  ∀ i r, d.get i = some .industrial → d.get r = some .residential →
    r ∉ (adjacency.get i).getD [] ∧ i ∉ (adjacency.get r).getD []

theorem shared_edge_count_zero (distinct : (adjacency.map Prod.fst).Nodup)
    (apart : Separate d adjacency) :
    sharedEdgeCount d adjacency = 0 := by
  unfold sharedEdgeCount
  refine List.sum_eq_zero fun n listed => ?_
  obtain ⟨⟨left, neighbors⟩, known, rfl⟩ := List.mem_map.mp listed
  have found : (adjacency.get left).getD [] = neighbors := by
    rw [(Dict.get_eq_some_iff distinct).mpr known]
    rfl
  rw [Int.natCast_eq_zero, List.countP_eq_zero]
  intro right member
  rw [decide_eq_true_eq, ← found] at *
  rintro ⟨-, ⟨industry, home⟩ | ⟨home, industry⟩⟩
  · exact (apart left right industry home).1 member
  · exact (apart right left industry home).2 member

def Uses (d : Dict ℤ BlockLandUseType) (features : List BlockFeature)
    (items : List BlockLandUse) : Prop :=
  List.Forall₂ (fun feature item => ∃ use, d.get feature.id = some use ∧ Built feature use item)
    features items

theorem Uses.served (uses : Uses d features items) : ∀ item ∈ items, Served item := by
  intro item listed
  obtain ⟨feature, -, use, -, built⟩ := paired_right uses listed
  have id_nonneg := (CityBlock.rebuilt feature.block_fits).1.1
  refine ⟨built.blockId ▸ id_nonneg, fun developed => ?_, fun isOpen => ?_, built.hints⟩
  · have use_developed : use ≠ .openSpace := by
      rw [← built.landUseType]
      simpa [BlockLandUse.isDeveloped] using developed
    exact ⟨_, feature.node_nonneg, built.access.trans (if_neg use_developed)⟩
  · have use_open : use = .openSpace := by
      rw [← built.landUseType]
      simpa [BlockLandUse.isDeveloped] using isOpen
    exact built.access.trans (if_pos use_open)

theorem Uses.ids (uses : Uses d features items) :
    items.map BlockLandUse.blockId = features.map BlockFeature.id :=
  (paired_map_eq uses fun _ _ ⟨_, _, built⟩ => built.blockId.symm).symm

theorem Uses.rings (uses : Uses d features items) :
    (items.map fun item => (item.blockId, item.polygonM)) =
      features.map fun f => (f.id, f.block.polygonM) :=
  (paired_map_eq uses fun _ _ ⟨_, _, built⟩ => by rw [built.blockId, built.polygonM]).symm

theorem Uses.occurs (uses : Uses d features items) (keys : (d.map Prod.fst).Nodup)
    (known : ∀ k, k ∈ d.map Prod.fst → k ∈ features.map BlockFeature.id)
    {use : BlockLandUseType} (occurs : use ∈ d.map Prod.snd) :
    ∃ item ∈ items, item.landUseType = use := by
  obtain ⟨⟨k, _⟩, listed, rfl⟩ := List.mem_map.mp occurs
  obtain ⟨feature, mem, same⟩ := List.mem_map.mp (known k (List.mem_map_of_mem listed))
  obtain ⟨item, mem', use, found, built⟩ := paired_left uses mem
  rw [same, (Dict.get_eq_some_iff keys).mpr listed] at found
  exact ⟨item, mem', built.landUseType.trans (Option.some.inj found).symm⟩

/-- The checks of the catalog hold of what is derived for it. -/
theorem catalog_fits {c : LandUseCatalog} (uses : Uses d features c.blocks)
    (dense : features.map BlockFeature.id = (List.range features.length).map Int.ofNat)
    (keys : (d.map Prod.fst).Nodup)
    (known : ∀ k, k ∈ d.map Prod.fst → k ∈ features.map BlockFeature.id)
    (occur : ∀ use ∈ functionalTypes, use ∈ d.map Prod.snd)
    (apart : Separate d (blockAdjacency (features.map fun f => (f.id, f.block.polygonM))))
    (digests : ∀ value ∈ [c.terrainFingerprint, c.urbanFormFingerprint,
      c.streetNetworkFingerprint, c.blockCatalogFingerprint], isSha256 value)
    (poi_ids : c.pois.map BlockPOI.poiId = (List.range c.pois.length).map Int.ofNat)
    (placed : List.Forall₂ Placed (c.blocks.flatMap poiEntries) c.pois)
    (count : c.developedBlockCount = (c.blocks.filter BlockLandUse.isDeveloped).length)
    (shared : c.industrialResidentialSharedEdgeCount = 0)
    (ratio : c.essentialAccessRatio = accessRatio ((c.blocks.filter fun item =>
      item.landUseType = .residential).map BlockLandUse.blockId) fun blockId =>
        (c.pois.filter fun poi => poi.blockId = blockId).map BlockPOI.poiType)
    (density : median ((c.blocks.filter BlockLandUse.isDeveloped).map
      BlockLandUse.densityPerHectare) = .ok c.medianDevelopedDensityPerHectare) :
    c.postInit = .ok c := by
  have served := uses.served
  have ids := uses.ids
  have sizes : features.length = c.blocks.length := uses.length_eq
  have ascending : ∀ {n : ℕ}, ((List.range n).map Int.ofNat).Pairwise (· < ·) := by
    intro n
    exact List.pairwise_map.mpr (List.pairwise_lt_range.imp fun less => Int.ofNat_lt.mpr less)
  have distinct : (c.blocks.map BlockLandUse.blockId).Nodup := by
    rw [ids, dense]
    exact ascending.imp ne_of_lt
  have blocks_sorted : sortOn BlockLandUse.blockId c.blocks = c.blocks := by
    refine sort_on_eq_self (List.pairwise_map.mp (?_ :
      (c.blocks.map BlockLandUse.blockId).Pairwise (· ≤ ·)))
    rw [ids, dense]
    exact ascending.imp le_of_lt
  have pois_sorted : sortOn BlockPOI.poiId c.pois = c.pois := by
    refine sort_on_eq_self (List.pairwise_map.mp (?_ :
      (c.pois.map BlockPOI.poiId).Pairwise (· ≤ ·)))
    rw [poi_ids]
    exact ascending.imp le_of_lt
  obtain ⟨noted, note_run, noted_at⟩ := note_pois_ok served distinct placed
  have mixes : ∀ item ∈ c.blocks, item.isDeveloped = true →
      (noted.get item.blockId).getD [] = poiMix item := fun item listed developed =>
    (noted_at _).trans (values_at_rows served distinct placed listed developed)
  have shown : ∀ item ∈ c.blocks, item.isDeveloped = true → ∀ entry ∈ poiMix item,
      entry.1 ∈ c.pois.map BlockPOI.poiType := by
    intro item listed developed entry mix
    rw [← values_at_rows served distinct placed listed developed, Dict.mem_values_at] at mix
    obtain ⟨poi, known, same⟩ := List.mem_map.mp mix
    exact List.mem_map.mpr ⟨poi, known, congrArg (fun row => row.2.1) same⟩
  obtain ⟨house, house_listed, house_use⟩ :=
    uses.occurs keys known (occur .residential (by decide))
  obtain ⟨office, office_listed, office_use⟩ :=
    uses.occurs keys known (occur .commercial (by decide))
  have house_built : house.isDeveloped = true := by simp [BlockLandUse.isDeveloped, house_use]
  have office_built : office.isDeveloped = true := by simp [BlockLandUse.isDeveloped, office_use]
  have house_shown := shown house house_listed house_built
  have office_shown := shown office office_listed office_built
  simp only [poiMix, house_use, office_use, List.forall_mem_cons] at house_shown office_shown
  have types : (fun blockId => ((noted.get blockId).getD []).map Prod.fst) = fun blockId =>
      (c.pois.filter fun poi => poi.blockId = blockId).map BlockPOI.poiType := by
    funext blockId
    rw [noted_at]
    simp [Dict.valuesAt, rowsOf, List.filter_map, Function.comp_def]
  have residential : ((c.blocks.filter BlockLandUse.isDeveloped).filter fun item =>
      item.landUseType = .residential) =
        c.blocks.filter fun item => item.landUseType = .residential := by
    rw [List.filter_filter]
    refine List.filter_congr fun item _ => ?_
    by_cases home : item.landUseType = .residential <;> simp [BlockLandUse.isDeveloped, home]
  have computed : sharedEdgeCount
      (Dict.update [] (c.blocks.map fun item => (item.blockId, item.landUseType)))
      (blockAdjacency (c.blocks.map fun item => (item.blockId, item.polygonM))) = 0 := by
    have use_keys : ((c.blocks.map fun item => (item.blockId, item.landUseType)).map
        Prod.fst).Nodup := by
      rw [List.map_map]
      exact distinct
    rw [Dict.update_fresh use_keys fun _ _ => rfl, List.nil_append]
    have of_uses : ∀ k use, Dict.get (c.blocks.map fun item => (item.blockId, item.landUseType)) k =
        some use → d.get k = some use := by
      intro k use found
      obtain ⟨item, listed, same⟩ := List.mem_map.mp ((Dict.get_eq_some_iff use_keys).mp found)
      obtain ⟨rfl, rfl⟩ := Prod.mk.inj same
      obtain ⟨feature, -, use, found, built⟩ := paired_right uses listed
      rw [built.blockId, built.landUseType, found]
    rw [uses.rings]
    exact shared_edge_count_zero block_adjacency_spec.1 fun i r industry home =>
      apart i r (of_uses i _ industry) (of_uses r _ home)
  obtain ⟨m, median_at, median_sorted⟩ := median_ok ((c.blocks.filter
    BlockLandUse.isDeveloped).map BlockLandUse.densityPerHectare) (List.ne_nil_of_mem
      (List.mem_map_of_mem (List.mem_filter.mpr ⟨house_listed, house_built⟩)))
  obtain rfl : m = c.medianDevelopedDensityPerHectare :=
    Except.ok.inj (median_at.symm.trans density)
  unfold LandUseCatalog.postInit
  dsimp only
  rw [blocks_sorted, pois_sorted]
  refine bind_ok.mpr ⟨(), raise_if_ok.mpr (by push Not; exact digests), ?_⟩
  refine bind_ok.mpr ⟨(), raise_if_ok.mpr (not_or.mpr ⟨List.ne_nil_of_mem house_listed,
    not_not.mpr (by rw [ids, dense, sizes])⟩), ?_⟩
  refine bind_ok.mpr ⟨(), raise_if_ok.mpr (not_not.mpr poi_ids), ?_⟩
  refine bind_ok.mpr ⟨(), raise_if_ok.mpr (not_or.mpr ⟨not_not.mpr count,
    List.ne_nil_of_mem (List.mem_filter.mpr ⟨house_listed, house_built⟩)⟩), ?_⟩
  refine bind_ok.mpr ⟨noted, note_run, bind_ok.mpr ⟨(), raise_if_ok.mpr ?_, ?_⟩⟩
  · push Not
    simp only [poiTypes, List.forall_mem_cons]
    exact ⟨house_shown.1, office_shown.1, house_shown.2.1, by simp⟩
  refine bind_ok.mpr ⟨(), each_ok.mpr fun item listed => ?_, ?_⟩
  · obtain ⟨known_item, developed⟩ := List.mem_filter.mp listed
    unfold checkMix
    rw [mixes item known_item developed, Dict.update_nil (mix_nodup item)]
    exact bind_ok.mpr ⟨(), raise_if_ok.mpr (by simp), raise_if_ok.mpr (by simp)⟩
  rw [types, residential, computed]
  refine bind_ok.mpr ⟨(), raise_if_ok.mpr (not_not.mpr (ratio ▸ isclose_self _ _ _)), ?_⟩
  refine bind_ok.mpr ⟨(), raise_if_ok.mpr (not_not.mpr shared), ?_⟩
  refine bind_ok.mpr ⟨(), raise_if_ok.mpr (not_not.mpr rfl), ?_⟩
  exact bind_ok.mpr ⟨_, median_sorted, bind_ok.mpr ⟨(),
    raise_if_ok.mpr (not_not.mpr (isclose_self _ _ _)), rfl⟩⟩

/-- What is promised of the uses of blocks, and of the catalog that is built from them. -/
structure Accepted (features : List BlockFeature) (adjacency : Dict ℤ (List ℤ))
    (d : Dict ℤ BlockLandUseType) : Prop where
  apart : ∀ i r neighbors, d.get i = some .industrial → d.get r = some .residential →
    adjacency.get i = some neighbors → r ∉ neighbors
  once : (d.map Prod.fst).Nodup ∧ ∀ k, k ∈ d.map Prod.fst ↔ k ∈ features.map BlockFeature.id
  any_order : ∀ features' adjacency', features.Perm features' → SameNeighbors adjacency adjacency' →
    ∃ d', assignLandUse features' adjacency' = .ok d' ∧ ∀ k, d'.get k = d.get k
  catalog : adjacency = blockAdjacency (features.map fun f => (f.id, f.block.polygonM)) →
    features.map BlockFeature.id = (List.range features.length).map Int.ofNat →
    ∀ terrain form network blocks : String,
      (∀ value ∈ [terrain, form, network, blocks], isSha256 value) →
      ∃ catalog, buildBlockLandUseCatalog terrain form network blocks features = .ok catalog ∧
        catalog.postInit = .ok catalog ∧ (∀ item ∈ catalog.blocks, item.postInit = .ok item) ∧
        Uses d features catalog.blocks ∧
        ∀ a ∈ catalog.blocks, ∀ b ∈ catalog.blocks, a.landUseType = .industrial →
          b.landUseType = .residential → ¬SharesEdge a.polygonM b.polygonM

/-- Homes are not next to industry, the order of the blocks does not matter, and the catalog of
the uses passes all checks. -/
theorem block_land_use_accepted (distinct : (features.map BlockFeature.id).Nodup)
    (run : assignLandUse features adjacency = .ok d) : Accepted features adjacency d := by
  have assigned := assign_land_use_ok run
  have keys : (d.map Prod.fst).Nodup := assigned.converted.keys ▸ keys_first_uses.1
  have known : ∀ k, k ∈ d.map Prod.fst ↔ k ∈ features.map BlockFeature.id := fun k =>
    assigned.converted.keys ▸ keys_first_uses.2 k
  refine ⟨fun i r neighbors industry home found => assigned.apart industry home found,
    ⟨keys, known⟩, fun _ _ same alike => assigned.perm distinct same alike, ?_⟩
  rintro rfl dense terrain form network blockFingerprint digests
  have separate : Separate d
      (blockAdjacency (features.map fun f => (f.id, f.block.polygonM))) := by
    intro i r industry home
    have first : r ∉ (Dict.get (blockAdjacency (features.map fun f =>
        (f.id, f.block.polygonM))) i).getD [] := by
      cases found : Dict.get (blockAdjacency (features.map fun f =>
        (f.id, f.block.polygonM))) i with
      | none => exact List.not_mem_nil
      | some neighbors => exact assigned.apart industry home found
    refine ⟨first, fun listed => first ?_⟩
    obtain ⟨apart, p, q, at_r, at_i, edge, at_p, at_q⟩ := (block_adjacency_spec.2 r i).mp listed
    exact (block_adjacency_spec.2 i r).mpr ⟨apart.symm, q, p, at_i, at_r, edge, at_q, at_p⟩
  obtain ⟨items, items_run⟩ := map_all_exists (f := fun feature : BlockFeature =>
    match d.get feature.id with
    | none => (.error s!"{feature.id}" : Except String BlockLandUse)
    | some landUseType => buildBlockAssignment feature landUseType) (l := features) (by
      intro feature listed
      obtain ⟨use, found⟩ := Dict.mem_keys_iff.mp ((known _).mpr (List.mem_map_of_mem listed))
      obtain ⟨item, built, -⟩ := build_block_assignment_ok feature use
      rw [found]
      exact ⟨item, built⟩)
  have uses : Uses d features items := by
    refine (map_all_ok.mp items_run).imp fun feature item built => ?_
    split at built
    · cases built
    · rename_i use found
      obtain ⟨item', built', spec⟩ := build_block_assignment_ok feature use
      obtain rfl := Except.ok.inj (built.symm.trans built')
      exact ⟨use, found, spec⟩
  obtain ⟨pois, pois_run, poi_ids, placed⟩ := build_pois_ok uses.served
  obtain ⟨house, house_listed, house_use⟩ :=
    uses.occurs keys (fun k => (known k).mp) (assigned.occur .residential (by decide))
  obtain ⟨m, median_at, -⟩ := median_ok ((items.filter BlockLandUse.isDeveloped).map
    BlockLandUse.densityPerHectare) (List.ne_nil_of_mem (List.mem_map_of_mem
      (List.mem_filter.mpr ⟨house_listed, by simp [BlockLandUse.isDeveloped, house_use]⟩)))
  have ratio : ∃ ratio, ratio = accessRatio ((items.filter fun item =>
      item.landUseType = .residential).map BlockLandUse.blockId) fun blockId =>
        (pois.filter fun poi => poi.blockId = blockId).map BlockPOI.poiType := ⟨_, rfl⟩
  obtain ⟨ratio, ratio_eq⟩ := ratio
  have fits := catalog_fits (c := ⟨terrain, form, network, blockFingerprint, items, pois,
    (items.filter BlockLandUse.isDeveloped).length, sharedEdgeCount d
      (blockAdjacency (features.map fun f => (f.id, f.block.polygonM))), ratio, m⟩)
    uses dense keys (fun k => (known k).mp) assigned.occur separate digests poi_ids placed rfl
    (shared_edge_count_zero block_adjacency_spec.1 separate) ratio_eq median_at
  rw [ratio_eq] at fits
  refine ⟨_, bind_ok.mpr ⟨d, run, bind_ok.mpr ⟨items, items_run, bind_ok.mpr ⟨pois, pois_run,
    bind_ok.mpr ⟨m, median_at, fits⟩⟩⟩⟩, fits, ?_, uses, ?_⟩
  · intro item listed
    obtain ⟨_, -, _, -, built⟩ := paired_right uses listed
    exact built.fits
  · intro a a_listed b b_listed industry home sharing
    obtain ⟨_, -, _, a_found, a_built⟩ := paired_right uses a_listed
    obtain ⟨_, -, _, b_found, b_built⟩ := paired_right uses b_listed
    rw [← a_built.blockId, ← a_built.landUseType, industry] at a_found
    rw [← b_built.blockId, ← b_built.landUseType, home] at b_found
    refine (separate _ _ a_found b_found).1 ((block_adjacency_spec.2 _ _).mpr ⟨fun same => ?_, ?_⟩)
    · rw [same, b_found] at a_found
      cases a_found
    · rw [← uses.rings]
      exact ⟨_, _, List.mem_map_of_mem a_listed, List.mem_map_of_mem b_listed, sharing⟩

/-- Four lots in a row, with streets between them. -/
def lotRing (n : ℕ) : List (PointM ℚ) :=
  [(80 * n, 0), (80 * n + 60, 0), (80 * n + 60, 50), (80 * n, 50), (80 * n, 0)]

noncomputable def lot (n : ℕ) : CityBlock := ⟨n, lotRing n, 3000, perimeterOf (lotRing n), [0]⟩

theorem lot_fits (n : ℕ) (listed : n ∈ List.range 4) : (lot n).postInit = .ok (lot n) := by
  have distinct : ∀ n ∈ List.range 4, (lotRing n).dropLast.Nodup := by decide +kernel
  have simple : ∀ n ∈ List.range 4, isSimplePolygon (lotRing n) = true := by decide +kernel
  have area : ∀ n ∈ List.range 4, signedArea (lotRing n) = 3000 := by decide +kernel
  have length : 0 < perimeterOf (lotRing n) :=
    perimeter_pos (by simp [lotRing]) (distinct n listed)
  have sorted : sortedSet [0] = [0] := sort_on_eq_self (List.pairwise_singleton _ _)
  unfold CityBlock.postInit lot
  dsimp only
  rw [simple n listed, area n listed, sorted]
  refine bind_ok.mpr ⟨(), raise_if_ok.mpr (not_lt.mpr (Int.natCast_nonneg n)), ?_⟩
  refine bind_ok.mpr ⟨(), raise_if_ok.mpr (by simp [lotRing]), ?_⟩
  refine bind_ok.mpr ⟨(), raise_if_ok.mpr (not_not.mpr (distinct n listed)), ?_⟩
  refine bind_ok.mpr ⟨(), raise_if_ok.mpr (by decide), ?_⟩
  refine bind_ok.mpr ⟨(), raise_if_ok.mpr (by norm_num), ?_⟩
  refine bind_ok.mpr ⟨(), raise_if_ok.mpr (not_le.mpr length), ?_⟩
  refine bind_ok.mpr ⟨(), raise_if_ok.mpr (not_or.mpr ⟨by norm_num,
    not_not.mpr (isclose_self _ _ _)⟩), ?_⟩
  refine bind_ok.mpr ⟨(), raise_if_ok.mpr (not_not.mpr (isclose_self _ _ _)), ?_⟩
  exact bind_ok.mpr ⟨(), raise_if_ok.mpr (by decide), rfl⟩

/-- The middle of a town, a works, a high street and homes. -/
noncomputable def lots : List BlockFeature :=
  [⟨lot 0, 1, 1, 0, 0, true, 0, lot_fits 0 (by decide), by decide +kernel, le_rfl, le_rfl⟩,
    ⟨lot 1, 0, 0, 1, 0, true, 4, lot_fits 1 (by decide), by decide +kernel, le_rfl, by decide⟩,
    ⟨lot 2, 1 / 2, 1 / 2, 1 / 2, 0, true, 8, lot_fits 2 (by decide), by decide +kernel, le_rfl,
      by decide⟩,
    ⟨lot 3, 1 / 4, 1 / 4, 1 / 4, 0, true, 12, lot_fits 3 (by decide), by decide +kernel, le_rfl,
      by decide⟩]

theorem lots_accepted : Accepted lots
    (blockAdjacency (lots.map fun f => (f.id, f.block.polygonM)))
    [(0, .commercial), (1, .industrial), (2, .mixedUse), (3, .residential)] := by
  refine block_land_use_accepted (by decide) ?_
  unfold assignLandUse firstUses selections takeRanked blockAdjacency pairsOf sortedSet
  simp only [sort_on_insertion]
  decide +kernel

end Accepted

end Metroflow.City.BlockUse
