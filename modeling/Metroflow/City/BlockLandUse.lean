import Metroflow.City.FaceWalks
import Metroflow.Lib.Intake
import Metroflow.Lib.Keyed
import Metroflow.Lib.Rounding
import Metroflow.Lib.Scalar

namespace Metroflow.City.BlockUse

open Metroflow.Lib

section Model

/-- `math.isclose` -/
def isclose {K : Type} [Field K] [LinearOrder K] (a b relTol absTol : K) : Prop :=
  a = b ∨ |a - b| ≤ max (relTol * max |a| |b|) absTol

instance {K : Type} [Field K] [LinearOrder K] (a b relTol absTol : K) :
    Decidable (isclose a b relTol absTol) := by
  unfold isclose
  infer_instance

def orientation (first second third : PointM ℚ) : ℚ :=
  (second.1 - first.1) * (third.2 - first.2) - (second.2 - first.2) * (third.1 - first.1)

def onSegment (tolerance : ℚ) (first second point : PointM ℚ) : Prop :=
  |orientation first second point| ≤ tolerance ∧
    min first.1 second.1 - tolerance ≤ point.1 ∧ point.1 ≤ max first.1 second.1 + tolerance ∧
    min first.2 second.2 - tolerance ≤ point.2 ∧ point.2 ≤ max first.2 second.2 + tolerance

instance (tolerance : ℚ) (first second point : PointM ℚ) :
    Decidable (onSegment tolerance first second point) := by
  unfold onSegment
  infer_instance

def segmentsTouchOrOverlap (left right : PointM ℚ × PointM ℚ) (tolerance : ℚ) : Bool :=
  onSegment tolerance left.1 left.2 right.1 ∨ onSegment tolerance left.1 left.2 right.2 ∨
    onSegment tolerance right.1 right.2 left.1 ∨ onSegment tolerance right.1 right.2 left.2

def segmentsIntersect (left right : PointM ℚ × PointM ℚ) : Bool :=
  let leftFirst := orientation left.1 left.2 right.1
  let leftSecond := orientation left.1 left.2 right.2
  let rightFirst := orientation right.1 right.2 left.1
  let rightSecond := orientation right.1 right.2 left.2
  let tolerance : ℚ := 1 / 10 ^ 9
  if ∃ value ∈ [leftFirst, leftSecond, rightFirst, rightSecond], |value| ≤ tolerance then
    segmentsTouchOrOverlap left right tolerance
  else
    decide (0 < leftFirst) != decide (0 < leftSecond) &&
      decide (0 < rightFirst) != decide (0 < rightSecond)

/-- No two edges meet that do not follow one another. -/
def isSimplePolygon (polygon : List (PointM ℚ)) : Bool :=
  let edges := (polygon.zip polygon.tail).zipIdx
  edges.all fun left => edges.all fun right =>
    decide (right.2 ≤ left.2 + 1 ∨ left.2 = 0 ∧ right.2 + 1 = edges.length) ||
      !segmentsIntersect left.1 right.1

noncomputable def perimeterOf (polygon : List (PointM ℚ)) : ℝ :=
  Scalar.pathLength (polygon.map fun p => ((p.1 : ℝ), (p.2 : ℝ)))

def sortedSet (values : List ℤ) : List ℤ := sortOn id values.dedup

structure CityBlock where
  blockId : ℤ
  polygonM : List (PointM ℚ)
  areaM2 : ℚ
  perimeterM : ℝ
  frontageStreetIds : List ℤ

/-- The checks of a block, which leave its frontage sorted. -/
noncomputable def CityBlock.postInit (block : CityBlock) : Except String CityBlock := do
  let polygon := block.polygonM
  let frontage := sortedSet block.frontageStreetIds
  raiseIf (block.blockId < 0) "block_id must be >= 0"
  raiseIf (polygon.length < 4 ∨ polygon.head? ≠ polygon.getLast?)
    "block polygon must be a closed ring"
  raiseIf (¬polygon.dropLast.Nodup) "block polygon must not repeat boundary points"
  raiseIf (isSimplePolygon polygon = false) "block polygon must be simple"
  raiseIf (block.areaM2 ≤ 0) "block area_m2 must be finite and > 0"
  raiseIf (block.perimeterM ≤ 0) "block perimeter_m must be finite and > 0"
  raiseIf (signedArea polygon ≤ 0 ∨
      ¬isclose block.areaM2 (signedArea polygon) (1 / 10 ^ 9) (1 / 10 ^ 6))
    "block area_m2 does not match polygon geometry"
  raiseIf (¬isclose block.perimeterM (perimeterOf polygon) (1 / 10 ^ 9) (1 / 10 ^ 6))
    "block perimeter_m does not match polygon geometry"
  raiseIf (frontage = [] ∨ ∃ value ∈ frontage, value < 0)
    "block frontage_street_ids must be non-empty"
  return { block with frontageStreetIds := frontage }

def CityBlock.centroidM (block : CityBlock) : PointM ℚ :=
  let edges := block.polygonM.zip block.polygonM.tail
  let denominator := 6 * block.areaM2
  let cross := fun e : PointM ℚ × PointM ℚ => e.1.1 * e.2.2 - e.2.1 * e.1.2
  ((edges.map fun e => (e.1.1 + e.2.1) * cross e).sum / denominator,
    (edges.map fun e => (e.1.2 + e.2.2) * cross e).sum / denominator)

inductive BlockLandUseType where
  | residential
  | commercial
  | mixedUse
  | industrial
  | openSpace
  deriving DecidableEq, Repr

/-- What is known of a block before its land use: scores in [0, 1] and a node of its boundary. -/
structure BlockFeature where
  block : CityBlock
  developmentIntensity : ℚ
  centralityScore : ℚ
  arterialExposure : ℚ
  slopeRisePerM : ℚ
  buildable : Bool
  accessNodeId : ℤ
  block_fits : block.postInit = .ok block
  scores : ∀ value ∈ [developmentIntensity, centralityScore, arterialExposure],
    0 ≤ value ∧ value ≤ 1
  slope_nonneg : 0 ≤ slopeRisePerM
  node_nonneg : 0 ≤ accessNodeId

def BlockFeature.id (feature : BlockFeature) : ℤ := feature.block.blockId

/-- The blocks of the best scores, and among equal scores of the smaller ids. -/
def takeRanked (features : List BlockFeature) (count : ℤ) (excluded : List ℤ)
    (score : BlockFeature → ℚ) : List ℤ :=
  let eligible := features.filter fun feature => feature.id ∉ excluded
  let ranked := sortOn (fun feature => toLex (-score feature, feature.id)) eligible
  (ranked.take count.toNat).map BlockFeature.id

def commercialScore (feature : BlockFeature) : ℚ :=
  55 / 100 * feature.centralityScore + 30 / 100 * feature.developmentIntensity +
    15 / 100 * feature.arterialExposure

def industrialScore (feature : BlockFeature) : ℚ :=
  50 / 100 * feature.arterialExposure + 35 / 100 * (1 - feature.centralityScore) +
    15 / 100 * (1 - feature.developmentIntensity)

def mixedScore (feature : BlockFeature) : ℚ :=
  45 / 100 * feature.centralityScore + 35 / 100 * feature.developmentIntensity +
    20 / 100 * feature.arterialExposure

/-- `for block_id in ids: assignments[block_id] = use` -/
def assignAll (assignments : Dict ℤ BlockLandUseType) (ids : List ℤ) (use : BlockLandUseType) :
    Dict ℤ BlockLandUseType :=
  Dict.update assignments (ids.map fun blockId => (blockId, use))

def assignRest (assignments : Dict ℤ BlockLandUseType) (feature : BlockFeature) :
    Dict ℤ BlockLandUseType :=
  if assignments.get feature.id = some .openSpace then assignments.set feature.id .residential
  else assignments

/-- A residential neighbour of industry becomes mixed. -/
def convertNeighbor (assignments : Dict ℤ BlockLandUseType) (neighborId : ℤ) :
    Except String (Dict ℤ BlockLandUseType) :=
  match assignments.get neighborId with
  | none => .error s!"{neighborId}"
  | some .residential => .ok (assignments.set neighborId .mixedUse)
  | some _ => .ok assignments

def convertNeighbors (adjacency : Dict ℤ (List ℤ)) (assignments : Dict ℤ BlockLandUseType)
    (industrialId : ℤ) : Except String (Dict ℤ BlockLandUseType) :=
  match adjacency.get industrialId with
  | none => .error s!"{industrialId}"
  | some neighbors => neighbors.foldlM convertNeighbor assignments

def selections (developed : List BlockFeature) : List ℤ × List ℤ × List ℤ :=
  let share := fun part : ℚ => max 1 (roundHalfEven (developed.length * part))
  let commercial := takeRanked developed (share (12 / 100)) [] commercialScore
  let industrial := takeRanked developed (share (12 / 100)) commercial industrialScore
  let mixed := takeRanked developed (share (23 / 100)) (commercial ++ industrial) mixedScore
  (commercial, industrial, mixed)

/-- The uses before blocks next to industry are converted. -/
def firstUses (features : List BlockFeature) : Dict ℤ BlockLandUseType :=
  let assignments := assignAll [] (features.map BlockFeature.id) .openSpace
  let developed := features.filter BlockFeature.buildable
  let (commercial, industrial, mixed) := selections developed
  let assignments := assignAll assignments commercial .commercial
  let assignments := assignAll assignments industrial .industrial
  let assignments := assignAll assignments mixed .mixedUse
  developed.foldl assignRest assignments

/-- `_assign_land_use` -/
def assignLandUse (features : List BlockFeature) (adjacency : Dict ℤ (List ℤ)) :
    Except String (Dict ℤ BlockLandUseType) := do
  let developed := features.filter BlockFeature.buildable
  raiseIf (developed.length < 4) "block land use requires at least four developable blocks"
  let industrial := (selections developed).2.1
  let assignments ← (sortOn id industrial).foldlM (convertNeighbors adjacency) (firstUses features)
  raiseIf (∃ use ∈ [BlockLandUseType.residential, .commercial, .mixedUse, .industrial],
      use ∉ assignments.map Prod.snd)
    "land-use assignment must retain all functional types"
  return assignments

end Model

section Uses

variable {d d' : Dict ℤ BlockLandUseType} {adjacency adjacency' : Dict ℤ (List ℤ)}
  {features features' : List BlockFeature} {k : ℤ}

theorem get_assign_all {ids : List ℤ} {use : BlockLandUseType} :
    (assignAll d ids use).get k = if k ∈ ids then some use else d.get k := by
  unfold assignAll Dict.update
  induction ids generalizing d with
  | nil => rfl
  | cons blockId ids ih =>
    rw [List.map_cons, List.foldl_cons, ih, Dict.get_set]
    grind

theorem get_assign_rest :
    (features.foldl assignRest d).get k =
      if k ∈ features.map BlockFeature.id ∧ d.get k = some .openSpace then some .residential
      else d.get k := by
  induction features generalizing d with
  | nil => simp
  | cons feature features ih =>
    have here : (assignRest d feature).get k =
        if k = feature.id ∧ d.get k = some .openSpace then some .residential else d.get k := by
      unfold assignRest
      split
      · rw [Dict.get_set]
        grind
      · grind
    rw [List.foldl_cons, ih, here]
    simp only [List.map_cons, List.mem_cons]
    grind

/-- The use of a block before blocks next to industry are converted. -/
def firstUse (features : List BlockFeature) (blockId : ℤ) : Option BlockLandUseType :=
  let developed := features.filter BlockFeature.buildable
  let (commercial, industrial, mixed) := selections developed
  if blockId ∈ mixed then some .mixedUse
  else if blockId ∈ industrial then some .industrial
  else if blockId ∈ commercial then some .commercial
  else if blockId ∈ developed.map BlockFeature.id then some .residential
  else if blockId ∈ features.map BlockFeature.id then some .openSpace
  else none

theorem get_first_uses : (firstUses features).get k = firstUse features k := by
  have known : k ∈ (features.filter BlockFeature.buildable).map BlockFeature.id →
      k ∈ features.map BlockFeature.id := fun listed =>
    (List.filter_sublist.map BlockFeature.id).subset listed
  unfold firstUses firstUse
  dsimp only
  rw [get_assign_rest, get_assign_all, get_assign_all, get_assign_all, get_assign_all,
    Dict.get_nil]
  split_ifs <;> grind

/-- Where a use was residential and is near industry it becomes mixed. -/
structure Converted (d d' : Dict ℤ BlockLandUseType) (near : ℤ → Prop) : Prop where
  keys : d'.map Prod.fst = d.map Prod.fst
  converts : ∀ k, near k → d.get k = some .residential → d'.get k = some .mixedUse
  keeps : ∀ k, ¬(near k ∧ d.get k = some .residential) → d'.get k = d.get k

theorem Converted.refl {near : ℤ → Prop} (none : ∀ k, ¬near k) : Converted d d near :=
  ⟨rfl, fun k here => absurd here (none k), fun _ _ => rfl⟩

theorem Converted.trans {d'' : Dict ℤ BlockLandUseType} {near near' both : ℤ → Prop}
    (first : Converted d d' near) (second : Converted d' d'' near')
    (split : ∀ k, both k ↔ near k ∨ near' k) : Converted d d'' both where
  keys := second.keys.trans first.keys
  converts k here home := by
    have converts := first.converts k
    have keeps := first.keeps k
    have converts' := second.converts k
    have keeps' := second.keeps k
    grind
  keeps k apart := by
    have keeps := first.keeps k
    have keeps' := second.keeps k
    grind

theorem convert_neighbor_ok {n : ℤ} : convertNeighbor d n = .ok d' ↔
    n ∈ d.map Prod.fst ∧ d' = if d.get n = some .residential then d.set n .mixedUse else d := by
  rw [Dict.mem_keys_iff]
  unfold convertNeighbor
  split
  · simp [*]
  · simp [*, eq_comm]
  · rename_i use other found
    rw [found, if_neg (by simpa using other)]
    simp [eq_comm]

theorem convert_list_ok {neighbors : List ℤ} :
    (∀ d', neighbors.foldlM convertNeighbor d = .ok d' → Converted d d' (· ∈ neighbors)) ∧
      ((∃ d', neighbors.foldlM convertNeighbor d = .ok d') ↔
        ∀ n ∈ neighbors, n ∈ d.map Prod.fst) := by
  induction neighbors generalizing d with
  | nil =>
    refine ⟨fun d' run => ?_, by simp⟩
    obtain rfl := fold_nil.mp run
    exact .refl fun _ => List.not_mem_nil
  | cons n neighbors ih =>
    have first : ∀ next, convertNeighbor d n = .ok next → Converted d next (· = n) := by
      intro next step
      obtain ⟨known, rfl⟩ := convert_neighbor_ok.mp step
      split
      · rename_i home
        refine ⟨Dict.keys_set_of_mem known, fun k here _ => ?_, fun k apart => ?_⟩
        · rw [Dict.get_set, if_pos here]
        · rw [Dict.get_set, if_neg fun here => apart ⟨here, here ▸ home⟩]
      · rename_i away
        exact ⟨rfl, fun k here home => absurd (here ▸ home) away, fun _ _ => rfl⟩
    constructor
    · intro d' run
      obtain ⟨next, step, rest⟩ := fold_cons.mp run
      exact (first next step).trans (ih.1 d' rest) fun k => List.mem_cons
    · constructor
      · rintro ⟨d', run⟩
        obtain ⟨next, step, rest⟩ := fold_cons.mp run
        have later := ih.2.mp ⟨d', rest⟩
        rw [(first next step).keys] at later
        exact List.forall_mem_cons.mpr ⟨(convert_neighbor_ok.mp step).1, later⟩
      · intro known
        obtain ⟨here, later⟩ := List.forall_mem_cons.mp known
        have step := convert_neighbor_ok.mpr ⟨here, rfl⟩
        obtain ⟨d', rest⟩ := ih.2.mpr ((first _ step).keys.symm ▸ later)
        exact ⟨d', fold_cons.mpr ⟨_, step, rest⟩⟩

/-- A neighbour of one of some blocks. -/
def Near (adjacency : Dict ℤ (List ℤ)) (blockIds : List ℤ) (k : ℤ) : Prop :=
  ∃ i ∈ blockIds, ∃ neighbors, adjacency.get i = some neighbors ∧ k ∈ neighbors

def Surrounded (adjacency : Dict ℤ (List ℤ)) (keys blockIds : List ℤ) : Prop :=
  ∀ i ∈ blockIds, ∃ neighbors, adjacency.get i = some neighbors ∧ ∀ n ∈ neighbors, n ∈ keys

theorem convert_all_ok {blockIds : List ℤ} :
    (∀ d', blockIds.foldlM (convertNeighbors adjacency) d = .ok d' →
      Converted d d' (Near adjacency blockIds)) ∧
      ((∃ d', blockIds.foldlM (convertNeighbors adjacency) d = .ok d') ↔
        Surrounded adjacency (d.map Prod.fst) blockIds) := by
  induction blockIds generalizing d with
  | nil =>
    refine ⟨fun d' run => ?_, by simp [Surrounded]⟩
    obtain rfl := fold_nil.mp run
    exact .refl fun _ near => by simp [Near] at near
  | cons i blockIds ih =>
    have first : ∀ next, convertNeighbors adjacency d i = .ok next ↔
        ∃ neighbors, adjacency.get i = some neighbors ∧
          neighbors.foldlM convertNeighbor d = .ok next := by
      intro next
      unfold convertNeighbors
      split <;> simp [*]
    constructor
    · intro d' run
      obtain ⟨next, step, rest⟩ := fold_cons.mp run
      obtain ⟨neighbors, found, step⟩ := (first next).mp step
      refine (convert_list_ok.1 next step).trans (ih.1 d' rest) fun k => ?_
      unfold Near
      rw [List.exists_mem_cons_iff, found]
      simp
    · unfold Surrounded
      rw [List.forall_mem_cons]
      constructor
      · rintro ⟨d', run⟩
        obtain ⟨next, step, rest⟩ := fold_cons.mp run
        obtain ⟨neighbors, found, step⟩ := (first next).mp step
        have later := ih.2.mp ⟨d', rest⟩
        rw [(convert_list_ok.1 next step).keys] at later
        exact ⟨⟨neighbors, found, convert_list_ok.2.mp ⟨next, step⟩⟩, later⟩
      · rintro ⟨⟨neighbors, found, known⟩, later⟩
        obtain ⟨next, step⟩ := convert_list_ok.2.mpr known
        obtain ⟨d', rest⟩ := ih.2.mpr ((convert_list_ok.1 next step).keys.symm ▸ later)
        exact ⟨d', fold_cons.mpr ⟨next, (first next).mpr ⟨neighbors, found, step⟩, rest⟩⟩

/-- The blocks that are industrial before and after neighbours are converted. -/
def industrialIds (features : List BlockFeature) : List ℤ :=
  (selections (features.filter BlockFeature.buildable)).2.1

def functionalTypes : List BlockLandUseType := [.residential, .commercial, .mixedUse, .industrial]

structure Assigned (features : List BlockFeature) (adjacency : Dict ℤ (List ℤ))
    (d : Dict ℤ BlockLandUseType) : Prop where
  enough : 4 ≤ (features.filter BlockFeature.buildable).length
  surrounded : Surrounded adjacency ((firstUses features).map Prod.fst) (industrialIds features)
  converted : Converted (firstUses features) d (Near adjacency (industrialIds features))
  occur : ∀ use ∈ functionalTypes, use ∈ d.map Prod.snd

theorem assign_land_use_ok (run : assignLandUse features adjacency = .ok d) :
    Assigned features adjacency d := by
  obtain ⟨_, enough, run⟩ := bind_ok.mp run
  obtain ⟨uses, converts, run⟩ := bind_ok.mp run
  obtain ⟨_, occur, run⟩ := bind_ok.mp run
  obtain rfl := pure_ok.mp run
  rw [raise_if_ok] at enough occur
  have near : ∀ k, Near adjacency (sortOn id (industrialIds features)) k ↔
      Near adjacency (industrialIds features) k := fun k => by simp [Near]
  have all := convert_all_ok.2.mp ⟨uses, converts⟩
  have converted := convert_all_ok.1 uses converts
  refine ⟨not_lt.mp enough, fun i listed => all i (mem_sort_on.mpr listed),
    ⟨converted.keys, fun k here => ?_, fun k apart => ?_⟩, ?_⟩
  · exact converted.converts k ((near k).mpr here)
  · exact converted.keeps k fun here => apart ⟨(near k).mp here.1, here.2⟩
  · push Not at occur
    exact occur

theorem mem_take_ranked {count : ℤ} {excluded : List ℤ} {score : BlockFeature → ℚ}
    (taken : k ∈ takeRanked features count excluded score) :
    k ∈ features.map BlockFeature.id ∧ k ∉ excluded := by
  obtain ⟨feature, ranked, rfl⟩ := List.mem_map.mp taken
  obtain ⟨listed, apart⟩ := List.mem_filter.mp (mem_sort_on.mp (List.mem_of_mem_take ranked))
  exact ⟨List.mem_map_of_mem listed, of_decide_eq_true apart⟩

theorem first_use_known : (∃ use, firstUse features k = some use) ↔
    k ∈ features.map BlockFeature.id := by
  have developed : ∀ j, j ∈ (features.filter BlockFeature.buildable).map BlockFeature.id →
      j ∈ features.map BlockFeature.id :=
    fun j listed => (List.filter_sublist.map BlockFeature.id).subset listed
  have known : ∀ {count : ℤ} {excluded : List ℤ} {score : BlockFeature → ℚ},
      k ∈ takeRanked (features.filter BlockFeature.buildable) count excluded score →
        k ∈ features.map BlockFeature.id := fun taken => developed k (mem_take_ranked taken).1
  unfold firstUse selections
  dsimp only
  split_ifs with mixed industrial commercial home listed
  · simpa using known mixed
  · simpa using known industrial
  · simpa using known commercial
  · simpa using developed k home
  · simpa using listed
  · simpa using listed

theorem keys_first_uses : ((firstUses features).map Prod.fst).Nodup ∧
    ∀ k, k ∈ (firstUses features).map Prod.fst ↔ k ∈ features.map BlockFeature.id := by
  have rest : ∀ (l : List BlockFeature) (d : Dict ℤ BlockLandUseType),
      (d.map Prod.fst).Nodup → ((l.foldl assignRest d).map Prod.fst).Nodup := by
    intro l
    induction l with
    | nil => exact fun d distinct => distinct
    | cons feature l ih =>
      refine fun d distinct => ih _ ?_
      unfold assignRest
      split
      · exact Dict.nodup_keys_set distinct
      · exact distinct
  refine ⟨rest _ _ ?_, fun k => by rw [Dict.mem_keys_iff, get_first_uses, first_use_known]⟩
  unfold assignAll
  exact Dict.nodup_keys_update (Dict.nodup_keys_update (Dict.nodup_keys_update
    (Dict.nodup_keys_update List.nodup_nil)))

variable {i r : ℤ}

theorem Assigned.industrial (assigned : Assigned features adjacency d)
    (industry : d.get i = some .industrial) : i ∈ industrialIds features := by
  have early : firstUse features i = some .industrial := by
    have converts := assigned.converted.converts i
    have keeps := assigned.converted.keeps i
    rw [get_first_uses] at converts keeps
    grind
  unfold firstUse at early
  dsimp only at early
  split_ifs at early
  all_goals first | assumption | cases early

theorem Assigned.apart (assigned : Assigned features adjacency d) {neighbors : List ℤ}
    (industry : d.get i = some .industrial) (home : d.get r = some .residential)
    (found : adjacency.get i = some neighbors) : r ∉ neighbors := by
  intro listed
  have near : Near adjacency (industrialIds features) r :=
    ⟨i, assigned.industrial industry, neighbors, found, listed⟩
  by_cases first : (firstUses features).get r = some .residential
  · rw [assigned.converted.converts r near first] at home
    cases home
  · rw [assigned.converted.keeps r fun here => first here.2] at home
    exact first home

theorem take_ranked_perm {count : ℤ} {excluded : List ℤ} {score : BlockFeature → ℚ}
    (same : features.Perm features') (distinct : (features.map BlockFeature.id).Nodup) :
    takeRanked features count excluded score = takeRanked features' count excluded score := by
  unfold takeRanked
  dsimp only
  rw [sort_on_eq_of_perm (same.filter _)]
  refine List.Nodup.of_map (fun key => (ofLex key).2) ?_
  rw [List.map_map]
  exact distinct.sublist (List.filter_sublist.map _)

theorem selections_perm (same : features.Perm features')
    (distinct : (features.map BlockFeature.id).Nodup) :
    selections features = selections features' := by
  unfold selections
  simp only [take_ranked_perm same distinct, same.length_eq]

/-- Two adjacencies with the same neighbours, in whatever order. -/
def SameNeighbors (adjacency adjacency' : Dict ℤ (List ℤ)) : Prop :=
  ∀ i, Option.Rel (fun l l' : List ℤ => ∀ k, k ∈ l ↔ k ∈ l') (adjacency.get i) (adjacency'.get i)

theorem SameNeighbors.get (same : SameNeighbors adjacency adjacency') {neighbors : List ℤ}
    (found : adjacency.get i = some neighbors) :
    ∃ neighbors', adjacency'.get i = some neighbors' ∧ ∀ k, k ∈ neighbors ↔ k ∈ neighbors' := by
  have here := same i
  rw [found] at here
  cases found' : adjacency'.get i with
  | none =>
    rw [found'] at here
    cases here
  | some neighbors' =>
    rw [found'] at here
    cases here with
    | some members => exact ⟨neighbors', rfl, members⟩

theorem SameNeighbors.symm (same : SameNeighbors adjacency adjacency') :
    SameNeighbors adjacency' adjacency := by
  intro i
  have here := same i
  generalize adjacency.get i = l at here
  generalize adjacency'.get i = l' at here
  cases here with
  | some members => exact .some fun k => (members k).symm
  | none => exact .none

theorem Assigned.perm (assigned : Assigned features adjacency d)
    (distinct : (features.map BlockFeature.id).Nodup) (same : features.Perm features')
    (alike : SameNeighbors adjacency adjacency') :
    ∃ d', assignLandUse features' adjacency' = .ok d' ∧ ∀ k, d'.get k = d.get k := by
  have ids := same.map BlockFeature.id
  have chosen : selections (features'.filter BlockFeature.buildable) =
      selections (features.filter BlockFeature.buildable) :=
    (selections_perm (same.filter _) (distinct.sublist (List.filter_sublist.map _))).symm
  have industrial : industrialIds features' = industrialIds features := by
    unfold industrialIds
    rw [chosen]
  have first : ∀ k, firstUse features' k = firstUse features k := by
    intro k
    unfold firstUse
    dsimp only
    rw [chosen]
    simp only [ids.mem_iff, ((same.filter BlockFeature.buildable).map BlockFeature.id).mem_iff]
  have near : ∀ k, Near adjacency' (sortOn id (industrialIds features')) k ↔
      Near adjacency (industrialIds features) k := by
    intro k
    unfold Near
    simp only [mem_sort_on, industrial]
    constructor
    · rintro ⟨i, listed, neighbors, found, member⟩
      obtain ⟨neighbors', found', members⟩ := alike.symm.get found
      exact ⟨i, listed, neighbors', found', (members k).mp member⟩
    · rintro ⟨i, listed, neighbors, found, member⟩
      obtain ⟨neighbors', found', members⟩ := alike.get found
      exact ⟨i, listed, neighbors', found', (members k).mp member⟩
  obtain ⟨d', run⟩ : ∃ d', (sortOn id (industrialIds features')).foldlM
      (convertNeighbors adjacency') (firstUses features') = .ok d' := by
    refine convert_all_ok.2.mpr fun i listed => ?_
    rw [mem_sort_on, industrial] at listed
    obtain ⟨neighbors, found, known⟩ := assigned.surrounded i listed
    obtain ⟨neighbors', found', members⟩ := alike.get found
    refine ⟨neighbors', found', fun n member => ?_⟩
    rw [keys_first_uses.2, ← ids.mem_iff, ← keys_first_uses.2]
    exact known n ((members n).mpr member)
  have converted := convert_all_ok.1 d' run
  have get : ∀ k, d'.get k = d.get k := by
    intro k
    have converts := converted.converts k
    have keeps := converted.keeps k
    have converts' := assigned.converted.converts k
    have keeps' := assigned.converted.keeps k
    rw [get_first_uses, near, first] at converts keeps
    rw [get_first_uses] at converts' keeps'
    by_cases home : firstUse features k = some .residential ∧
        Near adjacency (industrialIds features) k
    · rw [converts home.2 home.1, converts' home.2 home.1]
    · rw [keeps fun here => home here.symm, keeps' fun here => home here.symm]
  refine ⟨d', bind_ok.mpr ⟨(), raise_if_ok.mpr ?_, bind_ok.mpr ⟨d', run, bind_ok.mpr
    ⟨(), raise_if_ok.mpr ?_, rfl⟩⟩⟩, get⟩
  · rw [← (same.filter BlockFeature.buildable).length_eq]
    exact not_lt.mpr assigned.enough
  · push Not
    intro use needed
    obtain ⟨⟨k, _⟩, listed, rfl⟩ := List.mem_map.mp (assigned.occur use needed)
    have keys : (d.map Prod.fst).Nodup := assigned.converted.keys ▸ keys_first_uses.1
    have keys' : (d'.map Prod.fst).Nodup := converted.keys ▸ keys_first_uses.1
    have found := (Dict.get_eq_some_iff keys).mpr listed
    rw [← get] at found
    exact List.mem_map_of_mem ((Dict.get_eq_some_iff keys').mp found)

end Uses

end Metroflow.City.BlockUse
