import Metroflow.City.Zones
import Metroflow.Lib.ExactScalar
import Metroflow.Lib.LargestRemainder

namespace Metroflow.Demand.Population

open Metroflow.Lib Metroflow.City

section Model

/-- `int(value)` -/
def pyInt (value : ℚ) : ℤ := value.num.tdiv value.den

/-- `max(0, int(poi.capacity_hint))` -/
def capacity (poi : Poi) : ℤ := max 0 poi.capacityHint

def capacityTotal (pool : List Poi) : ℤ := (pool.map capacity).sum

/-- The indices by part, capacity and index, the largest part first. -/
def remainderOrder (capacities : List ℤ) (scaled : List ℚ) (quotas : List ℤ) (n : ℕ) : List ℕ :=
  (sortOn (fun i : ℕ => toLex (scaled.getD i 0 - quotas.getD i 0,
    toLex (capacities.getD i 0, -(i : ℤ)))) (List.range n)).reverse

def buildAssignmentSlots (pool : List Poi) (assignmentCount : ℤ) : Except String (List ℕ) := do
  if assignmentCount ≤ 0 then return []
  raiseIf (pool = []) "assignment pool must not be empty"
  let capacities := pool.map capacity
  let totalCapacity := capacities.sum
  if totalCapacity ≤ 0 then
    return (List.range assignmentCount.toNat).map fun i =>
      (pool.map Poi.poiId).getD (i % pool.length) 0
  let assignmentCount := min assignmentCount totalCapacity
  let scaled := capacities.map fun cap : ℤ => (assignmentCount * (cap / totalCapacity) : ℚ)
  let quotas := scaled.map pyInt
  let remainder := assignmentCount - quotas.sum
  let order := remainderOrder capacities scaled quotas pool.length
  let quotas := if 0 < remainder then
      (order.take remainder.toNat).foldl (fun quotas i => quotas.modify i (· + 1)) quotas
    else quotas
  let slots := (pool.zip quotas).flatMap fun item =>
    if 0 < item.2 then List.replicate item.2.toNat item.1.poiId else []
  raiseIf ((slots.length : ℤ) ≠ assignmentCount)
    "assignment slot planner produced mismatched slot count"
  return slots

/-- `DayType`, or every day. -/
inductive ApplicableDayType where
  | weekday
  | weekend
  | both
  deriving DecidableEq

structure ScheduleTemplate where
  scheduleTemplateId : ℤ
  applicableDayType : ApplicableDayType

/-- What the generators of the population draw for a seed. -/
structure PopulationRng where
  /-- `worker_rng.permutation(citizen_count)` -/
  workerOrder : ℤ → ℕ → List ℕ
  /-- `weight_rng.uniform(low=0.5, high=1.5, size=(len(pool), n))` -/
  leisureWeights : ℤ → ℕ → ℕ → List (List ℚ)

def leisureRow (pool : List Poi) (weightRows : List (List ℚ)) (n start : ℕ) :
    Except String (List (ℕ × ℚ)) := do
  let selected := (List.range n).map fun i =>
    (pool.map Poi.poiId).getD ((start + i) % pool.length) 0
  match weightRows[start]? with
  | none => .error "list index out of range"
  | some raw =>
    raiseIf (raw.length < n) "zip() argument 2 is shorter than argument 1"
    raiseIf (n < raw.length) "zip() argument 2 is longer than argument 1"
    raiseIf (raw.sum = 0 ∧ raw ≠ []) "float division by zero"
    return selected.zip (raw.map fun weight => weight / raw.sum)

def buildLeisurePrefCache (rng : PopulationRng) (pool : List Poi) (seed : ℤ) :
    Except String (List (List (ℕ × ℚ))) := do
  if pool = [] then return []
  let n := min 3 pool.length
  let weightRows := rng.leisureWeights seed pool.length n
  (List.range pool.length).mapM (leisureRow pool weightRows n)

structure PopulationLayoutPlan where
  homePoiIds : List ℕ
  workPoiIds : List (Option ℕ)
  scheduleTemplateIds : List ℤ
  behaviorProfileIds : List ℤ
  leisurePrefCache : List (List (ℕ × ℚ))
  deriving DecidableEq

/-- The next citizen gets the next workplace if the citizen works. -/
def assignWork (workerIndices workSlots : List ℕ) (s : ℕ × List (Option ℕ)) (idx : ℕ) :
    ℕ × List (Option ℕ) :=
  if idx ∈ workerIndices ∧ s.1 < workSlots.length then (s.1 + 1, s.2 ++ [workSlots[s.1]?])
  else (s.1, s.2 ++ [none])

def resolvePopulationTarget (explicit metadata : Option ℤ) (config : ℤ) : ℤ :=
  match explicit, metadata with
  | some target, _ => target
  | none, some target => target
  | none, none => config

variable {K : Type} [Scalar K]

/-- How many citizens there are. -/
def citizenCountOf (zones : List (Zone K)) (homePois : List Poi) (target : ℤ) : ℤ :=
  let zoneTotal := (zones.map fun zone => max 0 zone.populationCapacity).sum
  let homeTotal := capacityTotal homePois
  let caps := (if 0 < zoneTotal then [zoneTotal] else []) ++
    (if 0 < homeTotal then [homeTotal] else [])
  max 1 (caps.foldl min (max 1 target))

def workerTargetOf (workPois : List Poi) (citizenCount : ℤ) : ℤ :=
  let workerShare : ℚ := if workPois ≠ [] then 31 / 50 else 0
  let workerTarget := roundHalfEven (citizenCount * workerShare)
  let workTotal := capacityTotal workPois
  let workerTarget := if 0 < workTotal then min workerTarget workTotal else workerTarget
  max 0 (min workerTarget citizenCount)

def planCitizenPopulationLayout (rng : PopulationRng) (zones : List (Zone K)) (pois : List Poi)
    (populationTarget metadataTarget : Option ℤ) (configTarget seed : ℤ)
    (scheduleTemplates : List ScheduleTemplate) (behaviorProfileIds : List ℤ) :
    Except String PopulationLayoutPlan := do
  let homePois := pois.filter fun poi => poi.poiType = .home
  let workPois := pois.filter fun poi => poi.poiType = .workplace
  let leisurePois := pois.filter fun poi => poi.poiType = .leisure
  raiseIf (homePois = []) "zoning must contain at least one home POI"
  let citizenCount := citizenCountOf zones homePois
    (resolvePopulationTarget populationTarget metadataTarget configTarget)
  let homeSlots ← buildAssignmentSlots homePois citizenCount
  raiseIf ((homeSlots.length : ℤ) ≠ citizenCount) "home assignment slot count mismatch"
  let both := scheduleTemplates.filter fun t => t.applicableDayType = .both
  let weekday := scheduleTemplates.filter fun t => t.applicableDayType ∈ [.weekday, .both]
  let weekend := scheduleTemplates.filter fun t => t.applicableDayType ∈ [.weekend, .both]
  raiseIf (weekday = [] ∨ weekend = []) "schedule_templates must cover weekday and weekend"
  raiseIf (both = []) "schedule_templates must include at least one 'both' citizen template"
  raiseIf (behaviorProfileIds = []) "integer modulo by zero"
  let workerTarget := workerTargetOf workPois citizenCount
  let workerIndices := (rng.workerOrder seed citizenCount.toNat).take workerTarget.toNat
  let workSlots ←
    (if workerTarget ≠ 0 then buildAssignmentSlots workPois workerTarget else pure [])
  let leisurePrefCache ←
    buildLeisurePrefCache rng (if leisurePois ≠ [] then leisurePois else homePois) seed
  return {
    homePoiIds := homeSlots
    workPoiIds := ((List.range citizenCount.toNat).foldl
      (assignWork workerIndices workSlots) (0, [])).2
    scheduleTemplateIds := (List.range citizenCount.toNat).map fun i =>
      (both.map ScheduleTemplate.scheduleTemplateId).getD (i % both.length) 0
    behaviorProfileIds := (List.range citizenCount.toNat).map fun i =>
      behaviorProfileIds.getD (i % behaviorProfileIds.length) 0
    leisurePrefCache }

end Model

section Property

/-- One block of slots for each place, of a size near its share of the count. -/
structure AssignmentSlots (pool : List Poi) (count : ℤ) (slots : List ℕ) : Prop where
  length : slots.length = (min count (capacityTotal pool)).toNat
  blocks : ∃ quotas : List ℕ,
    slots = (pool.zip quotas).flatMap (fun item => List.replicate item.2 item.1.poiId) ∧
    List.Forall₂ (fun (poi : Poi) (quota : ℕ) => quota ≤ capacity poi ∧
      |(quota : ℚ) - max 0 (min count (capacityTotal pool)) * capacity poi / capacityTotal pool|
        < 1 ∧ (poi.capacityHint ≤ 0 → quota = 0)) pool quotas

def capacityOf (pool : List Poi) (id : ℕ) : ℤ :=
  capacityTotal (pool.filter fun poi => poi.poiId = id)

/-- Everyone has a home, just the selected ones have a workplace, and none has too many. -/
structure LayoutAssignments (homePois workPois : List Poi) (citizenCount : ℤ) (workers : List ℕ)
    (plan : PopulationLayoutPlan) : Prop where
  homes : (plan.homePoiIds.length : ℤ) = citizenCount ∧
    ∀ id ∈ plan.homePoiIds, id ∈ homePois.map Poi.poiId
  work : (plan.workPoiIds.length : ℤ) = citizenCount ∧ ∀ idx, ∀ place,
    plan.workPoiIds[idx]? = some place → (place.isSome ↔ idx ∈ workers) ∧
      ∀ id, place = some id → id ∈ workPois.map Poi.poiId
  home_capacity : 0 < capacityTotal homePois →
    ∀ id, (plan.homePoiIds.count id : ℤ) ≤ capacityOf homePois id
  work_capacity : 0 < capacityTotal workPois →
    ∀ id, (plan.workPoiIds.count (some id) : ℤ) ≤ capacityOf workPois id

end Property

section Slots

variable {pool : List Poi} {count : ℤ}

theorem py_int_of_nonneg {q : ℚ} (nonneg : 0 ≤ q) : pyInt q = ⌊q⌋ := by
  rw [pyInt, Int.tdiv_eq_ediv_of_nonneg (Rat.num_nonneg.mpr nonneg)]
  exact (Rat.floor_def q).symm

/-- The exact share of the place at an index. -/
def quotaAt (pool : List Poi) (count : ℤ) (i : ℕ) : ℚ :=
  count * (((pool.map capacity).getD i 0 : ℤ) / (capacityTotal pool : ℤ))

/-- The first of equal parts is the place of the larger capacity, then of the larger index's
negative. -/
def rankKey (pool : List Poi) (i : ℕ) : ℤ ×ₗ ℕ := toLex (-(pool.map capacity).getD i 0, i)

/-- The indices in the order in which the units left over go out. -/
def rankedIndices (pool : List Poi) (count : ℤ) : List ℕ :=
  remainderOrder (pool.map capacity) ((List.range pool.length).map (quotaAt pool count))
    ((List.range pool.length).map fun i => ⌊quotaAt pool count i⌋) pool.length

theorem at_index {α β : Type} (l : List α) (a : α) (f : α → β) :
    l.map f = (List.range l.length).map fun i => f (l.getD i a) := by
  refine List.ext_getElem (by simp) fun i first second => ?_
  rw [List.getElem_map, List.getElem_map, List.getElem_range, List.getD_eq_getElem]

theorem get_range_map {α : Type} {f : ℕ → α} {n i : ℕ} (below : i < n) (a : α) :
    ((List.range n).map f).getD i a = f i := by
  rw [List.getD_eq_getElem _ _ (by simpa using below), List.getElem_map, List.getElem_range]

theorem capacity_nonneg (poi : Poi) : 0 ≤ capacity poi := le_max_left _ _

theorem capacity_at_nonneg (pool : List Poi) (i : ℕ) : 0 ≤ (pool.map capacity).getD i 0 := by
  rcases lt_or_ge i (pool.map capacity).length with inside | outside
  · rw [List.getD_eq_getElem _ _ inside, List.getElem_map]
    exact capacity_nonneg _
  · rw [List.getD_eq_default _ _ outside]

theorem sum_quota_at (positive : 0 < capacityTotal pool) :
    ((List.range pool.length).map (quotaAt pool count)).sum = count := by
  have quotas : (List.range pool.length).map (quotaAt pool count) =
      (pool.map capacity).map fun cap : ℤ => (count * (cap / capacityTotal pool) : ℚ) := by
    rw [at_index (pool.map capacity) 0, List.length_map]
    rfl
  have general : ∀ (total : ℚ) (l : List ℤ),
      (l.map fun cap : ℤ => (count * (cap / total) : ℚ)).sum = count * (l.sum / total) := by
    intro total l
    induction l with
    | nil => simp
    | cons cap l ih =>
      rw [List.map_cons, List.sum_cons, ih, List.sum_cons, Int.cast_add]
      ring
  have nonzero : ((pool.map capacity).sum : ℚ) ≠ 0 := Int.cast_ne_zero.mpr positive.ne'
  rw [quotas, general, capacityTotal, div_self nonzero, mul_one]

theorem ranked_indices_ranked (count : ℤ) (positive : 0 < capacityTotal pool) :
    Ranked (quotaAt pool count) (rankKey pool) count (rankedIndices pool count) := by
  have perm : (rankedIndices pool count).Perm (List.range pool.length) :=
    (List.reverse_perm _).trans sort_on_perm
  refine ⟨(perm.map _).sum_eq.trans (sum_quota_at positive), ?_⟩
  have apart : ((List.range pool.length).map fun i : ℕ =>
      toLex (((List.range pool.length).map (quotaAt pool count)).getD i 0 -
        ((List.range pool.length).map fun i => ⌊quotaAt pool count i⌋).getD i 0,
        toLex ((pool.map capacity).getD i 0, -(i : ℤ)))).Nodup := by
    refine List.nodup_range.map fun i j same => ?_
    have last := congrArg (fun key => (ofLex (ofLex key).2).2) same
    exact Int.ofNat_inj.mp (neg_inj.mp last)
  refine List.pairwise_reverse.mpr (List.Pairwise.imp_of_mem ?_ (sort_on_strict apart))
  intro j i listed listed' less
  rw [mem_sort_on, List.mem_range] at listed listed'
  rw [get_range_map listed, get_range_map listed', get_range_map listed, get_range_map listed',
    Prod.Lex.toLex_lt_toLex, Prod.Lex.toLex_lt_toLex] at less
  refine less.imp id fun later => ⟨later.1.symm, ?_⟩
  unfold rankKey
  rw [Prod.Lex.toLex_lt_toLex]
  refine later.2.imp neg_lt_neg fun last => ⟨neg_inj.mpr last.1.symm, ?_⟩
  have below := last.2
  dsimp only at below
  omega

theorem raise_each {n : ℕ} {first : List ℕ} (distinct : first.Nodup) (f : ℕ → ℤ) :
    first.foldl (fun quotas i => quotas.modify i (· + 1)) ((List.range n).map f) =
      (List.range n).map fun i => f i + if i ∈ first then 1 else 0 := by
  induction first generalizing f with
  | nil => simp
  | cons j first ih =>
    obtain ⟨new, distinct⟩ := List.nodup_cons.mp distinct
    have step : ((List.range n).map f).modify j (· + 1) =
        (List.range n).map fun i => f i + if i = j then 1 else 0 := by
      refine List.ext_getElem (by simp) fun i inside inside' => ?_
      rw [List.getElem_modify, List.getElem_map, List.getElem_map, List.getElem_range]
      by_cases same : j = i
      · rw [if_pos same, if_pos same.symm]
      · rw [if_neg same, if_neg (Ne.symm same), add_zero]
    rw [List.foldl_cons, step, ih distinct]
    refine List.map_congr_left fun i _ => ?_
    by_cases same : i = j
    · rw [if_pos same, if_neg (same ▸ new), if_pos (same ▸ List.mem_cons_self), add_zero]
    · rw [if_neg same, add_zero]
      simp only [List.mem_cons, same, false_or]

/-- The slots that each place gets. -/
def quotasOf (pool : List Poi) (count : ℤ) : List ℤ :=
  (List.range pool.length).map (share (quotaAt pool count) count (rankedIndices pool count))

theorem quota_at_nonneg (pool : List Poi) (nonneg : 0 ≤ count) (i : ℕ) : 0 ≤ quotaAt pool count i := by
  have total : 0 ≤ capacityTotal pool :=
    List.sum_nonneg (List.forall_mem_map.mpr fun poi _ => capacity_nonneg poi)
  have cap := capacity_at_nonneg pool i
  exact mul_nonneg (Int.cast_nonneg nonneg)
    (div_nonneg (Int.cast_nonneg cap) (Int.cast_nonneg total))

theorem source_quotas (positive : 0 < capacityTotal pool) (nonneg : 0 ≤ count) :
    let scaled := (pool.map capacity).map fun cap : ℤ =>
      (count * (cap / (pool.map capacity).sum) : ℚ)
    let quotas := scaled.map pyInt
    (if 0 < count - quotas.sum then
      ((remainderOrder (pool.map capacity) scaled quotas pool.length).take
        (count - quotas.sum).toNat).foldl (fun quotas i => quotas.modify i (· + 1)) quotas
      else quotas) = quotasOf pool count := by
  have scaled : ((pool.map capacity).map fun cap : ℤ =>
      (count * (cap / (pool.map capacity).sum) : ℚ)) =
      (List.range pool.length).map (quotaAt pool count) := by
    rw [at_index (pool.map capacity) 0, List.length_map]
    rfl
  have floors : ((List.range pool.length).map (quotaAt pool count)).map pyInt =
      (List.range pool.length).map fun i => ⌊quotaAt pool count i⌋ := by
    rw [List.map_map]
    exact List.map_congr_left fun i _ => py_int_of_nonneg (quota_at_nonneg pool nonneg i)
  have ranked := ranked_indices_ranked count positive
  have perm : (rankedIndices pool count).Perm (List.range pool.length) :=
    (List.reverse_perm _).trans sort_on_perm
  have left : count - ((List.range pool.length).map fun i => ⌊quotaAt pool count i⌋).sum =
      leftOver (quotaAt pool count) count (rankedIndices pool count) := by
    rw [leftOver, (perm.map _).sum_eq]
  have order : remainderOrder (pool.map capacity) ((List.range pool.length).map
      (quotaAt pool count)) ((List.range pool.length).map fun i => ⌊quotaAt pool count i⌋)
      pool.length = rankedIndices pool count := rfl
  have shares : quotasOf pool count = ((rankedIndices pool count).take
      (leftOver (quotaAt pool count) count (rankedIndices pool count)).toNat).foldl
      (fun quotas i => quotas.modify i (· + 1))
      ((List.range pool.length).map fun i => ⌊quotaAt pool count i⌋) :=
    (raise_each (ranked.distinct.sublist (List.take_sublist _ _)) _).symm
  dsimp only
  rw [scaled, floors, left, order, shares]
  split
  · rfl
  · rename_i none
    have zero : (leftOver (quotaAt pool count) count (rankedIndices pool count)).toNat = 0 := by
      omega
    rw [zero, List.take_zero, List.foldl_nil]

theorem sum_quotas (count : ℤ) (positive : 0 < capacityTotal pool) : (quotasOf pool count).sum = count := by
  have ranked := ranked_indices_ranked count positive
  have perm : (rankedIndices pool count).Perm (List.range pool.length) :=
    (List.reverse_perm _).trans sort_on_perm
  rw [quotasOf, ← (perm.map _).sum_eq, ranked.sum_share]

theorem quota_bounds (positive : 0 < capacityTotal pool) (nonneg : 0 ≤ count)
    (enough : count ≤ capacityTotal pool) :
    List.Forall₂ (fun poi quota => 0 ≤ quota ∧ quota ≤ capacity poi ∧
      |(quota : ℚ) - count * capacity poi / capacityTotal pool| < 1 ∧
      (poi.capacityHint ≤ 0 → quota = 0)) pool (quotasOf pool count) := by
  have ranked := ranked_indices_ranked count positive
  have lengths : (quotasOf pool count).length = pool.length := by simp [quotasOf]
  refine List.forall₂_iff_get.mpr ⟨lengths.symm, fun i inside inside' => ?_⟩
  rw [List.get_eq_getElem, List.get_eq_getElem]
  have at_i : quotaAt pool count i = count * capacity pool[i] / capacityTotal pool := by
    rw [quotaAt, List.getD_eq_getElem _ _ (by simpa using inside), List.getElem_map, mul_div_assoc]
  have here : (quotasOf pool count)[i] =
      share (quotaAt pool count) count (rankedIndices pool count) i := by
    simp [quotasOf]
  have within := ranked.share_within (a := i)
  have whole : ∀ n : ℤ, quotaAt pool count i = n →
      share (quotaAt pool count) count (rankedIndices pool count) i = n :=
    fun n => ranked.share_of_whole
  rw [here]
  generalize share (quotaAt pool count) count (rankedIndices pool count) i = s at within whole
  obtain ⟨low, high⟩ := abs_lt.mp within
  have total : (0 : ℚ) < capacityTotal pool := Int.cast_pos.mpr positive
  have cap_nonneg := capacity_nonneg pool[i]
  have most : quotaAt pool count i ≤ capacity pool[i] := by
    rw [at_i, div_le_iff₀ total, mul_comm]
    exact mul_le_mul_of_nonneg_left (Int.cast_le.mpr enough) (Int.cast_nonneg cap_nonneg)
  have least := quota_at_nonneg pool nonneg i
  refine ⟨?_, ?_, by rw [← at_i]; exact within, fun none => ?_⟩
  · have above : (-1 : ℚ) < s := by linarith
    have above' : (-1 : ℤ) < s := by exact_mod_cast above
    omega
  · rcases most.eq_or_lt with exact_it | less
    · exact (whole _ exact_it).le
    · have below : (s : ℚ) < capacity pool[i] + 1 := by linarith
      have below' : s < capacity pool[i] + 1 := by exact_mod_cast below
      exact Int.lt_add_one_iff.mp below'
  · have zero : capacity pool[i] = 0 := max_eq_left none
    refine whole 0 ?_
    rw [at_i, zero]
    simp

theorem slot_blocks {quotas : List ℤ} {counts : List ℕ} (same : quotas.map Int.toNat = counts) :
    ((pool.zip quotas).flatMap fun item =>
      if 0 < item.2 then List.replicate item.2.toNat item.1.poiId else []) =
    (pool.zip counts).flatMap fun item => List.replicate item.2 item.1.poiId := by
  rw [← same, List.zip_map_right, List.flatMap_map]
  refine List.flatMap_congr fun item _ => ?_
  dsimp only [Prod.map]
  split
  · rfl
  · rename_i none
    rw [Int.toNat_of_nonpos (not_lt.mp none)]
    rfl

theorem block_length {α : Type} {items : List α} {counts : List ℕ} (f : α → ℕ)
    (lengths : items.length = counts.length) :
    ((items.zip counts).flatMap fun item => List.replicate item.2 (f item.1)).length =
      counts.sum := by
  induction items generalizing counts with
  | nil =>
    rw [List.length_eq_zero_iff.mp lengths.symm]
    rfl
  | cons item items ih =>
    cases counts with
    | nil => cases lengths
    | cons count counts =>
      rw [List.zip_cons_cons, List.flatMap_cons, List.length_append, List.length_replicate,
        ih (Nat.succ.inj lengths), List.sum_cons]

theorem capacity_total_nonneg (pool : List Poi) : 0 ≤ capacityTotal pool :=
  List.sum_nonneg (List.forall_mem_map.mpr fun poi _ => capacity_nonneg poi)

theorem slots_of_capacity (positive : 0 < capacityTotal pool) (some : 0 < count) :
    ∃ slots, buildAssignmentSlots pool count = .ok slots ∧ AssignmentSlots pool count slots := by
  have nonempty : pool ≠ [] := by
    rintro rfl
    exact lt_irrefl _ positive
  have low : 0 < min count (capacityTotal pool) := lt_min some positive
  have bounds := quota_bounds positive low.le (min_le_right count (capacityTotal pool))
  have source := source_quotas positive low.le
  have sum := sum_quotas (min count (capacityTotal pool)) positive
  generalize quotasOf pool (min count (capacityTotal pool)) = quotas at bounds source sum
  have nonneg : ∀ quota ∈ quotas, 0 ≤ quota := by
    intro quota listed
    obtain ⟨poi, -, bound⟩ := paired_right bounds listed
    exact bound.1
  have total : ((quotas.map Int.toNat).sum : ℤ) = min count (capacityTotal pool) := by
    rw [← sum, Nat.cast_list_sum, List.map_map]
    exact congrArg List.sum ((List.map_congr_left fun quota listed =>
      Int.toNat_of_nonneg (nonneg quota listed)).trans (List.map_id quotas))
  have length : ((pool.zip (quotas.map Int.toNat)).flatMap fun item =>
      List.replicate item.2 item.1.poiId).length = (quotas.map Int.toNat).sum :=
    block_length Poi.poiId (by rw [List.length_map]; exact bounds.length_eq)
  refine ⟨_, ?_, by rw [length]; omega, quotas.map Int.toNat, rfl, ?_⟩
  · unfold buildAssignmentSlots
    rw [if_neg (not_le.mpr some)]
    refine bind_ok.mpr ⟨(), raise_if_ok.mpr nonempty, ?_⟩
    dsimp only at source ⊢
    unfold capacityTotal at source total positive
    rw [if_neg (not_le.mpr positive), source, slot_blocks rfl]
    refine bind_ok.mpr ⟨(), raise_if_ok.mpr ?_, rfl⟩
    rw [not_not, length]
    exact total
  · rw [List.forall₂_map_right_iff]
    refine bounds.imp fun poi quota bound => ?_
    obtain ⟨least, most, near, none⟩ := bound
    have cast : ((quota.toNat : ℤ) : ℚ) = quota := by rw [Int.toNat_of_nonneg least]
    refine ⟨by rw [Int.toNat_of_nonneg least]; exact most, ?_, fun empty => by rw [none empty]; rfl⟩
    rw [← Int.cast_natCast, cast, max_eq_right low.le]
    exact near

theorem assignment_slots (positive : 0 < capacityTotal pool) (count : ℤ) :
    ∃ slots, buildAssignmentSlots pool count = .ok slots ∧ AssignmentSlots pool count slots := by
  rcases lt_or_ge 0 count with some | none
  · exact slots_of_capacity positive some
  · have empty : min count (capacityTotal pool) ≤ 0 := (min_le_left _ _).trans none
    refine ⟨[], ?_, by rw [Int.toNat_of_nonpos empty]; rfl, List.replicate pool.length 0, ?_, ?_⟩
    · unfold buildAssignmentSlots
      rw [if_pos none]
      rfl
    · symm
      rw [List.flatMap_eq_nil_iff]
      intro item listed
      rw [List.eq_of_mem_replicate (List.of_mem_zip listed).2]
      rfl
    · refine List.forall₂_iff_get.mpr ⟨by simp, fun i inside inside' => ?_⟩
      rw [List.get_eq_getElem, List.get_eq_getElem, List.getElem_replicate]
      refine ⟨capacity_nonneg _, ?_, fun _ => rfl⟩
      rw [max_eq_left empty]
      simp

end Slots

section Layout

variable {pool : List Poi} {count : ℤ}

theorem slots_exist (nonempty : pool ≠ []) (count : ℤ)
    (enough : 0 < capacityTotal pool → count ≤ capacityTotal pool) :
    ∃ slots, buildAssignmentSlots pool count = .ok slots ∧ slots.length = count.toNat ∧
      (∀ id ∈ slots, id ∈ pool.map Poi.poiId) ∧
      (0 < capacityTotal pool → AssignmentSlots pool count slots) := by
  rcases lt_or_ge 0 (capacityTotal pool) with positive | empty
  · obtain ⟨slots, run, slot⟩ := assignment_slots positive count
    refine ⟨slots, run, ?_, fun id listed => ?_, fun _ => slot⟩
    · rw [slot.length, min_eq_left (enough positive)]
    · obtain ⟨quotas, blocks, -⟩ := slot.blocks
      rw [blocks, List.mem_flatMap] at listed
      obtain ⟨item, zipped, repeated⟩ := listed
      rw [List.eq_of_mem_replicate repeated]
      exact List.mem_map_of_mem (List.of_mem_zip zipped).1
  · rcases lt_or_ge 0 count with some | none
    · refine ⟨(List.range count.toNat).map fun i =>
        (pool.map Poi.poiId).getD (i % pool.length) 0, ?_, by simp, ?_,
        fun positive => absurd empty (not_le.mpr positive)⟩
      · unfold buildAssignmentSlots
        rw [if_neg (not_le.mpr some)]
        refine bind_ok.mpr ⟨(), raise_if_ok.mpr nonempty, ?_⟩
        dsimp only
        unfold capacityTotal at empty
        rw [if_pos empty]
        rfl
      · intro id listed
        obtain ⟨i, -, rfl⟩ := List.mem_map.mp listed
        have inside : i % pool.length < (pool.map Poi.poiId).length := by
          rw [List.length_map]
          exact Nat.mod_lt _ (List.length_pos_of_ne_nil nonempty)
        rw [List.getD_eq_getElem _ _ inside]
        exact List.getElem_mem inside
    · refine ⟨[], ?_, by rw [Int.toNat_of_nonpos none]; rfl, by simp,
        fun positive => absurd empty (not_le.mpr positive)⟩
      unfold buildAssignmentSlots
      rw [if_pos none]
      rfl

theorem count_slots {slots : List ℕ} (h : AssignmentSlots pool count slots) (id : ℕ) :
    (slots.count id : ℤ) ≤ capacityOf pool id := by
  obtain ⟨quotas, blocks, bounds⟩ := h.blocks
  rw [blocks]
  clear blocks h
  -- the bound on each block is all that matters
  have most : List.Forall₂ (fun (poi : Poi) (quota : ℕ) => quota ≤ capacity poi) pool quotas :=
    bounds.imp fun poi quota bound => bound.1
  clear bounds
  induction most with
  | nil => exact capacity_total_nonneg _
  | @cons poi quota pool quotas here _ ih =>
    rw [List.zip_cons_cons, List.flatMap_cons, List.count_append, List.count_replicate,
      Nat.cast_add]
    unfold capacityOf capacityTotal at ih ⊢
    rw [List.filter_cons]
    by_cases same : poi.poiId = id
    · rw [if_pos (decide_eq_true same), if_pos (by simpa using same), List.map_cons,
        List.sum_cons]
      exact add_le_add here ih
    · rw [if_neg (by simpa using same), if_neg (by simpa using same), Nat.cast_zero, zero_add]
      exact ih

theorem citizen_count_bounds {K : Type} [Scalar K] (zones : List (Zone K)) (homePois : List Poi)
    (target : ℤ) : 1 ≤ citizenCountOf zones homePois target ∧
      (0 < capacityTotal homePois →
        citizenCountOf zones homePois target ≤ capacityTotal homePois) := by
  refine ⟨le_max_left _ _, fun positive => max_le (by omega) ?_⟩
  rw [if_pos positive, List.foldl_append, List.foldl_cons, List.foldl_nil]
  exact min_le_right _ _

theorem worker_target_bounds (workPois : List Poi) {citizenCount : ℤ} (pos : 1 ≤ citizenCount) :
    0 ≤ workerTargetOf workPois citizenCount ∧
      workerTargetOf workPois citizenCount ≤ citizenCount ∧
      (workPois = [] → workerTargetOf workPois citizenCount = 0) ∧
      (0 < capacityTotal workPois →
        workerTargetOf workPois citizenCount ≤ capacityTotal workPois) := by
  refine ⟨le_max_left _ _, max_le (by omega) (min_le_right _ _), ?_, fun positive => ?_⟩
  · rintro rfl
    have zero : roundHalfEven ((citizenCount : ℚ) * 0) = 0 := by
      rw [mul_zero]
      decide +kernel
    unfold workerTargetOf
    simp only [ne_eq, not_true_eq_false, if_false, zero]
    simp [capacityTotal, pos.trans' zero_le_one]
  · refine max_le positive.le ((min_le_left _ _).trans ?_)
    rw [if_pos positive]
    exact min_le_right _ _

/-- The workplaces that are left when some citizens have passed. -/
theorem assign_work_run (workers slots : List ℕ) (n : ℕ)
    (few : ((List.range n).filter (· ∈ workers)).length ≤ slots.length) :
    let s := (List.range n).foldl (assignWork workers slots) (0, [])
    s.1 = ((List.range n).filter (· ∈ workers)).length ∧ s.2.length = n ∧
      s.2.reduceOption = slots.take s.1 ∧
      ∀ idx place, s.2[idx]? = some place → (place.isSome ↔ idx ∈ workers) := by
  induction n with
  | zero => simp
  | succ n ih =>
    have split : (List.range (n + 1)).filter (· ∈ workers) =
        (List.range n).filter (· ∈ workers) ++ if n ∈ workers then [n] else [] := by
      rw [List.range_succ, List.filter_append, List.filter_singleton]
      by_cases works : n ∈ workers <;> simp [works]
    rw [split, List.length_append] at few ⊢
    obtain ⟨used, length, taken, places⟩ := ih (by omega)
    rw [List.range_succ, List.foldl_append, List.foldl_cons, List.foldl_nil]
    generalize (List.range n).foldl (assignWork workers slots) (0, []) = s at *
    have at_end : ∀ (last : Option ℕ) (idx : ℕ) (place : Option ℕ),
        (last.isSome ↔ n ∈ workers) → (s.2 ++ [last])[idx]? = some place →
        (place.isSome ↔ idx ∈ workers) := by
      intro last idx place right found
      rcases lt_or_ge idx s.2.length with early | late
      · rw [List.getElem?_append_left early] at found
        exact places idx place found
      · rw [List.getElem?_append_right late, List.getElem?_singleton] at found
        split at found
        · rename_i first
          obtain rfl := Option.some.inj found
          obtain rfl : idx = n := by omega
          exact right
        · cases found
    by_cases works : n ∈ workers
    · rw [if_pos works, List.length_singleton] at few ⊢
      have room : s.1 < slots.length := by omega
      have step : assignWork workers slots s n = (s.1 + 1, s.2 ++ [slots[s.1]?]) :=
        if_pos ⟨works, room⟩
      rw [step]
      refine ⟨by omega, by simp [length], ?_, fun idx place => at_end _ idx place ?_⟩
      · rw [List.reduceOption_append, taken, List.getElem?_eq_getElem room,
          List.reduceOption_singleton, Option.toList_some]
        exact (List.take_concat_get' slots s.1 room)
      · rw [List.getElem?_eq_getElem room]
        simp [works]
    · rw [if_neg works, List.length_nil] at few ⊢
      have step : assignWork workers slots s n = (s.1, s.2 ++ [none]) :=
        if_neg fun both => works both.1
      rw [step]
      refine ⟨by omega, by simp [length], ?_, fun idx place => at_end _ idx place (by simp [works])⟩
      rw [List.reduceOption_append, List.reduceOption_singleton, Option.toList_none,
        List.append_nil]
      exact taken

theorem count_reduce_option {places : List (Option ℕ)} {id : ℕ} :
    places.reduceOption.count id = places.count (some id) := by
  induction places with
  | nil => rfl
  | cons place places ih =>
    cases place with
    | none => simp [ih]
    | some place => simp [ih, List.count_cons]

theorem workers_count {order : List ℕ} {n m : ℕ} (perm : order.Perm (List.range n)) (few : m ≤ n) :
    ((List.range n).filter (· ∈ order.take m)).length = m := by
  have distinct : (order.take m).Nodup :=
    (perm.nodup_iff.mpr List.nodup_range).sublist (List.take_sublist _ _)
  have same : ((List.range n).filter (· ∈ order.take m)).Perm (order.take m) := by
    refine (List.perm_ext_iff_of_nodup (List.nodup_range.filter _) distinct).mpr fun i => ?_
    rw [List.mem_filter, decide_eq_true_eq]
    exact and_iff_right_of_imp fun taken => perm.mem_iff.mp (List.mem_of_mem_take taken)
  rw [same.length_eq, List.length_take, perm.length_eq, List.length_range, min_eq_left few]

theorem leisure_errors {rng : PopulationRng} {seed : ℤ} {e : String}
    (run : buildLeisurePrefCache rng pool seed = .error e) :
    e ≠ "home assignment slot count mismatch" ∧
      e ≠ "assignment slot planner produced mismatched slot count" := by
  have rows : ∀ (rows : List (List ℚ)) (n : ℕ) (l : List ℕ),
      l.mapM (leisureRow pool rows n) = .error e →
        e ≠ "home assignment slot count mismatch" ∧
          e ≠ "assignment slot planner produced mismatched slot count" := by
    intro rows n l
    induction l with
    | nil => exact fun run => absurd run (by simp)
    | cons start l ih =>
      intro run
      rw [List.mapM_cons] at run
      rcases bind_error.mp run with here | ⟨_, -, later⟩
      · unfold leisureRow at here
        dsimp only at here
        split at here
        · cases here
          decide
        · rcases bind_error.mp here with shorter | ⟨_, -, here⟩
          · rw [← (raise_if_error.mp shorter).2]
            decide
          rcases bind_error.mp here with longer | ⟨_, -, here⟩
          · rw [← (raise_if_error.mp longer).2]
            decide
          rcases bind_error.mp here with zero | ⟨_, -, here⟩
          · rw [← (raise_if_error.mp zero).2]
            decide
          · cases here
      · rcases bind_error.mp later with failed | ⟨_, -, done⟩
        · exact ih failed
        · cases done
  unfold buildLeisurePrefCache at run
  split at run
  · cases run
  · exact rows _ _ _ run

/-- The citizens' homes and workplaces never exceed what there is room for, and the counts of the
slots never differ from what was asked for. -/
theorem homes_and_workplaces_within_capacity {K : Type} [Scalar K] {rng : PopulationRng}
    (perm : ∀ seed n, (rng.workerOrder seed n).Perm (List.range n)) :
    (∀ pool count, 0 < capacityTotal pool →
      ∃ slots, buildAssignmentSlots pool count = .ok slots ∧ AssignmentSlots pool count slots) ∧
    ∀ (zones : List (Zone K)) (pois : List Poi) (populationTarget metadataTarget : Option ℤ)
      (configTarget seed : ℤ) (scheduleTemplates : List ScheduleTemplate)
      (behaviorProfileIds : List ℤ),
      let homePois := pois.filter fun poi => poi.poiType = .home
      let workPois := pois.filter fun poi => poi.poiType = .workplace
      let citizenCount := citizenCountOf zones homePois
        (resolvePopulationTarget populationTarget metadataTarget configTarget)
      let workers := (rng.workerOrder seed citizenCount.toNat).take
        (workerTargetOf workPois citizenCount).toNat
      let run := planCitizenPopulationLayout rng zones pois populationTarget metadataTarget
        configTarget seed scheduleTemplates behaviorProfileIds
      (∀ plan, run = .ok plan → LayoutAssignments homePois workPois citizenCount workers plan) ∧
        ∀ e, run = .error e → e ≠ "home assignment slot count mismatch" ∧
          e ≠ "assignment slot planner produced mismatched slot count" := by
  refine ⟨fun pool count positive => assignment_slots positive count, ?_⟩
  intro zones pois populationTarget metadataTarget configTarget seed templates profiles homePois
    workPois citizenCount workers run
  obtain ⟨pos, home_fits⟩ := citizen_count_bounds zones homePois
    (resolvePopulationTarget populationTarget metadataTarget configTarget)
  obtain ⟨target_nonneg, target_le, no_work, work_fits⟩ := worker_target_bounds workPois pos
  -- the work slots are made whenever there is someone who works
  have work_slots : ∃ slots, (if workerTargetOf workPois citizenCount ≠ 0 then
      buildAssignmentSlots workPois (workerTargetOf workPois citizenCount)
      else pure []) = .ok slots ∧ slots.length = (workerTargetOf workPois citizenCount).toNat ∧
      (∀ id ∈ slots, id ∈ workPois.map Poi.poiId) ∧
      (0 < capacityTotal workPois → ∀ id, (slots.count id : ℤ) ≤ capacityOf workPois id) := by
    by_cases works : workerTargetOf workPois citizenCount = 0
    · refine ⟨[], if_neg (not_not.mpr works), by rw [works]; rfl, by simp, fun _ id => ?_⟩
      exact capacity_total_nonneg _
    · obtain ⟨slots, made, length, known, slot⟩ :=
        slots_exist (fun none => works (no_work none)) _ work_fits
      exact ⟨slots, by rw [if_pos works]; exact made, length, known,
        fun positive => count_slots (slot positive)⟩
  obtain ⟨workSlots, work_run, work_length, work_known, work_room⟩ := work_slots
  have home_slots := fun nonempty : homePois ≠ [] => slots_exist nonempty citizenCount home_fits
  have whole : (citizenCount.toNat : ℤ) = citizenCount :=
    Int.toNat_of_nonneg (zero_le_one.trans pos)
  constructor
  · intro plan ok
    obtain ⟨_, nonempty, ok⟩ := bind_ok.mp ok
    obtain ⟨homeSlots, made, length, known, slot⟩ := home_slots (raise_if_ok.mp nonempty)
    obtain ⟨_, same, ok⟩ := bind_ok.mp ok
    obtain rfl := Except.ok.inj (made.symm.trans same)
    obtain ⟨_, -, ok⟩ := bind_ok.mp ok
    obtain ⟨_, -, ok⟩ := bind_ok.mp ok
    obtain ⟨_, -, ok⟩ := bind_ok.mp ok
    obtain ⟨_, -, ok⟩ := bind_ok.mp ok
    obtain ⟨_, same, ok⟩ := bind_ok.mp ok
    obtain rfl := Except.ok.inj (work_run.symm.trans same)
    obtain ⟨_, -, ok⟩ := bind_ok.mp ok
    obtain rfl := pure_ok.mp ok
    have count := workers_count (perm seed citizenCount.toNat)
      (Int.toNat_le_toNat target_le)
    obtain ⟨used, all, taken, places⟩ := assign_work_run workers
      workSlots citizenCount.toNat (by rw [count, work_length])
    rw [used, count, ← work_length, List.take_length] at taken
    refine ⟨⟨by rw [length, whole], known⟩, ⟨(congrArg Nat.cast all).trans whole,
      fun idx place found => ⟨places idx place found, ?_⟩⟩,
      fun positive => count_slots (slot positive), ?_⟩
    · rintro id rfl
      refine work_known id ?_
      rw [← taken]
      exact List.reduceOption_mem_iff.mpr (List.mem_of_getElem? found)
    · intro positive id
      refine le_trans ?_ (work_room positive id)
      exact Int.ofNat_le.mpr (count_reduce_option.symm.trans (congrArg (List.count id) taken)).le
  · intro e error
    rcases bind_error.mp error with empty | ⟨_, nonempty, error⟩
    · rw [← (raise_if_error.mp empty).2]
      decide
    obtain ⟨homeSlots, made, length, known, slot⟩ := home_slots (raise_if_ok.mp nonempty)
    rcases bind_error.mp error with home | ⟨_, same, error⟩
    · cases made.symm.trans home
    obtain rfl := Except.ok.inj (made.symm.trans same)
    rcases bind_error.mp error with mismatch | ⟨_, -, error⟩
    · exact absurd (by rw [length]; exact whole) (raise_if_error.mp mismatch).1
    rcases bind_error.mp error with cover | ⟨_, -, error⟩
    · rw [← (raise_if_error.mp cover).2]
      decide
    rcases bind_error.mp error with both | ⟨_, -, error⟩
    · rw [← (raise_if_error.mp both).2]
      decide
    rcases bind_error.mp error with profiles | ⟨_, -, error⟩
    · rw [← (raise_if_error.mp profiles).2]
      decide
    rcases bind_error.mp error with work | ⟨_, -, error⟩
    · cases work_run.symm.trans work
    rcases bind_error.mp error with leisure | ⟨_, -, error⟩
    · exact leisure_errors leisure
    · cases error

/-- A home for one citizen and a workplace for three. -/
def oneOfEach : List Poi := [⟨1, 0, .home, 10, 1⟩, ⟨2, 0, .workplace, 11, 3⟩]

/-- The only order of one citizen, and weights that make one preference whole. -/
def oneCitizenRng : PopulationRng where
  workerOrder _ n := List.range n
  leisureWeights _ rows n := List.replicate rows (List.replicate n 1)

theorem one_citizen_within_capacity :
    ∃ plan, planCitizenPopulationLayout (K := ℝ) oneCitizenRng [] oneOfEach (some 5) none 100 7
        [⟨3, .both⟩] [4] = .ok plan ∧
      plan.homePoiIds = [1] ∧ plan.workPoiIds = [some 2] ∧
      LayoutAssignments (oneOfEach.filter fun poi => poi.poiType = .home)
        (oneOfEach.filter fun poi => poi.poiType = .workplace) 1 [0] plan := by
  have run : planCitizenPopulationLayout (K := ℝ) oneCitizenRng [] oneOfEach (some 5) none 100 7
      [⟨3, .both⟩] [4] = .ok ⟨[1], [some 2], [3], [4], [[(1, 1)]]⟩ := by
    unfold planCitizenPopulationLayout buildAssignmentSlots remainderOrder
    simp only [sort_on_insertion]
    decide +kernel
  have permutes : ∀ seed n, (oneCitizenRng.workerOrder seed n).Perm (List.range n) :=
    fun _ _ => List.Perm.refl _
  have citizens : citizenCountOf ([] : List (Zone ℝ))
      (oneOfEach.filter fun poi => poi.poiType = .home)
      (resolvePopulationTarget (some 5) none 100) = 1 := by decide +kernel
  have workers : workerTargetOf (oneOfEach.filter fun poi => poi.poiType = .workplace) 1 = 1 := by
    decide +kernel
  have assigned := ((homes_and_workplaces_within_capacity (K := ℝ) permutes).2 [] oneOfEach
    (some 5) none 100 7 [⟨3, .both⟩] [4]).1 _ run
  rw [citizens, workers] at assigned
  exact ⟨_, run, rfl, rfl, assigned⟩

end Layout

end Metroflow.Demand.Population
