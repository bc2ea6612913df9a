import Metroflow.Lib.Dict
import Metroflow.Lib.Keyed
import Metroflow.Lib.LargestRemainder
import Metroflow.Lib.Loops

namespace Metroflow.City
open Lib

/-- What the digest check asks of Python's strings. -/
structure PyText where
  lower : String → String
  /-- `int(value, 16)` -/
  int16 : String → Option ℤ

def plainNonnegativeInt (value : ℤ) (name : String) : Except String ℤ := do
  raiseIf (value < 0) s!"{name} must be nonnegative"
  return value

def digestText (text : PyText) (value name : String) : Except String String := do
  raiseIf (value.length ≠ 64 ∨ value ≠ text.lower value)
    s!"{name} must be a lowercase SHA-256 digest"
  raiseIf (text.int16 value = none) s!"{name} must be a lowercase SHA-256 digest"
  return value

/-- The rows read so far. -/
structure ParsedRows where
  parsed : List (String × ℚ)
  seen : Finset String

def parseRow (text : PyText) (s : ParsedRows) (row : String × ℚ) : Except String ParsedRows := do
  let key ← digestText text row.1 "weight key"
  raiseIf (row.2 < 0) "weights must be nonnegative"
  raiseIf (key ∈ s.seen) "weight keys must be unique"
  return { parsed := s.parsed ++ [(key, row.2)], seen := insert key s.seen }

/-- `values[:stop]`, a negative stop counted from the end. -/
def sliceTo {α : Type} (values : List α) (stop : ℤ) : List α :=
  if stop < 0 then values.take (values.length + stop).toNat else values.take stop.toNat

/-- `allocated[key]`, for keys that are there. -/
def allocatedTo (allocated : Dict String ℤ) (key : String) : ℤ :=
  (allocated.get key).getD 0

def quotaRows (target : ℤ) (total : ℚ) (parsed : List (String × ℚ)) : List (String × ℚ) :=
  parsed.map fun row => (row.1, target * row.2 / total)

def wholeParts (quotas : List (String × ℚ)) : Dict String ℤ :=
  Dict.update [] (quotas.map fun quota => (quota.1, quota.2.num / quota.2.den))

def rankQuotas (allocated : Dict String ℤ) (quotas : List (String × ℚ)) : List (String × ℚ) :=
  sortOn (fun item => toLex (-(item.2 - allocatedTo allocated item.1), item.1)) quotas

def addOne (allocated : Dict String ℤ) (quota : String × ℚ) : Dict String ℤ :=
  allocated.set quota.1 (allocatedTo allocated quota.1 + 1)

/-- The allocation of a target over rows of positive total weight. -/
def allocateRows (target : ℤ) (parsed : List (String × ℚ)) : List (String × ℤ) :=
  let total := (parsed.map Prod.snd).sum
  let quotas := quotaRows target total parsed
  let floors := wholeParts quotas
  let remainder := target - (floors.map Prod.snd).sum
  let ranked := rankQuotas floors quotas
  let allocated := (sliceTo ranked remainder).foldl addOne floors
  parsed.map fun row => (row.1, allocatedTo allocated row.1)

def apportionExactChannel (text : PyText) (target : ℤ) (weightedRows : List (String × ℚ)) :
    Except String (List (String × ℤ)) := do
  let target ← plainNonnegativeInt target "target"
  let rows ← weightedRows.foldlM (parseRow text) { parsed := [], seen := ∅ }
  let parsed := sortOn Prod.fst rows.parsed
  if (parsed.map Prod.snd).sum = 0 then
    raiseIf (target ≠ 0) "positive target requires a positive weighted pool"
    return parsed.map fun row => (row.1, 0)
  return allocateRows target parsed

structure WeightedRows (text : PyText) (target : ℤ) (rows : List (String × ℚ)) : Prop where
  target_nonneg : 0 ≤ target
  digests : ∀ row ∈ rows, row.1.length = 64 ∧ row.1 = text.lower row.1 ∧ text.int16 row.1 ≠ none
  nonneg : ∀ row ∈ rows, 0 ≤ row.2
  distinct : (rows.map Prod.fst).Nodup
  positive : 0 < (rows.map Prod.snd).sum

/-- Whole shares of a target that follow the quotas `target * weight / total`. -/
structure Apportions (target : ℤ) (rows : List (String × ℚ)) (result : List (String × ℤ)) :
    Prop where
  keys : (result.map Prod.fst).Perm (rows.map Prod.fst)
  sum : (result.map Prod.snd).sum = target
  nonneg : ∀ share ∈ result, 0 ≤ share.2
  within : ∀ key weight n, (key, weight) ∈ rows → (key, n) ∈ result →
    |(n : ℚ) - target * weight / (rows.map Prod.snd).sum| < 1
  whole : ∀ key weight n, ∀ q : ℤ, (key, weight) ∈ rows → (key, n) ∈ result →
    target * weight / (rows.map Prod.snd).sum = q → n = q
  zero : ∀ key n, (key, 0) ∈ rows → (key, n) ∈ result → n = 0
  larger : ∀ key weight n key' weight' n', (key, weight) ∈ rows → (key', weight') ∈ rows →
    (key, n) ∈ result → (key', n') ∈ result → weight < weight' → n ≤ n'
  equal : ∀ key weight n key' n', (key, weight) ∈ rows → (key', weight) ∈ rows →
    (key, n) ∈ result → (key', n') ∈ result → key < key' → n' ≤ n ∧ n ≤ n' + 1

section Checks

variable {text : PyText} {target : ℤ} {rows rows' : List (String × ℚ)}

theorem plain_nonnegative_int_ok {value v : ℤ} {name : String} :
    plainNonnegativeInt value name = .ok v ↔ 0 ≤ value ∧ v = value := by
  unfold plainNonnegativeInt
  constructor
  · intro run
    obtain ⟨_, nonneg, run⟩ := bind_ok.mp run
    exact ⟨not_lt.mp (raise_if_ok.mp nonneg), (pure_ok.mp run).symm⟩
  · rintro ⟨nonneg, rfl⟩
    exact bind_ok.mpr ⟨(), raise_if_ok.mpr (not_lt.mpr nonneg), rfl⟩

theorem plain_members {values : List ℤ} {name : String} {members : List ℤ} :
    (values.mapM fun value => plainNonnegativeInt value name) = .ok members ↔
      (∀ value ∈ values, 0 ≤ value) ∧ members = values := by
  constructor
  · intro run
    have pairs := map_all_ok.mp run
    refine ⟨fun value listed => ?_, ?_⟩
    · obtain ⟨v, -, read⟩ := paired_left pairs listed
      exact (plain_nonnegative_int_ok.mp read).1
    · have same := paired_map_eq pairs (f := id) (g := id) fun a b read =>
        (plain_nonnegative_int_ok.mp read).2.symm
      rw [List.map_id, List.map_id] at same
      exact same.symm
  · rintro ⟨nonneg, rfl⟩
    refine map_all_ok.mpr (List.forall₂_same.mpr fun value listed => ?_)
    exact plain_nonnegative_int_ok.mpr ⟨nonneg value listed, rfl⟩

theorem digest_text_ok {value : String} (name : String) (length : value.length = 64)
    (lower : value = text.lower value) (int16 : text.int16 value ≠ none) :
    digestText text value name = .ok value := by
  simp only [digestText, bind_ok, raise_if_ok, pure_ok]
  exact ⟨(), not_or.mpr ⟨not_not.mpr length, not_not.mpr lower⟩, (), int16, trivial⟩

theorem digest_text_value {value name v : String} (read : digestText text value name = .ok v) :
    v = value := by
  unfold digestText at read
  obtain ⟨_, -, read⟩ := bind_ok.mp read
  obtain ⟨_, -, read⟩ := bind_ok.mp read
  exact (pure_ok.mp read).symm

theorem WeightedRows.perm (h : WeightedRows text target rows) (same : rows'.Perm rows) :
    WeightedRows text target rows' where
  target_nonneg := h.target_nonneg
  digests row listed := h.digests row (same.mem_iff.mp listed)
  nonneg row listed := h.nonneg row (same.mem_iff.mp listed)
  distinct := (same.map Prod.fst).nodup_iff.mpr h.distinct
  positive := (same.map Prod.snd).sum_eq ▸ h.positive

/-- All weights times a factor. -/
def scaleRows (c : ℚ) (rows : List (String × ℚ)) : List (String × ℚ) :=
  rows.map fun row => (row.1, c * row.2)

theorem scale_keys (c : ℚ) : (scaleRows c rows).map Prod.fst = rows.map Prod.fst := by
  rw [scaleRows, List.map_map]
  rfl

theorem scale_sum (c : ℚ) :
    ((scaleRows c rows).map Prod.snd).sum = c * (rows.map Prod.snd).sum := by
  induction rows with
  | nil => exact (mul_zero c).symm
  | cons row rows ih =>
    rw [scaleRows] at ih ⊢
    simp only [List.map_cons, List.sum_cons, ih, mul_add]

theorem WeightedRows.scale (h : WeightedRows text target rows) {c : ℚ} (positive : 0 < c) :
    WeightedRows text target (scaleRows c rows) where
  target_nonneg := h.target_nonneg
  digests row listed := by
    obtain ⟨before, source, rfl⟩ := List.mem_map.mp listed
    exact h.digests before source
  nonneg row listed := by
    obtain ⟨before, source, rfl⟩ := List.mem_map.mp listed
    exact mul_nonneg positive.le (h.nonneg before source)
  distinct := by
    rw [scale_keys]
    exact h.distinct
  positive := by
    rw [scale_sum]
    exact mul_pos positive h.positive

theorem WeightedRows.parse (h : WeightedRows text target rows) :
    ∃ read, rows.foldlM (parseRow text) { parsed := [], seen := ∅ } = .ok read ∧
      read.parsed = rows := by
  obtain ⟨read, run, kept, -⟩ := fold_total (f := parseRow text)
    (I := fun past s => s.parsed = past ∧ ∀ key, key ∈ s.seen ↔ key ∈ past.map Prod.fst)
    (l := rows) (s := { parsed := [], seen := ∅ }) (by
      rintro past row rest s split ⟨kept, seen⟩
      have listed : row ∈ rows := by rw [split]; simp
      obtain ⟨length, lower, int16⟩ := h.digests row listed
      have digest := digest_text_ok "weight key" length lower int16
      have new : row.1 ∉ s.seen := by
        have distinct := h.distinct
        rw [split, List.map_append, List.map_cons, List.nodup_middle, List.nodup_cons,
          List.mem_append, not_or] at distinct
        rw [seen]
        exact distinct.1.1
      refine ⟨{ parsed := s.parsed ++ [(row.1, row.2)], seen := insert row.1 s.seen }, ?_, ?_, ?_⟩
      · simp only [parseRow, bind_ok, raise_if_ok, pure_ok]
        exact ⟨row.1, digest, (), not_lt.mpr (h.nonneg row listed), (), new, rfl⟩
      · rw [kept]
      · intro key
        rw [Finset.mem_insert, seen, List.map_append, List.mem_append, or_comm]
        simp)
    ⟨rfl, by simp⟩
  exact ⟨read, run, kept⟩

theorem WeightedRows.runs (h : WeightedRows text target rows) :
    apportionExactChannel text target rows = .ok (allocateRows target (sortOn Prod.fst rows)) := by
  obtain ⟨read, run, kept⟩ := h.parse
  have pool : ((sortOn Prod.fst rows).map Prod.snd).sum ≠ 0 := by
    have perm : (sortOn Prod.fst rows).Perm rows := sort_on_perm
    rw [(perm.map Prod.snd).sum_eq]
    exact h.positive.ne'
  have plain : plainNonnegativeInt target "target" = .ok target := by
    simp only [plainNonnegativeInt, bind_ok, raise_if_ok, pure_ok]
    exact ⟨(), not_lt.mpr h.target_nonneg, trivial⟩
  rw [apportionExactChannel, plain, ok_bind, run, ok_bind]
  simp only [kept, if_neg pool]
  rfl

end Checks

section Allocation

variable {target : ℤ} {total : ℚ} {parsed quotas : List (String × ℚ)} {key : String} {q : ℚ}

theorem quota_keys : (quotaRows target total parsed).map Prod.fst = parsed.map Prod.fst := by
  rw [quotaRows, List.map_map]
  rfl

theorem whole_parts_eq (distinct : (quotas.map Prod.fst).Nodup) :
    wholeParts quotas = quotas.map fun quota => (quota.1, ⌊quota.2⌋) := by
  have floors : (fun quota : String × ℚ => (quota.1, quota.2.num / (quota.2.den : ℤ))) =
      fun quota => (quota.1, ⌊quota.2⌋) := by
    funext quota
    rw [Rat.floor_def']
  rw [wholeParts, floors, Dict.update_fresh, List.nil_append]
  · rw [List.map_map]
    exact distinct
  · exact fun _ _ => rfl

theorem allocated_whole (distinct : (quotas.map Prod.fst).Nodup) (listed : (key, q) ∈ quotas) :
    allocatedTo (wholeParts quotas) key = ⌊q⌋ := by
  have found : Dict.get (wholeParts quotas) key = some ⌊q⌋ := by
    rw [Dict.get_eq_some_iff, whole_parts_eq distinct]
    · exact List.mem_map_of_mem listed
    · rw [whole_parts_eq distinct, List.map_map]
      exact distinct
  rw [allocatedTo, found, Option.getD_some]

theorem rank_quotas_ranked (distinct : (quotas.map Prod.fst).Nodup)
    (whole : (quotas.map Prod.snd).sum = target) :
    Ranked Prod.snd Prod.fst target (rankQuotas (wholeParts quotas) quotas) := by
  have perm : (rankQuotas (wholeParts quotas) quotas).Perm quotas := sort_on_perm
  refine ⟨(perm.map Prod.snd).sum_eq.trans whole, ?_⟩
  have apart : (quotas.map fun item : String × ℚ =>
      toLex (-(item.2 - (allocatedTo (wholeParts quotas) item.1 : ℚ)), item.1)).Nodup :=
    List.pairwise_map.mpr ((List.pairwise_map.mp distinct).imp fun apart same =>
      apart (congrArg (fun rank => (ofLex rank).2) same))
  have strict := sort_on_strict apart
  refine List.Pairwise.imp_of_mem ?_ strict
  rintro ⟨key, q⟩ ⟨key', q'⟩ listed listed' less
  rw [allocated_whole distinct (perm.mem_iff.mp listed),
    allocated_whole distinct (perm.mem_iff.mp listed'), Prod.Lex.toLex_lt_toLex] at less
  exact less.imp neg_lt_neg_iff.mp (And.imp_left neg_inj.mp)

theorem slice_to_of_nonneg {α : Type} {values : List α} {stop : ℤ} (nonneg : 0 ≤ stop) :
    sliceTo values stop = values.take stop.toNat :=
  if_neg (not_lt.mpr nonneg)

theorem allocated_after {first : List (String × ℚ)} {allocated : Dict String ℤ}
    (distinct : (first.map Prod.fst).Nodup) :
    allocatedTo (first.foldl addOne allocated) key =
      allocatedTo allocated key + if key ∈ first.map Prod.fst then 1 else 0 := by
  induction first generalizing allocated with
  | nil => simp
  | cons quota first ih =>
    obtain ⟨new, distinct⟩ := List.nodup_cons.mp distinct
    have here : allocatedTo (addOne allocated quota) key =
        allocatedTo allocated key + if key = quota.1 then 1 else 0 := by
      unfold allocatedTo addOne
      rw [Dict.get_set]
      split
      · rename_i same
        rw [Option.getD_some, same, allocatedTo]
      · rw [add_zero]
    rw [List.foldl_cons, ih distinct, here, add_assoc]
    congr 1
    by_cases same : key = quota.1
    · rw [if_pos same, if_neg (same ▸ new), if_pos (by simp [same]), add_zero]
    · have later : key ∈ (quota :: first).map Prod.fst ↔ key ∈ first.map Prod.fst := by
        rw [List.map_cons, List.mem_cons, or_iff_right same]
      rw [if_neg same, zero_add, if_congr later rfl rfl]

def rankedRows (target : ℤ) (parsed : List (String × ℚ)) : List (String × ℚ) :=
  let quotas := quotaRows target (parsed.map Prod.snd).sum parsed
  rankQuotas (wholeParts quotas) quotas

def quotaOf (target : ℤ) (parsed : List (String × ℚ)) (row : String × ℚ) : String × ℚ :=
  (row.1, target * row.2 / (parsed.map Prod.snd).sum)

theorem ranked_rows_perm (target : ℤ) (parsed : List (String × ℚ)) :
    (rankedRows target parsed).Perm (parsed.map (quotaOf target parsed)) :=
  sort_on_perm

theorem sum_quotas (positive : 0 < (parsed.map Prod.snd).sum) :
    ((parsed.map (quotaOf target parsed)).map Prod.snd).sum = target := by
  have general : ∀ (total : ℚ) (l : List (String × ℚ)),
      (l.map fun row => target * row.2 / total).sum = target * (l.map Prod.snd).sum / total := by
    intro total l
    induction l with
    | nil => simp
    | cons row l ih =>
      rw [List.map_cons, List.sum_cons, ih, List.map_cons, List.sum_cons]
      ring
  rw [List.map_map]
  exact (general _ parsed).trans (mul_div_cancel_right₀ _ positive.ne')

theorem ranked_rows_ranked (target : ℤ) (distinct : (parsed.map Prod.fst).Nodup)
    (positive : 0 < (parsed.map Prod.snd).sum) :
    Ranked Prod.snd Prod.fst target (rankedRows target parsed) := by
  refine rank_quotas_ranked ?_ (sum_quotas positive)
  rw [quota_keys]
  exact distinct

theorem allocate_rows_eq (distinct : (parsed.map Prod.fst).Nodup)
    (positive : 0 < (parsed.map Prod.snd).sum) :
    allocateRows target parsed = parsed.map fun row =>
      (row.1, share Prod.snd target (rankedRows target parsed) (quotaOf target parsed row)) := by
  have ranked := ranked_rows_ranked target distinct positive
  have keys : ((parsed.map (quotaOf target parsed)).map Prod.fst).Nodup := by
    rw [List.map_map]
    exact distinct
  have perm := ranked_rows_perm target parsed
  have stop : target - ((wholeParts (parsed.map (quotaOf target parsed))).map Prod.snd).sum =
      leftOver Prod.snd target (rankedRows target parsed) := by
    rw [whole_parts_eq keys, leftOver, (perm.map _).sum_eq, List.map_map]
    rfl
  have front : (((rankedRows target parsed).take
      (leftOver Prod.snd target (rankedRows target parsed)).toNat).map Prod.fst).Nodup := by
    refine List.Nodup.sublist ((List.take_sublist _ _).map Prod.fst) ?_
    exact (perm.map Prod.fst).nodup_iff.mpr keys
  refine List.map_congr_left fun row listed => congrArg (Prod.mk row.1) ?_
  have quoted : quotaOf target parsed row ∈ parsed.map (quotaOf target parsed) :=
    List.mem_map_of_mem listed
  -- the keys are distinct, so the taken quota of that name is the row's
  have taken : row.1 ∈ ((rankedRows target parsed).take
      (leftOver Prod.snd target (rankedRows target parsed)).toNat).map Prod.fst ↔
      quotaOf target parsed row ∈ (rankedRows target parsed).take
        (leftOver Prod.snd target (rankedRows target parsed)).toNat := by
    refine ⟨fun named => ?_, List.mem_map_of_mem⟩
    obtain ⟨quota, taken, same⟩ := List.mem_map.mp named
    have known := perm.mem_iff.mp (List.mem_of_mem_take taken)
    exact (List.inj_on_of_nodup_map keys known quoted same) ▸ taken
  change allocatedTo ((sliceTo (rankedRows target parsed) (target -
    ((wholeParts (parsed.map (quotaOf target parsed))).map Prod.snd).sum)).foldl addOne
      (wholeParts (parsed.map (quotaOf target parsed)))) row.1 = _
  rw [stop, slice_to_of_nonneg ranked.left_over_nonneg, allocated_after front,
    allocated_whole keys quoted, share]
  by_cases first : quotaOf target parsed row ∈ (rankedRows target parsed).take
      (leftOver Prod.snd target (rankedRows target parsed)).toNat
  · rw [if_pos (taken.mpr first), if_pos first]
    rfl
  · rw [if_neg (mt taken.mp first), if_neg first]
    rfl

/-- The allocation of checked rows follows their quotas. -/
theorem allocate_rows_apportions (target_nonneg : 0 ≤ target)
    (distinct : (parsed.map Prod.fst).Nodup) (nonneg : ∀ row ∈ parsed, 0 ≤ row.2)
    (positive : 0 < (parsed.map Prod.snd).sum) :
    Apportions target parsed (allocateRows target parsed) := by
  have ranked := ranked_rows_ranked target distinct positive
  have perm := ranked_rows_perm target parsed
  have member : ∀ {row}, row ∈ parsed → quotaOf target parsed row ∈ rankedRows target parsed :=
    fun listed => perm.mem_iff.mpr (List.mem_map_of_mem listed)
  have given : ∀ {key weight n}, (key, weight) ∈ parsed → (key, n) ∈ allocateRows target parsed →
      n = share Prod.snd target (rankedRows target parsed)
        (quotaOf target parsed (key, weight)) := by
    intro key weight n listed result
    rw [allocate_rows_eq distinct positive] at result
    obtain ⟨row, source, same⟩ := List.mem_map.mp result
    rw [Prod.mk.injEq] at same
    rw [← same.2, List.inj_on_of_nodup_map distinct source listed same.1]
  have whole : ∀ key weight n, ∀ q : ℤ, (key, weight) ∈ parsed →
      (key, n) ∈ allocateRows target parsed →
      target * weight / (parsed.map Prod.snd).sum = q → n = q := by
    intro key weight n q listed result exact
    rw [given listed result]
    exact ranked.share_of_whole exact
  constructor
  · rw [allocate_rows_eq distinct positive, List.map_map]
    exact List.Perm.refl _
  · rw [allocate_rows_eq distinct positive, List.map_map]
    refine Eq.trans ?_ ranked.sum_share
    rw [(perm.map _).sum_eq, List.map_map]
    rfl
  · intro result listed
    rw [allocate_rows_eq distinct positive] at listed
    obtain ⟨row, source, rfl⟩ := List.mem_map.mp listed
    have quota : 0 ≤ (quotaOf target parsed row).2 :=
      div_nonneg (mul_nonneg (by exact_mod_cast target_nonneg) (nonneg row source)) positive.le
    have floor : 0 ≤ ⌊(quotaOf target parsed row).2⌋ := Int.floor_nonneg.mpr quota
    dsimp only
    rw [share]
    split_ifs <;> omega
  · intro key weight n listed result
    rw [given listed result]
    exact ranked.share_within
  · exact whole
  · intro key n listed result
    exact whole key 0 n 0 listed result (by simp)
  · intro key weight n key' weight' n' listed listed' result result' less
    rw [given listed result, given listed' result']
    rcases target_nonneg.eq_or_lt with none | some
    · -- nothing to give out
      rw [ranked.share_of_whole (n := 0), ranked.share_of_whole (n := 0)]
      · simp [quotaOf, ← none]
      · simp [quotaOf, ← none]
    · refine ranked.share_mono (member listed') ?_
      exact div_lt_div_of_pos_right (mul_lt_mul_of_pos_left less (by exact_mod_cast some)) positive
  · intro key weight n key' n' listed listed' result result' before
    rw [given listed result, given listed' result']
    exact ranked.share_same (member listed) rfl before

theorem Apportions.perm {rows : List (String × ℚ)} {result : List (String × ℤ)}
    (h : Apportions target parsed result) (same : parsed.Perm rows) :
    Apportions target rows result := by
  have total := (same.map Prod.snd).sum_eq
  obtain ⟨keys, sum, nonneg, within, whole, zero, larger, equal⟩ := h
  rw [total] at within whole
  simp only [same.mem_iff] at within whole zero larger equal
  exact ⟨keys.trans (same.map Prod.fst), sum, nonneg, within, whole, zero, larger, equal⟩

theorem allocate_rows_scale {c : ℚ} (positive : 0 < c) :
    allocateRows target (scaleRows c parsed) = allocateRows target parsed := by
  have quotas : quotaRows target ((scaleRows c parsed).map Prod.snd).sum (scaleRows c parsed) =
      quotaRows target (parsed.map Prod.snd).sum parsed := by
    rw [scale_sum, quotaRows, scaleRows, List.map_map, quotaRows]
    refine List.map_congr_left fun row _ => Prod.ext rfl ?_
    change target * (c * row.2) / (c * _) = target * row.2 / _
    rw [mul_left_comm, mul_div_mul_left _ _ positive.ne']
  unfold allocateRows
  dsimp only
  rw [quotas, scaleRows, List.map_map]
  rfl

theorem sort_on_scale {rows : List (String × ℚ)} {c : ℚ} (distinct : (rows.map Prod.fst).Nodup) :
    sortOn Prod.fst (scaleRows c rows) = scaleRows c (sortOn Prod.fst rows) := by
  refine eq_of_perm_of_strict (sort_on_perm.trans (sort_on_perm.map _).symm)
    (sort_on_strict (by rw [scale_keys]; exact distinct)) ?_
  exact List.pairwise_map.mpr (sort_on_strict distinct)

end Allocation

/-- Checked rows with a positive weight are apportioned exactly, in whatever order they come and
whatever the unit of their weights. -/
theorem exact_channel_apportioned {text : PyText} {target : ℤ} {rows : List (String × ℚ)}
    (h : WeightedRows text target rows) :
    ∃ result, apportionExactChannel text target rows = .ok result ∧
      Apportions target rows result ∧
      (∀ rows', rows'.Perm rows → apportionExactChannel text target rows' = .ok result) ∧
      ∀ c : ℚ, 0 < c → apportionExactChannel text target (scaleRows c rows) = .ok result := by
  have perm : (sortOn Prod.fst rows).Perm rows := sort_on_perm
  have distinct := (perm.map Prod.fst).nodup_iff.mpr h.distinct
  have positive : 0 < ((sortOn Prod.fst rows).map Prod.snd).sum :=
    (perm.map Prod.snd).sum_eq ▸ h.positive
  refine ⟨_, h.runs, ?_, ?_, ?_⟩
  · exact (allocate_rows_apportions h.target_nonneg distinct
      (fun row listed => h.nonneg row (perm.mem_iff.mp listed)) positive).perm perm
  · intro rows' same
    rw [(h.perm same).runs, sort_on_eq_of_perm same ((h.perm same).distinct)]
  · intro c factor
    rw [(h.scale factor).runs, sort_on_scale h.distinct, allocate_rows_scale factor]

/-- The value of a character among the hexadecimal digits. -/
def hexDigit (c : Char) : Option ℤ :=
  let digit := "0123456789abcdef".toList.idxOf c
  if digit < 16 then some digit else none

/-- Python's reading of plain lowercase digests. -/
def plainText : PyText where
  lower value := String.ofList (value.toList.map Char.toLower)
  int16 value := value.toList.foldlM (fun n c => (hexDigit c).map (16 * n + ·)) 0

theorem plain_digest {digits : List Char} (sized : digits.length = 64)
    (lowered : digits.map Char.toLower = digits)
    (read : digits.foldlM (fun n c => (hexDigit c).map (16 * n + ·)) 0 ≠ none) :
    (String.ofList digits).length = 64 ∧
      String.ofList digits = plainText.lower (String.ofList digits) ∧
      plainText.int16 (String.ofList digits) ≠ none := by
  unfold plainText
  dsimp only
  rw [String.length_ofList, String.toList_ofList, lowered]
  exact ⟨sized, rfl, read⟩

theorem plain_digest_text {digits : List Char} (name : String) (sized : digits.length = 64)
    (lowered : digits.map Char.toLower = digits)
    (read : digits.foldlM (fun n c => (hexDigit c).map (16 * n + ·)) 0 ≠ none) :
    digestText plainText (String.ofList digits) name = .ok (String.ofList digits) :=
  have digest := plain_digest sized lowered read
  digest_text_ok name digest.1 digest.2.1 digest.2.2

/-- Three rows of which two have equal weights. -/
def threeRows : List (String × ℚ) :=
  [(String.ofList (List.replicate 64 'b'), 1), (String.ofList (List.replicate 64 'c'), 2 / 3),
    (String.ofList (List.replicate 64 'a'), 1)]

theorem three_rows_apportioned :
    ∃ result, apportionExactChannel plainText 10 threeRows = .ok result ∧
      Apportions 10 threeRows result ∧
      (∀ rows', rows'.Perm threeRows → apportionExactChannel plainText 10 rows' = .ok result) ∧
      ∀ c : ℚ, 0 < c → apportionExactChannel plainText 10 (scaleRows c threeRows) = .ok result :=
  exact_channel_apportioned
    { target_nonneg := by decide
      digests := by
        simp only [threeRows, List.forall_mem_cons, List.not_mem_nil, false_imp_iff, implies_true,
          and_true]
        refine ⟨?_, ?_, ?_⟩ <;> exact plain_digest rfl (by decide) (by decide)
      nonneg := by decide +kernel
      distinct := by decide +kernel
      positive := by decide +kernel }

end Metroflow.City
