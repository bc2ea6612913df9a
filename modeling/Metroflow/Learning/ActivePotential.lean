import Metroflow.Lib.Heap
import Metroflow.Lib.Keyed
import Metroflow.Lib.Marginals

namespace Metroflow.Learning

open Metroflow.Lib

structure RouteReservationCandidate where
  candidateId : ℕ
  baseDisutility : ℚ
  effectiveCapacity : ℚ
  positive : 0 < effectiveCapacity

def RouteReservationCandidate.marginal (item : RouteReservationCandidate) (strength : ℚ)
    (count : ℕ) : ℚ :=
  item.baseDisutility + strength * count / item.effectiveCapacity

def RouteReservationCandidate.potential (item : RouteReservationCandidate) (strength : ℚ)
    (count : ℕ) : ℚ :=
  item.baseDisutility * count + strength * count * (count - 1) / (2 * item.effectiveCapacity)

def activePotentialRuntimeAuthority : String := "experiment_only_baseline_candidates"

def activePotentialSchemaVersion : ℤ := 1

/-- `math.isclose` with the tolerances of the experiment. -/
def isclose (a b : ℚ) : Prop :=
  a = b ∨ |b - a| ≤ |1 / 10 ^ 12 * b| ∨ |b - a| ≤ |1 / 10 ^ 12 * a| ∨ |b - a| ≤ 1 / 10 ^ 12

instance (a b : ℚ) : Decidable (isclose a b) := by
  unfold isclose
  infer_instance

structure RouteReservationAllocation where
  candidateIds : List ℕ
  baseDisutilities : List ℚ
  effectiveCapacities : List ℚ
  assignedCounts : List ℕ
  nextMarginalDisutilities : List ℚ
  demandCount : ℕ
  reservationStrength : ℚ
  potentialValue : ℚ
  runtimeAuthority : String := activePotentialRuntimeAuthority
  schemaVersion : ℤ := activePotentialSchemaVersion

/-- `__post_init__`: the checks of an allocation. -/
def RouteReservationAllocation.validated (self : RouteReservationAllocation) :
    Except String RouteReservationAllocation := do
  raiseIf (self.candidateIds = []) "candidate_ids must not be empty"
  raiseIf (¬self.candidateIds.Nodup) "candidate_ids must be unique"
  raiseIf (self.candidateIds ≠ sortOn id self.candidateIds)
    "candidate_ids must be in canonical ascending order"
  raiseIf (∃ value ∈ self.effectiveCapacities, value ≤ 0) "effective_capacities must be > 0"
  let width := self.candidateIds.length
  let widths := [("base_disutilities", self.baseDisutilities.length),
    ("effective_capacities", self.effectiveCapacities.length),
    ("assigned_counts", self.assignedCounts.length),
    ("next_marginal_disutilities", self.nextMarginalDisutilities.length)]
  widths.forM fun (name, length) =>
    raiseIf (length ≠ width) s!"{name} must match candidate_ids length"
  raiseIf (self.assignedCounts.sum ≠ self.demandCount)
    "assigned_counts must sum exactly to demand_count"
  raiseIf (self.reservationStrength < 0) "reservation_strength must be >= 0"
  let rows := self.baseDisutilities.zip (self.effectiveCapacities.zip self.assignedCounts)
  let expectedMarginals : List ℚ := rows.map fun (base, capacity, count) =>
    base + self.reservationStrength * count / capacity
  raiseIf (∃ pair ∈ self.nextMarginalDisutilities.zip expectedMarginals, ¬isclose pair.1 pair.2)
    "next_marginal_disutilities are inconsistent with the allocation"
  let expectedPotential := (rows.map fun (base, capacity, count) =>
    base * count + self.reservationStrength * count * (count - 1) / (2 * capacity)).sum
  raiseIf (¬isclose self.potentialValue expectedPotential)
    "potential_value is inconsistent with the allocation"
  raiseIf (self.runtimeAuthority ≠ activePotentialRuntimeAuthority)
    "runtime_authority does not match the experiment contract"
  raiseIf (self.schemaVersion ≠ activePotentialSchemaVersion) "schema_version must be 1"
  pure self

section Reservations

variable (canonical : List RouteReservationCandidate) (strength : ℚ)

/-- An entry of the heap: a marginal, its candidate and the candidate's position. -/
abbrev ReservationEntry := ℚ × ℕ × ℕ

/-- The order of tuples. -/
def ReservationEntry.le (a b : ReservationEntry) : Bool :=
  decide (toLex (a.1, toLex a.2) ≤ toLex (b.1, toLex b.2))

def initialHeap : List ReservationEntry :=
  canonical.zipIdx.map fun (item, index) => (item.baseDisutility, item.candidateId, index)

/-- One pass of the loop: the smallest marginal takes a unit and is replaced by its next one. -/
def reserveUnit (state : List ℕ × List ReservationEntry) :
    Except String (List ℕ × List ReservationEntry) :=
  match popMin ReservationEntry.le state.2 with
  | none => .error "index out of range"
  | some ((_, _, index), rest) =>
    let counts := state.1.modify index (· + 1)
    match canonical[index]?, counts[index]? with
    | some candidate, some count =>
      .ok (counts, (candidate.marginal strength count, candidate.candidateId, index) :: rest)
    | _, _ => .error "list index out of range"

/-- The counts and the heap after a number of units. -/
def reserve : ℕ → Except String (List ℕ × List ReservationEntry)
  | 0 => .ok (List.replicate canonical.length 0, initialHeap canonical)
  | demand + 1 => reserve demand >>= reserveUnit canonical strength

def totalPotential (counts : List ℕ) : ℚ :=
  ((canonical.zip counts).map fun (item, count) => item.potential strength count).sum

end Reservations

def allocationOf (canonical : List RouteReservationCandidate) (demand : ℕ) (strength : ℚ)
    (counts : List ℕ) : RouteReservationAllocation where
  candidateIds := canonical.map fun item => item.candidateId
  baseDisutilities := canonical.map fun item => item.baseDisutility
  effectiveCapacities := canonical.map fun item => item.effectiveCapacity
  assignedCounts := counts
  nextMarginalDisutilities :=
    (canonical.zip counts).map fun (item, count) => item.marginal strength count
  demandCount := demand
  reservationStrength := strength
  potentialValue := totalPotential canonical strength counts

def allocateRouteLocalReservations (candidates : List RouteReservationCandidate)
    (demandCount : ℕ) (reservationStrength : ℚ) : Except String RouteReservationAllocation := do
  raiseIf (candidates.isEmpty = true) "candidates must not be empty"
  let canonical := sortOn (fun item => item.candidateId) candidates
  raiseIf (¬(canonical.map fun item => item.candidateId).Nodup) "candidate IDs must be unique"
  raiseIf (reservationStrength < 0) "reservation_strength must be >= 0"
  let reserved ← reserve canonical reservationStrength demandCount
  (allocationOf canonical demandCount reservationStrength reserved.1).validated

section Loop

variable {canonical : List RouteReservationCandidate} {strength : ℚ} {counts : List ℕ}
  {heap : List ReservationEntry} {demand : ℕ}

def marginalAt (canonical : List RouteReservationCandidate) (strength : ℚ) (index count : ℕ) : ℚ :=
  match canonical[index]? with
  | some item => item.marginal strength count
  | none => 0

def countAt (counts : List ℕ) (index : ℕ) : ℕ := counts[index]?.getD 0

theorem marginal_at {index : ℕ} {item : RouteReservationCandidate}
    (found : canonical[index]? = some item) :
    marginalAt canonical strength index = item.marginal strength := by
  unfold marginalAt
  rw [found]

theorem marginal_at_mono (nonneg : 0 ≤ strength) (index : ℕ) :
    Monotone (marginalAt canonical strength index) := by
  intro less more fewer
  unfold marginalAt
  split
  · rename_i item _
    have scaled : strength * (less : ℚ) ≤ strength * more :=
      mul_le_mul_of_nonneg_left (Nat.cast_le.mpr fewer) nonneg
    exact add_le_add_right (div_le_div_of_nonneg_right scaled item.positive.le) _
  · exact le_rfl

theorem count_at_modify {index : ℕ} (inside : index < counts.length) :
    countAt (counts.modify index (· + 1)) =
      Function.update (countAt counts) index (countAt counts index + 1) := by
  funext other
  unfold countAt
  by_cases same : other = index
  · subst same
    rw [Function.update_self, List.getElem?_modify_eq, List.getElem?_eq_getElem inside]
    rfl
  · rw [Function.update_of_ne same, List.getElem?_modify_ne _ _ (Ne.symm same)]

theorem sum_modify {index : ℕ} (inside : index < counts.length) :
    (counts.modify index (· + 1)).sum = counts.sum + 1 := by
  induction counts generalizing index with
  | nil => exact absurd inside (Nat.not_lt_zero _)
  | cons count counts ih =>
    cases index with
    | zero => simp [Nat.add_right_comm]
    | succ index => simp [ih (Nat.lt_of_succ_lt_succ inside), Nat.add_assoc]

/-- What the loop has reserved: level counts, and a heap of every candidate's next marginal. -/
structure Reserved (canonical : List RouteReservationCandidate) (strength : ℚ) (demand : ℕ)
    (counts : List ℕ) (heap : List ReservationEntry) : Prop where
  length : counts.length = canonical.length
  total : counts.sum = demand
  level : Level (marginalAt canonical strength) (Finset.range canonical.length) (countAt counts)
  queued : ∀ index item count, canonical[index]? = some item → counts[index]? = some count →
    (item.marginal strength count, item.candidateId, index) ∈ heap
  current : ∀ entry ∈ heap, ∃ item count, canonical[entry.2.2]? = some item ∧
    counts[entry.2.2]? = some count ∧
    entry = (item.marginal strength count, item.candidateId, entry.2.2)
  once : (heap.map fun entry => entry.2.2).Nodup

theorem reserved_none : Reserved canonical strength 0 (List.replicate canonical.length 0)
    (initialHeap canonical) where
  length := List.length_replicate
  total := by simp
  level := by
    have empty : countAt (List.replicate canonical.length 0) = fun _ => 0 := by
      funext index
      unfold countAt
      rw [List.getElem?_replicate]
      split <;> rfl
    rw [empty]
    exact level_zero
  queued := by
    intro index item count found none
    obtain rfl : 0 = count := (List.mem_replicate.mp (List.mem_of_getElem? none)).2.symm
    refine List.mem_map.mpr ⟨(item, index), List.mem_zipIdx_iff_getElem?.mpr found, ?_⟩
    simp [RouteReservationCandidate.marginal]
  current := by
    intro entry listed
    obtain ⟨⟨item, index⟩, numbered, rfl⟩ := List.mem_map.mp listed
    have found := List.mem_zipIdx_iff_getElem?.mp numbered
    refine ⟨item, 0, found, ?_, ?_⟩
    · exact List.getElem?_replicate_of_lt (List.getElem?_eq_some_iff.mp found).1
    · simp [RouteReservationCandidate.marginal]
  once := by
    unfold initialHeap
    rw [List.map_map, show (fun entry : ReservationEntry => entry.2.2) ∘
      (fun numbered : RouteReservationCandidate × ℕ => (numbered.1.baseDisutility,
        numbered.1.candidateId, numbered.2)) = Prod.snd from rfl, List.zipIdx_map_snd]
    exact List.nodup_range'

theorem entry_total (a b : ReservationEntry) :
    ReservationEntry.le a b ∨ ReservationEntry.le b a := by
  unfold ReservationEntry.le
  rw [decide_eq_true_eq, decide_eq_true_eq]
  exact le_total _ _

theorem entry_trans (a b c : ReservationEntry) (ab : ReservationEntry.le a b)
    (bc : ReservationEntry.le b c) : ReservationEntry.le a c := by
  unfold ReservationEntry.le at ab bc ⊢
  rw [decide_eq_true_eq] at ab bc ⊢
  exact ab.trans bc

theorem entry_marginal {a b : ReservationEntry} (before : ReservationEntry.le a b) : a.1 ≤ b.1 := by
  unfold ReservationEntry.le at before
  rw [decide_eq_true_eq, Prod.Lex.toLex_le_toLex] at before
  exact before.elim le_of_lt fun same => same.1.le

/-- One pass: one candidate takes one unit. -/
theorem reserve_unit (nonneg : 0 ≤ strength) (nonempty : canonical ≠ [])
    (reserved : Reserved canonical strength demand counts heap) :
    ∃ index < canonical.length, ∃ heap', reserveUnit canonical strength (counts, heap) =
      .ok (counts.modify index (· + 1), heap') ∧
      Reserved canonical strength (demand + 1) (counts.modify index (· + 1)) heap' := by
  obtain ⟨length, total, level, queued, current, once⟩ := reserved
  have stays : ∀ index < canonical.length, ∃ item count, canonical[index]? = some item ∧
      counts[index]? = some count :=
    fun index inside => ⟨_, _, List.getElem?_eq_getElem inside,
      List.getElem?_eq_getElem (length.symm ▸ inside)⟩
  have filled : heap ≠ [] := by
    obtain ⟨item, count, found, counted⟩ := stays 0 (List.length_pos_iff.mpr nonempty)
    exact List.ne_nil_of_mem (queued 0 item count found counted)
  have some_top : popMin ReservationEntry.le heap ≠ none := mt pop_min_none.mp filled
  obtain ⟨⟨top, rest⟩, popped⟩ := Option.ne_none_iff_exists'.mp some_top
  obtain ⟨item, count, found, counted, top_eq⟩ :=
    current top ((pop_min_mem popped).mpr (.inl rfl))
  obtain ⟨marginal, id, index⟩ := top
  dsimp only at found counted top_eq
  obtain ⟨rfl, rfl⟩ : marginal = item.marginal strength count ∧ id = item.candidateId := by
    simpa using top_eq
  have inside : index < canonical.length := (List.getElem?_eq_some_iff.mp found).1
  have inside' : index < counts.length := length.symm ▸ inside
  have counted' : (counts.modify index (· + 1))[index]? = some (count + 1) := by
    rw [List.getElem?_modify_eq, counted]
    rfl
  have elsewhere : ∀ other, other ≠ index →
      (counts.modify index (· + 1))[other]? = counts[other]? :=
    fun other apart => List.getElem?_modify_ne _ _ apart.symm
  have once' : ((_ :: rest).map fun entry : ReservationEntry => entry.2.2).Nodup :=
    ((pop_min_perm popped).map _).nodup_iff.mp once
  rw [List.map_cons, List.nodup_cons] at once'
  have apart : ∀ entry ∈ rest, entry.2.2 ≠ index := fun entry listed same =>
    once'.1 (List.mem_map.mpr ⟨entry, listed, same⟩)
  refine ⟨index, inside, (item.marginal strength (count + 1), item.candidateId, index) :: rest,
    ?_, ?_, ?_, ?_, ?_, ?_, ?_⟩
  · unfold reserveUnit
    dsimp only
    rw [popped]
    dsimp only
    rw [found, counted']
  · rw [List.length_modify, length]
  · rw [sum_modify inside', total]
  · rw [count_at_modify inside']
    refine level.take (marginal_at_mono nonneg) fun other listed => ?_
    obtain ⟨item', count', found', counted''⟩ := stays other (Finset.mem_range.mp listed)
    rw [marginal_at found, marginal_at found']
    unfold countAt
    rw [counted, counted'']
    rcases (pop_min_mem popped).mp (queued other item' count' found' counted'') with same | later
    · exact (congrArg Prod.fst same).ge
    · exact entry_marginal (pop_min_least entry_total entry_trans popped _ later)
  · intro other item' count' found' counted''
    by_cases same : other = index
    · subst same
      obtain rfl := Option.some.inj (found.symm.trans found')
      obtain rfl := Option.some.inj (counted'.symm.trans counted'')
      exact List.mem_cons_self
    · rw [elsewhere other same] at counted''
      refine List.mem_cons_of_mem _ ?_
      refine ((pop_min_mem popped).mp (queued other item' count' found' counted'')).resolve_left ?_
      exact fun top => same (congrArg (fun entry => entry.2.2) top)
  · intro entry listed
    rcases List.mem_cons.mp listed with rfl | listed
    · exact ⟨item, count + 1, found, counted', rfl⟩
    · rw [elsewhere _ (apart entry listed)]
      exact current entry ((pop_min_mem popped).mpr (.inr listed))
  · rw [List.map_cons]
    exact List.nodup_cons.mpr once'

theorem reserve_reserved (nonneg : 0 ≤ strength) (nonempty : canonical ≠ []) (demand : ℕ) :
    ∃ counts heap, reserve canonical strength demand = .ok (counts, heap) ∧
      Reserved canonical strength demand counts heap := by
  induction demand with
  | zero => exact ⟨_, _, rfl, reserved_none⟩
  | succ demand ih =>
    obtain ⟨counts, heap, reserve_eq, reserved⟩ := ih
    obtain ⟨index, -, heap', unit, reserved'⟩ := reserve_unit nonneg nonempty reserved
    exact ⟨_, heap', by rw [reserve, reserve_eq, ok_bind, unit], reserved'⟩

theorem sum_marginals (item : RouteReservationCandidate) (count : ℕ) :
    ∑ k ∈ Finset.range count, item.marginal strength k = item.potential strength count := by
  induction count with
  | zero => simp [RouteReservationCandidate.potential]
  | succ count ih =>
    have positive := item.positive.ne'
    rw [Finset.sum_range_succ, ih]
    unfold RouteReservationCandidate.potential RouteReservationCandidate.marginal
    push_cast
    field_simp
    ring

theorem total_potential (same_length : counts.length = canonical.length) :
    totalPotential canonical strength counts = ∑ index ∈ Finset.range canonical.length,
      paid (marginalAt canonical strength) index (countAt counts index) := by
  unfold totalPotential
  induction canonical generalizing counts with
  | nil => rfl
  | cons item canonical ih =>
    obtain _ | ⟨count, counts⟩ := counts
    · cases same_length
    · rw [List.zip_cons_cons, List.map_cons, List.sum_cons, ih (Nat.succ.inj same_length),
        List.length_cons, Finset.sum_range_succ', add_comm]
      exact congrArg _ (sum_marginals item count).symm

theorem sum_counts (counts : List ℕ) :
    ∑ index ∈ Finset.range counts.length, countAt counts index = counts.sum := by
  induction counts with
  | nil => rfl
  | cons count counts ih =>
    rw [List.length_cons, Finset.sum_range_succ', List.sum_cons, add_comm, ← ih]
    rfl

theorem Reserved.minimal (reserved : Reserved canonical strength demand counts heap)
    (nonneg : 0 ≤ strength) (nonempty : canonical ≠ []) {other : List ℕ}
    (same_length : other.length = canonical.length) (total : other.sum = demand) :
    totalPotential canonical strength counts ≤ totalPotential canonical strength other := by
  rw [total_potential reserved.length, total_potential same_length]
  refine reserved.level.minimal (fun index _ => marginal_at_mono nonneg index) ?_ ?_
  · exact Finset.nonempty_range_iff.mpr (List.length_pos_iff.mpr nonempty).ne'
  · have others := sum_counts other
    have taken := sum_counts counts
    rw [same_length] at others
    rw [reserved.length] at taken
    rw [others, taken, total, reserved.total]

end Loop

section Allocation

variable {canonical candidates : List RouteReservationCandidate} {strength : ℚ} {counts : List ℕ}
  {demand : ℕ}

theorem zip_rows (same_length : counts.length = canonical.length) :
    (canonical.map fun item => item.baseDisutility).zip
      ((canonical.map fun item => item.effectiveCapacity).zip counts) =
    (canonical.zip counts).map fun row =>
      (row.1.baseDisutility, row.1.effectiveCapacity, row.2) := by
  induction canonical generalizing counts with
  | nil => rfl
  | cons item canonical ih =>
    obtain _ | ⟨count, counts⟩ := counts
    · cases same_length
    · simp [ih (Nat.succ.inj same_length)]

theorem isclose_self (a : ℚ) : isclose a a := .inl rfl

theorem allocation_validated (nonempty : canonical ≠ [])
    (ascending : canonical.Pairwise fun a b => a.candidateId < b.candidateId)
    (nonneg : 0 ≤ strength) (same_length : counts.length = canonical.length)
    (total : counts.sum = demand) :
    (allocationOf canonical demand strength counts).validated =
      .ok (allocationOf canonical demand strength counts) := by
  have ids : (canonical.map fun item => item.candidateId).Pairwise (· < ·) :=
    List.pairwise_map.mpr ascending
  have sorted : sortOn id (canonical.map fun item => item.candidateId) =
      canonical.map fun item => item.candidateId := sort_on_eq_self (ids.imp le_of_lt)
  unfold RouteReservationAllocation.validated
  dsimp only [allocationOf]
  rw [zip_rows same_length, List.map_map, List.map_map]
  refine bind_ok.mpr ⟨(), raise_if_ok.mpr fun none => nonempty (List.map_eq_nil_iff.mp none), ?_⟩
  refine bind_ok.mpr ⟨(), raise_if_ok.mpr (not_not_intro (ids.imp ne_of_lt)), ?_⟩
  refine bind_ok.mpr ⟨(), raise_if_ok.mpr (not_not_intro sorted.symm), ?_⟩
  refine bind_ok.mpr ⟨(), raise_if_ok.mpr ?_, ?_⟩
  · rintro ⟨_, listed, bad⟩
    obtain ⟨item, -, rfl⟩ := List.mem_map.mp listed
    exact absurd bad (not_le.mpr item.positive)
  refine bind_ok.mpr ⟨(), each_ok.mpr ?_, ?_⟩
  · intro row listed
    have width : row.2 = canonical.length := by
      simp only [List.mem_cons, List.not_mem_nil, or_false] at listed
      rcases listed with rfl | rfl | rfl | rfl <;> simp [same_length]
    exact raise_if_ok.mpr (by rw [width, List.length_map]; exact not_not_intro rfl)
  refine bind_ok.mpr ⟨(), raise_if_ok.mpr (not_not_intro total), ?_⟩
  refine bind_ok.mpr ⟨(), raise_if_ok.mpr (not_lt.mpr nonneg), ?_⟩
  refine bind_ok.mpr ⟨(), raise_if_ok.mpr ?_, ?_⟩
  · rintro ⟨pair, listed, apart⟩
    obtain ⟨row, -, rfl⟩ := List.mem_map.mp ((List.zip_map' ..).symm ▸ listed)
    exact apart (isclose_self _)
  refine bind_ok.mpr ⟨(), raise_if_ok.mpr (not_not_intro (isclose_self _)), ?_⟩
  refine bind_ok.mpr ⟨(), raise_if_ok.mpr (not_not_intro rfl), ?_⟩
  exact bind_ok.mpr ⟨(), raise_if_ok.mpr (not_not_intro rfl), rfl⟩

theorem canonical_ne_nil (nonempty : candidates ≠ []) :
    sortOn (fun item => item.candidateId) candidates ≠ [] := fun none =>
  nonempty ((none ▸ sort_on_perm : [].Perm candidates).nil_eq.symm)

theorem allocate_of_reserve (nonempty : candidates ≠ [])
    (distinct : (candidates.map fun item => item.candidateId).Nodup) (nonneg : 0 ≤ strength)
    {heap : List ReservationEntry}
    (canonical_eq : sortOn (fun item => item.candidateId) candidates = canonical)
    (reserve_eq : reserve canonical strength demand = .ok (counts, heap))
    (reserved : Reserved canonical strength demand counts heap) :
    allocateRouteLocalReservations candidates demand strength =
      .ok (allocationOf canonical demand strength counts) := by
  subst canonical_eq
  unfold allocateRouteLocalReservations
  refine bind_ok.mpr ⟨(), raise_if_ok.mpr fun none => nonempty (List.isEmpty_iff.mp none), ?_⟩
  refine bind_ok.mpr ⟨(), raise_if_ok.mpr (not_not_intro ?_), ?_⟩
  · exact (sort_on_perm.map _).nodup_iff.mpr distinct
  refine bind_ok.mpr ⟨(), raise_if_ok.mpr (not_lt.mpr nonneg), ?_⟩
  refine bind_ok.mpr ⟨_, reserve_eq, ?_⟩
  exact allocation_validated (canonical_ne_nil nonempty) (sort_on_strict distinct) nonneg
    reserved.length reserved.total

theorem allocate_perm {others : List RouteReservationCandidate} (perm : others.Perm candidates)
    (demand : ℕ) (strength : ℚ) : allocateRouteLocalReservations others demand strength =
      allocateRouteLocalReservations candidates demand strength := by
  have ids (l : List RouteReservationCandidate) :
      ((sortOn (fun item => item.candidateId) l).map fun item => item.candidateId).Nodup ↔
        (l.map fun item => item.candidateId).Nodup := (sort_on_perm.map _).nodup_iff
  unfold allocateRouteLocalReservations
  have empty : others.isEmpty = candidates.isEmpty := by
    rw [Bool.eq_iff_iff, List.isEmpty_iff, List.isEmpty_iff]
    exact ⟨fun none => (none ▸ perm).nil_eq.symm, fun none => (none ▸ perm).eq_nil⟩
  by_cases distinct : (others.map fun item => item.candidateId).Nodup
  · rw [empty, sort_on_eq_of_perm perm distinct]
  · have distinct' : ¬(candidates.map fun item => item.candidateId).Nodup :=
      mt (perm.map _).nodup_iff.mpr distinct
    have refused (l : List RouteReservationCandidate)
        (twice : ¬(l.map fun item => item.candidateId).Nodup) : raiseIf
          (¬((sortOn (fun item => item.candidateId) l).map fun item => item.candidateId).Nodup)
          "candidate IDs must be unique" = .error "candidate IDs must be unique" :=
      if_pos ((ids l).not.mpr twice)
    dsimp only
    rw [empty, refused others distinct, refused candidates distinct']
    rfl

/-- Reservations minimize the potential, one unit after another and in any order of candidates. -/
theorem reservations_minimize (candidates : List RouteReservationCandidate)
    (nonempty : candidates ≠ [])
    (distinct : (candidates.map fun item => item.candidateId).Nodup) (strength : ℚ)
    (nonneg : 0 ≤ strength) (demand : ℕ) :
    let canonical := sortOn (fun item => item.candidateId) candidates
    ∃ allocation, allocateRouteLocalReservations candidates demand strength = .ok allocation ∧
      allocation.candidateIds = canonical.map (fun item => item.candidateId) ∧
      allocation.assignedCounts.length = canonical.length ∧
      allocation.assignedCounts.sum = demand ∧
      allocation.potentialValue = totalPotential canonical strength allocation.assignedCounts ∧
      (∀ other : List ℕ, other.length = canonical.length → other.sum = demand →
        allocation.potentialValue ≤ totalPotential canonical strength other) ∧
      (∃ next, allocateRouteLocalReservations candidates (demand + 1) strength = .ok next ∧
        ∃ index < canonical.length,
          next.assignedCounts = allocation.assignedCounts.modify index (· + 1)) ∧
      ∀ others : List RouteReservationCandidate, others.Perm candidates →
        allocateRouteLocalReservations others demand strength = .ok allocation := by
  intro canonical
  have filled : canonical ≠ [] := canonical_ne_nil nonempty
  obtain ⟨counts, heap, reserve_eq, reserved⟩ := reserve_reserved nonneg filled demand
  obtain ⟨index, inside, heap', unit, reserved'⟩ := reserve_unit nonneg filled reserved
  have allocated := allocate_of_reserve nonempty distinct nonneg rfl reserve_eq reserved
  refine ⟨_, allocated, rfl, reserved.length, reserved.total, rfl, ?_, ?_, ?_⟩
  · exact fun other => reserved.minimal nonneg filled
  · have reserve_next : reserve canonical strength (demand + 1) =
        .ok (counts.modify index (· + 1), heap') := by rw [reserve, reserve_eq, ok_bind, unit]
    exact ⟨_, allocate_of_reserve nonempty distinct nonneg rfl reserve_next reserved', index,
      inside, rfl⟩
  · exact fun others perm => (allocate_perm perm demand strength).trans allocated

/-- Two candidates, the second given first. -/
def twoCandidates : List RouteReservationCandidate :=
  [⟨4, 1, 2, by norm_num⟩, ⟨1, -1 / 2, 3, by norm_num⟩]

theorem two_candidates_minimize :
    let canonical := sortOn (fun item => item.candidateId) twoCandidates
    ∃ allocation, allocateRouteLocalReservations twoCandidates 5 (3 / 2) = .ok allocation ∧
      allocation.candidateIds = canonical.map (fun item => item.candidateId) ∧
      allocation.assignedCounts.length = canonical.length ∧
      allocation.assignedCounts.sum = 5 ∧
      allocation.potentialValue = totalPotential canonical (3 / 2) allocation.assignedCounts ∧
      (∀ other : List ℕ, other.length = canonical.length → other.sum = 5 →
        allocation.potentialValue ≤ totalPotential canonical (3 / 2) other) ∧
      (∃ next, allocateRouteLocalReservations twoCandidates (5 + 1) (3 / 2) = .ok next ∧
        ∃ index < canonical.length,
          next.assignedCounts = allocation.assignedCounts.modify index (· + 1)) ∧
      ∀ others : List RouteReservationCandidate, others.Perm twoCandidates →
        allocateRouteLocalReservations others 5 (3 / 2) = .ok allocation :=
  reservations_minimize twoCandidates (List.cons_ne_nil _ _) (by decide) (3 / 2) (by norm_num) 5

end Allocation

end Metroflow.Learning
