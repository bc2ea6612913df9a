import Metroflow.Flow.NodeModel
import Metroflow.Lib.Loops

namespace Metroflow.Flow

open Metroflow.Lib

inductive KernelArray where
  | queueVehicles
  | effectiveCapacityVehicles
  | baseTravelTimeCost
  | turnFromLinkIndex
  | turnToLinkIndex
  | turnDemand
  | turnPriority
  | turnIsForbidden
  deriving DecidableEq, Repr

def KernelArray.name : KernelArray → String
  | .queueVehicles => "queue_vehicles"
  | .effectiveCapacityVehicles => "effective_capacity_vehicles"
  | .baseTravelTimeCost => "base_travel_time_cost"
  | .turnFromLinkIndex => "turn_from_link_index"
  | .turnToLinkIndex => "turn_to_link_index"
  | .turnDemand => "turn_demand"
  | .turnPriority => "turn_priority"
  | .turnIsForbidden => "turn_is_forbidden"

inductive KernelError where
  | length (array expectedLike : KernelArray) (got expected : ℕ)
  | negative (array : KernelArray)
  | outOfRange (array : KernelArray)
  deriving DecidableEq, Repr

def KernelError.message : KernelError → String
  | .length array expectedLike got expected =>
    array.name ++ " length must match " ++ expectedLike.name ++ " length: got " ++
      toString got ++ ", expected " ++ toString expected
  | .negative array => array.name ++ " must be non-negative"
  | .outOfRange array => array.name ++ " contains out-of-range link indices"

/-- The slices that the compiled function is called with. -/
structure FlowBatch where
  queueVehicles : List ℚ
  effectiveCapacityVehicles : List ℚ
  turnFromLinkIndex : List ℤ
  turnToLinkIndex : List ℤ
  turnDemand : List ℚ
  signalPhaseTimer : List ℕ
  baseTravelTimeCost : List ℚ
  turnPriority : List ℚ
  turnIsForbidden : List Bool

structure FlowBatchResult where
  turnDemand : List ℚ
  turnSupply : List ℚ
  turnFlow : List ℚ
  inflowVehicles : List ℚ
  outflowVehicles : List ℚ
  queueVehicles : List ℚ
  travelTimeCost : List ℚ
  capacityViolationFlags : List Bool
  signalPhaseTimer : List ℕ
  deriving DecidableEq

namespace FlowBatch

variable (b : FlowBatch)

def validateFlowLengths : Except KernelError (ℕ × ℕ) := do
  let linkCount := b.queueVehicles.length
  raiseIf (b.effectiveCapacityVehicles.length ≠ linkCount)
    (.length .effectiveCapacityVehicles .queueVehicles b.effectiveCapacityVehicles.length linkCount)
  raiseIf (b.baseTravelTimeCost.length ≠ linkCount)
    (.length .baseTravelTimeCost .queueVehicles b.baseTravelTimeCost.length linkCount)
  let turnCount := b.turnDemand.length
  raiseIf (b.turnFromLinkIndex.length ≠ turnCount)
    (.length .turnFromLinkIndex .turnDemand b.turnFromLinkIndex.length turnCount)
  raiseIf (b.turnToLinkIndex.length ≠ turnCount)
    (.length .turnToLinkIndex .turnDemand b.turnToLinkIndex.length turnCount)
  raiseIf (b.turnPriority.length ≠ turnCount)
    (.length .turnPriority .turnDemand b.turnPriority.length turnCount)
  raiseIf (b.turnIsForbidden.length ≠ turnCount)
    (.length .turnIsForbidden .turnDemand b.turnIsForbidden.length turnCount)
  return (linkCount, turnCount)

end FlowBatch

def validateNonNegativeF32 (array : KernelArray) (values : List ℚ) : Except KernelError Unit :=
  raiseIf (∃ value ∈ values, value < 0) (.negative array)

def validateTurnIndices (array : KernelArray) (indices : List ℤ) (linkCount : ℕ) :
    Except KernelError Unit :=
  raiseIf (∃ index ∈ indices, index < 0 ∨ (linkCount : ℤ) ≤ index) (.outOfRange array)

/-- Adds each value at its index, one after the other. -/
def segmentSumF32 (values : List ℚ) (indices : List ℤ) (segmentCount : ℕ) : List ℚ :=
  (values.zip indices).foldl (fun out entry => out.modify entry.2.toNat (· + entry.1))
    (List.replicate segmentCount 0)

def updateFlowTravelTimeCost (baseTravelTimeCost queueVehicles effectiveCapacity : List ℚ) :
    List ℚ :=
  List.zipWith (fun (base, queue) capacity =>
    max base costFloor + max queue 0 / max capacity costFloor)
    (baseTravelTimeCost.zip queueVehicles) effectiveCapacity

namespace FlowBatch

variable (b : FlowBatch)

def weightedDemand (turnCount : ℕ) : List ℚ :=
  (List.range turnCount).map fun turn =>
    let priorityWeight :=
      if b.turnIsForbidden.getD turn false then 0 else max (b.turnPriority.getD turn 0) 0
    if 0 < b.turnDemand.getD turn 0 then b.turnDemand.getD turn 0 * priorityWeight else 0

def fromAvailableLink : List ℚ :=
  List.zipWith (fun queue capacity => min queue capacity) b.queueVehicles
    b.effectiveCapacityVehicles

/-- The weighted demand of a turn as a part of that of its segment. -/
def turnShare (weighted weightedBy : List ℚ) (indices : List ℤ) (turn : ℕ) : ℚ :=
  let den := weightedBy.getD (indices.getD turn 0).toNat 0
  if 0 < den then weighted.getD turn 0 / den else 0

def supply (linkCount turnCount turn : ℕ) : ℚ :=
  let weighted := b.weightedDemand turnCount
  let weightedByFrom := segmentSumF32 weighted b.turnFromLinkIndex linkCount
  let weightedByTo := segmentSumF32 weighted b.turnToLinkIndex linkCount
  min (b.fromAvailableLink.getD (b.turnFromLinkIndex.getD turn 0).toNat 0 *
      turnShare weighted weightedByFrom b.turnFromLinkIndex turn)
    (b.effectiveCapacityVehicles.getD (b.turnToLinkIndex.getD turn 0).toNat 0 *
      turnShare weighted weightedByTo b.turnToLinkIndex turn)

def flow (linkCount turnCount turn : ℕ) : ℚ :=
  if b.turnIsForbidden.getD turn false then 0
  else min (b.turnDemand.getD turn 0) (b.supply linkCount turnCount turn)

/-- The part of the kernel after its early returns. -/
def movingResult (linkCount turnCount : ℕ) : FlowBatchResult :=
  let turnSupply := (List.range turnCount).map fun turn => max (b.supply linkCount turnCount turn) 0
  let turnFlow := (List.range turnCount).map fun turn => max (b.flow linkCount turnCount turn) 0
  let outflow := segmentSumF32 turnFlow b.turnFromLinkIndex linkCount
  let inflow := segmentSumF32 turnFlow b.turnToLinkIndex linkCount
  let queueNext := List.zipWith (fun (queue, outflow) inflow => max (queue - outflow + inflow) 0)
    (b.queueVehicles.zip outflow) inflow
  { turnDemand := b.turnDemand
    turnSupply := turnSupply
    turnFlow := turnFlow
    inflowVehicles := inflow
    outflowVehicles := outflow
    queueVehicles := queueNext
    travelTimeCost :=
      updateFlowTravelTimeCost b.baseTravelTimeCost queueNext b.effectiveCapacityVehicles
    capacityViolationFlags := List.zipWith
      (fun outflow capacity => decide (capacity + vehicleTolerance < outflow)) outflow
      b.effectiveCapacityVehicles
    signalPhaseTimer := b.signalPhaseTimer.map (· + 1) }

def idleResult (linkCount turnCount : ℕ) (queueNext capacity : List ℚ) : FlowBatchResult :=
  { turnDemand := b.turnDemand
    turnSupply := List.replicate turnCount 0
    turnFlow := List.replicate turnCount 0
    inflowVehicles := List.replicate linkCount 0
    outflowVehicles := List.replicate linkCount 0
    queueVehicles := queueNext
    travelTimeCost := updateFlowTravelTimeCost b.baseTravelTimeCost queueNext capacity
    capacityViolationFlags := List.replicate linkCount false
    signalPhaseTimer := b.signalPhaseTimer.map (· + 1) }

end FlowBatch

def computeBaselineFlowArraysBatchImpl (b : FlowBatch) : Except KernelError FlowBatchResult := do
  let (linkCount, turnCount) ← b.validateFlowLengths
  validateNonNegativeF32 .queueVehicles b.queueVehicles
  validateNonNegativeF32 .effectiveCapacityVehicles b.effectiveCapacityVehicles
  validateNonNegativeF32 .turnDemand b.turnDemand
  validateNonNegativeF32 .baseTravelTimeCost b.baseTravelTimeCost
  validateNonNegativeF32 .turnPriority b.turnPriority
  if linkCount = 0 then
    return b.idleResult linkCount turnCount (List.replicate linkCount 0)
      (List.replicate linkCount 0)
  if turnCount = 0 then
    return b.idleResult linkCount turnCount b.queueVehicles b.effectiveCapacityVehicles
  validateTurnIndices .turnFromLinkIndex b.turnFromLinkIndex linkCount
  validateTurnIndices .turnToLinkIndex b.turnToLinkIndex linkCount
  return b.movingResult linkCount turnCount

section Columns

variable {n m : ℕ} {α β γ : Type}

theorem range_map_of_fn (g : ℕ → α) :
    (List.range m).map g = List.ofFn fun t : Fin m => g t := by
  refine List.ext_getElem (by simp) fun i _ _ => ?_
  simp

theorem get_d_of_fn (f : Fin n → α) (l : Fin n) (d : α) : (List.ofFn f).getD l d = f l := by
  simp

theorem zip_of_fn (f : Fin n → α) (g : Fin n → β) :
    (List.ofFn f).zip (List.ofFn g) = List.ofFn fun l => (f l, g l) := by
  refine List.ext_getElem (by simp) fun i _ _ => ?_
  simp

theorem zip_with_of_fn (h : α → β → γ) (f : Fin n → α) (g : Fin n → β) :
    List.zipWith h (List.ofFn f) (List.ofFn g) = List.ofFn fun l => h (f l) (g l) := by
  refine List.ext_getElem (by simp) fun i _ _ => ?_
  simp

theorem replicate_of_fn (a : α) : List.replicate n a = List.ofFn fun _ : Fin n => a :=
  (List.ofFn_const n a).symm

theorem modify_of_fn (f : Fin n → α) (l : Fin n) (g : α → α) :
    (List.ofFn f).modify l g = List.ofFn (Function.update f l (g (f l))) := by
  refine List.ext_getElem (by simp) fun i small _ => ?_
  rw [List.getElem_modify, List.getElem_ofFn, List.getElem_ofFn, Function.update_apply]
  by_cases here : (l : ℕ) = i
  · subst here
    simp
  · rw [if_neg here, if_neg fun same => here (congrArg Fin.val same).symm]

theorem segment_fold (entries : List (ℚ × Fin n)) (out : Fin n → ℚ) :
    (entries.map fun entry => (entry.1, (entry.2 : ℤ))).foldl
        (fun out entry => out.modify entry.2.toNat (· + entry.1)) (List.ofFn out) =
      List.ofFn fun l =>
        out l + (entries.map fun entry => if entry.2 = l then entry.1 else 0).sum := by
  induction entries generalizing out with
  | nil => simp
  | cons entry entries ih =>
    rw [List.map_cons, List.foldl_cons]
    simp only [Int.toNat_natCast]
    rw [modify_of_fn, ih]
    refine congrArg List.ofFn (funext fun l => ?_)
    rw [List.map_cons, List.sum_cons, ← add_assoc, Function.update_apply]
    by_cases here : l = entry.2
    · rw [if_pos here, if_pos here.symm, here]
    · rw [if_neg here, if_neg (Ne.symm here), add_zero]

theorem segment_sum_of_fn (values : Fin m → ℚ) (indices : Fin m → Fin n) :
    segmentSumF32 (List.ofFn values) (List.ofFn fun t => ((indices t : ℕ) : ℤ)) n =
      List.ofFn (segmentSum values indices) := by
  have entries : (List.ofFn values).zip (List.ofFn fun t => ((indices t : ℕ) : ℤ)) =
      (List.ofFn fun t => (values t, indices t)).map fun entry => (entry.1, (entry.2 : ℤ)) := by
    rw [zip_of_fn, List.map_ofFn]
    rfl
  unfold segmentSumF32
  rw [entries, replicate_of_fn, segment_fold]
  refine congrArg List.ofFn (funext fun l => ?_)
  rw [zero_add, List.map_ofFn, List.sum_ofFn]
  rfl

theorem travel_time_of_fn (base queue capacity : Fin n → ℚ) :
    updateFlowTravelTimeCost (List.ofFn base) (List.ofFn queue) (List.ofFn capacity) =
      List.ofFn (updateTravelTimeCost base queue capacity) := by
  unfold updateFlowTravelTimeCost
  rw [zip_of_fn, zip_with_of_fn]
  rfl

/-- The arrays of an update as the kernel returns them. -/
def FlowArrays.columns (arrays : FlowArrays n m) : FlowBatchResult where
  turnDemand := List.ofFn arrays.turnDemandNext
  turnSupply := List.ofFn arrays.turnSupplyNext
  turnFlow := List.ofFn arrays.turnFlowNext
  inflowVehicles := List.ofFn arrays.inflowVehiclesNext
  outflowVehicles := List.ofFn arrays.outflowVehiclesNext
  queueVehicles := List.ofFn arrays.queueVehiclesNext
  travelTimeCost := List.ofFn arrays.travelTimeCostNext
  capacityViolationFlags := List.ofFn arrays.capacityViolationFlagsNext
  signalPhaseTimer := arrays.signalPhaseTimerNext

namespace CoreInput

/-- What the core entry point hands to either backend: base costs and priorities are
clamped before. -/
def passed (c : CoreInput n m) : CoreInput n m :=
  { c with
    baseTravelTimeCost := fun l => max (c.baseTravelTimeCost l) costFloor
    turnPriority := fun t => max (c.turnPriority t) 0 }

/-- The slices for the kernel. -/
def batch (c : CoreInput n m) : FlowBatch where
  queueVehicles := List.ofFn c.queueNow
  effectiveCapacityVehicles := List.ofFn c.effectiveCapacity
  turnFromLinkIndex := List.ofFn fun t => ((c.fromIdx t : ℕ) : ℤ)
  turnToLinkIndex := List.ofFn fun t => ((c.toIdx t : ℕ) : ℤ)
  turnDemand := List.ofFn c.turnDemand
  signalPhaseTimer := c.signalPhaseTimer
  baseTravelTimeCost := List.ofFn c.baseTravelTimeCost
  turnPriority := List.ofFn c.turnPriority
  turnIsForbidden := List.ofFn c.turnIsForbidden

variable (c : CoreInput n m)

theorem batch_weighted_demand : c.batch.weightedDemand m = List.ofFn c.weightedDemand := by
  unfold FlowBatch.weightedDemand
  rw [range_map_of_fn]
  simp only [batch, get_d_of_fn]
  rfl

theorem batch_share (indices : Fin m → Fin n) (t : Fin m) :
    FlowBatch.turnShare (List.ofFn c.weightedDemand)
        (List.ofFn (segmentSum c.weightedDemand indices))
        (List.ofFn fun t => ((indices t : ℕ) : ℤ)) t = c.share indices t := by
  unfold FlowBatch.turnShare
  simp only [get_d_of_fn, Int.toNat_natCast]
  rfl

theorem batch_supply (t : Fin m) : c.batch.supply n m t = c.turnSupply t := by
  unfold FlowBatch.supply FlowBatch.fromAvailableLink
  simp only [batch_weighted_demand]
  simp only [batch, segment_sum_of_fn, batch_share, zip_with_of_fn, get_d_of_fn,
    Int.toNat_natCast]
  rfl

theorem batch_flow (t : Fin m) : c.batch.flow n m t = c.turnFlow t := by
  unfold FlowBatch.flow
  rw [batch_supply]
  simp only [batch, get_d_of_fn]
  rfl

theorem batch_moving : c.batch.movingResult n m = c.movingArrays.columns := by
  have flow : (List.range m).map (fun turn => max (c.batch.flow n m turn) 0) =
      List.ofFn c.turnFlow := by
    rw [range_map_of_fn]
    simp only [batch_flow, max_eq_left (c.turn_flow_nonneg _)]
  have supply : (List.range m).map (fun turn => max (c.batch.supply n m turn) 0) =
      List.ofFn c.turnSupply := by
    rw [range_map_of_fn]
    simp only [batch_supply, max_eq_left (c.turn_supply_nonneg _)]
  have queue : List.zipWith (fun (queue, outflow) inflow => max (queue - outflow + inflow) 0)
      ((List.ofFn c.queueNow).zip (List.ofFn (segmentSum c.turnFlow c.fromIdx)))
      (List.ofFn (segmentSum c.turnFlow c.toIdx)) = List.ofFn c.queueNext := by
    rw [zip_of_fn, zip_with_of_fn]
    exact congrArg List.ofFn (funext fun l => max_comm _ _)
  unfold FlowBatch.movingResult
  simp only [flow, supply]
  simp only [batch, segment_sum_of_fn, queue, zip_with_of_fn, travel_time_of_fn]
  unfold FlowArrays.columns movingArrays
  simp only [max_eq_left (c.turn_flow_nonneg _), max_eq_left (c.turn_supply_nonneg _)]

theorem batch_idle (queue capacity : Fin n → ℚ) (nonneg : ∀ l, 0 ≤ queue l)
    (same : updateTravelTimeCost c.baseTravelTimeCost queue capacity =
      updateTravelTimeCost c.baseTravelTimeCost queue c.effectiveCapacity) :
    c.batch.idleResult n m (List.ofFn queue) (List.ofFn capacity) =
      (c.idleArrays queue nonneg).columns := by
  unfold FlowBatch.idleResult FlowArrays.columns idleArrays
  simp only [batch, travel_time_of_fn, replicate_of_fn, same]

theorem batch_lengths : c.batch.validateFlowLengths = .ok (n, m) := by
  simp [FlowBatch.validateFlowLengths, batch, raiseIf, ok_bind]

theorem non_negative_of_fn {size : ℕ} (array : KernelArray) {values : Fin size → ℚ}
    (nonneg : ∀ i, 0 ≤ values i) : validateNonNegativeF32 array (List.ofFn values) = .ok () := by
  refine raise_if_ok.mpr ?_
  rintro ⟨value, listed, negative⟩
  obtain ⟨i, rfl⟩ := List.mem_ofFn.mp listed
  exact absurd negative (not_lt.mpr (nonneg i))

theorem turn_indices_of_fn (array : KernelArray) (indices : Fin m → Fin n) :
    validateTurnIndices array (List.ofFn fun t => ((indices t : ℕ) : ℤ)) n = .ok () := by
  refine raise_if_ok.mpr ?_
  rintro ⟨index, listed, outside⟩
  obtain ⟨t, rfl⟩ := List.mem_ofFn.mp listed
  have inside := (indices t).isLt
  omega

theorem batch_impl_eq (base : ∀ l, 0 ≤ c.baseTravelTimeCost l)
    (priority : ∀ t, 0 ≤ c.turnPriority t) :
    computeBaselineFlowArraysBatchImpl c.batch =
      .ok c.computeBaselineFlowArraysNumpyCore.columns := by
  unfold computeBaselineFlowArraysBatchImpl computeBaselineFlowArraysNumpyCore
  have queue : validateNonNegativeF32 .queueVehicles c.batch.queueVehicles = .ok () :=
    non_negative_of_fn _ c.queue_nonneg
  have capacity : validateNonNegativeF32 .effectiveCapacityVehicles
      c.batch.effectiveCapacityVehicles = .ok () := non_negative_of_fn _ c.capacity_nonneg
  have demand : validateNonNegativeF32 .turnDemand c.batch.turnDemand = .ok () :=
    non_negative_of_fn _ c.demand_nonneg
  have base : validateNonNegativeF32 .baseTravelTimeCost c.batch.baseTravelTimeCost = .ok () :=
    non_negative_of_fn _ base
  have priority : validateNonNegativeF32 .turnPriority c.batch.turnPriority = .ok () :=
    non_negative_of_fn _ priority
  have fromIdx : validateTurnIndices .turnFromLinkIndex c.batch.turnFromLinkIndex n = .ok () :=
    turn_indices_of_fn _ c.fromIdx
  have toIdx : validateTurnIndices .turnToLinkIndex c.batch.turnToLinkIndex n = .ok () :=
    turn_indices_of_fn _ c.toIdx
  rw [batch_lengths, ok_bind]
  simp only [queue, capacity, demand, base, priority, fromIdx, toIdx, batch_moving]
  simp only [ok_bind]
  split
  · rename_i empty
    rw [replicate_of_fn, batch_idle]
    · rfl
    · exact funext fun l => (Fin.cast empty l).elim0
  · split
    · exact congrArg Except.ok (batch_idle c c.queueNow c.effectiveCapacity c.queue_nonneg rfl)
    · rfl

end CoreInput

end Columns

/-- The update keeps its bounds and the vehicles, and the compiled kernel returns the same
arrays as the numpy core on what either is handed. -/
theorem fractional_node_update {n m : ℕ} (c : CoreInput n m) :
    FractionalUpdate c c.passed.computeBaselineFlowArraysNumpyCore ∧
      computeBaselineFlowArraysBatchImpl c.passed.batch =
        .ok c.passed.computeBaselineFlowArraysNumpyCore.columns := by
  have update : FractionalUpdate c.passed c.passed.computeBaselineFlowArraysNumpyCore :=
    numpy_core_update
  refine ⟨⟨update.demand, update.forbidden, update.outflow, update.inflow, update.outflow_le,
    update.inflow_le, update.unclamped, update.queue, update.conserved, update.flags⟩, ?_⟩
  have floor : (0 : ℚ) ≤ costFloor := by norm_num [costFloor]
  exact c.passed.batch_impl_eq (fun l => floor.trans (le_max_right _ _)) fun t => le_max_right _ _

end Metroflow.Flow
