import Metroflow.Flow.Baseline

namespace Metroflow.Flow

open Metroflow.Lib

variable {n m : ℕ} {c : CoreInput n m}

theorem segment_sum_le_of_shares {values shares : Fin m → ℚ} {indices : Fin m → Fin n}
    {amount : Fin n → ℚ} (nonneg : ∀ l, 0 ≤ amount l)
    (each : ∀ t, values t ≤ amount (indices t) * shares t)
    (whole : ∀ l, segmentSum shares indices l ≤ 1) (l : Fin n) :
    segmentSum values indices l ≤ amount l := by
  calc segmentSum values indices l
      ≤ segmentSum (fun t => amount (indices t) * shares t) indices l := segment_sum_mono each l
    _ = amount l * segmentSum shares indices l := by
        unfold segmentSum
        rw [Finset.mul_sum]
        refine Finset.sum_congr rfl fun t _ => ?_
        split
        · rename_i here
          exact congrArg (amount · * shares t) here
        · exact (mul_zero _).symm
    _ ≤ amount l * 1 := mul_le_mul_of_nonneg_left (whole l) (nonneg l)
    _ = amount l := mul_one _

namespace CoreInput

theorem share_sum (indices : Fin m → Fin n) (l : Fin n) :
    segmentSum (c.share indices) indices l ≤ 1 := by
  have each : ∀ t, (if indices t = l then c.share indices t else 0) =
      (if 0 < segmentSum c.weightedDemand indices l then
        (if indices t = l then c.weightedDemand t else 0) /
          segmentSum c.weightedDemand indices l else 0) := by
    intro t
    by_cases here : indices t = l
    · rw [if_pos here, if_pos here, share, here]
    · rw [if_neg here, if_neg here, zero_div, ite_self]
  unfold segmentSum at each ⊢
  simp only [each]
  split
  · rename_i wanted
    rw [← Finset.sum_div, div_self wanted.ne']
  · rw [Finset.sum_const_zero]
    exact zero_le_one

theorem available_nonneg (l : Fin n) : 0 ≤ c.fromAvailableLink l :=
  le_min (c.queue_nonneg l) (c.capacity_nonneg l)

theorem turn_flow_le_supply (t : Fin m) : c.turnFlow t ≤ c.turnSupply t := by
  unfold turnFlow
  split
  · exact c.turn_supply_nonneg t
  · exact min_le_right _ _

theorem turn_flow_le_demand (t : Fin m) : c.turnFlow t ≤ c.turnDemand t := by
  unfold turnFlow
  split
  · exact c.demand_nonneg t
  · exact min_le_left _ _

theorem outflow_le_available (l : Fin n) :
    segmentSum c.turnFlow c.fromIdx l ≤ min (c.queueNow l) (c.effectiveCapacity l) :=
  segment_sum_le_of_shares available_nonneg
    (fun t => (turn_flow_le_supply t).trans (min_le_left _ _)) (share_sum c.fromIdx) l

theorem inflow_le_receiving (l : Fin n) :
    segmentSum c.turnFlow c.toIdx l ≤ c.receivingSupplyLink l :=
  segment_sum_le_of_shares c.capacity_nonneg
    (fun t => (turn_flow_le_supply t).trans (min_le_right _ _)) (share_sum c.toIdx) l

theorem queue_unclamped (l : Fin n) :
    0 ≤ c.queueNow l - segmentSum c.turnFlow c.fromIdx l + segmentSum c.turnFlow c.toIdx l := by
  have leaves : segmentSum c.turnFlow c.fromIdx l ≤ c.queueNow l :=
    (outflow_le_available l).trans (min_le_left _ _)
  have enters : 0 ≤ segmentSum c.turnFlow c.toIdx l := segment_sum_nonneg c.turn_flow_nonneg l
  exact add_nonneg (sub_nonneg.mpr leaves) enters

theorem queue_next_eq (l : Fin n) : c.queueNext l =
    c.queueNow l - segmentSum c.turnFlow c.fromIdx l + segmentSum c.turnFlow c.toIdx l :=
  max_eq_right (queue_unclamped l)

theorem queue_next_sum : ∑ l, c.queueNext l = ∑ l, c.queueNow l := by
  simp only [queue_next_eq, Finset.sum_add_distrib, Finset.sum_sub_distrib, sum_segment_sum]
  exact sub_add_cancel _ _

end CoreInput

structure FractionalUpdate (c : CoreInput n m) (arrays : FlowArrays n m) : Prop where
  demand : ∀ t, 0 ≤ arrays.turnFlowNext t ∧ arrays.turnFlowNext t ≤ c.turnDemand t
  forbidden : ∀ t, c.turnIsForbidden t = true → arrays.turnFlowNext t = 0
  outflow : arrays.outflowVehiclesNext = segmentSum arrays.turnFlowNext c.fromIdx
  inflow : arrays.inflowVehiclesNext = segmentSum arrays.turnFlowNext c.toIdx
  outflow_le : ∀ l, arrays.outflowVehiclesNext l ≤ min (c.queueNow l) (c.effectiveCapacity l)
  inflow_le : ∀ l, arrays.inflowVehiclesNext l ≤ c.receivingSupplyLink l
  unclamped : ∀ l,
    0 ≤ c.queueNow l - arrays.outflowVehiclesNext l + arrays.inflowVehiclesNext l
  queue : ∀ l, arrays.queueVehiclesNext l =
    c.queueNow l - arrays.outflowVehiclesNext l + arrays.inflowVehiclesNext l
  conserved : ∑ l, arrays.queueVehiclesNext l = ∑ l, c.queueNow l
  flags : ∀ l, arrays.capacityViolationFlagsNext l = false

theorem moving_arrays_update : FractionalUpdate c c.movingArrays := by
  have flow : c.movingArrays.turnFlowNext = c.turnFlow :=
    funext fun t => max_eq_left (c.turn_flow_nonneg t)
  refine ⟨fun t => ?_, fun t forbidden => ?_, ?_, ?_, CoreInput.outflow_le_available,
    CoreInput.inflow_le_receiving, CoreInput.queue_unclamped, CoreInput.queue_next_eq,
    CoreInput.queue_next_sum, fun l => decide_eq_false (not_lt.mpr ?_)⟩
  · rw [flow]
    exact ⟨c.turn_flow_nonneg t, CoreInput.turn_flow_le_demand t⟩
  · rw [flow, CoreInput.turnFlow, if_pos forbidden]
  · rw [flow]
    rfl
  · rw [flow]
    rfl
  · have tolerance : (0 : ℚ) ≤ vehicleTolerance := by norm_num [vehicleTolerance]
    exact ((CoreInput.outflow_le_available l).trans (min_le_right _ _)).trans
      (le_add_of_nonneg_right tolerance)

theorem idle_arrays_update (none : m = 0) :
    FractionalUpdate c (c.idleArrays c.queueNow c.queue_nonneg) := by
  subst none
  have still : ∀ indices : Fin 0 → Fin n, (fun _ => 0) = segmentSum (fun _ => 0) indices :=
    fun indices => funext fun l => rfl
  refine ⟨fun t => t.elim0, fun t => t.elim0, still _, still _,
    fun l => CoreInput.available_nonneg l, c.capacity_nonneg, fun l => ?_, fun l => ?_, rfl, fun _ => rfl⟩
  · change 0 ≤ c.queueNow l - 0 + 0
    rw [sub_zero, add_zero]
    exact c.queue_nonneg l
  · change c.queueNow l = c.queueNow l - 0 + 0
    rw [sub_zero, add_zero]

theorem numpy_core_update : FractionalUpdate c c.computeBaselineFlowArraysNumpyCore := by
  unfold CoreInput.computeBaselineFlowArraysNumpyCore
  split
  · rename_i empty
    subst empty
    refine ⟨fun t => (c.fromIdx t).elim0, fun t => (c.fromIdx t).elim0, ?_, ?_, fun l => l.elim0,
      fun l => l.elim0, fun l => l.elim0, fun l => l.elim0, ?_, fun l => l.elim0⟩
    · exact funext fun l => l.elim0
    · exact funext fun l => l.elim0
    · rw [Finset.univ_eq_empty, Finset.sum_empty, Finset.sum_empty]
  · split
    · rename_i none
      exact idle_arrays_update none
    · exact moving_arrays_update

end Metroflow.Flow
