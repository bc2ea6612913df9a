import Metroflow.Flow.Authority

namespace Metroflow.Flow

open Metroflow.Lib

variable {n m : ℕ}

namespace TokenTick

variable (k : TokenTick n m) (s : ServiceState n m)

theorem inflow_eq_served (l : Fin n) : k.inflow s l =
    ((∑ movement with Budget.receiving l ∈ k.uses movement,
      (allocation s).served movement : ℤ) : ℚ) := by
  rw [Finset.sum_filter, Movement.sum_eq]
  simp [inflow, segmentSum, uses, allocation, eq_comm]

theorem outflow_eq_served (l : Fin n) : k.outflow s l =
    ((∑ movement with Budget.service l ∈ k.uses movement,
      (allocation s).served movement : ℤ) : ℚ) := by
  rw [Finset.sum_filter, Movement.sum_eq]
  simp [outflow, internalOutflow, segmentSum, uses, allocation, eq_comm, add_comm]

theorem served_vehicles_eq (l : Fin n) :
    ∑ movement with Budget.vehicles l ∈ k.uses movement, (allocation s).served movement =
      ∑ movement with Budget.service l ∈ k.uses movement, (allocation s).served movement := by
  rw [Finset.sum_filter, Finset.sum_filter]
  refine Finset.sum_congr rfl fun movement _ => ?_
  cases movement <;> simp [uses]

end TokenTick

namespace TokenTick.Valid

variable {k : TokenTick n m}

theorem budget_nonneg (h : k.Valid) (r : Budget n m) : 0 ≤ k.budget r := by
  cases r with
  | service l => exact h.service_tokens_nonneg l
  | vehicles l => exact h.vehicles_nonneg l
  | receiving l => exact h.receiving_tokens_nonneg l
  | turnDemand t => exact h.whole_demand_nonneg t
  | sinkDemand l => exact h.sink_nonneg l

theorem realized_turn_le (h : k.Valid) (t : Fin m) :
    k.allocate.realizedTurn t ≤ k.wholeTurnDemand t :=
  k.allocate_spec.balanced.served_le (j := Movement.turn t) (h.budget_nonneg (.turnDemand t))
    (by simp [uses])

theorem sink_flow_le (h : k.Valid) (l : Fin n) : k.allocate.sinkFlow l ≤ k.sinkDemand l :=
  k.allocate_spec.balanced.served_le (j := Movement.sink l) (h.budget_nonneg (.sinkDemand l))
    (by simp [uses])

theorem outflow_le_service (h : k.Valid) (l : Fin n) :
    k.outflow k.allocate l ≤ k.serviceTokens l := by
  rw [outflow_eq_served]
  exact_mod_cast k.allocate_spec.balanced.within (h.budget_nonneg (.service l))

theorem outflow_le_vehicles (h : k.Valid) (l : Fin n) :
    k.outflow k.allocate l ≤ k.vehiclesNow l := by
  rw [outflow_eq_served, ← served_vehicles_eq]
  exact_mod_cast k.allocate_spec.balanced.within (h.budget_nonneg (.vehicles l))

theorem inflow_le_receiving (h : k.Valid) (l : Fin n) :
    k.inflow k.allocate l ≤ k.receivingTokens l := by
  rw [inflow_eq_served]
  exact_mod_cast k.allocate_spec.balanced.within (h.budget_nonneg (.receiving l))

theorem remaining_service_eq (l : Fin n) :
    (k.allocate.remainingService l : ℚ) = k.serviceTokens l - k.outflow k.allocate l := by
  have balance := k.allocate_spec.balanced.balance (.service l)
  rw [outflow_eq_served, eq_sub_iff_add_eq]
  exact_mod_cast balance

theorem remaining_receiving_eq (l : Fin n) :
    (k.allocate.remainingReceiving l : ℚ) = k.receivingTokens l - k.inflow k.allocate l := by
  have balance := k.allocate_spec.balanced.balance (.receiving l)
  rw [inflow_eq_served, eq_sub_iff_add_eq]
  exact_mod_cast balance

theorem inflow_le_space (h : k.Valid) {space : Fin n → ℚ} (found : k.receivingSpace = some space)
    (l : Fin n) : k.inflow k.allocate l ≤ ⌊space l + vehicleTolerance⌋ := by
  refine (h.inflow_le_receiving l).trans ?_
  exact_mod_cast receiving_tokens_le_space found l

theorem outflow_nonneg (l : Fin n) : 0 ≤ k.outflow k.allocate l :=
  add_nonneg (segment_sum_nonneg (realized_turn_nonneg k) l) (sink_flow_nonneg k l)

theorem inflow_nonneg (l : Fin n) : 0 ≤ k.inflow k.allocate l :=
  segment_sum_nonneg (realized_turn_nonneg k) l

theorem queue_next_le_storage (h : k.Valid) {storage : Fin n → ℚ}
    (found : k.storageCapacity = some storage) (l : Fin n) :
    k.queueNext k.allocate l ≤ storage l + vehicleTolerance := by
  obtain ⟨one, bound⟩ := h.stored storage found l
  have space : k.receivingSpace = some fun l => max (storage l - k.queueNow l) 0 := by
    simp [receivingSpace, found]
  have tolerance : vehicleTolerance = 1 / 1000000 := rfl
  have fits := (h.inflow_le_space space l).trans (Int.floor_le _)
  have leaves := outflow_nonneg (k := k) l
  refine max_le (by linarith) ?_
  rcases le_total (k.queueNow l) (storage l) with under | excess
  · rw [max_eq_left (sub_nonneg.mpr under)] at fits
    linarith
  · -- a link over its bound by the tolerance has no whole place left
    have full : ⌊max (storage l - k.queueNow l) 0 + vehicleTolerance⌋ = 0 := by
      rw [max_eq_right (sub_nonpos.mpr excess), Int.floor_eq_iff]
      norm_num [vehicleTolerance]
    have none_enters := h.inflow_le_space space l
    simp only [full] at none_enters
    push_cast at none_enters
    linarith

theorem exceeds_storage_eq_false (h : k.Valid) : k.exceedsStorage k.allocate = false := by
  unfold exceedsStorage
  split
  · rfl
  · rename_i storage found
    simp only [decide_eq_false_iff_not, not_exists, not_lt]
    exact h.queue_next_le_storage found

theorem outflow_le_queue (h : k.Valid) {l : Fin n} {q : ℤ} (whole : k.queueNow l = q) :
    k.outflow k.allocate l ≤ k.queueNow l := by
  have leaves := h.outflow_le_vehicles l
  have floor : k.vehiclesNow l = q := by
    unfold vehiclesNow
    rw [whole, Int.floor_eq_iff]
    norm_num [vehicleTolerance]
  rw [whole, ← floor]
  exact leaves

theorem queue_next_eq (h : k.Valid) {l : Fin n} {q : ℤ} (whole : k.queueNow l = q) :
    k.queueNext k.allocate l =
      k.queueNow l - k.outflow k.allocate l + k.inflow k.allocate l := by
  have leaves := h.outflow_le_queue whole
  have enters := inflow_nonneg (k := k) l
  exact max_eq_right (by linarith)

theorem queue_next_whole (h : k.Valid) {l : Fin n} {q : ℤ} (whole : k.queueNow l = q) :
    ∃ q' : ℤ, k.queueNext k.allocate l = q' := by
  rw [h.queue_next_eq whole, whole, outflow_eq_served, inflow_eq_served, ← Int.cast_sub,
    ← Int.cast_add]
  exact ⟨_, rfl⟩

theorem queue_next_total (h : k.Valid) {q : Fin n → ℤ} (whole : ∀ l, k.queueNow l = q l) :
    ∑ l, k.queueNext k.allocate l = ∑ l, k.queueNow l - ∑ l, (k.allocate.sinkFlow l : ℚ) := by
  have each : ∀ l, k.queueNext k.allocate l =
      k.queueNow l - (k.internalOutflow k.allocate l + k.allocate.sinkFlow l) +
        k.inflow k.allocate l := fun l => h.queue_next_eq (whole l)
  simp only [each, Finset.sum_add_distrib, Finset.sum_sub_distrib]
  have same : ∑ l, k.internalOutflow k.allocate l = ∑ l, k.inflow k.allocate l := by
    rw [internalOutflow, inflow, sum_segment_sum, sum_segment_sum]
  rw [same]
  ring

end TokenTick.Valid

end Metroflow.Flow
