import Metroflow.Flow.Ticks

namespace Metroflow.Flow

open Metroflow.Lib

variable {n m : ℕ}

/-- A turn can be given tokens when it is asked for, the fractional allocator
gave it flow and its destination has a free place. -/
def EligibleTurn (arrays : FlowArrays n m) (link : LinkState n) (node : NodeState n m)
    (storage : Option (Fin n → ℚ)) (t : Fin m) : Prop :=
  0 < node.turnDemand t ∧ 0 < arrays.turnFlowNext t ∧
    hasSpace storage link.queueVehicles (node.turnToLinkIndex t) = true

/-- A turn that is forbidden, asked for by no vehicle, or closed at either end. -/
def InactiveTurn (link : LinkState n) (node : NodeState n m) (forbidden : Fin m → Bool)
    (t : Fin m) : Prop :=
  forbidden t = true ∨ node.turnDemand t = 0 ∨
    link.effectiveCapacityVehicles (node.turnFromLinkIndex t) = 0 ∨
    link.effectiveCapacityVehicles (node.turnToLinkIndex t) = 0

def emitted (node : NodeState n m) (realized : Fin m → ℤ) (sinkFlow : Fin n → ℤ) (l : Fin n) : ℤ :=
  (∑ t, if node.turnFromLinkIndex t = l then realized t else 0) + sinkFlow l

def received (node : NodeState n m) (realized : Fin m → ℤ) (l : Fin n) : ℤ :=
  ∑ t, if node.turnToLinkIndex t = l then realized t else 0

/-- A token allocation that respects every bound of its tick, loses no vehicle
and leaves no eligible movement that another token could serve. -/
structure FeasibleAllocation (arrays : FlowArrays n m) (link : LinkState n) (node : NodeState n m)
    (storage : Option (Fin n → ℚ)) (sinkDemand : Fin n → ℤ) (forbidden : Fin m → Bool)
    (next : FlowArrays n m) (authority : AuthorityMetadata n m) (realized : Fin m → ℤ) :
    Prop where
  turn_flow : ∀ t, next.turnFlowNext t = realized t
  turn_nonneg : ∀ t, 0 ≤ realized t
  turn_within_demand : ∀ t, realized t ≤ ⌊node.turnDemand t + vehicleTolerance⌋
  ineligible_idle : ∀ t, ¬ EligibleTurn arrays link node storage t → realized t = 0
  inactive_idle : ∀ t, InactiveTurn link node forbidden t → realized t = 0
  sink_nonneg : ∀ l, 0 ≤ authority.sinkFlow l
  sink_within_demand : ∀ l, authority.sinkFlow l ≤ sinkDemand l
  within_service : ∀ l, emitted node realized authority.sinkFlow l ≤ authority.serviceTokens l
  within_queue : ∀ l, emitted node realized authority.sinkFlow l ≤
    ⌊link.queueVehicles l + vehicleTolerance⌋
  within_receiving : ∀ l, received node realized l ≤ authority.receivingTokens l
  within_space : ∀ capacity, storage = some capacity → ∀ l,
    (authority.receivingTokens l : ℚ) ≤
      max (capacity l - link.queueVehicles l) 0 + vehicleTolerance
  within_whole_space : ∀ capacity, storage = some capacity → ∀ l, (∃ c : ℤ, capacity l = c) →
    (authority.receivingTokens l : ℚ) ≤ max (capacity l - link.queueVehicles l) 0
  conserved : ∀ l, next.queueVehiclesNext l =
    link.queueVehicles l - emitted node realized authority.sinkFlow l + received node realized l
  unclamped : ∀ l, 0 ≤
    link.queueVehicles l - emitted node realized authority.sinkFlow l + received node realized l
  total : ∑ l, next.queueVehiclesNext l = ∑ l, link.queueVehicles l - ∑ l, (authority.sinkFlow l : ℚ)
  turn_maximal : ∀ t, EligibleTurn arrays link node storage t →
    realized t = ⌊node.turnDemand t + vehicleTolerance⌋ ∨
    emitted node realized authority.sinkFlow (node.turnFromLinkIndex t) =
      authority.serviceTokens (node.turnFromLinkIndex t) ∨
    emitted node realized authority.sinkFlow (node.turnFromLinkIndex t) =
      ⌊link.queueVehicles (node.turnFromLinkIndex t) + vehicleTolerance⌋ ∨
    received node realized (node.turnToLinkIndex t) =
      authority.receivingTokens (node.turnToLinkIndex t)
  sink_maximal : ∀ l, 0 < sinkDemand l →
    authority.sinkFlow l = sinkDemand l ∨
    emitted node realized authority.sinkFlow l = authority.serviceTokens l ∨
    emitted node realized authority.sinkFlow l = ⌊link.queueVehicles l + vehicleTolerance⌋

section Tick

variable {arrays : FlowArrays n m} {link : LinkState n} {node : NodeState n m}
  {storage : Option (Fin n → ℚ)} {prior : PriorCredits n m} {sinkDemand : Fin n → ℤ}
  {k : TokenTick n m}

theorem emitted_eq_outflow (tick : k = tokenTick arrays link node storage prior sinkDemand)
    (l : Fin n) :
    (emitted node k.allocate.realizedTurn k.allocate.sinkFlow l : ℚ) = k.outflow k.allocate l := by
  have same : k.fromIdx = node.turnFromLinkIndex := by rw [tick]; rfl
  simp [emitted, TokenTick.outflow, TokenTick.internalOutflow, segmentSum, same]

theorem received_eq_inflow (tick : k = tokenTick arrays link node storage prior sinkDemand)
    (l : Fin n) : (received node k.allocate.realizedTurn l : ℚ) = k.inflow k.allocate l := by
  have same : k.toIdx = node.turnToLinkIndex := by rw [tick]; rfl
  simp [received, TokenTick.inflow, segmentSum, same]

theorem eligible_turn_iff (tick : k = tokenTick arrays link node storage prior sinkDemand)
    (t : Fin m) : k.eligibleTurnDemand t = true ↔ EligibleTurn arrays link node storage t := by
  have queue : (fun l => max (link.queueVehicles l) 0) = link.queueVehicles :=
    funext fun l => max_eq_left (link.queue_nonneg l)
  have demand : k.turnDemand t = node.turnDemand t := by
    rw [tick]
    exact max_eq_left (node.demand_nonneg t)
  have flow : k.fractionalTurnFlow t =
      if hasSpace storage link.queueVehicles (node.turnToLinkIndex t) then
        arrays.turnFlowNext t else 0 := by
    rw [tick]
    simp only [tokenTick, queue, max_eq_left (arrays.flow_nonneg t)]
  simp only [TokenTick.eligibleTurnDemand, Bool.and_eq_true, decide_eq_true_eq, demand, flow,
    EligibleTurn]
  split <;> simp_all

end Tick

namespace TokenTick

variable {k : TokenTick n m}

theorem realized_zero_of_ineligible {t : Fin m} (h : k.eligibleTurnDemand t ≠ true) :
    k.allocate.realizedTurn t = 0 :=
  k.allocate_spec.idle (.turn t) fun found => h (k.mem_initial_turn.mp found)

theorem remaining_vehicles_eq (l : Fin n) :
    (k.allocate.remainingVehicles l : ℚ) = k.vehiclesNow l - k.outflow k.allocate l := by
  have balance := k.allocate_spec.balanced.balance (.vehicles l)
  rw [outflow_eq_served, ← served_vehicles_eq, eq_sub_iff_add_eq]
  exact_mod_cast balance

theorem remaining_turn_demand_eq (t : Fin m) :
    k.allocate.remainingTurnDemand t = k.wholeTurnDemand t - k.allocate.realizedTurn t := by
  have balance := k.allocate_spec.balanced.balance (.turnDemand t)
  rw [Finset.sum_filter, Movement.sum_eq] at balance
  simp only [uses, allocation, Finset.mem_insert, reduceCtorEq, Finset.mem_singleton, or_self,
    ↓reduceIte, Finset.sum_const_zero, zero_add, Budget.turnDemand.injEq, or_false,
    Finset.sum_ite_eq, Finset.mem_univ, budget] at balance
  omega

theorem remaining_sink_demand_eq (l : Fin n) :
    k.allocate.remainingSinkDemand l = k.sinkDemand l - k.allocate.sinkFlow l := by
  have balance := k.allocate_spec.balanced.balance (.sinkDemand l)
  rw [Finset.sum_filter, Movement.sum_eq] at balance
  simp only [uses, allocation, Finset.mem_insert, reduceCtorEq, Finset.mem_singleton, or_self,
    ↓reduceIte, Finset.sum_const_zero, add_zero, Budget.sinkDemand.injEq, or_false,
    Finset.sum_ite_eq, Finset.mem_univ, budget] at balance
  omega

theorem Valid.turn_maximal (h : k.Valid) {t : Fin m} (eligible : k.eligibleTurnDemand t = true) :
    k.allocate.realizedTurn t = k.wholeTurnDemand t ∨
    k.outflow k.allocate (k.fromIdx t) = k.serviceTokens (k.fromIdx t) ∨
    k.outflow k.allocate (k.fromIdx t) = k.vehiclesNow (k.fromIdx t) ∨
    k.inflow k.allocate (k.toIdx t) = k.receivingTokens (k.toIdx t) := by
  have spent := k.allocate_spec.exhausted (.turn t) (k.mem_initial_turn.mpr eligible)
  have service : (k.allocate.remainingService (k.fromIdx t) : ℚ) = _ :=
    TokenTick.Valid.remaining_service_eq _
  have receiving : (k.allocate.remainingReceiving (k.toIdx t) : ℚ) = _ :=
    TokenTick.Valid.remaining_receiving_eq _
  have vehicles := k.remaining_vehicles_eq (k.fromIdx t)
  have demand := k.remaining_turn_demand_eq t
  simp only [canServe, Bool.and_eq_false_iff, decide_eq_false_iff_not, not_lt] at spent
  rcases spent with ((demanded | served) | gone) | filled
  · left
    have := h.realized_turn_le t
    omega
  · right; left
    have used : (k.allocate.remainingService (k.fromIdx t) : ℚ) ≤ 0 := by exact_mod_cast served
    have := h.outflow_le_service (k.fromIdx t)
    linarith
  · right; right; left
    have used : (k.allocate.remainingVehicles (k.fromIdx t) : ℚ) ≤ 0 := by exact_mod_cast gone
    have := h.outflow_le_vehicles (k.fromIdx t)
    linarith
  · right; right; right
    have used : (k.allocate.remainingReceiving (k.toIdx t) : ℚ) ≤ 0 := by exact_mod_cast filled
    have := h.inflow_le_receiving (k.toIdx t)
    linarith

theorem Valid.sink_maximal (h : k.Valid) {l : Fin n} (demanded : 0 < k.sinkDemand l) :
    k.allocate.sinkFlow l = k.sinkDemand l ∨
    k.outflow k.allocate l = k.serviceTokens l ∨
    k.outflow k.allocate l = k.vehiclesNow l := by
  have spent := k.allocate_spec.exhausted (.sink l) (k.mem_initial_sink.mpr demanded)
  have service : (k.allocate.remainingService l : ℚ) = _ :=
    TokenTick.Valid.remaining_service_eq _
  have vehicles := k.remaining_vehicles_eq l
  have demand := k.remaining_sink_demand_eq l
  simp only [canServe, Bool.and_eq_false_iff, decide_eq_false_iff_not, not_lt] at spent
  rcases spent with (met | served) | gone
  · left
    have := h.sink_flow_le l
    omega
  · right; left
    have used : (k.allocate.remainingService l : ℚ) ≤ 0 := by exact_mod_cast served
    have := h.outflow_le_service l
    linarith
  · right; right
    have used : (k.allocate.remainingVehicles l : ℚ) ≤ 0 := by exact_mod_cast gone
    have := h.outflow_le_vehicles l
    linarith

end TokenTick

theorem CoreInput.active_of_flow {c : CoreInput n m} {t : Fin m} (h : 0 < c.turnFlow t) :
    c.turnIsForbidden t = false ∧ 0 < c.turnDemand t ∧ 0 < c.effectiveCapacity (c.fromIdx t) ∧
      0 < c.effectiveCapacity (c.toIdx t) ∧ 0 < c.queueNow (c.fromIdx t) := by
  unfold turnFlow at h
  split at h
  · exact absurd h (lt_irrefl 0)
  · rename_i allowed
    obtain ⟨demand, supply⟩ := lt_min_iff.mp h
    obtain ⟨sending, receiving⟩ := lt_min_iff.mp supply
    have available := pos_of_mul_pos_left sending (c.share_nonneg _ t)
    have supplied := pos_of_mul_pos_left receiving (c.share_nonneg _ t)
    obtain ⟨queue, capacity⟩ := lt_min_iff.mp available
    exact ⟨by simpa using allowed, demand, capacity, supplied, queue⟩

theorem not_eligible_of_inactive {rust : RustFlowKernel n m} {arrays : FlowArrays n m}
    {link : LinkState n} {node : NodeState n m} {storage : Option (Fin n → ℚ)}
    {forbidden : Fin m → Bool} {t : Fin m}
    (baseline : computeBaselineFlowArrays rust link node .baseline = .ok arrays)
    (forbids : readTurnMetadata node.metadata.turnIsForbidden .turnIsForbidden m false =
      .ok forbidden)
    (inactive : InactiveTurn link node forbidden t) : ¬ EligibleTurn arrays link node storage t := by
  rintro ⟨_, flow, _⟩
  obtain ⟨priority, listed, baseCost, _, read, _, rfl⟩ := compute_baseline_flow_arrays_ok baseline
  obtain rfl := Except.ok.inj (read.symm.trans forbids)
  rw [CoreInput.numpy_core_turn_flow] at flow
  obtain ⟨allowed, demand, sending, receiving, _⟩ := CoreInput.active_of_flow flow
  simp only [coreInput, max_eq_left (node.demand_nonneg t),
    max_eq_left (link.effective_capacity_nonneg _)] at allowed demand sending receiving
  rcases inactive with banned | idle | closed | closed
  · simp [banned] at allowed
  · exact absurd idle demand.ne'
  · exact absurd closed sending.ne'
  · exact absurd closed receiving.ne'

theorem follow_capacity (_ : Fin 2) : (0 : ℚ) ≤ 2 := zero_le_two

/-- Two vehicles that want to follow the one on the next link. -/
def followLink : LinkState 2 :=
  (createLinkState (fun _ => 1) (fun _ => 2) (fun _ => one_pos) fun _ => zero_le_two).withQueue
    ![2, 1] (by decide +kernel)

def followNode : NodeState 2 1 :=
  (createNodeState (fun _ => 0) (fun _ => 1) 2).withDemand (fun _ => 2) fun _ => zero_le_two

def followArrays : FlowArrays 2 1 :=
  (coreInput followLink followNode (fun _ => 1) (fun _ => 1)
    fun _ => false).computeBaselineFlowArraysNumpyCore

end Metroflow.Flow
