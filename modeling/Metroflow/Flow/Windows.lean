import Metroflow.Flow.Closure

namespace Metroflow.Flow

open Metroflow.Lib

variable {n m : ℕ}

/-- The residual and the carried token a link side holds between ticks. -/
def holding (residual carry : Fin n → ℚ) (l : Fin n) : ℚ := residual l + rint (carry l)

namespace TokenMint.Valid

variable {k : TokenMint}

theorem accrued_le (h : k.Valid) : k.accrued ≤ k.residual + k.capacity := by
  unfold accrued
  split
  · exact le_refl _
  · exact add_nonneg h.residual_nonneg h.capacity_nonneg

theorem rint_carry_nonneg (h : k.Valid) : (0 : ℚ) ≤ rint k.carry := by
  rcases h.carry_whole with none | one
  · rw [none]
    norm_num
  · rw [one]
    norm_num

theorem spend (h : k.Valid) (granted spent : ℤ) (within : spent ≤ granted)
    (minted : granted ≤ k.tokens) :
    spent + (k.storedResidual + rint (k.nextCarry (granted - spent))) ≤
      k.residual + rint k.carry + (k.capacity + residualEpsilon) := by
  have near := k.stored_residual_bounds.2.2
  have accrued := h.accrued_le
  have carried := h.rint_carry_nonneg
  have credit : k.nextCredit = k.accrued - k.minted := rfl
  cases enabled : k.carryEnabled with
  | true =>
    have tokens : k.tokens = k.minted + rint k.carry := by simp [tokens, enabled]
    have next : rint (k.nextCarry (granted - spent)) = min (granted - spent) 1 := by
      simp [nextCarry, enabled, -Int.cast_min]
    have kept : spent + min (granted - spent) 1 ≤ k.minted + rint k.carry := by omega
    rw [next]
    have kept' : (spent : ℚ) + (min (granted - spent) 1 : ℤ) ≤ k.minted + rint k.carry := by
      exact_mod_cast kept
    linarith
  | false =>
    have tokens : k.tokens = k.minted := by simp [tokens, enabled]
    have next : rint (k.nextCarry (granted - spent)) = 0 := by
      simp only [nextCarry, enabled, Bool.false_eq_true, ↓reduceIte]
      exact_mod_cast rint_int 0
    have kept : (spent : ℚ) ≤ k.minted := by exact_mod_cast (by omega : spent ≤ k.minted)
    rw [next]
    push_cast
    linarith

theorem closed (h : k.Valid) (residual : k.residual ≤ residualUpper) (shut : k.capacity = 0) :
    k.tokens = 0 := by
  have disabled : k.carryEnabled = false := by simp [carryEnabled, shut]
  have small : k.accrued + residualEpsilon < 1 := by
    have accrued := h.accrued_le
    have upper : residualUpper + residualEpsilon < 1 := by
      norm_num [residualUpper, residualEpsilon]
    linarith
  have positive := h.minted_nonneg
  have empty : k.minted < 1 := Int.floor_lt.mpr (by exact_mod_cast small)
  simp only [tokens, disabled, Bool.false_eq_true, ↓reduceIte, add_zero]
  omega

end TokenMint.Valid

/-- The residuals that the states hold are below one as float32 numbers are. -/
def Float32Residuals (s : FlowState n m) : Prop :=
  ∀ p : PriorCredits n m, readPriorCredits s.linkState.metadata s.nodeState.metadata = .ok p →
    ∀ l, p.serviceCredit l ≤ residualUpper ∧ p.receivingCredit l ≤ residualUpper

/-- What a side of a link holds in the metadata of the states. -/
def held (side : PriorCredits n m → Fin n → ℚ) (s : FlowState n m) (l : Fin n) : ℚ :=
  match (readPriorCredits s.linkState.metadata s.nodeState.metadata :
      Except FlowError (PriorCredits n m)) with
  | .ok p => side p l
  | .error _ => 0

def serviceSide (p : PriorCredits n m) : Fin n → ℚ := holding p.serviceCredit p.carry.service

def receivingSide (p : PriorCredits n m) : Fin n → ℚ := holding p.receivingCredit p.carry.receiving

theorem held_eq {side : PriorCredits n m → Fin n → ℚ} {s : FlowState n m} {p : PriorCredits n m}
    (h : readPriorCredits s.linkState.metadata s.nodeState.metadata = .ok p) (l : Fin n) :
    held side s l = side p l := by
  simp only [held, h]

theorem holding_bounds {residual carry : Fin n → ℚ} (nonneg : ∀ l, 0 ≤ residual l)
    (below : ∀ l, residual l < 1) (whole : WholeCarry carry) (l : Fin n) :
    0 ≤ holding residual carry l ∧ holding residual carry l ≤ 2 := by
  have low := nonneg l
  have high := below l
  unfold holding
  rcases whole l with none | one
  · rw [none]
    push_cast
    constructor <;> linarith
  · rw [one]
    push_cast
    constructor <;> linarith

theorem held_bounds {side : PriorCredits n m → Fin n → ℚ} (s : FlowState n m) (l : Fin n)
    (each : ∀ p : PriorCredits n m, p.Valid → 0 ≤ side p l ∧ side p l ≤ 2) :
    0 ≤ held side s l ∧ held side s l ≤ 2 := by
  cases read : (readPriorCredits s.linkState.metadata s.nodeState.metadata :
      Except FlowError (PriorCredits n m)) with
  | error e => simp [held, read]
  | ok p =>
    rw [held_eq read]
    exact each p (read_prior_credits_valid read)

theorem service_held_bounds (s : FlowState n m) (l : Fin n) :
    0 ≤ held serviceSide s l ∧ held serviceSide s l ≤ 2 :=
  held_bounds s l fun _ valid =>
    holding_bounds valid.service_nonneg valid.service_below valid.service_carry l

theorem receiving_held_bounds (s : FlowState n m) (l : Fin n) :
    0 ≤ held receivingSide s l ∧ held receivingSide s l ≤ 2 :=
  held_bounds s l fun _ valid =>
    holding_bounds valid.receiving_nonneg valid.receiving_below valid.receiving_carry l

section Tick

variable {rust : RustFlowKernel n m} {backend : FlowBackend} {s s' : FlowState n m}
  {i : FlowInput n m} {arrays : FlowArrays n m} {k : TokenTick n m}

theorem Ticked.written_read (t : Ticked rust (i.feed s) i.storageCapacityVehicles arrays k s') :
    readPriorCredits s'.linkState.metadata s'.nodeState.metadata = .ok k.written.credits :=
  t.valid.written.read_prior_credits t.is_written

theorem Ticked.input_capacity (t : Ticked rust (i.feed s) i.storageCapacityVehicles arrays k s')
    (l : Fin n) : k.effectiveCapacity l = i.effectiveCapacity l :=
  t.effective_capacity l

theorem Ticked.service_spend (t : Ticked rust (i.feed s) i.storageCapacityVehicles arrays k s')
    (l : Fin n) : s'.linkState.outflowVehicles l + held serviceSide s' l ≤
      held serviceSide s l + (i.effectiveCapacity l + residualEpsilon) := by
  have before : held serviceSide s l = serviceSide k.prior l := held_eq t.credits l
  obtain ⟨spent, total⟩ : ∃ spent : ℤ, k.outflow k.allocate l = spent :=
    ⟨_, k.outflow_eq_served _ l⟩
  have bound := t.valid.outflow_le_service l
  rw [total] at bound
  have left : k.allocate.remainingService l = k.serviceTokens l - spent := by
    have := TokenTick.Valid.remaining_service_eq (k := k) l
    rw [total] at this
    exact_mod_cast this
  have covered := (t.valid.service_mint l).spend (k.serviceTokens l) spent
    (by exact_mod_cast bound) (le_refl _)
  rw [held_eq t.written_read, before, t.outflow, total, ← t.input_capacity]
  simp only [serviceSide, holding, AuthorityMetadata.credits, TokenTick.written,
    TokenTick.nextMetadata, left]
  exact covered

theorem Ticked.receiving_spend (t : Ticked rust (i.feed s) i.storageCapacityVehicles arrays k s')
    (l : Fin n) : s'.linkState.inflowVehicles l + held receivingSide s' l ≤
      held receivingSide s l + (i.effectiveCapacity l + residualEpsilon) := by
  have before : held receivingSide s l = receivingSide k.prior l := held_eq t.credits l
  obtain ⟨spent, total⟩ : ∃ spent : ℤ, k.inflow k.allocate l = spent :=
    ⟨_, k.inflow_eq_served _ l⟩
  have bound := t.valid.inflow_le_receiving l
  rw [total] at bound
  have left : k.allocate.remainingReceiving l = k.receivingTokens l - spent := by
    have := TokenTick.Valid.remaining_receiving_eq (k := k) l
    rw [total] at this
    exact_mod_cast this
  have covered := (t.valid.receiving_mint l).spend (k.receivingTokens l) spent
    (by exact_mod_cast bound) (k.receiving_tokens_le_minted l)
  rw [held_eq t.written_read, before, t.inflow, total, ← t.input_capacity]
  simp only [receivingSide, holding, AuthorityMetadata.credits, TokenTick.written,
    TokenTick.nextMetadata, left]
  exact covered

theorem Ticked.closed_link (t : Ticked rust (i.feed s) i.storageCapacityVehicles arrays k s')
    (start : Float32Residuals s) {l : Fin n} (shut : i.effectiveCapacity l = 0) :
    s'.linkState.outflowVehicles l = 0 ∧ s'.linkState.inflowVehicles l = 0 := by
  obtain ⟨service, receiving⟩ := start k.prior t.credits l
  have capacity : k.effectiveCapacity l = 0 := (t.input_capacity l).trans shut
  have outflow := t.valid.outflow_le_service l
  have inflow := t.valid.inflow_le_receiving l
  have sent : k.serviceTokens l = 0 := (t.valid.service_mint l).closed service capacity
  have admitted : k.receivingTokens l ≤ 0 :=
    ((t.valid.receiving_mint l).closed receiving capacity) ▸ k.receiving_tokens_le_minted l
  rw [sent, Int.cast_zero] at outflow
  have none_enter : (k.receivingTokens l : ℚ) ≤ 0 := by exact_mod_cast admitted
  rw [t.outflow, t.inflow]
  exact ⟨le_antisymm outflow (TokenTick.Valid.outflow_nonneg l),
    le_antisymm (inflow.trans none_enter) (TokenTick.Valid.inflow_nonneg l)⟩

theorem Ticked.float32_residuals
    (t : Ticked rust (i.feed s) i.storageCapacityVehicles arrays k s') : Float32Residuals s' := by
  intro p read l
  obtain rfl := Except.ok.inj (t.written_read.symm.trans read)
  exact ⟨t.valid.written.service_upper l, t.valid.written.receiving_upper l⟩

theorem flow_tick_float32_residuals (h : flowTick rust backend s i = .ok s') :
    Float32Residuals s' := by
  obtain ⟨_, arrays, k, t⟩ := flow_tick_ok.mp h
  exact t.float32_residuals

end Tick

section Windows

variable {rust : RustFlowKernel n m} {backend : FlowBackend} {s s' : FlowState n m}
  {steps : List (Taken (FlowState n m) (FlowInput n m))}

theorem sum_capacity_slack (l : Fin n) :
    (steps.map fun tick => tick.input.effectiveCapacity l + residualEpsilon).sum =
      (steps.map fun tick => tick.input.effectiveCapacity l).sum +
        residualEpsilon * steps.length := by
  induction steps with
  | nil => simp
  | cons tick steps ih =>
    simp only [List.map_cons, List.sum_cons, ih, List.length_cons]
    push_cast
    ring

theorem paid_window {side : PriorCredits n m → Fin n → ℚ} (paid : FlowState n m → Fin n → ℚ)
    (spend : ∀ {s s' : FlowState n m} {i : FlowInput n m} {arrays k} (l : Fin n),
      Ticked rust (i.feed s) i.storageCapacityVehicles arrays k s' →
        paid s' l + held side s' l ≤ held side s l + (i.effectiveCapacity l + residualEpsilon))
    (bounds : ∀ (s : FlowState n m) l, 0 ≤ held side s l ∧ held side s l ≤ 2)
    (run : Trace (flowTick rust backend) s steps s') (l : Fin n) :
    (steps.map fun tick => paid tick.after l).sum ≤
      (steps.map fun tick => tick.input.effectiveCapacity l).sum + 2 +
        residualEpsilon * steps.length := by
  have bound := run.telescope (I := fun _ => True) (fun s => held side s l)
    (fun tick => paid tick.after l)
    (fun tick => tick.input.effectiveCapacity l + residualEpsilon) trivial
    (fun _ _ _ _ _ => trivial) fun s i s' _ h => by
      obtain ⟨_, arrays, k, t⟩ := flow_tick_ok.mp h
      exact spend l t
  rw [sum_capacity_slack] at bound
  have start := (bounds s l).2
  have finish := (bounds s' l).1
  linarith

end Windows

end Metroflow.Flow
