import Metroflow.Flow.Feasible

namespace Metroflow.Flow

open Metroflow.Lib

variable {n m : ℕ}

def TokenMint.storedResidual (k : TokenMint) : ℚ := min (clearSmall k.nextCredit) residualUpper

theorem clear_small_bounds {x : ℚ} (low : -residualEpsilon ≤ x) (high : x < 1 - residualEpsilon) :
    0 ≤ clearSmall x ∧ clearSmall x < 1 ∧ clearSmall x ≤ x + residualEpsilon := by
  have epsilon : residualEpsilon = 1 / 1000000000 := rfl
  unfold clearSmall
  split
  · exact ⟨le_refl 0, zero_lt_one, by linarith⟩
  · rename_i large
    have positive : 0 ≤ x := by
      by_contra negative
      exact large (abs_le.mpr ⟨low, by linarith⟩)
    exact ⟨positive, by linarith, by linarith⟩

theorem TokenMint.stored_residual_bounds (k : TokenMint) :
    0 ≤ k.storedResidual ∧ k.storedResidual ≤ residualUpper ∧
      k.storedResidual ≤ k.nextCredit + residualEpsilon := by
  obtain ⟨low, high⟩ := k.next_credit_bounds
  obtain ⟨nonneg, _, near⟩ := clear_small_bounds low high
  have upper : (0 : ℚ) ≤ residualUpper := by norm_num [residualUpper]
  exact ⟨le_min nonneg upper, min_le_right _ _, (min_le_left _ _).trans near⟩

theorem unit_residual_ok (mints : Fin n → TokenMint) :
    unitResidualFloat32 (fun l => (mints l).nextCredit) =
      .ok fun l => (mints l).storedResidual := by
  refine bind_ok.mpr ⟨(), raise_if_ok.mpr ?_, rfl⟩
  have inside : ∀ l, 0 ≤ clearSmall (mints l).nextCredit ∧ clearSmall (mints l).nextCredit < 1 := by
    intro l
    obtain ⟨low, high⟩ := (mints l).next_credit_bounds
    exact ⟨(clear_small_bounds low high).1, (clear_small_bounds low high).2.1⟩
  rintro (⟨l, negative⟩ | ⟨l, whole⟩)
  · exact absurd (inside l).1 (not_le.mpr negative)
  · exact absurd (inside l).2 (not_lt.mpr whole)

theorem read_storage_capacity_ok {raw : Option (MetaArray MetaNum)} {queueNow : Fin n → ℚ}
    {storage : Option (Fin n → ℚ)} (h : readStorageCapacity raw queueNow = .ok storage) :
    ∀ capacity, storage = some capacity → ∀ l,
      1 ≤ capacity l ∧ queueNow l ≤ capacity l + vehicleTolerance := by
  intro capacity found l
  unfold readStorageCapacity at h
  split at h
  · cases found
    cases h
  · split at h
    · cases h
    · obtain ⟨_, bound, h⟩ := bind_ok.mp h
      obtain ⟨_, queue, h⟩ := bind_ok.mp h
      obtain rfl := pure_ok.mp h
      obtain rfl := Option.some.inj found
      have small := raise_if_ok.mp bound
      have excess := raise_if_ok.mp queue
      exact ⟨not_lt.mp fun lt => small (.inr ⟨l, lt⟩), not_lt.mp fun lt => excess ⟨l, lt⟩⟩

theorem read_storage_of_vector (capacity queueNow : Fin n → ℚ) (one : ∀ l, 1 ≤ capacity l)
    (fits : ∀ l, queueNow l ≤ capacity l + vehicleTolerance) :
    readStorageCapacity (some (.ofVector capacity)) queueNow = .ok (some capacity) := by
  simp only [readStorageCapacity, MetaArray.exactly_of_vector]
  refine bind_ok.mpr ⟨(), raise_if_ok.mpr ?_, bind_ok.mpr ⟨(), raise_if_ok.mpr ?_, rfl⟩⟩
  · rintro (⟨l, infinite⟩ | ⟨l, small⟩)
    · simp at infinite
    · exact absurd (one l) (not_le.mpr small)
  · rintro ⟨l, excess⟩
    exact absurd (fits l) (not_le.mpr excess)

theorem token_tick_valid (arrays : FlowArrays n m) {link : LinkState n} {node : NodeState n m}
    {raw : Option (MetaArray MetaNum)} {storage : Option (Fin n → ℚ)} {prior : PriorCredits n m}
    {sinkDemand : Fin n → ℤ}
    (stored : readStorageCapacity raw (fun l => max (link.queueVehicles l) 0) = .ok storage)
    (credits : readPriorCredits link.metadata node.metadata = .ok prior)
    (sinks : readSinkDemand node.metadata = .ok sinkDemand) :
    (tokenTick arrays link node storage prior sinkDemand).Valid where
  queue_nonneg _ := le_max_right _ _
  capacity_nonneg _ := le_max_right _ _
  demand_nonneg _ := le_max_right _ _
  flow_nonneg t := by
    simp only [tokenTick]
    split <;> [exact le_max_right _ _; exact le_refl 0]
  supply_nonneg t := by
    simp only [tokenTick]
    split <;> [exact le_max_right _ _; exact le_refl 0]
  sink_nonneg := read_sink_demand_nonneg sinks
  prior := read_prior_credits_valid credits
  stored := read_storage_capacity_ok stored

namespace TokenTick

variable (k : TokenTick n m)

/-- The record a tick hands to the next one. -/
def written : AuthorityMetadata n m :=
  k.nextMetadata (fun l => (k.serviceMint l).storedResidual)
    fun l => (k.receivingMint l).storedResidual

def nextState (s : FlowState n m) (arrays : FlowArrays n m) : FlowState n m where
  linkState := nextLinkState s.linkState (k.nextArrays arrays)
    (k.written.writeLink (withBaseTravelTime s.linkState.metadata arrays))
  nodeState := nextNodeState s.nodeState (k.nextArrays arrays)
    (k.written.writeNode s.nodeState.metadata)

end TokenTick

theorem apply_authority_ok (arrays : FlowArrays n m) {link : LinkState n} {node : NodeState n m}
    {raw : Option (MetaArray MetaNum)} {storage : Option (Fin n → ℚ)} {prior : PriorCredits n m}
    {sinkDemand : Fin n → ℤ} {k : TokenTick n m}
    (stored : readStorageCapacity raw (fun l => max (link.queueVehicles l) 0) = .ok storage)
    (credits : readPriorCredits link.metadata node.metadata = .ok prior)
    (sinks : readSinkDemand node.metadata = .ok sinkDemand)
    (tick : k = tokenTick arrays link node storage prior sinkDemand) :
    applyDiscreteAgentFlowAuthority arrays link node raw =
      .ok (k.nextArrays arrays, k.written) := by
  subst tick
  have fits := (token_tick_valid arrays stored credits sinks).exceeds_storage_eq_false
  refine bind_ok.mpr ⟨storage, stored, bind_ok.mpr ⟨prior, credits, bind_ok.mpr
    ⟨sinkDemand, sinks, bind_ok.mpr ⟨(), raise_if_ok.mpr (by simp [fits]), ?_⟩⟩⟩⟩
  exact bind_ok.mpr ⟨_, unit_residual_ok _, bind_ok.mpr ⟨_, unit_residual_ok _, rfl⟩⟩

/-- One accepted discrete tick: what it read, what it allocated and what it wrote. -/
structure Ticked (rust : RustFlowKernel n m) (s : FlowState n m) (raw : Option (MetaArray MetaNum))
    (arrays : FlowArrays n m) (k : TokenTick n m) (s' : FlowState n m) : Prop where
  baseline : computeBaselineFlowArrays rust s.linkState s.nodeState .baseline = .ok arrays
  stored : readStorageCapacity raw (fun l => max (s.linkState.queueVehicles l) 0) =
    .ok k.storageCapacity
  credits : readPriorCredits s.linkState.metadata s.nodeState.metadata = .ok k.prior
  sinks : readSinkDemand s.nodeState.metadata = .ok k.sinkDemand
  tick : k = tokenTick arrays s.linkState s.nodeState k.storageCapacity k.prior k.sinkDemand
  after : s' = k.nextState s arrays

theorem update_link_node_flow_ok {rust : RustFlowKernel n m} {s s' : FlowState n m}
    {backend : FlowBackend} {raw : Option (MetaArray MetaNum)} :
    updateLinkNodeFlow rust s backend true raw = .ok s' ↔
      backend ≠ .rustCpu ∧ ∃ arrays k, Ticked rust s raw arrays k s' := by
  constructor
  · intro h
    obtain ⟨_, allowed, h⟩ := bind_ok.mp h
    obtain ⟨_, _, h⟩ := bind_ok.mp h
    obtain ⟨arrays, baseline, h⟩ := bind_ok.mp h
    obtain ⟨⟨next, authority⟩, applied, h⟩ := bind_ok.mp h
    have kept := applied
    obtain ⟨storage, stored, applied⟩ := bind_ok.mp applied
    obtain ⟨prior, credits, applied⟩ := bind_ok.mp applied
    obtain ⟨sinkDemand, sinks, _⟩ := bind_ok.mp applied
    have same := (apply_authority_ok arrays stored credits sinks rfl).symm.trans kept
    obtain ⟨rfl, rfl⟩ := Prod.mk.inj (Except.ok.inj same)
    obtain rfl := pure_ok.mp h
    refine ⟨fun named => raise_if_ok.mp allowed ⟨rfl, named⟩, arrays,
      tokenTick arrays s.linkState s.nodeState storage prior sinkDemand,
      ⟨baseline, stored, credits, sinks, rfl, rfl⟩⟩
  · rintro ⟨allowed, arrays, k, t⟩
    refine bind_ok.mpr ⟨(), raise_if_ok.mpr (fun c => allowed c.2), bind_ok.mpr
      ⟨(), raise_if_ok.mpr (by simp), bind_ok.mpr ⟨arrays, t.baseline, bind_ok.mpr
        ⟨_, apply_authority_ok arrays t.stored t.credits t.sinks t.tick, ?_⟩⟩⟩⟩
    exact pure_ok.mpr t.after.symm

namespace Ticked

variable {rust : RustFlowKernel n m} {s s' : FlowState n m} {raw : Option (MetaArray MetaNum)}
  {arrays : FlowArrays n m} {k : TokenTick n m}

theorem valid (t : Ticked rust s raw arrays k s') : k.Valid := by
  rw [t.tick]
  exact token_tick_valid arrays t.stored t.credits t.sinks

theorem queue_now (t : Ticked rust s raw arrays k s') (l : Fin n) :
    k.queueNow l = s.linkState.queueVehicles l := by
  rw [t.tick]
  exact max_eq_left (s.linkState.queue_nonneg l)

theorem effective_capacity (t : Ticked rust s raw arrays k s') (l : Fin n) :
    k.effectiveCapacity l = s.linkState.effectiveCapacityVehicles l := by
  rw [t.tick]
  exact max_eq_left (s.linkState.effective_capacity_nonneg l)

theorem turn_demand (t : Ticked rust s raw arrays k s') (i : Fin m) :
    k.turnDemand i = s.nodeState.turnDemand i := by
  rw [t.tick]
  exact max_eq_left (s.nodeState.demand_nonneg i)

theorem from_idx (t : Ticked rust s raw arrays k s') : k.fromIdx = s.nodeState.turnFromLinkIndex := by
  rw [t.tick]
  rfl

theorem to_idx (t : Ticked rust s raw arrays k s') : k.toIdx = s.nodeState.turnToLinkIndex := by
  rw [t.tick]
  rfl

theorem queue_next (t : Ticked rust s raw arrays k s') :
    s'.linkState.queueVehicles = k.queueNext k.allocate := by
  rw [t.after]
  rfl

theorem inflow (t : Ticked rust s raw arrays k s') :
    s'.linkState.inflowVehicles = k.inflow k.allocate := by
  rw [t.after]
  rfl

theorem outflow (t : Ticked rust s raw arrays k s') :
    s'.linkState.outflowVehicles = k.outflow k.allocate := by
  rw [t.after]
  rfl

theorem turn_flow (t : Ticked rust s raw arrays k s') (i : Fin m) :
    s'.nodeState.turnFlow i = k.allocate.realizedTurn i := by
  rw [t.after]
  rfl

theorem sink_flow (t : Ticked rust s raw arrays k s') :
    s'.nodeState.metadata.runtimeSinkFlowByLinkIndex =
      some (.ofVector fun l => (k.allocate.sinkFlow l : ℚ)) := by
  rw [t.after]
  rfl

end Ticked

section Errors

/-- What the flow update can find wrong with the metadata it reads. -/
inductive ReadFault : FlowError → Prop
  | shape (key : MetaKey) (size : ℕ) : ReadFault (.shape key size)
  | required (key : MetaKey) : ReadFault (.required key)
  | notFinite (key : MetaKey) : ReadFault (.notFinite key)
  | negative (key : MetaKey) : ReadFault (.negative key)
  | notBelowOne (key : MetaKey) : ReadFault (.notBelowOne key)
  | aboveOne (key : MetaKey) : ReadFault (.aboveOne key)
  | fractionalTokens (key : MetaKey) : ReadFault (.fractionalTokens key)
  | sinkFlowMismatch : ReadFault .sinkFlowMismatch

theorem metadata_vector_fault {raw : Option (MetaArray MetaNum)} {key : MetaKey} {size : ℕ}
    {rule : VectorRule} {e : FlowError} (h : metadataVector raw key size rule = .error e) :
    ReadFault e := by
  unfold metadataVector at h
  split at h
  · split at h
    · obtain rfl := Except.error.inj h
      exact .required key
    · cases h
  · split at h
    · obtain rfl := Except.error.inj h
      exact .shape key size
    · rcases bind_error.mp h with finite | ⟨_, _, h⟩
      · obtain ⟨_, rfl⟩ := raise_if_error.mp finite
        exact .notFinite key
      · rcases bind_error.mp h with sign | ⟨_, _, h⟩
        · obtain ⟨_, rfl⟩ := raise_if_error.mp sign
          exact .negative key
        · rcases bind_error.mp h with bound | ⟨_, _, h⟩
          · unfold checkUpperBound at bound
            split at bound
            · cases bound
            · obtain ⟨_, rfl⟩ := raise_if_error.mp bound
              exact .notBelowOne key
            · obtain ⟨_, rfl⟩ := raise_if_error.mp bound
              exact .aboveOne key
          · cases h

theorem require_whole_tokens_fault {key : MetaKey} {size : ℕ} {values : Fin size → ℚ}
    {e : FlowError} (h : requireWholeTokens key values = .error e) : ReadFault e := by
  obtain ⟨_, rfl⟩ := raise_if_error.mp h
  exact .fractionalTokens key

theorem read_token_carry_fault {link : LinkMetadata} {node : NodeMetadata} {e : FlowError}
    (h : (readTokenCarry link node : Except FlowError (TokenCarry n)) = .error e) :
    ReadFault e := by
  iterate 6
    rcases bind_error.mp h with read | ⟨_, _, h⟩
    · exact metadata_vector_fault read
  iterate 6
    rcases bind_error.mp h with whole | ⟨_, _, h⟩
    · exact require_whole_tokens_fault whole
  rcases bind_error.mp h with differ | ⟨_, _, h⟩
  · obtain ⟨_, rfl⟩ := raise_if_error.mp differ
    exact .sinkFlowMismatch
  · cases h

theorem read_prior_credits_fault {link : LinkMetadata} {node : NodeMetadata} {e : FlowError}
    (h : (readPriorCredits link node : Except FlowError (PriorCredits n m)) = .error e) :
    ReadFault e := by
  iterate 4
    rcases bind_error.mp h with read | ⟨_, _, h⟩
    · exact metadata_vector_fault read
  rcases bind_error.mp h with carry | ⟨_, _, h⟩
  · unfold readPriorCarry at carry
    split at carry
    · exact read_token_carry_fault carry
    · cases carry
  · cases h

theorem read_sink_demand_fault {node : NodeMetadata} {e : FlowError}
    (h : (readSinkDemand node : Except FlowError (Fin n → ℤ)) = .error e) : ReadFault e := by
  rcases bind_error.mp h with read | ⟨_, _, h⟩
  · exact metadata_vector_fault read
  · cases h

theorem compute_baseline_fault {rust : RustFlowKernel n m} {link : LinkState n}
    {node : NodeState n m} {e : FlowError}
    (h : computeBaselineFlowArrays rust link node .baseline = .error e) : ReadFault e := by
  have read : ∀ {α : Type} {raw : Option (MetaArray α)} {key : MetaKey} {default : α},
      readTurnMetadata raw key m default = .error e → ReadFault e := by
    intro α raw key default h
    unfold readTurnMetadata at h
    split at h
    · cases h
    · split at h
      · obtain rfl := Except.error.inj h
        exact .shape key m
      · cases h
  rcases bind_error.mp h with priority | ⟨_, _, h⟩
  · exact read priority
  · rcases bind_error.mp h with forbidden | ⟨_, _, h⟩
    · exact read forbidden
    · rcases bind_error.mp h with cost | ⟨_, _, h⟩
      · unfold readLinkBaseTravelTime at cost
        split at cost
        · cases cost
        · split at cost
          · obtain rfl := Except.error.inj cost
            exact .shape _ n
          · cases cost
      · cases h

theorem update_link_node_flow_error {rust : RustFlowKernel n m} {s : FlowState n m}
    {backend : FlowBackend} {raw : Option (MetaArray MetaNum)} {e : FlowError}
    (h : updateLinkNodeFlow rust s backend true raw = .error e) :
    e = .rustDiscreteAuthority ∨ ReadFault e ∨
      readStorageCapacity raw (fun l => max (s.linkState.queueVehicles l) 0) = .error e := by
  rcases bind_error.mp h with backend | ⟨_, _, h⟩
  · exact .inl (raise_if_error.mp backend).2.symm
  · rcases bind_error.mp h with authority | ⟨_, _, h⟩
    · simp at authority
    · right
      rcases bind_error.mp h with baseline | ⟨arrays, _, h⟩
      · exact .inl (compute_baseline_fault baseline)
      · rcases bind_error.mp h with applied | ⟨_, _, h⟩
        · cases stored : readStorageCapacity raw fun l => max (s.linkState.queueVehicles l) 0 with
          | error e' =>
            rw [applyDiscreteAgentFlowAuthority, stored] at applied
            obtain rfl := Except.error.inj applied
            exact .inr rfl
          | ok storage =>
            left
            cases credits : (readPriorCredits s.linkState.metadata s.nodeState.metadata :
                Except FlowError (PriorCredits n m)) with
            | error e' =>
              rw [applyDiscreteAgentFlowAuthority, stored, credits] at applied
              obtain rfl := Except.error.inj applied
              exact read_prior_credits_fault credits
            | ok prior =>
              cases sinks : (readSinkDemand s.nodeState.metadata :
                  Except FlowError (Fin n → ℤ)) with
              | error e' =>
                rw [applyDiscreteAgentFlowAuthority, stored, credits, sinks] at applied
                obtain rfl := Except.error.inj applied
                exact read_sink_demand_fault sinks
              | ok sinkDemand =>
                rw [apply_authority_ok arrays stored credits sinks rfl] at applied
                cases applied
        · cases h

end Errors

end Metroflow.Flow
