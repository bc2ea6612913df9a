import Metroflow.Flow.Allocation

namespace Metroflow.Flow

open Metroflow.Lib

variable {n m : ℕ}

/-- What the caller sets between two discrete updates: the vehicles admitted to
the queues, the demands, the capacities and the storage bound. -/
structure FlowInput (n m : ℕ) where
  admitted : Fin n → ℚ
  turnDemand : Fin m → ℚ
  sinkDemand : Option (MetaArray MetaNum)
  capacityVehPerTick : Fin n → ℚ
  incidentCapacityMultiplier : Fin n → ℚ
  storageCapacityVehicles : Option (MetaArray MetaNum)
  admitted_nonneg : ∀ l, 0 ≤ admitted l
  demand_nonneg : ∀ t, 0 ≤ turnDemand t
  capacity_nonneg : ∀ l, 0 ≤ capacityVehPerTick l
  multiplier_unit : ∀ l, 0 ≤ incidentCapacityMultiplier l ∧ incidentCapacityMultiplier l ≤ 1

namespace FlowInput

def effectiveCapacity (i : FlowInput n m) (l : Fin n) : ℚ :=
  i.capacityVehPerTick l * i.incidentCapacityMultiplier l

/-- The states of the next call: queues and metadata are those of the last one. -/
def feed (i : FlowInput n m) (s : FlowState n m) : FlowState n m where
  linkState :=
    { s.linkState with
      queueVehicles := fun l => s.linkState.queueVehicles l + i.admitted l
      capacityVehPerTick := i.capacityVehPerTick
      incidentCapacityMultiplier := i.incidentCapacityMultiplier
      queue_nonneg := fun l => add_nonneg (s.linkState.queue_nonneg l) (i.admitted_nonneg l)
      capacity_nonneg := i.capacity_nonneg
      multiplier_unit := i.multiplier_unit }
  nodeState :=
    { s.nodeState with
      turnDemand := i.turnDemand
      metadata := { s.nodeState.metadata with runtimeSinkDemandByLinkIndex := i.sinkDemand }
      demand_nonneg := i.demand_nonneg }

/-- The call's own preconditions: a sink demand and a storage bound that can be read. -/
structure Accepted (i : FlowInput n m) (s : FlowState n m) : Prop where
  sinks : ∃ demand : Fin n → ℤ, readSinkDemand (i.feed s).nodeState.metadata = .ok demand
  stored : ∃ storage, readStorageCapacity i.storageCapacityVehicles
    (fun l => max ((i.feed s).linkState.queueVehicles l) 0) = .ok storage

end FlowInput

/-- One discrete update of a run that feeds each call with the last one's result. -/
def flowTick (rust : RustFlowKernel n m) (backend : FlowBackend) (s : FlowState n m)
    (i : FlowInput n m) : Except FlowError (FlowState n m) :=
  updateLinkNodeFlow rust (i.feed s) backend true i.storageCapacityVehicles

/-- The errors that blame what this call was given, not what an earlier call wrote. -/
def FlowError.ofInput : FlowError → Bool
  | .shape .sinkDemandByLinkIndex _ => true
  | .notFinite .sinkDemandByLinkIndex => true
  | .negative .sinkDemandByLinkIndex => true
  | .storageShape => true
  | .storageBound => true
  | .queueExceedsStorage => true
  | _ => false

namespace AuthorityMetadata

/-- What every written authority record satisfies. -/
structure Valid (a : AuthorityMetadata n m) : Prop where
  service_nonneg : ∀ l, 0 ≤ a.serviceResidual l
  service_upper : ∀ l, a.serviceResidual l ≤ residualUpper
  receiving_nonneg : ∀ l, 0 ≤ a.receivingResidual l
  receiving_upper : ∀ l, a.receivingResidual l ≤ residualUpper
  service_carry : ∀ l, a.serviceTokenCarry l = 0 ∨ a.serviceTokenCarry l = 1
  receiving_carry : ∀ l, a.receivingTokenCarry l = 0 ∨ a.receivingTokenCarry l = 1
  service_tokens : ∀ l, 0 ≤ a.serviceTokens l
  receiving_tokens : ∀ l, 0 ≤ a.receivingTokens l
  sink_flow : ∀ l, 0 ≤ a.sinkFlow l

/-- The flow states hold the record that the last authority wrote. -/
structure Written (a : AuthorityMetadata n m) (s : FlowState n m) : Prop where
  link : ∃ old, s.linkState.metadata = a.writeLink old
  node : ∃ old, s.nodeState.metadata = a.writeNode old

variable {a : AuthorityMetadata n m} {s : FlowState n m}

theorem Written.feed (h : a.Written s) (i : FlowInput n m) : a.Written (i.feed s) := by
  obtain ⟨old, node⟩ := h.node
  refine ⟨h.link, { old with runtimeSinkDemandByLinkIndex := i.sinkDemand }, ?_⟩
  simp only [FlowInput.feed, node]
  rfl

theorem whole_carry (carry : Fin n → ℚ) (h : ∀ l, carry l = 0 ∨ carry l = 1) (key : MetaKey) :
    requireWholeTokens key carry = .ok () := by
  rw [require_whole_tokens_ok]
  intro l
  rcases h l with zero | one
  · rw [zero, show (0 : ℚ) = ((0 : ℤ) : ℚ) by norm_num, rint_int]
    norm_num [vehicleTolerance]
  · rw [one, show (1 : ℚ) = ((1 : ℤ) : ℚ) by norm_num, rint_int]
    norm_num [vehicleTolerance]

theorem carry_admits (carry : Fin n → ℚ) (h : ∀ l, carry l = 0 ∨ carry l = 1) (need : Bool) :
    VectorRule.Admits { required := need, upper := .atMostOne } carry where
  nonneg _ l := by rcases h l with value | value <;> simp [value]
  below same := by simp at same
  atMost _ l := by rcases h l with value | value <;> norm_num [value, vehicleTolerance]

theorem token_admits (tokens : Fin n → ℤ) (h : ∀ l, 0 ≤ tokens l) :
    VectorRule.Admits { required := true } fun l => (tokens l : ℚ) where
  nonneg _ l := by exact_mod_cast h l
  below same := by simp at same
  atMost same := by simp at same

theorem residual_admits (residual : Fin n → ℚ) (need : Bool) (nonneg : ∀ l, 0 ≤ residual l)
    (upper : ∀ l, residual l ≤ residualUpper) :
    VectorRule.Admits { required := need, upper := .belowOne } residual where
  nonneg _ := nonneg
  below _ l := lt_of_le_of_lt (upper l) (by norm_num [residualUpper])
  atMost same := by simp at same

theorem signed_admits {p : ℕ} (credit : Fin p → ℚ) (need : Bool) :
    VectorRule.Admits { allowNegative := true, required := need } credit where
  nonneg same := by simp at same
  below same := by simp at same
  atMost same := by simp at same

theorem Valid.read_token_carry (h : a.Valid) (oldLink : LinkMetadata) (oldNode : NodeMetadata) :
    readTokenCarry (a.writeLink oldLink) (a.writeNode oldNode) =
      .ok ⟨a.serviceTokenCarry, a.receivingTokenCarry⟩ := by
  refine bind_ok.mpr ⟨_, metadata_vector_of_vector (carry_admits _ h.service_carry _), ?_⟩
  refine bind_ok.mpr ⟨_, metadata_vector_of_vector (carry_admits _ h.receiving_carry _), ?_⟩
  refine bind_ok.mpr ⟨_, metadata_vector_of_vector (token_admits _ h.service_tokens), ?_⟩
  refine bind_ok.mpr ⟨_, metadata_vector_of_vector (token_admits _ h.receiving_tokens), ?_⟩
  refine bind_ok.mpr ⟨_, metadata_vector_of_vector (token_admits _ h.sink_flow), ?_⟩
  refine bind_ok.mpr ⟨_, metadata_vector_of_vector (token_admits _ h.sink_flow), ?_⟩
  refine bind_ok.mpr ⟨(), whole_carry _ h.service_carry _, ?_⟩
  refine bind_ok.mpr ⟨(), whole_carry _ h.receiving_carry _, ?_⟩
  refine bind_ok.mpr ⟨(), whole_tokens_of_int _, bind_ok.mpr ⟨(), whole_tokens_of_int _, ?_⟩⟩
  refine bind_ok.mpr ⟨(), whole_tokens_of_int _, bind_ok.mpr ⟨(), whole_tokens_of_int _, ?_⟩⟩
  exact bind_ok.mpr ⟨(), raise_if_ok.mpr (by simp), rfl⟩

theorem Valid.read_prior_credits (h : a.Valid) (w : a.Written s) :
    readPriorCredits s.linkState.metadata s.nodeState.metadata = .ok a.credits := by
  obtain ⟨oldLink, link⟩ := w.link
  obtain ⟨oldNode, node⟩ := w.node
  rw [link, node]
  refine bind_ok.mpr ⟨_, metadata_vector_of_vector (signed_admits _ _), ?_⟩
  refine bind_ok.mpr ⟨_, metadata_vector_of_vector
    (residual_admits _ _ h.service_nonneg h.service_upper), ?_⟩
  refine bind_ok.mpr ⟨_, metadata_vector_of_vector
    (residual_admits _ _ h.receiving_nonneg h.receiving_upper), ?_⟩
  refine bind_ok.mpr ⟨_, metadata_vector_of_vector (signed_admits _ _), ?_⟩
  exact bind_ok.mpr ⟨_, h.read_token_carry oldLink oldNode, rfl⟩

end AuthorityMetadata

theorem TokenMint.next_carry_unit (k : TokenMint) {remaining : ℤ} (h : 0 ≤ remaining) :
    k.nextCarry remaining = 0 ∨ k.nextCarry remaining = 1 := by
  unfold nextCarry
  split
  · have unit : min remaining 1 = 0 ∨ min remaining 1 = 1 := by omega
    rcases unit with zero | one
    · exact .inl (by exact_mod_cast zero)
    · exact .inr (by exact_mod_cast one)
  · exact .inl rfl

theorem TokenTick.Valid.written {k : TokenTick n m} (h : k.Valid) : k.written.Valid where
  service_nonneg l := (k.serviceMint l).stored_residual_bounds.1
  service_upper l := (k.serviceMint l).stored_residual_bounds.2.1
  receiving_nonneg l := (k.receivingMint l).stored_residual_bounds.1
  receiving_upper l := (k.receivingMint l).stored_residual_bounds.2.1
  service_carry l := (k.serviceMint l).next_carry_unit
    (k.allocate_spec.balanced.covered (.service l) (h.budget_nonneg _))
  receiving_carry l := (k.receivingMint l).next_carry_unit
    (k.allocate_spec.balanced.covered (.receiving l) (h.budget_nonneg _))
  service_tokens := h.service_tokens_nonneg
  receiving_tokens := h.receiving_tokens_nonneg
  sink_flow l := k.allocate_spec.balanced.counted (.sink l)

/-- The states after a discrete tick: a valid authority record beside turn and
travel time metadata that can be read. -/
structure ReadableState (s : FlowState n m) : Prop where
  written : ∃ a : AuthorityMetadata n m, a.Valid ∧ a.Written s
  priority : ∃ v, readTurnMetadata s.nodeState.metadata.turnBasePriority .turnBasePriority m 1 =
    .ok v
  forbidden : ∃ v, readTurnMetadata s.nodeState.metadata.turnIsForbidden .turnIsForbidden m false =
    .ok v
  baseCost : ∃ v, readLinkBaseTravelTime s.linkState = .ok v

theorem Ticked.is_written {rust : RustFlowKernel n m} {s s' : FlowState n m}
    {raw : Option (MetaArray MetaNum)} {arrays : FlowArrays n m} {k : TokenTick n m}
    (t : Ticked rust s raw arrays k s') : k.written.Written s' := by
  rw [t.after]
  exact ⟨⟨withBaseTravelTime s.linkState.metadata arrays, rfl⟩, ⟨s.nodeState.metadata, rfl⟩⟩

theorem Ticked.readable {rust : RustFlowKernel n m} {s s' : FlowState n m}
    {raw : Option (MetaArray MetaNum)} {arrays : FlowArrays n m} {k : TokenTick n m}
    (t : Ticked rust s raw arrays k s') : ReadableState s' := by
  obtain ⟨priority, forbidden, baseCost, hp, hf, _, _⟩ :=
    compute_baseline_flow_arrays_ok t.baseline
  refine ⟨⟨_, t.valid.written, t.is_written⟩, ⟨priority, ?_⟩, ⟨forbidden, ?_⟩, ?_⟩
  · rw [t.after]
    exact hp
  · rw [t.after]
    exact hf
  · refine ⟨arrays.baseTravelTimeCost, ?_⟩
    rw [t.after]
    simp [TokenTick.nextState, readLinkBaseTravelTime, nextLinkState, AuthorityMetadata.writeLink, withBaseTravelTime,
      MetaArray.broadcast]

theorem ReadableState.feed {s : FlowState n m} (h : ReadableState s) (i : FlowInput n m) :
    ReadableState (i.feed s) := by
  obtain ⟨a, valid, written⟩ := h.written
  exact ⟨⟨a, valid, written.feed i⟩, h.priority, h.forbidden, h.baseCost⟩

theorem flow_tick_ok {rust : RustFlowKernel n m} {backend : FlowBackend} {s s' : FlowState n m}
    {i : FlowInput n m} : flowTick rust backend s i = .ok s' ↔ backend ≠ .rustCpu ∧
      ∃ arrays k, Ticked rust (i.feed s) i.storageCapacityVehicles arrays k s' :=
  update_link_node_flow_ok

theorem read_storage_error {raw : Option (MetaArray MetaNum)} {queueNow : Fin n → ℚ}
    {e : FlowError} (h : readStorageCapacity raw queueNow = .error e) : e.ofInput = true := by
  unfold readStorageCapacity at h
  split at h
  · cases h
  · split at h
    · obtain rfl := Except.error.inj h
      rfl
    · rcases bind_error.mp h with first | ⟨_, _, h⟩
      · obtain ⟨_, rfl⟩ := raise_if_error.mp first
        rfl
      · rcases bind_error.mp h with second | ⟨_, _, h⟩
        · obtain ⟨_, rfl⟩ := raise_if_error.mp second
          rfl
        · cases h

theorem read_sink_demand_error {node : NodeMetadata} {e : FlowError}
    (h : (readSinkDemand node : Except FlowError (Fin n → ℤ)) = .error e) : e.ofInput = true := by
  rcases bind_error.mp h with h | ⟨_, _, h⟩
  · unfold metadataVector at h
    split at h
    · simp at h
    · split at h
      · obtain rfl := Except.error.inj h
        rfl
      · rcases bind_error.mp h with first | ⟨_, _, h⟩
        · obtain ⟨_, rfl⟩ := raise_if_error.mp first
          rfl
        · rcases bind_error.mp h with second | ⟨_, _, h⟩
          · obtain ⟨_, rfl⟩ := raise_if_error.mp second
            rfl
          · rcases bind_error.mp h with third | ⟨_, _, h⟩
            · cases third
            · cases h
  · cases h

theorem ReadableState.flow_tick (rust : RustFlowKernel n m) {backend : FlowBackend}
    {s : FlowState n m} (h : ReadableState s) (i : FlowInput n m) (allowed : backend ≠ .rustCpu) :
    (∃ s', flowTick rust backend s i = .ok s' ∧ i.Accepted s) ∨
      ∃ e, flowTick rust backend s i = .error e ∧ e.ofInput = true ∧ ¬ i.Accepted s := by
  obtain ⟨⟨a, valid, written⟩, ⟨priority, hp⟩, ⟨forbidden, hf⟩, ⟨baseCost, hb⟩⟩ := h.feed i
  have credits := valid.read_prior_credits written
  obtain ⟨arrays, baseline⟩ : ∃ arrays, computeBaselineFlowArrays rust (i.feed s).linkState
      (i.feed s).nodeState .baseline = .ok arrays :=
    ⟨_, bind_ok.mpr ⟨_, hp, bind_ok.mpr ⟨_, hf, bind_ok.mpr ⟨_, hb, rfl⟩⟩⟩⟩
  have reduce : ∀ r, applyDiscreteAgentFlowAuthority arrays (i.feed s).linkState (i.feed s).nodeState
      i.storageCapacityVehicles = .error r → flowTick rust backend s i = .error r := by
    intro r refused
    refine bind_error.mpr (.inr ⟨(), raise_if_ok.mpr fun c => allowed c.2, ?_⟩)
    refine bind_error.mpr (.inr ⟨(), raise_if_ok.mpr (by simp), ?_⟩)
    exact bind_error.mpr (.inr ⟨_, baseline, bind_error.mpr (.inl refused)⟩)
  cases stored : readStorageCapacity i.storageCapacityVehicles
      (fun l => max ((i.feed s).linkState.queueVehicles l) 0) with
  | error e =>
    refine .inr ⟨e, reduce e (bind_error.mpr (.inl stored)), read_storage_error stored, ?_⟩
    rintro ⟨_, storage, found⟩
    cases stored.symm.trans found
  | ok storage =>
    cases sinks : (readSinkDemand (i.feed s).nodeState.metadata :
        Except FlowError (Fin n → ℤ)) with
    | error e =>
      refine .inr ⟨e, reduce e ?_, read_sink_demand_error sinks, ?_⟩
      · exact bind_error.mpr (.inr ⟨_, stored, bind_error.mpr (.inr ⟨_, credits,
          bind_error.mpr (.inl sinks)⟩)⟩)
      · rintro ⟨⟨demand, found⟩, _⟩
        cases sinks.symm.trans found
    | ok demand =>
      exact .inl ⟨_, flow_tick_ok.mpr ⟨allowed, arrays,
        tokenTick arrays (i.feed s).linkState (i.feed s).nodeState storage a.credits demand,
        ⟨baseline, stored, credits, sinks, rfl, rfl⟩⟩, ⟨demand, sinks⟩, storage, stored⟩

theorem trace_readable {rust : RustFlowKernel n m} {backend : FlowBackend} {s s' : FlowState n m}
    {steps : List (Taken (FlowState n m) (FlowInput n m))}
    (run : Trace (flowTick rust backend) s steps s') (ran : steps ≠ []) :
    backend ≠ .rustCpu ∧ ReadableState s' := by
  induction run with
  | done s => exact absurd rfl ran
  | @next s mid s' i rest first tail ih =>
    cases rest with
    | nil =>
      cases tail
      obtain ⟨allowed, arrays, k, t⟩ := flow_tick_ok.mp first
      exact ⟨allowed, t.readable⟩
    | cons taken rest => exact ih (by simp)

def followState : FlowState 2 1 := ⟨followLink, followNode⟩

/-- The followers ask again while one vehicle wants to leave the next link. -/
def followInput : FlowInput 2 1 where
  admitted _ := 0
  turnDemand _ := 1
  sinkDemand := some (.ofVector ![0, 1])
  capacityVehPerTick _ := 2
  incidentCapacityMultiplier _ := 1
  storageCapacityVehicles := some (.ofVector ![3, 3])
  admitted_nonneg _ := le_refl 0
  demand_nonneg _ := zero_le_one
  capacity_nonneg := follow_capacity
  multiplier_unit _ := ⟨zero_le_one, le_refl 1⟩

end Metroflow.Flow
