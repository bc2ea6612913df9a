import Metroflow.Flow.Closure
import Metroflow.Sim.Coherence
import Metroflow.Sim.Lifecycle
import Metroflow.Sim.Storage
import Metroflow.Timing.State

namespace Metroflow.Timing.Invariants

open Metroflow.Lib Metroflow.City Metroflow.Flow Metroflow.Routing Metroflow.Sim Metroflow.Demand

variable {p n m cap : ℕ}

/-- A value among the details of a violation. -/
inductive Detail where
  | int (value : ℤ)
  | float (value : MetaNum)
  | text (value : String)
  | shape (sizes : List ℕ)
  | ids (values : List ℤ)
  | counts (values : List (String × ℕ))
  deriving DecidableEq, Repr

abbrev Violation := InvariantViolation Detail

def violationOf (check code message : String) (details : List (String × Detail)) : Violation where
  code := code
  checkName := some check
  message := message
  details := details

def violationIf (found : Prop) [Decidable found] (violation : Violation) : List Violation :=
  if found then [violation] else []

/-- One violation for the entries that a mask flags, from their number and the first of them. -/
def flagged (mask : Fin n → Bool) (violation : ℕ → Fin n → Violation) : List Violation :=
  match (List.finRange n).find? mask with
  | none => []
  | some first => [violation ((List.finRange n).countP mask) first]

def MetaArray.shape {α : Type} : MetaArray α → List ℕ
  | .scalar _ => []
  | .vector xs => [xs.length]

section Checks

/-- The staged counts that the conservation check reconciles. -/
structure ConservationSnapshot where
  generatedTotal : ℕ
  pendingTripRequests : ℕ
  activeAgents : ℕ
  completedTripsTotal : ℕ
  failedTripsTotal : ℕ
  deriving DecidableEq, Repr

def ConservationSnapshot.reconciledTotal (s : ConservationSnapshot) : ℕ :=
  s.pendingTripRequests + s.activeAgents + s.completedTripsTotal + s.failedTripsTotal

def checkConservationHook (s : ConservationSnapshot) (tolerance : ℕ) : List Violation :=
  let delta : ℤ := s.generatedTotal - s.reconciledTotal
  violationIf (¬ |delta| ≤ tolerance) {
    code := "conservation_mismatch"
    checkName := some "conservation"
    message := "Generated trip total does not reconcile with staged counts"
    details := [("generated_total", .int s.generatedTotal),
      ("reconciled_total", .int s.reconciledTotal), ("delta", .int delta),
      ("tolerance", .int tolerance)] }

def checkNonNegativeQueue (queueValues : Fin n → ℚ) : List Violation :=
  flagged (fun l => decide (queueValues l < 0)) fun count first => {
    code := "negative_queue_detected"
    checkName := some "non_negative_queue"
    message := "Queue values must remain non-negative"
    details := [("field_name", .text "queue_vehicles"), ("negative_count", .int count),
      ("first_negative_index", .int first),
      ("min_value", .float (.finite (((List.finRange n).map queueValues).foldl min 0)))] }

def checkFiniteLinkStorage (queue : Fin n → ℚ) (storage : MetaArray MetaNum) : List Violation :=
  match storage.exactly n with
  | none => [violationOf "finite_link_storage" "finite_link_storage_shape_mismatch"
      "Spatial link storage must match the one-dimensional link queue"
      [("queue_shape", .shape [n]), ("storage_shape", .shape (MetaArray.shape storage))]]
  | some storage =>
    match flagged (fun l => !(storage l).isFinite || decide ((storage l).value < 1))
      fun count first => violationOf "finite_link_storage" "finite_link_storage_invalid"
        "Spatial link storage must be finite and at least one vehicle"
        [("invalid_count", .int count), ("first_link_index", .int first),
          ("first_storage_capacity", .float (storage first))] with
    | violation :: _ => [violation]
    | [] => flagged (fun l => decide ((storage l).value + vehicleTolerance < queue l))
        fun count first => violationOf "finite_link_storage" "finite_link_storage_exceeded"
          "Spatial link occupancy must not exceed finite vehicle storage"
          [("exceeded_count", .int count), ("first_link_index", .int first),
            ("queue_vehicles", .float (.finite (queue first))),
            ("storage_capacity_vehicles", .float (storage first)),
            ("tolerance", .float (.finite vehicleTolerance))]

/-- The flows of the links against both their capacities, and the flags against the flows. -/
def checkCapacityViolationFlags (outflow inflow : Fin n → ℚ) (capacity receiving : Fin n → MetaNum)
    (flags : Fin n → Bool) : List Violation :=
  let infinite := fun values : Fin n → MetaNum =>
    (List.finRange n).countP fun l => !(values l).isFinite
  let counts := [("effective_capacity_values", infinite capacity),
    ("receiving_capacity_values", infinite receiving)].filter fun item => item.2 ≠ 0
  if counts ≠ [] then
    [violationOf "capacity_flags" "non_finite_capacity_authority"
      "Capacity authority and realized flow must be finite" [("non_finite_counts", .counts counts)]]
  else
    let outbound := fun l => decide ((capacity l).value + vehicleTolerance < outflow l)
    let inbound := fun l => decide ((receiving l).value + vehicleTolerance < inflow l)
    flagged (fun l => flags l != (outbound l || inbound l))
      (fun count first => violationOf "capacity_flags" "capacity_flag_mask_mismatch"
        "Per-link capacity flags must match source or receiving token exceedances"
        [("mismatch_count", .int count), ("first_mismatch_index", .int first),
          ("tolerance", .float (.finite vehicleTolerance))]) ++
    flagged (fun l => outbound l || inbound l) fun count first => violationOf "capacity_flags"
      "capacity_exceeded" "Flow must not exceed source-service or receiving capacity"
      [("exceed_count", .int count),
        ("outbound_exceed_count", .int ((List.finRange n).countP outbound)),
        ("inbound_exceed_count", .int ((List.finRange n).countP inbound)),
        ("first_exceed_index", .int first), ("tolerance", .float (.finite vehicleTolerance))]

/-- The tokens of a side of the links, or their capacity before any were minted. -/
def resolveCapacity (link : LinkState n) (tokens : Option (MetaArray MetaNum)) (key : String) :
    Except StepError (Fin n → MetaNum) :=
  match tokens with
  | none => .ok fun l => .finite (link.effectiveCapacityVehicles l)
  | some stored =>
    match stored.exactly n with
    | none => .error (.invariants (key ++ " shape mismatch"))
    | some values => .ok values

def resolveEffectiveCapacityValues (link : LinkState n) : Except StepError (Fin n → MetaNum) :=
  resolveCapacity link link.metadata.runtimeLinkServiceTokens "runtime_link_service_tokens"

def resolveReceivingCapacityValues (link : LinkState n) : Except StepError (Fin n → MetaNum) :=
  resolveCapacity link link.metadata.runtimeLinkReceivingTokens "runtime_link_receiving_tokens"

end Checks

section Tokens

def invalidMetadata (key reason : String) (details : List (String × Detail)) : Violation :=
  violationOf "runtime_token_authority" "runtime_token_metadata_invalid"
    "Discrete runtime token/residual metadata must fail closed"
    (("key", .text key) :: ("reason", .text reason) :: details)

structure CheckRule where
  requireIntegral : Bool := false
  requireNonNegative : Bool := false
  unitResidual : Bool := false
  upperBound : Option ℚ := none

def CheckRule.tokens : CheckRule where
  requireIntegral := true
  requireNonNegative := true

def CheckRule.carry : CheckRule where
  requireIntegral := true
  requireNonNegative := true
  upperBound := some 1

def CheckRule.residual : CheckRule where
  unitResidual := true

def Fractional {size : ℕ} (values : Fin size → ℚ) : Prop :=
  ∃ i, vehicleTolerance < |values i - rint (values i)|

instance {size : ℕ} (values : Fin size → ℚ) : Decidable (Fractional values) :=
  inferInstanceAs (Decidable (∃ _, _))

def ruleViolations {size : ℕ} (key : String) (rule : CheckRule) (values : Fin size → ℚ) :
    List Violation :=
  violationIf (rule.requireNonNegative = true ∧ ∃ i, values i < 0)
      (invalidMetadata key "negative" []) ++
    violationIf (rule.requireIntegral = true ∧ Fractional values)
      (invalidMetadata key "non_integral" []) ++
    violationIf (rule.unitResidual = true ∧ ((∃ i, values i < 0) ∨ ∃ i, 1 ≤ values i))
      (invalidMetadata key "outside_unit_residual_range" []) ++
    rule.upperBound.elim [] fun bound => violationIf (∃ i, bound < values i)
      (invalidMetadata key "above_upper_bound" [("upper_bound", .float (.finite bound))])

/-- What is wrong with a stored vector, and the vector where it can be read. -/
def checkVector (raw : Option (MetaArray MetaNum)) (key : String) (size : ℕ) (rule : CheckRule) :
    List Violation × Option (Fin size → ℚ) :=
  match raw with
  | none => ([invalidMetadata key "missing" []], none)
  | some stored =>
    match stored.exactly size with
    | none => ([invalidMetadata key "shape_mismatch" [("expected_shape", .shape [size]),
        ("actual_shape", .shape (MetaArray.shape stored))]], none)
    | some entries =>
      if ∃ i, (entries i).isFinite = false then
        ([invalidMetadata key "non_finite" [("non_finite_count",
          .int ((List.finRange size).countP fun i => !(entries i).isFinite))]], none)
      else
        let values := fun i => (entries i).value
        (ruleViolations key rule values, some values)

variable (link : LinkState n) (node : NodeState n m)

/-- The sink flow of the links, where it can be read. -/
def linkSinkFlow : List Violation × Option (Fin n → ℚ) :=
  checkVector link.metadata.runtimeSinkFlowVehicles "runtime_sink_flow_vehicles" n .tokens

def nodeSinkFlow : List Violation × Option (Fin n → ℚ) :=
  checkVector node.metadata.runtimeSinkFlowByLinkIndex "runtime_sink_flow_by_link_index" n .tokens

/-- What is wrong with the vectors that a discrete runtime must carry on its links. -/
def linkVectorViolations : List Violation :=
  let carries := 2 ≤ link.metadata.runtimeTokenAuthorityVersion.getD 1
  (checkVector link.metadata.runtimeLinkServiceTokens "runtime_link_service_tokens" n .tokens).1 ++
    (checkVector link.metadata.runtimeLinkReceivingTokens "runtime_link_receiving_tokens" n
      .tokens).1 ++
    (checkVector link.metadata.runtimeLinkServiceResidual "runtime_link_service_residual" n
      .residual).1 ++
    (if carries then (checkVector link.metadata.runtimeLinkServiceTokenCarry
      "runtime_link_service_token_carry" n .carry).1 else []) ++
    (checkVector link.metadata.runtimeLinkReceivingResidual "runtime_link_receiving_residual" n
      .residual).1 ++
    (if carries then (checkVector link.metadata.runtimeLinkReceivingTokenCarry
      "runtime_link_receiving_token_carry" n .carry).1 else []) ++
    (linkSinkFlow link).1

/-- And on its nodes. -/
def nodeVectorViolations : List Violation :=
  (checkVector node.metadata.runtimeTurnFlowResidual "runtime_turn_flow_residual" m {}).1 ++
    (checkVector node.metadata.runtimeSinkFlowResidual "runtime_sink_flow_residual" n {}).1 ++
    (nodeSinkFlow node).1

/-- What is wrong with the flows of the links and turns among each other. -/
def flowViolations : List Violation :=
  let sinkFlow := (linkSinkFlow link).2
  violationIf (∃ a ∈ sinkFlow, ∃ b ∈ (nodeSinkFlow node).2, a ≠ b)
      (invalidMetadata "runtime_sink_flow_by_link_index" "link_node_sink_flow_mismatch" []) ++
    violationIf (Fractional node.turnFlow) (invalidMetadata "turn_flow" "non_integral" []) ++
    violationIf (∃ sink ∈ sinkFlow, link.outflowVehicles ≠
        fun l => segmentSum node.turnFlow node.turnFromLinkIndex l + sink l)
      (invalidMetadata "outflow_vehicles" "turn_and_sink_flow_mismatch" []) ++
    violationIf (link.inflowVehicles ≠ segmentSum node.turnFlow node.turnToLinkIndex)
      (invalidMetadata "inflow_vehicles" "turn_flow_mismatch" [])

/-- The keys of the link metadata that a flow update notes for the checks alone. -/
structure FlowWitness (n : ℕ) where
  inputQueueVehicles : Option (MetaArray MetaNum) := none
  transitionTick : Option ℕ := none
  deriving DecidableEq

/-- What is wrong with the transition that the flow update of the current tick made. -/
def transitionViolations (witness : FlowWitness n) (tick completedCount : ℕ) : List Violation :=
  let input := checkVector witness.inputQueueVehicles "runtime_flow_input_queue_vehicles" n
    { requireNonNegative := true }
  let total : ℤ := (linkSinkFlow link).2.elim 0 fun sink => rint (∑ l, sink l)
  input.1 ++
    violationIf (witness.transitionTick ≠ some tick)
      (invalidMetadata "runtime_transition_tick" "tick_mismatch" [("expected_tick", .int tick),
        ("actual_tick", .int (witness.transitionTick.elim (-1) fun noted => noted))]) ++
    input.2.elim [] (fun queue => flagged
      (fun l => decide (vehicleTolerance < |link.queueVehicles l -
        (queue l - link.outflowVehicles l + link.inflowVehicles l)|))
      fun count first => invalidMetadata "queue_vehicles" "transition_mass_mismatch"
        [("mismatch_count", .int count), ("first_link_index", .int first)]) ++
    violationIf ((completedCount : ℤ) ≠ total)
      (invalidMetadata "runtime_transition_completed_trip_count" "sink_completion_mismatch"
        [("completed_trip_count", .int completedCount), ("sink_flow_total", .int total)])

end Tokens

/-- A state of a run with what its last flow update noted for the checks. -/
structure WitnessedState (p n m cap : ℕ) where
  core : SimulationState p n m cap
  witness : FlowWitness n := {}

namespace WitnessedState

variable (s : WitnessedState p n m cap)

abbrev link : LinkState n := s.core.flow.linkState

abbrev node : NodeState n m := s.core.flow.nodeState

abbrev pool : ActiveAgentPool cap := s.core.pool

abbrev demand : DemandState := s.core.demand

abbrev discrete : Prop := s.link.metadata.runtimeDiscreteAgentAuthority = true

end WitnessedState

section Authority

variable (w : World p n m) (s : WitnessedState p n m cap)

def checkRuntimeTokenAuthority : Option (List Violation) :=
  let link := s.link
  let metadata := s.core.metadata
  if link.metadata.runtimeDiscreteAgentAuthority then
    some (linkVectorViolations link ++ nodeVectorViolations (n := n) s.node ++
      flowViolations link s.node ++
      if metadata.transitionAuthorityActive = true ∧
          metadata.transitionCounterTick = some s.core.tickIndex then
        transitionViolations link s.witness s.core.tickIndex metadata.completedTripCount
      else [])
  else none

def issueIf (found : Prop) [Decidable found] (issue : String) : List String :=
  if found then [issue] else []

/-- What is wrong with the route memory of a slot. -/
def slotIssues (pool : ActiveAgentPool cap) (i : Fin cap) : List String :=
  if pool.alive i then
    match pool.pluginMemory i with
    | none => [s!"alive slot {i.val} has no route plugin memory"]
    | some memory =>
      match memory.tripRequestId with
      | none => [s!"alive slot {i.val} has invalid route-memory trip id"]
      | some tripId => issueIf (tripId ≠ (pool.slots i).tripId)
          s!"alive slot {i.val} route-memory trip id != packed trip id"
  else []

def validateActiveAgentPoolFast (pool : ActiveAgentPool cap) : List String :=
  issueIf (pool.aliveCount ≠ (Finset.univ.filter fun i => pool.alive i = true).card)
      "alive_count != sum(alive_mask)" ++
    issueIf (pool.freeSlotStack.length + pool.aliveCount ≠ cap)
      "free_slot_count + alive_count != capacity" ++
    issueIf (¬ pool.freeSlotStack.Nodup) "duplicate slot ids in free_slot_stack" ++
    issueIf (∃ i ∈ pool.freeSlotStack, pool.alive i = true)
      "slot ids appear in both alive set and free_slot_stack" ++
    (List.finRange cap).flatMap (slotIssues pool) ++
    issueIf (∃ i, (pool.slots i).progress01 < 0 ∨ 1 < (pool.slots i).progress01)
      "progress_01 contains values outside [0, 1]"

def checkRuntimeVehicleQueueAuthority : Option (List Violation) :=
  let pool := s.pool
  let queue := s.link.queueVehicles
  let agents := fun l => pool.residents (w.net.links l).linkId
  if s.link.metadata.runtimeDiscreteAgentAuthority then
    some (match (List.finRange cap).find? fun i => pool.alive i &&
        (w.net.linkIdToIndex (pool.slots i).currentLinkId).isNone with
      | some stray => [violationOf "runtime_vehicle_queue_authority" "active_agent_unknown_link"
          "Active agent references a link absent from the runtime network"
          [("slot_id", .int stray), ("link_id", .int (pool.slots stray).currentLinkId)]]
      | none => flagged (fun l => decide (vehicleTolerance < |queue l - agents l|))
          fun count first => violationOf "runtime_vehicle_queue_authority"
            "runtime_vehicle_queue_mismatch"
            "Per-link queue vehicles must equal resident active agents"
            [("mismatch_count", .int count), ("first_link_index", .int first),
              ("observed_queue", .float (.finite (queue first))),
              ("expected_active_agents", .float (.finite (agents first))),
              ("queue_total", .float (.finite (∑ l, queue l))),
              ("active_agent_total", .int pool.aliveCount)])
  else none

def checkRuntimeFiniteLinkStorage : Option (List Violation) :=
  let link := s.link
  if w.config.trafficModel = .spatialQueueV1 then
    some (match link.metadata.storageCapacityVehicles with
      | none => [violationOf "finite_link_storage" "finite_link_storage_authority_missing"
          "Spatial traffic mode requires per-link storage capacity" []]
      | some storage => checkFiniteLinkStorage link.queueVehicles storage)
  else none

/-- The stages of the trips, in the order in which they are compared. -/
def tripStages : List (String × Finset ℤ) :=
  [("pending", s.demand.pendingTripIds), ("active", s.pool.activeTripIds),
    ("completed", s.demand.completedTripRequestIds),
    ("failed", s.demand.failedTripRequestIds)]

def overlapViolations : List (String × Finset ℤ) → List Violation
  | [] => []
  | (left, ids) :: rest =>
    (rest.flatMap fun (right, others) => violationIf (ids ∩ others ≠ ∅)
      (violationOf "trip_lifecycle_disjoint" "trip_lifecycle_overlap"
        "Trip lifecycle stages must be pairwise disjoint"
        [("left_stage", .text left), ("right_stage", .text right),
          ("trip_request_ids", .ids ((ids ∩ others).sort (· ≤ ·)))])) ++ overlapViolations rest

def checkTripLifecycleDisjoint : List Violation :=
  let demand := s.demand
  let generated := demand.generatedTripIds
  let staged := (tripStages s).foldl (fun ids stage => ids ∪ stage.2) ∅
  let declared := demand.pendingTripRequests.getD demand.pendingTripIds.card
  overlapViolations (tripStages s) ++
    violationIf (staged ≠ generated) (violationOf "trip_lifecycle_disjoint"
      "trip_lifecycle_partition_mismatch"
      "Trip lifecycle stages must partition generated request ids"
      [("missing_ids", .ids ((generated \ staged).sort (· ≤ ·))),
        ("unknown_ids", .ids ((staged \ generated).sort (· ≤ ·)))]) ++
    violationIf (declared ≠ demand.pendingTripIds.card) (violationOf
      "trip_lifecycle_disjoint" "pending_trip_count_mismatch"
      "pending_trip_requests does not match the unadmitted pending id set"
      [("declared_pending", .int declared), ("derived_pending", .int demand.pendingTripIds.card)])

def extractConservationSnapshot : ConservationSnapshot where
  generatedTotal := s.demand.generatedTripIds.card
  pendingTripRequests := s.demand.pendingTripIds.card
  activeAgents := s.pool.activeTripIds.card
  completedTripsTotal := s.demand.completedTripRequestIds.card
  failedTripsTotal := s.demand.failedTripRequestIds.card

def buildCounters (checksRun : List String) (violations : List Violation) : InvariantCounters :=
  let count := fun check => violations.countP fun v => v.checkName = some check
  { totalChecksRun := checksRun.length
    totalViolations := violations.length
    conservationViolations := count "conservation"
    negativeQueueViolations := count "non_negative_queue"
    capacityFlagViolations := count "capacity_flags"
    activeAgentPoolViolations := count "active_agent_pool_consistency"
    otherViolations := violations.countP fun v => v.checkName ∉ ["conservation",
      "non_negative_queue", "capacity_flags", "active_agent_pool_consistency"].map some }

/-- The checks in their order, each with what it found where it was run. -/
def runChecks : Except StepError (List (String × Option (List Violation))) := do
  let link := s.link
  let capacity ← resolveEffectiveCapacityValues link
  let receiving ← resolveReceivingCapacityValues link
  return [
    ("active_agent_pool_consistency", some ((validateActiveAgentPoolFast s.pool).map fun issue => {
      code := "active_agent_pool_inconsistent"
      checkName := some "active_agent_pool_consistency"
      message := issue })),
    ("non_negative_queue", some (checkNonNegativeQueue link.queueVehicles)),
    ("finite_link_storage", checkRuntimeFiniteLinkStorage w s),
    ("runtime_vehicle_queue_authority", checkRuntimeVehicleQueueAuthority w s),
    ("runtime_token_authority", checkRuntimeTokenAuthority s),
    ("capacity_flags", some (checkCapacityViolationFlags link.outflowVehicles link.inflowVehicles
      capacity receiving link.capacityViolationFlags)),
    ("trip_lifecycle_disjoint", some (checkTripLifecycleDisjoint s)),
    ("conservation", some (checkConservationHook (extractConservationSnapshot s) 0))]

/-- Validates the invariants of a state. -/
def validateInvariants : Except StepError (InvariantReport Detail) := do
  let checks ← runChecks w s
  let checksRun := (checks.filter fun check => check.2.isSome).map Prod.fst
  let violations := checks.flatMap fun check => check.2.getD []
  return {
    tickIndex := s.core.tickIndex
    checksRun := checksRun
    checksSkipped := (checks.filter fun check => check.2.isNone).map Prod.fst
    violations := violations
    counters := buildCounters checksRun violations }

/-- What the flow update of an executed tick notes: the queues that it found, and the tick. -/
def flowWitness (due : SimulationState p n m cap) (old : FlowWitness n) : FlowWitness n :=
  match Sim.prepareRuntimeRoutingState w due with
  | .error _ => old
  | .ok (ready, _) => ⟨some (.ofVector ready.flow.linkState.queueVehicles), some due.tickIndex⟩

/-- A step of a run with what it notes for the checks. -/
def witnessedAdvance (input : RunInput) : Except SimError (WitnessedState p n m cap) := do
  let core ← advance w s.core input
  return ⟨core, if input.ticks then flowWitness w (dueState w s.core core.events) s.witness
    else s.witness⟩

end Authority

section Specs

variable {size : ℕ} {raw : Option (MetaArray MetaNum)} {values : Fin size → ℚ} {key : String}
  {rule : CheckRule}

@[simp]
theorem violation_if_eq_nil {found : Prop} [Decidable found] {violation : Violation} :
    violationIf found violation = [] ↔ ¬ found := by
  simp [violationIf]

@[simp]
theorem issue_if_eq_nil {found : Prop} [Decidable found] {issue : String} :
    issueIf found issue = [] ↔ ¬ found := by
  simp [issueIf]

@[simp]
theorem flagged_eq_nil {mask : Fin n → Bool} {violation : ℕ → Fin n → Violation} :
    flagged mask violation = [] ↔ ∀ i, mask i = false := by
  unfold flagged
  split
  · rename_i none
    simpa using none
  · rename_i first found
    refine iff_of_false (by simp) fun clear => ?_
    have flag := List.find?_some found
    rw [clear] at flag
    cases flag

/-- The finite vector that a metadata key holds. -/
def Stored (raw : Option (MetaArray MetaNum)) (values : Fin size → ℚ) : Prop :=
  ∃ stored, raw = some stored ∧ stored.exactly size = some fun i => .finite (values i)

theorem stored_of_vector : Stored (some (.ofVector values)) values :=
  ⟨_, rfl, MetaArray.exactly_of_vector values⟩

/-- What a rule asks of a vector. -/
structure CheckRule.Holds (rule : CheckRule) (values : Fin size → ℚ) : Prop where
  nonneg : rule.requireNonNegative = true → ∀ i, 0 ≤ values i
  integral : rule.requireIntegral = true → ¬ Fractional values
  unit : rule.unitResidual = true → ∀ i, 0 ≤ values i ∧ values i < 1
  bound : ∀ bound ∈ rule.upperBound, ∀ i, values i ≤ bound

theorem rule_violations_eq_nil : ruleViolations key rule values = [] ↔ rule.Holds values := by
  simp only [ruleViolations, List.append_eq_nil_iff, violation_if_eq_nil]
  constructor
  · rintro ⟨⟨⟨sign, whole⟩, unit⟩, bound⟩
    refine ⟨fun asked i => ?_, fun asked found => whole ⟨asked, found⟩, fun asked i => ?_, ?_⟩
    · exact not_lt.mp fun negative => sign ⟨asked, i, negative⟩
    · exact ⟨not_lt.mp fun negative => unit ⟨asked, .inl ⟨i, negative⟩⟩,
        not_le.mp fun large => unit ⟨asked, .inr ⟨i, large⟩⟩⟩
    · intro upper asked i
      rw [Option.mem_def.mp asked] at bound
      exact not_lt.mp fun above => violation_if_eq_nil.mp bound ⟨i, above⟩
  · intro h
    refine ⟨⟨⟨?_, fun ⟨asked, found⟩ => h.integral asked found⟩, ?_⟩, ?_⟩
    · rintro ⟨asked, i, negative⟩
      exact absurd (h.nonneg asked i) (not_le.mpr negative)
    · rintro ⟨asked, ⟨i, negative⟩ | ⟨i, large⟩⟩
      · exact absurd (h.unit asked i).1 (not_le.mpr negative)
      · exact absurd (h.unit asked i).2 (not_lt.mpr large)
    · cases upper : rule.upperBound with
      | none => rfl
      | some bound =>
        refine violation_if_eq_nil.mpr ?_
        rintro ⟨i, above⟩
        exact absurd (h.bound bound upper i) (not_le.mpr above)

theorem check_vector_stored (h : Stored raw values) :
    checkVector raw key size rule = (ruleViolations key rule values, some values) := by
  obtain ⟨stored, rfl, found⟩ := h
  simp [checkVector, found]

theorem finite_values {entries : Fin size → MetaNum} (h : ∀ i, (entries i).isFinite = true) :
    entries = fun i => .finite (entries i).value := by
  funext i
  have finite := h i
  cases here : entries i with
  | finite value => rfl
  | nonFinite =>
    rw [here] at finite
    cases finite

theorem stored_of_clean (clean : (checkVector raw key size rule).1 = []) :
    ∃ values : Fin size → ℚ, Stored raw values := by
  unfold checkVector at clean
  split at clean
  · cases clean
  · rename_i stored
    split at clean
    · cases clean
    · rename_i entries exact_values
      simp only at clean
      split at clean
      · cases clean
      · rename_i finite
        refine ⟨fun i => (entries i).value, stored, rfl, exact_values.trans (congrArg some ?_)⟩
        exact finite_values fun i => by simpa using fun bad => finite ⟨i, bad⟩

theorem check_vector_clean : (checkVector raw key size rule).1 = [] ↔
    ∃ values : Fin size → ℚ, Stored raw values ∧ rule.Holds values := by
  constructor
  · intro clean
    obtain ⟨values, stored⟩ := stored_of_clean clean
    rw [check_vector_stored stored] at clean
    exact ⟨values, stored, rule_violations_eq_nil.mp clean⟩
  · rintro ⟨values, stored, holds⟩
    rw [check_vector_stored stored]
    exact rule_violations_eq_nil.mpr holds

end Specs

section Sound

variable {w : World p n m} {s : WitnessedState p n m cap} {link : LinkState n}
  {node : NodeState n m} {pool : ActiveAgentPool cap}

/-- A slot whose route memory is that of its own trip. -/
def Remembers (pool : ActiveAgentPool cap) (i : Fin cap) : Prop :=
  ∃ memory, pool.pluginMemory i = some memory ∧ memory.tripRequestId = some (pool.slots i).tripId

def Reads (raw : Option (MetaArray MetaNum)) (size : ℕ) (rule : CheckRule) : Prop :=
  ∃ values : Fin size → ℚ, Stored raw values ∧ rule.Holds values

/-- Flow states whose metadata can be read back, with the flows of the links made of
those of the turns and sinks. -/
structure TokensSound (link : LinkState n) (node : NodeState n m) (sink : Fin n → ℚ) : Prop where
  service : Reads link.metadata.runtimeLinkServiceTokens n .tokens
  receiving : Reads link.metadata.runtimeLinkReceivingTokens n .tokens
  service_residual : Reads link.metadata.runtimeLinkServiceResidual n .residual
  receiving_residual : Reads link.metadata.runtimeLinkReceivingResidual n .residual
  carries : 2 ≤ link.metadata.runtimeTokenAuthorityVersion.getD 1 →
    Reads link.metadata.runtimeLinkServiceTokenCarry n .carry ∧
      Reads link.metadata.runtimeLinkReceivingTokenCarry n .carry
  turn_residual : Reads node.metadata.runtimeTurnFlowResidual m {}
  sink_residual : Reads node.metadata.runtimeSinkFlowResidual n {}
  link_sink : Stored link.metadata.runtimeSinkFlowVehicles sink
  node_sink : Stored node.metadata.runtimeSinkFlowByLinkIndex sink
  sink_tokens : CheckRule.tokens.Holds sink
  turn_tokens : ¬ Fractional node.turnFlow
  outflow : link.outflowVehicles =
    fun l => segmentSum node.turnFlow node.turnFromLinkIndex l + sink l
  inflow : link.inflowVehicles = segmentSum node.turnFlow node.turnToLinkIndex

/-- A flow update of the current tick that keeps the vehicles and hands the sinks the
completed trips. -/
structure TransitionSound (link : LinkState n) (sink : Fin n → ℚ) (witness : FlowWitness n)
    (tick completedCount : ℕ) : Prop where
  tick_noted : witness.transitionTick = some tick
  queue : ∃ input : Fin n → ℚ, Stored witness.inputQueueVehicles input ∧ (∀ l, 0 ≤ input l) ∧
    ∀ l, |link.queueVehicles l - (input l - link.outflowVehicles l + link.inflowVehicles l)| ≤
      vehicleTolerance
  completed : (completedCount : ℤ) = rint (∑ l, sink l)

def WitnessedState.current (s : WitnessedState p n m cap) : Prop :=
  s.core.metadata.transitionAuthorityActive = true ∧
    s.core.metadata.transitionCounterTick = some s.core.tickIndex

def StorageSound (w : World p n m) (s : WitnessedState p n m cap) : Prop :=
  w.config.trafficModel = .spatialQueueV1 → ∃ storage : Fin n → ℚ,
    Stored s.link.metadata.storageCapacityVehicles storage ∧
      ∀ l, 1 ≤ storage l ∧ s.link.queueVehicles l ≤ storage l + vehicleTolerance

/-- Every agent is on a known link, and the queues count the agents. -/
def QueuesSound (w : World p n m) (s : WitnessedState p n m cap) : Prop :=
  s.discrete → (∀ i, s.pool.alive i = true →
    ∃ l, w.net.linkIdToIndex (s.pool.slots i).currentLinkId = some l) ∧
    ∀ l, |s.link.queueVehicles l - s.pool.residents (w.net.links l).linkId| ≤ vehicleTolerance

def AuthoritySound (s : WitnessedState p n m cap) : Prop :=
  s.discrete → ∃ sink, TokensSound s.link s.node sink ∧ (s.current →
    TransitionSound s.link sink s.witness s.core.tickIndex s.core.metadata.completedTripCount)

/-- The stages of the trips are apart, make up all trips and are counted as declared. -/
structure TripsSound (s : WitnessedState p n m cap) : Prop where
  apart : ((tripStages s).map Prod.snd).Pairwise Disjoint
  staged : s.demand.pendingTripIds ∪ s.pool.activeTripIds ∪ s.demand.completedTripRequestIds ∪
    s.demand.failedTripRequestIds = s.demand.generatedTripIds
  declared : s.demand.PendingDeclared

/-- What a report without violations stands for. -/
structure Sound (w : World p n m) (s : WitnessedState p n m cap) : Prop where
  pool_valid : s.pool.Valid
  remembers : ∀ i, s.pool.alive i = true → Remembers s.pool i
  storage : StorageSound w s
  queues : QueuesSound w s
  tokens : AuthoritySound s
  capacity : ∃ capacity receiving : Fin n → ℚ,
    resolveEffectiveCapacityValues s.link = .ok (fun l => .finite (capacity l)) ∧
      resolveReceivingCapacityValues s.link = .ok (fun l => .finite (receiving l)) ∧
      ∀ l, s.link.capacityViolationFlags l = false ∧
        s.link.outflowVehicles l ≤ capacity l + vehicleTolerance ∧
        s.link.inflowVehicles l ≤ receiving l + vehicleTolerance
  trips : TripsSound s

theorem slot_issues_eq_nil {i : Fin cap} :
    slotIssues pool i = [] ↔ (pool.alive i = true → Remembers pool i) := by
  unfold slotIssues Remembers
  split
  · rename_i alive
    rw [forall_prop_of_true alive]
    split
    · rename_i missing
      simp [missing]
    · rename_i memory found
      simp only [found, Option.some.injEq, exists_eq_left']
      split
      · rename_i unnamed
        simp [unnamed]
      · rename_i tripId named
        simp [named]
  · rename_i free
    exact iff_of_true rfl fun alive => absurd alive free

theorem pool_issues_eq_nil : validateActiveAgentPoolFast pool = [] ↔
    pool.Valid ∧ ∀ i, pool.alive i = true → Remembers pool i := by
  simp only [validateActiveAgentPoolFast, List.append_eq_nil_iff, issue_if_eq_nil, not_not,
    List.flatMap_eq_nil_iff, List.mem_finRange, forall_const, slot_issues_eq_nil, not_exists,
    not_and, not_or, not_lt, Bool.not_eq_true]
  constructor
  · rintro ⟨⟨⟨⟨⟨count, _⟩, unique⟩, free⟩, remembers⟩, progress⟩
    exact ⟨⟨count, unique, free, progress⟩, remembers⟩
  · rintro ⟨valid, remembers⟩
    exact ⟨⟨⟨⟨⟨valid.alive_count, pool.counts⟩, valid.stack_unique⟩, valid.stack_free⟩, remembers⟩,
      valid.progress_unit⟩

theorem queue_check_eq_nil (link : LinkState n) :
    checkNonNegativeQueue link.queueVehicles = [] := by
  simp [checkNonNegativeQueue, link.queue_nonneg]

theorem storage_check_eq_nil :
    (checkRuntimeFiniteLinkStorage w s).getD [] = [] ↔ StorageSound w s := by
  unfold checkRuntimeFiniteLinkStorage StorageSound
  split
  · rename_i spatial
    rw [forall_prop_of_true spatial, Option.getD_some]
    split
    · rename_i missing
      simp [Stored, missing]
    · rename_i stored found
      unfold checkFiniteLinkStorage
      split
      · rename_i unread
        simp [Stored, found, unread]
      · rename_i entries read
        split
        · rename_i violation rest bad
          refine iff_of_false (by simp) ?_
          rintro ⟨storage, ⟨_, same, exact_values⟩, room⟩
          obtain rfl := Option.some.inj (found.symm.trans same)
          obtain rfl := Option.some.inj (read.symm.trans exact_values)
          rw [flagged_eq_nil.mpr] at bad
          · cases bad
          · intro l
            exact decide_eq_false (not_lt.mpr (room l).1)
        · rename_i good
          simp only [flagged_eq_nil, Bool.or_eq_false_iff, Bool.not_eq_false',
            decide_eq_false_iff_not, not_lt] at good ⊢
          constructor
          · intro fits
            refine ⟨fun l => (entries l).value, ⟨stored, found, ?_⟩, fun l => ⟨(good l).2, fits l⟩⟩
            rw [read, ← finite_values fun l => (good l).1]
          · rintro ⟨storage, ⟨_, same, exact_values⟩, room⟩
            obtain rfl := Option.some.inj (found.symm.trans same)
            obtain rfl := Option.some.inj (read.symm.trans exact_values)
            exact fun l => (room l).2
  · rename_i other
    exact iff_of_true rfl fun spatial => absurd spatial other

theorem queue_authority_eq_nil :
    (checkRuntimeVehicleQueueAuthority w s).getD [] = [] ↔ QueuesSound w s := by
  unfold checkRuntimeVehicleQueueAuthority QueuesSound
  simp only
  split
  · rename_i discrete
    rw [forall_prop_of_true discrete, Option.getD_some]
    split
    · rename_i stray found
      refine iff_of_false (by simp) fun ⟨known, _⟩ => ?_
      have bad := List.find?_some found
      obtain ⟨alive, absent⟩ := Bool.and_eq_true_iff.mp bad
      obtain ⟨l, here⟩ := known stray alive
      simp [here] at absent
    · rename_i none
      have known : ∀ i, s.pool.alive i = true →
          ∃ l, w.net.linkIdToIndex (s.pool.slots i).currentLinkId = some l := by
        intro i alive
        have present := List.find?_eq_none.mp none i (List.mem_finRange i)
        exact Option.ne_none_iff_exists'.mp fun absent => present (by simp [alive, absent])
      simp only [flagged_eq_nil, decide_eq_false_iff_not, not_lt]
      exact ⟨fun near => ⟨known, near⟩, fun sound => sound.2⟩
  · rename_i fresh
    exact iff_of_true rfl fun discrete => absurd discrete fresh

theorem capacity_check_eq_nil {outflow inflow : Fin n → ℚ} {capacity receiving : Fin n → MetaNum}
    {flags : Fin n → Bool} :
    checkCapacityViolationFlags outflow inflow capacity receiving flags = [] ↔
      (∀ l, (capacity l).isFinite = true) ∧ (∀ l, (receiving l).isFinite = true) ∧
        ∀ l, flags l = false ∧ outflow l ≤ (capacity l).value + vehicleTolerance ∧
          inflow l ≤ (receiving l).value + vehicleTolerance := by
  have counted : ∀ values : Fin n → MetaNum,
      ((List.finRange n).countP fun l => !(values l).isFinite) = 0 ↔
        ∀ l, (values l).isFinite = true := by
    intro values
    simp [List.countP_eq_zero]
  unfold checkCapacityViolationFlags
  simp only
  split
  · rename_i infinite
    refine iff_of_false (by simp) fun ⟨capacities, receivings, _⟩ => infinite ?_
    simp [(counted _).mpr capacities, (counted _).mpr receivings]
  · rename_i finite
    simp only [ne_eq, not_not, List.filter_eq_nil_iff, List.mem_cons, List.not_mem_nil, or_false,
      forall_eq_or_imp, forall_eq, decide_eq_true_eq, counted] at finite
    simp only [finite.1, finite.2, implies_true, true_and, List.append_eq_nil_iff, flagged_eq_nil,
      bne_eq_false_iff_eq, Bool.or_eq_false_iff, decide_eq_false_iff_not, not_lt]
    constructor
    · rintro ⟨flags, within⟩ l
      refine ⟨?_, within l⟩
      rw [flags l, Bool.or_eq_false_iff, decide_eq_false_iff_not, decide_eq_false_iff_not, not_lt,
        not_lt]
      exact within l
    · intro h
      refine ⟨fun l => ?_, fun l => (h l).2⟩
      rw [(h l).1, eq_comm, Bool.or_eq_false_iff, decide_eq_false_iff_not, decide_eq_false_iff_not,
        not_lt, not_lt]
      exact (h l).2

theorem overlap_eq_nil {stages : List (String × Finset ℤ)} :
    overlapViolations stages = [] ↔ (stages.map Prod.snd).Pairwise Disjoint := by
  induction stages with
  | nil => simp [overlapViolations]
  | cons stage rest ih =>
    obtain ⟨left, ids⟩ := stage
    simp only [overlapViolations, List.append_eq_nil_iff, List.flatMap_eq_nil_iff, ih,
      violation_if_eq_nil, ne_eq, not_not, List.map_cons, List.pairwise_cons, List.mem_map,
      Finset.disjoint_iff_inter_eq_empty, forall_exists_index, and_imp, forall_apply_eq_imp_iff₂]

theorem lifecycle_check_eq_nil : checkTripLifecycleDisjoint s = [] ↔ TripsSound s := by
  simp only [checkTripLifecycleDisjoint, List.append_eq_nil_iff, overlap_eq_nil,
    violation_if_eq_nil, ne_eq, not_not]
  have union : (tripStages s).foldl (fun ids stage => ids ∪ stage.2) ∅ = s.demand.pendingTripIds ∪
      s.pool.activeTripIds ∪ s.demand.completedTripRequestIds ∪ s.demand.failedTripRequestIds := by
    simp [tripStages]
  rw [union]
  exact ⟨fun ⟨⟨apart, staged⟩, declared⟩ => ⟨apart, staged, declared⟩,
    fun h => ⟨⟨h.apart, h.staged⟩, h.declared⟩⟩

/-- Stages that partition the generated trips also reconcile in number. -/
theorem conservation_of_partition (h : TripsSound s) :
    checkConservationHook (extractConservationSnapshot s) 0 = [] := by
  have apart := h.apart
  simp only [tripStages, List.map_cons, List.map_nil, List.pairwise_cons, List.mem_cons,
    List.not_mem_nil, or_false, forall_eq_or_imp, forall_eq] at apart
  obtain ⟨⟨pa, pc, pf⟩, ⟨ac, af⟩, cf, _⟩ := apart
  have total : (extractConservationSnapshot s).generatedTotal =
      (extractConservationSnapshot s).reconciledTotal := by
    simp only [extractConservationSnapshot, ConservationSnapshot.reconciledTotal, ← h.staged]
    rw [Finset.card_union_of_disjoint, Finset.card_union_of_disjoint,
      Finset.card_union_of_disjoint pa]
    · exact Finset.disjoint_union_left.mpr ⟨pc, ac⟩
    · exact Finset.disjoint_union_left.mpr ⟨Finset.disjoint_union_left.mpr ⟨pf, af⟩, cf⟩
  simp [checkConservationHook, total]

theorem flow_check_eq_nil {sink nodeSink : Fin n → ℚ}
    (linkStored : Stored link.metadata.runtimeSinkFlowVehicles sink)
    (nodeStored : Stored node.metadata.runtimeSinkFlowByLinkIndex nodeSink) :
    flowViolations link node = [] ↔ sink = nodeSink ∧ ¬ Fractional node.turnFlow ∧
      (link.outflowVehicles =
        fun l => segmentSum node.turnFlow node.turnFromLinkIndex l + sink l) ∧
      link.inflowVehicles = segmentSum node.turnFlow node.turnToLinkIndex := by
  simp [flowViolations, linkSinkFlow, nodeSinkFlow, check_vector_stored linkStored,
    check_vector_stored nodeStored]

theorem transition_check_eq_nil {sink : Fin n → ℚ} {witness : FlowWitness n} {tick completed : ℕ}
    (stored : Stored link.metadata.runtimeSinkFlowVehicles sink) :
    transitionViolations link witness tick completed = [] ↔
      TransitionSound link sink witness tick completed := by
  simp only [transitionViolations, linkSinkFlow, check_vector_stored stored, Option.elim_some,
    List.append_eq_nil_iff, violation_if_eq_nil, ne_eq, not_not, check_vector_clean]
  constructor
  · rintro ⟨⟨⟨⟨input, read, holds⟩, noted⟩, mass⟩, completions⟩
    simp only [check_vector_stored read, Option.elim_some, flagged_eq_nil] at mass
    refine ⟨noted, ⟨input, read, holds.nonneg rfl, fun l => ?_⟩, completions⟩
    exact not_lt.mp (of_decide_eq_false (mass l))
  · rintro ⟨noted, ⟨input, read, nonneg, mass⟩, completions⟩
    refine ⟨⟨⟨⟨input, read, fun _ => nonneg, ?_, ?_, ?_⟩, noted⟩, ?_⟩, completions⟩
    · simp
    · simp
    · simp
    · simp only [check_vector_stored read, Option.elim_some, flagged_eq_nil]
      exact fun l => decide_eq_false (not_lt.mpr (mass l))

theorem token_authority_eq_nil :
    (checkRuntimeTokenAuthority s).getD [] = [] ↔ AuthoritySound s := by
  unfold checkRuntimeTokenAuthority AuthoritySound
  simp only
  split
  · rename_i discrete
    rw [forall_prop_of_true discrete, Option.getD_some]
    simp only [List.append_eq_nil_iff, linkVectorViolations, nodeVectorViolations, linkSinkFlow,
      nodeSinkFlow, check_vector_clean, ite_eq_right_iff]
    constructor
    · rintro ⟨⟨⟨⟨⟨⟨⟨⟨⟨service, receiving⟩, serviceResidual⟩, serviceCarry⟩, receivingResidual⟩,
        receivingCarry⟩, sink, stored, tokens⟩, ⟨turnResidual, sinkResidual⟩, _, nodeStored, _⟩,
        flows⟩, transition⟩
      obtain ⟨rfl, whole, outflow, inflow⟩ := (flow_check_eq_nil stored nodeStored).mp flows
      refine ⟨sink, ⟨service, receiving, serviceResidual, receivingResidual, fun carries =>
        ⟨serviceCarry carries, receivingCarry carries⟩, turnResidual, sinkResidual, stored,
        nodeStored, tokens, whole, outflow, inflow⟩, fun current => ?_⟩
      exact (transition_check_eq_nil stored).mp (transition current)
    · rintro ⟨sink, h, transition⟩
      have flows := (flow_check_eq_nil h.link_sink h.node_sink).mpr
        ⟨rfl, h.turn_tokens, h.outflow, h.inflow⟩
      refine ⟨⟨⟨⟨⟨⟨⟨⟨⟨h.service, h.receiving⟩, h.service_residual⟩, fun carries =>
        (h.carries carries).1⟩, h.receiving_residual⟩, fun carries => (h.carries carries).2⟩,
        sink, h.link_sink, h.sink_tokens⟩, ⟨h.turn_residual, h.sink_residual⟩,
        sink, h.node_sink, h.sink_tokens⟩, flows⟩, fun current => ?_⟩
      exact (transition_check_eq_nil h.link_sink).mpr (transition current)
  · rename_i fresh
    exact iff_of_true rfl fun discrete => absurd discrete fresh

theorem run_checks_ok {capacity receiving : Fin n → MetaNum}
    (service : resolveEffectiveCapacityValues s.link = .ok capacity)
    (receives : resolveReceivingCapacityValues s.link = .ok receiving) :
    ∃ checks, runChecks w s = .ok checks ∧
      ((checks.flatMap fun check => check.2.getD []) = [] ↔
        validateActiveAgentPoolFast s.pool = [] ∧
        (checkRuntimeFiniteLinkStorage w s).getD [] = [] ∧
        (checkRuntimeVehicleQueueAuthority w s).getD [] = [] ∧
        (checkRuntimeTokenAuthority s).getD [] = [] ∧
        checkCapacityViolationFlags s.link.outflowVehicles
          s.link.inflowVehicles capacity receiving
          s.link.capacityViolationFlags = [] ∧
        checkTripLifecycleDisjoint s = [] ∧
        checkConservationHook (extractConservationSnapshot s) 0 = []) := by
  refine ⟨_, by rw [runChecks, service, ok_bind, receives, ok_bind]; rfl, ?_⟩
  simp only [List.flatMap_cons, List.flatMap_nil, List.append_nil, List.append_eq_nil_iff,
    Option.getD_some, List.map_eq_nil_iff, queue_check_eq_nil, true_and]

theorem sound_of_clean {report : InvariantReport Detail}
    (valid : validateInvariants w s = .ok report) (clean : report.violations = []) : Sound w s := by
  obtain ⟨checks, ran, valid⟩ := bind_ok.mp valid
  obtain rfl := pure_ok.mp valid
  have given := ran
  obtain ⟨capacity, service, ran⟩ := bind_ok.mp ran
  obtain ⟨receiving, receives, _⟩ := bind_ok.mp ran
  obtain ⟨_, same, none⟩ := run_checks_ok (w := w) service receives
  obtain rfl := Except.ok.inj (same.symm.trans given)
  obtain ⟨pool, storage, queues, tokens, flags, lifecycle, _⟩ := none.mp clean
  obtain ⟨valid, remembers⟩ := pool_issues_eq_nil.mp pool
  obtain ⟨capacities, receivings, within⟩ := capacity_check_eq_nil.mp flags
  refine ⟨valid, remembers, storage_check_eq_nil.mp storage, queue_authority_eq_nil.mp queues,
    token_authority_eq_nil.mp tokens, ⟨fun l => (capacity l).value, fun l => (receiving l).value,
      ?_, ?_, within⟩, lifecycle_check_eq_nil.mp lifecycle⟩
  · rw [service, ← finite_values capacities]
  · rw [receives, ← finite_values receivings]

theorem clean_of_sound (h : Sound w s) :
    ∃ report, validateInvariants w s = .ok report ∧ report.violations = [] := by
  obtain ⟨capacity, receiving, service, receives, within⟩ := h.capacity
  obtain ⟨checks, ran, none⟩ := run_checks_ok (w := w) service receives
  refine ⟨_, bind_ok.mpr ⟨checks, ran, rfl⟩, none.mpr ⟨?_, ?_, ?_, ?_, ?_, ?_, ?_⟩⟩
  · exact pool_issues_eq_nil.mpr ⟨h.pool_valid, h.remembers⟩
  · exact storage_check_eq_nil.mpr h.storage
  · exact queue_authority_eq_nil.mpr h.queues
  · exact token_authority_eq_nil.mpr h.tokens
  · exact capacity_check_eq_nil.mpr ⟨fun _ => rfl, fun _ => rfl, within⟩
  · exact lifecycle_check_eq_nil.mpr h.trips
  · exact conservation_of_partition h.trips

end Sound

section Runs

variable {w : World p n m} {s s' : WitnessedState p n m cap} {flow flow' : FlowState n m}
  {k : TokenTick n m}

/-- The flow states that a discrete tick wrote. -/
structure Wrote (flow : FlowState n m) (k : TokenTick n m) : Prop where
  valid : k.Valid
  written : k.written.Written flow
  inflow : flow.linkState.inflowVehicles = k.inflow k.allocate
  outflow : flow.linkState.outflowVehicles = k.outflow k.allocate
  flags : ∀ l, flow.linkState.capacityViolationFlags l =
    (decide (k.serviceTokens l + vehicleTolerance < k.outflow k.allocate l) ||
      decide (k.receivingTokens l + vehicleTolerance < k.inflow k.allocate l))
  turn_flow : flow.nodeState.turnFlow = fun t => (k.allocate.realizedTurn t : ℚ)
  from_idx : k.fromIdx = flow.nodeState.turnFromLinkIndex
  to_idx : k.toIdx = flow.nodeState.turnToLinkIndex

theorem advance_flow_wrote (h : Sim.advanceFlowState w flow = .ok flow') :
    ∃ k, Wrote flow' k ∧ (∀ l, k.queueNow l = flow.linkState.queueVehicles l) ∧
      flow'.linkState.queueVehicles = k.queueNext k.allocate := by
  obtain ⟨_, _, h⟩ := bind_ok.mp h
  obtain ⟨result, updated, h⟩ := bind_ok.mp h
  obtain rfl := pure_ok.mp h
  obtain ⟨_, arrays, k, t⟩ := update_link_node_flow_ok.mp (map_error_ok.mp updated)
  obtain ⟨⟨old, link⟩, node⟩ := t.is_written
  refine ⟨k, ⟨t.valid, ⟨⟨{ old with
      runtimeFlowGeneration := result.linkState.metadata.runtimeFlowGeneration + 1 }, ?_⟩, node⟩,
    t.inflow, t.outflow, fun l => ?_, funext t.turn_flow, ?_, ?_⟩, t.queue_now, t.queue_next⟩
  · simp only [LinkState.withMetadata, link]
    rfl
  · rw [t.after]
    rfl
  · rw [t.from_idx, t.after]
    rfl
  · rw [t.to_idx, t.after]
    rfl

theorem not_fractional {size : ℕ} (values : Fin size → ℤ) :
    ¬ Fractional fun i => (values i : ℚ) := by
  rintro ⟨i, off⟩
  rw [rint_int, sub_self, abs_zero] at off
  exact absurd off (by norm_num [vehicleTolerance])

theorem tokens_hold {size : ℕ} {values : Fin size → ℤ} (h : ∀ i, 0 ≤ values i) :
    CheckRule.tokens.Holds fun i => (values i : ℚ) where
  nonneg _ i := by exact_mod_cast h i
  integral _ := not_fractional values
  unit asked := by cases asked
  bound _ asked := by cases asked

theorem residual_holds {values : Fin n → ℚ} (low : ∀ l, 0 ≤ values l)
    (high : ∀ l, values l ≤ residualUpper) : CheckRule.residual.Holds values where
  nonneg asked := by cases asked
  integral asked := by cases asked
  unit _ l := ⟨low l, (high l).trans_lt (by norm_num [residualUpper])⟩
  bound _ asked := by cases asked

theorem carry_holds {values : Fin n → ℚ} (h : ∀ l, values l = 0 ∨ values l = 1) :
    CheckRule.carry.Holds values where
  nonneg _ l := by rcases h l with zero | one <;> simp [*]
  integral _ := by
    have whole : values = fun l => ((if values l = 1 then 1 else 0 : ℤ) : ℚ) := by
      funext l
      rcases h l with zero | one <;> simp [*]
    rw [whole]
    exact not_fractional _
  unit asked := by cases asked
  bound upper asked l := by
    obtain rfl := Option.some.inj asked
    rcases h l with zero | one <;> simp [*]

theorem free_holds {size : ℕ} (values : Fin size → ℚ) : CheckRule.Holds {} values := by
  refine ⟨?_, ?_, ?_, ?_⟩ <;> intros <;> simp at *

theorem Wrote.discrete (h : Wrote flow k) :
    flow.linkState.metadata.runtimeDiscreteAgentAuthority = true := by
  obtain ⟨old, link⟩ := h.written.link
  rw [link]
  rfl

theorem Wrote.sound (h : Wrote flow k) :
    TokensSound flow.linkState flow.nodeState fun l => (k.allocate.sinkFlow l : ℚ) := by
  obtain ⟨⟨oldLink, link⟩, oldNode, node⟩ := h.written
  have valid := h.valid.written
  have stored : ∀ {size : ℕ} {rule : CheckRule} {values : Fin size → ℚ}, rule.Holds values →
      Reads (some (.ofVector values)) size rule := fun holds => ⟨_, stored_of_vector, holds⟩
  constructor
  · rw [link]
    exact stored (tokens_hold valid.service_tokens)
  · rw [link]
    exact stored (tokens_hold valid.receiving_tokens)
  · rw [link]
    exact stored (residual_holds valid.service_nonneg valid.service_upper)
  · rw [link]
    exact stored (residual_holds valid.receiving_nonneg valid.receiving_upper)
  · rw [link]
    exact fun _ => ⟨stored (carry_holds valid.service_carry),
      stored (carry_holds valid.receiving_carry)⟩
  · rw [node]
    exact stored (free_holds _)
  · rw [node]
    exact stored (free_holds _)
  · rw [link]
    exact stored_of_vector
  · rw [node]
    exact stored_of_vector
  · exact tokens_hold valid.sink_flow
  · rw [h.turn_flow]
    exact not_fractional _
  · rw [h.outflow, h.turn_flow, ← h.from_idx]
    rfl
  · rw [h.inflow, h.turn_flow, ← h.to_idx]
    rfl

/-- A link state that no tick has touched. -/
structure Fresh (link : LinkState n) : Prop where
  discrete : link.metadata.runtimeDiscreteAgentAuthority = false
  service : link.metadata.runtimeLinkServiceTokens = none
  receiving : link.metadata.runtimeLinkReceivingTokens = none
  inflow : ∀ l, link.inflowVehicles l = 0
  outflow : ∀ l, link.outflowVehicles l = 0
  flags : ∀ l, link.capacityViolationFlags l = false

/-- What every step of a run keeps for the checks. -/
structure Audited (w : World p n m) (s : WitnessedState p n m cap) : Prop where
  coherent : Coherent w s.core
  ledger : Ledger s.demand s.pool
  declared : s.demand.PendingDeclared
  coupled : Coupled w s.link s.pool
  housed : w.config.trafficModel = .spatialQueueV1 →
    Housed (computeLinkStorageCapacity w.net w.config.jamSpacingM) s.link
  flow : Fresh s.link ∨ ∃ k, Wrote s.core.flow k ∧ (s.current →
    TransitionSound s.link (fun l => (k.allocate.sinkFlow l : ℚ)) s.witness
      s.core.tickIndex s.core.metadata.completedTripCount)

theorem Audited.sound (h : Audited w s) : Sound w s where
  pool_valid := h.ledger.pool_valid
  remembers i alive := by
    obtain ⟨memory, found, own, _⟩ := h.coherent.routed.on_route i alive
    exact ⟨memory, found, own⟩
  storage spatial := by
    have housed := h.housed spatial
    have tolerance : (0 : ℚ) ≤ vehicleTolerance := by norm_num [vehicleTolerance]
    refine ⟨_, housed.stored ▸ stored_of_vector, fun l => ⟨by exact_mod_cast housed.room l, ?_⟩⟩
    exact (housed.within l).trans (le_add_of_nonneg_right tolerance)
  queues _ := by
    refine ⟨fun i alive => ?_, fun l => ?_⟩
    · obtain ⟨_, _, _, here, legal⟩ := h.coherent.routed.on_route i alive
      exact legal.known _ (List.mem_of_getElem? here)
    · rw [h.coupled.queue, sub_self, abs_zero]
      norm_num [vehicleTolerance]
  tokens discrete := by
    rcases h.flow with fresh | ⟨k, wrote, transition⟩
    · exact absurd (discrete.symm.trans fresh.discrete) (by simp)
    · exact ⟨_, wrote.sound, transition⟩
  capacity := by
    have tolerance : (0 : ℚ) ≤ vehicleTolerance := by norm_num [vehicleTolerance]
    rcases h.flow with fresh | ⟨k, wrote, _⟩
    · refine ⟨s.link.effectiveCapacityVehicles,
        s.link.effectiveCapacityVehicles, ?_, ?_, fun l => ⟨fresh.flags l, ?_, ?_⟩⟩
      · simp [resolveEffectiveCapacityValues, fresh.service, resolveCapacity]
      · simp [resolveReceivingCapacityValues, fresh.receiving, resolveCapacity]
      · rw [fresh.outflow]
        exact add_nonneg (s.link.effective_capacity_nonneg l) tolerance
      · rw [fresh.inflow]
        exact add_nonneg (s.link.effective_capacity_nonneg l) tolerance
    · obtain ⟨old, link⟩ := wrote.written.link
      have leaves := fun l => (wrote.valid.outflow_le_service l).trans
        (le_add_of_nonneg_right tolerance)
      have enters := fun l => (wrote.valid.inflow_le_receiving l).trans
        (le_add_of_nonneg_right tolerance)
      refine ⟨fun l => k.serviceTokens l, fun l => k.receivingTokens l, ?_, ?_,
        fun l => ⟨?_, ?_, ?_⟩⟩
      · rw [resolveEffectiveCapacityValues, link]
        simp [AuthorityMetadata.writeLink, resolveCapacity, TokenTick.written,
          TokenTick.nextMetadata]
      · rw [resolveReceivingCapacityValues, link]
        simp [AuthorityMetadata.writeLink, resolveCapacity, TokenTick.written,
          TokenTick.nextMetadata]
      · rw [wrote.flags, Bool.or_eq_false_iff]
        exact ⟨decide_eq_false (not_lt.mpr (leaves l)), decide_eq_false (not_lt.mpr (enters l))⟩
      · rw [wrote.outflow]
        exact leaves l
      · rw [wrote.inflow]
        exact enters l
  trips := ⟨h.ledger.partitioned.apart, h.ledger.partitioned.staged, h.declared⟩

/-- The witness of a tick holds the queues that its flow update found. -/
theorem flow_witness_eq {due : SimulationState p n m cap} {parts : ReadyParts p n m cap}
    (h : parts.Of w due) {node : NodeState n m} (rebuilt : rebuildRuntimeTurnDemand w
      due.flow.nodeState parts.progressed parts.admission.newlyAllocatedSlotIds = .ok node)
    (old : FlowWitness n) : flowWitness w due old =
      ⟨some (.ofVector parts.link.queueVehicles), some due.tickIndex⟩ := by
  have agents : Sim.prepareRuntimeActiveAgents w { due with routes := parts.routes } = _ :=
    bind_ok.mpr ⟨_, h.table, bind_ok.mpr ⟨_, h.admitted, bind_ok.mpr ⟨_, h.reroute,
      bind_ok.mpr ⟨_, h.queued, rfl⟩⟩⟩⟩
  have prepared : Sim.prepareRuntimeRoutingState w due = _ :=
    bind_ok.mpr ⟨_, h.refreshed, bind_ok.mpr ⟨_, agents, bind_ok.mpr ⟨_, h.progress,
      bind_ok.mpr ⟨_, rebuilt, rfl⟩⟩⟩⟩
  rw [flowWitness, prepared]

theorem due_events (w : World p n m) (core : SimulationState p n m cap)
    (events : TrafficEventSchedulerState) :
    (dueState w core events).events = events ∧
      (dueState w core events).tickIndex = core.tickIndex + 1 := by
  obtain ⟨link, metadata, effects, _⟩ := apply_event_effects_keeps (w := w)
    (s := { core with tickIndex := core.tickIndex + 1, events := events })
  have due : dueState w core events = _ := congrArg activateDueTripRequests effects
  rw [due]
  unfold activateDueTripRequests
  split <;> exact ⟨rfl, rfl⟩

theorem sum_sink_tokens {sink : Fin n → ℤ} (nonneg : ∀ l, 0 ≤ sink l) :
    rint (∑ l, (sink l : ℚ)) = ((∑ l, (sink l).toNat : ℕ) : ℤ) := by
  have same : ∑ l, (sink l : ℚ) = ((∑ l, sink l : ℤ) : ℚ) := by push_cast; rfl
  rw [same, rint_int, Nat.cast_sum]
  exact Finset.sum_congr rfl fun l _ => (Int.toNat_of_nonneg (nonneg l)).symm

/-- The flow states after an executed tick are those of its flow update, which moved
the vehicles it found and completed as many trips as it handed out sink tokens. -/
theorem ticked_flow {core core' : SimulationState p n m cap} {events : TrafficEventSchedulerState}
    {parts : TickParts p n m cap} (tick : parts.Of w (dueState w core events) core')
    (ledger : Ledger core.demand core.pool) (coupled : Coupled w core.flow.linkState core.pool) :
    ∃ k, Wrote core'.flow k ∧ TransitionSound core'.flow.linkState
      (fun l => (k.allocate.sinkFlow l : ℚ))
      ⟨some (.ofVector parts.link.queueVehicles), some core'.tickIndex⟩ core'.tickIndex
      core'.metadata.completedTripCount := by
  have keeps := due_keeps (w := w) (s := core) events
  obtain ⟨_, _, _, sinkTokens, read, completed, _⟩ := tick.ledger (keeps.ledger ledger).1
  have ready := tick.toOf.coupled (keeps.coupled coupled)
  obtain ⟨k, wrote, found, next⟩ := advance_flow_wrote tick.flowed
  have flow : core'.flow = parts.flow := by rw [tick.after]; rfl
  rw [← flow] at wrote next
  refine ⟨k, wrote, rfl, ⟨_, stored_of_vector, parts.link.queue_nonneg, fun l => ?_⟩, ?_⟩
  · have whole : k.queueNow l = ((parts.progressed.residents (w.net.links l).linkId : ℤ) : ℚ) := by
      rw [found, Int.cast_natCast]
      exact ready.queue l
    rw [next, wrote.outflow, wrote.inflow, wrote.valid.queue_next_eq whole, found, sub_self,
      abs_zero]
    norm_num [vehicleTolerance]
  · obtain ⟨old, node⟩ := wrote.written.node
    have given : readSinkTokens core'.flow.nodeState = .ok fun l => (k.allocate.sinkFlow l).toNat :=
      read_sink_tokens_of_vector (by rw [node]; rfl)
    obtain rfl := Except.ok.inj (given.symm.trans read)
    rw [completed]
    exact (sum_sink_tokens wrote.valid.written.sink_flow).symm

theorem witnessed_advance_ok {input : RunInput} : witnessedAdvance w s input = .ok s' ↔
    advance w s.core input = .ok s'.core ∧ s'.witness = if input.ticks then
      flowWitness w (dueState w s.core s'.core.events) s.witness else s.witness := by
  constructor
  · intro h
    obtain ⟨core, advanced, h⟩ := bind_ok.mp h
    obtain rfl := pure_ok.mp h
    exact ⟨advanced, rfl⟩
  · rintro ⟨advanced, noted⟩
    exact bind_ok.mpr ⟨s'.core, advanced, by rw [← noted]; rfl⟩

theorem audited_step {input : RunInput} (start : Audited w s)
    (h : witnessedAdvance w s input = .ok s') : Audited w s' ∧
      (s.discrete ∨ input.ticks = true →
        s'.discrete) := by
  obtain ⟨advanced, noted⟩ := witnessed_advance_ok.mp h
  obtain ⟨ledger, _, declared, _⟩ := ledger_step start.ledger advanced
  have audited := Audited.mk (w := w) (s := s') (coherent_step start.coherent advanced) ledger
    (declared (.inl start.declared)) (coupled_step start.coupled advanced) fun spatial =>
      housed_step spatial start.coupled (start.housed spatial) advanced
  cases ticks : input.ticks with
  | true =>
    obtain ⟨events, parts, tick⟩ := advance_ticks ticks advanced
    obtain ⟨k, wrote, transition⟩ := ticked_flow tick start.ledger start.coupled
    obtain ⟨same, clock⟩ := due_events w s.core events
    have now : s'.core.events = events ∧
        s'.core.tickIndex = (dueState w s.core events).tickIndex := by
      rw [tick.after]
      exact ⟨same, rfl⟩
    rw [if_pos ticks, now.1, flow_witness_eq tick.toOf tick.rebuilt, ← now.2] at noted
    exact ⟨audited (.inr ⟨k, wrote, fun _ => noted ▸ transition⟩), fun _ => wrote.discrete⟩
  | false =>
    obtain ⟨_, _, flow⟩ := advance_idle ticks advanced
    have link : s'.link = s.link := congrArg FlowState.linkState flow
    obtain ⟨core', witness'⟩ := s'
    obtain rfl : witness' = s.witness := by simpa [ticks] using noted
    refine ⟨audited ?_, fun authority => ?_⟩
    · rw [flow, link]
      refine start.flow.imp_right fun ⟨k, wrote, transition⟩ => ⟨k, wrote, fun current => ?_⟩
      cases input with
      | refreshRoutes force =>
        obtain ⟨routes, _, refreshed⟩ := bind_ok.mp advanced
        obtain rfl := pure_ok.mp refreshed
        exact transition current
      | step control =>
        have paused : control.pause = true := by simpa [RunInput.ticks] using ticks
        obtain ⟨events, rfl⟩ := simulation_step_pauses paused advanced
        cases current.1
    · rw [WitnessedState.discrete, link]
      exact authority.resolve_right (by simp)

theorem skipped_checks {report : InvariantReport Detail}
    (valid : validateInvariants w s = .ok report) (discrete : s.discrete) :
    report.checksSkipped =
      if w.config.trafficModel = .spatialQueueV1 then [] else ["finite_link_storage"] := by
  obtain ⟨checks, ran, valid⟩ := bind_ok.mp valid
  obtain rfl := pure_ok.mp valid
  obtain ⟨_, _, ran⟩ := bind_ok.mp ran
  obtain ⟨_, _, ran⟩ := bind_ok.mp ran
  obtain rfl := pure_ok.mp ran
  by_cases spatial : w.config.trafficModel = .spatialQueueV1 <;>
    simp [checkRuntimeFiniteLinkStorage, checkRuntimeVehicleQueueAuthority,
      checkRuntimeTokenAuthority, discrete, spatial]

theorem Audited.initial (w : World p n m) {trips : List TripRequest}
    (unique : (trips.map TripRequest.tripRequestId).Nodup)
    (queued : ∀ trip ∈ trips, trip.status = .queued) :
    Audited w (⟨buildInitialSimulationState w trips, {}⟩ : WitnessedState p n m cap) where
  coherent := ⟨RunsTable.initial w.net, .empty (ActiveAgentPool.create_empty cap)⟩
  ledger := (TripsOpen.initial w unique fun trip listed => by simp [queued trip listed]).ledger
  declared := by
    have waits : trips.filter (buildInitialDemandState trips).waiting = trips :=
      List.filter_eq_self.mpr fun trip listed => by
        simp [DemandState.waiting, DemandState.unassigned, buildInitialDemandState,
          queued trip listed]
    have pending : (buildInitialDemandState trips).pendingTripIds.card = trips.length := by
      rw [DemandState.pendingTripIds, show (buildInitialDemandState trips).tripRequests = trips from
        rfl, waits, List.toFinset_card_of_nodup unique, List.length_map]
    have counted : trips.countP (fun trip => trip.status = .queued) = trips.length :=
      List.countP_eq_length.mpr fun trip listed => by simp [queued trip listed]
    exact counted.trans pending.symm
  coupled := .empty (ActiveAgentPool.create_empty cap) fun _ => rfl
  housed spatial := by
    refine ⟨storage_capacity_pos w.net _, ?_, fun l => ?_⟩
    · simp [buildInitialSimulationState, buildInitialLinkState, LinkState.withMetadata, spatial]
    · have room := storage_capacity_pos w.net w.config.jamSpacingM l
      show (0 : ℚ) ≤ _
      exact_mod_cast zero_le_one.trans room
  flow := .inl ⟨rfl, rfl, rfl, fun _ => rfl, fun _ => rfl, fun _ => rfl⟩

theorem audited_run {steps : List (Taken (WitnessedState p n m cap) RunInput)} (start : Audited w s)
    (run : Trace (witnessedAdvance w) s steps s') : Audited w s' ∧
      (s.discrete ∨
        (∃ taken ∈ steps, taken.input.ticks = true) →
          s'.discrete) := by
  induction run with
  | done s => exact ⟨start, fun h => h.resolve_right (by simp)⟩
  | next first tail ih =>
    obtain ⟨kept, authority⟩ := audited_step start first
    obtain ⟨audited, later⟩ := ih kept
    refine ⟨audited, ?_⟩
    rintro (before | ⟨taken, listed, ticks⟩)
    · exact later (.inl (authority (.inl before)))
    · rcases List.mem_cons.mp listed with rfl | rest
      · exact later (.inl (authority (.inr ticks)))
      · exact later (.inr ⟨taken, rest, ticks⟩)

/-- Whatever a run does, the checks find nothing to report at its end; from its first
executed tick on they all run, but that of the storage which only the spatial mode has. -/
theorem runs_pass_checks {trips : List TripRequest}
    {steps : List (Taken (WitnessedState p n m cap) RunInput)}
    (unique : (trips.map TripRequest.tripRequestId).Nodup)
    (queued : ∀ trip ∈ trips, trip.status = .queued)
    (run : Trace (witnessedAdvance w) ⟨buildInitialSimulationState w trips, {}⟩ steps s') :
    ∃ report, validateInvariants w s' = .ok report ∧ report.violations = [] ∧
      ((∃ taken ∈ steps, taken.input.ticks = true) → report.checksSkipped =
        if w.config.trafficModel = .spatialQueueV1 then [] else ["finite_link_storage"]) := by
  obtain ⟨audited, authority⟩ := audited_run (.initial w unique queued) run
  obtain ⟨report, valid, clean⟩ := clean_of_sound audited.sound
  exact ⟨report, valid, clean, fun ticked => skipped_checks valid (authority (.inr ticked))⟩

theorem runs_pass_checks_corridor : ∃ steps s', Trace (witnessedAdvance corridorWorld)
    (⟨buildInitialSimulationState corridorWorld corridorTrips, {}⟩ : WitnessedState 3 2 1 2)
      steps s' ∧ steps.length = 4 ∧
    ∃ report, validateInvariants corridorWorld s' = .ok report ∧ report.violations = [] ∧
      report.checksSkipped = [] := by
  obtain ⟨s', run⟩ := ok_of_is_ok (x := (List.replicate 4 (RunInput.step {})).foldlM
    (witnessedAdvance corridorWorld)
      (⟨buildInitialSimulationState corridorWorld corridorTrips, {}⟩ : WitnessedState 3 2 1 2))
    (by decide +kernel)
  obtain ⟨steps, trace, inputs⟩ := trace_of_fold run
  have length : steps.length = 4 := by simpa using congrArg List.length inputs
  obtain ⟨report, valid, clean, skipped⟩ := runs_pass_checks (by decide) (by decide) trace
  refine ⟨steps, s', trace, length, report, valid, clean, skipped ?_⟩
  obtain ⟨taken, listed, same⟩ : ∃ taken ∈ steps, taken.input = .step {} :=
    List.mem_map.mp (inputs ▸ by simp)
  exact ⟨taken, listed, by rw [same]; rfl⟩

end Runs

end Metroflow.Timing.Invariants
