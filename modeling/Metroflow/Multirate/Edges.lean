import Metroflow.Multirate.World

namespace Metroflow.Multirate

open Metroflow.Lib

/-- One edge of a fast tick, with what the caller gives for it. -/
structure EdgeInput where
  queue : ℚ
  stock : ℚ
  inflow : ℚ
  outflow : ℚ
  freeFlowTime : ℚ
  capacity : ℚ
  deriving DecidableEq, Repr

structure EdgeDynamicState where
  queue : ℚ
  stock : ℚ
  travelTime : ℚ
  deriving DecidableEq, Repr

/-- The update that all edge backends compute. -/
def evolveEdge (edge : EdgeInput) : EdgeDynamicState :=
  let availableMass := edge.stock + edge.inflow
  let feasibleOutflow :=
    if edge.capacity ≤ 0 then 0 else min (min edge.outflow availableMass) edge.capacity
  let newStock := availableMass - feasibleOutflow
  let queuedMass := edge.queue + max (edge.inflow - feasibleOutflow) 0
  let newQueue := min (max queuedMass 0) newStock
  { queue := newQueue
    stock := newStock
    travelTime := edge.freeFlowTime + newQueue / max edge.capacity (1 / 1000000) }

/-- The checks of one edge before its update. -/
def validateEdge (edge : EdgeInput) : Except StepError Unit := do
  raiseValue (edge.queue < 0) "queue must be non-negative"
  raiseValue (edge.stock < 0) "stock must be non-negative"
  raiseValue (edge.stock < edge.queue) "queue must not exceed stock"
  raiseValue (edge.inflow < 0) "inflow must be non-negative"
  raiseValue (edge.outflow < 0) "outflow must be non-negative"
  raiseValue (edge.freeFlowTime < 0) "free_flow_time must be non-negative"

/-- The edge update of the baseline; its travel time refuses a negative capacity. -/
def updateEdgeState (edge : EdgeInput) : Except StepError EdgeDynamicState := do
  validateEdge edge
  raiseValue (edge.capacity < 0) "capacity must be non-negative"
  return evolveEdge edge

/-- The checks that precede the accelerated backends. -/
def validateEdgeBatchForAccelerator (batch : List EdgeInput) : Except StepError Unit := do
  raiseValue (∃ edge ∈ batch, edge.queue < 0) "queue must be non-negative"
  raiseValue (∃ edge ∈ batch, edge.stock < 0) "stock must be non-negative"
  raiseValue (∃ edge ∈ batch, edge.stock < edge.queue) "queue must not exceed stock"
  raiseValue (∃ edge ∈ batch, edge.inflow < 0) "inflow must be non-negative"
  raiseValue (∃ edge ∈ batch, edge.outflow < 0) "outflow must be non-negative"
  raiseValue (∃ edge ∈ batch, edge.freeFlowTime < 0) "free_flow_time must be non-negative"
  raiseValue (∃ edge ∈ batch, edge.capacity < 0) "capacity must be non-negative"

/-- Whether the compiled edge modules of this process can be imported, and run. -/
structure EdgeExtensions where
  rustAvailable : Bool := false
  jaxAvailable : Bool := false
  jaxRuns : Bool := false

inductive EdgeEvolutionBackend where
  | baseline
  | rustCpu
  | jax
  | auto
  deriving DecidableEq, Repr

section Backends

variable (ext : EdgeExtensions) (batch : List EdgeInput)

/-- The compiled batch; its own checks repeat those of the caller. -/
def evolveEdgesBatchImpl : Except StepError (List EdgeDynamicState) := do
  let failed := "Rust CPU edge backend failed: "
  raiseIf (∃ edge ∈ batch, edge.queue < 0) (.runtime (failed ++ "queue must be non-negative"))
  raiseIf (∃ edge ∈ batch, edge.stock < 0) (.runtime (failed ++ "stock must be non-negative"))
  raiseIf (∃ edge ∈ batch, edge.inflow < 0) (.runtime (failed ++ "inflow must be non-negative"))
  raiseIf (∃ edge ∈ batch, edge.outflow < 0) (.runtime (failed ++ "outflow must be non-negative"))
  raiseIf (∃ edge ∈ batch, edge.freeFlowTime < 0)
    (.runtime (failed ++ "free_flow_time must be non-negative"))
  raiseIf (∃ edge ∈ batch, edge.capacity < 0) (.runtime (failed ++ "capacity must be non-negative"))
  raiseIf (∃ edge ∈ batch, edge.stock < edge.queue) (.runtime (failed ++ "queue must not exceed stock"))
  return batch.map evolveEdge

def rustEdgeBackendUnavailable : String :=
  "Rust CPU edge backend unavailable. Build it with: " ++
    ".venv/bin/python -m maturin develop --manifest-path crates/metroflow-rust/Cargo.toml"

def evolveEdgesFastTickRust : Except StepError (List EdgeDynamicState) := do
  validateEdgeBatchForAccelerator batch
  raiseIf (ext.rustAvailable = false) (.runtime rustEdgeBackendUnavailable)
  evolveEdgesBatchImpl batch

def evolveEdgesFastTickJax : Except StepError (List EdgeDynamicState) := do
  validateEdgeBatchForAccelerator batch
  raiseIf (ext.jaxAvailable = false) (.runtime
    "JAX edge backend unavailable. Install metroflow[jax] to use edge_backend='jax'.")
  raiseIf (ext.jaxRuns = false) (.runtime "JAX edge backend failed.")
  return batch.map evolveEdge

/-- An accelerated result; a runtime error of an optional backend gives none. -/
def attempt (required : Bool) (result : Except StepError (List EdgeDynamicState)) :
    Except StepError (Option (List EdgeDynamicState)) :=
  match result with
  | .ok next => .ok (some next)
  | .error (.runtime message) => if required then .error (.runtime message) else .ok none
  | .error (.value message) => .error (.value message)

def tryRust (backend : EdgeEvolutionBackend) : Except StepError (Option (List EdgeDynamicState)) :=
  if backend = .rustCpu ∨ backend = .auto then
    attempt (decide (backend = .rustCpu)) (evolveEdgesFastTickRust ext batch)
  else .ok none

def tryJax (backend : EdgeEvolutionBackend) (accelerated : Option (List EdgeDynamicState)) :
    Except StepError (Option (List EdgeDynamicState)) :=
  if accelerated = none ∧ (backend = .jax ∨ backend = .auto) then
    attempt (decide (backend = .jax)) (evolveEdgesFastTickJax ext batch)
  else .ok accelerated

/-- The batch under a backend: `auto` prefers Rust, then JAX, then the baseline. -/
def evolveEdges (backend : EdgeEvolutionBackend) : Except StepError (List EdgeDynamicState) := do
  let compiled ← tryRust ext batch backend
  let accelerated ← tryJax ext batch backend compiled
  match accelerated with
  | some next => return next
  | none => batch.mapM updateEdgeState

end Backends

structure FastTickInput where
  edgeInflowVehPerTick : Option (List ℚ) := none
  edgeOutflowVehPerTick : Option (List ℚ) := none
  edgeFreeFlowTimeTicks : Option (List ℚ) := none
  edgeCapacityVehPerTick : Option (List ℚ) := none
  edgeBackend : EdgeEvolutionBackend := .baseline
  deriving DecidableEq

def normalizeEdgeValues (values : Option (List ℚ)) (numEdges : ℤ) (default : ℚ) (name : String) :
    Except StepError (List ℚ) :=
  match values with
  | none => .ok (List.replicate numEdges.toNat default)
  | some values => do
    raiseValue (values.length ≠ numEdges) (name ++ " length must match graph.num_edges.")
    return values

section FastTick

variable (ext : EdgeExtensions) (world : WorldState)

/-- The edges of the world with the values of a tick, by their indices. -/
def edgeBatch (inflow outflow freeFlow capacity : List ℚ) : List EdgeInput :=
  (List.range world.graph.numEdges.toNat).map fun i => {
    queue := world.traffic.edgeQueue.getD i 0
    stock := world.traffic.edgeStock.getD i 0
    inflow := inflow.getD i 0
    outflow := outflow.getD i 0
    freeFlowTime := freeFlow.getD i 0
    capacity := capacity.getD i 0 }

def evolveEdgesFastTick (input : FastTickInput) : Except StepError WorldState :=
  let numEdges := world.graph.numEdges
  let nextStep := world.traffic.step + 1
  if numEdges = 0 then .ok { world with traffic := { world.traffic with step := nextStep } }
  else do
    raiseValue (world.traffic.edgeQueue.length ≠ numEdges)
      "edge_queue length must match graph.num_edges."
    raiseValue (world.traffic.edgeStock.length ≠ numEdges)
      "edge_stock length must match graph.num_edges."
    raiseValue (world.traffic.edgeTravelTime.length ≠ numEdges)
      "edge_travel_time length must match graph.num_edges."
    let inflow ← normalizeEdgeValues input.edgeInflowVehPerTick numEdges 0 "edge_inflow_veh_per_tick"
    let outflow ← normalizeEdgeValues input.edgeOutflowVehPerTick numEdges 0
      "edge_outflow_veh_per_tick"
    let freeFlow ← normalizeEdgeValues input.edgeFreeFlowTimeTicks numEdges 1
      "edge_free_flow_time_ticks"
    let capacity ← normalizeEdgeValues input.edgeCapacityVehPerTick numEdges 1
      "edge_capacity_veh_per_tick"
    let next ← evolveEdges ext (edgeBatch world inflow outflow freeFlow capacity) input.edgeBackend
    return { world with
      traffic := { world.traffic with
        step := nextStep
        edgeQueue := next.map EdgeDynamicState.queue
        edgeStock := next.map EdgeDynamicState.stock
        edgeTravelTime := next.map EdgeDynamicState.travelTime } }

end FastTick

section Spec

variable {ext : EdgeExtensions} {batch : List EdgeInput} {next : List EdgeDynamicState}
  {backend : EdgeEvolutionBackend}

/-- What the checks of an edge establish, whichever backend makes them. -/
structure EdgeInput.Valid (edge : EdgeInput) : Prop where
  queue_nonneg : 0 ≤ edge.queue
  queue_in_stock : edge.queue ≤ edge.stock
  inflow_nonneg : 0 ≤ edge.inflow
  outflow_nonneg : 0 ≤ edge.outflow
  free_flow_nonneg : 0 ≤ edge.freeFlowTime
  capacity_nonneg : 0 ≤ edge.capacity

structure EdgeDynamicState.Valid (edge : EdgeDynamicState) : Prop where
  queue_nonneg : 0 ≤ edge.queue
  queue_in_stock : edge.queue ≤ edge.stock
  travel_time_nonneg : 0 ≤ edge.travelTime

theorem EdgeInput.Valid.evolved {edge : EdgeInput} (h : edge.Valid) : (evolveEdge edge).Valid := by
  have stock_nonneg : 0 ≤ edge.stock := h.queue_nonneg.trans h.queue_in_stock
  have available : 0 ≤ edge.stock + edge.inflow := add_nonneg stock_nonneg h.inflow_nonneg
  have remaining : 0 ≤ (evolveEdge edge).stock := by
    unfold evolveEdge
    simp only
    split
    · linarith
    · have outflow := min_le_left (min edge.outflow (edge.stock + edge.inflow)) edge.capacity
      have within := min_le_right edge.outflow (edge.stock + edge.inflow)
      linarith
  have queue_nonneg : 0 ≤ (evolveEdge edge).queue := le_min (le_max_right _ _) remaining
  refine ⟨queue_nonneg, min_le_right _ _, add_nonneg h.free_flow_nonneg ?_⟩
  exact div_nonneg queue_nonneg (h.capacity_nonneg.trans (le_max_left _ _))

theorem update_edge_state_ok {edge : EdgeInput} {state : EdgeDynamicState}
    (h : updateEdgeState edge = .ok state) : edge.Valid ∧ state = evolveEdge edge := by
  simp only [updateEdgeState, validateEdge, bind_ok, raise_value_ok, not_lt, pure_ok] at h
  obtain ⟨_, ⟨_, queue, _, _, _, within, _, inflow, _, outflow, free⟩, ⟨_, capacity, rfl⟩⟩ := h
  exact ⟨⟨queue, within, inflow, outflow, free, capacity⟩, rfl⟩

theorem validate_batch_ok {u : Unit} (h : validateEdgeBatchForAccelerator batch = .ok u) :
    ∀ edge ∈ batch, edge.Valid := by
  simp only [validateEdgeBatchForAccelerator, bind_ok, raise_value_ok, not_exists, not_and,
    not_lt] at h
  obtain ⟨_, queue, _, _, _, within, _, inflow, _, outflow, _, free, capacity⟩ := h
  exact fun edge listed => ⟨queue edge listed, within edge listed, inflow edge listed,
    outflow edge listed, free edge listed, capacity edge listed⟩

theorem attempt_ok {required : Bool} {result : Except StepError (List EdgeDynamicState)}
    (h : attempt required result = .ok (some next)) : result = .ok next := by
  unfold attempt at h
  split at h
  · rw [Option.some.inj (Except.ok.inj h)]
  · split at h <;> cases h
  · cases h

theorem update_all_ok (h : batch.mapM updateEdgeState = .ok next) :
    (∀ edge ∈ batch, edge.Valid) ∧ next = batch.map evolveEdge := by
  induction batch generalizing next with
  | nil =>
    obtain rfl := pure_ok.mp h
    exact ⟨fun _ none => absurd none List.not_mem_nil, rfl⟩
  | cons edge batch ih =>
    rw [List.mapM_cons] at h
    obtain ⟨state, first, h⟩ := bind_ok.mp h
    obtain ⟨rest, later, h⟩ := bind_ok.mp h
    obtain rfl := pure_ok.mp h
    obtain ⟨valid, rfl⟩ := update_edge_state_ok first
    obtain ⟨others, rfl⟩ := ih later
    exact ⟨List.forall_mem_cons.mpr ⟨valid, others⟩, rfl⟩

theorem evolve_edges_ok (h : evolveEdges ext batch backend = .ok next) :
    (∀ edge ∈ batch, edge.Valid) ∧ next = batch.map evolveEdge := by
  have rust : ∀ found, evolveEdgesFastTickRust ext batch = .ok found →
      (∀ edge ∈ batch, edge.Valid) ∧ found = batch.map evolveEdge := by
    intro found ran
    obtain ⟨_, valid, ran⟩ := bind_ok.mp ran
    obtain ⟨_, _, ran⟩ := bind_ok.mp ran
    simp only [evolveEdgesBatchImpl, bind_ok, pure_ok] at ran
    obtain ⟨_, _, _, _, _, _, _, _, _, _, _, _, _, _, rfl⟩ := ran
    exact ⟨validate_batch_ok valid, rfl⟩
  have jax : ∀ found, evolveEdgesFastTickJax ext batch = .ok found →
      (∀ edge ∈ batch, edge.Valid) ∧ found = batch.map evolveEdge := by
    intro found ran
    obtain ⟨_, valid, ran⟩ := bind_ok.mp ran
    obtain ⟨_, _, ran⟩ := bind_ok.mp ran
    obtain ⟨_, _, ran⟩ := bind_ok.mp ran
    obtain rfl := pure_ok.mp ran
    exact ⟨validate_batch_ok valid, rfl⟩
  obtain ⟨compiled, first, h⟩ := bind_ok.mp h
  obtain ⟨accelerated, second, h⟩ := bind_ok.mp h
  split at h
  · rename_i found
    obtain rfl := pure_ok.mp h
    unfold tryJax at second
    split at second
    · exact jax _ (attempt_ok second)
    · obtain rfl := Except.ok.inj second
      unfold tryRust at first
      split at first
      · exact rust _ (attempt_ok first)
      · cases first
  · exact update_all_ok h

end Spec

end Metroflow.Multirate
