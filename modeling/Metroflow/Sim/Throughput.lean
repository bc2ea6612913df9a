import Metroflow.Flow.Windows
import Metroflow.Sim.OpenAdmission

namespace Metroflow.Sim

open Metroflow.Lib Metroflow.City Metroflow.Flow Metroflow.Demand

variable {p n m cap : ℕ} {w : World p n m} {flow flow' : FlowState n m} {l : Fin n}

/-- The input that hands a flow state on as it is. -/
def handOn (flow : FlowState n m) (storage : Option (MetaArray MetaNum)) : FlowInput n m where
  admitted _ := 0
  turnDemand := flow.nodeState.turnDemand
  sinkDemand := flow.nodeState.metadata.runtimeSinkDemandByLinkIndex
  capacityVehPerTick := flow.linkState.capacityVehPerTick
  incidentCapacityMultiplier := flow.linkState.incidentCapacityMultiplier
  storageCapacityVehicles := storage
  admitted_nonneg := none_nonneg
  demand_nonneg := flow.nodeState.demand_nonneg
  capacity_nonneg := flow.linkState.capacity_nonneg
  multiplier_unit := flow.linkState.multiplier_unit

theorem hand_on_feed (storage : Option (MetaArray MetaNum)) :
    (handOn flow storage).feed flow = flow := by
  simp [FlowInput.feed, handOn]

/-- What moves on a side of a link is paid from what that side held and from a capacity. -/
def Paid (moved : LinkState n → Fin n → ℚ) (side : PriorCredits n m → Fin n → ℚ)
    (flow flow' : FlowState n m) (capacity : ℚ) (l : Fin n) : Prop :=
  moved flow'.linkState l + held side flow' l ≤ held side flow l + (capacity + residualEpsilon)

/-- Both sides of a link pay for what they move, and with no capacity nothing moves. -/
structure Passes (flow flow' : FlowState n m) (capacity : ℚ) (l : Fin n) : Prop where
  outflow : Paid LinkState.outflowVehicles serviceSide flow flow' capacity l
  inflow : Paid LinkState.inflowVehicles receivingSide flow flow' capacity l
  closed : Float32Residuals flow → capacity = 0 →
    flow'.linkState.outflowVehicles l = 0 ∧ flow'.linkState.inflowVehicles l = 0

theorem Ticked.passes {rust : RustFlowKernel n m} {raw : Option (MetaArray MetaNum)}
    {arrays : FlowArrays n m} {k : TokenTick n m} (t : Ticked rust flow raw arrays k flow') :
    Float32Residuals flow' ∧
      ∀ l, Passes flow flow' (flow.linkState.effectiveCapacityVehicles l) l := by
  have fed : Ticked rust ((handOn flow raw).feed flow) (handOn flow raw).storageCapacityVehicles
      arrays k flow' := (hand_on_feed raw).symm ▸ t
  exact ⟨fed.float32_residuals, fun l =>
    ⟨fed.service_spend l, fed.receiving_spend l, fun start shut => fed.closed_link start shut⟩⟩

theorem advance_flow_passes (h : advanceFlowState w flow = .ok flow') :
    Float32Residuals flow' ∧
      ∀ l, Passes flow flow' (flow.linkState.effectiveCapacityVehicles l) l := by
  obtain ⟨_, _, h⟩ := bind_ok.mp h
  obtain ⟨result, updated, h⟩ := bind_ok.mp h
  obtain rfl := pure_ok.mp h
  obtain ⟨_, arrays, k, t⟩ := update_link_node_flow_ok.mp (map_error_ok.mp updated)
  obtain ⟨residuals, passes⟩ := Ticked.passes t
  exact ⟨residuals, fun l => ⟨(passes l).outflow, (passes l).inflow, (passes l).closed⟩⟩

/-- What a flow update reads of the ticks before it stays as it was. -/
def SameCredits (flow flow' : FlowState n m) : Prop :=
  (readPriorCredits flow'.linkState.metadata flow'.nodeState.metadata :
    Except FlowError (PriorCredits n m)) =
      readPriorCredits flow.linkState.metadata flow.nodeState.metadata

theorem Passes.before {ready : FlowState n m} {capacity : ℚ} (h : Passes ready flow' capacity l)
    (same : SameCredits flow ready) : Passes flow flow' capacity l := by
  have kept : ∀ side : PriorCredits n m → Fin n → ℚ, held side ready l = held side flow l := by
    intro side
    unfold held
    rw [same]
  refine ⟨?_, ?_, fun start => h.closed fun p read => start p (same ▸ read)⟩
  · rw [Paid, ← kept]
    exact h.outflow
  · rw [Paid, ← kept]
    exact h.inflow

section Ticks

variable {s s' : SimulationState p n m cap}

theorem due_credits (events : TrafficEventSchedulerState) :
    SameCredits s.flow (dueState w s events).flow := by
  obtain ⟨demand, activated, _⟩ := activate_due_keeps (s := applyEventEffectsToFlowState w
    { s with tickIndex := s.tickIndex + 1, events := events })
  rw [dueState, activated]
  unfold applyEventEffectsToFlowState
  dsimp only
  split
  · rfl
  · split <;> rfl

theorem rebuild_credits {node node' : NodeState n m} {pool : ActiveAgentPool cap}
    {skip : Finset (Fin cap)} (h : rebuildRuntimeTurnDemand w node pool skip = .ok node')
    (link : LinkState n) : SameCredits ⟨link, node⟩ ⟨link, node'⟩ := by
  obtain ⟨_, _, h⟩ := bind_ok.mp h
  obtain ⟨pass, _, h⟩ := bind_ok.mp h
  dsimp only at h
  split at h
  · cases h
  · cases h
  · obtain rfl := pure_ok.mp h
    rfl

/-- The vehicles that a link may pass in a tick under the active events. -/
def tickCapacity (w : World p n m) (s : SimulationState p n m cap) (l : Fin n) : ℚ :=
  (buildInitialLinkState w.net w.config).capacityVehPerTick l *
    computeIncidentCapacityMultiplierFromEvents w.net s.events.activeEvents l

/-- The residuals of a state that a run has reached, and the capacities of its links. -/
structure Supplied (w : World p n m) (s : SimulationState p n m cap) : Prop where
  residuals : Float32Residuals s.flow
  capacity : s.flow.linkState.capacityVehPerTick =
    (buildInitialLinkState w.net w.config).capacityVehPerTick

theorem Supplied.initial (w : World p n m) (trips : List TripRequest) :
    Supplied w (buildInitialSimulationState w trips : SimulationState p n m cap) where
  residuals p read l := by
    obtain rfl := Except.ok.inj read
    norm_num [residualUpper]
  capacity := rfl

/-- An executed tick passes what the capacities that its events leave allow. -/
theorem tick_passes {events : TrafficEventSchedulerState} {parts : TickParts p n m cap}
    (start : Supplied w s) (tick : parts.Of w (dueState w s events) s') :
    Supplied w s' ∧ ∀ l, Passes s.flow s'.flow (tickCapacity w s' l) l := by
  have mirrors := due_mirrors (w := w) (s := s) events
  obtain ⟨_, metadata, capacity, multiplier⟩ := apply_source_queue_increments_ok tick.queued
  obtain ⟨residuals, passes⟩ := advance_flow_passes tick.flowed
  have flow : s'.flow = parts.flow := by rw [tick.after]; rfl
  have now : s'.events = events := by rw [tick.after]; exact mirrors.events_eq
  have credits : SameCredits s.flow ⟨parts.link, parts.node⟩ := by
    refine (rebuild_credits tick.rebuilt parts.link).trans ?_
    rw [metadata]
    exact due_credits events
  have left : parts.link.effectiveCapacityVehicles = tickCapacity w s' := by
    funext l
    rw [LinkState.effectiveCapacityVehicles, capacity, multiplier, mirrors.capacity_kept,
      mirrors.mirrored, start.capacity, tickCapacity, now]
  refine ⟨⟨flow ▸ residuals, ?_⟩, fun l => ?_⟩
  · exact (tick.capacity_kept.trans mirrors.capacity_kept).trans start.capacity
  · rw [flow, ← left]
    exact (passes l).before credits

theorem supplied_step {input : RunInput} (start : Supplied w s)
    (h : advance w s input = .ok s') : Supplied w s' ∧
      if input.ticks then ∀ l, Passes s.flow s'.flow (tickCapacity w s' l) l
      else s'.flow = s.flow := by
  cases ticks : input.ticks with
  | false =>
    obtain ⟨_, _, same⟩ := advance_idle ticks h
    exact ⟨⟨same ▸ start.residuals, same ▸ start.capacity⟩, same⟩
  | true =>
    obtain ⟨events, parts, tick⟩ := advance_ticks ticks h
    exact tick_passes start tick

end Ticks

section Runs

variable {s s' : SimulationState p n m cap}
  {steps window : List (Taken (SimulationState p n m cap) RunInput)}

def executed (steps : List (Taken (SimulationState p n m cap) RunInput)) :
    List (Taken (SimulationState p n m cap) RunInput) :=
  steps.filter fun step => step.input.ticks

theorem sum_executed (f : Taken (SimulationState p n m cap) RunInput → ℚ) :
    (steps.map fun step => if step.input.ticks then f step else 0).sum =
      ((executed steps).map f).sum := by
  induction steps with
  | nil => rfl
  | cons step rest ih =>
    unfold executed at ih ⊢
    rw [List.map_cons, List.sum_cons, ih, List.filter_cons]
    split
    · rw [List.map_cons, List.sum_cons]
    · exact zero_add _

theorem window_paid {moved : LinkState n → Fin n → ℚ} {side : PriorCredits n m → Fin n → ℚ}
    (bounds : ∀ (flow : FlowState n m) l, 0 ≤ held side flow l ∧ held side flow l ≤ 2)
    (each : ∀ {flow flow' : FlowState n m} {capacity : ℚ}, Passes flow flow' capacity l →
      Paid moved side flow flow' capacity l)
    (start : Supplied w s) (run : Trace (advance w) s window s') :
    ((executed window).map fun tick => moved tick.after.flow.linkState l).sum ≤
      ((executed window).map fun tick => tickCapacity w tick.after l).sum + 2 +
        residualEpsilon * (executed window).length := by
  have bound := run.telescope (I := Supplied w) (fun s => held side s.flow l)
    (fun tick => if tick.input.ticks then moved tick.after.flow.linkState l else 0)
    (fun tick => if tick.input.ticks then tickCapacity w tick.after l + residualEpsilon else 0)
    start (fun _ _ _ supplied h => (supplied_step supplied h).1) fun s input s' supplied h => by
      have step := (supplied_step supplied h).2
      dsimp only
      split at step
      · rename_i ticks
        rw [if_pos ticks, if_pos ticks]
        exact each (step l)
      · rename_i idle
        rw [if_neg idle, if_neg idle, step, zero_add, add_zero]
  rw [sum_executed, sum_executed fun tick => tickCapacity w tick.after l + residualEpsilon,
    List.sum_map_add, List.map_const', List.sum_replicate, nsmul_eq_mul] at bound
  have before := (bounds s.flow l).2
  have later := (bounds s'.flow l).1
  linarith

end Runs

end Metroflow.Sim
