import Metroflow.Multirate.Orchestrator

namespace Metroflow.Multirate

open Metroflow.Lib

variable {ext : EdgeExtensions} {world next : WorldState} {schedule : TickSchedule}
  {input : StepInput} {decision : SchedulerDecision}

section Fast

theorem evolve_fast_ok {fast : FastTickInput} (h : evolveEdgesFastTick ext world fast = .ok next) :
    ∃ traffic, next = { world with traffic := traffic } ∧ traffic.step = world.traffic.step + 1 ∧
      (TrafficContract world.graph.numEdges world.traffic →
        TrafficContract world.graph.numEdges traffic) := by
  unfold evolveEdgesFastTick at h
  simp only at h
  split at h
  · obtain rfl := Except.ok.inj h
    refine ⟨_, rfl, rfl, fun t => ?_⟩
    exact ⟨t.queue_length, t.stock_length, t.travel_time_length, t.movement_nonneg, t.queue_nonneg,
      t.stock_nonneg, t.travel_time_nonneg, t.queue_in_stock⟩
  · obtain ⟨_, _, h⟩ := bind_ok.mp h
    obtain ⟨_, _, h⟩ := bind_ok.mp h
    obtain ⟨_, _, h⟩ := bind_ok.mp h
    obtain ⟨inflow, _, h⟩ := bind_ok.mp h
    obtain ⟨outflow, _, h⟩ := bind_ok.mp h
    obtain ⟨freeFlow, _, h⟩ := bind_ok.mp h
    obtain ⟨capacity, _, h⟩ := bind_ok.mp h
    obtain ⟨edges, evolved, h⟩ := bind_ok.mp h
    obtain rfl := pure_ok.mp h
    obtain ⟨valid, rfl⟩ := evolve_edges_ok evolved
    refine ⟨_, rfl, rfl, fun t => ?_⟩
    have edge_valid : ∀ edge ∈ (edgeBatch world inflow outflow freeFlow capacity).map evolveEdge,
        edge.Valid := by
      intro edge listed
      obtain ⟨before, from_batch, rfl⟩ := List.mem_map.mp listed
      exact (valid before from_batch).evolved
    have length : (((edgeBatch world inflow outflow freeFlow capacity).map evolveEdge).length : ℤ) =
        world.graph.numEdges := by
      have nonneg : 0 ≤ world.graph.numEdges := t.queue_length ▸ Int.natCast_nonneg _
      simp [edgeBatch, nonneg]
    refine ⟨?_, ?_, ?_, t.movement_nonneg, ?_, ?_, ?_, ?_⟩
    · rw [List.length_map, length]
    · rw [List.length_map, length]
    · rw [List.length_map, length]
    · exact List.forall_mem_map.mpr fun edge listed => (edge_valid edge listed).queue_nonneg
    · exact List.forall_mem_map.mpr fun edge listed =>
        (edge_valid edge listed).queue_nonneg.trans (edge_valid edge listed).queue_in_stock
    · exact List.forall_mem_map.mpr fun edge listed => (edge_valid edge listed).travel_time_nonneg
    · rw [List.zip_map']
      exact List.forall_mem_map.mpr fun edge listed => (edge_valid edge listed).queue_in_stock

theorem ContractButLag.evolved {fast : FastTickInput} (h : ContractButLag world)
    (run : evolveEdgesFastTick ext world fast = .ok next) :
    ContractButLag next ∧ next.accessibility = world.accessibility ∧
      next.traffic.step = world.traffic.step + 1 := by
  obtain ⟨traffic, rfl, step, kept⟩ := evolve_fast_ok run
  exact ⟨⟨h.graph, h.graph_version, kept h.traffic, h.demand, ⟨h.versions.accessibility_version,
    h.versions.graph_version, h.versions.landuse_version, h.versions.version, h.versions.policy,
    h.versions.journal⟩, h.landuse, h.zonal⟩, rfl, step⟩

end Fast

section Medium

theorem validate_medium_ok {u : Unit} (h : validateMediumInputs world input = .ok u) :
    (input.zoneOpportunities.getD []).length = world.landuse.zoneLabels.length ∧
      (input.zonalTravelTimes.getD []).length = world.landuse.zoneLabels.length ∧
      ∀ row ∈ input.zonalTravelTimes.getD [], row.length = world.landuse.zoneLabels.length := by
  unfold validateMediumInputs at h
  split at h
  · rename_i times opportunities given_times given_opportunities
    simp only [bind_ok, raise_value_ok, not_not, not_exists, not_and] at h
    obtain ⟨_, zones, _, dimension, rows⟩ := h
    rw [given_times, given_opportunities]
    exact ⟨zones, dimension, rows⟩
  · cases h

theorem ContractButLag.measured (h : ContractButLag world)
    (checked : validateMediumInputs world input = .ok ())
    (run : mediumUpdate world input = .ok next) :
    ContractButLag next ∧ next.traffic = world.traffic ∧
      LagContract (world.traffic.step + 1) next.accessibility := by
  obtain ⟨zones, dimension, rows⟩ := validate_medium_ok checked
  obtain ⟨snapshot, computed, run⟩ := bind_ok.mp run
  obtain rfl := pure_ok.mp run
  simp only [computeAccessibilitySnapshot, bind_ok, raise_value_ok, pure_ok, not_exists, not_and,
    not_lt] at computed
  obtain ⟨_, _, _, _, _, times, _, opportunities, rfl⟩ := computed
  refine ⟨⟨h.graph, h.graph_version, h.traffic, h.demand, ?_, h.landuse, ?_⟩, rfl, ?_⟩
  · exact ⟨add_nonneg h.versions.accessibility_version zero_le_one, h.graph_version,
      h.versions.version, h.versions.version, h.versions.policy, h.versions.journal⟩
  · refine ⟨.inr ?_, List.forall_mem_map.mpr fun row listed => ?_,
      List.forall_mem_map.mpr fun row listed cost found => ?_⟩
    · exact (List.length_map _).trans dimension
    · rw [List.length_zipWith, rows row listed, zones]
      exact min_self _
    · obtain ⟨i, inside, rfl⟩ := List.mem_iff_getElem.mp found
      have within : i < row.length := by
        rw [List.length_zipWith] at inside
        exact inside.trans_le (min_le_left _ _)
      rw [List.getElem_zipWith]
      have time := times row listed _ (List.getElem_mem within)
      exact div_nonneg time (zero_le_one.trans (le_max_right _ _))
  · refine ⟨fun none => if_pos none, fun some => ?_⟩
    exact lt_of_eq_of_lt (if_neg some) (lt_add_one _)

end Medium

section Slow

theorem apply_landuse_delta_length {current delta : List ℚ} (same : delta.length = current.length) :
    (applyLanduseDelta current delta).length = current.length := by
  rw [applyLanduseDelta, List.length_zipWith, same, min_self]

theorem apply_landuse_delta_nonneg {current delta : List ℚ} :
    ∀ capacity ∈ applyLanduseDelta current delta, 0 ≤ capacity := by
  unfold applyLanduseDelta
  intro capacity listed
  obtain ⟨i, inside, rfl⟩ := List.mem_iff_getElem.mp listed
  rw [List.getElem_zipWith]
  exact le_max_right _ _

theorem StateContract.grown {preCall : AccessibilityState} (h : StateContract world)
    (provenance : 0 ≤ preCall.graphVersion ∧ 0 ≤ preCall.landuseVersion)
    (run : slowUpdate world preCall = .ok next) :
    StateContract next ∧ next.traffic = world.traffic := by
  obtain ⟨lagged, _, run⟩ := bind_ok.mp run
  obtain ⟨delta, fed, run⟩ := bind_ok.mp run
  obtain rfl := pure_ok.mp run
  simp only [applyLaggedLanduseFeedback, bind_ok, raise_value_ok, pure_ok, not_or, not_not] at fed
  obtain ⟨_, ⟨housing, jobs⟩, _, _, _, _, rfl⟩ := fed
  refine ⟨⟨⟨h.graph, h.graph_version, h.traffic, h.demand, ?_, ?_, ?_⟩, ?_⟩, rfl⟩
  · exact ⟨add_nonneg h.versions.accessibility_version zero_le_one, provenance.1, provenance.2,
      add_nonneg h.versions.version zero_le_one, h.versions.policy, h.versions.journal⟩
  · refine ⟨?_, ?_, apply_landuse_delta_nonneg, apply_landuse_delta_nonneg⟩
    · exact (apply_landuse_delta_length (by simpa using housing)).trans h.landuse.housing_length
    · exact (apply_landuse_delta_length (by simpa using jobs)).trans h.landuse.jobs_length
  · exact ⟨.inl rfl, fun _ none => absurd none List.not_mem_nil,
      fun _ none => absurd none List.not_mem_nil⟩
  · exact ⟨fun _ => rfl, fun some => absurd rfl some⟩

end Slow

section Step

theorem check_due_ok {due : Bool} {check : Except StepError Unit} {u : Unit} :
    checkDue due check = .ok u ↔ (due = true → check = .ok ()) := by
  cases due <;> simp [checkDue]

/-- What the entry checks establish. -/
structure Entered (world : WorldState) (schedule : TickSchedule) (input : StepInput)
    (decision : SchedulerDecision) : Prop where
  fast_pos : 0 < schedule.fastEvery
  fast : decision.runFast = decide (world.traffic.step % schedule.fastEvery = 0)
  medium_fast : decision.runMedium = true → decision.runFast = true
  apart : decision.runMedium = true → decision.runSlow = false
  medium : decision.runMedium = true → validateMediumInputs world input = .ok ()

theorem enter_step_ok (h : enterStep world schedule input = .ok decision) :
    Entered world schedule input decision := by
  simp only [enterStep, schedulerDecision, shouldRun, bind_ok, raise_value_ok, pure_ok, not_and,
    not_lt, not_le, Bool.not_eq_false, Bool.not_eq_true, check_due_ok] at h
  obtain ⟨_, ⟨_, _, runFast, ⟨_, _, _, positive, rfl⟩, runMedium, _, runSlow, _, rfl⟩, _, fast, _,
    apart, _, medium, _, _, rfl⟩ := h
  exact ⟨positive, rfl, fast, apart, medium⟩

structure Updates (ext : EdgeExtensions) (world : WorldState) (decision : SchedulerDecision)
    (input : StepInput) (measured evolved next : WorldState) : Prop where
  medium : updateDue world decision.runMedium (mediumUpdate world input) = .ok measured
  fast : updateDue measured decision.runFast
    (evolveEdgesFastTick ext measured input.toFastTickInput) = .ok evolved
  slow : updateDue evolved decision.runSlow (slowUpdate evolved world.accessibility) = .ok next

theorem update_world_ok : updateWorld ext world decision input = .ok next ↔
    ∃ measured evolved, Updates ext world decision input measured evolved next := by
  simp only [updateWorld, bind_ok]
  constructor
  · rintro ⟨measured, medium, evolved, fast, slow⟩
    exact ⟨measured, evolved, medium, fast, slow⟩
  · rintro ⟨measured, evolved, medium, fast, slow⟩
    exact ⟨measured, medium, evolved, fast, slow⟩

/-- Each update keeps the contract, but that a fresh snapshot lags only once the
fast tick, which is then due, has moved the step on. -/
structure UpdatesKeep (world : WorldState) (decision : SchedulerDecision)
    (measured evolved next : WorldState) : Prop where
  after_medium : ContractButLag measured
  unmeasured : decision.runMedium = false → StateContract measured
  after_fast : StateContract evolved
  after_slow : StateContract next
  step_eq : next.traffic.step =
    if decision.runFast = true then world.traffic.step + 1 else world.traffic.step

theorem Updates.keep {measured evolved : WorldState}
    (h : Updates ext world decision input measured evolved next)
    (entered : Entered world schedule input decision) (contract : StateContract world) :
    UpdatesKeep world decision measured evolved next := by
  obtain ⟨medium, fast, slow⟩ := h
  have start : ContractButLag measured ∧ measured.traffic = world.traffic ∧
      LagContract (world.traffic.step + 1) measured.accessibility ∧
        (decision.runMedium = false → measured = world) := by
    cases due : decision.runMedium with
    | true =>
      rw [due] at medium
      obtain ⟨kept, traffic, lag⟩ := contract.toContractButLag.measured (entered.medium due) medium
      exact ⟨kept, traffic, lag, fun none => by cases none⟩
    | false =>
      rw [due] at medium
      obtain rfl := Except.ok.inj medium
      refine ⟨contract.toContractButLag, rfl, ⟨contract.lag.cleared, fun some => ?_⟩, fun _ => rfl⟩
      exact (contract.lag.lagged some).trans (lt_add_one _)
  obtain ⟨but_lag, traffic, lag, idle⟩ := start
  have middle : StateContract evolved ∧ evolved.traffic.step =
      if decision.runFast = true then world.traffic.step + 1 else world.traffic.step := by
    cases due : decision.runFast with
    | true =>
      rw [due] at fast
      obtain ⟨kept, accessibility, step⟩ := but_lag.evolved fast
      rw [traffic] at step
      exact ⟨⟨kept, accessibility ▸ step ▸ lag⟩, by simp [step]⟩
    | false =>
      rw [due] at fast
      obtain rfl := Except.ok.inj fast
      have unmeasured : decision.runMedium = false := by
        by_contra measuring
        rw [entered.medium_fast (Bool.not_eq_false _ ▸ measuring)] at due
        cases due
      rw [idle unmeasured]
      exact ⟨contract, by simp⟩
  obtain ⟨kept, step⟩ := middle
  have finish : StateContract next ∧ next.traffic = evolved.traffic := by
    cases due : decision.runSlow with
    | true =>
      rw [due] at slow
      exact kept.grown ⟨contract.versions.graph_version, contract.versions.landuse_version⟩ slow
    | false =>
      rw [due] at slow
      obtain rfl := Except.ok.inj slow
      exact ⟨kept, rfl⟩
  obtain ⟨last, same⟩ := finish
  exact ⟨but_lag, fun none => idle none ▸ contract, kept, last, by rw [same, step]⟩

theorem step_world_step (h : stepWorld ext world schedule input = .ok next) :
    next.traffic.step =
      if world.traffic.step % schedule.fastEvery = 0 then world.traffic.step + 1
      else world.traffic.step := by
  obtain ⟨_, contract, h⟩ := bind_ok.mp h
  obtain ⟨decision, enters, h⟩ := bind_ok.mp h
  have entered := enter_step_ok enters
  have contract := validate_state_contract_ok.mp contract
  split at h
  · obtain ⟨nextWorld, updates, h⟩ := bind_ok.mp h
    obtain ⟨_, _, h⟩ := bind_ok.mp h
    obtain rfl := pure_ok.mp h
    obtain ⟨measured, evolved, updates⟩ := update_world_ok.mp updates
    rw [(updates.keep entered contract).step_eq, entered.fast]
    simp only [decide_eq_true_eq]
  · rename_i idle
    obtain rfl := pure_ok.mp h
    have rests : decision.runFast = false := by
      cases due : decision.runFast with
      | true => simp [due] at idle
      | false => rfl
    rw [entered.fast, decide_eq_false_iff_not] at rests
    rw [if_neg rests]

/-- The runs of a world under one schedule, over the calls that raise nothing. -/
abbrev Run (ext : EdgeExtensions) (schedule : TickSchedule) :=
  Trace fun world input => stepWorld ext world schedule input

/-- No run of further calls advances the simulated time. -/
def Stalled (ext : EdgeExtensions) (schedule : TickSchedule) (world : WorldState) : Prop :=
  ∀ steps last, Run ext schedule world steps last → last.traffic.step = world.traffic.step

theorem stalled_of_no_fast (off : world.traffic.step % schedule.fastEvery ≠ 0) :
    Stalled ext schedule world := by
  intro steps last run
  refine run.invariant (I := fun w => w.traffic.step = world.traffic.step) rfl ?_
  intro w input w' same step
  rw [step_world_step step, same, if_neg off]

theorem no_fast_after (sparse : 1 < schedule.fastEvery)
    (h : stepWorld ext world schedule input = .ok next) :
    next.traffic.step % schedule.fastEvery ≠ 0 := by
  rw [step_world_step h]
  split
  · rename_i due
    rw [Int.add_emod, due, zero_add, Int.emod_emod_of_dvd _ (dvd_refl _),
      Int.emod_eq_of_lt zero_le_one sparse]
    exact one_ne_zero
  · assumption

/-- A town of one street and one zone, at its third step. -/
def townWorld : WorldState where
  graph := { numNodes := 2, numEdges := 1, edgeSrc := [0], edgeDst := [1], edgeClass := ["road"] }
  traffic := { step := 2, edgeQueue := [0], edgeStock := [1], edgeTravelTime := [0] }
  landuse := { zoneLabels := ["core"], housingCapacity := [100], jobsCapacity := [120] }

def townInput : StepInput where
  zonalTravelTimes := some [[4]]
  zoneOpportunities := some [2]

theorem town_contract : StateContract townWorld :=
  validate_state_contract_ok.mp (by decide +kernel)

theorem town_updates : ∃ measured evolved next,
    Updates {} townWorld ⟨true, true, false⟩ townInput measured evolved next ∧
      stepWorld {} townWorld ⟨1, 2, 5⟩ townInput = .ok next := by
  obtain ⟨next, step⟩ := ok_of_is_ok (x := stepWorld {} townWorld ⟨1, 2, 5⟩ townInput)
    (by decide +kernel)
  obtain ⟨_, _, rest⟩ := bind_ok.mp step
  obtain ⟨decision, enters, rest⟩ := bind_ok.mp rest
  have due : enterStep townWorld ⟨1, 2, 5⟩ townInput = .ok ⟨true, true, false⟩ := by
    decide +kernel
  obtain rfl := Except.ok.inj (due.symm.trans enters)
  obtain ⟨updated, updates, rest⟩ := bind_ok.mp rest
  obtain ⟨_, _, rest⟩ := bind_ok.mp rest
  obtain rfl := pure_ok.mp rest
  obtain ⟨measured, evolved, updates⟩ := update_world_ok.mp updates
  exact ⟨measured, evolved, updated, updates, step⟩

/-- A schedule whose cadences are positive and ordered. -/
def TickSchedule.Ordered (schedule : TickSchedule) : Prop :=
  0 < schedule.fastEvery ∧ schedule.fastEvery ≤ schedule.mediumEvery ∧
    schedule.mediumEvery ≤ schedule.slowEvery

end Step

end Metroflow.Multirate
