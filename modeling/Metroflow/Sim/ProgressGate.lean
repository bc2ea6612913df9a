import Metroflow.Sim.Coupling

namespace Metroflow.Sim

open Metroflow.Lib Metroflow.City Metroflow.Flow

variable {p n m cap : ℕ} {w : World p n m}

/-- The agents in lower slots that head for a movement. -/
def ahead (net : RoadNetworkCSR p n m) (lookup : TurnLookup m) (skip : Finset (Fin cap))
    (pool : ActiveAgentPool cap) (movement : Movement n m) (i : Fin cap) : ℕ :=
  (List.finRange cap).countP fun j => decide (j < i) && wants net lookup skip pool movement j

section Commit

variable {node : NodeState n m} {lookup : TurnLookup m} {pool : ActiveAgentPool cap}
  {skip : Finset (Fin cap)} {demand : DemandState} {sinkTokens : Fin n → ℕ}
  {last s s' : CommitPass n m cap} {committed : Committed cap} {i : Fin cap}

theorem fin_range_split (i : Fin cap) : ∃ past rest, List.finRange cap = past ++ i :: rest ∧
    (∀ j ∈ past, j < i) ∧ ∀ j ∈ rest, i < j := by
  obtain ⟨past, rest, split⟩ := List.append_of_mem (List.mem_finRange i)
  have sorted := List.pairwise_lt_finRange cap
  rw [split, List.pairwise_append, List.pairwise_cons] at sorted
  exact ⟨past, rest, split, fun j listed => sorted.2.2 j listed i List.mem_cons_self,
    sorted.2.1.1⟩

theorem ahead_of_split {net : RoadNetworkCSR p n m} {movement : Movement n m}
    {past rest : List (Fin cap)} (split : List.finRange cap = past ++ i :: rest)
    (below : ∀ j ∈ past, j < i) (above : ∀ j ∈ rest, i < j) :
    ahead net lookup skip pool movement i = past.countP (wants net lookup skip pool movement) := by
  have lower : past.countP (fun j => decide (j < i) && wants net lookup skip pool movement j) =
      past.countP (wants net lookup skip pool movement) :=
    List.countP_congr fun j listed => by simp [below j listed]
  have upper : rest.countP (fun j => decide (j < i) && wants net lookup skip pool movement j) = 0 :=
    List.countP_eq_zero.mpr fun j listed => by simp [(above j listed).not_gt]
  rw [ahead, split, List.countP_append, List.countP_cons, lower, upper]
  simp

theorem Commits.slot_changes_iff {net : RoadNetworkCSR p n m} (h : Commits net lookup skip s i s') :
    s'.pool.slots i ≠ s.pool.slots i ↔
      ∃ movement, wants net lookup skip s.pool movement i = true ∧ s.remaining movement ≠ 0 := by
  cases h with
  | waits spent =>
    refine ⟨fun changed => absurd rfl changed, ?_⟩
    rintro ⟨movement, wanted, left⟩
    obtain ⟨settled, heads⟩ := wants_iff.mp wanted
    exact absurd (spent movement settled heads) left
  | moves t nextLinkId settled heads left =>
    refine ⟨fun _ => ⟨.turn t, wants_iff.mpr ⟨settled, heads⟩, left⟩, fun _ same => ?_⟩
    have ptr := congrArg ActiveAgentSlot.remainingRoutePtr same
    simp [CommitPass.advance] at ptr
  | completes l _ settled heads left final released =>
    refine ⟨fun _ => ⟨.sink l, wants_iff.mpr ⟨settled, heads⟩, left⟩, fun _ same => ?_⟩
    obtain ⟨_, _, _, slots, _⟩ := complete_ok released
    have dead := congrArg ActiveAgentSlot.alive same
    rw [slots, Function.update_self, show (s.pool.slots i).alive = true from settled.1] at dead
    cases dead

theorem commit_leaves_iff
    (run : CommitRun w node pool demand skip lookup sinkTokens last committed) (i : Fin cap) :
    committed.pool.slots i ≠ pool.slots i ↔
      ∃ movement, wants w.net lookup skip pool movement i = true ∧
        ahead w.net lookup skip pool movement i <
          (firstPass node pool sinkTokens).remaining movement := by
  obtain ⟨past, rest, split, below, above⟩ := fin_range_split i
  have nodup := List.nodup_finRange cap
  have slots := run.slots
  rw [split] at nodup slots
  obtain ⟨nodup_past, nodup_rest, _⟩ := List.nodup_append.mp nodup
  have fresh : i ∉ past := fun listed => lt_irrefl i (below i listed)
  have later : i ∉ rest := fun listed => lt_irrefl i (above i listed)
  obtain ⟨before, first, slots⟩ := fold_append.mp slots
  obtain ⟨after, step, slots⟩ := fold_cons.mp slots
  have reached := Processed.run nodup_past first
  have finished := Processed.run (List.nodup_cons.mp nodup_rest).2 slots
  obtain ⟨slot, memory⟩ := reached.untouched i fresh
  have kept : committed.pool.slots i = after.pool.slots i := by
    rw [run.pool_eq]
    exact (finished.untouched i later).1
  have start : before.pool.slots i = pool.slots i := slot
  rw [kept, ← start, (commit_slot_ok step).slot_changes_iff]
  refine exists_congr fun movement => ?_
  rw [wants_congr slot memory, reached.left, ahead_of_split split below above]
  exact and_congr_right fun _ => Nat.sub_ne_zero_iff_lt

end Commit

/-- What the commit of a tick is given: the agents after their progress, the slots it
skips and the realized flow. -/
structure CommitInput (n m cap : ℕ) where
  pool : ActiveAgentPool cap
  skip : Finset (Fin cap)
  node : NodeState n m

/-- The phases of a step up to its commit. -/
def commitInput (w : World p n m) (s : SimulationState p n m cap) (control : SimulationControl) :
    Except SimError (CommitInput n m cap) := do
  let s ← advanceEventState (applyControlToState s control) control
  let due := activateDueTripRequests (applyEventEffectsToFlowState w s)
  let (ready, prepared) ← prepareRuntimeRoutingState w due
  let flow ← advanceFlowState w ready.flow
  return ⟨ready.pool, prepared.newlyAllocatedSlotIds, flow.nodeState⟩

namespace CommitInput

variable (w) (c : CommitInput n m cap)

/-- Every agent that leaves its link had reached the end of it. -/
def GateHeld (after : ActiveAgentPool cap) : Prop :=
  ∀ i, (c.pool.slots i).alive = true → after.slots i ≠ c.pool.slots i →
    1 - 1 / 1000000 ≤ (c.pool.slots i).progress01

/-- Of the agents that head for one movement, those at the end of their link hold
the lower slots. -/
def ArrivedFirst : Prop :=
  ∀ lookup, runtimeTurnIndexLookup w.net c.node = .ok lookup → ∀ movement i j,
    wants w.net lookup c.skip c.pool movement i = true →
    wants w.net lookup c.skip c.pool movement j = true →
    (c.pool.slots i).progress01 < 1 - 1 / 1000000 →
    1 - 1 / 1000000 ≤ (c.pool.slots j).progress01 → j < i

/-- No agent short of the end of its link has fewer agents ahead than its movement
was granted tokens. -/
def GrantsReachArrived : Prop :=
  ∀ lookup sinkTokens, runtimeTurnIndexLookup w.net c.node = .ok lookup →
    readSinkTokens c.node = .ok sinkTokens → ∀ movement i,
    wants w.net lookup c.skip c.pool movement i = true →
    (c.pool.slots i).progress01 < 1 - 1 / 1000000 →
    (firstPass c.node c.pool sinkTokens).remaining movement ≤
      ahead w.net lookup c.skip c.pool movement i

end CommitInput

section Runs

variable {s s' : SimulationState p n m cap} {c : CommitInput n m cap}

def CommitsFrom (w : World p n m) (taken : Taken (SimulationState p n m cap) RunInput)
    (c : CommitInput n m cap) : Prop :=
  ∃ control, taken.input = .step control ∧ control.pause = false ∧
    commitInput w taken.before control = .ok c

theorem commit_input_of_tick {taken : Taken (SimulationState p n m cap) RunInput}
    (given : CommitsFrom w taken c) (h : advance w taken.before taken.input = .ok taken.after) :
    ∃ events parts, TickParts.Of w (dueState w taken.before events) parts taken.after ∧
      c = ⟨parts.progressed, parts.admission.newlyAllocatedSlotIds, parts.flow.nodeState⟩ := by
  obtain ⟨control, input, running, computed⟩ := given
  rw [input] at h
  obtain ⟨next, advanced, h⟩ := bind_ok.mp h
  obtain ⟨next', same, computed⟩ := bind_ok.mp computed
  obtain rfl := Except.ok.inj (advanced.symm.trans same)
  obtain ⟨events, _, advanced⟩ := bind_ok.mp advanced
  obtain rfl := pure_ok.mp advanced
  simp only [running, applyControlToState] at h computed
  obtain ⟨⟨ready, prepared⟩, prepares, h⟩ := bind_ok.mp h
  obtain ⟨⟨ready', prepared'⟩, same, computed⟩ := bind_ok.mp computed
  obtain ⟨rfl, rfl⟩ := Prod.mk.inj (Except.ok.inj (prepares.symm.trans same))
  obtain ⟨flow, flowed, h⟩ := bind_ok.mp h
  obtain ⟨flow', same, computed⟩ := bind_ok.mp computed
  obtain rfl := Except.ok.inj (flowed.symm.trans same)
  obtain rfl := pure_ok.mp computed
  obtain ⟨committed, commits, h⟩ := bind_ok.mp h
  have after := (pure_ok.mp h).symm
  obtain ⟨parts, node, readies, rebuilt, rfl, rfl⟩ := prepare_ok prepares
  exact ⟨events, { parts with node := node, flow := flow, committed := committed },
    { readies with rebuilt := rebuilt, flowed := flowed, commits := commits, after := after }, rfl⟩

theorem gate_held_iff {taken : Taken (SimulationState p n m cap) RunInput}
    (given : CommitsFrom w taken c) (h : advance w taken.before taken.input = .ok taken.after) :
    c.GateHeld taken.after.pool ↔ c.GrantsReachArrived w := by
  obtain ⟨events, parts, tick, rfl⟩ := commit_input_of_tick given h
  obtain ⟨lookup, sinkTokens, last, run⟩ := commit_ok tick.commits
  have after : taken.after.pool = parts.committed.pool := by rw [tick.after]; rfl
  rw [after]
  constructor
  · intro gate lookup' sinkTokens' table sinks movement i wanted short
    obtain rfl := Except.ok.inj (run.table.symm.trans table)
    obtain rfl := Except.ok.inj (run.sinks.symm.trans sinks)
    by_contra granted
    refine absurd (gate i (wants_iff.mp wanted).1.1 ?_) (not_le.mpr short)
    exact (commit_leaves_iff run i).mpr ⟨movement, wanted, not_le.mp granted⟩
  · intro reach i _ leaves
    obtain ⟨movement, wanted, granted⟩ := (commit_leaves_iff run i).mp leaves
    by_contra short
    exact absurd (reach lookup sinkTokens run.table run.sinks movement i wanted (not_le.mp short))
      (not_le.mpr granted)

theorem grants_reach_arrived (spatial : w.config.trafficModel = .spatialQueueV1)
    {taken : Taken (SimulationState p n m cap) RunInput} (given : CommitsFrom w taken c)
    (h : advance w taken.before taken.input = .ok taken.after) (first : c.ArrivedFirst w) :
    c.GrantsReachArrived w := by
  obtain ⟨events, parts, tick, rfl⟩ := commit_input_of_tick given h
  obtain ⟨k, phase⟩ := advance_flow_ok tick.flowed
  obtain ⟨lookup, rebuilt⟩ := rebuild_ok tick.rebuilt
  intro lookup' sinkTokens table sinks movement i wanted short
  obtain rfl := Except.ok.inj ((commit_lookup rebuilt phase).symm.trans table)
  obtain rfl := Except.ok.inj ((read_sink_tokens_of_vector phase.sink_flow).symm.trans sinks)
  refine (tokens_within_demand rebuilt phase movement).trans (List.countP_mono_left fun j _ asks => ?_)
  simp only [asksFor, atExit, Bool.and_eq_true, decide_eq_true_eq] at asks
  obtain ⟨⟨settled, arrived⟩, heads⟩ := asks
  have wants_too := wants_iff.mpr ⟨settled, heads⟩
  simp [first lookup table movement i j wanted wants_too short (arrived spatial), wants_too]

/-- In a run of the spatial mode in which, at every commit, the arrived agents of each
movement hold its lower slots, no agent leaves a link before it has reached its end. -/
theorem gate_held_of_arrived_first {steps : List (Taken (SimulationState p n m cap) RunInput)}
    (spatial : w.config.trafficModel = .spatialQueueV1) (run : Trace (advance w) s steps s') :
    (∀ taken ∈ steps, ∀ c, CommitsFrom w taken c →
        (c.GateHeld taken.after.pool ↔ c.GrantsReachArrived w)) ∧
      ((∀ taken ∈ steps, ∀ c, CommitsFrom w taken c → c.ArrivedFirst w) →
        ∀ taken ∈ steps, ∀ c, CommitsFrom w taken c → c.GateHeld taken.after.pool) := by
  have exactly : ∀ taken ∈ steps, advance w taken.before taken.input = .ok taken.after :=
    run.forall_steps (I := fun _ => True) trivial (fun _ _ _ _ _ => trivial)
      fun _ _ _ _ step => step
  refine ⟨fun taken found c given => gate_held_iff given (exactly taken found), ?_⟩
  intro ordered taken found c given
  exact (gate_held_iff given (exactly taken found)).mpr
    (grants_reach_arrived spatial given (exactly taken found) (ordered taken found c given))

end Runs

/-- One vehicle at a time on the corridor: both trips share the only slot. -/
theorem gate_held_of_arrived_first_corridor :
    ∃ (steps : List (Taken (SimulationState 3 2 1 1) RunInput)) (s' : SimulationState 3 2 1 1),
      Trace (advance corridorWorld) (buildInitialSimulationState corridorWorld corridorTrips)
        steps s' ∧ steps.length = 4 ∧
      ∀ taken ∈ steps, ∀ c, CommitsFrom corridorWorld taken c → c.GateHeld taken.after.pool := by
  obtain ⟨s', run⟩ := ok_of_is_ok (x := (List.replicate 4 (RunInput.step {})).foldlM
    (advance corridorWorld)
    (buildInitialSimulationState corridorWorld corridorTrips : SimulationState 3 2 1 1))
    (by decide +kernel)
  obtain ⟨steps, trace, inputs⟩ := trace_of_fold run
  refine ⟨steps, s', trace, by simpa using congrArg List.length inputs,
    (gate_held_of_arrived_first rfl trace).2 fun taken _ c _ lookup _ movement i j _ _ short arrived => ?_⟩
  obtain rfl := Subsingleton.elim i j
  exact absurd arrived (not_le.mpr short)

/-- Whether the agent of slot 0 leaves its link in the third tick before its end. -/
def leavesEarly : Except SimError Bool := do
  let s ← (List.replicate 2 (RunInput.step {})).foldlM (advance corridorWorld) corridorStart
  let c ← commitInput corridorWorld s {}
  let s' ← advance corridorWorld s (.step {})
  return (c.pool.slots 0).alive && decide ((c.pool.slots 0).progress01 < 1 - 1 / 1000000) &&
    decide (s'.pool.slots 0 ≠ c.pool.slots 0)

/-- The agents of both trips head for the sink of the second link: the one in slot 0 is
halfway when the one in slot 1 arrives, and completes with its token. -/
theorem sink_token_of_other_agent : ¬ ∀ steps s',
    Trace (advance corridorWorld) corridorStart steps s' → ∀ taken ∈ steps, ∀ c,
      CommitsFrom corridorWorld taken c → c.GateHeld taken.after.pool := by
  intro claim
  have early : leavesEarly = .ok true := by decide +kernel
  obtain ⟨s₂, run, early⟩ := bind_ok.mp early
  obtain ⟨c, given, early⟩ := bind_ok.mp early
  obtain ⟨s₃, step, early⟩ := bind_ok.mp early
  simp only [pure_ok, Bool.and_eq_true, decide_eq_true_eq] at early
  obtain ⟨⟨alive, short⟩, leaves⟩ := early
  obtain ⟨steps, trace, _⟩ := trace_of_fold run
  have last : Trace (advance corridorWorld) corridorStart (steps ++ [⟨s₂, .step {}, s₃⟩]) s₃ :=
    trace_append.mpr ⟨s₂, trace, .next step (.done s₃)⟩
  have held := claim _ s₃ last ⟨s₂, .step {}, s₃⟩ (by simp) c ⟨{}, rfl, rfl, given⟩
  exact absurd (held 0 alive leaves) (not_le.mpr short)

end Metroflow.Sim
