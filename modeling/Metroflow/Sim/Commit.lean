import Metroflow.Sim.TurnDemand

namespace Metroflow.Sim

open Metroflow.Lib Metroflow.City Metroflow.Flow

variable {p n m cap : ℕ}

/-- The pool and the tokens that are left while they are handed to the agents. -/
structure CommitPass (n m cap : ℕ) where
  pool : ActiveAgentPool cap
  remainingTurnTokens : Fin m → ℕ
  remainingSinkTokens : Fin n → ℕ
  completedTripIds : Finset ℤ := ∅

namespace CommitPass

variable (s : CommitPass n m cap) (i : Fin cap)

/-- The agent takes a token of its turn and starts its next link. -/
def advance (t : Fin m) (nextLinkId : ℤ) : CommitPass n m cap :=
  let slot := s.pool.slots i
  { s with
    pool := s.pool.withSlot i { slot with
      remainingRoutePtr := slot.remainingRoutePtr + 1
      currentLinkId := nextLinkId
      progress01 := 0
      rerouteCooldownTicks := slot.rerouteCooldownTicks - 1 }
    remainingTurnTokens := Function.update s.remainingTurnTokens t (s.remainingTurnTokens t - 1) }

/-- The agent takes a token of its sink and leaves the pool. -/
def complete (l : Fin n) : Except SimError (CommitPass n m cap) := do
  let pool ← releaseSlot s.pool i
  return { s with
    pool := pool
    remainingSinkTokens := Function.update s.remainingSinkTokens l (s.remainingSinkTokens l - 1)
    completedTripIds := insert (s.pool.slots i).tripId s.completedTripIds }

@[simp]
theorem advance_turn_tokens (t : Fin m) (nextLinkId : ℤ) :
    (s.advance i t nextLinkId).remainingTurnTokens =
      Function.update s.remainingTurnTokens t (s.remainingTurnTokens t - 1) := rfl

@[simp]
theorem advance_sink_tokens (t : Fin m) (nextLinkId : ℤ) :
    (s.advance i t nextLinkId).remainingSinkTokens = s.remainingSinkTokens := rfl

def remaining : Movement n m → ℕ
  | .turn t => s.remainingTurnTokens t
  | .sink l => s.remainingSinkTokens l

end CommitPass

/-- One slot of the commit: its agent moves, completes or waits. -/
def commitSlot (net : RoadNetworkCSR p n m) (lookup : TurnLookup m) (skip : Finset (Fin cap))
    (s : CommitPass n m cap) (i : Fin cap) : Except SimError (CommitPass n m cap) :=
  let slot := s.pool.slots i
  let memory := s.pool.memory i
  let path := memory.routePath
  if slot.alive = false ∨ i ∈ skip then .ok s
  else do
    validateSlotTripIdentity i slot memory
    if path[slot.remainingRoutePtr]? ≠ some slot.currentLinkId then return s
    else do
      validateRoutePathAuthority net lookup path slot.destNodeId (.slot i)
      if slot.remainingRoutePtr + 1 = path.length then
        match net.linkIdToIndex slot.currentLinkId with
        | none => .error (.finalLinkAbsent i slot.currentLinkId)
        | some l =>
          if (net.links l).dstNodeId ≠ slot.destNodeId then
            .error (.route (.slot i) (.wrongDestination slot.currentLinkId
              (net.links l).dstNodeId slot.destNodeId))
          else if s.remainingSinkTokens l = 0 then return s
          else s.complete i l
      else
        let nextLinkId := path.getD (slot.remainingRoutePtr + 1) (-1)
        match lookup slot.currentLinkId nextLinkId with
        | none => return s
        | some t =>
          if s.remainingTurnTokens t = 0 then return s
          else return s.advance i t nextLinkId

def tokensOf (flow : ℚ) : ℕ := ⌊max flow 0 + vehicleTolerance⌋.toNat

/-- The sink tokens that the flow update left in the node metadata. -/
def readSinkTokens (node : NodeState n m) : Except SimError (Fin n → ℕ) :=
  match node.metadata.runtimeSinkFlowByLinkIndex with
  | none => .ok fun _ => 0
  | some stored =>
    match stored.exactly n with
    | none => .error .sinkFlowShape
    | some flow => .ok fun l => tokensOf (flow l).value

/-- What a commit returns. -/
structure Committed (cap : ℕ) where
  pool : ActiveAgentPool cap
  demand : DemandState
  completedCount : ℕ

/-- Commits the agents using realized turn and sink tokens; all must be used up. -/
def commitRuntimeActiveAgentFlows (w : World p n m) (node : NodeState n m)
    (pool : ActiveAgentPool cap) (demand : DemandState) (skip : Finset (Fin cap)) :
    Except SimError (Committed cap) := do
  raiseIf (w.config.agentBackend = .rustCpu) .rustAgentBackend
  let sinkTokens ← readSinkTokens node
  let lookup ← runtimeTurnIndexLookup w.net node
  let pass ← (List.finRange cap).foldlM (commitSlot w.net lookup skip) {
    pool := pool
    remainingTurnTokens := fun t => tokensOf (node.turnFlow t)
    remainingSinkTokens := sinkTokens }
  raiseIf ((∃ t, pass.remainingTurnTokens t ≠ 0) ∨ ∃ l, pass.remainingSinkTokens l ≠ 0)
    .tokensNotReconciled
  return {
    pool := pass.pool
    demand := { demand with
      completedTripRequestIds := demand.completedTripRequestIds ∪ pass.completedTripIds
      : DemandState }.withLifecycleCounts
    completedCount := pass.completedTripIds.card }

section Spec

variable {net : RoadNetworkCSR p n m} {lookup : TurnLookup m} {skip : Finset (Fin cap)}
  {s s' : CommitPass n m cap} {i : Fin cap}

inductive Commits (net : RoadNetworkCSR p n m) (lookup : TurnLookup m) (skip : Finset (Fin cap))
    (s : CommitPass n m cap) (i : Fin cap) : CommitPass n m cap → Prop
  | waits (spent : ∀ movement, Settled s.pool skip i → heading net lookup s.pool i = some movement →
      s.remaining movement = 0) : Commits net lookup skip s i s
  | moves (t : Fin m) (nextLinkId : ℤ) (settled : Settled s.pool skip i)
      (heads : heading net lookup s.pool i = some (.turn t)) (left : s.remaining (.turn t) ≠ 0)
      (here : (s.pool.memory i).routePath[(s.pool.slots i).remainingRoutePtr]? =
        some (s.pool.slots i).currentLinkId)
      (next : (s.pool.memory i).routePath[(s.pool.slots i).remainingRoutePtr + 1]? =
        some nextLinkId)
      (found : lookup (s.pool.slots i).currentLinkId nextLinkId = some t) :
      Commits net lookup skip s i (s.advance i t nextLinkId)
  | completes (l : Fin n) (s' : CommitPass n m cap) (settled : Settled s.pool skip i)
      (heads : heading net lookup s.pool i = some (.sink l)) (left : s.remaining (.sink l) ≠ 0)
      (final : net.linkIdToIndex (s.pool.slots i).currentLinkId = some l)
      (released : s.complete i l = .ok s') : Commits net lookup skip s i s'

theorem commit_slot_ok (h : commitSlot net lookup skip s i = .ok s') :
    Commits net lookup skip s i s' := by
  unfold commitSlot at h
  simp only at h
  split at h
  · rename_i absent
    obtain rfl := Except.ok.inj h
    exact .waits fun _ settled => absurd settled (not_settled_of_check absent)
  · rename_i present
    have settled := settled_of_checks present
    obtain ⟨_, identity, h⟩ := bind_ok.mp h
    split at h
    · rename_i astray
      obtain rfl := pure_ok.mp h
      exact .waits fun _ _ heads => by simp [heading, headingOn, astray] at heads
    · rename_i here
      have here := not_not.mp here
      obtain ⟨_, legal, h⟩ := bind_ok.mp h
      have legal := (validate_route_ok net).mp legal
      rcases legal.intent net here with ⟨l, final, known, arrives, sink⟩ | ⟨t, next, more, found, turn⟩
      · have heads : heading net lookup s.pool i = some (.sink l) := by
          simp only [heading, headingOn, here, if_true, sink]
        simp only [final, if_true, known, arrives, ne_eq, not_true_eq_false, if_false] at h
        split at h
        · rename_i empty
          obtain rfl := pure_ok.mp h
          refine .waits fun movement _ same => ?_
          obtain rfl := Option.some.inj (heads.symm.trans same)
          exact empty
        · rename_i left
          exact .completes l s' settled heads left known h
      · have heads : heading net lookup s.pool i = some (.turn t) := by
          simp only [heading, headingOn, here, if_true, turn]
        obtain ⟨inside, _⟩ := List.getElem?_eq_some_iff.mp more
        have next_link : (s.pool.memory i).routePath.getD
            ((s.pool.slots i).remainingRoutePtr + 1) (-1) = next := by
          simp [List.getD_eq_getElem?_getD, more]
        simp only [Nat.ne_of_lt inside, if_false, next_link, found] at h
        split at h
        · rename_i empty
          obtain rfl := pure_ok.mp h
          refine .waits fun movement _ same => ?_
          obtain rfl := Option.some.inj (heads.symm.trans same)
          exact empty
        · rename_i left
          obtain rfl := pure_ok.mp h
          exact .moves t next settled heads left here more found

/-- A settled agent that heads for a movement, at the end of its link or not. -/
def wants (net : RoadNetworkCSR p n m) (lookup : TurnLookup m) (skip : Finset (Fin cap))
    (pool : ActiveAgentPool cap) (movement : Movement n m) (i : Fin cap) : Bool :=
  decide (Settled pool skip i) && decide (heading net lookup pool i = some movement)

theorem wants_iff {pool : ActiveAgentPool cap} {movement : Movement n m} :
    wants net lookup skip pool movement i = true ↔
      Settled pool skip i ∧ heading net lookup pool i = some movement := by
  simp [wants]

theorem heading_congr {pool pool' : ActiveAgentPool cap} (slots : pool'.slots i = pool.slots i)
    (memory : pool'.pluginMemory i = pool.pluginMemory i) :
    heading net lookup pool' i = heading net lookup pool i := by
  simp only [heading, ActiveAgentPool.memory, slots, memory]

theorem wants_congr {pool pool' : ActiveAgentPool cap} {movement : Movement n m}
    (slots : pool'.slots i = pool.slots i) (memory : pool'.pluginMemory i = pool.pluginMemory i) :
    wants net lookup skip pool' movement i = wants net lookup skip pool movement i := by
  rw [Bool.eq_iff_iff, wants_iff, wants_iff, heading_congr slots memory, Settled, Settled,
    ActiveAgentPool.alive, ActiveAgentPool.alive, slots]

theorem complete_ok {l : Fin n} (h : s.complete i l = .ok s') :
    s.pool.aliveCount ≠ 0 ∧ s'.pool.freeSlotStack = i :: s.pool.freeSlotStack ∧
      s'.pool.aliveCount = s.pool.aliveCount - 1 ∧
      s'.pool.slots = Function.update s.pool.slots i {} ∧
      s'.pool.pluginMemory = Function.update s.pool.pluginMemory i none ∧
      s'.remainingTurnTokens = s.remainingTurnTokens ∧
      s'.remainingSinkTokens =
        Function.update s.remainingSinkTokens l (s.remainingSinkTokens l - 1) ∧
      s'.completedTripIds = insert (s.pool.slots i).tripId s.completedTripIds := by
  obtain ⟨pool, released, h⟩ := bind_ok.mp h
  obtain rfl := pure_ok.mp h
  obtain ⟨some, stack, count, slots, memory⟩ := release_ok.mp released
  exact ⟨some, stack, count, slots, memory, rfl, rfl, rfl⟩

namespace Commits

theorem frame (h : Commits net lookup skip s i s') {j : Fin cap} (apart : j ≠ i) :
    s'.pool.slots j = s.pool.slots j ∧ s'.pool.pluginMemory j = s.pool.pluginMemory j := by
  cases h with
  | waits => exact ⟨rfl, rfl⟩
  | moves => exact ⟨Function.update_of_ne apart _ _, rfl⟩
  | completes l _ _ _ _ _ released =>
    obtain ⟨_, _, _, slots, memory, _⟩ := complete_ok released
    rw [slots, memory]
    exact ⟨Function.update_of_ne apart _ _, Function.update_of_ne apart _ _⟩

theorem remaining_eq (h : Commits net lookup skip s i s') (movement : Movement n m) :
    s'.remaining movement =
      s.remaining movement - if wants net lookup skip s.pool movement i then 1 else 0 := by
  cases h with
  | waits spent =>
    split
    · rename_i wanted
      obtain ⟨settled, heads⟩ := wants_iff.mp wanted
      simp [spent movement settled heads]
    · rfl
  | moves t nextLinkId settled heads left here next found =>
    simp only [wants, settled, heads, decide_true, Bool.true_and, decide_eq_true_eq,
      Option.some.injEq]
    cases movement with
    | turn t' =>
      by_cases same : t = t'
      · subst same
        simp [CommitPass.remaining, CommitPass.advance]
      · simp [CommitPass.remaining, CommitPass.advance, same, Ne.symm same]
    | sink l => simp [CommitPass.remaining, CommitPass.advance]
  | completes l _ settled heads left final released =>
    obtain ⟨_, _, _, _, _, turns, sinks, _⟩ := complete_ok released
    simp only [wants, settled, heads, decide_true, Bool.true_and, decide_eq_true_eq,
      Option.some.injEq]
    cases movement with
    | turn t => simp [CommitPass.remaining, turns]
    | sink l' =>
      by_cases same : l = l'
      · subst same
        simp [CommitPass.remaining, sinks]
      · simp [CommitPass.remaining, sinks, same, Ne.symm same]

end Commits

/-- The commit after some slots: the others are as they were, and every token
handed out went to an agent that wanted it. -/
structure Processed (net : RoadNetworkCSR p n m) (lookup : TurnLookup m) (skip : Finset (Fin cap))
    (start : CommitPass n m cap) (past : List (Fin cap)) (s : CommitPass n m cap) : Prop where
  untouched : ∀ j, j ∉ past →
    s.pool.slots j = start.pool.slots j ∧ s.pool.pluginMemory j = start.pool.pluginMemory j
  left : ∀ movement, s.remaining movement = start.remaining movement -
    past.countP (wants net lookup skip start.pool movement)

variable {first : CommitPass n m cap} {past : List (Fin cap)}

theorem Processed.start : Processed net lookup skip first [] first :=
  ⟨fun _ _ => ⟨rfl, rfl⟩, fun _ => rfl⟩

theorem Processed.step (h : Processed net lookup skip first past s) (fresh : i ∉ past)
    (commits : Commits net lookup skip s i s') :
    Processed net lookup skip first (past ++ [i]) s' where
  untouched j later := by
    rw [List.mem_append, not_or, List.mem_singleton] at later
    obtain ⟨slots, memory⟩ := commits.frame later.2
    rw [slots, memory]
    exact h.untouched j later.1
  left movement := by
    obtain ⟨slots, memory⟩ := h.untouched i fresh
    rw [commits.remaining_eq, h.left, wants_congr slots memory, List.countP_append,
      List.countP_singleton, Nat.sub_sub]

theorem Processed.run {l : List (Fin cap)} (nodup : l.Nodup)
    (run : l.foldlM (commitSlot net lookup skip) first = .ok s) :
    Processed net lookup skip first l s := by
  refine fold_progress (fun past i rest s s' split h step => h.step ?_ (commit_slot_ok step)) .start run
  rw [split] at nodup
  intro listed
  exact (List.disjoint_of_nodup_append nodup) listed List.mem_cons_self

theorem tokens_spent
    (enough : ∀ movement, first.remaining movement ≤
      (List.finRange cap).countP (wants net lookup skip first.pool movement))
    (run : (List.finRange cap).foldlM (commitSlot net lookup skip) first = .ok s)
    (movement : Movement n m) : s.remaining movement = 0 := by
  rw [(Processed.run (List.nodup_finRange cap) run).left]
  exact Nat.sub_eq_zero_of_le (enough movement)

/-- The errors that the commit of one slot can raise. -/
inductive SlotFault : SimError → Prop
  | agent {e : SimError} (fault : AgentFault e) : SlotFault e
  | finalLinkAbsent (slotId : ℕ) (linkId : ℤ) : SlotFault (.finalLinkAbsent slotId linkId)
  | freeStackOverflow : SlotFault .freeStackOverflow

theorem release_error {pool : ActiveAgentPool cap} {e : SimError}
    (h : releaseSlot pool i = .error e) : e = .freeStackOverflow := by
  unfold releaseSlot at h
  split at h
  · exact (Except.error.inj h).symm
  · cases h

theorem commit_slot_error {e : SimError} (h : commitSlot net lookup skip s i = .error e) :
    SlotFault e := by
  unfold commitSlot at h
  simp only at h
  split at h
  · cases h
  · rcases bind_error.mp h with identity | ⟨_, _, h⟩
    · exact .agent (validate_identity_error identity)
    · split at h
      · cases h
      · rcases bind_error.mp h with route | ⟨_, _, h⟩
        · obtain ⟨fault, rfl⟩ := validate_route_error net route
          exact .agent (.route _ fault)
        · split at h
          · split at h
            · obtain rfl := Except.error.inj h
              exact .finalLinkAbsent _ _
            · split at h
              · obtain rfl := Except.error.inj h
                exact .agent (.route _ _)
              · split at h
                · cases h
                · rcases bind_error.mp h with release | ⟨_, _, h⟩
                  · rw [release_error release]
                    exact .freeStackOverflow
                  · cases h
          · split at h
            · cases h
            · split at h
              · cases h
              · cases h

end Spec

section Run

variable {w : World p n m} {node : NodeState n m} {pool : ActiveAgentPool cap}
  {demand : DemandState} {skip : Finset (Fin cap)} {committed : Committed cap}

/-- The pass that a commit starts with: all realized tokens are still to be handed out. -/
def firstPass (node : NodeState n m) (pool : ActiveAgentPool cap) (sinkTokens : Fin n → ℕ) :
    CommitPass n m cap where
  pool := pool
  remainingTurnTokens t := tokensOf (node.turnFlow t)
  remainingSinkTokens := sinkTokens

structure CommitRun (w : World p n m) (node : NodeState n m) (pool : ActiveAgentPool cap)
    (demand : DemandState) (skip : Finset (Fin cap)) (lookup : TurnLookup m)
    (sinkTokens : Fin n → ℕ) (last : CommitPass n m cap) (committed : Committed cap) : Prop where
  sinks : readSinkTokens node = .ok sinkTokens
  table : runtimeTurnIndexLookup w.net node = .ok lookup
  slots : (List.finRange cap).foldlM (commitSlot w.net lookup skip)
    (firstPass node pool sinkTokens) = .ok last
  turns_spent : ∀ t, last.remainingTurnTokens t = 0
  sinks_spent : ∀ l, last.remainingSinkTokens l = 0
  pool_eq : committed.pool = last.pool
  demand_eq : committed.demand = { demand with
    completedTripRequestIds := demand.completedTripRequestIds ∪ last.completedTripIds
    : DemandState }.withLifecycleCounts
  count_eq : committed.completedCount = last.completedTripIds.card

theorem commit_ok (h : commitRuntimeActiveAgentFlows w node pool demand skip = .ok committed) :
    ∃ lookup sinkTokens last,
      CommitRun w node pool demand skip lookup sinkTokens last committed := by
  obtain ⟨_, _, h⟩ := bind_ok.mp h
  obtain ⟨sinkTokens, sinks, h⟩ := bind_ok.mp h
  obtain ⟨lookup, table, h⟩ := bind_ok.mp h
  obtain ⟨last, slots, h⟩ := bind_ok.mp h
  obtain ⟨_, spent, h⟩ := bind_ok.mp h
  obtain rfl := pure_ok.mp h
  have spent := raise_if_ok.mp spent
  push Not at spent
  exact ⟨lookup, sinkTokens, last, sinks, table, slots, spent.1, spent.2, rfl, rfl, rfl⟩

theorem commit_error {e : SimError}
    (h : commitRuntimeActiveAgentFlows w node pool demand skip = .error e) :
    e = .rustAgentBackend ∨ readSinkTokens node = .error e ∨
      runtimeTurnIndexLookup w.net node = .error e ∨
      ∃ sinkTokens lookup, readSinkTokens node = .ok sinkTokens ∧
        runtimeTurnIndexLookup w.net node = .ok lookup ∧
        ((List.finRange cap).foldlM (commitSlot w.net lookup skip)
            (firstPass node pool sinkTokens) = .error e ∨
          ∃ last : CommitPass n m cap, (List.finRange cap).foldlM (commitSlot w.net lookup skip)
            (firstPass node pool sinkTokens) = .ok last ∧
            (∃ movement, last.remaining movement ≠ 0) ∧ e = .tokensNotReconciled) := by
  rcases bind_error.mp h with rust | ⟨_, _, h⟩
  · exact .inl (raise_if_error.mp rust).2.symm
  · rcases bind_error.mp h with sinks | ⟨sinkTokens, sinks, h⟩
    · exact .inr (.inl sinks)
    · rcases bind_error.mp h with table | ⟨lookup, table, h⟩
      · exact .inr (.inr (.inl table))
      · refine .inr (.inr (.inr ⟨sinkTokens, lookup, sinks, table, ?_⟩))
        rcases bind_error.mp h with slots | ⟨last, slots, h⟩
        · exact .inl slots
        · rcases bind_error.mp h with left | ⟨_, _, h⟩
          · obtain ⟨left, raised⟩ := raise_if_error.mp left
            refine .inr ⟨last, slots, ?_, raised.symm⟩
            rcases left with ⟨t, turn⟩ | ⟨l, sink⟩
            · exact ⟨.turn t, turn⟩
            · exact ⟨.sink l, sink⟩
          · cases h

theorem tokens_of_int (z : ℤ) : tokensOf z = z.toNat := by
  have whole : ⌊max (z : ℚ) 0 + vehicleTolerance⌋ = max z 0 := by
    rw [show max (z : ℚ) 0 = ((max z 0 : ℤ) : ℚ) by push_cast; rfl, Int.floor_intCast_add]
    norm_num [vehicleTolerance]
  unfold tokensOf
  rw [whole]
  omega

theorem read_sink_tokens_of_vector {flow : Fin n → ℤ}
    (written : node.metadata.runtimeSinkFlowByLinkIndex = some (.ofVector fun l => (flow l : ℚ))) :
    readSinkTokens node = .ok fun l => (flow l).toNat := by
  simp only [readSinkTokens, written, MetaArray.exactly_of_vector, MetaNum.value_finite,
    tokens_of_int]

end Run

end Metroflow.Sim
