import Metroflow.Flow.Service
import Metroflow.Sim.Init

namespace Metroflow.Sim

open Metroflow.Lib Metroflow.City Metroflow.Flow

variable {p n m cap : ℕ}

def validateSlotTripIdentity (i : Fin cap) (slot : ActiveAgentSlot) (memory : RouteMemory) :
    Except SimError Unit :=
  match memory.tripRequestId with
  | none => .error (.tripIdentityMissing i slot.tripId)
  | some tripId =>
    if tripId ≠ slot.tripId then .error (.tripIdentityMismatch i slot.tripId tripId) else .ok ()

/-- The demand counted so far, and the intents that cannot be served. -/
structure RebuildPass (n m : ℕ) where
  turnDemand : Fin m → ℕ := fun _ => 0
  sinkDemand : Fin n → ℕ := fun _ => 0
  missingIntents : List (ℕ × ℤ × ℤ) := []
  invalidSinkIntents : List (ℕ × ℤ × ℤ × ℤ) := []

namespace RebuildPass

variable (s : RebuildPass n m)

def addMissing (i : Fin cap) (fromLinkId toLinkId : ℤ) : RebuildPass n m :=
  { s with missingIntents := s.missingIntents ++ [((i : ℕ), fromLinkId, toLinkId)] }

def addIntent (i : Fin cap) (slot : ActiveAgentSlot) : RouteIntent n m → RebuildPass n m
  | .turn t => { s with turnDemand := Function.update s.turnDemand t (s.turnDemand t + 1) }
  | .sink l => { s with sinkDemand := Function.update s.sinkDemand l (s.sinkDemand l + 1) }
  | .missing toLinkId => s.addMissing i slot.currentLinkId toLinkId
  | .invalidSink actual =>
    { s with
      invalidSinkIntents :=
        s.invalidSinkIntents ++ [((i : ℕ), slot.currentLinkId, actual, slot.destNodeId)] }

end RebuildPass

/-- Whether an agent may ask for its next move: in the spatial mode it must
have reached the end of its link. -/
def atExit (w : World p n m) (slot : ActiveAgentSlot) : Bool :=
  decide (w.config.trafficModel = .spatialQueueV1 → 1 - 1 / 1000000 ≤ slot.progress01)

def rebuildSlot (w : World p n m) (lookup : TurnLookup m) (pool : ActiveAgentPool cap)
    (skip : Finset (Fin cap)) (s : RebuildPass n m) (i : Fin cap) :
    Except SimError (RebuildPass n m) :=
  let slot := pool.slots i
  let memory := pool.memory i
  if slot.alive = false ∨ i ∈ skip then .ok s
  else do
    validateSlotTripIdentity i slot memory
    if memory.routePath[slot.remainingRoutePtr]? ≠ some slot.currentLinkId then
      return s.addMissing i slot.currentLinkId (-1)
    else if atExit w slot = false then return s
    else do
      validateRoutePathAuthority w.net lookup memory.routePath slot.destNodeId (.slot i)
      return s.addIntent i slot (routeIntent w.net lookup memory.routePath slot.remainingRoutePtr
        slot.currentLinkId slot.destNodeId)

def rebuildRuntimeTurnDemand (w : World p n m) (node : NodeState n m)
    (pool : ActiveAgentPool cap) (skip : Finset (Fin cap)) : Except SimError (NodeState n m) := do
  let lookup ← runtimeTurnIndexLookup w.net node
  let pass ← (List.finRange cap).foldlM (rebuildSlot w lookup pool skip) {}
  match pass.missingIntents, pass.invalidSinkIntents with
  | (slotId, fromLinkId, toLinkId) :: rest, _ =>
    .error (.missingIntent slotId fromLinkId toLinkId (rest.length + 1))
  | [], (slotId, linkId, actual, expected) :: rest =>
    .error (.invalidSink slotId linkId actual expected (rest.length + 1))
  | [], [] =>
    return { node with
      turnDemand := fun t => pass.turnDemand t
      turnSupply := fun _ => 0
      turnFlow := fun _ => 0
      metadata := { node.metadata with
        runtimeSinkDemandByLinkIndex := some (.ofVector fun l => (pass.sinkDemand l : ℚ)) }
      demand_nonneg := fun _ => Nat.cast_nonneg _
      supply_nonneg := none_nonneg
      flow_nonneg := none_nonneg }

section Heading

variable (net : RoadNetworkCSR p n m) (lookup : TurnLookup m) (pool : ActiveAgentPool cap)
  (skip : Finset (Fin cap))

def headingOn (slot : ActiveAgentSlot) (path : List ℤ) : Option (Movement n m) :=
  if path[slot.remainingRoutePtr]? = some slot.currentLinkId then
    match routeIntent net lookup path slot.remainingRoutePtr slot.currentLinkId slot.destNodeId with
    | .turn t => some (.turn t)
    | .sink l => some (.sink l)
    | _ => none
  else none

def heading (i : Fin cap) : Option (Movement n m) :=
  headingOn net lookup (pool.slots i) (pool.memory i).routePath

/-- An agent that was in the pool before the tick. -/
def Settled (i : Fin cap) : Prop := pool.alive i = true ∧ i ∉ skip

instance (i : Fin cap) : Decidable (Settled pool skip i) :=
  inferInstanceAs (Decidable (pool.alive i = true ∧ i ∉ skip))

end Heading

section Spec

variable {w : World p n m} {node node' : NodeState n m} {lookup : TurnLookup m}
  {pool : ActiveAgentPool cap} {skip : Finset (Fin cap)}

/-- A settled agent whose demand is counted under a movement. -/
def asksFor (w : World p n m) (lookup : TurnLookup m) (pool : ActiveAgentPool cap)
    (skip : Finset (Fin cap)) (movement : Movement n m) (i : Fin cap) : Bool :=
  decide (Settled pool skip i) && atExit w (pool.slots i) &&
    decide (heading w.net lookup pool i = some movement)

/-- What the demand pass has established of a slot that it passed. -/
structure Checked (w : World p n m) (lookup : TurnLookup m) (pool : ActiveAgentPool cap)
    (i : Fin cap) : Prop where
  identity : (pool.memory i).tripRequestId = some (pool.slots i).tripId
  here : (pool.memory i).routePath[(pool.slots i).remainingRoutePtr]? =
    some (pool.slots i).currentLinkId
  route : atExit w (pool.slots i) = true →
    LegalRoute w.net lookup (pool.memory i).routePath (pool.slots i).destNodeId

/-- The demand pass after some slots. -/
structure Counted (w : World p n m) (lookup : TurnLookup m) (pool : ActiveAgentPool cap)
    (skip : Finset (Fin cap)) (past : List (Fin cap)) (s : RebuildPass n m) : Prop where
  turns : ∀ t, s.turnDemand t = past.countP (asksFor w lookup pool skip (.turn t))
  sinks : ∀ l, s.sinkDemand l = past.countP (asksFor w lookup pool skip (.sink l))
  checked : s.missingIntents = [] → ∀ i ∈ past, Settled pool skip i → Checked w lookup pool i

theorem validate_identity_ok {i : Fin cap} {slot : ActiveAgentSlot} {memory : RouteMemory}
    {u : Unit} (h : validateSlotTripIdentity i slot memory = .ok u) :
    memory.tripRequestId = some slot.tripId := by
  unfold validateSlotTripIdentity at h
  split at h
  · cases h
  · rename_i tripId found
    split at h
    · cases h
    · rename_i same
      rw [found, not_not.mp same]

theorem settled_of_checks {i : Fin cap} (h : ¬ ((pool.slots i).alive = false ∨ i ∈ skip)) :
    Settled pool skip i := by
  rw [not_or, Bool.not_eq_false] at h
  exact h

theorem not_settled_of_check {i : Fin cap} (h : (pool.slots i).alive = false ∨ i ∈ skip) :
    ¬ Settled pool skip i := by
  rintro ⟨alive, fresh⟩
  rcases h with dead | new
  · exact absurd (alive.symm.trans dead) (by simp)
  · exact fresh new

theorem heading_of_legal {i : Fin cap}
    (here : (pool.memory i).routePath[(pool.slots i).remainingRoutePtr]? =
      some (pool.slots i).currentLinkId)
    (legal : LegalRoute w.net lookup (pool.memory i).routePath (pool.slots i).destNodeId) :
    (∃ t, heading w.net lookup pool i = some (.turn t) ∧
        routeIntent w.net lookup (pool.memory i).routePath (pool.slots i).remainingRoutePtr
          (pool.slots i).currentLinkId (pool.slots i).destNodeId = .turn t) ∨
      ∃ l, heading w.net lookup pool i = some (.sink l) ∧
        routeIntent w.net lookup (pool.memory i).routePath (pool.slots i).remainingRoutePtr
          (pool.slots i).currentLinkId (pool.slots i).destNodeId = .sink l := by
  rcases legal.intent w.net here with ⟨l, _, _, _, sink⟩ | ⟨t, _, _, _, turn⟩
  · exact .inr ⟨l, by simp only [heading, headingOn, here, if_true, sink], sink⟩
  · exact .inl ⟨t, by simp only [heading, headingOn, here, if_true, turn], turn⟩

namespace Counted

variable {past : List (Fin cap)} {s s' : RebuildPass n m} {i : Fin cap}

theorem idle (c : Counted w lookup pool skip past s)
    (asks : ∀ movement, asksFor w lookup pool skip movement i = false)
    (turns : s'.turnDemand = s.turnDemand) (sinks : s'.sinkDemand = s.sinkDemand)
    (checked : s'.missingIntents = [] → s.missingIntents = [] ∧
      (Settled pool skip i → Checked w lookup pool i)) :
    Counted w lookup pool skip (past ++ [i]) s' where
  turns t := by simp [turns, c.turns, asks]
  sinks l := by simp [sinks, c.sinks, asks]
  checked complete j listed settled := by
    obtain ⟨before, here⟩ := checked complete
    rcases List.mem_append.mp listed with old | new
    · exact c.checked before j old settled
    · obtain rfl := List.mem_singleton.mp new
      exact here settled

theorem counts (c : Counted w lookup pool skip past s) (settled : Settled pool skip i)
    (exit : atExit w (pool.slots i) = true) {movement : Movement n m}
    (heads : heading w.net lookup pool i = some movement) (checked : Checked w lookup pool i)
    (turns : ∀ t, s'.turnDemand t = s.turnDemand t + if movement = .turn t then 1 else 0)
    (sinks : ∀ l, s'.sinkDemand l = s.sinkDemand l + if movement = .sink l then 1 else 0)
    (missing : s'.missingIntents = s.missingIntents) :
    Counted w lookup pool skip (past ++ [i]) s' where
  turns t := by simp [turns, c.turns, asksFor, settled, exit, heads]
  sinks l := by simp [sinks, c.sinks, asksFor, settled, exit, heads]
  checked complete j listed settled := by
    rcases List.mem_append.mp listed with old | new
    · exact c.checked (missing ▸ complete) j old settled
    · obtain rfl := List.mem_singleton.mp new
      exact checked

theorem pass (c : Counted w lookup pool skip past s)
    (h : rebuildSlot w lookup pool skip s i = .ok s') :
    Counted w lookup pool skip (past ++ [i]) s' := by
  unfold rebuildSlot at h
  simp only at h
  split at h
  · rename_i absent
    obtain rfl := Except.ok.inj h
    have unsettled := not_settled_of_check absent
    exact c.idle (fun _ => by simp [asksFor, unsettled]) rfl rfl
      fun complete => ⟨complete, fun settled => absurd settled unsettled⟩
  · rename_i present
    obtain ⟨_, identity, h⟩ := bind_ok.mp h
    split at h
    · rename_i astray
      obtain rfl := pure_ok.mp h
      refine c.idle (fun _ => by simp [asksFor, heading, headingOn, astray]) rfl rfl fun complete => ?_
      simp [RebuildPass.addMissing] at complete
    · rename_i here
      have here := not_not.mp here
      have identity := validate_identity_ok identity
      split at h
      · rename_i inside
        obtain rfl := pure_ok.mp h
        exact c.idle (fun _ => by simp [asksFor, inside]) rfl rfl fun complete =>
          ⟨complete, fun _ => ⟨identity, here, fun exit => absurd (inside.symm.trans exit) (by simp)⟩⟩
      · rename_i exit
        have exit := Bool.not_eq_false _ ▸ exit
        obtain ⟨_, legal, h⟩ := bind_ok.mp h
        obtain rfl := pure_ok.mp h
        have legal := (validate_route_ok w.net).mp legal
        have checked : Checked w lookup pool i := ⟨identity, here, fun _ => legal⟩
        rcases heading_of_legal here legal with ⟨t, heads, intent⟩ | ⟨l, heads, intent⟩
        · rw [intent]
          refine c.counts (settled_of_checks present) exit heads checked ?_ ?_ rfl
          · intro t'
            simp [RebuildPass.addIntent, update_count]
          · intro l
            simp [RebuildPass.addIntent]
        · rw [intent]
          refine c.counts (settled_of_checks present) exit heads checked ?_ ?_ rfl
          · intro t
            simp [RebuildPass.addIntent]
          · intro l'
            simp [RebuildPass.addIntent, update_count]

end Counted

def demanders (w : World p n m) (lookup : TurnLookup m) (pool : ActiveAgentPool cap)
    (skip : Finset (Fin cap)) (movement : Movement n m) : ℕ :=
  (List.finRange cap).countP (asksFor w lookup pool skip movement)

/-- A rebuilt node state: it counts the settled agents at the end of their links
under the movements they ask for, and every settled agent was checked. -/
structure Rebuilt (w : World p n m) (lookup : TurnLookup m) (pool : ActiveAgentPool cap)
    (skip : Finset (Fin cap)) (node node' : NodeState n m) : Prop where
  turn_lookup : runtimeTurnIndexLookup w.net node = .ok lookup
  turn_demand : ∀ t, node'.turnDemand t = demanders w lookup pool skip (.turn t)
  metadata : node'.metadata = { node.metadata with
    runtimeSinkDemandByLinkIndex :=
      some (.ofVector fun l => (demanders w lookup pool skip (.sink l) : ℚ)) }
  from_links : node'.turnFromLinkIndex = node.turnFromLinkIndex
  to_links : node'.turnToLinkIndex = node.turnToLinkIndex
  checked : ∀ i, Settled pool skip i → Checked w lookup pool i

theorem rebuild_ok (h : rebuildRuntimeTurnDemand w node pool skip = .ok node') :
    ∃ lookup, Rebuilt w lookup pool skip node node' := by
  obtain ⟨lookup, found, h⟩ := bind_ok.mp h
  obtain ⟨pass, run, h⟩ := bind_ok.mp h
  have start : Counted w lookup pool skip [] ({} : RebuildPass n m) :=
    ⟨fun _ => rfl, fun _ => rfl, fun _ i listed => by cases listed⟩
  have counted : Counted w lookup pool skip (List.finRange cap) pass :=
    fold_progress (fun past i rest s s' _ c step => c.pass step) start run
  simp only at h
  split at h
  · cases h
  · cases h
  · rename_i missing invalid
    obtain rfl := pure_ok.mp h
    refine ⟨lookup, found, fun t => ?_, ?_, rfl, rfl, fun i =>
      counted.checked missing i (List.mem_finRange i)⟩
    · exact congrArg Nat.cast (counted.turns t)
    · simp only [counted.sinks]
      rfl

theorem Settled.on_route {net : RoadNetworkCSR p n m} {i : Fin cap} (settled : Settled pool skip i)
    (on : OnRoute net lookup (pool.slots i) (pool.pluginMemory i)) :
    (pool.memory i).tripRequestId = some (pool.slots i).tripId ∧
      (pool.memory i).routePath[(pool.slots i).remainingRoutePtr]? =
        some (pool.slots i).currentLinkId ∧
      LegalRoute net lookup (pool.memory i).routePath (pool.slots i).destNodeId := by
  obtain ⟨memory, found, identity, here, legal⟩ := on settled.1
  have same : pool.memory i = memory := by simp [ActiveAgentPool.memory, found]
  rw [same]
  exact ⟨identity, here, legal⟩

theorem validate_identity_of {i : Fin cap} {slot : ActiveAgentSlot} {memory : RouteMemory}
    (h : memory.tripRequestId = some slot.tripId) :
    validateSlotTripIdentity i slot memory = .ok () := by
  simp [validateSlotTripIdentity, h]

theorem rebuild_slot_on_route {s : RebuildPass n m} {i : Fin cap}
    (clean : s.missingIntents = [] ∧ s.invalidSinkIntents = [])
    (on : OnRoute w.net lookup (pool.slots i) (pool.pluginMemory i)) :
    ∃ s', rebuildSlot w lookup pool skip s i = .ok s' ∧
      s'.missingIntents = [] ∧ s'.invalidSinkIntents = [] := by
  unfold rebuildSlot
  simp only
  split
  · exact ⟨s, rfl, clean⟩
  · rename_i present
    obtain ⟨identity, here, legal⟩ := (settled_of_checks present).on_route on
    rw [validate_identity_of identity]
    simp only [bind, Except.bind, here, ne_eq, not_true_eq_false, if_false]
    split
    · exact ⟨s, rfl, clean⟩
    · rw [(validate_route_ok w.net).mpr legal]
      refine ⟨_, rfl, ?_⟩
      rcases legal.intent w.net here with ⟨l, _, _, _, sink⟩ | ⟨t, _, _, _, turn⟩
      · rw [sink]
        exact clean
      · rw [turn]
        exact clean

theorem rebuild_on_routes (table : runtimeTurnIndexLookup w.net node = .ok lookup)
    (on : ∀ i, OnRoute w.net lookup (pool.slots i) (pool.pluginMemory i)) :
    ∃ node', rebuildRuntimeTurnDemand w node pool skip = .ok node' := by
  obtain ⟨pass, run, missing, invalid⟩ := fold_total
    (I := fun _ (s : RebuildPass n m) => s.missingIntents = [] ∧ s.invalidSinkIntents = [])
    (f := rebuildSlot w lookup pool skip) (l := List.finRange cap) (s := {})
    (fun _ i _ s _ clean => rebuild_slot_on_route clean (on i)) ⟨rfl, rfl⟩
  unfold rebuildRuntimeTurnDemand
  rw [table]
  simp only [bind, Except.bind, run, missing, invalid]
  exact ⟨_, rfl⟩

inductive AgentFault : SimError → Prop
  | identityMissing (slotId : ℕ) (packed : ℤ) : AgentFault (.tripIdentityMissing slotId packed)
  | identityMismatch (slotId : ℕ) (packed memory : ℤ) :
      AgentFault (.tripIdentityMismatch slotId packed memory)
  | route (slotId : ℕ) (fault : RouteFault) : AgentFault (.route (.slot slotId) fault)

theorem validate_identity_error {i : Fin cap} {slot : ActiveAgentSlot} {memory : RouteMemory}
    {e : SimError} (h : validateSlotTripIdentity i slot memory = .error e) : AgentFault e := by
  unfold validateSlotTripIdentity at h
  split at h
  · obtain rfl := Except.error.inj h
    exact .identityMissing _ _
  · split at h
    · obtain rfl := Except.error.inj h
      exact .identityMismatch _ _ _
    · cases h

theorem slot_route_error {i : Fin cap} {path : List ℤ} {destNodeId : ℤ} {e : SimError}
    (h : validateRoutePathAuthority w.net lookup path destNodeId (.slot i) = .error e) :
    AgentFault e := by
  obtain ⟨fault, rfl⟩ := validate_route_error w.net h
  exact .route _ fault

inductive DemandFault : SimError → Prop
  | agent {e : SimError} (fault : AgentFault e) : DemandFault e
  | missingIntent (slotId : ℕ) (fromLinkId toLinkId : ℤ) (count : ℕ) :
      DemandFault (.missingIntent slotId fromLinkId toLinkId count)
  | invalidSink (slotId : ℕ) (linkId actual expected : ℤ) (count : ℕ) :
      DemandFault (.invalidSink slotId linkId actual expected count)

theorem rebuild_slot_error {s : RebuildPass n m} {i : Fin cap} {e : SimError}
    (h : rebuildSlot w lookup pool skip s i = .error e) : AgentFault e := by
  unfold rebuildSlot at h
  simp only at h
  split at h
  · cases h
  · rcases bind_error.mp h with identity | ⟨_, _, h⟩
    · exact validate_identity_error identity
    · split at h
      · cases h
      · split at h
        · cases h
        · rcases bind_error.mp h with route | ⟨_, _, h⟩
          · exact slot_route_error route
          · cases h

theorem rebuild_error {e : SimError} (h : rebuildRuntimeTurnDemand w node pool skip = .error e) :
    runtimeTurnIndexLookup w.net node = .error e ∨ DemandFault e := by
  rcases bind_error.mp h with table | ⟨lookup, _, h⟩
  · exact .inl table
  · rcases bind_error.mp h with pass | ⟨pass, _, h⟩
    · obtain ⟨i, _, s, _, failed⟩ := fold_error (I := fun _ => True)
        (fun _ _ _ _ _ _ => trivial) trivial pass
      exact .inr (.agent (rebuild_slot_error failed))
    · simp only at h
      split at h
      · obtain rfl := Except.error.inj h
        exact .inr (.missingIntent _ _ _ _)
      · obtain rfl := Except.error.inj h
        exact .inr (.invalidSink _ _ _ _ _)
      · cases h

end Spec

end Metroflow.Sim
