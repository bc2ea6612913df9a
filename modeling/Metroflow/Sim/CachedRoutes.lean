import Metroflow.Lib.FirstServed
import Metroflow.Lib.Keyed
import Metroflow.Sim.AgentBatch
import Metroflow.Timing.Agents

namespace Metroflow.Sim.Columns

open Metroflow.Lib Metroflow.Timing

/-- What a slot remembers: its cached route, if it has one, and whatever else is kept there. -/
structure SlotMemory (ρ : Type) where
  routePath : Option (List ℤ)
  rest : ρ

/-- A mapping of link ids to counts. -/
structure LinkBudget where
  counts : Dict ℤ ℤ
  distinct : (counts.map Prod.fst).Nodup

variable {ρ : Type} {cap : ℕ}

/-- The pool, the counters and the set of completed trips that a tick's movement returns. -/
structure Advanced (ρ : Type) (cap : ℕ) where
  pool : ActiveAgentPool (SlotMemory ρ) cap
  counters : Counters
  completedTripIds : Finset ℤ

def cachedRoute (pool : ActiveAgentPool (SlotMemory ρ) cap) (i : Fin cap) :
    Except AdvanceError (List ℤ) :=
  match pool.pluginMemory.get (slotNumber i) with
  | none => .ok []
  | some (.dict memory) => .ok (memory.routePath.getD [])
  | some .other => .error .memoryNotDict

def aliveSlots (pool : ActiveAgentPool (SlotMemory ρ) cap) : List (Fin cap) :=
  (List.finRange cap).filter fun i => pool.aliveMask i

/-- Forgets the agent of a slot and pushes the slot on the free stack. -/
def releaseSlot (pool : ActiveAgentPool (SlotMemory ρ) cap) (i : Fin cap) :
    Except AdvanceError (ActiveAgentPool (SlotMemory ρ) cap) :=
  if room : pool.freeSlotCount < cap then
    .ok { cleared pool i room with
      pluginMemory := pool.pluginMemory.filter fun item => item.1 ≠ slotNumber i }
  else .error (.column (.pool (.stackIndex pool.freeSlotCount cap)))

def movedKey : String := "active_agent_moved_this_tick"

def sinkWaitKey : String := "active_agent_sink_wait_this_tick"

def LinkBudget.clamped (budget : LinkBudget) : Dict ℤ ℤ :=
  budget.counts.map fun item => (item.1, max 0 item.2)

theorem slot_stack (pool : ActiveAgentPool (SlotMemory ρ) cap) :
    pool.freeSlotStack.length = cap := pool.stack_shape

theorem slot_counts (pool : ActiveAgentPool (SlotMemory ρ) cap) :
    pool.freeSlotCount + pool.aliveCount = cap := pool.counts

namespace Host

/-- The loop over the slots with what it has left of the budgets. -/
structure AdvanceState (ρ : Type) (cap : ℕ) where
  advanced : Advanced ρ cap
  remainingBudget : Dict ℤ ℤ
  remainingCompletionBudget : Dict ℤ ℤ

/-- An entry of a route; a negative index counts from its end. -/
def routeLink (path : List ℤ) (index : ℤ) : Except AdvanceError ℤ :=
  let position := if index < 0 then index + path.length else index
  if position < 0 then .error .routeIndex
  else
    match path[position.toNat]? with
    | some linkId => .ok linkId
    | none => .error .routeIndex

/-- The release of the loop, which also notes the trip as completed. -/
def AdvanceState.release (s : AdvanceState ρ cap) (i : Fin cap) :
    Except AdvanceError (AdvanceState ρ cap) := do
  let completedTripIds := insert (s.advanced.pool.tripId i) s.advanced.completedTripIds
  let pool ← releaseSlot s.advanced.pool i
  return { s with advanced := { s.advanced with
    pool := pool
    completedTripIds := completedTripIds } }

def visitSlot (skipSlots : Finset ℤ) (s : AdvanceState ρ cap) (i : Fin cap) :
    Except AdvanceError (AdvanceState ρ cap) := do
  if slotNumber i ∈ skipSlots then return s
  else
    let pool := s.advanced.pool
    let counters := s.advanced.counters
    let path ← cachedRoute pool i
    let ptr := pool.remainingRoutePtr i
    if path = [] then s.release i
    else
      let currentLinkId := pool.currentLinkId i
      if (path.length : ℤ) - 1 ≤ ptr then
        let remaining := (s.remainingCompletionBudget.get currentLinkId).getD 0
        if remaining ≤ 0 then
          return { s with advanced := { s.advanced with
            counters := counters.set sinkWaitKey (counters.at sinkWaitKey + 1) } }
        else
          let charged := { s with remainingCompletionBudget :=
            s.remainingCompletionBudget.set currentLinkId (remaining - 1) }
          charged.release i
      else
        let remaining := (s.remainingBudget.get currentLinkId).getD 0
        if remaining ≤ 0 then return s
        else
          let nextPtr := ptr + 1
          let routePtr ← (arraySet1d pool.remainingRoutePtr i nextPtr).mapError .column
          let nextLinkId ← routeLink path nextPtr
          let currentLink ← (arraySet1d pool.currentLinkId i nextLinkId).mapError .column
          let cooldown ← (arraySet1d pool.rerouteCooldownTicks i
            (max 0 (pool.rerouteCooldownTicks i - 1))).mapError .column
          return { s with
            remainingBudget := s.remainingBudget.set currentLinkId (remaining - 1)
            advanced := { s.advanced with
              pool := { pool with
                remainingRoutePtr := routePtr
                currentLinkId := currentLink
                progress01 := Function.update pool.progress01 i 0
                rerouteCooldownTicks := cooldown }
              counters := counters.set movedKey (counters.at movedKey + 1) } }

def advancePoolAlongCachedRoutes (pool : ActiveAgentPool (SlotMemory ρ) cap)
    (movementBudget completionBudget : LinkBudget) (skipSlotIds : Finset ℤ) :
    Except AdvanceError (Advanced ρ cap) := do
  let s ← (aliveSlots pool).foldlM (visitSlot skipSlotIds)
    { advanced := ⟨pool, agentTickCounters, ∅⟩
      remainingBudget := movementBudget.clamped
      remainingCompletionBudget := completionBudget.clamped }
  return s.advanced

end Host

namespace Rust

/-- The cached routes of the slots one after the other, and where each begins. -/
def packRoutes (pool : ActiveAgentPool (SlotMemory ρ) cap) (slotIds : List (Fin cap)) :
    Except AdvanceError (List ℤ × List ℤ) :=
  slotIds.foldlM (fun (routeLinkIds, routeOffsets) i => do
    let path ← cachedRoute pool i
    let routeLinkIds := routeLinkIds ++ path
    return (routeLinkIds, routeOffsets ++ [(routeLinkIds.length : ℤ)])) ([], [0])

def budgetItems (budget : LinkBudget) : List (ℤ × ℤ) :=
  (sortOn toLex budget.counts).map fun item => (item.1, max 0 item.2)

def validateAgentActionPlan (plan : AgentBatchResult) (slotCount : ℕ) : Except AdvanceError PUnit :=
  [("next_current_link_ids", plan.nextCurrentLinkIds),
    ("next_route_ptrs", plan.nextRoutePtrs),
    ("next_cooldown_ticks", plan.nextCooldownTicks)].forM fun column =>
      raiseIf (column.2.length ≠ slotCount)
        (.backend ("Rust CPU active-agent backend failed: " ++ column.1 ++ " length mismatch"))

def writeNext (plan : AgentBatchResult) (pool : ActiveAgentPool (SlotMemory ρ) cap)
    (slot : Fin cap × ℕ) : ActiveAgentPool (SlotMemory ρ) cap :=
  { pool with
    currentLinkId := Function.update pool.currentLinkId slot.1
      (plan.nextCurrentLinkIds.getD slot.2 0)
    remainingRoutePtr := Function.update pool.remainingRoutePtr slot.1
      (plan.nextRoutePtrs.getD slot.2 0)
    rerouteCooldownTicks := Function.update pool.rerouteCooldownTicks slot.1
      (plan.nextCooldownTicks.getD slot.2 0) }

def resetProgress (pool : ActiveAgentPool (SlotMemory ρ) cap) (slotId : ℤ) :
    Except AdvanceError (ActiveAgentPool (SlotMemory ρ) cap) :=
  match slotOf cap slotId with
  | none => .error (.slotIndex slotId)
  | some i => .ok { pool with progress01 := Function.update pool.progress01 i 0 }

def releasePlanned (pool : ActiveAgentPool (SlotMemory ρ) cap) (slotId : ℤ) :
    Except AdvanceError (ActiveAgentPool (SlotMemory ρ) cap) :=
  match slotOf cap slotId with
  | none => .error (.backend "Rust CPU active-agent backend failed: released slot out of range")
  | some i => releaseSlot pool i

/-- Applies a plan in bulk. -/
def applyPlan (pool : ActiveAgentPool (SlotMemory ρ) cap) (slotIds : List (Fin cap))
    (plan : AgentBatchResult) : Except AdvanceError (Advanced ρ cap) := do
  let written := slotIds.zipIdx.foldl (writeNext plan) pool
  let moved ← plan.movedSlotIds.foldlM resetProgress written
  let counters := (agentTickCounters.set movedKey plan.movedSlotIds.length).set sinkWaitKey
    plan.sinkWaitSlotIds.length
  let released ← plan.releasedSlotIds.foldlM releasePlanned moved
  return ⟨released, counters, plan.completedTripIds.toFinset⟩

/-- Advances the alive agents by the plan of the compiled function. -/
def advancePoolAlongCachedRoutes (pool : ActiveAgentPool (SlotMemory ρ) cap)
    (movementBudget completionBudget : LinkBudget) (skipSlotIds : Finset ℤ) :
    Except AdvanceError (Advanced ρ cap) := do
  let slotIds := aliveSlots pool
  let (routeLinkIds, routeOffsets) ← packRoutes pool slotIds
  let movementItems := budgetItems movementBudget
  let completionItems := budgetItems completionBudget
  let plan ← advanceActiveAgentsRust {
    slotIds := slotIds.map slotNumber
    tripIds := slotIds.map pool.tripId
    currentLinkIds := slotIds.map pool.currentLinkId
    routePtrs := slotIds.map pool.remainingRoutePtr
    cooldownTicks := slotIds.map pool.rerouteCooldownTicks
    routeOffsets := routeOffsets
    routeLinkIds := routeLinkIds
    movementBudgetLinkIds := movementItems.map Prod.fst
    movementBudgetCounts := movementItems.map Prod.snd
    completionBudgetLinkIds := completionItems.map Prod.fst
    completionBudgetCounts := completionItems.map Prod.snd
    skipSlotIds := skipSlotIds.sort (· ≤ ·) }
  validateAgentActionPlan plan slotIds.length
  applyPlan pool slotIds plan

end Rust

end Metroflow.Sim.Columns
