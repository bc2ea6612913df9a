import Metroflow.Lib.Dict
import Metroflow.Lib.Loops
import Metroflow.Sim.SlotColumns

namespace Metroflow.Sim.Columns

open Metroflow.Lib

/-- The lists that the compiled function is called with, one entry for each alive slot;
the cached routes are packed into one list. -/
structure AgentBatch where
  slotIds : List ℤ
  tripIds : List ℤ
  currentLinkIds : List ℤ
  routePtrs : List ℤ
  cooldownTicks : List ℤ
  routeOffsets : List ℤ
  routeLinkIds : List ℤ
  movementBudgetLinkIds : List ℤ
  movementBudgetCounts : List ℤ
  completionBudgetLinkIds : List ℤ
  completionBudgetCounts : List ℤ
  skipSlotIds : List ℤ

structure AgentBatchResult where
  nextCurrentLinkIds : List ℤ
  nextRoutePtrs : List ℤ
  nextCooldownTicks : List ℤ
  movedSlotIds : List ℤ := []
  sinkWaitSlotIds : List ℤ := []
  releasedSlotIds : List ℤ := []
  completedTripIds : List ℤ := []
  deriving DecidableEq

namespace Rust

variable (b : AgentBatch)

def checkLength (slotCount : ℕ) (column : String × ℕ) : Except String PUnit :=
  raiseIf (column.2 ≠ slotCount)
    (column.1 ++ " length must match slot_ids length: got " ++ toString column.2 ++
      ", expected " ++ toString slotCount)

def checkOffset (linkCount : ℕ) (previousOffset offset : ℤ) : Except String ℤ :=
  if offset < previousOffset then .error "route_offsets must be non-decreasing"
  else if offset < 0 ∨ linkCount < offset.toNat then
    .error "route_offsets contains out-of-range offsets"
  else .ok offset

def checkNonNegative (column : String × List ℤ) : Except String PUnit :=
  raiseIf (∃ value ∈ column.2, value < 0) (column.1 ++ " must be non-negative")

def checkBatch : Except String PUnit := do
  let slotCount := b.slotIds.length
  [("trip_ids", b.tripIds.length),
    ("current_link_ids", b.currentLinkIds.length),
    ("route_ptrs", b.routePtrs.length),
    ("cooldown_ticks", b.cooldownTicks.length)].forM (checkLength slotCount)
  raiseIf (b.routeOffsets.length ≠ slotCount + 1)
    ("route_offsets length must be slot_ids length + 1: got " ++ toString b.routeOffsets.length ++
      ", expected " ++ toString (slotCount + 1))
  raiseIf (b.movementBudgetLinkIds.length ≠ b.movementBudgetCounts.length)
    "movement budget ids/counts must have equal lengths"
  raiseIf (b.completionBudgetLinkIds.length ≠ b.completionBudgetCounts.length)
    "completion budget ids/counts must have equal lengths"
  let _ ← b.routeOffsets.foldlM (checkOffset b.routeLinkIds.length) 0
  raiseIf ((b.routeOffsets.getLast?.getD 0).toNat ≠ b.routeLinkIds.length)
    "route_offsets last value must equal route_link_ids length"
  [("slot_ids", b.slotIds),
    ("trip_ids", b.tripIds),
    ("current_link_ids", b.currentLinkIds),
    ("route_ptrs", b.routePtrs),
    ("cooldown_ticks", b.cooldownTicks),
    ("route_link_ids", b.routeLinkIds),
    ("movement_budget_link_ids", b.movementBudgetLinkIds),
    ("movement_budget_counts", b.movementBudgetCounts),
    ("completion_budget_link_ids", b.completionBudgetLinkIds),
    ("completion_budget_counts", b.completionBudgetCounts),
    ("skip_slot_ids", b.skipSlotIds)].forM checkNonNegative

/-- The budget of each link, the counts of a link that comes more than once together. -/
def collectBudget (items : List (ℤ × ℤ)) : Dict ℤ ℤ :=
  items.foldl (fun budget item => budget.set item.1 ((budget.get item.1).getD 0 + item.2)) []

structure BatchState where
  movementBudget : Dict ℤ ℤ
  completionBudget : Dict ℤ ℤ
  result : AgentBatchResult

/-- Takes the agent of one slot out. -/
def BatchState.complete (s : BatchState) (slotId tripId : ℤ) : BatchState :=
  { s with result := { s.result with
      releasedSlotIds := s.result.releasedSlotIds ++ [slotId]
      completedTripIds := s.result.completedTripIds ++ [tripId] } }

/-- One pass of the loop over the slots. -/
def advanceSlot (s : BatchState) (idx : ℕ) : BatchState :=
  let slotId := b.slotIds.getD idx 0
  if slotId ∈ b.skipSlotIds then s
  else
    let start := (b.routeOffsets.getD idx 0).toNat
    let stop := (b.routeOffsets.getD (idx + 1) 0).toNat
    let path := (b.routeLinkIds.take stop).drop start
    if path = [] then s.complete slotId (b.tripIds.getD idx 0)
    else
      let currentLinkId := b.currentLinkIds.getD idx 0
      let ptr := (b.routePtrs.getD idx 0).toNat
      if path.length - 1 ≤ ptr then
        let remaining := (s.completionBudget.get currentLinkId).getD 0
        if remaining ≤ 0 then
          { s with result := { s.result with
              sinkWaitSlotIds := s.result.sinkWaitSlotIds ++ [slotId] } }
        else
          let charged := { s with
            completionBudget := s.completionBudget.set currentLinkId (remaining - 1) }
          charged.complete slotId (b.tripIds.getD idx 0)
      else
        let remaining := (s.movementBudget.get currentLinkId).getD 0
        if remaining ≤ 0 then s
        else
          let nextPtr := ptr + 1
          { s with
            movementBudget := s.movementBudget.set currentLinkId (remaining - 1)
            result := { s.result with
              nextRoutePtrs := s.result.nextRoutePtrs.set idx nextPtr
              nextCurrentLinkIds := s.result.nextCurrentLinkIds.set idx (path.getD nextPtr 0)
              nextCooldownTicks :=
                s.result.nextCooldownTicks.set idx (max (b.cooldownTicks.getD idx 0 - 1) 0)
              movedSlotIds := s.result.movedSlotIds ++ [slotId] } }

def BatchState.start : BatchState where
  movementBudget := collectBudget (b.movementBudgetLinkIds.zip b.movementBudgetCounts)
  completionBudget := collectBudget (b.completionBudgetLinkIds.zip b.completionBudgetCounts)
  result := {
    nextCurrentLinkIds := b.currentLinkIds
    nextRoutePtrs := b.routePtrs
    nextCooldownTicks := b.cooldownTicks }

def advanceActiveAgentsBatchImpl : Except String AgentBatchResult := do
  checkBatch b
  return ((List.range b.slotIds.length).foldl (advanceSlot b) (BatchState.start b)).result

end Rust

/-- How advancing the agents fails: a number that a column cannot hold, a slot memory that is
no dict, an index out of a route or a column, or what the compiled function reports. -/
inductive AdvanceError where
  | column (error : ColumnError)
  | memoryNotDict
  | routeIndex
  | slotIndex (slotId : ℤ)
  | backend (reason : String)
  deriving DecidableEq, Repr

/-- The values as integers of 32 bits; one that is out of their range is refused. -/
def asI32AgentList (values : List ℤ) : Except AdvanceError (List ℤ) :=
  match values.find? fun value => ¬ Int32 value with
  | some value => .error (.column (.int32 value))
  | none => .ok values

def advanceActiveAgentsRust (b : AgentBatch) : Except AdvanceError AgentBatchResult := do
  let slotIds ← asI32AgentList b.slotIds
  let tripIds ← asI32AgentList b.tripIds
  let currentLinkIds ← asI32AgentList b.currentLinkIds
  let routePtrs ← asI32AgentList b.routePtrs
  let cooldownTicks ← asI32AgentList b.cooldownTicks
  let routeOffsets ← asI32AgentList b.routeOffsets
  let routeLinkIds ← asI32AgentList b.routeLinkIds
  let movementBudgetLinkIds ← asI32AgentList b.movementBudgetLinkIds
  let movementBudgetCounts ← asI32AgentList b.movementBudgetCounts
  let completionBudgetLinkIds ← asI32AgentList b.completionBudgetLinkIds
  let completionBudgetCounts ← asI32AgentList b.completionBudgetCounts
  let skipSlotIds ← asI32AgentList b.skipSlotIds
  (Rust.advanceActiveAgentsBatchImpl ⟨slotIds, tripIds, currentLinkIds, routePtrs, cooldownTicks,
    routeOffsets, routeLinkIds, movementBudgetLinkIds, movementBudgetCounts,
    completionBudgetLinkIds, completionBudgetCounts, skipSlotIds⟩).mapError
      fun reason => .backend ("Rust CPU active-agent backend failed: " ++ reason)

end Metroflow.Sim.Columns
