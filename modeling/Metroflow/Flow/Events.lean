import Metroflow.City.Graph
import Metroflow.Flow.State

namespace Metroflow.Flow

open Metroflow.Lib Metroflow.City

inductive TrafficEventStatus where
  | scheduled
  | active
  | cleared
  deriving DecidableEq, Repr

inductive EffectModel where
  | closure
  | capacityReduction
  | unsupported (name : String)
  deriving DecidableEq, Repr

/-- The links an event names, or the bridge group whose links it means. -/
structure TargetScope where
  linkIds : Option (List ℤ) := none
  bridgeGroupId : Option ℤ := none
  deriving DecidableEq, Repr

structure TrafficEvent where
  eventId : ℕ
  startTick : ℕ
  endTick : ℕ
  targetScope : TargetScope
  severity : ℚ
  effectModel : EffectModel
  status : TrafficEventStatus := .scheduled
  start_before_end : startTick < endTick
  severity_unit : 0 ≤ severity ∧ severity ≤ 1
  deriving DecidableEq

def TrafficEvent.withStatus (event : TrafficEvent) (status : TrafficEventStatus) : TrafficEvent :=
  { event with status := status }

inductive EventError where
  | wrongStatus (eventId : ℕ)
  | duplicateEventId (eventId : ℕ)
  deriving DecidableEq, Repr

/-- The three buckets of the scheduler, each with events of its own status and
no event id twice. -/
structure TrafficEventSchedulerState where
  scheduledEvents : List TrafficEvent := []
  activeEvents : List TrafficEvent := []
  clearedEvents : List TrafficEvent := []
  deriving DecidableEq

namespace TrafficEventSchedulerState

def checkBucket (expected : TrafficEventStatus) (events : List TrafficEvent) :
    Except EventError Unit :=
  match events.find? fun event => event.status ≠ expected with
  | none => .ok ()
  | some event => .error (.wrongStatus event.eventId)

def firstRepeated : List ℕ → List ℕ → Option ℕ
  | _, [] => none
  | seen, eventId :: rest =>
    if eventId ∈ seen then some eventId else firstRepeated (eventId :: seen) rest

def checked (s : TrafficEventSchedulerState) : Except EventError TrafficEventSchedulerState := do
  checkBucket .scheduled s.scheduledEvents
  checkBucket .active s.activeEvents
  checkBucket .cleared s.clearedEvents
  match firstRepeated []
      ((s.scheduledEvents ++ s.activeEvents ++ s.clearedEvents).map TrafficEvent.eventId) with
  | some eventId => .error (.duplicateEventId eventId)
  | none => return s

def addCleared (history : List TrafficEvent) (event : TrafficEvent) : List TrafficEvent :=
  if history.any fun old => decide (old.eventId = event.eventId) then
    history.map fun old => if old.eventId = event.eventId then event.withStatus .cleared else old
  else history ++ [event.withStatus .cleared]

def planScheduled (tick : ℕ) (clearIds : List ℕ) (plan : TrafficEventSchedulerState)
    (event : TrafficEvent) : TrafficEventSchedulerState :=
  if event.eventId ∈ clearIds then
    { plan with clearedEvents := addCleared plan.clearedEvents event }
  else if event.endTick < tick then
    { plan with clearedEvents := addCleared plan.clearedEvents event }
  else if event.startTick ≤ tick then
    { plan with activeEvents := plan.activeEvents ++ [event.withStatus .active] }
  else { plan with scheduledEvents := plan.scheduledEvents ++ [event.withStatus .scheduled] }

def planActive (tick : ℕ) (clearIds : List ℕ) (plan : TrafficEventSchedulerState)
    (event : TrafficEvent) : TrafficEventSchedulerState :=
  if event.eventId ∈ clearIds ∨ event.endTick < tick then
    { plan with clearedEvents := addCleared plan.clearedEvents event }
  else { plan with activeEvents := plan.activeEvents ++ [event.withStatus .active] }

def planAdvance (s : TrafficEventSchedulerState) (tick : ℕ) (clearIds : List ℕ) :
    TrafficEventSchedulerState :=
  s.activeEvents.foldl (planActive tick clearIds)
    (s.scheduledEvents.foldl (planScheduled tick clearIds)
      { clearedEvents := s.clearedEvents })

end TrafficEventSchedulerState

def advanceEventScheduler (s : TrafficEventSchedulerState) (injected : List TrafficEvent)
    (tick : ℕ) (clearIds : List ℕ) : Except EventError TrafficEventSchedulerState := do
  let current ← if injected = [] then pure s else
    ({ s with scheduledEvents := s.scheduledEvents ++ injected } :
      TrafficEventSchedulerState).checked
  (current.planAdvance tick clearIds).checked

section Effects

variable {p n m : ℕ} (net : RoadNetworkCSR p n m)

def bridgeGroupLinkIds (groupId : ℤ) : List ℤ :=
  if net.bridgeCrossings = [] then
    ((List.finRange n).filter fun l => (net.links l).bridgeGroupId = some groupId).map
      fun l => (net.links l).linkId
  else
    match net.bridgeCrossings.reverse.find? fun c => c.bridgeGroupId = groupId with
    | none => []
    | some crossing => crossing.linkIds

def resolveTargetLinkIds (scope : TargetScope) : List ℤ :=
  match scope.linkIds with
  | some linkIds => linkIds
  | none =>
    match scope.bridgeGroupId with
    | some groupId => bridgeGroupLinkIds net groupId
    | none => []

def eventCapacityMultiplier (event : TrafficEvent) : Option ℚ :=
  match event.effectModel with
  | .closure => some 0
  | .capacityReduction => some (max 0 (min 1 (1 - event.severity)))
  | .unsupported _ => none

/-- The links on which an active event acts; a closure only acts where the link
can be closed. -/
def affectedLinks (event : TrafficEvent) : List (Fin n) :=
  if event.status = .active then
    (resolveTargetLinkIds net event.targetScope).filterMap fun linkId =>
      (net.linkIdToIndex linkId).filter fun l =>
        decide (event.effectModel ≠ .closure) || (net.links l).isBlockable
  else []

/-- One event's effect: the least multiplier per link counts. -/
def applyEventMultiplier (multiplier : Fin n → ℚ) (event : TrafficEvent) (l : Fin n) : ℚ :=
  match eventCapacityMultiplier event with
  | none => multiplier l
  | some factor =>
    if l ∈ affectedLinks net event then min (multiplier l) factor else multiplier l

def computeIncidentCapacityMultiplierFromEvents (activeEvents : List TrafficEvent) : Fin n → ℚ :=
  activeEvents.foldl (applyEventMultiplier net) fun _ => 1

theorem event_capacity_multiplier_unit {event : TrafficEvent} {factor : ℚ}
    (h : eventCapacityMultiplier event = some factor) : 0 ≤ factor ∧ factor ≤ 1 := by
  unfold eventCapacityMultiplier at h
  split at h
  · obtain rfl := Option.some.inj h
    exact ⟨le_refl 0, zero_le_one⟩
  · obtain rfl := Option.some.inj h
    exact ⟨le_max_left _ _, max_le zero_le_one (min_le_left _ _)⟩
  · cases h

theorem apply_event_multiplier_unit {multiplier : Fin n → ℚ} (event : TrafficEvent)
    (h : ∀ l, 0 ≤ multiplier l ∧ multiplier l ≤ 1) (l : Fin n) :
    0 ≤ applyEventMultiplier net multiplier event l ∧
      applyEventMultiplier net multiplier event l ≤ 1 := by
  unfold applyEventMultiplier
  split
  · exact h l
  · rename_i factor found
    obtain ⟨low, _⟩ := event_capacity_multiplier_unit found
    split
    · exact ⟨le_min (h l).1 low, (min_le_left _ _).trans (h l).2⟩
    · exact h l

theorem incident_multiplier_unit (activeEvents : List TrafficEvent) (l : Fin n) :
    0 ≤ computeIncidentCapacityMultiplierFromEvents net activeEvents l ∧
      computeIncidentCapacityMultiplierFromEvents net activeEvents l ≤ 1 := by
  suffices general : ∀ (events : List TrafficEvent) (multiplier : Fin n → ℚ),
      (∀ l, 0 ≤ multiplier l ∧ multiplier l ≤ 1) →
        ∀ l, 0 ≤ events.foldl (applyEventMultiplier net) multiplier l ∧
          events.foldl (applyEventMultiplier net) multiplier l ≤ 1 from
    general activeEvents _ (fun _ => ⟨zero_le_one, le_refl 1⟩) l
  intro events
  induction events with
  | nil => exact fun _ h => h
  | cons event events ih =>
    exact fun multiplier h => ih _ (apply_event_multiplier_unit net event h)

def applyActiveEventEffectsToLinkState (s : LinkState n) (activeEvents : List TrafficEvent) :
    LinkState n :=
  { s with
    incidentCapacityMultiplier := computeIncidentCapacityMultiplierFromEvents net activeEvents
    capacityViolationFlags := fun l => decide
      (s.capacityVehPerTick l * computeIncidentCapacityMultiplierFromEvents net activeEvents l +
        1 / 1000000 < s.outflowVehicles l)
    multiplier_unit := incident_multiplier_unit net activeEvents }

end Effects

end Metroflow.Flow
