import Metroflow.Flow.Events

namespace Metroflow.Flow

open Metroflow.Lib

/-- The stages of an event in the order it may take them. -/
def TrafficEventStatus.stage : TrafficEventStatus → ℕ
  | .scheduled => 0
  | .active => 1
  | .cleared => 2

@[simp]
theorem TrafficEvent.with_status_status (event : TrafficEvent) (status : TrafficEventStatus) :
    (event.withStatus status).status = status := rfl

@[simp]
theorem TrafficEvent.with_status_event_id (event : TrafficEvent) (status : TrafficEventStatus) :
    (event.withStatus status).eventId = event.eventId := rfl

@[simp]
theorem TrafficEvent.with_status_start_tick (event : TrafficEvent) (status : TrafficEventStatus) :
    (event.withStatus status).startTick = event.startTick := rfl

@[simp]
theorem TrafficEvent.with_status_end_tick (event : TrafficEvent) (status : TrafficEventStatus) :
    (event.withStatus status).endTick = event.endTick := rfl

@[simp]
theorem TrafficEvent.with_status_self (event : TrafficEvent) :
    event.withStatus event.status = event := rfl

@[simp]
theorem TrafficEvent.with_status_twice (event : TrafficEvent) (first last : TrafficEventStatus) :
    (event.withStatus first).withStatus last = event.withStatus last := rfl

namespace TrafficEventSchedulerState

variable {s s' plan : TrafficEventSchedulerState} {event : TrafficEvent}

def bucket (s : TrafficEventSchedulerState) : TrafficEventStatus → List TrafficEvent
  | .scheduled => s.scheduledEvents
  | .active => s.activeEvents
  | .cleared => s.clearedEvents

def allEvents (s : TrafficEventSchedulerState) : List TrafficEvent :=
  s.scheduledEvents ++ s.activeEvents ++ s.clearedEvents

/-- Every event lies in the bucket of its status. -/
def Filed (s : TrafficEventSchedulerState) : Prop :=
  ∀ status, ∀ event ∈ s.bucket status, event.status = status

structure Checked (s : TrafficEventSchedulerState) : Prop where
  filed : s.Filed
  unique : (s.allEvents.map TrafficEvent.eventId).Nodup

theorem mem_all_events : event ∈ s.allEvents ↔ ∃ status, event ∈ s.bucket status := by
  simp only [allEvents, List.mem_append]
  constructor
  · rintro ((h | h) | h)
    · exact ⟨.scheduled, h⟩
    · exact ⟨.active, h⟩
    · exact ⟨.cleared, h⟩
  · rintro ⟨_ | _ | _, h⟩
    · exact .inl (.inl h)
    · exact .inl (.inr h)
    · exact .inr h

theorem Filed.mem_bucket (h : s.Filed) {status : TrafficEventStatus} :
    event ∈ s.bucket status ↔ event ∈ s.allEvents ∧ event.status = status := by
  rw [mem_all_events]
  constructor
  · exact fun listed => ⟨⟨status, listed⟩, h status event listed⟩
  · rintro ⟨⟨other, listed⟩, same⟩
    exact (h other event listed).symm.trans same ▸ listed

theorem check_bucket_ok {expected : TrafficEventStatus} {events : List TrafficEvent} {u : Unit} :
    checkBucket expected events = .ok u ↔ ∀ event ∈ events, event.status = expected := by
  unfold checkBucket
  split
  · rename_i none
    simpa [List.find?_eq_none] using none
  · rename_i event found
    have listed := List.mem_of_find?_eq_some found
    have wrong := List.find?_some found
    simp only [reduceCtorEq, false_iff, not_forall]
    exact ⟨event, listed, by simpa using wrong⟩

theorem first_repeated_none {seen ids : List ℕ} :
    firstRepeated seen ids = none ↔ ids.Nodup ∧ ∀ eventId ∈ ids, eventId ∉ seen := by
  induction ids generalizing seen with
  | nil => simp [firstRepeated]
  | cons eventId rest ih =>
    unfold firstRepeated
    split
    · rename_i repeated
      simp [repeated]
    · rename_i fresh
      rw [ih, List.nodup_cons]
      simp only [List.mem_cons, not_or, forall_eq_or_imp, fresh, not_false_eq_true, true_and]
      constructor
      · rintro ⟨unique, apart⟩
        exact ⟨⟨fun again => (apart eventId again).1 rfl, unique⟩, fun x h => (apart x h).2⟩
      · rintro ⟨⟨once, unique⟩, apart⟩
        exact ⟨unique, fun x h => ⟨fun same => once (same ▸ h), apart x h⟩⟩

theorem checked_ok : s.checked = .ok s' ↔ s = s' ∧ s.Checked := by
  simp only [checked, bind_ok, check_bucket_ok]
  constructor
  · rintro ⟨_, scheduled, _, active, _, cleared, h⟩
    split at h
    · cases h
    · rename_i none
      refine ⟨pure_ok.mp h, ?_, (first_repeated_none.mp none).1⟩
      rintro (_ | _ | _)
      · exact scheduled
      · exact active
      · exact cleared
  · rintro ⟨rfl, filed, unique⟩
    refine ⟨(), filed .scheduled, (), filed .active, (), filed .cleared, ?_⟩
    rw [allEvents] at unique
    rw [first_repeated_none.mpr ⟨unique, by simp⟩]
    rfl

/-- Files an event under its status. -/
def put (plan : TrafficEventSchedulerState) (event : TrafficEvent) : TrafficEventSchedulerState :=
  match event.status with
  | .scheduled => { plan with scheduledEvents := plan.scheduledEvents ++ [event] }
  | .active => { plan with activeEvents := plan.activeEvents ++ [event] }
  | .cleared => { plan with clearedEvents := plan.clearedEvents ++ [event] }

theorem all_events_put : (plan.put event).allEvents.Perm (event :: plan.allEvents) := by
  unfold put
  split
  · simp only [allEvents, List.append_assoc, List.singleton_append]
    exact List.perm_middle
  · simp only [allEvents, List.append_assoc, List.singleton_append]
    rw [← List.append_assoc, ← List.append_assoc]
    exact List.perm_middle
  · simp only [allEvents, ← List.append_assoc]
    exact List.perm_append_singleton _ _

theorem Filed.put (h : plan.Filed) (event : TrafficEvent) : (plan.put event).Filed := by
  intro status e listed
  unfold TrafficEventSchedulerState.put at listed
  cases kind : event.status <;> rw [kind] at listed <;> cases status <;>
    first
    | exact h _ e listed
    | rcases List.mem_append.mp listed with old | new
      · exact h _ e old
      · rw [List.mem_singleton.mp new, kind]

theorem all_events_put_list (events : List TrafficEvent) :
    (events.foldl put plan).allEvents.Perm (plan.allEvents ++ events) := by
  induction events generalizing plan with
  | nil => simp
  | cons event events ih =>
    exact ih.trans ((all_events_put.append_right events).trans List.perm_middle.symm)

theorem Filed.put_list (h : plan.Filed) (events : List TrafficEvent) :
    (events.foldl TrafficEventSchedulerState.put plan).Filed := by
  induction events generalizing plan with
  | nil => exact h
  | cons event events ih => exact ih (h.put event)

end TrafficEventSchedulerState

def nextStatus (tick : ℕ) (clearIds : List ℕ) (event : TrafficEvent) : TrafficEventStatus :=
  if event.status = .cleared ∨ event.eventId ∈ clearIds ∨ event.endTick < tick then .cleared
  else if event.status = .active ∨ event.startTick ≤ tick then .active
  else .scheduled

def advanced (tick : ℕ) (clearIds : List ℕ) (event : TrafficEvent) : TrafficEvent :=
  event.withStatus (nextStatus tick clearIds event)

namespace TrafficEventSchedulerState

variable {s s' plan : TrafficEventSchedulerState} {event : TrafficEvent} {tick : ℕ}
  {clearIds : List ℕ}

theorem add_cleared_fresh {history : List TrafficEvent}
    (fresh : event.eventId ∉ history.map TrafficEvent.eventId) :
    addCleared history event = history ++ [event.withStatus .cleared] := by
  unfold addCleared
  rw [if_neg]
  intro found
  obtain ⟨old, listed, same⟩ := List.any_eq_true.mp found
  exact fresh (List.mem_map.mpr ⟨old, listed, by simpa using same⟩)

theorem plan_scheduled_eq_put (scheduled : event.status = .scheduled)
    (fresh : event.eventId ∉ plan.clearedEvents.map TrafficEvent.eventId) :
    planScheduled tick clearIds plan event = plan.put (advanced tick clearIds event) := by
  unfold planScheduled advanced nextStatus
  simp only [scheduled, add_cleared_fresh fresh, reduceCtorEq, false_or]
  by_cases listed : event.eventId ∈ clearIds
  · simp [listed, put]
  · by_cases expired : event.endTick < tick
    · simp [listed, expired, put]
    · by_cases started : event.startTick ≤ tick <;> simp [listed, expired, started, put]

theorem plan_active_eq_put (active : event.status = .active)
    (fresh : event.eventId ∉ plan.clearedEvents.map TrafficEvent.eventId) :
    planActive tick clearIds plan event = plan.put (advanced tick clearIds event) := by
  unfold planActive advanced nextStatus
  simp only [active, add_cleared_fresh fresh, reduceCtorEq, false_or, true_or, if_true]
  split <;> simp [put]

theorem fold_eq_put {file : TrafficEventSchedulerState → TrafficEvent → TrafficEventSchedulerState}
    {events : List TrafficEvent}
    (files : ∀ plan, ∀ event ∈ events, event.eventId ∉ plan.clearedEvents.map TrafficEvent.eventId →
      file plan event = plan.put (advanced tick clearIds event))
    (unique : ((plan.allEvents ++ events).map TrafficEvent.eventId).Nodup) :
    events.foldl file plan = (events.map (advanced tick clearIds)).foldl put plan := by
  induction events generalizing plan with
  | nil => rfl
  | cons event events ih =>
    have fresh : event.eventId ∉ plan.clearedEvents.map TrafficEvent.eventId := by
      intro listed
      obtain ⟨old, cleared, same⟩ := List.mem_map.mp listed
      rw [List.map_append] at unique
      exact List.disjoint_of_nodup_append unique
        (List.mem_map.mpr ⟨old, List.mem_append_right _ cleared, rfl⟩) (by simp [same])
    have unique' : (((plan.put (advanced tick clearIds event)).allEvents ++ events).map
        TrafficEvent.eventId).Nodup := by
      have filed : ((plan.put (advanced tick clearIds event)).allEvents.map
          TrafficEvent.eventId).Perm (event.eventId :: plan.allEvents.map TrafficEvent.eventId) :=
        all_events_put.map TrafficEvent.eventId
      refine (List.Perm.nodup_iff ?_).mp unique
      rw [List.map_append, List.map_append, List.map_cons]
      exact List.perm_middle.trans (filed.symm.append_right _)
    rw [List.foldl_cons, files plan event List.mem_cons_self fresh, List.map_cons, List.foldl_cons]
    exact ih (fun plan e listed => files plan e (List.mem_cons_of_mem _ listed)) unique'

@[simp]
theorem map_event_id_advanced (events : List TrafficEvent) :
    (events.map (advanced tick clearIds)).map TrafficEvent.eventId =
      events.map TrafficEvent.eventId := by
  simp [List.map_map, Function.comp_def, advanced]

theorem plan_advance_eq_put (h : s.Checked) :
    s.planAdvance tick clearIds =
      ((s.scheduledEvents ++ s.activeEvents).map (advanced tick clearIds)).foldl put
        { clearedEvents := s.clearedEvents } := by
  let start : TrafficEventSchedulerState := { clearedEvents := s.clearedEvents }
  have begun : ((start.allEvents ++ (s.scheduledEvents ++ s.activeEvents)).map
      TrafficEvent.eventId).Nodup :=
    (List.Perm.nodup_iff (List.perm_append_comm.map _)).mp h.unique
  have first : s.scheduledEvents.foldl (planScheduled tick clearIds) start =
      (s.scheduledEvents.map (advanced tick clearIds)).foldl put start := by
    refine fold_eq_put (fun plan event listed fresh =>
      plan_scheduled_eq_put (h.filed .scheduled event listed) fresh) (begun.sublist ?_)
    exact ((List.Sublist.refl _).append (List.sublist_append_left _ _)).map _
  have middle : ((((s.scheduledEvents.map (advanced tick clearIds)).foldl put start).allEvents ++
      s.activeEvents).map TrafficEvent.eventId).Nodup := by
    have passed : (((s.scheduledEvents.map (advanced tick clearIds)).foldl put start).allEvents.map
        TrafficEvent.eventId).Perm ((start.allEvents ++
          s.scheduledEvents.map (advanced tick clearIds)).map TrafficEvent.eventId) :=
      (all_events_put_list _).map TrafficEvent.eventId
    rw [List.map_append, map_event_id_advanced] at passed
    rw [List.map_append]
    refine (List.Perm.nodup_iff (passed.append_right _)).mpr ?_
    simpa using begun
  rw [planAdvance, first, List.map_append, List.foldl_append]
  exact fold_eq_put (fun plan event listed fresh =>
    plan_active_eq_put (h.filed .active event listed) fresh) middle

theorem advanced_cleared (cleared : event.status = .cleared) :
    advanced tick clearIds event = event := by
  rw [advanced, nextStatus, if_pos (.inl cleared), ← cleared, TrafficEvent.with_status_self]

theorem plan_advance_spec (h : s.Checked) :
    (s.planAdvance tick clearIds).Checked ∧
      (s.planAdvance tick clearIds).allEvents.Perm
        (s.allEvents.map (advanced tick clearIds)) := by
  have kept : s.clearedEvents.map (advanced tick clearIds) = s.clearedEvents := by
    refine (List.map_congr_left fun event listed => ?_).trans (List.map_id _)
    exact advanced_cleared (h.filed .cleared event listed)
  have start : Filed { clearedEvents := s.clearedEvents } := by
    rintro (_ | _ | _) event listed
    · cases listed
    · cases listed
    · exact h.filed .cleared event listed
  have moved : (s.planAdvance tick clearIds).allEvents.Perm
      (s.allEvents.map (advanced tick clearIds)) := by
    rw [plan_advance_eq_put h]
    calc (((s.scheduledEvents ++ s.activeEvents).map (advanced tick clearIds)).foldl put
            { clearedEvents := s.clearedEvents }).allEvents.Perm
          (s.clearedEvents ++ (s.scheduledEvents ++ s.activeEvents).map (advanced tick clearIds)) :=
          all_events_put_list _
      _ = (s.clearedEvents ++ (s.scheduledEvents ++ s.activeEvents)).map
          (advanced tick clearIds) := by symm; rw [List.map_append, kept]
      List.Perm _ (s.allEvents.map (advanced tick clearIds)) := List.perm_append_comm.map _
  refine ⟨⟨?_, ?_⟩, moved⟩
  · rw [plan_advance_eq_put h]
    exact start.put_list _
  · rw [(moved.map TrafficEvent.eventId).nodup_iff, map_event_id_advanced]
    exact h.unique

theorem advance_spec {injected : List TrafficEvent} (h : s.Checked)
    (scheduled : ∀ event ∈ injected, event.status = .scheduled)
    (unique : ((s.allEvents ++ injected).map TrafficEvent.eventId).Nodup) :
    ∃ s', advanceEventScheduler s injected tick clearIds = .ok s' ∧ s'.Checked ∧
      s'.allEvents.Perm ((s.allEvents ++ injected).map (advanced tick clearIds)) := by
  let current : TrafficEventSchedulerState :=
    { s with scheduledEvents := s.scheduledEvents ++ injected }
  have grown : current.allEvents.Perm (s.allEvents ++ injected) := by
    simp only [current, allEvents, List.append_assoc]
    refine List.Perm.append_left _ ?_
    calc (injected ++ (s.activeEvents ++ s.clearedEvents)).Perm
          ((s.activeEvents ++ s.clearedEvents) ++ injected) := List.perm_append_comm
      _ = s.activeEvents ++ (s.clearedEvents ++ injected) := List.append_assoc ..
  have held : current.Checked := by
    refine ⟨?_, (List.Perm.nodup_iff (grown.map _)).mpr unique⟩
    rintro (_ | _ | _) event listed
    · rcases List.mem_append.mp listed with old | new
      · exact h.filed .scheduled event old
      · exact scheduled event new
    · exact h.filed .active event listed
    · exact h.filed .cleared event listed
  obtain ⟨checked, moved⟩ := plan_advance_spec (s := current) held
  refine ⟨current.planAdvance tick clearIds, ?_, checked, moved.trans (grown.map _)⟩
  unfold advanceEventScheduler
  split
  · rename_i none
    have same : current = s := by simp [current, none]
    exact checked_ok.mpr ⟨by rw [same], same ▸ checked⟩
  · exact bind_ok.mpr ⟨current, checked_ok.mpr ⟨rfl, held⟩, checked_ok.mpr ⟨rfl, checked⟩⟩

end TrafficEventSchedulerState

/-- What one step of the simulation gives the scheduler. -/
structure EventInput where
  tick : ℕ
  injected : List TrafficEvent := []
  clearIds : List ℕ := []

def EventInput.apply (s : TrafficEventSchedulerState) (input : EventInput) :
    Except EventError TrafficEventSchedulerState :=
  advanceEventScheduler s input.injected input.tick input.clearIds

def injectedEvents (history : List EventInput) : List TrafficEvent :=
  history.flatMap EventInput.injected

def lastTick (history : List EventInput) : ℕ :=
  ((history.map EventInput.tick).getLast?).getD 0

def clearedSince (event : TrafficEvent) : List EventInput → Bool
  | [] => false
  | input :: later =>
    (decide (event ∈ input.injected) &&
      (input :: later).any fun step => decide (event.eventId ∈ step.clearIds)) ||
    clearedSince event later

def dueStatus (history : List EventInput) (event : TrafficEvent) : TrafficEventStatus :=
  if clearedSince event history = true ∨ event.endTick < lastTick history then .cleared
  else if event.startTick ≤ lastTick history then .active
  else .scheduled

section Histories

variable {history : List EventInput} {input : EventInput} {event : TrafficEvent}

@[simp]
theorem injected_events_append (past later : List EventInput) :
    injectedEvents (past ++ later) = injectedEvents past ++ injectedEvents later :=
  List.flatMap_append

@[simp]
theorem injected_events_single (input : EventInput) : injectedEvents [input] = input.injected :=
  List.append_nil _

@[simp]
theorem last_tick_concat : lastTick (history ++ [input]) = input.tick := by
  simp [lastTick]

theorem cleared_since_concat :
    clearedSince event (history ++ [input]) = true ↔
      clearedSince event history = true ∨
        event ∈ injectedEvents (history ++ [input]) ∧ event.eventId ∈ input.clearIds := by
  induction history with
  | nil => simp [clearedSince]
  | cons first history ih =>
    simp only [List.cons_append, clearedSince, ih, Bool.or_eq_true, Bool.and_eq_true]
    simp only [List.any_append, List.any_cons, List.any_nil, Bool.or_false, Bool.or_eq_true,
      decide_eq_true_eq, injectedEvents, List.flatMap_cons, List.mem_append]
    grind

theorem due_status_concat (listed : event ∈ injectedEvents (history ++ [input])) :
    dueStatus (history ++ [input]) event =
      if (clearedSince event history = true ∨ event.eventId ∈ input.clearIds) ∨
        event.endTick < input.tick then .cleared
      else if event.startTick ≤ input.tick then .active
      else .scheduled := by
  simp only [dueStatus, last_tick_concat, cleared_since_concat, listed, true_and]

theorem not_cleared_since (absent : event ∉ injectedEvents history) :
    clearedSince event history = false := by
  induction history with
  | nil => rfl
  | cons first history ih =>
    simp only [injectedEvents, List.flatMap_cons, List.mem_append, not_or] at absent
    simp [clearedSince, absent.1, ih absent.2]

theorem next_status_due (present : event ∈ injectedEvents history)
    (forward : lastTick history ≤ input.tick) :
    nextStatus input.tick input.clearIds (event.withStatus (dueStatus history event)) =
      dueStatus (history ++ [input]) event := by
  have listed : event ∈ injectedEvents (history ++ [input]) := by simp [present]
  rw [due_status_concat listed]
  by_cases over_with : clearedSince event history = true ∨ event.endTick < lastTick history
  · have due : dueStatus history event = .cleared := if_pos over_with
    rw [due, nextStatus, if_pos (.inl rfl), if_pos]
    exact over_with.imp .inl forward.trans_lt'
  · by_cases started : event.startTick ≤ lastTick history
    · have due : dueStatus history event = .active := (if_neg over_with).trans (if_pos started)
      rw [due, nextStatus]
      simp [not_or.mp over_with, started.trans forward]
    · have due : dueStatus history event = .scheduled := (if_neg over_with).trans (if_neg started)
      rw [due, nextStatus]
      simp [not_or.mp over_with]

theorem next_status_injected (fresh : event ∉ injectedEvents history)
    (present : event ∈ input.injected) (scheduled : event.status = .scheduled) :
    nextStatus input.tick input.clearIds event = dueStatus (history ++ [input]) event := by
  have listed : event ∈ injectedEvents (history ++ [input]) := by simp [present]
  rw [due_status_concat listed, nextStatus]
  simp [scheduled, not_cleared_since fresh]

theorem due_status_stage_le (present : event ∈ injectedEvents history)
    (forward : lastTick history ≤ input.tick) :
    (dueStatus history event).stage ≤ (dueStatus (history ++ [input]) event).stage := by
  rw [← next_status_due present forward]
  generalize dueStatus history event = status
  unfold nextStatus
  cases status <;> simp only [TrafficEvent.with_status_status, reduceCtorEq, false_or, true_or, if_true] <;>
    repeat' split
  all_goals simp [TrafficEventStatus.stage]

end Histories

theorem last_tick_le {history : List EventInput} {input : EventInput}
    (forward : ((history ++ [input]).map EventInput.tick).Pairwise (· ≤ ·)) :
    lastTick history ≤ input.tick := by
  rw [List.map_append, List.pairwise_append] at forward
  unfold lastTick
  cases last : (history.map EventInput.tick).getLast? with
  | none => exact Nat.zero_le _
  | some t => exact forward.2.2 t (List.mem_of_getLast? last) input.tick (by simp)

/-- After the steps of a history the scheduler holds each injected event once,
under the status due. -/
structure Follows (history : List EventInput) (s : TrafficEventSchedulerState) : Prop where
  checked : s.Checked
  events : s.allEvents.Perm
    ((injectedEvents history).map fun event => event.withStatus (dueStatus history event))

namespace Follows

variable {history : List EventInput} {input : EventInput} {s : TrafficEventSchedulerState}

theorem empty : Follows [] {} := by
  refine ⟨⟨?_, List.nodup_nil⟩, List.Perm.refl _⟩
  rintro (_ | _ | _) event listed <;> cases listed

theorem step (h : Follows history s) (forward : lastTick history ≤ input.tick)
    (scheduled : ∀ event ∈ input.injected, event.status = .scheduled)
    (unique : ((injectedEvents (history ++ [input])).map TrafficEvent.eventId).Nodup) :
    ∃ s', input.apply s = .ok s' ∧ Follows (history ++ [input]) s' := by
  have ids : ((s.allEvents ++ input.injected).map TrafficEvent.eventId).Perm
      ((injectedEvents (history ++ [input])).map TrafficEvent.eventId) := by
    have held := h.events.map TrafficEvent.eventId
    simp only [List.map_map, Function.comp_def, TrafficEvent.with_status_event_id] at held
    simpa using held.append_right _
  have fresh : ∀ event ∈ input.injected, event ∉ injectedEvents history := by
    intro event new old
    rw [injected_events_append, List.map_append, injected_events_single] at unique
    exact List.disjoint_of_nodup_append unique (List.mem_map_of_mem old) (List.mem_map_of_mem new)
  have due : ((injectedEvents history).map fun event =>
        event.withStatus (dueStatus history event)).map (advanced input.tick input.clearIds) ++
      input.injected.map (advanced input.tick input.clearIds) =
      (injectedEvents (history ++ [input])).map fun event =>
        event.withStatus (dueStatus (history ++ [input]) event) := by
    rw [injected_events_append, injected_events_single, List.map_append, List.map_map]
    congr 1
    · refine List.map_congr_left fun event present => ?_
      rw [Function.comp_apply, advanced, next_status_due present forward,
        TrafficEvent.with_status_twice]
    · refine List.map_congr_left fun event present => ?_
      rw [advanced, next_status_injected (fresh event present) present (scheduled event present)]
  obtain ⟨s', ok, checked, moved⟩ : ∃ s', input.apply s = .ok s' ∧ s'.Checked ∧ s'.allEvents.Perm
      ((s.allEvents ++ input.injected).map (advanced input.tick input.clearIds)) :=
    TrafficEventSchedulerState.advance_spec h.checked scheduled (ids.nodup_iff.mpr unique)
  refine ⟨s', ok, checked, moved.trans ?_⟩
  rw [List.map_append, ← due]
  exact (h.events.map _).append_right _

theorem run (unique : ((injectedEvents history).map TrafficEvent.eventId).Nodup)
    (scheduled : ∀ event ∈ injectedEvents history, event.status = .scheduled)
    (forward : (history.map EventInput.tick).Pairwise (· ≤ ·)) :
    ∃ s, history.foldlM EventInput.apply {} = .ok s ∧ Follows history s := by
  induction history using List.reverseRecOn with
  | nil => exact ⟨{}, rfl, empty⟩
  | append_singleton history input ih =>
    have earlier := List.sublist_append_left history [input]
    obtain ⟨s, ok, held⟩ := ih (unique.sublist ((earlier.flatMap _).map _))
      (fun event listed => scheduled event (by simp [listed])) (forward.sublist (earlier.map _))
    obtain ⟨s', step, followed⟩ := held.step (last_tick_le forward)
      (fun event listed => scheduled event (by simp [listed])) unique
    exact ⟨s', fold_append.mpr ⟨s, ok, fold_cons.mpr ⟨s', step, rfl⟩⟩, followed⟩

theorem bucket_iff (h : Follows history s)
    (unique : ((injectedEvents history).map TrafficEvent.eventId).Nodup) {event : TrafficEvent}
    (present : event ∈ injectedEvents history) {status : TrafficEventStatus} :
    event.eventId ∈ (s.bucket status).map TrafficEvent.eventId ↔ dueStatus history event = status := by
  constructor
  · intro found
    obtain ⟨filed, listed, same⟩ := List.mem_map.mp found
    obtain ⟨all, status_eq⟩ := h.checked.filed.mem_bucket.mp listed
    obtain ⟨origin, injected, rfl⟩ := List.mem_map.mp (h.events.mem_iff.mp all)
    obtain rfl := List.inj_on_of_nodup_map unique injected present same
    exact status_eq
  · rintro rfl
    refine List.mem_map.mpr ⟨event.withStatus (dueStatus history event), ?_, rfl⟩
    exact h.checked.filed.mem_bucket.mpr
      ⟨h.events.mem_iff.mpr (List.mem_map.mpr ⟨event, present, rfl⟩), rfl⟩

end Follows

theorem due_status_stage_mono {past later : List EventInput} {event : TrafficEvent}
    (present : event ∈ injectedEvents past)
    (forward : ((past ++ later).map EventInput.tick).Pairwise (· ≤ ·)) :
    (dueStatus past event).stage ≤ (dueStatus (past ++ later) event).stage := by
  induction later using List.reverseRecOn with
  | nil => simp
  | append_singleton later input ih =>
    rw [← List.append_assoc] at forward ⊢
    have earlier : ((past ++ later).map EventInput.tick).Pairwise (· ≤ ·) :=
      forward.sublist ((List.sublist_append_left _ _).map _)
    exact (ih earlier).trans (due_status_stage_le (by simp [present]) (last_tick_le forward))

/-- Over any schedule of unique injections and clears at nondecreasing ticks the
scheduler accepts every step, keeps every injected event in exactly one bucket, the
one of its due status, and never moves an event back. -/
theorem event_scheduler_lifecycle (history : List EventInput)
    (unique : ((injectedEvents history).map TrafficEvent.eventId).Nodup)
    (scheduled : ∀ event ∈ injectedEvents history, event.status = .scheduled)
    (forward : (history.map EventInput.tick).Pairwise (· ≤ ·)) :
    ∃ s, history.foldlM EventInput.apply {} = .ok s ∧
      s.allEvents.Perm
        ((injectedEvents history).map fun event => event.withStatus (dueStatus history event)) ∧
      (∀ event ∈ injectedEvents history, ∀ status,
        event.eventId ∈ (s.bucket status).map TrafficEvent.eventId ↔
          dueStatus history event = status) ∧
      ∀ past later s₀, history = past ++ later → past.foldlM EventInput.apply {} = .ok s₀ →
        ∀ event ∈ injectedEvents past, ∀ status₀ status,
          event.eventId ∈ (s₀.bucket status₀).map TrafficEvent.eventId →
            event.eventId ∈ (s.bucket status).map TrafficEvent.eventId →
              status₀.stage ≤ status.stage := by
  obtain ⟨s, ok, follows⟩ := Follows.run unique scheduled forward
  refine ⟨s, ok, follows.events, fun event present status => follows.bucket_iff unique present, ?_⟩
  rintro past later s₀ rfl ok₀ event present status₀ status before after
  have before_unique : ((injectedEvents past).map TrafficEvent.eventId).Nodup :=
    unique.sublist ((((List.sublist_append_left past later).flatMap _)).map _)
  have listed : event ∈ injectedEvents (past ++ later) := by simp [present]
  obtain ⟨s₁, ok₁, follows₀⟩ := Follows.run before_unique
    (fun event listed => scheduled event (by simp [listed]))
    (forward.sublist ((List.sublist_append_left _ _).map _))
  obtain rfl := Except.ok.inj (ok₀.symm.trans ok₁)
  rw [follows₀.bucket_iff before_unique present] at before
  rw [follows.bucket_iff unique listed] at after
  rw [← before, ← after]
  exact due_status_stage_mono present forward

/-- A closure of link 10 from tick 3 to tick 5. -/
def shortClosure (eventId : ℕ) : TrafficEvent where
  eventId := eventId
  startTick := 3
  endTick := 5
  targetScope := { linkIds := some [10] }
  severity := 1
  effectModel := .closure
  start_before_end := by simp
  severity_unit := Lib.one_unit

/-- The ticks jump over the whole interval of event 7, and event 8 is cleared in the
step that injects it. -/
theorem event_scheduler_lifecycle_skipped :
    ∃ s, [⟨1, [shortClosure 7], []⟩, ⟨1, [shortClosure 8], [8]⟩, ⟨6, [], []⟩].foldlM
        EventInput.apply {} = .ok s ∧
      s.allEvents.Perm [(shortClosure 7).withStatus .cleared, (shortClosure 8).withStatus .cleared] := by
  obtain ⟨s, ok, events, _⟩ := event_scheduler_lifecycle
    [⟨1, [shortClosure 7], []⟩, ⟨1, [shortClosure 8], [8]⟩, ⟨6, [], []⟩]
    (by decide) (by decide) (by decide)
  exact ⟨s, ok, events⟩

end Metroflow.Flow
