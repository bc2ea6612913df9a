import Metroflow.Lib.Tables
import Metroflow.Routing.Selection
import Metroflow.Sim.Config

namespace Metroflow.Sim

open Metroflow.Lib Metroflow.Routing

inductive IncidentTransition where
  | activated
  | cleared
  | changed
  deriving DecidableEq, Repr

/-- Why agents reconsider their routes on a tick. -/
inductive RerouteTrigger where
  | incidentTransition (transition : IncidentTransition)
  | incident
  | refreshInterval
  deriving DecidableEq, Repr

/-- The last reroute decision of an agent. -/
structure RerouteNote where
  tick : ℕ
  trigger : RerouteTrigger
  reason : RerouteDecisionReason
  improvementRatio : ℚ
  deriving DecidableEq, Repr

/-- What the pool remembers about the route of a slot's agent. -/
structure RouteMemory where
  routePath : List ℤ := []
  originPoiId : Option ℤ := none
  destPoiId : Option ℤ := none
  tripRequestId : Option ℤ := none
  runtimeAdmittedTick : Option ℕ := none
  selected : Option SelectedCandidateRoute := none
  lastReroute : Option RerouteNote := none
  deriving DecidableEq, Repr

/-- Logical slot payload; the defaults are those of a free slot. -/
structure ActiveAgentSlot where
  alive : Bool := false
  citizenId : ℤ := -1
  tripId : ℤ := -1
  currentLinkId : ℤ := -1
  progress01 : ℚ := 0
  remainingRoutePtr : ℕ := 0
  destNodeId : ℤ := -1
  behaviorProfileId : ℤ := -1
  rerouteCooldownTicks : ℕ := 0
  deriving DecidableEq, Repr

/-- An alive slot payload before allocation. -/
def ActiveAgentSlot.spawn (citizenId tripId currentLinkId destNodeId behaviorProfileId : ℤ) :
    ActiveAgentSlot where
  alive := true
  citizenId := citizenId
  tripId := tripId
  currentLinkId := currentLinkId
  destNodeId := destNodeId
  behaviorProfileId := behaviorProfileId

/-- Packed active-agent state plus free-slot stack bookkeeping, top first. -/
structure ActiveAgentPool (cap : ℕ) where
  freeSlotStack : List (Fin cap)
  aliveCount : ℕ
  slots : Fin cap → ActiveAgentSlot
  pluginMemory : Fin cap → Option RouteMemory
  counts : freeSlotStack.length + aliveCount = cap

variable {cap : ℕ}

/-- A pool without agents, all slots free. -/
def createActiveAgentPool (cap : ℕ) : ActiveAgentPool cap where
  freeSlotStack := List.finRange cap
  aliveCount := 0
  slots _ := {}
  pluginMemory _ := none
  counts := by simp

namespace ActiveAgentPool

def alive (pool : ActiveAgentPool cap) (i : Fin cap) : Bool := (pool.slots i).alive

/-- The route memory of a slot, empty when none is stored. -/
def memory (pool : ActiveAgentPool cap) (i : Fin cap) : RouteMemory :=
  (pool.pluginMemory i).getD {}

def withSlot (pool : ActiveAgentPool cap) (i : Fin cap) (slot : ActiveAgentSlot) :
    ActiveAgentPool cap :=
  { pool with slots := Function.update pool.slots i slot }

def withMemory (pool : ActiveAgentPool cap) (i : Fin cap) (memory : RouteMemory) :
    ActiveAgentPool cap :=
  { pool with pluginMemory := Function.update pool.pluginMemory i (some memory) }

/-- What the pool validation asks for. -/
structure Valid (pool : ActiveAgentPool cap) : Prop where
  alive_count : pool.aliveCount = (Finset.univ.filter fun i => pool.alive i = true).card
  stack_unique : pool.freeSlotStack.Nodup
  stack_free : ∀ i ∈ pool.freeSlotStack, pool.alive i = false
  progress_unit : ∀ i, 0 ≤ (pool.slots i).progress01 ∧ (pool.slots i).progress01 ≤ 1

@[simp]
theorem with_slot_slots (pool : ActiveAgentPool cap) (i : Fin cap) (slot : ActiveAgentSlot) :
    (pool.withSlot i slot).slots = Function.update pool.slots i slot := rfl

@[simp]
theorem with_slot_memory (pool : ActiveAgentPool cap) (i : Fin cap) (slot : ActiveAgentSlot) :
    (pool.withSlot i slot).pluginMemory = pool.pluginMemory := rfl

@[simp]
theorem with_slot_stack (pool : ActiveAgentPool cap) (i : Fin cap) (slot : ActiveAgentSlot) :
    (pool.withSlot i slot).freeSlotStack = pool.freeSlotStack := rfl

@[simp]
theorem with_slot_count (pool : ActiveAgentPool cap) (i : Fin cap) (slot : ActiveAgentSlot) :
    (pool.withSlot i slot).aliveCount = pool.aliveCount := rfl

@[simp]
theorem with_memory_slots (pool : ActiveAgentPool cap) (i : Fin cap) (memory : RouteMemory) :
    (pool.withMemory i memory).slots = pool.slots := rfl

@[simp]
theorem with_memory_memory (pool : ActiveAgentPool cap) (i : Fin cap) (memory : RouteMemory) :
    (pool.withMemory i memory).pluginMemory =
      Function.update pool.pluginMemory i (some memory) := rfl

@[simp]
theorem with_memory_stack (pool : ActiveAgentPool cap) (i : Fin cap) (memory : RouteMemory) :
    (pool.withMemory i memory).freeSlotStack = pool.freeSlotStack := rfl

@[simp]
theorem with_memory_count (pool : ActiveAgentPool cap) (i : Fin cap) (memory : RouteMemory) :
    (pool.withMemory i memory).aliveCount = pool.aliveCount := rfl

end ActiveAgentPool

/-- Takes the top free slot and writes the payload's fields. -/
def allocateActiveAgentSlot (pool : ActiveAgentPool cap) (payload : ActiveAgentSlot) :
    Except SimError (ActiveAgentPool cap × Fin cap) :=
  match h : pool.freeSlotStack with
  | [] => .error .poolFull
  | slotId :: rest =>
    .ok ({
      freeSlotStack := rest
      aliveCount := pool.aliveCount + 1
      slots := Function.update pool.slots slotId payload
      pluginMemory := pool.pluginMemory
      counts := by
        have := pool.counts
        simp only [h, List.length_cons] at this
        omega }, slotId)

/-- The commit's release: the slot is reset, forgotten and pushed on the stack. -/
def releaseSlot (pool : ActiveAgentPool cap) (slotId : Fin cap) :
    Except SimError (ActiveAgentPool cap) :=
  if h : pool.aliveCount = 0 then .error .freeStackOverflow
  else
    .ok {
      freeSlotStack := slotId :: pool.freeSlotStack
      aliveCount := pool.aliveCount - 1
      slots := Function.update pool.slots slotId {}
      pluginMemory := Function.update pool.pluginMemory slotId none
      counts := by
        have := pool.counts
        simp only [List.length_cons]
        omega }

theorem allocate_ok {pool pool' : ActiveAgentPool cap} {payload : ActiveAgentSlot} {i : Fin cap} :
    allocateActiveAgentSlot pool payload = .ok (pool', i) ↔
      pool.freeSlotStack = i :: pool'.freeSlotStack ∧ pool'.aliveCount = pool.aliveCount + 1 ∧
        pool'.slots = Function.update pool.slots i payload ∧
        pool'.pluginMemory = pool.pluginMemory := by
  unfold allocateActiveAgentSlot
  split
  · rename_i empty
    simp [empty]
  · rename_i slotId rest top
    obtain ⟨stack, count, slots, memory, counts⟩ := pool'
    simp only [Except.ok.injEq, Prod.mk.injEq, ActiveAgentPool.mk.injEq, top, List.cons.injEq]
    grind

theorem release_ok {pool pool' : ActiveAgentPool cap} {i : Fin cap} :
    releaseSlot pool i = .ok pool' ↔
      pool.aliveCount ≠ 0 ∧ pool'.freeSlotStack = i :: pool.freeSlotStack ∧
        pool'.aliveCount = pool.aliveCount - 1 ∧
        pool'.slots = Function.update pool.slots i {} ∧
        pool'.pluginMemory = Function.update pool.pluginMemory i none := by
  unfold releaseSlot
  split
  · rename_i empty
    simp [empty]
  · rename_i some
    obtain ⟨stack, count, slots, memory, counts⟩ := pool'
    simp only [Except.ok.injEq, ActiveAgentPool.mk.injEq]
    grind

namespace ActiveAgentPool

variable {pool pool' : ActiveAgentPool cap} {i : Fin cap} {payload : ActiveAgentSlot}

/-- How many agents have a property. -/
def agents (pool : ActiveAgentPool cap) (P : ActiveAgentSlot → Prop) [DecidablePred P] : ℕ :=
  (Finset.univ.filter fun i => (pool.slots i).alive = true ∧ P (pool.slots i)).card

abbrev residents (pool : ActiveAgentPool cap) (linkId : ℤ) : ℕ :=
  pool.agents fun slot => slot.currentLinkId = linkId

abbrev owners (pool : ActiveAgentPool cap) (tripId : ℤ) : ℕ :=
  pool.agents fun slot => slot.tripId = tripId

theorem agents_of_slot (P : ActiveAgentSlot → Prop) [DecidablePred P]
    (slots : pool'.slots = Function.update pool.slots i payload) :
    pool'.agents P + (if (pool.slots i).alive = true ∧ P (pool.slots i) then 1 else 0) =
      pool.agents P + if payload.alive = true ∧ P payload then 1 else 0 := by
  unfold agents
  rw [slots]
  exact card_update (fun slot => slot.alive = true ∧ P slot) pool.slots i payload

theorem agents_pos (P : ActiveAgentSlot → Prop) [DecidablePred P] (alive : pool.alive i = true)
    (has : P (pool.slots i)) : 0 < pool.agents P :=
  Finset.card_pos.mpr ⟨i, by simp [has, show (pool.slots i).alive = true from alive]⟩

theorem agents_congr (P : ActiveAgentSlot → Prop) [DecidablePred P]
    (same : ∀ i, ((pool'.slots i).alive = true ∧ P (pool'.slots i)) ↔
      (pool.slots i).alive = true ∧ P (pool.slots i)) : pool'.agents P = pool.agents P := by
  unfold agents
  simp only [same]

theorem agents_zero (P : ActiveAgentSlot → Prop) [DecidablePred P]
    (empty : ∀ i, pool.alive i = false) : pool.agents P = 0 := by
  unfold agents
  rw [Finset.card_eq_zero, Finset.filter_eq_empty_iff]
  rintro i _ ⟨alive, _⟩
  exact absurd (alive.symm.trans (empty i)) (by simp)

theorem agents_true :
    (pool.agents fun _ => True) = (Finset.univ.filter fun i => pool.alive i = true).card :=
  congrArg Finset.card (Finset.filter_congr fun _ _ => and_iff_left trivial)

namespace Valid

theorem alive_count_eq (h : pool.Valid) : pool.aliveCount = pool.agents fun _ => True :=
  h.alive_count.trans agents_true.symm

theorem of_same (h : pool.Valid) (stack : pool'.freeSlotStack = pool.freeSlotStack)
    (count : pool'.aliveCount = pool.aliveCount) (alive : ∀ i, pool'.alive i = pool.alive i)
    (progress : ∀ i, 0 ≤ (pool'.slots i).progress01 ∧ (pool'.slots i).progress01 ≤ 1) :
    pool'.Valid where
  alive_count := by simp [count, h.alive_count, alive]
  stack_unique := stack ▸ h.stack_unique
  stack_free i free := by
    rw [alive]
    exact h.stack_free i (stack ▸ free)
  progress_unit := progress

theorem allocated (h : pool.Valid) (stack : pool.freeSlotStack = i :: pool'.freeSlotStack)
    (count : pool'.aliveCount = pool.aliveCount + 1)
    (slots : pool'.slots = Function.update pool.slots i payload) (alive : payload.alive = true)
    (progress : 0 ≤ payload.progress01 ∧ payload.progress01 ≤ 1) : pool'.Valid where
  alive_count := by
    have free := h.stack_free i (by simp [stack])
    have moved := agents_of_slot (fun _ => True) slots
    rw [← h.alive_count_eq] at moved
    simp only [and_true, show (pool.slots i).alive = false from free, Bool.false_eq_true, if_false,
      alive, if_true] at moved
    rw [count, ← moved, Nat.add_zero, agents_true]
  stack_unique := (List.nodup_cons.mp (stack ▸ h.stack_unique)).2
  stack_free j free := by
    have apart : j ≠ i := by
      rintro rfl
      exact (List.nodup_cons.mp (stack ▸ h.stack_unique)).1 free
    have before := h.stack_free j (by simp [stack, free])
    simpa [ActiveAgentPool.alive, slots, Function.update_of_ne apart] using before
  progress_unit j := by
    rw [slots]
    by_cases here : j = i
    · subst here
      simpa using progress
    · simpa [here] using h.progress_unit j

theorem released (h : pool.Valid) (alive : pool.alive i = true)
    (stack : pool'.freeSlotStack = i :: pool.freeSlotStack)
    (count : pool'.aliveCount = pool.aliveCount - 1)
    (slots : pool'.slots = Function.update pool.slots i {}) : pool'.Valid where
  alive_count := by
    have moved := agents_of_slot (fun _ => True) slots
    rw [← h.alive_count_eq] at moved
    simp only [and_true, show (pool.slots i).alive = true from alive, if_true,
      Bool.false_eq_true, if_false] at moved
    rw [count, ← agents_true]
    omega
  stack_unique := by
    rw [stack]
    refine List.nodup_cons.mpr ⟨fun free => ?_, h.stack_unique⟩
    exact absurd (alive.symm.trans (h.stack_free i free)) (by simp)
  stack_free j free := by
    by_cases here : j = i
    · subst here
      simp [ActiveAgentPool.alive, slots]
    · rw [stack] at free
      have before := h.stack_free j ((List.mem_cons.mp free).resolve_left here)
      simpa [ActiveAgentPool.alive, slots, Function.update_of_ne here] using before
  progress_unit j := by
    rw [slots]
    by_cases here : j = i
    · subst here
      simp
    · simpa [here] using h.progress_unit j

theorem alive_count_ne_zero (h : pool.Valid) (alive : pool.alive i = true) :
    pool.aliveCount ≠ 0 := by
  rw [h.alive_count_eq]
  exact (agents_pos (fun _ => True) alive trivial).ne'

theorem free_iff (h : pool.Valid) : i ∈ pool.freeSlotStack ↔ pool.alive i = false := by
  refine ⟨h.stack_free i, fun dead => ?_⟩
  by_contra leaked
  have free := List.toFinset_card_of_nodup h.stack_unique
  have apart : Disjoint pool.freeSlotStack.toFinset
      (Finset.univ.filter fun j => pool.alive j = true) := by
    rw [Finset.disjoint_left]
    intro j listed alive
    have freed := h.stack_free j (List.mem_toFinset.mp listed)
    simp [freed] at alive
  have missing : i ∉ pool.freeSlotStack.toFinset ∪
      Finset.univ.filter fun j => pool.alive j = true := by
    simp [leaked, dead]
  have few := Finset.card_lt_univ_of_notMem missing
  have counts := pool.counts
  rw [Finset.card_union_of_disjoint apart, free, ← h.alive_count, Fintype.card_fin, counts] at few
  exact lt_irrefl cap few

end Valid

structure Empty (pool : ActiveAgentPool cap) : Prop where
  valid : pool.Valid
  none_alive : ∀ i, pool.alive i = false

theorem create_empty (cap : ℕ) : (createActiveAgentPool cap).Empty where
  valid := {
    alive_count := by simp [createActiveAgentPool, alive]
    stack_unique := List.nodup_finRange cap
    stack_free := fun _ _ => rfl
    progress_unit := fun _ => ⟨le_refl 0, zero_le_one⟩ }
  none_alive _ := rfl

end ActiveAgentPool

end Metroflow.Sim
