import Metroflow.Sim.ActiveAgents

namespace Metroflow.Sim

open Metroflow.Lib

variable {cap : ℕ}

inductive PoolError where
  | capacity
  | full
  | payloadNotAlive
  | slotRange (slotId : ℤ) (size : ℕ)
  | notAlive (slotId : ℤ)
  | overflow
  | stackIndex (index size : ℕ)
  deriving DecidableEq, Repr

def PoolError.message : PoolError → String
  | .capacity => "capacity must be > 0"
  | .full => "active-agent pool is full"
  | .payloadNotAlive => "slot_payload.alive must be True for allocation"
  | .slotRange slotId size =>
    "slot_id " ++ toString slotId ++ " out of range for capacity " ++ toString size
  | .notAlive slotId => "slot " ++ toString slotId ++ " is not alive"
  | .overflow => "free_slot_stack overflow"
  | .stackIndex index size =>
    "index " ++ toString index ++ " is out of bounds for axis 0 with size " ++ toString size

/-- A slot's number as the free stack stores it. -/
abbrev slotNumber (i : Fin cap) : ℤ := (i : ℕ)

/-- The slot of a number in range. -/
def slotOf (cap : ℕ) (slotId : ℤ) : Option (Fin cap) :=
  if inside : 0 ≤ slotId ∧ slotId < cap then some ⟨slotId.toNat, by omega⟩ else none

theorem slot_of_eq_some {slotId : ℤ} {i : Fin cap} : slotOf cap slotId = some i ↔ slotNumber i = slotId := by
  have inside := i.isLt
  unfold slotOf
  split
  · rw [Option.some.injEq, Fin.ext_iff]
    simp only [slotNumber]
    omega
  · simp only [reduceCtorEq, slotNumber, false_iff]
    omega

/-- The pool as the code packs it: the free slots are the first `freeSlotCount`
entries of an array with a place for every slot, the top one last. -/
structure PackedPool (cap : ℕ) where
  freeSlotStack : List ℤ
  freeSlotCount : ℕ
  aliveCount : ℕ
  slots : Fin cap → ActiveAgentSlot
  pluginMemory : Fin cap → Option RouteMemory
  stack_shape : freeSlotStack.length = cap
  counts : freeSlotCount + aliveCount = cap

structure SlotPayload extends ActiveAgentSlot where
  progress_unit : 0 ≤ progress01 ∧ progress01 ≤ 1

namespace PackedPool

theorem fresh_stack_length (cap : ℕ) :
    ((List.range cap).reverse.map Nat.cast : List ℤ).length = cap := by simp

def create (cap : ℕ) : Except PoolError (PackedPool cap) := do
  raiseIf (cap = 0) .capacity
  return {
    freeSlotStack := (List.range cap).reverse.map Nat.cast
    freeSlotCount := cap
    aliveCount := 0
    slots := fun _ => {}
    pluginMemory := fun _ => none
    stack_shape := by simp
    counts := Nat.add_zero cap }

variable (p : PackedPool cap)

def freeIds : List ℤ := p.freeSlotStack.take p.freeSlotCount

/-- Takes the top entry off the stack and writes a slot. -/
def pop (i : Fin cap) (slot : ActiveAgentSlot) (some : 0 < p.freeSlotCount) : PackedPool cap :=
  { p with
    freeSlotCount := p.freeSlotCount - 1
    aliveCount := p.aliveCount + 1
    slots := Function.update p.slots i slot
    counts := by
      have := p.counts
      omega }

/-- Allocates the top free slot and writes the payload's fields. -/
def allocate (payload : SlotPayload) : Except PoolError (PackedPool cap × Fin cap) :=
  let slotId := p.freeSlotStack.getD (p.freeSlotCount - 1) (-1)
  if full : p.freeSlotCount = 0 then .error .full
  else if payload.alive = false then .error .payloadNotAlive
  else
    match slotOf cap slotId with
    | none => .error (.slotRange slotId cap)
    | some i => .ok (p.pop i payload.toActiveAgentSlot (Nat.pos_of_ne_zero full), i)

def push (i : Fin cap) (memory : Fin cap → Option RouteMemory) (room : p.freeSlotCount < cap) :
    PackedPool cap where
  freeSlotStack := p.freeSlotStack.set p.freeSlotCount (slotNumber i)
  freeSlotCount := p.freeSlotCount + 1
  aliveCount := p.aliveCount - 1
  slots := Function.update p.slots i {}
  pluginMemory := memory
  stack_shape := by simp [p.stack_shape]
  counts := by
    have := p.counts
    omega

/-- Releases one alive slot; its route memory stays. -/
def release (slotId : ℤ) : Except PoolError (PackedPool cap) :=
  match slotOf cap slotId with
  | none => .error (.slotRange slotId cap)
  | some i =>
    if (p.slots i).alive = false then .error (.notAlive slotId)
    else if room : p.freeSlotCount < cap then .ok (p.push i p.pluginMemory room)
    else .error .overflow

/-- The release of the commit, which also forgets the route. -/
def commitReleaseSlot (i : Fin cap) : Except PoolError (PackedPool cap) :=
  if room : p.freeSlotCount < cap then
    .ok (p.push i (Function.update p.pluginMemory i none) room)
  else .error (.stackIndex p.freeSlotCount cap)

/-- The commit releases some of the slots that it found alive, in slot order. -/
def commitRelease (completes : Fin cap → Bool) : Except PoolError (PackedPool cap) :=
  ((List.finRange cap).filter fun i => (p.slots i).alive && completes i).foldlM
    commitReleaseSlot p

/-- What the pool validation reports. -/
inductive Issue where
  | aliveCount
  | countSum
  | duplicate
  | outOfRange
  | overlap
  | progress
  deriving DecidableEq, Repr

/-- The consistency violations of the pool; without any it is valid. -/
def validateActiveAgentPool : List Issue :=
  (if p.aliveCount ≠ (Finset.univ.filter fun i => (p.slots i).alive = true).card then
    [.aliveCount] else []) ++
  (if p.freeSlotCount + p.aliveCount ≠ cap then [.countSum] else []) ++
  (if ¬ p.freeIds.Nodup then [.duplicate] else []) ++
  (if ∃ slotId ∈ p.freeIds, slotId < 0 ∨ (cap : ℤ) ≤ slotId then [.outOfRange] else []) ++
  (if ∃ i : Fin cap, (p.slots i).alive = true ∧ slotNumber i ∈ p.freeIds then [.overlap] else []) ++
  (if ∃ i : Fin cap, (p.slots i).progress01 < 0 ∨ 1 < (p.slots i).progress01 then
    [.progress] else [])

end PackedPool

inductive PoolOp (cap : ℕ) where
  | allocate (payload : SlotPayload)
  | release (slotId : ℤ)
  | commitRelease (completes : Fin cap → Bool)

def PackedPool.perform (p : PackedPool cap) : PoolOp cap → Except PoolError (PackedPool cap)
  | .allocate payload => (p.allocate payload).map Prod.fst
  | .release slotId => p.release slotId
  | .commitRelease completes => p.commitRelease completes

/-- A packed pool stands for a pool of the same slots whose free stack is its
free entries from the top down. -/
structure Represents (p : PackedPool cap) (q : ActiveAgentPool cap) : Prop where
  stack : p.freeIds.reverse = q.freeSlotStack.map slotNumber
  alive_count : q.aliveCount = p.aliveCount
  slots : q.slots = p.slots
  memory : q.pluginMemory = p.pluginMemory

namespace Represents

variable {p p' : PackedPool cap} {q q' : ActiveAgentPool cap} {i : Fin cap}

theorem created (h : PackedPool.create cap = .ok p) : Represents p (createActiveAgentPool cap) := by
  obtain ⟨_, _, h⟩ := bind_ok.mp h
  obtain rfl := pure_ok.mp h
  refine ⟨?_, rfl, rfl, rfl⟩
  simp only [PackedPool.freeIds, createActiveAgentPool]
  rw [List.take_of_length_le (by simp), ← List.map_reverse, List.reverse_reverse,
    ← List.map_coe_finRange_eq_range, List.map_map]
  rfl

theorem pushed (h : Represents p q) (memory : Fin cap → Option RouteMemory)
    (room : p.freeSlotCount < cap) (stack : q'.freeSlotStack = i :: q.freeSlotStack)
    (count : q'.aliveCount = q.aliveCount - 1)
    (slots : q'.slots = Function.update q.slots i {}) (memories : q'.pluginMemory = memory) :
    Represents (p.push i memory room) q' where
  stack := by
    have inside : p.freeSlotCount < p.freeSlotStack.length := p.stack_shape.symm ▸ room
    rw [stack, List.map_cons, ← h.stack, PackedPool.freeIds, PackedPool.push]
    simp [List.take_add_one, List.take_set_of_le, PackedPool.freeIds, inside]
  alive_count := by rw [count, h.alive_count, PackedPool.push]
  slots := by rw [slots, h.slots, PackedPool.push]
  memory := memories

theorem mem_free_ids (h : Represents p q) {x : ℤ} :
    x ∈ p.freeIds ↔ ∃ i ∈ q.freeSlotStack, slotNumber i = x := by
  rw [← List.mem_reverse, h.stack, List.mem_map]

theorem slot_mem_free_ids (h : Represents p q) : slotNumber i ∈ p.freeIds ↔ i ∈ q.freeSlotStack := by
  rw [h.mem_free_ids]
  constructor
  · rintro ⟨j, free, same⟩
    obtain rfl : j = i := Fin.ext (Int.ofNat.inj same)
    exact free
  · exact fun free => ⟨i, free, rfl⟩

theorem top (h : Represents p q) {rest : List (Fin cap)} (found : q.freeSlotStack = i :: rest) :
    0 < p.freeSlotCount ∧ p.freeSlotStack.getD (p.freeSlotCount - 1) (-1) = slotNumber i ∧
      (p.freeSlotStack.take (p.freeSlotCount - 1)).reverse = rest.map slotNumber := by
  have stack := h.stack
  rw [found, List.map_cons, PackedPool.freeIds] at stack
  cases count : p.freeSlotCount with
  | zero => simp [count] at stack
  | succ c =>
    have inside : c < p.freeSlotStack.length := by
      have := p.stack_shape
      have := p.counts
      omega
    rw [count, List.take_add_one, List.getElem?_eq_getElem inside] at stack
    simp only [Option.toList_some, List.reverse_append, List.reverse_cons, List.reverse_nil,
      List.nil_append, List.cons_append, List.cons.injEq] at stack
    exact ⟨c.succ_pos, by simp [List.getD_eq_getElem?_getD, inside, stack.1], stack.2⟩

theorem allocates (h : Represents p q) {payload : SlotPayload} (alive : payload.alive = true) :
    (q.freeSlotStack = [] ∧ p.allocate payload = .error .full) ∨
      ∃ p' q' i, p.allocate payload = .ok (p', i) ∧
        allocateActiveAgentSlot q payload.toActiveAgentSlot = .ok (q', i) ∧ Represents p' q' := by
  cases stack : q.freeSlotStack with
  | nil =>
    left
    have empty : p.freeSlotCount = 0 := by
      have counts := q.counts
      have packed := p.counts
      rw [stack, h.alive_count, List.length_nil] at counts
      omega
    exact ⟨rfl, by simp [PackedPool.allocate, empty]⟩
  | cons i rest =>
    right
    obtain ⟨some, top, below⟩ := h.top stack
    have counts : rest.length + (q.aliveCount + 1) = cap := by
      have := q.counts
      rw [stack, List.length_cons] at this
      omega
    refine ⟨p.pop i payload.toActiveAgentSlot some,
      ⟨rest, q.aliveCount + 1, Function.update q.slots i payload.toActiveAgentSlot,
        q.pluginMemory, counts⟩, i, ?_, allocate_ok.mpr ⟨stack, rfl, rfl, rfl⟩,
      ⟨below, congrArg (· + 1) h.alive_count, by rw [h.slots, PackedPool.pop], h.memory⟩⟩
    simp only [PackedPool.allocate, some.ne', dite_false, alive, Bool.true_eq_false, if_false, top,
      slot_of_eq_some.mpr rfl]

theorem allocate_ok_iff (h : Represents p q) {payload : SlotPayload} (alive : payload.alive = true) :
    (∃ r, p.allocate payload = .ok r) ↔ q.freeSlotStack ≠ [] := by
  rcases h.allocates alive with ⟨empty, full⟩ | ⟨p', q', i, ok, allocated, _⟩
  · simp [empty, full]
  · obtain ⟨stack, _⟩ := Metroflow.Sim.allocate_ok.mp allocated
    simp [ok, stack]

end Represents

/-- A packed pool whose slots are each alive or, once, on the free stack. -/
structure PackedPool.Sound (p : PackedPool cap) : Prop where
  alive_count : p.aliveCount = (Finset.univ.filter fun i => (p.slots i).alive = true).card
  free_unique : p.freeIds.Nodup
  free_range : ∀ slotId ∈ p.freeIds, 0 ≤ slotId ∧ slotId < cap
  free_iff_dead : ∀ i, slotNumber i ∈ p.freeIds ↔ (p.slots i).alive = false
  progress_unit : ∀ i, 0 ≤ (p.slots i).progress01 ∧ (p.slots i).progress01 ≤ 1

theorem PackedPool.Sound.validates {p : PackedPool cap} (h : p.Sound) :
    p.validateActiveAgentPool = [] := by
  have range : ¬ ∃ slotId ∈ p.freeIds, slotId < 0 ∨ (cap : ℤ) ≤ slotId := by
    rintro ⟨slotId, listed, outside⟩
    have := h.free_range slotId listed
    omega
  have apart : ¬ ∃ i, (p.slots i).alive = true ∧ slotNumber i ∈ p.freeIds := by
    rintro ⟨i, alive, listed⟩
    exact absurd (alive.symm.trans ((h.free_iff_dead i).mp listed)) (by simp)
  have unit : ¬ ∃ i, (p.slots i).progress01 < 0 ∨ 1 < (p.slots i).progress01 := by
    rintro ⟨i, low | high⟩
    · exact absurd (h.progress_unit i).1 (not_le.mpr low)
    · exact absurd (h.progress_unit i).2 (not_le.mpr high)
  simp only [validateActiveAgentPool, ne_eq, ← h.alive_count, p.counts, h.free_unique, range, apart,
    unit, not_true_eq_false, if_false, List.append_nil]

def PackedPool.Backed (p : PackedPool cap) : Prop := ∃ q, Represents p q ∧ q.Valid

namespace PackedPool.Backed

variable {p p' : PackedPool cap}

theorem of_validates (clean : p.validateActiveAgentPool = []) : p.Backed := by
  simp only [validateActiveAgentPool, List.append_eq_nil_iff, ite_eq_right_iff, List.cons_ne_nil,
    imp_false, not_not, not_exists, not_and, not_or, not_lt, not_le] at clean
  obtain ⟨⟨⟨⟨⟨alive, _⟩, unique⟩, range⟩, apart⟩, unit⟩ := clean
  have listed : (p.freeIds.reverse.filterMap (slotOf cap)).map slotNumber = p.freeIds.reverse := by
    rw [List.map_filterMap]
    refine (List.filterMap_congr (g := some) fun x mem => ?_).trans (List.filterMap_some ..)
    obtain ⟨low, high⟩ := range x (List.mem_reverse.mp mem)
    have found : slotOf cap x = some ⟨x.toNat, by omega⟩ := dif_pos ⟨low, high⟩
    simp only [found, Option.map_some, Option.some.injEq, slotNumber]
    omega
  have length : p.freeIds.length = p.freeSlotCount := by
    have := p.counts
    rw [freeIds, List.length_take, p.stack_shape]
    omega
  have counts : (p.freeIds.reverse.filterMap (slotOf cap)).length + p.aliveCount = cap := by
    rw [← List.length_map slotNumber, listed, List.length_reverse, length, p.counts]
  refine ⟨⟨_, p.aliveCount, p.slots, p.pluginMemory, counts⟩, ⟨listed.symm, rfl, rfl, rfl⟩,
    alive, ?_, fun i free => ?_, fun i => ?_⟩
  · exact List.Nodup.of_map slotNumber (by rw [listed, List.nodup_reverse]; exact unique)
  · have mem : slotNumber i ∈ p.freeIds := by
      rw [← List.mem_reverse, ← listed]
      exact List.mem_map_of_mem free
    exact Bool.not_eq_true _ ▸ fun alive => apart i alive mem
  · exact ⟨(unit i).1, (unit i).2⟩

theorem sound (h : p.Backed) : p.Sound := by
  obtain ⟨q, same, valid⟩ := h
  have injective : Function.Injective fun i : Fin cap => slotNumber i :=
    fun i j equal => Fin.ext (Int.ofNat.inj equal)
  have alive : ∀ i, q.alive i = (p.slots i).alive := by
    intro i
    rw [ActiveAgentPool.alive, same.slots]
  refine ⟨?_, ?_, fun slotId listed => ?_, fun i => ?_, fun i => same.slots ▸ valid.progress_unit i⟩
  · rw [← same.alive_count, valid.alive_count]
    simp only [alive]
  · rw [← List.nodup_reverse, same.stack]
    exact valid.stack_unique.map injective
  · obtain ⟨i, _, rfl⟩ := same.mem_free_ids.mp listed
    have := i.isLt
    exact ⟨Int.natCast_nonneg _, by exact_mod_cast this⟩
  · rw [same.slot_mem_free_ids, valid.free_iff, alive]

theorem allocated (h : p.Backed) {payload : SlotPayload} {i : Fin cap}
    (ok : p.allocate payload = .ok (p', i)) : p'.Backed ∧ (p.slots i).alive = false := by
  obtain ⟨q, same, valid⟩ := h
  have alive : payload.alive = true := by
    unfold PackedPool.allocate at ok
    simp only at ok
    split at ok
    · cases ok
    · split at ok
      · cases ok
      · rename_i alive
        exact Bool.not_eq_false _ ▸ alive
  rcases same.allocates alive with ⟨_, full⟩ | ⟨p'', q', j, taken, allocated, same'⟩
  · cases full.symm.trans ok
  · obtain ⟨rfl, rfl⟩ := Prod.mk.inj (Except.ok.inj (taken.symm.trans ok))
    obtain ⟨stack, count, slots, _⟩ := allocate_ok.mp allocated
    refine ⟨⟨q', same', valid.allocated stack count slots alive payload.progress_unit⟩, ?_⟩
    rw [← same.slots]
    exact valid.stack_free j (by simp [stack])

theorem pushed (h : p.Backed) {i : Fin cap} (alive : (p.slots i).alive = true)
    (memory : Fin cap → Option RouteMemory) (room : p.freeSlotCount < cap) :
    (p.push i memory room).Backed := by
  obtain ⟨q, same, valid⟩ := h
  have found : q.alive i = true := by rw [ActiveAgentPool.alive, same.slots, alive]
  have counts : (i :: q.freeSlotStack).length + (q.aliveCount - 1) = cap := by
    have := q.counts
    have := valid.alive_count_ne_zero found
    simp only [List.length_cons]
    omega
  exact ⟨⟨_, _, Function.update q.slots i {}, memory, counts⟩, same.pushed memory room rfl rfl rfl rfl,
    valid.released found rfl rfl rfl⟩

theorem released (h : p.Backed) {slotId : ℤ} (ok : p.release slotId = .ok p') : p'.Backed := by
  unfold PackedPool.release at ok
  split at ok
  · cases ok
  · split at ok
    · cases ok
    · rename_i alive
      split at ok
      · rename_i room
        obtain rfl := Except.ok.inj ok
        exact h.pushed (Bool.not_eq_false _ ▸ alive) p.pluginMemory room
      · cases ok

theorem commit_released (h : p.Backed) {completes : Fin cap → Bool}
    (ok : p.commitRelease completes = .ok p') : p'.Backed := by
  have nodup := (List.nodup_finRange cap).filter fun i => (p.slots i).alive && completes i
  refine (fold_progress (I := fun past s => PackedPool.Backed s ∧
    ∀ j, j ∉ past → s.slots j = p.slots j) (fun past i rest s s' split held step => ?_)
    ⟨h, fun _ _ => rfl⟩ ok).1
  obtain ⟨backed, untouched⟩ := held
  have fresh : i ∉ past := by
    rw [split] at nodup
    exact fun listed => List.disjoint_of_nodup_append nodup listed List.mem_cons_self
  have chosen : i ∈ (List.finRange cap).filter fun i => (p.slots i).alive && completes i := by
    rw [split]
    simp
  have alive : (s.slots i).alive = true := by
    rw [untouched i fresh]
    exact (Bool.and_eq_true_iff.mp (List.mem_filter.mp chosen).2).1
  unfold PackedPool.commitReleaseSlot at step
  split at step
  · rename_i room
    obtain rfl := Except.ok.inj step
    refine ⟨backed.pushed alive _ room, fun j later => ?_⟩
    rw [List.mem_append, not_or, List.mem_singleton] at later
    exact (Function.update_of_ne later.2 {} s.slots).trans (untouched j later.1)
  · cases step

theorem performed (h : p.Backed) {op : PoolOp cap} (ok : p.perform op = .ok p') : p'.Backed := by
  cases op with
  | allocate payload =>
    obtain ⟨⟨p'', i⟩, allocated, rfl⟩ := map_ok.mp ok
    exact (h.allocated allocated).1
  | release slotId => exact h.released ok
  | commitRelease completes => exact h.commit_released ok

end PackedPool.Backed

end Metroflow.Sim
