import Metroflow.Lib.Dict
import Metroflow.Lib.Rounding
import Metroflow.Sim.PackedPool

namespace Metroflow.Sim.Columns

open Metroflow.Lib

variable {μ : Type} {cap : ℕ}

/-- The nearest single-precision number, of two equally near ones the even one. -/
def single (x : ℚ) : ℚ :=
  let unit : ℚ := 2 ^ (23 - max (Int.log 2 x) (-126))
  roundHalfEven (x * unit) / unit

inductive ColumnError where
  | pool (error : PoolError)
  | int32 (value : ℤ)
  | progress
  | cooldown
  deriving DecidableEq, Repr

def ColumnError.message : ColumnError → String
  | .pool error => error.message
  | .int32 value => "Python integer " ++ toString value ++ " out of bounds for int32"
  | .progress => "progress_01 must be in [0, 1]"
  | .cooldown => "reroute_cooldown_ticks must be >= 0"

/-- A slot as a payload or as the reader puts it together; `μ` holds plugin memories. -/
structure ActiveAgentSlot (μ : Type) where
  slotId : ℤ := -1
  alive : Bool := false
  citizenId : ℤ := -1
  tripId : ℤ := -1
  currentLinkId : ℤ := -1
  progress01 : ℚ := 0
  remainingRoutePtr : ℤ := 0
  destNodeId : ℤ := -1
  behaviorProfileId : ℤ := -1
  rerouteCooldownTicks : ℤ := 0
  pluginMemory : μ
  progress_unit : 0 ≤ progress01 ∧ progress01 ≤ 1 := by simp
  cooldown_nonneg : 0 ≤ rerouteCooldownTicks := by simp

/-- What the side table holds for a slot; only a dict is read as a memory. -/
inductive StoredMemory (μ : Type) where
  | dict (memory : μ)
  | other

/-- The pool with one array for each field of its slots. -/
structure ActiveAgentPool (μ : Type) (cap : ℕ) where
  freeSlotStack : List ℤ
  freeSlotCount : ℕ
  aliveCount : ℕ
  aliveMask : Fin cap → Bool
  citizenId : Fin cap → ℤ
  tripId : Fin cap → ℤ
  currentLinkId : Fin cap → ℤ
  progress01 : Fin cap → ℚ
  remainingRoutePtr : Fin cap → ℤ
  destNodeId : Fin cap → ℤ
  behaviorProfileId : Fin cap → ℤ
  rerouteCooldownTicks : Fin cap → ℤ
  pluginMemory : Dict ℤ (StoredMemory μ)
  stack_shape : freeSlotStack.length = cap
  counts : freeSlotCount + aliveCount = cap

def createActiveAgentPool (μ : Type) (cap : ℕ) : Except ColumnError (ActiveAgentPool μ cap) := do
  raiseIf (cap = 0) (.pool .capacity)
  return {
    freeSlotStack := (List.range cap).reverse.map Nat.cast
    freeSlotCount := cap
    aliveCount := 0
    aliveMask := fun _ => false
    citizenId := fun _ => -1
    tripId := fun _ => -1
    currentLinkId := fun _ => -1
    progress01 := fun _ => 0
    remainingRoutePtr := fun _ => 0
    destNodeId := fun _ => -1
    behaviorProfileId := fun _ => -1
    rerouteCooldownTicks := fun _ => 0
    pluginMemory := []
    stack_shape := PackedPool.fresh_stack_length cap
    counts := Nat.add_zero cap }

/-- The numbers that an integer column can hold. -/
def Int32 (value : ℤ) : Prop := -2 ^ 31 ≤ value ∧ value < 2 ^ 31

instance (value : ℤ) : Decidable (Int32 value) :=
  inferInstanceAs (Decidable (-2 ^ 31 ≤ value ∧ value < 2 ^ 31))

/-- One entry of an integer column; a number that the column cannot hold is refused. -/
def arraySet1d (column : Fin cap → ℤ) (i : Fin cap) (value : ℤ) : Except ColumnError (Fin cap → ℤ) :=
  if Int32 value then .ok (Function.update column i value)
  else .error (.int32 value)

theorem taken_counts (pool : ActiveAgentPool μ cap) (full : ¬ pool.freeSlotCount = 0) :
    pool.freeSlotCount - 1 + (pool.aliveCount + 1) = cap := by
  have := pool.counts
  omega

/-- Takes the top free slot and writes the payload's columns. -/
def allocateActiveAgentSlot (pool : ActiveAgentPool μ cap) (payload : ActiveAgentSlot μ) :
    Except ColumnError (ActiveAgentPool μ cap × Fin cap) :=
  let slotId := pool.freeSlotStack.getD (pool.freeSlotCount - 1) (-1)
  if full : pool.freeSlotCount = 0 then .error (.pool .full)
  else if payload.alive = false then .error (.pool .payloadNotAlive)
  else
    match slotOf cap slotId with
    | none => .error (.pool (.slotRange slotId cap))
    | some i => do
      let citizenId ← arraySet1d pool.citizenId i payload.citizenId
      let tripId ← arraySet1d pool.tripId i payload.tripId
      let currentLinkId ← arraySet1d pool.currentLinkId i payload.currentLinkId
      let remainingRoutePtr ← arraySet1d pool.remainingRoutePtr i payload.remainingRoutePtr
      let destNodeId ← arraySet1d pool.destNodeId i payload.destNodeId
      let behaviorProfileId ← arraySet1d pool.behaviorProfileId i payload.behaviorProfileId
      let rerouteCooldownTicks ← arraySet1d pool.rerouteCooldownTicks i payload.rerouteCooldownTicks
      return ({ pool with
        freeSlotCount := pool.freeSlotCount - 1
        aliveCount := pool.aliveCount + 1
        aliveMask := Function.update pool.aliveMask i true
        citizenId := citizenId
        tripId := tripId
        currentLinkId := currentLinkId
        progress01 := Function.update pool.progress01 i (single payload.progress01)
        remainingRoutePtr := remainingRoutePtr
        destNodeId := destNodeId
        behaviorProfileId := behaviorProfileId
        rerouteCooldownTicks := rerouteCooldownTicks
        counts := taken_counts pool full }, i)

def releaseActiveAgentSlot (pool : ActiveAgentPool μ cap) (slotId : ℤ) :
    Except ColumnError (ActiveAgentPool μ cap) :=
  match slotOf cap slotId with
  | none => .error (.pool (.slotRange slotId cap))
  | some i =>
    if pool.aliveMask i = false then .error (.pool (.notAlive slotId))
    else if room : pool.freeSlotCount < cap then
      .ok { pool with
        freeSlotStack := pool.freeSlotStack.set pool.freeSlotCount (slotNumber i)
        freeSlotCount := pool.freeSlotCount + 1
        aliveCount := pool.aliveCount - 1
        aliveMask := Function.update pool.aliveMask i false
        citizenId := Function.update pool.citizenId i (-1)
        tripId := Function.update pool.tripId i (-1)
        currentLinkId := Function.update pool.currentLinkId i (-1)
        progress01 := Function.update pool.progress01 i 0
        remainingRoutePtr := Function.update pool.remainingRoutePtr i 0
        destNodeId := Function.update pool.destNodeId i (-1)
        behaviorProfileId := Function.update pool.behaviorProfileId i (-1)
        rerouteCooldownTicks := Function.update pool.rerouteCooldownTicks i 0
        stack_shape := by simp [pool.stack_shape]
        counts := by
          have := pool.counts
          omega }
    else .error (.pool .overflow)

section Reading

variable [EmptyCollection μ]

def slotPluginMemory (pool : ActiveAgentPool μ cap) (i : Fin cap) : μ :=
  match pool.pluginMemory.get (slotNumber i) with
  | some (.dict memory) => memory
  | _ => ∅

def readActiveAgentSlot (pool : ActiveAgentPool μ cap) (slotId : ℤ) :
    Except ColumnError (ActiveAgentSlot μ) :=
  match slotOf cap slotId with
  | none => .error (.pool (.slotRange slotId cap))
  | some i =>
    if unit : 0 ≤ pool.progress01 i ∧ pool.progress01 i ≤ 1 then
      if nonneg : 0 ≤ pool.rerouteCooldownTicks i then
        .ok {
          slotId := slotId
          alive := pool.aliveMask i
          citizenId := pool.citizenId i
          tripId := pool.tripId i
          currentLinkId := pool.currentLinkId i
          progress01 := pool.progress01 i
          remainingRoutePtr := pool.remainingRoutePtr i
          destNodeId := pool.destNodeId i
          behaviorProfileId := pool.behaviorProfileId i
          rerouteCooldownTicks := pool.rerouteCooldownTicks i
          pluginMemory := slotPluginMemory pool i
          progress_unit := unit
          cooldown_nonneg := nonneg }
      else .error .cooldown
    else .error .progress

end Reading

/-- The pool as if nothing had ever been written at a slot. -/
def blank (pool : ActiveAgentPool μ cap) (i : Fin cap) : ActiveAgentPool μ cap :=
  { pool with
    citizenId := Function.update pool.citizenId i (-1)
    tripId := Function.update pool.tripId i (-1)
    currentLinkId := Function.update pool.currentLinkId i (-1)
    progress01 := Function.update pool.progress01 i 0
    remainingRoutePtr := Function.update pool.remainingRoutePtr i 0
    destNodeId := Function.update pool.destNodeId i (-1)
    behaviorProfileId := Function.update pool.behaviorProfileId i (-1)
    rerouteCooldownTicks := Function.update pool.rerouteCooldownTicks i 0
    pluginMemory := pool.pluginMemory.filter fun item => item.1 ≠ slotNumber i }

inductive Issue where
  | pool (issue : PackedPool.Issue)
  | cooldown
  deriving DecidableEq, Repr

theorem single_unit {x : ℚ} (unit : 0 ≤ x ∧ x ≤ 1) : 0 ≤ single x ∧ single x ≤ 1 := by
  have exponent : Int.log 2 x ≤ 0 := by
    rcases unit.1.eq_or_lt with rfl | positive
    · simp
    · exact (Int.log_mono_right positive unit.2).trans (by simp)
  obtain ⟨n, unit_eq⟩ : ∃ n : ℕ, 23 - max (Int.log 2 x) (-126) = n :=
    ⟨_, (Int.toNat_of_nonneg (by omega)).symm⟩
  have positive : (0 : ℚ) < 2 ^ n := by positivity
  simp only [single, unit_eq, zpow_natCast]
  rw [div_le_one positive]
  constructor
  · have above : ((0 : ℤ) : ℚ) ≤ x * 2 ^ n := by
      push_cast
      exact mul_nonneg unit.1 positive.le
    exact div_nonneg (by exact_mod_cast round_half_even_mono_int.1 above) positive.le
  · have below : x * 2 ^ n ≤ ((2 ^ n : ℤ) : ℚ) := by
      push_cast
      nlinarith
    exact_mod_cast round_half_even_mono_int.2 below

/-- What the slots look like without their side table. -/
def ActiveAgentPool.packed (pool : ActiveAgentPool μ cap) : PackedPool cap where
  freeSlotStack := pool.freeSlotStack
  freeSlotCount := pool.freeSlotCount
  aliveCount := pool.aliveCount
  slots i := {
    alive := pool.aliveMask i
    citizenId := pool.citizenId i
    tripId := pool.tripId i
    currentLinkId := pool.currentLinkId i
    progress01 := pool.progress01 i
    remainingRoutePtr := (pool.remainingRoutePtr i).toNat
    destNodeId := pool.destNodeId i
    behaviorProfileId := pool.behaviorProfileId i
    rerouteCooldownTicks := (pool.rerouteCooldownTicks i).toNat }
  pluginMemory _ := none
  stack_shape := pool.stack_shape
  counts := pool.counts

/-- The payload as the columns keep it. -/
def ActiveAgentSlot.packed (payload : ActiveAgentSlot μ) : SlotPayload where
  alive := payload.alive
  citizenId := payload.citizenId
  tripId := payload.tripId
  currentLinkId := payload.currentLinkId
  progress01 := single payload.progress01
  remainingRoutePtr := payload.remainingRoutePtr.toNat
  destNodeId := payload.destNodeId
  behaviorProfileId := payload.behaviorProfileId
  rerouteCooldownTicks := payload.rerouteCooldownTicks.toNat
  progress_unit := single_unit payload.progress_unit

/-- The consistency violations of the pool; without any it is valid. -/
def validateActiveAgentPool (pool : ActiveAgentPool μ cap) : List Issue :=
  pool.packed.validateActiveAgentPool.map .pool ++
    if ∃ i, pool.rerouteCooldownTicks i < 0 then [.cooldown] else []

inductive PoolOp (μ : Type) where
  | allocate (payload : ActiveAgentSlot μ)
  | release (slotId : ℤ)

def perform (pool : ActiveAgentPool μ cap) : PoolOp μ → Except ColumnError (ActiveAgentPool μ cap)
  | .allocate payload => (allocateActiveAgentSlot pool payload).map Prod.fst
  | .release slotId => releaseActiveAgentSlot pool slotId

theorem slot_of_number (i : Fin cap) : slotOf cap (slotNumber i) = some i :=
  slot_of_eq_some.mpr rfl

theorem array_set_ok {column column' : Fin cap → ℤ} {i : Fin cap} {value : ℤ} :
    arraySet1d column i value = .ok column' ↔
      Int32 value ∧ Function.update column i value = column' := by
  unfold arraySet1d
  split_ifs with inside <;> simp [inside]

/-- The payload's integers fit their columns. -/
def ActiveAgentSlot.Fits (payload : ActiveAgentSlot μ) : Prop :=
  ∀ value ∈ [payload.citizenId, payload.tripId, payload.currentLinkId, payload.remainingRoutePtr,
    payload.destNodeId, payload.behaviorProfileId, payload.rerouteCooldownTicks], Int32 value

/-- The pool after the payload's columns have been written at the top free slot. -/
def wrote (pool : ActiveAgentPool μ cap) (payload : ActiveAgentSlot μ) (i : Fin cap)
    (some : pool.freeSlotCount ≠ 0) : ActiveAgentPool μ cap :=
  { pool with
    freeSlotCount := pool.freeSlotCount - 1
    aliveCount := pool.aliveCount + 1
    aliveMask := Function.update pool.aliveMask i true
    citizenId := Function.update pool.citizenId i payload.citizenId
    tripId := Function.update pool.tripId i payload.tripId
    currentLinkId := Function.update pool.currentLinkId i payload.currentLinkId
    progress01 := Function.update pool.progress01 i (single payload.progress01)
    remainingRoutePtr := Function.update pool.remainingRoutePtr i payload.remainingRoutePtr
    destNodeId := Function.update pool.destNodeId i payload.destNodeId
    behaviorProfileId := Function.update pool.behaviorProfileId i payload.behaviorProfileId
    rerouteCooldownTicks := Function.update pool.rerouteCooldownTicks i payload.rerouteCooldownTicks
    counts := by
      have := pool.counts
      omega }

section Operations

variable {pool pool' : ActiveAgentPool μ cap} {payload : ActiveAgentSlot μ} {i j : Fin cap}

theorem allocate_ok : allocateActiveAgentSlot pool payload = .ok (pool', i) ↔
    ∃ room : pool.freeSlotCount ≠ 0, payload.alive = true ∧
      slotOf cap (pool.freeSlotStack.getD (pool.freeSlotCount - 1) (-1)) = some i ∧
      payload.Fits ∧ wrote pool payload i room = pool' := by
  unfold allocateActiveAgentSlot
  dsimp only
  split_ifs with full dead
  · simp [full]
  · simp [dead]
  · split
    · rename_i missing
      rw [missing]
      simp
    · rename_i k found
      rw [found]
      simp only [bind_ok, array_set_ok, pure_ok, ActiveAgentSlot.Fits, List.forall_mem_cons, wrote,
        List.not_mem_nil, false_imp_iff, implies_true, and_true, Prod.mk.injEq, Option.some.injEq]
      constructor
      · rintro ⟨_, ⟨h₁, rfl⟩, _, ⟨h₂, rfl⟩, _, ⟨h₃, rfl⟩, _, ⟨h₄, rfl⟩, _, ⟨h₅, rfl⟩, _, ⟨h₆, rfl⟩,
          _, ⟨h₇, rfl⟩, rfl, rfl⟩
        exact ⟨full, Bool.eq_true_of_not_eq_false dead, rfl, ⟨h₁, h₂, h₃, h₄, h₅, h₆, h₇⟩, rfl⟩
      · rintro ⟨_, _, rfl, ⟨h₁, h₂, h₃, h₄, h₅, h₆, h₇⟩, rfl⟩
        exact ⟨_, ⟨h₁, rfl⟩, _, ⟨h₂, rfl⟩, _, ⟨h₃, rfl⟩, _, ⟨h₄, rfl⟩, _, ⟨h₅, rfl⟩, _, ⟨h₆, rfl⟩,
          _, ⟨h₇, rfl⟩, rfl, rfl⟩

/-- The pool after a slot has been reset and pushed. -/
def cleared (pool : ActiveAgentPool μ cap) (i : Fin cap) (room : pool.freeSlotCount < cap) :
    ActiveAgentPool μ cap :=
  { pool with
    freeSlotStack := pool.freeSlotStack.set pool.freeSlotCount (slotNumber i)
    freeSlotCount := pool.freeSlotCount + 1
    aliveCount := pool.aliveCount - 1
    aliveMask := Function.update pool.aliveMask i false
    citizenId := Function.update pool.citizenId i (-1)
    tripId := Function.update pool.tripId i (-1)
    currentLinkId := Function.update pool.currentLinkId i (-1)
    progress01 := Function.update pool.progress01 i 0
    remainingRoutePtr := Function.update pool.remainingRoutePtr i 0
    destNodeId := Function.update pool.destNodeId i (-1)
    behaviorProfileId := Function.update pool.behaviorProfileId i (-1)
    rerouteCooldownTicks := Function.update pool.rerouteCooldownTicks i 0
    stack_shape := by simp [pool.stack_shape]
    counts := by
      have := pool.counts
      omega }

theorem release_ok {slotId : ℤ} : releaseActiveAgentSlot pool slotId = .ok pool' ↔
    ∃ i, slotNumber i = slotId ∧ pool.aliveMask i = true ∧
      ∃ room : pool.freeSlotCount < cap, cleared pool i room = pool' := by
  unfold releaseActiveAgentSlot
  split
  · rename_i missing
    simp only [reduceCtorEq, false_iff]
    rintro ⟨i, number, _⟩
    cases missing.symm.trans (slot_of_eq_some.mpr number)
  · rename_i k found
    have number := slot_of_eq_some.mp found
    split_ifs with dead room
    · simp only [false_iff]
      rintro ⟨i, same, alive, _⟩
      obtain rfl := Option.some.inj (found.symm.trans (slot_of_eq_some.mpr same))
      cases alive.symm.trans dead
    · rw [Except.ok.injEq]
      constructor
      · rintro rfl
        exact ⟨k, number, Bool.eq_true_of_not_eq_false dead, room, rfl⟩
      · rintro ⟨i, same, _, _, rfl⟩
        obtain rfl := Option.some.inj (found.symm.trans (slot_of_eq_some.mpr same))
        rfl
    · simp only [false_iff]
      rintro ⟨_, _, _, room', _⟩
      exact room room'

theorem allocate_packed (ok : allocateActiveAgentSlot pool payload = .ok (pool', i)) :
    pool.packed.allocate payload.packed = .ok (pool'.packed, i) := by
  obtain ⟨room, alive, top, -, rfl⟩ := allocate_ok.mp ok
  have awake : payload.packed.alive = true := alive
  have found : slotOf cap (pool.packed.freeSlotStack.getD (pool.packed.freeSlotCount - 1) (-1)) =
      some i := top
  have same : pool.packed.pop i payload.packed.toActiveAgentSlot (Nat.pos_of_ne_zero room) =
      (wrote pool payload i room).packed := by
    simp only [PackedPool.pop, ActiveAgentPool.packed, wrote, PackedPool.mk.injEq, true_and,
      and_true]
    funext j
    by_cases here : j = i
    · subst here
      simp [ActiveAgentSlot.packed, alive]
    · simp [here]
  unfold PackedPool.allocate
  simp only [show pool.packed.freeSlotCount ≠ 0 from room, dite_false, awake, Bool.true_eq_false,
    if_false, found, same]

theorem release_packed {slotId : ℤ} (ok : releaseActiveAgentSlot pool slotId = .ok pool') :
    pool.packed.release slotId = .ok pool'.packed := by
  obtain ⟨i, number, alive, room, rfl⟩ := release_ok.mp ok
  have awake : (pool.packed.slots i).alive = true := alive
  have same : pool.packed.push i pool.packed.pluginMemory room = (cleared pool i room).packed := by
    simp only [PackedPool.push, ActiveAgentPool.packed, cleared, PackedPool.mk.injEq, true_and,
      and_true]
    funext j
    by_cases here : j = i
    · subst here
      simp
    · simp [here]
  unfold PackedPool.release
  simp only [slot_of_eq_some.mpr number, awake, Bool.true_eq_false, if_false,
    show pool.packed.freeSlotCount < cap from room, dite_true, same]

theorem backed_of_run {p₀ p : ActiveAgentPool μ cap}
    {steps : List (Taken (ActiveAgentPool μ cap) (PoolOp μ))}
    (valid : validateActiveAgentPool p₀ = []) (run : Trace perform p₀ steps p) :
    p.packed.Backed := by
  refine run.invariant (I := fun p => p.packed.Backed) ?_ fun p op p' held ok => ?_
  · exact .of_validates (List.map_eq_nil_iff.mp (List.append_eq_nil_iff.mp valid).1)
  · cases op with
    | allocate payload =>
      obtain ⟨⟨p'', i⟩, allocated, rfl⟩ := map_ok.mp ok
      exact (held.allocated (allocate_packed allocated)).1
    | release slotId => exact held.released (release_packed ok)

theorem dead_of_allocated (backed : pool.packed.Backed)
    (ok : allocateActiveAgentSlot pool payload = .ok (pool', i)) : pool.aliveMask i = false :=
  (backed.allocated (allocate_packed ok)).2

def ActiveAgentSlot.within (payload : ActiveAgentSlot μ) (i : Fin cap) (memory : μ) :
    ActiveAgentSlot μ :=
  { payload with
    slotId := slotNumber i
    progress01 := single payload.progress01
    pluginMemory := memory
    progress_unit := single_unit payload.progress_unit }

/-- What the payload holds, as it should read in its slot. -/
def ActiveAgentSlot.inSlot (payload : ActiveAgentSlot μ) (i : Fin cap) : ActiveAgentSlot μ :=
  { payload with slotId := slotNumber i }

theorem within_eq_iff {memory : μ} : payload.within i memory = payload.inSlot i ↔
    single payload.progress01 = payload.progress01 ∧ memory = payload.pluginMemory := by
  simp [ActiveAgentSlot.within, ActiveAgentSlot.inSlot]

theorem within_inj {memory memory' : μ} :
    payload.within i memory = payload.within i memory' ↔ memory = memory' := by
  simp [ActiveAgentSlot.within]

variable [EmptyCollection μ]

theorem read_wrote_of_ne (room : pool.freeSlotCount ≠ 0) (apart : j ≠ i) :
    readActiveAgentSlot (wrote pool payload i room) (slotNumber j) =
      readActiveAgentSlot pool (slotNumber j) := by
  simp only [readActiveAgentSlot, slot_of_number, wrote, slotPluginMemory,
    Function.update_of_ne apart]

theorem read_cleared_of_ne (room : pool.freeSlotCount < cap) (apart : j ≠ i) :
    readActiveAgentSlot (cleared pool i room) (slotNumber j) =
      readActiveAgentSlot pool (slotNumber j) := by
  simp only [readActiveAgentSlot, slot_of_number, cleared, slotPluginMemory,
    Function.update_of_ne apart]

theorem read_wrote (room : pool.freeSlotCount ≠ 0) (alive : payload.alive = true) :
    readActiveAgentSlot (wrote pool payload i room) (slotNumber i) =
      .ok (payload.within i (slotPluginMemory pool i)) := by
  have unit := single_unit payload.progress_unit
  unfold readActiveAgentSlot
  simp only [slot_of_number, wrote, Function.update_self, unit, and_self, dite_true,
    payload.cooldown_nonneg, ActiveAgentSlot.within, alive]
  rfl

theorem memory_blank : slotPluginMemory (blank pool i) i = ∅ := by
  have forgotten : (blank pool i).pluginMemory.get (slotNumber i) = none := by
    unfold blank Dict.get
    rw [List.lookup_eq_none_iff]
    intro item listed
    have other := of_decide_eq_true (List.mem_filter.mp listed).2
    exact bne_iff_ne.mpr other.symm
  simp only [slotPluginMemory, forgotten]

/-- The fresh slot reads as its payload, and as it would had nobody used it before. -/
structure RoundTrip (pool pool' : ActiveAgentPool μ cap) (payload : ActiveAgentSlot μ)
    (i : Fin cap) : Prop where
  payload_read : readActiveAgentSlot pool' (slotNumber i) = .ok (payload.inSlot i)
  no_trace : ∃ unused, allocateActiveAgentSlot (blank pool i) payload = .ok (unused, i) ∧
    readActiveAgentSlot unused (slotNumber i) = readActiveAgentSlot pool' (slotNumber i)

end Operations

variable [EmptyCollection μ]

/-- In every pool reached from a valid one, a release leaves what is read of the other
slots, and so does an allocation for all alive slots; the fresh slot reads as its payload
and without a trace of its last occupant exactly if neither the side table nor the payload
holds a memory for it and its progress is a single-precision number. -/
theorem slot_round_trip_iff {p₀ p : ActiveAgentPool μ cap}
    {steps : List (Taken (ActiveAgentPool μ cap) (PoolOp μ))}
    (valid : validateActiveAgentPool p₀ = []) (run : Trace perform p₀ steps p) :
    (∀ slotId p', releaseActiveAgentSlot p slotId = .ok p' → ∀ j : Fin cap, slotNumber j ≠ slotId →
      readActiveAgentSlot p' (slotNumber j) = readActiveAgentSlot p (slotNumber j)) ∧
    ∀ payload p' i, allocateActiveAgentSlot p payload = .ok (p', i) →
      (∀ j, p.aliveMask j = true →
        readActiveAgentSlot p' (slotNumber j) = readActiveAgentSlot p (slotNumber j)) ∧
      (RoundTrip p p' payload i ↔
        slotPluginMemory p i = ∅ ∧ payload.pluginMemory = ∅ ∧
          single payload.progress01 = payload.progress01) := by
  refine ⟨fun slotId p' ok j apart => ?_, fun payload p' i ok => ?_⟩
  · obtain ⟨i, rfl, -, room, rfl⟩ := release_ok.mp ok
    exact read_cleared_of_ne room fun same => apart (congrArg slotNumber same)
  · have dead := dead_of_allocated (backed_of_run valid run) ok
    obtain ⟨room, alive, top, fits, rfl⟩ := allocate_ok.mp ok
    have room' : (blank p i).freeSlotCount ≠ 0 := room
    refine ⟨fun j used => ?_, ?_⟩
    · exact read_wrote_of_ne room fun same => by simp [same, dead] at used
    have unused : allocateActiveAgentSlot (blank p i) payload =
        .ok (wrote (blank p i) payload i room', i) :=
      allocate_ok.mpr ⟨room', alive, top, fits, rfl⟩
    have read : readActiveAgentSlot (wrote p payload i room) (slotNumber i) =
        .ok (payload.within i (slotPluginMemory p i)) := read_wrote room alive
    have fresh : readActiveAgentSlot (wrote (blank p i) payload i room') (slotNumber i) =
        .ok (payload.within i ∅) := by rw [read_wrote room' alive, memory_blank]
    constructor
    · rintro ⟨same, unused', allocated, equal⟩
      obtain rfl : wrote (blank p i) payload i room' = unused' :=
        (Prod.mk.inj (Except.ok.inj (unused.symm.trans allocated))).1
      rw [read, Except.ok.injEq, within_eq_iff] at same
      rw [read, fresh, Except.ok.injEq, within_inj] at equal
      exact ⟨equal.symm, same.2.symm.trans equal.symm, same.1⟩
    · rintro ⟨empty, none, exact⟩
      refine ⟨?_, _, unused, ?_⟩
      · rw [read, Except.ok.injEq, within_eq_iff]
        exact ⟨exact, empty.trans none.symm⟩
      · rw [read, fresh, empty]

theorem single_zero : single 0 = 0 := by
  have rounded : roundHalfEven 0 = 0 := by decide +kernel
  simp [single, rounded]

/-- A pool of one slot whose agent the runtime has given a memory. -/
def remembering : ActiveAgentPool (List ℕ) 1 where
  freeSlotStack := [0]
  freeSlotCount := 0
  aliveCount := 1
  aliveMask _ := true
  citizenId _ := 7
  tripId _ := 11
  currentLinkId _ := 3
  progress01 _ := 0
  remainingRoutePtr _ := 0
  destNodeId _ := 9
  behaviorProfileId _ := 1
  rerouteCooldownTicks _ := 0
  pluginMemory := [(0, .dict [5])]
  stack_shape := rfl
  counts := rfl

def newcomer (memory : List ℕ) : ActiveAgentSlot (List ℕ) where
  alive := true
  pluginMemory := memory
  cooldown_nonneg := Lib.zero_id

theorem newcomer_fits (memory : List ℕ) : (newcomer memory).Fits := by
  have values : ∀ value ∈ [-1, -1, -1, 0, -1, -1, 0], Int32 value := by decide
  exact values

theorem newcomer_allocated {p : ActiveAgentPool (List ℕ) 1} (memory : List ℕ)
    (room : p.freeSlotCount ≠ 0)
    (top : slotOf 1 (p.freeSlotStack.getD (p.freeSlotCount - 1) (-1)) = some 0) :
    ∃ p', allocateActiveAgentSlot p (newcomer memory) = .ok (p', 0) ∧
      readActiveAgentSlot p' 0 = .ok ((newcomer memory).within (0 : Fin 1) (slotPluginMemory p 0)) :=
  ⟨_, allocate_ok.mpr ⟨room, rfl, top, newcomer_fits memory, rfl⟩, read_wrote room rfl⟩

theorem slot_round_trip_iff_unused :
    ∃ p p', createActiveAgentPool (List ℕ) 1 = .ok p ∧
      allocateActiveAgentSlot p (newcomer []) = .ok (p', 0) ∧ RoundTrip p p' (newcomer []) 0 := by
  obtain ⟨p, created⟩ := ok_of_is_ok (x := createActiveAgentPool (List ℕ) 1) rfl
  have clean : validateActiveAgentPool p = [] := by
    obtain rfl := Except.ok.inj created
    decide +kernel
  have empty : slotPluginMemory p 0 = ∅ := by
    obtain rfl := Except.ok.inj created
    rfl
  obtain ⟨p', allocated, _⟩ := newcomer_allocated (p := p) []
    (by obtain rfl := Except.ok.inj created; decide)
    (by obtain rfl := Except.ok.inj created; decide)
  exact ⟨p, p', created, allocated,
    (((slot_round_trip_iff clean (.done p)).2 _ _ _ allocated).2).mpr ⟨empty, rfl, single_zero⟩⟩

/-- A payload's memory is dropped, and the memory of an agent that has left is read for
the next one in its slot. -/
theorem plugin_memory_lost :
    (∃ p p', createActiveAgentPool (List ℕ) 1 = .ok p ∧
      allocateActiveAgentSlot p (newcomer [5]) = .ok (p', 0) ∧
      readActiveAgentSlot p' 0 ≠ .ok ((newcomer [5]).inSlot (0 : Fin 1))) ∧
    ∃ p p', validateActiveAgentPool remembering = [] ∧
      releaseActiveAgentSlot remembering 0 = .ok p ∧
      allocateActiveAgentSlot p (newcomer []) = .ok (p', 0) ∧
      (readActiveAgentSlot p' 0).map ActiveAgentSlot.pluginMemory = .ok [5] := by
  constructor
  · obtain ⟨p, created⟩ := ok_of_is_ok (x := createActiveAgentPool (List ℕ) 1) rfl
    have empty : slotPluginMemory p 0 = ∅ := by
      obtain rfl := Except.ok.inj created
      rfl
    obtain ⟨p', allocated, read⟩ := newcomer_allocated (p := p) [5]
      (by obtain rfl := Except.ok.inj created; decide)
      (by obtain rfl := Except.ok.inj created; decide)
    refine ⟨p, p', created, allocated, ?_⟩
    rw [read, empty, Ne, Except.ok.injEq, within_eq_iff]
    exact fun same => List.cons_ne_nil 5 [] same.2.symm
  · have released : releaseActiveAgentSlot remembering 0 =
        .ok (cleared remembering 0 Nat.zero_lt_one) := release_ok.mpr ⟨0, rfl, rfl, by decide, rfl⟩
    obtain ⟨p', allocated, read⟩ :=
      newcomer_allocated (p := cleared remembering 0 Nat.zero_lt_one) [] (by decide) (by decide)
    refine ⟨_, p', by decide +kernel, released, allocated, ?_⟩
    rw [read]
    rfl

end Metroflow.Sim.Columns
