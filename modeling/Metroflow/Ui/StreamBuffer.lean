import Metroflow.Lib.Loops

namespace Metroflow.Ui

open Metroflow.Lib

variable {α : Type}

inductive BufferError where
  | tickSeconds
  | hzLimit
  | minEmitInterval
  | negativeTick
  deriving DecidableEq, Repr

def BufferError.message : BufferError → String
  | .tickSeconds => "tick_seconds must be > 0"
  | .hzLimit => "hz_limit must be > 0"
  | .minEmitInterval => "min_emit_interval_ticks must be >= 1"
  | .negativeTick => "tick must be >= 0"

def computeMinEmitIntervalTicks (tickSeconds hzLimit : ℚ) : Except BufferError ℤ := do
  raiseIf (tickSeconds ≤ 0) .tickSeconds
  raiseIf (hzLimit ≤ 0) .hzLimit
  return max 1 ⌈1 / (tickSeconds * hzLimit)⌉

/-- Emission event returned by the buffer when a snapshot is due. -/
structure UISnapshotEmission (α : Type) where
  snapshotSource : α
  snapshotTick : ℤ
  emittedAtTick : ℤ
  frameSeq : ℕ
  droppedSinceLastEmit : ℕ
  forced : Bool

structure UISnapshotBufferStats where
  offered : ℕ := 0
  emitted : ℕ := 0
  droppedCoalesced : ℕ := 0
  forcedEmits : ℕ := 0

/-- Throttles and coalesces snapshots; the pending source and its tick are set
and cleared together. -/
structure UISnapshotStreamBuffer (α : Type) where
  minEmitIntervalTicks : ℤ
  lastEmittedTick : Option ℤ := none
  pendingSnapshot : Option (α × ℤ) := none
  droppedSinceLastEmit : ℕ := 0
  frameSeqNext : ℕ := 0
  stats : UISnapshotBufferStats := {}
  interval_pos : 1 ≤ minEmitIntervalTicks

namespace UISnapshotStreamBuffer

def emitInterval (tickSeconds hzLimit : ℚ) : Option ℤ → Except BufferError ℤ
  | none => computeMinEmitIntervalTicks tickSeconds hzLimit
  | some interval => .ok interval

/-- A buffer without history, its interval given or computed from the limits. -/
def create (tickSeconds hzLimit : ℚ) (minEmitIntervalTicks : Option ℤ) :
    Except BufferError (UISnapshotStreamBuffer α) := do
  raiseIf (tickSeconds ≤ 0) .tickSeconds
  raiseIf (hzLimit ≤ 0) .hzLimit
  let interval ← emitInterval tickSeconds hzLimit minEmitIntervalTicks
  if h : interval < 1 then .error .minEmitInterval
  else return { minEmitIntervalTicks := interval, interval_pos := one_le_of_not_few h }

variable (b : UISnapshotStreamBuffer α)

def isEmitDue (tick : ℤ) : Bool :=
  match b.lastEmittedTick with
  | none => true
  | some last => decide (b.minEmitIntervalTicks ≤ tick - last)

def emitPending (snapshot : α × ℤ) (emittedAtTick : ℤ) (forced : Bool) :
    UISnapshotStreamBuffer α × UISnapshotEmission α :=
  ({ b with
      frameSeqNext := b.frameSeqNext + 1
      lastEmittedTick := some emittedAtTick
      pendingSnapshot := none
      droppedSinceLastEmit := 0
      stats := { b.stats with
        emitted := b.stats.emitted + 1
        forcedEmits := b.stats.forcedEmits + if forced then 1 else 0 } },
    { snapshotSource := snapshot.1
      snapshotTick := snapshot.2
      emittedAtTick := emittedAtTick
      frameSeq := b.frameSeqNext
      droppedSinceLastEmit := b.droppedSinceLastEmit
      forced := forced })

/-- Emits the latest pending snapshot if due. -/
def poll (tick : ℤ) (forceEmit : Bool) :
    Except BufferError (UISnapshotStreamBuffer α × Option (UISnapshotEmission α)) := do
  raiseIf (tick < 0) .negativeTick
  match b.pendingSnapshot with
  | none => return (b, none)
  | some snapshot =>
    if forceEmit = false ∧ b.isEmitDue tick = false then return (b, none)
    else
      let (b, emission) := b.emitPending snapshot tick forceEmit
      return (b, some emission)

def countDropped : UISnapshotStreamBuffer α :=
  if b.pendingSnapshot.isSome then
    { b with
      droppedSinceLastEmit := b.droppedSinceLastEmit + 1
      stats := { b.stats with droppedCoalesced := b.stats.droppedCoalesced + 1 } }
  else b

def offer (snapshotSource : α) (tick : ℤ) (forceEmit : Bool) :
    Except BufferError (UISnapshotStreamBuffer α × Option (UISnapshotEmission α)) := do
  raiseIf (tick < 0) .negativeTick
  let counted := { b with stats := { b.stats with offered := b.stats.offered + 1 } }.countDropped
  { counted with pendingSnapshot := some (snapshotSource, tick) }.poll tick forceEmit

def flush (tick : ℤ) :
    Except BufferError (UISnapshotStreamBuffer α × Option (UISnapshotEmission α)) :=
  b.poll tick true

/-- Drops the pending snapshot without emitting. -/
def clearPending : UISnapshotStreamBuffer α :=
  { b.countDropped with pendingSnapshot := none }

end UISnapshotStreamBuffer

/-- The calls a client can make. -/
inductive BufferCall (α : Type) where
  | offer (snapshotSource : α) (tick : ℤ) (forceEmit : Bool)
  | poll (tick : ℤ) (forceEmit : Bool)
  | flush (tick : ℤ)
  | clearPending

namespace BufferCall

def perform (b : UISnapshotStreamBuffer α) : BufferCall α →
    Except BufferError (UISnapshotStreamBuffer α × Option (UISnapshotEmission α))
  | .offer snapshotSource tick forceEmit => b.offer snapshotSource tick forceEmit
  | .poll tick forceEmit => b.poll tick forceEmit
  | .flush tick => b.flush tick
  | .clearPending => .ok (b.clearPending, none)

def offered : BufferCall α → Option (α × ℤ)
  | .offer snapshotSource tick _ => if tick < 0 then none else some (snapshotSource, tick)
  | _ => none

end BufferCall

/-- A buffer and all that it emitted so far. -/
structure BufferSession (α : Type) where
  buffer : UISnapshotStreamBuffer α
  emissions : List (UISnapshotEmission α) := []

/-- One call of a session; a refused call raises and changes nothing. -/
def BufferSession.call (s : BufferSession α) (c : BufferCall α) : BufferSession α :=
  match c.perform s.buffer with
  | .error _ => s
  | .ok (buffer, emission) => ⟨buffer, s.emissions ++ emission.toList⟩

def BufferSession.run (b : UISnapshotStreamBuffer α) (calls : List (BufferCall α)) :
    BufferSession α :=
  calls.foldl BufferSession.call ⟨b, []⟩

/-- The accounts of a buffer that was offered some snapshots and emitted some. -/
structure Accounted (offered : List (α × ℤ)) (b : UISnapshotStreamBuffer α)
    (emissions : List (UISnapshotEmission α)) : Prop where
  offered_count : b.stats.offered = offered.length
  balance : b.stats.offered =
    b.stats.emitted + b.stats.droppedCoalesced + if b.pendingSnapshot.isSome then 1 else 0
  emitted_count : b.stats.emitted = emissions.length
  next_frame : b.frameSeqNext = emissions.length
  frames : emissions.map UISnapshotEmission.frameSeq = List.range emissions.length
  dropped : (emissions.map UISnapshotEmission.droppedSinceLastEmit).sum + b.droppedSinceLastEmit =
    b.stats.droppedCoalesced
  latest : ∀ snapshot, b.pendingSnapshot = some snapshot → offered.getLast? = some snapshot

namespace Accounted

variable {offered : List (α × ℤ)} {b b' : UISnapshotStreamBuffer α}
  {emissions : List (UISnapshotEmission α)} {emission : Option (UISnapshotEmission α)}

theorem created {tickSeconds hzLimit : ℚ} {interval : Option ℤ}
    (h : UISnapshotStreamBuffer.create tickSeconds hzLimit interval = .ok b) :
    Accounted [] b [] := by
  obtain ⟨_, _, h⟩ := bind_ok.mp h
  obtain ⟨_, _, h⟩ := bind_ok.mp h
  obtain ⟨_, _, h⟩ := bind_ok.mp h
  split at h
  · cases h
  · obtain rfl := pure_ok.mp h
    exact ⟨rfl, rfl, rfl, rfl, rfl, rfl, fun _ pending => by cases pending⟩

theorem emitted (h : Accounted offered b emissions) {snapshot : α × ℤ}
    (pending : b.pendingSnapshot = some snapshot) (tick : ℤ) (forced : Bool) :
    Accounted offered (b.emitPending snapshot tick forced).1
      (emissions ++ [(b.emitPending snapshot tick forced).2]) where
  offered_count := h.offered_count
  balance := by
    have balance := h.balance
    simp only [pending, Option.isSome_some, if_true] at balance
    simp only [UISnapshotStreamBuffer.emitPending, balance, Option.isSome_none, Bool.false_eq_true,
      if_false]
    omega
  emitted_count := by simp [UISnapshotStreamBuffer.emitPending, h.emitted_count]
  next_frame := by simp [UISnapshotStreamBuffer.emitPending, h.next_frame]
  frames := by
    simp [UISnapshotStreamBuffer.emitPending, h.frames, h.next_frame, List.range_succ]
  dropped := by
    simpa [UISnapshotStreamBuffer.emitPending] using h.dropped
  latest _ none := by cases none

theorem polled (h : Accounted offered b emissions) {tick : ℤ} {force : Bool}
    (ok : b.poll tick force = .ok (b', emission)) :
    Accounted offered b' (emissions ++ emission.toList) ∧
      ∀ e, emission = some e → offered.getLast? = some (e.snapshotSource, e.snapshotTick) := by
  obtain ⟨_, _, ok⟩ := bind_ok.mp ok
  split at ok
  · obtain ⟨rfl, rfl⟩ := Prod.mk.inj (pure_ok.mp ok)
    exact ⟨by simpa using h, fun _ none => by cases none⟩
  · rename_i snapshot pending
    split at ok
    · obtain ⟨rfl, rfl⟩ := Prod.mk.inj (pure_ok.mp ok)
      exact ⟨by simpa using h, fun _ none => by cases none⟩
    · obtain ⟨rfl, rfl⟩ := Prod.mk.inj (pure_ok.mp ok)
      refine ⟨h.emitted pending tick force, fun e found => ?_⟩
      obtain rfl := Option.some.inj found
      exact h.latest snapshot pending

theorem replaced (h : Accounted offered b emissions) (snapshot : α × ℤ) :
    Accounted (offered ++ [snapshot])
      { ({ b with stats := { b.stats with offered := b.stats.offered + 1 } :
          UISnapshotStreamBuffer α }).countDropped with pendingSnapshot := some snapshot }
      emissions := by
  have balance := h.balance
  have dropped := h.dropped
  unfold UISnapshotStreamBuffer.countDropped
  cases pending : b.pendingSnapshot with
  | none =>
    simp only [pending, Option.isSome_none, Bool.false_eq_true, if_false] at balance ⊢
    exact ⟨by simp [h.offered_count], by simp [balance], h.emitted_count, h.next_frame, h.frames,
      dropped, fun x found => by simpa using found⟩
  | some old =>
    simp only [pending, Option.isSome_some, if_true] at balance ⊢
    exact ⟨by simp [h.offered_count], by simp; omega, h.emitted_count, h.next_frame, h.frames,
      by simp only; omega, fun x found => by simpa using found⟩

theorem offers (h : Accounted offered b emissions) {snapshotSource : α} {tick : ℤ} {force : Bool}
    (ok : b.offer snapshotSource tick force = .ok (b', emission)) : 0 ≤ tick ∧
      Accounted (offered ++ [(snapshotSource, tick)]) b' (emissions ++ emission.toList) ∧
      ∀ e, emission = some e →
        (offered ++ [(snapshotSource, tick)]).getLast? = some (e.snapshotSource, e.snapshotTick) := by
  obtain ⟨_, sign, ok⟩ := bind_ok.mp ok
  exact ⟨not_lt.mp (raise_if_ok.mp sign), (h.replaced (snapshotSource, tick)).polled ok⟩

theorem cleared (h : Accounted offered b emissions) : Accounted offered b.clearPending emissions := by
  have balance := h.balance
  have dropped := h.dropped
  unfold UISnapshotStreamBuffer.clearPending UISnapshotStreamBuffer.countDropped
  cases pending : b.pendingSnapshot with
  | none =>
    simp only [pending, Option.isSome_none, Bool.false_eq_true, if_false] at balance ⊢
    exact ⟨h.offered_count, by simp [balance], h.emitted_count, h.next_frame, h.frames, dropped,
      fun _ none => by cases none⟩
  | some old =>
    simp only [pending, Option.isSome_some, if_true] at balance ⊢
    exact ⟨h.offered_count, by simp; omega, h.emitted_count, h.next_frame, h.frames,
      by simp only; omega, fun _ none => by cases none⟩

theorem performed (h : Accounted offered b emissions) {c : BufferCall α}
    (ok : c.perform b = .ok (b', emission)) :
    Accounted (offered ++ c.offered.toList) b' (emissions ++ emission.toList) ∧
      ∀ e, emission = some e →
        (offered ++ c.offered.toList).getLast? = some (e.snapshotSource, e.snapshotTick) := by
  cases c with
  | offer snapshotSource tick force =>
    obtain ⟨sign, kept⟩ := h.offers ok
    simp only [BufferCall.offered, not_lt.mpr sign, if_false, Option.toList_some]
    exact kept
  | poll tick force => simpa [BufferCall.offered] using h.polled ok
  | flush tick => simpa [BufferCall.offered] using h.polled ok
  | clearPending =>
    obtain ⟨rfl, rfl⟩ := Prod.mk.inj (Except.ok.inj ok)
    exact ⟨by simpa [BufferCall.offered] using h.cleared, fun _ none => by cases none⟩

theorem refused {c : BufferCall α} {e : BufferError} (h : c.perform b = .error e) :
    c.offered = none := by
  cases c with
  | offer snapshotSource tick force =>
    rcases bind_error.mp h with negative | ⟨_, sign, h⟩
    · simp [BufferCall.offered, (raise_if_error.mp negative).1]
    · rcases bind_error.mp h with negative | ⟨_, _, h⟩
      · exact absurd (raise_if_error.mp negative).1 (raise_if_ok.mp sign)
      · split at h
        · cases h
        · split at h <;> cases h
  | poll tick force => rfl
  | flush tick => rfl
  | clearPending => rfl

theorem run {b : UISnapshotStreamBuffer α} (h : Accounted [] b []) (calls : List (BufferCall α)) :
    Accounted (calls.filterMap BufferCall.offered) (BufferSession.run b calls).buffer
      (BufferSession.run b calls).emissions := by
  induction calls using List.reverseRecOn with
  | nil => exact h
  | append_singleton calls c ih =>
    have offers : (calls ++ [c]).filterMap BufferCall.offered =
        calls.filterMap BufferCall.offered ++ c.offered.toList := by
      cases found : c.offered <;> simp [found]
    have session : BufferSession.run b (calls ++ [c]) = (BufferSession.run b calls).call c := by
      simp [BufferSession.run]
    rw [offers, session, BufferSession.call]
    split
    · rename_i refusal
      rw [refused refusal]
      simpa using ih
    · rename_i buffer emission ok
      exact (ih.performed ok).1

end Accounted

/-- After any calls on a fresh buffer its accounts balance, and whatever the next
call emits is the snapshot offered last. -/
theorem stream_buffer_accounts {tickSeconds hzLimit : ℚ} {interval : Option ℤ}
    {b : UISnapshotStreamBuffer α}
    (created : UISnapshotStreamBuffer.create tickSeconds hzLimit interval = .ok b)
    (calls : List (BufferCall α)) :
    Accounted (calls.filterMap BufferCall.offered) (BufferSession.run b calls).buffer
        (BufferSession.run b calls).emissions ∧
      ∀ c b' e, c.perform (BufferSession.run b calls).buffer = .ok (b', some e) →
        ((calls ++ [c]).filterMap BufferCall.offered).getLast? =
          some (e.snapshotSource, e.snapshotTick) := by
  have accounts := (Accounted.created created).run calls
  refine ⟨accounts, fun c b' e ok => ?_⟩
  have last := (accounts.performed ok).2 e rfl
  cases found : c.offered <;> simpa [found] using last

/-- A snapshot that waits for the cadence gives way to the next one. -/
theorem stream_buffer_accounts_coalescing :
    ∃ b, UISnapshotStreamBuffer.create 1 (1 / 2) none = .ok b ∧
      Accounted [("a", 0), ("b", 1), ("c", 1)]
        (BufferSession.run b
          [.offer "a" 0 false, .offer "b" 1 false, .offer "c" 1 false, .flush 1]).buffer
        (BufferSession.run b
          [.offer "a" 0 false, .offer "b" 1 false, .offer "c" 1 false, .flush 1]).emissions := by
  obtain ⟨b, created⟩ := ok_of_is_ok
    (x := UISnapshotStreamBuffer.create (α := String) 1 (1 / 2) none) (by decide +kernel)
  have accounts := stream_buffer_accounts created
    [.offer "a" 0 false, .offer "b" 1 false, .offer "c" 1 false, .flush 1]
  exact ⟨b, created, accounts.1⟩

end Metroflow.Ui
