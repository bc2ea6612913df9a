import Metroflow.Ui.StreamBuffer

namespace Metroflow.Ui

open Metroflow.Lib

variable {α : Type}

namespace BufferCall

def tick : BufferCall α → Option ℤ
  | .offer _ tick _ => some tick
  | .poll tick _ => some tick
  | .flush tick => some tick
  | .clearPending => none

def forced : BufferCall α → Bool
  | .offer _ _ forceEmit => forceEmit
  | .poll _ forceEmit => forceEmit
  | .flush _ => true
  | .clearPending => false

def after (b : UISnapshotStreamBuffer α) (c : BufferCall α) : UISnapshotStreamBuffer α :=
  match c.perform b with
  | .error _ => b
  | .ok (b, _) => b

end BufferCall

def dueTicks (b : UISnapshotStreamBuffer α) : List (BufferCall α) → List ℤ
  | [] => []
  | c :: rest =>
    (c.tick.toList.filter fun tick => !c.forced && b.isEmitDue tick) ++ dueTicks (c.after b) rest

/-- Offers and polls whose ticks never go back. -/
def Paced : ℤ → List (BufferCall α) → Prop
  | _, [] => True
  | start, c :: rest => ∃ tick, c.tick = some tick ∧ start ≤ tick ∧ Paced tick rest

/-- A forced call leaves the cadence alone: nothing is pending before it, and
what it offers itself goes out at the tick of the last emission. -/
def Harmless (b : UISnapshotStreamBuffer α) (c : BufferCall α) : Prop :=
  b.pendingSnapshot = none ∧ (c.offered = none ∨ b.lastEmittedTick = c.tick)

def HarmlessRun (b : UISnapshotStreamBuffer α) : List (BufferCall α × Bool) → Prop
  | [] => True
  | (c, added) :: rest => (added = true → Harmless b c) ∧ HarmlessRun (c.after b) rest

/-- Two buffers that emit at the same ticks from here on. -/
structure SameCadence (b b' : UISnapshotStreamBuffer α) : Prop where
  interval : b.minEmitIntervalTicks = b'.minEmitIntervalTicks
  last : b.lastEmittedTick = b'.lastEmittedTick
  pending : b.pendingSnapshot.isSome = b'.pendingSnapshot.isSome

section Cadence

variable {b b' : UISnapshotStreamBuffer α} {c : BufferCall α} {tick : ℤ} {force : Bool}

@[refl]
theorem SameCadence.refl (b : UISnapshotStreamBuffer α) : SameCadence b b := ⟨rfl, rfl, rfl⟩

theorem SameCadence.is_emit_due (h : SameCadence b b') (tick : ℤ) :
    b.isEmitDue tick = b'.isEmitDue tick := by
  unfold UISnapshotStreamBuffer.isEmitDue
  rw [h.interval, h.last]

def UISnapshotStreamBuffer.waiting (b : UISnapshotStreamBuffer α) (snapshot : α × ℤ) :
    UISnapshotStreamBuffer α :=
  { ({ b with stats := { b.stats with offered := b.stats.offered + 1 } } :
      UISnapshotStreamBuffer α).countDropped with pendingSnapshot := some snapshot }

theorem waiting_interval (snapshot : α × ℤ) :
    (b.waiting snapshot).minEmitIntervalTicks = b.minEmitIntervalTicks := by
  unfold UISnapshotStreamBuffer.waiting UISnapshotStreamBuffer.countDropped
  split <;> rfl

theorem waiting_last (snapshot : α × ℤ) :
    (b.waiting snapshot).lastEmittedTick = b.lastEmittedTick := by
  unfold UISnapshotStreamBuffer.waiting UISnapshotStreamBuffer.countDropped
  split <;> rfl

theorem SameCadence.waiting (h : SameCadence b b') (snapshot snapshot' : α × ℤ) :
    SameCadence (b.waiting snapshot) (b'.waiting snapshot') where
  interval := by rw [waiting_interval, waiting_interval, h.interval]
  last := by rw [waiting_last, waiting_last, h.last]
  pending := rfl

theorem after_poll : BufferCall.after b (.poll tick force) =
    if tick < 0 then b
    else match b.pendingSnapshot with
      | none => b
      | some snapshot =>
        if force = false ∧ b.isEmitDue tick = false then b
        else (b.emitPending snapshot tick force).1 := by
  unfold BufferCall.after
  change (match b.poll tick force with | .error _ => b | .ok (b, _) => b) = _
  unfold UISnapshotStreamBuffer.poll raiseIf
  cases b.pendingSnapshot with
  | none => split_ifs <;> rfl
  | some snapshot => split_ifs <;> rfl

theorem after_offer {source : α} : BufferCall.after b (.offer source tick force) =
    if tick < 0 then b else BufferCall.after (b.waiting (source, tick)) (.poll tick force) := by
  have offers : b.offer source tick force =
      if tick < 0 then .error .negativeTick else (b.waiting (source, tick)).poll tick force := by
    unfold UISnapshotStreamBuffer.offer raiseIf
    split_ifs <;> rfl
  unfold BufferCall.after
  change (match b.offer source tick force with | .error _ => b | .ok (b, _) => b) = _
  rw [offers]
  split_ifs with negative
  · rfl
  · change _ = match (b.waiting (source, tick)).poll tick force with
      | .error _ => b.waiting (source, tick)
      | .ok (b, _) => b
    cases polled : (b.waiting (source, tick)).poll tick force with
    | error e =>
      rcases bind_error.mp polled with refused | ⟨_, _, polled⟩
      · exact absurd (raise_if_error.mp refused).1 negative
      · split at polled
        · cases polled
        · split at polled <;> cases polled
    | ok result => rfl

theorem SameCadence.after_poll (h : SameCadence b b') :
    SameCadence (BufferCall.after b (.poll tick force))
      (BufferCall.after b' (.poll tick force)) := by
  rw [Ui.after_poll, Ui.after_poll, h.is_emit_due]
  split
  · exact h
  · have pending := h.pending
    cases here : b.pendingSnapshot with
    | none =>
      cases there : b'.pendingSnapshot with
      | none => exact h
      | some snapshot =>
        rw [here, there] at pending
        cases pending
    | some snapshot =>
      cases there : b'.pendingSnapshot with
      | none =>
        rw [here, there] at pending
        cases pending
      | some snapshot' =>
        simp only
        split
        · exact h
        · exact ⟨h.interval, rfl, rfl⟩

theorem SameCadence.after (h : SameCadence b b') (c : BufferCall α) :
    SameCadence (c.after b) (c.after b') := by
  cases c with
  | offer source tick force =>
    rw [after_offer, after_offer]
    split
    · exact h
    · exact (h.waiting _ _).after_poll
  | poll tick force => exact h.after_poll
  | flush tick => exact (h.after_poll : SameCadence (BufferCall.after b (.poll tick true)) _)
  | clearPending =>
    refine ⟨?_, ?_, rfl⟩
    · change b.countDropped.minEmitIntervalTicks = b'.countDropped.minEmitIntervalTicks
      unfold UISnapshotStreamBuffer.countDropped
      split <;> split <;> exact h.interval
    · change b.countDropped.lastEmittedTick = b'.countDropped.lastEmittedTick
      unfold UISnapshotStreamBuffer.countDropped
      split <;> split <;> exact h.last

theorem SameCadence.due_ticks (h : SameCadence b b') (calls : List (BufferCall α)) :
    dueTicks b calls = dueTicks b' calls := by
  induction calls generalizing b b' with
  | nil => rfl
  | cons c calls ih =>
    unfold dueTicks
    simp only [h.is_emit_due, ih (h.after c)]

theorem Harmless.same_cadence (h : Harmless b c) (forced : c.forced = true) :
    SameCadence (c.after b) b := by
  obtain ⟨idle, quiet⟩ := h
  have still : ∀ tick, BufferCall.after b (.poll tick true) = b := by
    intro tick
    rw [after_poll, idle]
    split <;> rfl
  cases c with
  | offer source tick force =>
    obtain rfl : force = true := forced
    rw [after_offer]
    split
    · exact .refl b
    · rename_i sign
      have last : b.lastEmittedTick = some tick := by
        refine quiet.resolve_left ?_
        rw [BufferCall.offered, if_neg sign]
        exact Option.some_ne_none _
      rw [after_poll, if_neg sign]
      change SameCadence ((b.waiting (source, tick)).emitPending (source, tick) tick true).1 b
      exact ⟨waiting_interval (source, tick), last.symm, idle ▸ rfl⟩
  | poll tick force =>
    obtain rfl : force = true := forced
    exact (congrArg (SameCadence · b) (still tick)).mpr (.refl b)
  | flush tick => exact (congrArg (SameCadence · b) (still tick)).mpr (.refl b)
  | clearPending => cases forced

theorem due_ticks_forced (forced : c.forced = true) (calls : List (BufferCall α)) :
    dueTicks b (c :: calls) = dueTicks (c.after b) calls := by
  simp only [dueTicks, forced, Bool.not_true, Bool.false_and, List.filter_false, List.nil_append]

theorem HarmlessRun.due_ticks {steps : List (BufferCall α × Bool)} (h : HarmlessRun b steps)
    (forced : ∀ step ∈ steps, step.2 = true → step.1.forced = true) :
    dueTicks b (steps.map Prod.fst) =
      dueTicks b ((steps.filter fun step => !step.2).map Prod.fst) := by
  induction steps generalizing b with
  | nil => rfl
  | cons step steps ih =>
    obtain ⟨c, added⟩ := step
    obtain ⟨harmless, rest⟩ := h
    have later := ih rest fun step mem => forced step (List.mem_cons_of_mem _ mem)
    cases added with
    | false =>
      rw [List.filter_cons_of_pos rfl]
      simp only [List.map_cons, dueTicks, later]
    | true =>
      have c_forced := forced _ List.mem_cons_self rfl
      rw [List.filter_cons_of_neg (by simp), List.map_cons, due_ticks_forced c_forced, later]
      exact ((harmless rfl).same_cadence c_forced).due_ticks _

theorem due_ticks_poll (tick : ℤ) (calls : List (BufferCall α)) :
    dueTicks b (.poll tick false :: calls) =
      (if b.isEmitDue tick then [tick] else []) ++
        dueTicks (BufferCall.after b (.poll tick false)) calls := by
  cases due : b.isEmitDue tick <;>
    simp [dueTicks, BufferCall.tick, BufferCall.forced, due]

/-- A forced call that emits at `tick`. -/
structure EmitsAt (b b' : UISnapshotStreamBuffer α) (tick : ℤ) : Prop where
  interval : b'.minEmitIntervalTicks = b.minEmitIntervalTicks
  last : b'.lastEmittedTick = some tick
  pending : b'.pendingSnapshot = none

theorem forced_emits (forced : c.forced = true) (at_tick : c.tick = some tick) (sign : 0 ≤ tick)
    (full : ¬(b.pendingSnapshot = none ∧ c.offered = none)) : EmitsAt b (c.after b) tick := by
  have polls : ∀ b : UISnapshotStreamBuffer α, b.pendingSnapshot ≠ none →
      EmitsAt b (BufferCall.after b (.poll tick true)) tick := by
    intro b pending
    obtain ⟨snapshot, pending⟩ := Option.ne_none_iff_exists'.mp pending
    rw [after_poll, if_neg (not_lt.mpr sign), pending]
    exact ⟨rfl, rfl, rfl⟩
  cases c with
  | offer source tick' force =>
    obtain rfl : force = true := forced
    obtain rfl : tick' = tick := Option.some.inj at_tick
    rw [after_offer, if_neg (not_lt.mpr sign)]
    obtain ⟨interval, last, pending⟩ :=
      polls (b.waiting (source, tick')) (Option.some_ne_none _)
    exact ⟨interval.trans (waiting_interval _), last, pending⟩
  | poll tick' force =>
    obtain rfl : force = true := forced
    obtain rfl : tick' = tick := Option.some.inj at_tick
    exact polls b fun idle => full ⟨idle, rfl⟩
  | flush tick' =>
    obtain rfl : tick' = tick := Option.some.inj at_tick
    exact polls b fun idle => full ⟨idle, rfl⟩
  | clearPending => cases forced

theorem is_emit_due_none (last : b.lastEmittedTick = none) (tick : ℤ) :
    b.isEmitDue tick = true := by
  rw [UISnapshotStreamBuffer.isEmitDue, last]

theorem is_emit_due_some {last : ℤ} (emitted : b.lastEmittedTick = some last) (tick : ℤ) :
    b.isEmitDue tick = decide (b.minEmitIntervalTicks ≤ tick - last) := by
  rw [UISnapshotStreamBuffer.isEmitDue, emitted]

theorem same_due (start : ℤ)
    (same : ∀ calls, Paced start calls → dueTicks b calls = dueTicks b' calls)
    (late : start ≤ tick) : b.isEmitDue tick = b'.isEmitDue tick := by
  have polled := same [.poll tick false] ⟨tick, rfl, late, trivial⟩
  rw [due_ticks_poll, due_ticks_poll] at polled
  cases here : b.isEmitDue tick <;> cases there : b'.isEmitDue tick <;>
    simp_all [dueTicks]

theorem EmitsAt.harmless (h : EmitsAt b b' tick) (sign : 0 ≤ tick)
    (same : ∀ calls, Paced tick calls → dueTicks b' calls = dueTicks b calls) :
    b.pendingSnapshot = none ∧ b.lastEmittedTick = some tick := by
  have interval := b.interval_pos
  have due' := is_emit_due_some h.last
  rw [h.interval] at due'
  have last : b.lastEmittedTick = some tick := by
    cases last : b.lastEmittedTick with
    | none =>
      have now := same_due tick same le_rfl
      rw [due', is_emit_due_none last] at now
      have := of_decide_eq_true now
      omega
    | some l =>
      have due := is_emit_due_some last
      rcases lt_trichotomy l tick with before | rfl | behind
      · have now := same_due tick same (le_max_left tick (l + b.minEmitIntervalTicks))
        rw [due', due, decide_eq_decide] at now
        omega
      · rfl
      · have now : b'.isEmitDue (tick + b.minEmitIntervalTicks) =
            b.isEmitDue (tick + b.minEmitIntervalTicks) := same_due tick same (by omega)
        rw [due', due, decide_eq_decide] at now
        omega
  refine ⟨?_, last⟩
  by_contra pending
  obtain ⟨snapshot, pending⟩ := Option.ne_none_iff_exists'.mp pending
  have due := is_emit_due_some last
  let t := tick + b.minEmitIntervalTicks
  have twice := same [.poll t false, .poll t false]
    ⟨t, rfl, by omega, t, rfl, le_rfl, trivial⟩
  have arrives : decide (b.minEmitIntervalTicks ≤ t - tick) = true := decide_eq_true (by omega)
  have waits' : BufferCall.after b' (.poll t false) = b' := by
    rw [after_poll, h.pending]
    split <;> rfl
  have emits : BufferCall.after b (.poll t false) = (b.emitPending snapshot t false).1 := by
    rw [after_poll, if_neg (by omega), pending]
    simp only [due, arrives, Bool.true_eq_false, and_false, if_false]
  have not_again : (b.emitPending snapshot t false).1.isEmitDue t = false := by
    have emitted : (b.emitPending snapshot t false).1.lastEmittedTick = some t := rfl
    rw [is_emit_due_some emitted]
    refine decide_eq_false ?_
    change ¬b.minEmitIntervalTicks ≤ t - t
    omega
  rw [due_ticks_poll, due_ticks_poll, due_ticks_poll, due_ticks_poll, waits', emits, not_again,
    due', due, arrives] at twice
  simp [dueTicks] at twice

end Cadence

/-- Forced calls that are harmless where they come leave the due ticks of every run alone,
and no other forced call does so for every run of offers and polls after it. -/
theorem forced_emission_cadence (b : UISnapshotStreamBuffer α) :
    (∀ steps : List (BufferCall α × Bool),
      (∀ step ∈ steps, step.2 = true → step.1.forced = true) → HarmlessRun b steps →
        dueTicks b (steps.map Prod.fst) =
          dueTicks b ((steps.filter fun step => !step.2).map Prod.fst)) ∧
    ∀ (c : BufferCall α) (tick : ℤ), c.forced = true → c.tick = some tick → 0 ≤ tick →
      ((∀ calls, Paced tick calls → dueTicks b (c :: calls) = dueTicks b calls) ↔
        Harmless b c) := by
  refine ⟨fun steps forced harmless => harmless.due_ticks forced,
    fun c tick forced at_tick sign => ⟨fun same => ?_, fun harmless calls _ => ?_⟩⟩
  · by_cases full : b.pendingSnapshot = none ∧ c.offered = none
    · exact ⟨full.1, .inl full.2⟩
    · have emits := forced_emits forced at_tick sign full
      have moved : ∀ calls, Paced tick calls → dueTicks (c.after b) calls = dueTicks b calls :=
        fun calls paced => due_ticks_forced forced calls ▸ same calls paced
      obtain ⟨idle, last⟩ := emits.harmless sign moved
      exact ⟨idle, .inr (last.trans at_tick.symm)⟩
  · rw [due_ticks_forced forced]
    exact (harmless.same_cadence forced).due_ticks calls

/-- A flush with nothing pending, between two offers. -/
theorem forced_emission_cadence_idle_flush :
    dueTicks (α := String) ⟨10, none, none, 0, 0, {}, by decide⟩
        [.offer "a" 0 false, .flush 6, .offer "b" 10 false] =
      dueTicks (α := String) ⟨10, none, none, 0, 0, {}, by decide⟩
        [.offer "a" 0 false, .offer "b" 10 false] :=
  (forced_emission_cadence
      (⟨10, none, none, 0, 0, {}, by decide⟩ : UISnapshotStreamBuffer String)).1
    [(.offer "a" 0 false, false), (.flush 6, true), (.offer "b" 10 false, false)]
    (by decide) ⟨nofun, fun _ => ⟨rfl, .inl rfl⟩, nofun, trivial⟩

/-- The snapshot of tick 5 waits for tick 10; a flush at 6 sends it and puts the next
emission off to 16. -/
theorem flush_moves_the_cadence :
    dueTicks (α := String) ⟨10, none, none, 0, 0, {}, by decide⟩
        [.offer "a" 0 false, .offer "b" 5 false, .poll 10 false] = [0, 10] ∧
      dueTicks (α := String) ⟨10, none, none, 0, 0, {}, by decide⟩
        [.offer "a" 0 false, .offer "b" 5 false, .flush 6, .poll 10 false] = [0] := by
  decide

end Metroflow.Ui
