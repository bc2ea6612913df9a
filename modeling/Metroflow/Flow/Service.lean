import Metroflow.Flow.Tokens
import Metroflow.Lib.Budget

namespace Metroflow.Flow

open Metroflow.Lib

/-- A movement that asks for a token: a final-link sink or a turn. -/
inductive Movement (n m : ℕ) where
  | sink (source : Fin n)
  | turn (index : Fin m)
  deriving DecidableEq, Repr

variable {n m : ℕ}

def Movement.class : Movement n m → ℕ
  | .sink _ => 0
  | .turn _ => 1

def Movement.index : Movement n m → ℕ
  | .sink source => source
  | .turn index => index

/-- Movements are sinks beside turns. -/
def Movement.equiv : Movement n m ≃ Fin n ⊕ Fin m where
  toFun
    | .sink source => .inl source
    | .turn index => .inr index
  invFun
    | .inl source => .sink source
    | .inr index => .turn index
  left_inv movement := by cases movement <;> rfl
  right_inv movement := by cases movement <;> rfl

instance : Fintype (Movement n m) := Fintype.ofEquiv _ Movement.equiv.symm

theorem Movement.sum_eq (f : Movement n m → ℤ) :
    ∑ movement, f movement = ∑ l, f (.sink l) + ∑ t, f (.turn t) := by
  rw [← Equiv.sum_comp Movement.equiv.symm f, Fintype.sum_sum_type]
  rfl

/-- An entry of the service heap, ordered by credit, class and index. -/
structure HeapEntry (n m : ℕ) where
  negativeScore : ℚ
  movement : Movement n m
  deriving DecidableEq, Repr

def HeapEntry.le (a b : HeapEntry n m) : Bool :=
  decide (a.negativeScore < b.negativeScore) || (decide (a.negativeScore = b.negativeScore) &&
    (decide (a.movement.class < b.movement.class) ||
      (decide (a.movement.class = b.movement.class) &&
        decide (a.movement.index ≤ b.movement.index))))

/-- The working arrays of the allocation loop. -/
structure ServiceState (n m : ℕ) where
  realizedTurn : Fin m → ℤ
  sinkFlow : Fin n → ℤ
  remainingService : Fin n → ℤ
  remainingReceiving : Fin n → ℤ
  remainingVehicles : Fin n → ℤ
  remainingTurnDemand : Fin m → ℤ
  remainingSinkDemand : Fin n → ℤ
  nextTurnCredit : Fin m → ℚ
  nextSinkCredit : Fin n → ℚ

/-- The loop's heap beside its arrays. -/
structure ServiceLoop (n m : ℕ) where
  heap : List (HeapEntry n m)
  state : ServiceState n m

namespace TokenTick

variable (k : TokenTick n m)

def initialService : ServiceState n m where
  realizedTurn _ := 0
  sinkFlow _ := 0
  remainingService := k.serviceTokens
  remainingReceiving := k.receivingTokens
  remainingVehicles := k.vehiclesNow
  remainingTurnDemand := k.wholeTurnDemand
  remainingSinkDemand := k.sinkDemand
  nextTurnCredit := k.turnAccrued
  nextSinkCredit := k.sinkAccrued

/-- Every movement with demand enters the heap once. -/
def initialMovements : List (Movement n m) :=
  ((List.finRange m).filter k.eligibleTurnDemand).map .turn ++
    ((List.finRange n).filter fun l => decide (0 < k.sinkDemand l)).map .sink

def credit (s : ServiceState n m) : Movement n m → ℚ
  | .sink source => s.nextSinkCredit source
  | .turn index => s.nextTurnCredit index

def heapEntry (s : ServiceState n m) (movement : Movement n m) : HeapEntry n m :=
  ⟨-credit s movement, movement⟩

def canServe (s : ServiceState n m) : Movement n m → Bool
  | .sink source =>
    decide (0 < s.remainingSinkDemand source) && decide (0 < s.remainingService source) &&
      decide (0 < s.remainingVehicles source)
  | .turn index =>
    decide (0 < s.remainingTurnDemand index) &&
      decide (0 < s.remainingService (k.fromIdx index)) &&
      decide (0 < s.remainingVehicles (k.fromIdx index)) &&
      decide (0 < s.remainingReceiving (k.toIdx index))

/-- Hands one token to the movement. -/
def serve (s : ServiceState n m) : Movement n m → ServiceState n m
  | .sink source =>
    { s with
      sinkFlow := Function.update s.sinkFlow source (s.sinkFlow source + 1)
      remainingSinkDemand :=
        Function.update s.remainingSinkDemand source (s.remainingSinkDemand source - 1)
      remainingService := Function.update s.remainingService source (s.remainingService source - 1)
      remainingVehicles :=
        Function.update s.remainingVehicles source (s.remainingVehicles source - 1)
      nextSinkCredit := Function.update s.nextSinkCredit source (s.nextSinkCredit source - 1) }
  | .turn index =>
    let source := k.fromIdx index
    let destination := k.toIdx index
    { s with
      realizedTurn := Function.update s.realizedTurn index (s.realizedTurn index + 1)
      remainingTurnDemand :=
        Function.update s.remainingTurnDemand index (s.remainingTurnDemand index - 1)
      remainingService := Function.update s.remainingService source (s.remainingService source - 1)
      remainingReceiving :=
        Function.update s.remainingReceiving destination (s.remainingReceiving destination - 1)
      remainingVehicles :=
        Function.update s.remainingVehicles source (s.remainingVehicles source - 1)
      nextTurnCredit := Function.update s.nextTurnCredit index (s.nextTurnCredit index - 1) }

/-- One pass of the loop: the entry with the most credit is served or dropped. -/
def servePass (w : ServiceLoop n m) : Option (ServiceLoop n m) :=
  match popMin HeapEntry.le w.heap with
  | none => none
  | some (top, rest) =>
    if k.canServe w.state top.movement then
      let state := k.serve w.state top.movement
      if k.canServe state top.movement then
        some ⟨heapEntry state top.movement :: rest, state⟩
      else some ⟨rest, state⟩
    else some ⟨rest, w.state⟩

def initialLoop : ServiceLoop n m :=
  ⟨k.initialMovements.map (heapEntry k.initialService), k.initialService⟩

def remainingDemand (s : ServiceState n m) : Movement n m → ℤ
  | .sink source => s.remainingSinkDemand source
  | .turn index => s.remainingTurnDemand index

/-- No pass keeps both the heap and the demand behind it. -/
def loopSize (w : ServiceLoop n m) : ℕ :=
  w.heap.length + (w.heap.map fun e => (remainingDemand w.state e.movement).toNat).sum

def finalLoop : ServiceLoop n m := loop k.servePass (loopSize k.initialLoop) k.initialLoop

def allocate : ServiceState n m := k.finalLoop.state

end TokenTick

/-- The budgets that the movements of a tick draw on. -/
inductive Budget (n m : ℕ) where
  | service (link : Fin n)
  | vehicles (link : Fin n)
  | receiving (link : Fin n)
  | turnDemand (index : Fin m)
  | sinkDemand (link : Fin n)
  deriving DecidableEq

namespace TokenTick

variable (k : TokenTick n m)

def uses : Movement n m → Finset (Budget n m)
  | .sink source => {.sinkDemand source, .service source, .vehicles source}
  | .turn index => {.turnDemand index, .service (k.fromIdx index), .vehicles (k.fromIdx index),
      .receiving (k.toIdx index)}

def budget : Budget n m → ℤ
  | .service link => k.serviceTokens link
  | .vehicles link => k.vehiclesNow link
  | .receiving link => k.receivingTokens link
  | .turnDemand index => k.wholeTurnDemand index
  | .sinkDemand link => k.sinkDemand link

def allocation (s : ServiceState n m) : Allocation (Budget n m) (Movement n m) where
  remaining
    | .service link => s.remainingService link
    | .vehicles link => s.remainingVehicles link
    | .receiving link => s.remainingReceiving link
    | .turnDemand index => s.remainingTurnDemand index
    | .sinkDemand link => s.remainingSinkDemand link
  served
    | .sink source => s.sinkFlow source
    | .turn index => s.realizedTurn index

theorem can_serve_iff {s : ServiceState n m} {movement : Movement n m} :
    k.canServe s movement = true ↔ (allocation s).Open k.uses movement := by
  cases movement with
  | sink source => simp [canServe, Allocation.Open, uses, allocation, and_assoc]
  | turn index => simp [canServe, Allocation.Open, uses, allocation, and_assoc]

theorem allocation_serve (s : ServiceState n m) (movement : Movement n m) :
    allocation (k.serve s movement) = (allocation s).serve k.uses movement := by
  have hit : ∀ {p : ℕ} (f : Fin p → ℤ) (a b : Fin p),
      Function.update f a (f a - 1) b = f b - if b = a then 1 else 0 := by
    intro p f a b
    by_cases same : b = a
    · subst same
      simp
    · simp [same]
  cases movement with
  | sink source =>
    simp only [allocation, Allocation.serve, serve, Allocation.mk.injEq]
    constructor
    · funext r
      cases r <;> simp [uses, hit]
    · funext other
      cases other with
      | sink other => by_cases same : other = source <;> simp [Function.update, same]
      | turn other => simp [Function.update]
  | turn index =>
    simp only [allocation, Allocation.serve, serve, Allocation.mk.injEq]
    constructor
    · funext r
      cases r <;> simp [uses, hit]
    · funext other
      cases other with
      | sink other => simp [Function.update]
      | turn other => by_cases same : other = index <;> simp [Function.update, same]

theorem allocation_initial : allocation k.initialService = Allocation.start k.budget := by
  simp only [allocation, Allocation.start, Allocation.mk.injEq]
  constructor
  · funext r
    cases r <;> rfl
  · funext movement
    cases movement <;> rfl

def accruedCredit : Movement n m → ℚ
  | .sink source => k.sinkAccrued source
  | .turn index => k.turnAccrued index

/-- What every pass of the allocation loop keeps. -/
structure LoopInvariant (w : ServiceLoop n m) : Prop where
  balanced : (allocation w.state).Balanced k.uses k.budget
  credited : ∀ movement,
    credit w.state movement + (allocation w.state).served movement = k.accruedCredit movement
  distinct : (w.heap.map HeapEntry.movement).Nodup
  scored : ∀ e ∈ w.heap, e.negativeScore = -credit w.state e.movement
  known : ∀ e ∈ w.heap, e.movement ∈ k.initialMovements
  waiting : ∀ movement ∈ k.initialMovements, movement ∉ w.heap.map HeapEntry.movement →
    k.canServe w.state movement = false
  idle : ∀ movement, movement ∉ k.initialMovements → (allocation w.state).served movement = 0

theorem mem_initial_turn {t : Fin m} :
    .turn t ∈ k.initialMovements ↔ k.eligibleTurnDemand t = true := by
  simp [initialMovements]

theorem mem_initial_sink {l : Fin n} : .sink l ∈ k.initialMovements ↔ 0 < k.sinkDemand l := by
  simp [initialMovements]

theorem initial_movements_nodup : k.initialMovements.Nodup := by
  unfold initialMovements
  refine List.Nodup.append ?_ ?_ ?_
  · exact ((List.nodup_finRange m).filter _).map fun _ _ same => Movement.turn.inj same
  · exact ((List.nodup_finRange n).filter _).map fun _ _ same => Movement.sink.inj same
  · intro movement turns sinks
    obtain ⟨t, _, rfl⟩ := List.mem_map.mp turns
    obtain ⟨l, _, same⟩ := List.mem_map.mp sinks
    cases same

theorem initial_loop_invariant : k.LoopInvariant k.initialLoop where
  balanced := by
    change (allocation k.initialService).Balanced _ _
    rw [allocation_initial]
    exact Allocation.balanced_start
  credited movement := by
    change credit k.initialService movement + _ = _
    rw [show (allocation k.initialLoop.state).served movement = 0 by cases movement <;> rfl]
    cases movement <;> simp [credit, initialService, accruedCredit]
  distinct := by
    have same : k.initialLoop.heap.map HeapEntry.movement = k.initialMovements := by
      simp [initialLoop, heapEntry, Function.comp_def]
    rw [same]
    exact k.initial_movements_nodup
  scored e he := by
    obtain ⟨movement, _, rfl⟩ := List.mem_map.mp he
    rfl
  known e he := by
    obtain ⟨movement, found, rfl⟩ := List.mem_map.mp he
    exact found
  waiting movement found missing := by
    have same : k.initialLoop.heap.map HeapEntry.movement = k.initialMovements := by
      simp [initialLoop, heapEntry, Function.comp_def]
    rw [same] at missing
    exact absurd found missing
  idle movement _ := by cases movement <;> rfl

theorem credit_serve_self (s : ServiceState n m) (movement : Movement n m) :
    credit (k.serve s movement) movement = credit s movement - 1 := by
  cases movement <;> simp [credit, serve]

theorem credit_serve_other (s : ServiceState n m) {movement other : Movement n m}
    (h : other ≠ movement) : credit (k.serve s movement) other = credit s other := by
  cases movement <;> cases other <;> simp_all [credit, serve, Function.update]

theorem can_serve_of_serve {s : ServiceState n m} {movement other : Movement n m}
    (h : k.canServe s other = false) : k.canServe (k.serve s movement) other = false := by
  rw [← Bool.not_eq_true, can_serve_iff] at h ⊢
  rw [allocation_serve]
  exact Allocation.closed_of_serve h

theorem serve_pass_cases {w w' : ServiceLoop n m} (h : k.servePass w = some w') :
    ∃ top rest, popMin HeapEntry.le w.heap = some (top, rest) ∧
      ((k.canServe w.state top.movement = false ∧ w' = ⟨rest, w.state⟩) ∨
        (k.canServe w.state top.movement = true ∧
          w'.state = k.serve w.state top.movement ∧
          ((k.canServe w'.state top.movement = true ∧
              w'.heap = heapEntry w'.state top.movement :: rest) ∨
            (k.canServe w'.state top.movement = false ∧ w'.heap = rest)))) := by
  unfold servePass at h
  split at h
  · simp at h
  · rename_i top rest popped
    refine ⟨top, rest, popped, ?_⟩
    split at h
    · rename_i able
      right
      dsimp only at h
      split at h
      · rename_i again
        obtain rfl := Option.some.inj h
        exact ⟨able, rfl, .inl ⟨again, rfl⟩⟩
      · rename_i spent
        obtain rfl := Option.some.inj h
        exact ⟨able, rfl, .inr ⟨by simpa using spent, rfl⟩⟩
    · rename_i unable
      obtain rfl := Option.some.inj h
      exact .inl ⟨by simpa using unable, rfl⟩

section Passes

variable {k} {w w' : ServiceLoop n m} {top : HeapEntry n m} {rest : List (HeapEntry n m)}

theorem LoopInvariant.popped_distinct (h : k.LoopInvariant w)
    (popped : popMin HeapEntry.le w.heap = some (top, rest)) :
    top.movement ∉ rest.map HeapEntry.movement ∧ (rest.map HeapEntry.movement).Nodup := by
  have perm := (pop_min_perm popped).map HeapEntry.movement
  rw [List.map_cons] at perm
  exact List.nodup_cons.mp (perm.nodup_iff.mp h.distinct)

theorem LoopInvariant.drop (h : k.LoopInvariant w)
    (popped : popMin HeapEntry.le w.heap = some (top, rest))
    (unable : k.canServe w.state top.movement = false) : k.LoopInvariant ⟨rest, w.state⟩ where
  balanced := h.balanced
  credited := h.credited
  distinct := (h.popped_distinct popped).2
  scored e he := h.scored e ((pop_min_mem popped).mpr (.inr he))
  known e he := h.known e ((pop_min_mem popped).mpr (.inr he))
  waiting movement found missing := by
    by_cases same : movement = top.movement
    · rw [same]
      exact unable
    · apply h.waiting movement found
      intro inside
      obtain ⟨e, he, rfl⟩ := List.mem_map.mp inside
      rcases (pop_min_mem popped).mp he with rfl | stays
      · exact same rfl
      · exact missing (List.mem_map_of_mem stays)
  idle := h.idle

theorem LoopInvariant.served (h : k.LoopInvariant w)
    (popped : popMin HeapEntry.le w.heap = some (top, rest))
    (able : k.canServe w.state top.movement = true) (state : w'.state = k.serve w.state top.movement)
    (heap : (w'.heap = heapEntry w'.state top.movement :: rest) ∨
      (k.canServe w'.state top.movement = false ∧ w'.heap = rest)) : k.LoopInvariant w' := by
  obtain ⟨fresh, distinct⟩ := h.popped_distinct popped
  have top_known : top.movement ∈ k.initialMovements :=
    h.known top ((pop_min_mem popped).mpr (.inl rfl))
  have members : ∀ e ∈ w'.heap, e = heapEntry w'.state top.movement ∨ e ∈ rest := by
    intro e he
    rcases heap with heap | ⟨_, heap⟩
    · rw [heap] at he
      exact List.mem_cons.mp he
    · rw [heap] at he
      exact .inr he
  have other_credit : ∀ e ∈ rest, credit w'.state e.movement = credit w.state e.movement := by
    intro e he
    rw [state]
    refine k.credit_serve_other w.state ?_
    intro same
    exact fresh (same ▸ List.mem_map_of_mem he)
  refine ⟨?_, ?_, ?_, ?_, ?_, ?_, ?_⟩
  · rw [state, allocation_serve]
    exact h.balanced.serve (k.can_serve_iff.mp able)
  · intro movement
    rw [← h.credited movement, state, allocation_serve]
    by_cases same : movement = top.movement
    · subst same
      rw [credit_serve_self, Allocation.serve_served_self]
      push_cast
      ring
    · rw [credit_serve_other k w.state same, Allocation.serve_served_other same]
  · rcases heap with heap | ⟨_, heap⟩
    · rw [heap, List.map_cons]
      exact List.nodup_cons.mpr ⟨fresh, distinct⟩
    · rw [heap]
      exact distinct
  · intro e he
    rcases members e he with rfl | stays
    · rfl
    · rw [other_credit e stays]
      exact h.scored e ((pop_min_mem popped).mpr (.inr stays))
  · intro e he
    rcases members e he with rfl | stays
    · exact top_known
    · exact h.known e ((pop_min_mem popped).mpr (.inr stays))
  · intro movement found missing
    by_cases same : movement = top.movement
    · subst same
      rcases heap with heap | ⟨spent, _⟩
      · rw [heap] at missing
        simp [heapEntry] at missing
      · exact spent
    · rw [state]
      apply k.can_serve_of_serve
      apply h.waiting movement found
      intro inside
      apply missing
      obtain ⟨e, he, rfl⟩ := List.mem_map.mp inside
      rcases (pop_min_mem popped).mp he with rfl | stays
      · exact absurd rfl same
      · rcases heap with heap | ⟨_, heap⟩
        · rw [heap, List.map_cons]
          exact List.mem_cons_of_mem _ (List.mem_map_of_mem stays)
        · rw [heap]
          exact List.mem_map_of_mem stays
  · intro movement unknown
    have other : movement ≠ top.movement := fun same => unknown (same ▸ top_known)
    rw [state, allocation_serve, Allocation.serve_served_other other]
    exact h.idle movement unknown

theorem LoopInvariant.pass (h : k.LoopInvariant w) (pass : k.servePass w = some w') :
    k.LoopInvariant w' := by
  obtain ⟨top, rest, popped, ⟨unable, rfl⟩ | ⟨able, state, again | spent⟩⟩ :=
    k.serve_pass_cases pass
  · exact h.drop popped unable
  · exact h.served popped able state (.inl again.2)
  · exact h.served popped able state (.inr spent)

theorem remaining_demand_serve_le (s : ServiceState n m) (movement other : Movement n m) :
    remainingDemand (k.serve s movement) other ≤ remainingDemand s other := by
  cases movement <;> cases other <;> simp only [remainingDemand, serve, Function.update] <;>
    first | exact le_refl _ | (split <;> simp_all)

theorem remaining_demand_serve_self (s : ServiceState n m) (movement : Movement n m) :
    remainingDemand (k.serve s movement) movement = remainingDemand s movement - 1 := by
  cases movement <;> simp [remainingDemand, serve]

theorem remaining_demand_pos {s : ServiceState n m} {movement : Movement n m}
    (h : k.canServe s movement = true) : 0 < remainingDemand s movement := by
  cases movement <;> simp_all [canServe, remainingDemand]

theorem serve_pass_shrinks (pass : k.servePass w = some w') : loopSize w' < loopSize w := by
  obtain ⟨top, rest, popped, cases⟩ := k.serve_pass_cases pass
  have size : loopSize w = loopSize ⟨rest, w.state⟩ + 1 +
      (remainingDemand w.state top.movement).toNat := by
    have perm := pop_min_perm popped
    have total := (perm.map fun e => (remainingDemand w.state e.movement).toNat).sum_eq
    simp only [loopSize, perm.length_eq, total, List.map_cons, List.sum_cons, List.length_cons]
    omega
  have lower : ∀ l : List (HeapEntry n m),
      (l.map fun e => (remainingDemand (k.serve w.state top.movement) e.movement).toNat).sum ≤
        (l.map fun e => (remainingDemand w.state e.movement).toNat).sum := by
    intro l
    refine List.sum_le_sum fun e _ => ?_
    have := remaining_demand_serve_le (k := k) w.state top.movement e.movement
    omega
  have kept := lower rest
  rcases cases with ⟨_, rfl⟩ | ⟨able, state, ⟨_, heap⟩ | ⟨_, heap⟩⟩
  · omega
  · have positive := remaining_demand_pos able
    have less := remaining_demand_serve_self (k := k) w.state top.movement
    rw [size]
    simp only [loopSize, heap, state, heapEntry, List.map_cons, List.sum_cons, List.length_cons]
    omega
  · rw [size]
    simp only [loopSize, heap, state]
    omega

end Passes

theorem final_loop_invariant : k.LoopInvariant k.finalLoop :=
  loop_invariant (fun _ _ h pass => h.pass pass) _ k.initial_loop_invariant

theorem final_loop_empty : k.finalLoop.heap = [] := by
  have stopped : k.servePass k.finalLoop = none :=
    loop_halts (I := fun _ => True) (fun _ _ _ _ => trivial) loopSize
      (fun _ _ _ pass => serve_pass_shrinks pass) trivial (le_refl _)
  unfold servePass at stopped
  split at stopped
  · rename_i empty
    exact pop_min_none.mp empty
  · split at stopped
    · dsimp only at stopped
      split at stopped <;> simp at stopped
    · simp at stopped

/-- What the allocation loop returns: balanced budgets, whole tokens taken from
the credits, and no movement left that could still be served. -/
structure Allocated (s : ServiceState n m) : Prop where
  balanced : (allocation s).Balanced k.uses k.budget
  credited : ∀ movement,
    credit s movement + (allocation s).served movement = k.accruedCredit movement
  exhausted : ∀ movement ∈ k.initialMovements, k.canServe s movement = false
  idle : ∀ movement, movement ∉ k.initialMovements → (allocation s).served movement = 0

theorem allocate_spec : k.Allocated k.allocate where
  balanced := k.final_loop_invariant.balanced
  credited := k.final_loop_invariant.credited
  exhausted movement found :=
    k.final_loop_invariant.waiting movement found (by simp [k.final_loop_empty])
  idle := k.final_loop_invariant.idle

end TokenTick

end Metroflow.Flow
