import Metroflow.Sim.CachedRoutes

namespace Metroflow.Sim.Columns

open Metroflow.Lib Metroflow.Timing

variable {ρ : Type} {cap : ℕ}

def LinkBudget.at (budget : LinkBudget) (linkId : ℤ) : ℤ := (budget.counts.get linkId).getD 0

theorem clamped_get {budget : LinkBudget} {linkId : ℤ} :
    (budget.clamped.get linkId).getD 0 = max 0 (budget.at linkId) := by
  unfold LinkBudget.clamped LinkBudget.at
  rw [Dict.get_map_values]
  cases budget.counts.get linkId <;> rfl

section Courses

/-- What becomes of an agent in a tick. -/
inductive Act where
  | stay
  | wait
  | leave
  | move
  deriving DecidableEq, Repr

variable (pool : ActiveAgentPool (SlotMemory ρ) cap) (skip : Finset ℤ)
  (movement completion : LinkBudget) (i : Fin cap)

/-- The cached route as it is read. -/
def route : List ℤ := (cachedRoute pool i).toOption.getD []

/-- An agent that is not skipped and has a route. -/
def Travels : Prop := pool.aliveMask i = true ∧ slotNumber i ∉ skip ∧ route pool i ≠ []

instance : Decidable (Travels pool skip i) :=
  inferInstanceAs (Decidable (_ ∧ _ ∧ _))

/-- The last link of the route is reached. -/
def AtEnd : Prop := (route pool i).length - 1 ≤ pool.remainingRoutePtr i

instance : Decidable (AtEnd pool i) := inferInstanceAs (Decidable (_ ≤ _))

/-- The link whose movement budget an agent draws from. -/
def wantsMove : Option ℤ :=
  if Travels pool skip i ∧ ¬ AtEnd pool i then some (pool.currentLinkId i) else none

/-- The link whose completion budget an agent draws from. -/
def wantsEnd : Option ℤ :=
  if Travels pool skip i ∧ AtEnd pool i then some (pool.currentLinkId i) else none

/-- The links serve their agents by slot number; an agent without a route leaves whatever
the budgets are. -/
def act : Act :=
  if Travels pool skip i then
    if AtEnd pool i then
      if served (wantsEnd pool skip) completion.at i then .leave else .wait
    else if served (wantsMove pool skip) movement.at i then .move else .stay
  else if pool.aliveMask i = true ∧ slotNumber i ∉ skip then .leave
  else .stay

def nextLink : ℤ := (route pool i).getD ((pool.remainingRoutePtr i).toNat + 1) 0

def nextPtr : ℤ := pool.remainingRoutePtr i + 1

def nextCooldown : ℤ := max 0 (pool.rerouteCooldownTicks i - 1)

/-- One pass of a loop over the slots, by what it finds left of the budgets: what it does
with the agent and what it leaves of them. -/
inductive Course (past : List (Fin cap)) (left left' : ℤ → ℤ) : Prop
  | skipped (skips : slotNumber i ∈ skip) (does : act pool skip movement completion i = .stay)
      (moving : Left (wantsMove pool skip) movement.at (past ++ [i]) left)
      (ending : Left (wantsEnd pool skip) completion.at (past ++ [i]) left')
  | routeless (runs : slotNumber i ∉ skip) (lost : route pool i = [])
      (does : act pool skip movement completion i = .leave)
      (moving : Left (wantsMove pool skip) movement.at (past ++ [i]) left)
      (ending : Left (wantsEnd pool skip) completion.at (past ++ [i]) left')
  | waiting (runs : slotNumber i ∉ skip) (routed : route pool i ≠ []) (last : AtEnd pool i)
      (out : left' (pool.currentLinkId i) ≤ 0)
      (does : act pool skip movement completion i = .wait)
      (moving : Left (wantsMove pool skip) movement.at (past ++ [i]) left)
      (ending : Left (wantsEnd pool skip) completion.at (past ++ [i]) left')
  | arriving (runs : slotNumber i ∉ skip) (routed : route pool i ≠ []) (last : AtEnd pool i)
      (some_left : 0 < left' (pool.currentLinkId i))
      (does : act pool skip movement completion i = .leave)
      (moving : Left (wantsMove pool skip) movement.at (past ++ [i]) left)
      (ending : Left (wantsEnd pool skip) completion.at (past ++ [i])
        (Function.update left' (pool.currentLinkId i) (left' (pool.currentLinkId i) - 1)))
  | held (runs : slotNumber i ∉ skip) (routed : route pool i ≠ []) (before : ¬ AtEnd pool i)
      (out : left (pool.currentLinkId i) ≤ 0)
      (does : act pool skip movement completion i = .stay)
      (moving : Left (wantsMove pool skip) movement.at (past ++ [i]) left)
      (ending : Left (wantsEnd pool skip) completion.at (past ++ [i]) left')
  | moving (runs : slotNumber i ∉ skip) (routed : route pool i ≠ []) (before : ¬ AtEnd pool i)
      (some_left : 0 < left (pool.currentLinkId i))
      (does : act pool skip movement completion i = .move)
      (moving : Left (wantsMove pool skip) movement.at (past ++ [i])
        (Function.update left (pool.currentLinkId i) (left (pool.currentLinkId i) - 1)))
      (ending : Left (wantsEnd pool skip) completion.at (past ++ [i]) left')

variable {pool skip movement completion i} {past rest : List (Fin cap)} {left left' : ℤ → ℤ}

theorem alive_slots_sorted : (aliveSlots pool).Pairwise (· < ·) :=
  (List.pairwise_lt_finRange cap).filter _

theorem mem_alive_slots : i ∈ aliveSlots pool ↔ pool.aliveMask i = true := by
  simp [aliveSlots]

theorem wants_move_alive (wants : wantsMove pool skip i ≠ none) : i ∈ aliveSlots pool := by
  unfold wantsMove at wants
  split at wants
  · rename_i here
    exact mem_alive_slots.mpr here.1.1
  · exact absurd rfl wants

theorem wants_end_alive (wants : wantsEnd pool skip i ≠ none) : i ∈ aliveSlots pool := by
  unfold wantsEnd at wants
  split at wants
  · rename_i here
    exact mem_alive_slots.mpr here.1.1
  · exact absurd rfl wants

theorem idle_of_not_travels (rests : ¬ Travels pool skip i) :
    wantsMove pool skip i = none ∧ wantsEnd pool skip i = none :=
  ⟨if_neg fun h => rests h.1, if_neg fun h => rests h.1⟩

theorem course (split : aliveSlots pool = past ++ i :: rest)
    (moving : Left (wantsMove pool skip) movement.at past left)
    (ending : Left (wantsEnd pool skip) completion.at past left') :
    Course pool skip movement completion i past left left' := by
  have alive : pool.aliveMask i = true :=
    mem_alive_slots.mp (split ▸ List.mem_append_right past List.mem_cons_self)
  by_cases travels : Travels pool skip i
  · obtain ⟨-, runs, routed⟩ := travels
    have travels : Travels pool skip i := ⟨alive, runs, routed⟩
    by_cases last : AtEnd pool i
    · have idle : wantsMove pool skip i = none := if_neg fun h => h.2 last
      have wants : wantsEnd pool skip i = some (pool.currentLinkId i) := if_pos ⟨travels, last⟩
      have turn := ending.served_iff alive_slots_sorted (fun _ => wants_end_alive) split wants
      have does : act pool skip movement completion i =
          if served (wantsEnd pool skip) completion.at i then .leave else .wait := by
        rw [act, if_pos travels, if_pos last]
      by_cases some_left : 0 < left' (pool.currentLinkId i)
      · exact .arriving runs routed last some_left (does.trans (if_pos (turn.mpr some_left)))
          (moving.pass idle) (ending.take wants some_left)
      · exact .waiting runs routed last (not_lt.mp some_left)
          (does.trans (if_neg fun h => some_left (turn.mp h))) (moving.pass idle)
          (ending.turned_away wants (not_lt.mp some_left))
    · have idle : wantsEnd pool skip i = none := if_neg fun h => last h.2
      have wants : wantsMove pool skip i = some (pool.currentLinkId i) := if_pos ⟨travels, last⟩
      have turn := moving.served_iff alive_slots_sorted (fun _ => wants_move_alive) split wants
      have does : act pool skip movement completion i =
          if served (wantsMove pool skip) movement.at i then .move else .stay := by
        rw [act, if_pos travels, if_neg last]
      by_cases some_left : 0 < left (pool.currentLinkId i)
      · exact .moving runs routed last some_left (does.trans (if_pos (turn.mpr some_left)))
          (moving.take wants some_left) (ending.pass idle)
      · exact .held runs routed last (not_lt.mp some_left)
          (does.trans (if_neg fun h => some_left (turn.mp h)))
          (moving.turned_away wants (not_lt.mp some_left)) (ending.pass idle)
  · obtain ⟨idle, idle'⟩ := idle_of_not_travels travels
    by_cases runs : slotNumber i ∉ skip
    · have lost : route pool i = [] := by
        by_contra routed
        exact travels ⟨alive, runs, routed⟩
      refine .routeless runs lost ?_ (moving.pass idle) (ending.pass idle')
      rw [act, if_neg travels, if_pos ⟨alive, runs⟩]
    · refine .skipped (not_not.mp runs) ?_ (moving.pass idle) (ending.pass idle')
      rw [act, if_neg travels, if_neg fun h => runs h.2]

end Courses

/-- The pool with some of its agents one link further. -/
def movedPool (pool : ActiveAgentPool (SlotMemory ρ) cap) (movers : List (Fin cap)) :
    ActiveAgentPool (SlotMemory ρ) cap :=
  { pool with
    stack_shape := slot_stack pool
    counts := slot_counts pool
    currentLinkId := fun i => if i ∈ movers then nextLink pool i else pool.currentLinkId i
    remainingRoutePtr := fun i => if i ∈ movers then nextPtr pool i else pool.remainingRoutePtr i
    rerouteCooldownTicks := fun i =>
      if i ∈ movers then nextCooldown pool i else pool.rerouteCooldownTicks i
    progress01 := fun i => if i ∈ movers then 0 else pool.progress01 i }

def moveSlot (pool : ActiveAgentPool (SlotMemory ρ) cap) (i : Fin cap) (link ptr cooldown : ℤ) :
    ActiveAgentPool (SlotMemory ρ) cap :=
  { pool with
    stack_shape := slot_stack pool
    counts := slot_counts pool
    currentLinkId := Function.update pool.currentLinkId i link
    remainingRoutePtr := Function.update pool.remainingRoutePtr i ptr
    rerouteCooldownTicks := Function.update pool.rerouteCooldownTicks i cooldown
    progress01 := Function.update pool.progress01 i 0 }

def releaseAll (pool : ActiveAgentPool (SlotMemory ρ) cap) (slots : List (Fin cap)) :
    Except AdvanceError (ActiveAgentPool (SlotMemory ρ) cap) :=
  slots.foldlM releaseSlot pool

def tickCounters (moved waited : ℕ) : Counters :=
  (agentTickCounters.set movedKey moved).set sinkWaitKey waited

structure SameAt (pool pool' : ActiveAgentPool (SlotMemory ρ) cap) (i : Fin cap) : Prop where
  alive : pool'.aliveMask i = pool.aliveMask i
  citizen : pool'.citizenId i = pool.citizenId i
  trip : pool'.tripId i = pool.tripId i
  link : pool'.currentLinkId i = pool.currentLinkId i
  progress : pool'.progress01 i = pool.progress01 i
  ptr : pool'.remainingRoutePtr i = pool.remainingRoutePtr i
  dest : pool'.destNodeId i = pool.destNodeId i
  behavior : pool'.behaviorProfileId i = pool.behaviorProfileId i
  cooldown : pool'.rerouteCooldownTicks i = pool.rerouteCooldownTicks i
  memory : pool'.pluginMemory.get (slotNumber i) = pool.pluginMemory.get (slotNumber i)

section Release

variable {pool pool' pool'' : ActiveAgentPool (SlotMemory ρ) cap} {i j : Fin cap}
  {slots movers : List (Fin cap)} {link ptr cooldown : ℤ}

theorem SameAt.refl : SameAt pool pool i := ⟨rfl, rfl, rfl, rfl, rfl, rfl, rfl, rfl, rfl, rfl⟩

theorem SameAt.trans (h : SameAt pool pool' i) (h' : SameAt pool' pool'' i) :
    SameAt pool pool'' i :=
  ⟨h'.alive.trans h.alive, h'.citizen.trans h.citizen, h'.trip.trans h.trip, h'.link.trans h.link,
    h'.progress.trans h.progress, h'.ptr.trans h.ptr, h'.dest.trans h.dest,
    h'.behavior.trans h.behavior, h'.cooldown.trans h.cooldown, h'.memory.trans h.memory⟩

theorem release_slot_ok : releaseSlot pool i = .ok pool' ↔
    ∃ room : pool.freeSlotCount < cap, { cleared pool i room with
      pluginMemory := pool.pluginMemory.filter fun item => item.1 ≠ slotNumber i } = pool' := by
  unfold releaseSlot
  split_ifs with room
  · constructor
    · exact fun same => ⟨room, Except.ok.inj same⟩
    · rintro ⟨_, rfl⟩
      rfl
  · constructor
    · intro failed
      cases failed
    · rintro ⟨room', _⟩
      exact absurd room' room

theorem release_same (ok : releaseSlot pool j = .ok pool') (apart : i ≠ j) :
    SameAt pool pool' i := by
  obtain ⟨room, rfl⟩ := release_slot_ok.mp ok
  have numbers : slotNumber i ≠ slotNumber j := fun same => apart (Fin.ext (Int.ofNat.inj same))
  constructor
  case memory =>
    dsimp only
    rw [Dict.get_filter_ne, if_neg numbers]
  all_goals simp [cleared, apart]

theorem release_all_same (ok : releaseAll pool slots = .ok pool') (apart : i ∉ slots) :
    SameAt pool pool' i := by
  induction slots generalizing pool with
  | nil =>
    obtain rfl := fold_nil.mp ok
    exact SameAt.refl
  | cons j slots ih =>
    obtain ⟨middle, first, rest⟩ := fold_cons.mp ok
    obtain ⟨here, later⟩ := List.ne_and_not_mem_of_not_mem_cons apart
    exact (release_same first here).trans (ih rest later)

theorem release_all_count (ok : releaseAll pool slots = .ok pool') :
    pool'.freeSlotCount = pool.freeSlotCount + slots.length := by
  induction slots generalizing pool with
  | nil =>
    obtain rfl := fold_nil.mp ok
    rfl
  | cons j slots ih =>
    obtain ⟨middle, first, rest⟩ := fold_cons.mp ok
    obtain ⟨room, rfl⟩ := release_slot_ok.mp first
    rw [ih rest, List.length_cons]
    change pool.freeSlotCount + 1 + slots.length = _
    omega

theorem release_move (ok : releaseSlot pool j = .ok pool') (apart : i ≠ j) :
    releaseSlot (moveSlot pool i link ptr cooldown) j =
      .ok (moveSlot pool' i link ptr cooldown) := by
  obtain ⟨room, rfl⟩ := release_slot_ok.mp ok
  refine release_slot_ok.mpr ⟨room, ?_⟩
  unfold moveSlot cleared
  simp only [Function.update_comm apart]

theorem release_all_move (ok : releaseAll pool slots = .ok pool') (apart : i ∉ slots) :
    releaseAll (moveSlot pool i link ptr cooldown) slots =
      .ok (moveSlot pool' i link ptr cooldown) := by
  induction slots generalizing pool with
  | nil =>
    obtain rfl := fold_nil.mp ok
    rfl
  | cons j slots ih =>
    obtain ⟨middle, first, rest⟩ := fold_cons.mp ok
    obtain ⟨here, later⟩ := List.ne_and_not_mem_of_not_mem_cons apart
    exact fold_cons.mpr ⟨_, release_move first here, ih rest later⟩

theorem moved_pool_snoc : movedPool pool (movers ++ [i]) =
    moveSlot (movedPool pool movers) i (nextLink pool i) (nextPtr pool i)
      (nextCooldown pool i) := by
  have column {β : Type} (f g : Fin cap → β) :
      (fun j => if j ∈ movers ++ [i] then f j else g j) =
        Function.update (fun j => if j ∈ movers then f j else g j) i (f i) := by
    funext j
    by_cases here : j = i
    · subst here
      simp
    · simp [here]
  unfold movedPool moveSlot
  simp only [column]

theorem moved_pool_nil : movedPool pool [] = pool := by
  simp [movedPool]

theorem moved_pool_same (apart : i ∉ movers) : SameAt pool (movedPool pool movers) i := by
  constructor <;> simp [movedPool, apart]

end Release

/-- What is asked of a pool, its cached routes, the budgets and the skipped slots. -/
structure Ready (pool : ActiveAgentPool (SlotMemory ρ) cap) (movement completion : LinkBudget)
    (skip : Finset ℤ) : Prop where
  valid : validateActiveAgentPool pool = []
  readable : ∀ i, pool.aliveMask i = true → ∃ path, cachedRoute pool i = .ok path
  trip_nonneg : ∀ i, pool.aliveMask i = true → 0 ≤ pool.tripId i
  link_nonneg : ∀ i, pool.aliveMask i = true → 0 ≤ pool.currentLinkId i
  ptr_nonneg : ∀ i, pool.aliveMask i = true → 0 ≤ pool.remainingRoutePtr i
  cooldown_nonneg : ∀ i, pool.aliveMask i = true → 0 ≤ pool.rerouteCooldownTicks i
  route_nonneg : ∀ i, pool.aliveMask i = true → ∀ linkId ∈ route pool i, 0 ≤ linkId
  movement_nonneg : ∀ item ∈ movement.counts, 0 ≤ item.1
  completion_nonneg : ∀ item ∈ completion.counts, 0 ≤ item.1
  skip_nonneg : ∀ slotId ∈ skip, 0 ≤ slotId

/-- Every number that is handed to the compiled function has 32 bits. -/
structure Fits (pool : ActiveAgentPool (SlotMemory ρ) cap) (movement completion : LinkBudget)
    (skip : Finset ℤ) : Prop where
  capacity : (cap : ℤ) ≤ 2 ^ 31
  trip : ∀ i, pool.aliveMask i = true → Int32 (pool.tripId i)
  link : ∀ i, pool.aliveMask i = true → Int32 (pool.currentLinkId i)
  ptr : ∀ i, pool.aliveMask i = true → Int32 (pool.remainingRoutePtr i)
  cooldown : ∀ i, pool.aliveMask i = true → Int32 (pool.rerouteCooldownTicks i)
  route : ∀ i, pool.aliveMask i = true → ∀ linkId ∈ route pool i, Int32 linkId
  packed : (((aliveSlots pool).map (Columns.route pool)).flatten.length : ℤ) < 2 ^ 31
  movement : ∀ item ∈ movement.counts, Int32 item.1 ∧ item.2 < 2 ^ 31
  completion : ∀ item ∈ completion.counts, Int32 item.1 ∧ item.2 < 2 ^ 31
  skip : ∀ slotId ∈ skip, Int32 slotId

section Slots

variable {pool : ActiveAgentPool (SlotMemory ρ) cap} {skip : Finset ℤ}
  {movement completion : LinkBudget} {i : Fin cap} {past rest : List (Fin cap)} {a : Act}

def acting (pool : ActiveAgentPool (SlotMemory ρ) cap) (skip : Finset ℤ)
    (movement completion : LinkBudget) (a : Act) (slots : List (Fin cap)) : List (Fin cap) :=
  slots.filter fun i => act pool skip movement completion i = a

theorem mem_acting {slots : List (Fin cap)} :
    i ∈ acting pool skip movement completion a slots ↔
      i ∈ slots ∧ act pool skip movement completion i = a := by
  rw [acting, List.mem_filter, decide_eq_true_iff]

theorem acting_snoc : acting pool skip movement completion a (past ++ [i]) =
    acting pool skip movement completion a past ++
      if act pool skip movement completion i = a then [i] else [] := by
  unfold acting
  rw [List.filter_append, List.filter_singleton]
  split <;> simp_all

theorem acting_same (does : act pool skip movement completion i = a) :
    acting pool skip movement completion a (past ++ [i]) =
      acting pool skip movement completion a past ++ [i] := by
  rw [acting_snoc, if_pos does]

theorem acting_other {b : Act} (does : act pool skip movement completion i = a) (apart : a ≠ b) :
    acting pool skip movement completion b (past ++ [i]) =
      acting pool skip movement completion b past := by
  rw [acting_snoc, does, if_neg apart, List.append_nil]

theorem alive_slots_length (ready : Ready pool movement completion skip) :
    (aliveSlots pool).length = pool.aliveCount := by
  have clean : pool.packed.validateActiveAgentPool = [] :=
    List.map_eq_nil_iff.mp (List.append_eq_nil_iff.mp ready.valid).1
  have count : pool.aliveCount = (Finset.univ.filter fun i => pool.aliveMask i = true).card :=
    (PackedPool.Backed.of_validates clean).sound.alive_count
  have slots : (Finset.univ.filter fun i => pool.aliveMask i = true) =
      (aliveSlots pool).toFinset := by
    ext i
    rw [Finset.mem_filter, List.mem_toFinset, mem_alive_slots]
    exact and_iff_right (Finset.mem_univ i)
  rw [count, slots, List.toFinset_card_of_nodup (alive_slots_sorted.imp ne_of_lt)]

theorem past_apart (split : aliveSlots pool = past ++ i :: rest) : i ∉ past := by
  intro before
  have sorted : (aliveSlots pool).Pairwise (· < ·) := alive_slots_sorted
  rw [split] at sorted
  exact lt_irrefl i ((List.pairwise_append.mp sorted).2.2 i before i List.mem_cons_self)

theorem route_length_lt (fits : Fits pool movement completion skip)
    (alive : pool.aliveMask i = true) : ((route pool i).length : ℤ) < 2 ^ 31 := by
  obtain ⟨past, rest, split⟩ := List.append_of_mem (mem_alive_slots.mpr alive)
  have packed := fits.packed
  rw [split] at packed
  simp only [List.map_append, List.map_cons, List.flatten_append, List.flatten_cons,
    List.length_append] at packed
  omega

theorem route_read (ready : Ready pool movement completion skip)
    (alive : pool.aliveMask i = true) : cachedRoute pool i = .ok (route pool i) := by
  obtain ⟨path, read⟩ := ready.readable i alive
  rw [route, read]
  rfl

theorem release_exists (room : pool.freeSlotCount < cap) :
    ∃ pool', releaseSlot pool i = .ok pool' :=
  ⟨_, release_slot_ok.mpr ⟨room, rfl⟩⟩

end Slots

namespace Host

variable {pool : ActiveAgentPool (SlotMemory ρ) cap} {skip : Finset ℤ}
  {movement completion : LinkBudget} {i : Fin cap} {past rest : List (Fin cap)}
  {s : AdvanceState ρ cap}

/-- The loop after some of the slots. -/
structure Visited (pool : ActiveAgentPool (SlotMemory ρ) cap) (skip : Finset ℤ)
    (movement completion : LinkBudget) (past : List (Fin cap)) (s : AdvanceState ρ cap) :
    Prop where
  pool_eq : releaseAll (movedPool pool (acting pool skip movement completion .move past))
    (acting pool skip movement completion .leave past) = .ok s.advanced.pool
  counters : s.advanced.counters =
    tickCounters (acting pool skip movement completion .move past).length
      (acting pool skip movement completion .wait past).length
  completed : s.advanced.completedTripIds =
    ((acting pool skip movement completion .leave past).map pool.tripId).toFinset
  moving : Left (wantsMove pool skip) movement.at past fun linkId =>
    (s.remainingBudget.get linkId).getD 0
  ending : Left (wantsEnd pool skip) completion.at past fun linkId =>
    (s.remainingCompletionBudget.get linkId).getD 0

theorem count_moved {moved waited : ℕ} : (tickCounters moved waited).set movedKey
    ((tickCounters moved waited).at movedKey + 1) = tickCounters (moved + 1) waited := by
  rfl

theorem count_waited {moved waited : ℕ} : (tickCounters moved waited).set sinkWaitKey
    ((tickCounters moved waited).at sinkWaitKey + 1) = tickCounters moved (waited + 1) := by
  rfl

theorem get_set_left {budget : Dict ℤ ℤ} {linkId value : ℤ} :
    (fun other => ((budget.set linkId value).get other).getD 0) =
      Function.update (fun other => (budget.get other).getD 0) linkId value := by
  funext other
  rw [Dict.get_set, Function.update_apply]
  split <;> rfl

theorem column_set {column : Fin cap → ℤ} {value : ℤ} (fits : Int32 value) :
    (arraySet1d column i value).mapError AdvanceError.column =
      .ok (Function.update column i value) := by
  rw [array_set_ok.mpr ⟨fits, rfl⟩]
  rfl

theorem completed_snoc {slots : List (Fin cap)} :
    insert (pool.tripId i) (slots.map pool.tripId).toFinset =
      ((slots ++ [i]).map pool.tripId).toFinset := by
  ext tripId
  simp [eq_comm]

theorem route_link_next (nonneg : 0 ≤ pool.remainingRoutePtr i) (before : ¬ AtEnd pool i) :
    routeLink (route pool i) (pool.remainingRoutePtr i + 1) = .ok (nextLink pool i) ∧
      nextLink pool i ∈ route pool i := by
  unfold AtEnd at before
  have inside : (pool.remainingRoutePtr i).toNat + 1 < (route pool i).length := by omega
  have position : (pool.remainingRoutePtr i + 1).toNat = (pool.remainingRoutePtr i).toNat + 1 := by
    omega
  have found : nextLink pool i = (route pool i)[(pool.remainingRoutePtr i).toNat + 1] := by
    rw [nextLink, List.getD_eq_getElem?_getD, List.getElem?_eq_getElem inside, Option.getD_some]
  refine ⟨?_, found ▸ List.getElem_mem inside⟩
  unfold routeLink
  rw [if_neg (by omega : ¬ pool.remainingRoutePtr i + 1 < 0)]
  dsimp only
  rw [if_neg (by omega : ¬ pool.remainingRoutePtr i + 1 < 0), position,
    List.getElem?_eq_getElem inside, found]

variable (ready : Ready pool movement completion skip) (fits : Fits pool movement completion skip)
  (split : aliveSlots pool = past ++ i :: rest)
  (h : Visited pool skip movement completion past s)

include split h in
theorem Visited.same : SameAt pool s.advanced.pool i := by
  have apart := past_apart split
  exact (moved_pool_same fun there => apart (mem_acting.mp there).1).trans
    (release_all_same h.pool_eq fun there => apart (mem_acting.mp there).1)

include split h in
theorem Visited.read (ready : Ready pool movement completion skip) :
    cachedRoute s.advanced.pool i = .ok (route pool i) := by
  have alive : pool.aliveMask i = true :=
    mem_alive_slots.mp (split ▸ List.mem_append_right past List.mem_cons_self)
  rw [← route_read ready alive]
  unfold cachedRoute
  rw [(h.same split).memory]

include ready split h in
theorem Visited.released (does : act pool skip movement completion i = .leave) :
    ∃ pool', releaseSlot s.advanced.pool i = .ok pool' ∧
      releaseAll (movedPool pool (acting pool skip movement completion .move (past ++ [i])))
        (acting pool skip movement completion .leave (past ++ [i])) = .ok pool' := by
  have count := release_all_count h.pool_eq
  have slots := alive_slots_length ready
  have total := pool.counts
  have listed : (acting pool skip movement completion .leave past).length ≤ past.length :=
    List.length_filter_le _ _
  rw [split, List.length_append, List.length_cons] at slots
  change s.advanced.pool.freeSlotCount = pool.freeSlotCount + _ at count
  have room : s.advanced.pool.freeSlotCount < cap := by omega
  obtain ⟨pool', ok⟩ : ∃ pool', releaseSlot s.advanced.pool i = .ok pool' := release_exists room
  refine ⟨pool', ok, ?_⟩
  rw [acting_same does, acting_other does (by decide)]
  exact fold_append.mpr ⟨_, h.pool_eq, fold_cons.mpr ⟨pool', ok, rfl⟩⟩

include ready fits split h in
theorem visit_slot : ∃ s', visitSlot skip s i = .ok s' ∧
    Visited pool skip movement completion (past ++ [i]) s' := by
  have alive : pool.aliveMask i = true :=
    mem_alive_slots.mp (split ▸ List.mem_append_right past List.mem_cons_self)
  have same := h.same split
  have read := h.read split ready
  unfold visitSlot
  rcases course split h.moving h.ending with ⟨skips, does, moving, ending⟩ |
    ⟨runs, lost, does, moving, ending⟩ | ⟨runs, routed, last, out, does, moving, ending⟩ |
    ⟨runs, routed, last, some_left, does, moving, ending⟩ |
    ⟨runs, routed, before, out, does, moving, ending⟩ |
    ⟨runs, routed, before, some_left, does, moving, ending⟩
  · rw [if_pos skips]
    refine ⟨s, rfl, ?_, ?_, ?_, moving, ending⟩
    · rw [acting_other does (by decide), acting_other does (by decide), h.pool_eq]
    · rw [acting_other does (by decide), acting_other does (by decide), h.counters]
    · rw [acting_other does (by decide), h.completed]
  · obtain ⟨pool', ok, released⟩ := h.released ready split does
    rw [if_neg runs]
    dsimp only
    rw [read, ok_bind, if_pos lost]
    refine ⟨_, bind_ok.mpr ⟨pool', ok, rfl⟩, released, ?_, ?_, moving, ending⟩
    · rw [acting_other does (by decide), acting_other does (by decide), h.counters]
    · rw [acting_same does, same.trip, h.completed]
      exact completed_snoc
  · unfold AtEnd at last
    rw [if_neg runs]
    dsimp only
    rw [read, ok_bind, if_neg routed, same.ptr, if_pos last, same.link, if_pos out]
    refine ⟨_, rfl, ?_, ?_, ?_, moving, ending⟩
    · rw [acting_other does (by decide), acting_other does (by decide), h.pool_eq]
    · rw [acting_other does (by decide), acting_same does, h.counters, List.length_append,
        count_waited]
      rfl
    · rw [acting_other does (by decide), h.completed]
  · obtain ⟨pool', ok, released⟩ := h.released ready split does
    unfold AtEnd at last
    rw [if_neg runs]
    dsimp only
    rw [read, ok_bind, if_neg routed, same.ptr, if_pos last, same.link, if_neg some_left.not_ge]
    refine ⟨_, bind_ok.mpr ⟨pool', ok, rfl⟩, released, ?_, ?_, moving, ?_⟩
    · rw [acting_other does (by decide), acting_other does (by decide), h.counters]
    · rw [acting_same does, same.trip, h.completed]
      exact completed_snoc
    · exact get_set_left ▸ ending
  · unfold AtEnd at before
    rw [if_neg runs]
    dsimp only
    rw [read, ok_bind, if_neg routed, same.ptr, if_neg before, same.link, if_pos out]
    refine ⟨s, rfl, ?_, ?_, ?_, moving, ending⟩
    · rw [acting_other does (by decide), acting_other does (by decide), h.pool_eq]
    · rw [acting_other does (by decide), acting_other does (by decide), h.counters]
    · rw [acting_other does (by decide), h.completed]
  · obtain ⟨link, listed⟩ := route_link_next (ready.ptr_nonneg i alive) before
    have ptr_fits : Int32 (pool.remainingRoutePtr i + 1) := by
      have nonneg := ready.ptr_nonneg i alive
      have length := route_length_lt fits alive
      unfold AtEnd at before
      exact ⟨by omega, by omega⟩
    have cooldown_fits : Int32 (max 0 (pool.rerouteCooldownTicks i - 1)) := by
      have bound := (fits.cooldown i alive).2
      exact ⟨by omega, by omega⟩
    have apart : i ∉ acting pool skip movement completion .leave past :=
      fun there => past_apart split (mem_acting.mp there).1
    unfold AtEnd at before
    rw [if_neg runs]
    dsimp only
    rw [read, ok_bind, if_neg routed, same.ptr, if_neg before, same.link, if_neg some_left.not_ge,
      column_set ptr_fits, ok_bind, link, ok_bind, column_set (fits.route i alive _ listed),
      ok_bind, same.cooldown, column_set cooldown_fits, ok_bind]
    refine ⟨_, rfl, ?_, ?_, ?_, ?_, ending⟩
    · rw [acting_same does, acting_other does (by decide), moved_pool_snoc]
      exact release_all_move h.pool_eq apart
    · rw [acting_same does, acting_other does (by decide), h.counters, List.length_append,
        count_moved]
      rfl
    · rw [acting_other does (by decide), h.completed]
    · exact get_set_left ▸ moving

include ready fits in
omit split h in
theorem advance_pool_visits : ∃ s, advancePoolAlongCachedRoutes pool movement completion skip =
      .ok s.advanced ∧ Visited pool skip movement completion (aliveSlots pool) s := by
  have start : Visited pool skip movement completion []
      ⟨⟨pool, agentTickCounters, ∅⟩, movement.clamped, completion.clamped⟩ := by
    refine ⟨congrArg Except.ok moved_pool_nil, rfl, rfl, ?_, ?_⟩
    · simpa only [clamped_get] using Left.start
    · simpa only [clamped_get] using Left.start
  obtain ⟨s, run, visited⟩ := fold_total (I := Visited pool skip movement completion)
    (fun past i rest s split h => visit_slot ready fits split h) start
  exact ⟨s, bind_ok.mpr ⟨s, run, rfl⟩, visited⟩

end Host

end Metroflow.Sim.Columns
