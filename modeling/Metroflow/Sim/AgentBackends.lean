import Metroflow.Sim.AgentCourses

namespace Metroflow.Sim.Columns

open Metroflow.Lib Metroflow.Timing

variable {ρ : Type} {cap : ℕ}

namespace Rust

section Budgets

variable {budget : LinkBudget} {linkId : ℤ} {items : List (ℤ × ℤ)}

theorem collect_budget (distinct : (items.map Prod.fst).Nodup) : collectBudget items = items := by
  unfold collectBudget
  induction items using List.reverseRecOn with
  | nil => rfl
  | append_singleton items item ih =>
    rw [List.map_append, List.map_singleton] at distinct
    obtain ⟨before, -, apart⟩ := List.nodup_append.mp distinct
    have fresh : Dict.get items item.1 = none := by
      by_contra known
      exact apart _ (Dict.mem_keys_iff.mpr (Option.ne_none_iff_exists'.mp known)) _
        (List.mem_singleton_self _) rfl
    rw [List.foldl_append, ih before, List.foldl_cons, List.foldl_nil, fresh, Option.getD_none,
      zero_add]
    exact Dict.set_of_get_none fresh

theorem budget_items_distinct : ((budgetItems budget).map Prod.fst).Nodup := by
  unfold budgetItems
  rw [List.map_map]
  exact (sort_on_perm.map Prod.fst).nodup_iff.mpr budget.distinct

theorem budget_items_zip :
    ((budgetItems budget).map Prod.fst).zip ((budgetItems budget).map Prod.snd) =
      budgetItems budget := by
  rw [List.zip_map']
  exact List.map_id _

theorem budget_items_get :
    (Dict.get (collectBudget (((budgetItems budget).map Prod.fst).zip
      ((budgetItems budget).map Prod.snd))) linkId).getD 0 = max 0 (budget.at linkId) := by
  rw [budget_items_zip, collect_budget budget_items_distinct, ← clamped_get]
  unfold budgetItems LinkBudget.clamped
  rw [Dict.get_map_values, Dict.get_map_values,
    Dict.get_of_perm sort_on_perm ((sort_on_perm.map Prod.fst).nodup_iff.mpr budget.distinct)]

theorem mem_budget_items {item : ℤ × ℤ} (listed : item ∈ budgetItems budget) :
    ∃ count, (item.1, count) ∈ budget.counts ∧ item.2 = max 0 count := by
  obtain ⟨original, there, rfl⟩ := List.mem_map.mp listed
  exact ⟨original.2, mem_sort_on.mp there, rfl⟩

end Budgets

section Columns

variable {slots past rest : List (Fin cap)} {i : Fin cap} {new old : Fin cap → ℤ}

def columnAfter (slots past : List (Fin cap)) (new old : Fin cap → ℤ) : List ℤ :=
  past.map new ++ (slots.drop past.length).map old

theorem column_after_all : columnAfter slots slots new old = slots.map new := by
  rw [columnAfter, List.drop_length, List.map_nil, List.append_nil]

theorem column_after_set (split : slots = past ++ i :: rest) :
    (columnAfter slots past new old).set past.length (new i) =
      columnAfter slots (past ++ [i]) new old := by
  subst split
  simp [columnAfter, List.drop_append]

theorem column_after_same (split : slots = past ++ i :: rest) (same : new i = old i) :
    columnAfter slots past new old = columnAfter slots (past ++ [i]) new old := by
  subst split
  simp [columnAfter, List.drop_append, same]

theorem column_at (split : slots = past ++ i :: rest) (column : Fin cap → ℤ) :
    (slots.map column).getD past.length 0 = column i := by
  subst split
  simp [List.getD]

end Columns

section Packing

variable {pool : ActiveAgentPool (SlotMemory ρ) cap} {slots past rest : List (Fin cap)}
  {i : Fin cap} {k l : ℕ}

/-- Where the cached route of a slot begins in the packed list. -/
def offset (pool : ActiveAgentPool (SlotMemory ρ) cap) (slots : List (Fin cap)) (k : ℕ) : ℕ :=
  ((slots.take k).map (route pool)).flatten.length

def offsets (pool : ActiveAgentPool (SlotMemory ρ) cap) (slots : List (Fin cap)) : List ℤ :=
  (List.range (slots.length + 1)).map fun k => (offset pool slots k : ℤ)

theorem offsets_at (inside : k ≤ slots.length) :
    (offsets pool slots).getD k 0 = offset pool slots k := by
  have position : k < slots.length + 1 := by omega
  simp [offsets, List.getD, position]

theorem offset_mono (h : k ≤ l) : offset pool slots k ≤ offset pool slots l := by
  unfold offset
  obtain ⟨more, split⟩ := List.take_prefix_take_left (l := slots) h
  rw [← split, List.map_append, List.flatten_append, List.length_append]
  exact Nat.le_add_right _ _

theorem offset_le : offset pool slots k ≤ ((slots.map (route pool)).flatten).length := by
  have total : offset pool slots (max k slots.length) =
      ((slots.map (route pool)).flatten).length := by
    rw [offset, List.take_of_length_le (le_max_right _ _)]
  exact total ▸ offset_mono (le_max_left _ _)

theorem packed_route (split : slots = past ++ i :: rest) :
    (((slots.map (route pool)).flatten.take (offset pool slots (past.length + 1))).drop
      (offset pool slots past.length)) = route pool i := by
  subst split
  have before : offset pool (past ++ i :: rest) past.length =
      ((past.map (route pool)).flatten).length := by
    rw [offset, List.take_left]
  have after : offset pool (past ++ i :: rest) (past.length + 1) =
      ((past.map (route pool)).flatten).length + (route pool i).length := by
    rw [offset, List.take_append, List.take_of_length_le (by omega), Nat.add_sub_cancel_left]
    simp
  rw [before, after, List.map_append, List.map_cons, List.flatten_append, List.flatten_cons]
  simp [List.take_append]

theorem pack_routes {movement completion : LinkBudget} {skip : Finset ℤ}
    (ready : Ready pool movement completion skip) (alive : ∀ i ∈ slots, pool.aliveMask i = true) :
    packRoutes pool slots = .ok ((slots.map (route pool)).flatten, offsets pool slots) := by
  unfold packRoutes
  induction slots using List.reverseRecOn with
  | nil => rfl
  | append_singleton slots i ih =>
    rw [List.forall_mem_append] at alive
    refine fold_append.mpr ⟨_, ih alive.1, fold_cons.mpr ⟨_, ?_, rfl⟩⟩
    dsimp only
    rw [route_read ready (alive.2 i (List.mem_singleton_self i)), ok_bind]
    have earlier : ∀ k ∈ List.range (slots.length + 1),
        (offset pool slots k : ℤ) = offset pool (slots ++ [i]) k := by
      intro k inside
      rw [List.mem_range] at inside
      rw [offset, offset, List.take_append_of_le_length (by omega)]
    have last : offset pool (slots ++ [i]) (slots.length + 1) =
        ((slots.map (route pool)).flatten ++ route pool i).length := by
      rw [offset, List.take_of_length_le (by simp)]
      simp
    have next : offsets pool (slots ++ [i]) = offsets pool slots ++
        [(((slots.map (route pool)).flatten ++ route pool i).length : ℤ)] := by
      rw [offsets, offsets, List.length_append, List.length_singleton, List.range_succ,
        List.map_append, List.map_singleton, last, List.map_congr_left earlier]
    exact congrArg Except.ok (Prod.ext (by simp) next.symm)

end Packing

section Checks

variable {pool : ActiveAgentPool (SlotMemory ρ) cap} {movement completion : LinkBudget}
  {skip : Finset ℤ}

def poolBatch (pool : ActiveAgentPool (SlotMemory ρ) cap) (movement completion : LinkBudget)
    (skip : Finset ℤ) : AgentBatch where
  slotIds := (aliveSlots pool).map slotNumber
  tripIds := (aliveSlots pool).map pool.tripId
  currentLinkIds := (aliveSlots pool).map pool.currentLinkId
  routePtrs := (aliveSlots pool).map pool.remainingRoutePtr
  cooldownTicks := (aliveSlots pool).map pool.rerouteCooldownTicks
  routeOffsets := offsets pool (aliveSlots pool)
  routeLinkIds := ((aliveSlots pool).map (route pool)).flatten
  movementBudgetLinkIds := (budgetItems movement).map Prod.fst
  movementBudgetCounts := (budgetItems movement).map Prod.snd
  completionBudgetLinkIds := (budgetItems completion).map Prod.fst
  completionBudgetCounts := (budgetItems completion).map Prod.snd
  skipSlotIds := skip.sort (· ≤ ·)

theorem check_length_ok {count : ℕ} {column : String × ℕ} (same : column.2 = count) :
    checkLength count column = .ok ⟨⟩ := if_neg (not_not.mpr same)

theorem check_non_negative_ok {column : String × List ℤ} (nonneg : ∀ value ∈ column.2, 0 ≤ value) :
    checkNonNegative column = .ok ⟨⟩ :=
  if_neg fun ⟨_, there, below⟩ => below.not_ge (nonneg _ there)

theorem check_offsets (pool : ActiveAgentPool (SlotMemory ρ) cap) (slots : List (Fin cap)) :
    ∃ last, (offsets pool slots).foldlM
      (checkOffset ((slots.map (route pool)).flatten).length) 0 = .ok last := by
  obtain ⟨last, run, -⟩ := fold_total (l := offsets pool slots) (s := 0)
    (f := checkOffset ((slots.map (route pool)).flatten).length)
    (I := fun past previous => previous = (offset pool slots (past.length - 1) : ℤ))
    (fun past o rest previous split h => by
      have position : past.length ≤ slots.length := by
        have length := congrArg List.length split
        simp only [offsets, List.length_map, List.length_range, List.length_append,
          List.length_cons] at length
        omega
      have here : o = (offset pool slots past.length : ℤ) := by
        rw [← offsets_at position, split]
        simp [List.getD]
      have rises : offset pool slots (past.length - 1) ≤ offset pool slots past.length :=
        offset_mono (Nat.sub_le past.length 1)
      have inside : offset pool slots past.length ≤ ((slots.map (route pool)).flatten).length :=
        offset_le
      refine ⟨o, ?_, ?_⟩
      · unfold checkOffset
        rw [if_neg (by omega), if_neg (by omega)]
      · rw [here, List.length_append, List.length_singleton, Nat.add_sub_cancel])
    (by simp [offset])
  exact ⟨last, run⟩

/-- What the compiled function asks of its lists. -/
structure Accepted (b : AgentBatch) : Prop where
  trips : b.tripIds.length = b.slotIds.length
  links : b.currentLinkIds.length = b.slotIds.length
  ptrs : b.routePtrs.length = b.slotIds.length
  cooldowns : b.cooldownTicks.length = b.slotIds.length
  offsets : b.routeOffsets.length = b.slotIds.length + 1
  movement : b.movementBudgetLinkIds.length = b.movementBudgetCounts.length
  completion : b.completionBudgetLinkIds.length = b.completionBudgetCounts.length
  rising : ∃ last, b.routeOffsets.foldlM (checkOffset b.routeLinkIds.length) 0 = .ok last
  last : (b.routeOffsets.getLast?.getD 0).toNat = b.routeLinkIds.length
  nonneg : ∀ values ∈ [b.slotIds, b.tripIds, b.currentLinkIds, b.routePtrs, b.cooldownTicks,
    b.routeLinkIds, b.movementBudgetLinkIds, b.movementBudgetCounts, b.completionBudgetLinkIds,
    b.completionBudgetCounts, b.skipSlotIds], ∀ value ∈ values, 0 ≤ value

theorem check_batch {b : AgentBatch} (h : Accepted b) : checkBatch b = .ok ⟨⟩ := by
  have pass {p : Prop} [Decidable p] {e : String} (no : ¬ p) :
      raiseIf p e = .ok (PUnit.unit : Unit) := if_neg no
  obtain ⟨last, rising⟩ := h.rising
  have nonneg := h.nonneg
  unfold checkBatch
  dsimp only
  refine bind_ok.mpr ⟨⟨⟩, each_ok.mpr ?_, bind_ok.mpr ⟨_, pass (not_not.mpr h.offsets),
    bind_ok.mpr ⟨_, pass (not_not.mpr h.movement), bind_ok.mpr ⟨_, pass (not_not.mpr h.completion),
      bind_ok.mpr ⟨last, rising, bind_ok.mpr ⟨_, pass (not_not.mpr h.last), each_ok.mpr ?_⟩⟩⟩⟩⟩⟩
  · simp only [List.forall_mem_cons, List.not_mem_nil, false_imp_iff, implies_true, and_true]
    exact ⟨check_length_ok h.trips, check_length_ok h.links, check_length_ok h.ptrs,
      check_length_ok h.cooldowns⟩
  · simp only [List.forall_mem_cons, List.not_mem_nil, false_imp_iff, implies_true, and_true]
      at nonneg ⊢
    obtain ⟨h₁, h₂, h₃, h₄, h₅, h₆, h₇, h₈, h₉, h₁₀, h₁₁⟩ := nonneg
    exact ⟨check_non_negative_ok h₁, check_non_negative_ok h₂, check_non_negative_ok h₃,
      check_non_negative_ok h₄, check_non_negative_ok h₅, check_non_negative_ok h₆,
      check_non_negative_ok h₇, check_non_negative_ok h₈, check_non_negative_ok h₉,
      check_non_negative_ok h₁₀, check_non_negative_ok h₁₁⟩

theorem budget_nonneg {budget : LinkBudget} (nonneg : ∀ item ∈ budget.counts, 0 ≤ item.1) :
    (∀ linkId ∈ (budgetItems budget).map Prod.fst, 0 ≤ linkId) ∧
      ∀ count ∈ (budgetItems budget).map Prod.snd, 0 ≤ count := by
  constructor
  · refine List.forall_mem_map.mpr fun item there => ?_
    obtain ⟨count, listed, -⟩ := mem_budget_items there
    exact nonneg (item.1, count) listed
  · refine List.forall_mem_map.mpr fun item there => ?_
    obtain ⟨count, -, same⟩ := mem_budget_items there
    exact same ▸ le_max_left 0 count

theorem pool_batch_accepted (ready : Ready pool movement completion skip) :
    Accepted (poolBatch pool movement completion skip) := by
  have alive {i : Fin cap} (there : i ∈ aliveSlots pool) := mem_alive_slots.mp there
  have offset_last : (offsets pool (aliveSlots pool)).getLast?.getD 0 =
      (((aliveSlots pool).map (route pool)).flatten.length : ℤ) := by
    rw [offsets, List.range_succ, List.map_append, List.map_singleton, List.getLast?_concat,
      Option.getD_some, offset, List.take_length]
  obtain ⟨movement_ids, movement_counts⟩ := budget_nonneg ready.movement_nonneg
  obtain ⟨completion_ids, completion_counts⟩ := budget_nonneg ready.completion_nonneg
  refine ⟨by simp [poolBatch], by simp [poolBatch], by simp [poolBatch], by simp [poolBatch],
    by simp [poolBatch, offsets], by simp [poolBatch], by simp [poolBatch],
    check_offsets pool (aliveSlots pool), ?_, ?_⟩
  · exact (congrArg Int.toNat offset_last).trans (Int.toNat_natCast _)
  · simp only [List.forall_mem_cons, List.not_mem_nil, false_imp_iff, implies_true, and_true]
    refine ⟨?_, ?_, ?_, ?_, ?_, ?_, movement_ids, movement_counts, completion_ids,
      completion_counts, ?_⟩
    · exact List.forall_mem_map.mpr fun i _ => Int.natCast_nonneg _
    · exact List.forall_mem_map.mpr fun i there => ready.trip_nonneg i (alive there)
    · exact List.forall_mem_map.mpr fun i there => ready.link_nonneg i (alive there)
    · exact List.forall_mem_map.mpr fun i there => ready.ptr_nonneg i (alive there)
    · exact List.forall_mem_map.mpr fun i there => ready.cooldown_nonneg i (alive there)
    · intro linkId there
      obtain ⟨path, listed, there⟩ := List.mem_flatten.mp there
      obtain ⟨i, here, rfl⟩ := List.mem_map.mp listed
      exact ready.route_nonneg i (alive here) linkId there
    · exact fun slotId there => ready.skip_nonneg slotId ((Finset.mem_sort _).mp there)

theorem as_i32_agent_list {values : List ℤ} (fits : ∀ value ∈ values, Int32 value) :
    asI32AgentList values = .ok values := by
  have none_wide : values.find? (fun value => ¬ Int32 value) = none :=
    List.find?_eq_none.mpr fun value there => by simpa using fits value there
  rw [asI32AgentList, none_wide]

theorem budget_fits {budget : LinkBudget}
    (fits : ∀ item ∈ budget.counts, Int32 item.1 ∧ item.2 < 2 ^ 31) :
    (∀ linkId ∈ (budgetItems budget).map Prod.fst, Int32 linkId) ∧
      ∀ count ∈ (budgetItems budget).map Prod.snd, Int32 count := by
  constructor
  · refine List.forall_mem_map.mpr fun item there => ?_
    obtain ⟨count, listed, -⟩ := mem_budget_items there
    exact (fits _ listed).1
  · refine List.forall_mem_map.mpr fun item there => ?_
    obtain ⟨count, listed, same⟩ := mem_budget_items there
    have below := (fits _ listed).2
    rw [same]
    exact ⟨by omega, max_lt (by norm_num) below⟩

theorem advance_agents_rust (fits : Fits pool movement completion skip) :
    advanceActiveAgentsRust (poolBatch pool movement completion skip) =
      (advanceActiveAgentsBatchImpl (poolBatch pool movement completion skip)).mapError
        fun reason => .backend ("Rust CPU active-agent backend failed: " ++ reason) := by
  have alive {i : Fin cap} (there : i ∈ aliveSlots pool) := mem_alive_slots.mp there
  obtain ⟨movement_ids, movement_counts⟩ := budget_fits fits.movement
  obtain ⟨completion_ids, completion_counts⟩ := budget_fits fits.completion
  have slots : ∀ value ∈ (aliveSlots pool).map slotNumber, Int32 value := by
    refine List.forall_mem_map.mpr fun i _ => ?_
    have inside : (i.val : ℤ) < cap := Int.ofNat_lt.mpr i.isLt
    have bound := fits.capacity
    exact ⟨by simp only [slotNumber]; omega, by simp only [slotNumber]; omega⟩
  have packed : ∀ value ∈ offsets pool (aliveSlots pool), Int32 value := by
    refine List.forall_mem_map.mpr fun k _ => ?_
    have inside : (offset pool (aliveSlots pool) k : ℤ) ≤
        ((aliveSlots pool).map (route pool)).flatten.length := Int.ofNat_le.mpr offset_le
    have bound := fits.packed
    exact ⟨by omega, by omega⟩
  have links : ∀ value ∈ ((aliveSlots pool).map (route pool)).flatten, Int32 value := by
    intro linkId there
    obtain ⟨path, listed, there⟩ := List.mem_flatten.mp there
    obtain ⟨i, here, rfl⟩ := List.mem_map.mp listed
    exact fits.route i (alive here) linkId there
  have skips : ∀ value ∈ skip.sort (· ≤ ·), Int32 value :=
    fun slotId there => fits.skip slotId ((Finset.mem_sort _).mp there)
  have column {f : Fin cap → ℤ} (h : ∀ i, pool.aliveMask i = true → Int32 (f i)) :
      ∀ value ∈ (aliveSlots pool).map f, Int32 value :=
    List.forall_mem_map.mpr fun i there => h i (alive there)
  unfold advanceActiveAgentsRust poolBatch
  dsimp only
  rw [as_i32_agent_list slots, ok_bind, as_i32_agent_list (column fits.trip), ok_bind,
    as_i32_agent_list (column fits.link), ok_bind, as_i32_agent_list (column fits.ptr), ok_bind,
    as_i32_agent_list (column fits.cooldown), ok_bind, as_i32_agent_list packed, ok_bind,
    as_i32_agent_list links, ok_bind, as_i32_agent_list movement_ids, ok_bind,
    as_i32_agent_list movement_counts, ok_bind, as_i32_agent_list completion_ids, ok_bind,
    as_i32_agent_list completion_counts, ok_bind, as_i32_agent_list skips, ok_bind]

end Checks

section Kernel

variable {pool : ActiveAgentPool (SlotMemory ρ) cap} {skip : Finset ℤ}
  {movement completion : LinkBudget} {i : Fin cap} {past rest : List (Fin cap)} {s : BatchState}

/-- What a slot holds next of a column that moving changes. -/
def nextOf (pool : ActiveAgentPool (SlotMemory ρ) cap) (skip : Finset ℤ)
    (movement completion : LinkBudget) (new old : Fin cap → ℤ) (i : Fin cap) : ℤ :=
  if act pool skip movement completion i = .move then new i else old i

/-- The loop of the compiled function after some of the slots. -/
structure Planned (pool : ActiveAgentPool (SlotMemory ρ) cap) (skip : Finset ℤ)
    (movement completion : LinkBudget) (past : List (Fin cap)) (s : BatchState) : Prop where
  links : s.result.nextCurrentLinkIds = columnAfter (aliveSlots pool) past
    (nextOf pool skip movement completion (nextLink pool) pool.currentLinkId) pool.currentLinkId
  ptrs : s.result.nextRoutePtrs = columnAfter (aliveSlots pool) past
    (nextOf pool skip movement completion (nextPtr pool) pool.remainingRoutePtr)
    pool.remainingRoutePtr
  cooldowns : s.result.nextCooldownTicks = columnAfter (aliveSlots pool) past
    (nextOf pool skip movement completion (nextCooldown pool) pool.rerouteCooldownTicks)
    pool.rerouteCooldownTicks
  moved : s.result.movedSlotIds =
    (acting pool skip movement completion .move past).map slotNumber
  waited : s.result.sinkWaitSlotIds =
    (acting pool skip movement completion .wait past).map slotNumber
  released : s.result.releasedSlotIds =
    (acting pool skip movement completion .leave past).map slotNumber
  completed : s.result.completedTripIds =
    (acting pool skip movement completion .leave past).map pool.tripId
  moving : Left (wantsMove pool skip) movement.at past fun linkId =>
    (s.movementBudget.get linkId).getD 0
  ending : Left (wantsEnd pool skip) completion.at past fun linkId =>
    (s.completionBudget.get linkId).getD 0

theorem next_of_other {new old : Fin cap → ℤ} {a : Act}
    (does : act pool skip movement completion i = a) (apart : a ≠ .move) :
    nextOf pool skip movement completion new old i = old i :=
  if_neg (does ▸ apart)

theorem next_of_move {new old : Fin cap → ℤ}
    (does : act pool skip movement completion i = .move) :
    nextOf pool skip movement completion new old i = new i :=
  if_pos does

variable (ready : Ready pool movement completion skip)
  (split : aliveSlots pool = past ++ i :: rest)
  (h : Planned pool skip movement completion past s)

include split h in
theorem Planned.columns {a : Act} (does : act pool skip movement completion i = a)
    (apart : a ≠ .move) :
    s.result.nextCurrentLinkIds = columnAfter (aliveSlots pool) (past ++ [i])
        (nextOf pool skip movement completion (nextLink pool) pool.currentLinkId)
        pool.currentLinkId ∧
      s.result.nextRoutePtrs = columnAfter (aliveSlots pool) (past ++ [i])
        (nextOf pool skip movement completion (nextPtr pool) pool.remainingRoutePtr)
        pool.remainingRoutePtr ∧
      s.result.nextCooldownTicks = columnAfter (aliveSlots pool) (past ++ [i])
        (nextOf pool skip movement completion (nextCooldown pool) pool.rerouteCooldownTicks)
        pool.rerouteCooldownTicks :=
  ⟨h.links.trans (column_after_same split (next_of_other does apart)),
    h.ptrs.trans (column_after_same split (next_of_other does apart)),
    h.cooldowns.trans (column_after_same split (next_of_other does apart))⟩

include ready split h in
theorem advance_slot : Planned pool skip movement completion (past ++ [i])
    (advanceSlot (poolBatch pool movement completion skip) s past.length) := by
  have alive : pool.aliveMask i = true :=
    mem_alive_slots.mp (split ▸ List.mem_append_right past List.mem_cons_self)
  have nonneg := ready.ptr_nonneg i alive
  have inside : past.length + 1 ≤ (aliveSlots pool).length := by
    rw [split, List.length_append, List.length_cons]
    omega
  have number : (poolBatch pool movement completion skip).slotIds.getD past.length 0 =
      slotNumber i := column_at split _
  have trip : (poolBatch pool movement completion skip).tripIds.getD past.length 0 =
      pool.tripId i := column_at split _
  have link : (poolBatch pool movement completion skip).currentLinkIds.getD past.length 0 =
      pool.currentLinkId i := column_at split _
  have ptr : (poolBatch pool movement completion skip).routePtrs.getD past.length 0 =
      pool.remainingRoutePtr i := column_at split _
  have cooldown : (poolBatch pool movement completion skip).cooldownTicks.getD past.length 0 =
      pool.rerouteCooldownTicks i := column_at split _
  have start : (poolBatch pool movement completion skip).routeOffsets.getD past.length 0 =
      offset pool (aliveSlots pool) past.length := offsets_at (by omega)
  have stop : (poolBatch pool movement completion skip).routeOffsets.getD (past.length + 1) 0 =
      offset pool (aliveSlots pool) (past.length + 1) := offsets_at inside
  have path : ((poolBatch pool movement completion skip).routeLinkIds.take
      (offset pool (aliveSlots pool) (past.length + 1))).drop
        (offset pool (aliveSlots pool) past.length) = route pool i := packed_route split
  have skipped : slotNumber i ∈ (poolBatch pool movement completion skip).skipSlotIds ↔
      slotNumber i ∈ skip := Finset.mem_sort _
  unfold advanceSlot
  dsimp only
  rw [number, trip, link, ptr, cooldown, start, stop, Int.toNat_natCast, Int.toNat_natCast, path]
  rcases course split h.moving h.ending with ⟨skips, does, moving, ending⟩ |
    ⟨runs, lost, does, moving, ending⟩ | ⟨runs, routed, last, out, does, moving, ending⟩ |
    ⟨runs, routed, last, some_left, does, moving, ending⟩ |
    ⟨runs, routed, before, out, does, moving, ending⟩ |
    ⟨runs, routed, before, some_left, does, moving, ending⟩
  · obtain ⟨links, ptrs, cooldowns⟩ := h.columns split does (by decide)
    rw [if_pos (skipped.mpr skips)]
    refine ⟨links, ptrs, cooldowns, ?_, ?_, ?_, ?_, moving, ending⟩
    · rw [acting_other does (by decide), h.moved]
    · rw [acting_other does (by decide), h.waited]
    · rw [acting_other does (by decide), h.released]
    · rw [acting_other does (by decide), h.completed]
  · obtain ⟨links, ptrs, cooldowns⟩ := h.columns split does (by decide)
    rw [if_neg (skipped.not.mpr runs), if_pos lost]
    refine ⟨links, ptrs, cooldowns, ?_, ?_, ?_, ?_, moving, ending⟩
    · exact h.moved.trans (by rw [acting_other does (by decide)])
    · exact h.waited.trans (by rw [acting_other does (by decide)])
    · rw [acting_same does, List.map_append, ← h.released]
      rfl
    · rw [acting_same does, List.map_append, ← h.completed]
      rfl
  · obtain ⟨links, ptrs, cooldowns⟩ := h.columns split does (by decide)
    unfold AtEnd at last
    rw [if_neg (skipped.not.mpr runs), if_neg routed, if_pos (by omega), if_pos out]
    refine ⟨links, ptrs, cooldowns, ?_, ?_, ?_, ?_, moving, ending⟩
    · exact h.moved.trans (by rw [acting_other does (by decide)])
    · rw [acting_same does, List.map_append, ← h.waited]
      rfl
    · exact h.released.trans (by rw [acting_other does (by decide)])
    · exact h.completed.trans (by rw [acting_other does (by decide)])
  · obtain ⟨links, ptrs, cooldowns⟩ := h.columns split does (by decide)
    unfold AtEnd at last
    rw [if_neg (skipped.not.mpr runs), if_neg routed, if_pos (by omega), if_neg some_left.not_ge]
    refine ⟨links, ptrs, cooldowns, ?_, ?_, ?_, ?_, moving, Host.get_set_left ▸ ending⟩
    · exact h.moved.trans (by rw [acting_other does (by decide)])
    · exact h.waited.trans (by rw [acting_other does (by decide)])
    · rw [acting_same does, List.map_append, ← h.released]
      rfl
    · rw [acting_same does, List.map_append, ← h.completed]
      rfl
  · obtain ⟨links, ptrs, cooldowns⟩ := h.columns split does (by decide)
    unfold AtEnd at before
    rw [if_neg (skipped.not.mpr runs), if_neg routed, if_neg (by omega), if_pos out]
    refine ⟨links, ptrs, cooldowns, ?_, ?_, ?_, ?_, moving, ending⟩
    · rw [acting_other does (by decide), h.moved]
    · rw [acting_other does (by decide), h.waited]
    · rw [acting_other does (by decide), h.released]
    · rw [acting_other does (by decide), h.completed]
  · unfold AtEnd at before
    have next : (((pool.remainingRoutePtr i).toNat + 1 : ℕ) : ℤ) = nextPtr pool i := by
      rw [nextPtr]
      omega
    rw [if_neg (skipped.not.mpr runs), if_neg routed, if_neg (by omega), if_neg some_left.not_ge]
    refine ⟨?_, ?_, ?_, ?_, ?_, ?_, ?_, Host.get_set_left ▸ moving, ending⟩
    · rw [← column_after_set split, next_of_move does, ← h.links]
      rfl
    · rw [← column_after_set split, next_of_move does, ← h.ptrs, ← next]
    · rw [← column_after_set split, next_of_move does, ← h.cooldowns, nextCooldown, max_comm]
    · rw [acting_same does, List.map_append, ← h.moved]
      rfl
    · exact h.waited.trans (by rw [acting_other does (by decide)])
    · exact h.released.trans (by rw [acting_other does (by decide)])
    · exact h.completed.trans (by rw [acting_other does (by decide)])

def poolPlan (pool : ActiveAgentPool (SlotMemory ρ) cap) (skip : Finset ℤ)
    (movement completion : LinkBudget) : AgentBatchResult where
  nextCurrentLinkIds := (aliveSlots pool).map
    (nextOf pool skip movement completion (nextLink pool) pool.currentLinkId)
  nextRoutePtrs := (aliveSlots pool).map
    (nextOf pool skip movement completion (nextPtr pool) pool.remainingRoutePtr)
  nextCooldownTicks := (aliveSlots pool).map
    (nextOf pool skip movement completion (nextCooldown pool) pool.rerouteCooldownTicks)
  movedSlotIds := (acting pool skip movement completion .move (aliveSlots pool)).map slotNumber
  sinkWaitSlotIds := (acting pool skip movement completion .wait (aliveSlots pool)).map slotNumber
  releasedSlotIds := (acting pool skip movement completion .leave (aliveSlots pool)).map slotNumber
  completedTripIds :=
    (acting pool skip movement completion .leave (aliveSlots pool)).map pool.tripId

include ready in
omit split h in
theorem advance_batch : advanceActiveAgentsBatchImpl (poolBatch pool movement completion skip) =
    .ok (poolPlan pool skip movement completion) := by
  have planned := fold_positions (I := Planned pool skip movement completion)
    (f := advanceSlot (poolBatch pool movement completion skip))
    (s := BatchState.start (poolBatch pool movement completion skip))
    (fun past i rest s split h => advance_slot ready split h) (by
      refine ⟨rfl, rfl, rfl, rfl, rfl, rfl, rfl, ?_, ?_⟩
      · simpa only [BatchState.start, poolBatch, budget_items_get] using Left.start
      · simpa only [BatchState.start, poolBatch, budget_items_get] using Left.start)
  have count : (poolBatch pool movement completion skip).slotIds.length =
      (aliveSlots pool).length := List.length_map _
  unfold advanceActiveAgentsBatchImpl
  rw [check_batch (pool_batch_accepted ready), ok_bind, count]
  generalize (List.range (aliveSlots pool).length).foldl _ _ = s at planned ⊢
  obtain ⟨links, ptrs, cooldowns, moved, waited, released, completed, -, -⟩ := planned
  rw [column_after_all] at links ptrs cooldowns
  obtain ⟨movementBudget, completionBudget, result⟩ := s
  obtain ⟨_, _, _, _, _, _, _⟩ := result
  subst links ptrs cooldowns moved waited released completed
  rfl

end Kernel

section Application

variable {pool pool' : ActiveAgentPool (SlotMemory ρ) cap} {skip : Finset ℤ}
  {movement completion : LinkBudget} {slots movers : List (Fin cap)} {plan : AgentBatchResult}
  {link ptr cooldown : Fin cap → ℤ}

/-- The pool with new entries in three columns at some of its slots. -/
def written (pool : ActiveAgentPool (SlotMemory ρ) cap) (slots : List (Fin cap))
    (link ptr cooldown : Fin cap → ℤ) : ActiveAgentPool (SlotMemory ρ) cap :=
  { pool with
    stack_shape := slot_stack pool
    counts := slot_counts pool
    currentLinkId := fun i => if i ∈ slots then link i else pool.currentLinkId i
    remainingRoutePtr := fun i => if i ∈ slots then ptr i else pool.remainingRoutePtr i
    rerouteCooldownTicks := fun i =>
      if i ∈ slots then cooldown i else pool.rerouteCooldownTicks i }

theorem column_snoc {i : Fin cap} {β : Type} (new old : Fin cap → β) :
    Function.update (fun j => if j ∈ slots then new j else old j) i (new i) =
      fun j => if j ∈ slots ++ [i] then new j else old j := by
  funext j
  by_cases here : j = i
  · subst here
    simp
  · simp [here]

theorem write_next_all (links : plan.nextCurrentLinkIds = slots.map link)
    (ptrs : plan.nextRoutePtrs = slots.map ptr)
    (cooldowns : plan.nextCooldownTicks = slots.map cooldown) :
    slots.zipIdx.foldl (writeNext plan) pool = written pool slots link ptr cooldown := by
  have each : ∀ (p : ActiveAgentPool (SlotMemory ρ) cap), ∀ slot ∈ slots.zipIdx,
      writeNext plan p slot = { p with
        currentLinkId := Function.update p.currentLinkId slot.1 (link slot.1)
        remainingRoutePtr := Function.update p.remainingRoutePtr slot.1 (ptr slot.1)
        rerouteCooldownTicks :=
          Function.update p.rerouteCooldownTicks slot.1 (cooldown slot.1) } := by
    intro p slot there
    have found : slots[slot.2]? = some slot.1 := List.mem_zipIdx_iff_getElem?.mp there
    have at_slot {f : Fin cap → ℤ} : (slots.map f).getD slot.2 0 = f slot.1 := by
      rw [List.getD_eq_getElem?_getD, List.getElem?_map, found]
      rfl
    unfold writeNext
    rw [links, ptrs, cooldowns, at_slot, at_slot, at_slot]
  rw [List.foldl_ext _ _ pool each]
  clear each links ptrs cooldowns
  induction slots using List.reverseRecOn with
  | nil => simp [written]
  | append_singleton slots i ih =>
    rw [zip_idx_snoc, List.foldl_append, ih, List.foldl_cons, List.foldl_nil]
    simp only [written, column_snoc]

theorem reset_progress_all : (movers.map slotNumber).foldlM resetProgress pool =
    .ok { pool with progress01 := fun i => if i ∈ movers then 0 else pool.progress01 i } := by
  induction movers using List.reverseRecOn with
  | nil => simp
  | append_singleton movers i ih =>
    rw [List.map_append, List.map_singleton]
    refine fold_append.mpr ⟨_, ih, fold_cons.mpr ⟨_, ?_, rfl⟩⟩
    unfold resetProgress
    rw [slot_of_number]
    simp only [column_snoc (fun _ => (0 : ℚ))]

theorem release_planned_all :
    (slots.map slotNumber).foldlM releasePlanned pool = releaseAll pool slots := by
  have each : (fun (p : ActiveAgentPool (SlotMemory ρ) cap) i => releasePlanned p (slotNumber i)) =
      releaseSlot := by
    funext p i
    rw [releasePlanned, slot_of_number]
  rw [List.foldlM_map, each]
  rfl

theorem written_moved : ({ written pool (aliveSlots pool)
      (nextOf pool skip movement completion (nextLink pool) pool.currentLinkId)
      (nextOf pool skip movement completion (nextPtr pool) pool.remainingRoutePtr)
      (nextOf pool skip movement completion (nextCooldown pool) pool.rerouteCooldownTicks) with
      progress01 := fun i =>
        if i ∈ acting pool skip movement completion .move (aliveSlots pool) then 0
        else pool.progress01 i } : ActiveAgentPool (SlotMemory ρ) cap) =
    movedPool pool (acting pool skip movement completion .move (aliveSlots pool)) := by
  have column (new old : Fin cap → ℤ) :
      (fun i => if i ∈ aliveSlots pool then nextOf pool skip movement completion new old i
        else old i) =
      fun i => if i ∈ acting pool skip movement completion .move (aliveSlots pool) then new i
        else old i := by
    funext i
    simp only [nextOf, acting, List.mem_filter, decide_eq_true_eq]
    split_ifs <;> simp_all
  simp only [written, movedPool, column]

/-- What the acts of the alive agents come to, with the pool that they leave. -/
def outcome (pool : ActiveAgentPool (SlotMemory ρ) cap) (skip : Finset ℤ)
    (movement completion : LinkBudget) (pool' : ActiveAgentPool (SlotMemory ρ) cap) :
    Advanced ρ cap where
  pool := pool'
  counters := tickCounters (acting pool skip movement completion .move (aliveSlots pool)).length
    (acting pool skip movement completion .wait (aliveSlots pool)).length
  completedTripIds :=
    ((acting pool skip movement completion .leave (aliveSlots pool)).map pool.tripId).toFinset

theorem apply_plan (released : releaseAll (movedPool pool
      (acting pool skip movement completion .move (aliveSlots pool)))
      (acting pool skip movement completion .leave (aliveSlots pool)) = .ok pool') :
    applyPlan pool (aliveSlots pool) (poolPlan pool skip movement completion) =
      .ok (outcome pool skip movement completion pool') := by
  have moved := (congrArg (releaseAll · (acting pool skip movement completion .leave
    (aliveSlots pool))) written_moved).trans released
  unfold applyPlan
  rw [write_next_all rfl rfl rfl]
  dsimp only [poolPlan]
  rw [reset_progress_all, ok_bind, release_planned_all, List.length_map, List.length_map]
  exact bind_ok.mpr ⟨pool', moved, rfl⟩

theorem advance_pool_plans (ready : Ready pool movement completion skip)
    (fits : Fits pool movement completion skip)
    (released : releaseAll (movedPool pool
      (acting pool skip movement completion .move (aliveSlots pool)))
      (acting pool skip movement completion .leave (aliveSlots pool)) = .ok pool') :
    advancePoolAlongCachedRoutes pool movement completion skip =
      .ok (outcome pool skip movement completion pool') := by
  have plan : advanceActiveAgentsRust (poolBatch pool movement completion skip) =
      .ok (poolPlan pool skip movement completion) := by
    rw [advance_agents_rust fits, advance_batch ready]
    rfl
  have sized : validateAgentActionPlan (poolPlan pool skip movement completion)
      (aliveSlots pool).length = .ok ⟨⟩ := by
    unfold validateAgentActionPlan
    rw [each_ok]
    simp [poolPlan, raiseIf]
  unfold advancePoolAlongCachedRoutes
  dsimp only
  rw [pack_routes ready fun i there => mem_alive_slots.mp there, ok_bind]
  refine bind_ok.mpr ⟨_, plan, bind_ok.mpr ⟨⟨⟩, sized, apply_plan released⟩⟩

end Application

end Rust

section Budgets

variable (pool pool' : ActiveAgentPool (SlotMemory ρ) cap) (i : Fin cap)

/-- The agent of a slot went one link on. -/
def HasMoved : Prop :=
  pool.aliveMask i = true ∧ pool'.aliveMask i = true ∧
    pool'.remainingRoutePtr i = pool.remainingRoutePtr i + 1

/-- The agent of a slot completed its trip. -/
def HasCompleted : Prop := pool.aliveMask i = true ∧ pool'.aliveMask i = false

instance : Decidable (HasMoved pool pool' i) := inferInstanceAs (Decidable (_ ∧ _ ∧ _))

instance : Decidable (HasCompleted pool pool' i) := inferInstanceAs (Decidable (_ ∧ _))

/-- The links serve their agents in the order of the slots, each within its budgets; agents
without a route complete their trips besides. -/
structure InBudget (pool : ActiveAgentPool (SlotMemory ρ) cap) (movement completion : LinkBudget)
    (skip : Finset ℤ) (result : Advanced ρ cap) : Prop where
  moved_bound : ∀ linkId, (Finset.univ.filter fun i => pool.currentLinkId i = linkId ∧
    HasMoved pool result.pool i).card ≤ (movement.at linkId).toNat
  moved_first : ∀ i j, i < j → pool.currentLinkId i = pool.currentLinkId j →
    Travels pool skip i → ¬ AtEnd pool i → HasMoved pool result.pool j →
    HasMoved pool result.pool i
  completed_bound : ∀ linkId, (Finset.univ.filter fun i => pool.currentLinkId i = linkId ∧
    route pool i ≠ [] ∧ HasCompleted pool result.pool i).card ≤ (completion.at linkId).toNat
  completed_first : ∀ i j, i < j → pool.currentLinkId i = pool.currentLinkId j →
    Travels pool skip i → AtEnd pool i → route pool j ≠ [] → HasCompleted pool result.pool j →
    HasCompleted pool result.pool i
  routeless : ∀ i, pool.aliveMask i = true → slotNumber i ∉ skip → route pool i = [] →
    HasCompleted pool result.pool i
  skipped : ∀ i, pool.aliveMask i = true → slotNumber i ∈ skip → SameAt pool result.pool i
  completed : ∀ tripId, tripId ∈ result.completedTripIds ↔
    ∃ i, HasCompleted pool result.pool i ∧ pool.tripId i = tripId

variable {pool pool' i} {skip : Finset ℤ} {movement completion : LinkBudget}
  {slots : List (Fin cap)} {s : Host.AdvanceState ρ cap}

theorem act_move : act pool skip movement completion i = .move ↔
    Travels pool skip i ∧ ¬ AtEnd pool i ∧ served (wantsMove pool skip) movement.at i = true := by
  unfold act
  split_ifs <;> simp_all

theorem act_leave : act pool skip movement completion i = .leave ↔
    Travels pool skip i ∧ AtEnd pool i ∧ served (wantsEnd pool skip) completion.at i = true ∨
      pool.aliveMask i = true ∧ slotNumber i ∉ skip ∧ route pool i = [] := by
  unfold act
  split_ifs <;> simp_all [Travels]

theorem release_all_dead (ok : releaseAll pool slots = .ok pool') (listed : i ∈ slots) :
    pool'.aliveMask i = false := by
  induction slots generalizing pool with
  | nil => cases listed
  | cons j slots ih =>
    obtain ⟨middle, first, rest⟩ := fold_cons.mp ok
    by_cases later : i ∈ slots
    · exact ih rest later
    · obtain rfl := (List.mem_cons.mp listed).resolve_right later
      obtain ⟨room, rfl⟩ := release_slot_ok.mp first
      rw [(release_all_same rest later).alive]
      exact Function.update_self ..

variable (h : Host.Visited pool skip movement completion (aliveSlots pool) s)

include h

theorem completed_iff : HasCompleted pool s.advanced.pool i ↔
    act pool skip movement completion i = .leave := by
  constructor
  · rintro ⟨alive, dead⟩
    by_contra stays
    have apart : i ∉ acting pool skip movement completion .leave (aliveSlots pool) :=
      fun there => stays (mem_acting.mp there).2
    rw [(release_all_same h.pool_eq apart).alive] at dead
    exact Bool.false_ne_true (dead.symm.trans alive)
  · intro does
    have alive : pool.aliveMask i = true := by
      rcases act_leave.mp does with ⟨travels, -⟩ | ⟨alive, -⟩
      · exact travels.1
      · exact alive
    exact ⟨alive, release_all_dead h.pool_eq
      (mem_acting.mpr ⟨mem_alive_slots.mpr alive, does⟩)⟩

theorem moved_iff : HasMoved pool s.advanced.pool i ↔
    act pool skip movement completion i = .move := by
  have kept (stays : act pool skip movement completion i ≠ .leave) :=
    release_all_same h.pool_eq (i := i)
      fun there => stays (mem_acting.mp there).2
  constructor
  · rintro ⟨alive, alive', next⟩
    have stays : act pool skip movement completion i ≠ .leave := fun does =>
      Bool.false_ne_true (((completed_iff h).mpr does).2.symm.trans alive')
    by_contra holds
    have apart : i ∉ acting pool skip movement completion .move (aliveSlots pool) :=
      fun there => holds (mem_acting.mp there).2
    rw [(kept stays).ptr, (moved_pool_same apart).ptr] at next
    omega
  · intro does
    have alive := (act_move.mp does).1.1
    have same := kept (by rw [does]; decide)
    refine ⟨alive, same.alive.trans alive, same.ptr.trans ?_⟩
    exact if_pos (mem_acting.mpr ⟨mem_alive_slots.mpr alive, does⟩)

theorem visited_in_budget : InBudget pool movement completion skip s.advanced where
  moved_bound linkId := by
    refine (Finset.card_le_card fun i there => ?_).trans
      (served_bound (wantsMove pool skip) movement.at linkId)
    obtain ⟨-, here, moved⟩ := Finset.mem_filter.mp there
    obtain ⟨travels, before, turn⟩ := act_move.mp ((moved_iff h).mp moved)
    exact Finset.mem_filter.mpr ⟨Finset.mem_univ i,
      (if_pos ⟨travels, before⟩ : wantsMove pool skip i = _).trans (congrArg some here), turn⟩
  moved_first i j earlier here travels before moved := by
    obtain ⟨travels', before', turn⟩ := act_move.mp ((moved_iff h).mp moved)
    have same : wantsMove pool skip i = wantsMove pool skip j := by
      rw [wantsMove, wantsMove, if_pos ⟨travels, before⟩, if_pos ⟨travels', before'⟩, here]
    exact (moved_iff h).mpr (act_move.mpr ⟨travels, before, served_first earlier same turn⟩)
  completed_bound linkId := by
    refine (Finset.card_le_card fun i there => ?_).trans
      (served_bound (wantsEnd pool skip) completion.at linkId)
    obtain ⟨-, here, routed, completed⟩ := Finset.mem_filter.mp there
    rcases act_leave.mp ((completed_iff h).mp completed) with ⟨travels, last, turn⟩ | ⟨-, -, lost⟩
    · exact Finset.mem_filter.mpr ⟨Finset.mem_univ i,
        (if_pos ⟨travels, last⟩ : wantsEnd pool skip i = _).trans (congrArg some here), turn⟩
    · exact absurd lost routed
  completed_first i j earlier here travels last routed completed := by
    rcases act_leave.mp ((completed_iff h).mp completed) with ⟨travels', last', turn⟩ | ⟨-, -, lost⟩
    · have same : wantsEnd pool skip i = wantsEnd pool skip j := by
        rw [wantsEnd, wantsEnd, if_pos ⟨travels, last⟩, if_pos ⟨travels', last'⟩, here]
      exact (completed_iff h).mpr
        (act_leave.mpr (Or.inl ⟨travels, last, served_first earlier same turn⟩))
    · exact absurd lost routed
  routeless i alive runs lost := (completed_iff h).mpr (act_leave.mpr (Or.inr ⟨alive, runs, lost⟩))
  skipped i alive skips := by
    have stays : act pool skip movement completion i ≠ .leave := by
      rw [Ne, act_leave]
      rintro (⟨travels, -⟩ | ⟨-, runs, -⟩)
      · exact travels.2.1 skips
      · exact runs skips
    have holds : act pool skip movement completion i ≠ .move :=
      fun does => (act_move.mp does).1.2.1 skips
    exact (moved_pool_same fun there => holds (mem_acting.mp there).2).trans
      (release_all_same h.pool_eq fun there => stays (mem_acting.mp there).2)
  completed tripId := by
    rw [h.completed, List.mem_toFinset, List.mem_map]
    constructor
    · rintro ⟨i, there, rfl⟩
      exact ⟨i, (completed_iff h).mpr (mem_acting.mp there).2, rfl⟩
    · rintro ⟨i, completed, rfl⟩
      exact ⟨i, mem_acting.mpr ⟨mem_alive_slots.mpr completed.1,
        (completed_iff h).mp completed⟩, rfl⟩

end Budgets

/-- The loop over the slots and the bulk application of the plan advance a pool alike. -/
theorem agent_backends_agree (pool : ActiveAgentPool (SlotMemory ρ) cap)
    (movement completion : LinkBudget) (skip : Finset ℤ)
    (ready : Ready pool movement completion skip) (fits : Fits pool movement completion skip) :
    ∃ result, Host.advancePoolAlongCachedRoutes pool movement completion skip = .ok result ∧
      Rust.advancePoolAlongCachedRoutes pool movement completion skip = .ok result ∧
      InBudget pool movement completion skip result := by
  obtain ⟨s, run, visited⟩ := Host.advance_pool_visits ready fits
  refine ⟨s.advanced, run, ?_, visited_in_budget visited⟩
  rw [Rust.advance_pool_plans ready fits visited.pool_eq, Rust.outcome, ← visited.counters,
    ← visited.completed]

def twoAgents (memories : Dict ℤ (StoredMemory (SlotMemory Unit))) :
    ActiveAgentPool (SlotMemory Unit) 2 where
  freeSlotStack := [0, 1]
  freeSlotCount := 0
  aliveCount := 2
  aliveMask := fun _ => true
  citizenId := ![1, 2]
  tripId := ![10, 11]
  currentLinkId := fun _ => 5
  progress01 := fun _ => 1
  remainingRoutePtr := fun _ => 0
  destNodeId := fun _ => 3
  behaviorProfileId := fun _ => 0
  rerouteCooldownTicks := fun _ => 0
  pluginMemory := memories
  stack_shape := rfl
  counts := rfl

def oneTo (linkId count : ℤ) : LinkBudget := ⟨[(linkId, count)], by simp⟩

def bothRouted : ActiveAgentPool (SlotMemory Unit) 2 :=
  twoAgents [(0, .dict ⟨some [5, 6], ()⟩), (1, .dict ⟨some [5, 6], ()⟩)]

/-- One of the two agents can go on. -/
theorem agent_backends_agree_two :
    ∃ result, Host.advancePoolAlongCachedRoutes bothRouted (oneTo 5 1) (oneTo 5 0) ∅ = .ok result ∧
      Rust.advancePoolAlongCachedRoutes bothRouted (oneTo 5 1) (oneTo 5 0) ∅ = .ok result ∧
      InBudget bothRouted (oneTo 5 1) (oneTo 5 0) ∅ result := by
  refine agent_backends_agree _ _ _ _ ⟨by decide +kernel, ?_, by decide, by decide, by decide,
    by decide, by decide, by decide, by decide, by decide⟩ ⟨by decide, by decide, by decide,
    by decide, by decide, by decide, by decide, by decide, by decide, by decide⟩
  intro i _
  exact ⟨[5, 6], by revert i; decide⟩

/-- Two agents without a route complete their trips on a road whose completion budget is empty;
and a count that is too wide for the compiled function fails there, where the loop goes on. -/
theorem routeless_agents_and_wide_count :
    (Host.advancePoolAlongCachedRoutes (twoAgents []) (oneTo 5 0) (oneTo 5 0) ∅).toOption.map
        Advanced.completedTripIds = some {10, 11} ∧
      (Host.advancePoolAlongCachedRoutes bothRouted (oneTo 5 (2 ^ 31)) (oneTo 5 0) ∅).isOk = true ∧
      (Rust.advancePoolAlongCachedRoutes bothRouted (oneTo 5 (2 ^ 31)) (oneTo 5 0) ∅).isOk =
        false := by
  refine ⟨?_, ?_, ?_⟩
  · decide +kernel
  · decide +kernel
  · decide +kernel

end Metroflow.Sim.Columns
