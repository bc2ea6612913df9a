import Metroflow.Multirate.Edges

namespace Metroflow.Multirate.EdgeKernels

open Metroflow.Lib Metroflow.Multirate

section Crate

def eps : ℚ := 1 / 1000000

def validateSameLengths (lengths : List (String × ℕ)) : Except String ℕ :=
  match lengths.head? with
  | none => .error "edge batch must include at least one array"
  | some (_, expected) => do
    lengths.forM fun (name, length) => raiseIf (length ≠ expected)
      s!"{name} length must match queue length: got {length}, expected {expected}"
    return expected

def validateNonNegative (name : String) (values : List ℚ) : Except String Unit :=
  values.forM fun value => raiseIf (value < 0) s!"{name} must be non-negative"

variable (queue stock inflow outflow freeFlow capacity : List ℚ)

/-- The body of both loops of the crate: the queue, the stock and the travel time of an edge. -/
def edgeAfter (edgeIdx : ℕ) : Except String (ℚ × ℚ × ℚ) := do
  let queueValue := queue.getD edgeIdx 0
  let stockValue := stock.getD edgeIdx 0
  raiseIf (stockValue < queueValue) "queue must not exceed stock"
  let inflowValue := inflow.getD edgeIdx 0
  let outflowValue := outflow.getD edgeIdx 0
  let freeFlowValue := freeFlow.getD edgeIdx 0
  let capacityValue := capacity.getD edgeIdx 0
  let availableMass := stockValue + inflowValue
  let feasibleOutflow :=
    if capacityValue ≤ 0 then 0 else min (min outflowValue availableMass) capacityValue
  let stockAfter := availableMass - feasibleOutflow
  let queuedMass := queueValue + max (inflowValue - feasibleOutflow) 0
  let queueAfter := min (max queuedMass 0) stockAfter
  return (queueAfter, stockAfter, freeFlowValue + queueAfter / max capacityValue eps)

/-- The three result columns. -/
abbrev Columns := List ℚ × List ℚ × List ℚ

def Columns.push (columns : Columns) (item : ℚ × ℚ × ℚ) : Columns :=
  (columns.1 ++ [item.1], columns.2.1 ++ [item.2.1], columns.2.2 ++ [item.2.2])

def evolveEdgesBatchImpl : Except String Columns := do
  let numEdges ← validateSameLengths [("queue", queue.length), ("stock", stock.length),
    ("inflow", inflow.length), ("outflow", outflow.length), ("free_flow", freeFlow.length),
    ("capacity", capacity.length)]
  validateNonNegative "queue" queue
  validateNonNegative "stock" stock
  validateNonNegative "inflow" inflow
  validateNonNegative "outflow" outflow
  validateNonNegative "free_flow_time" freeFlow
  validateNonNegative "capacity" capacity
  if 1024 ≤ numEdges then
    let items ← (List.range numEdges).mapM
      (edgeAfter queue stock inflow outflow freeFlow capacity)
    return items.foldl Columns.push ([], [], [])
  else
    (List.range numEdges).foldlM (fun columns edgeIdx => do
      let item ← edgeAfter queue stock inflow outflow freeFlow capacity edgeIdx
      return columns.push item) ([], [], [])

end Crate

section Agreement

variable {queue stock inflow outflow freeFlow capacity : List ℚ} {n : ℕ}

/-- One edge of the six columns. -/
def edgeOf (queue stock inflow outflow freeFlow capacity : List ℚ) (i : ℕ) : EdgeInput where
  queue := queue.getD i 0
  stock := stock.getD i 0
  inflow := inflow.getD i 0
  outflow := outflow.getD i 0
  freeFlowTime := freeFlow.getD i 0
  capacity := capacity.getD i 0

def columnsOf (next : List EdgeDynamicState) : Columns :=
  (next.map EdgeDynamicState.queue, next.map EdgeDynamicState.stock,
    next.map EdgeDynamicState.travelTime)

theorem nonnegative_ok {name : String} {values : List ℚ} {u : Unit} :
    validateNonNegative name values = .ok u ↔ ∀ i < values.length, 0 ≤ values.getD i 0 := by
  unfold validateNonNegative
  rw [show u = ⟨⟩ from rfl, each_ok]
  simp only [raise_if_ok, not_lt]
  constructor
  · intro every i inside
    rw [List.getD_eq_getElem values 0 inside]
    exact every _ (List.getElem_mem inside)
  · intro every value listed
    obtain ⟨i, inside, rfl⟩ := List.getElem_of_mem listed
    have := every i inside
    rwa [List.getD_eq_getElem values 0 inside] at this

theorem same_lengths_ok {lengths : List (String × ℕ)} (same : ∀ item ∈ lengths, item.2 = n)
    (some_listed : lengths ≠ []) : validateSameLengths lengths = .ok n := by
  cases lengths with
  | nil => exact absurd rfl some_listed
  | cons first rest =>
    have head : first.2 = n := same first List.mem_cons_self
    unfold validateSameLengths
    simp only [List.head?_cons, head]
    refine bind_ok.mpr ⟨⟨⟩, each_ok.mpr fun item listed => ?_, rfl⟩
    rw [raise_if_ok, not_not]
    exact same item listed

theorem edge_after_ok {i : ℕ} {item : ℚ × ℚ × ℚ} :
    edgeAfter queue stock inflow outflow freeFlow capacity i = .ok item ↔
      queue.getD i 0 ≤ stock.getD i 0 ∧
      item = ((evolveEdge (edgeOf queue stock inflow outflow freeFlow capacity i)).queue,
        (evolveEdge (edgeOf queue stock inflow outflow freeFlow capacity i)).stock,
        (evolveEdge (edgeOf queue stock inflow outflow freeFlow capacity i)).travelTime) := by
  unfold edgeAfter
  simp only [bind_ok, raise_if_ok, not_lt, pure_ok, exists_and_left, exists_const]
  rw [eq_comm]
  rfl

theorem push_all (items : List (ℚ × ℚ × ℚ)) (columns : Columns) :
    items.foldl Columns.push columns = (columns.1 ++ items.map Prod.fst,
      columns.2.1 ++ items.map fun item => item.2.1,
      columns.2.2 ++ items.map fun item => item.2.2) := by
  induction items generalizing columns with
  | nil => simp
  | cons item items ih =>
    rw [List.foldl_cons, ih]
    simp [Columns.push]

theorem serial_eq {edges : List ℕ} {f : ℕ → Except String (ℚ × ℚ × ℚ)} (columns : Columns) :
    edges.foldlM (fun columns edgeIdx => do
      let item ← f edgeIdx
      return columns.push item) columns =
    (do
      let items ← edges.mapM f
      return items.foldl Columns.push columns) := by
  induction edges generalizing columns with
  | nil => rfl
  | cons edge edges ih =>
    rw [List.foldlM_cons, List.mapM_cons]
    cases f edge with
    | error e => rfl
    | ok item =>
      simp only [ok_bind, pure_bind, bind_assoc]
      rw [ih]
      rfl

theorem crate_batch_ok {columns : Columns} (lengths : ∀ values ∈ [queue, stock, inflow, outflow,
      freeFlow, capacity], values.length = n) :
    evolveEdgesBatchImpl queue stock inflow outflow freeFlow capacity = .ok columns ↔
      (∀ i < n, (edgeOf queue stock inflow outflow freeFlow capacity i).Valid) ∧
      columns = columnsOf ((List.range n).map fun i =>
        evolveEdge (edgeOf queue stock inflow outflow freeFlow capacity i)) := by
  simp only [List.forall_mem_cons, List.not_mem_nil, false_imp_iff, implies_true, and_true]
    at lengths
  obtain ⟨l₁, l₂, l₃, l₄, l₅, l₆⟩ := lengths
  have sizes : validateSameLengths [("queue", queue.length), ("stock", stock.length),
      ("inflow", inflow.length), ("outflow", outflow.length), ("free_flow", freeFlow.length),
      ("capacity", capacity.length)] = .ok n := by
    refine same_lengths_ok ?_ (by simp)
    simp [l₁, l₂, l₃, l₄, l₅, l₆]
  have loop : ∀ columns : Columns, ((do
      let items ← (List.range n).mapM (edgeAfter queue stock inflow outflow freeFlow capacity)
      return items.foldl Columns.push ([], [], [])) = Except.ok columns ↔
      (∀ i < n, queue.getD i 0 ≤ stock.getD i 0) ∧
      columns = columnsOf ((List.range n).map fun i =>
        evolveEdge (edgeOf queue stock inflow outflow freeFlow capacity i))) := by
    intro columns
    rw [bind_ok]
    constructor
    · rintro ⟨items, ran, built⟩
      have paired := map_all_ok.mp ran
      simp only [edge_after_ok] at paired
      refine ⟨fun i inside => ?_, ?_⟩
      · obtain ⟨item, -, within, -⟩ := paired_left paired (List.mem_range.mpr inside)
        exact within
      · rw [← pure_ok.mp built, push_all]
        unfold columnsOf
        simp only [List.nil_append, List.map_map]
        refine congrArg₂ Prod.mk ?_ (congrArg₂ Prod.mk ?_ ?_)
        all_goals
          refine (paired_map_eq paired fun i item found => ?_).symm
          rw [found.2]
          rfl
    · rintro ⟨within, rfl⟩
      refine ⟨_, map_all_total fun i inside => edge_after_ok.mpr
        ⟨within i (List.mem_range.mp inside), rfl⟩, ?_⟩
      rw [pure_ok, push_all]
      unfold columnsOf
      simp [List.map_map, Function.comp_def]
  unfold evolveEdgesBatchImpl
  rw [sizes, ok_bind]
  simp only [serial_eq, ite_self]
  simp only [bind_ok, nonnegative_ok, exists_and_left, exists_const, l₁, l₂, l₃, l₄, l₅, l₆]
  rw [← bind_ok, loop]
  constructor
  · rintro ⟨queues, stocks, inflows, outflows, frees, capacities, within, rfl⟩
    exact ⟨fun i inside => ⟨queues i inside, within i inside, inflows i inside, outflows i inside,
      frees i inside, capacities i inside⟩, rfl⟩
  · rintro ⟨valid, rfl⟩
    exact ⟨fun i inside => (valid i inside).queue_nonneg,
      fun i inside => (valid i inside).queue_nonneg.trans (valid i inside).queue_in_stock,
      fun i inside => (valid i inside).inflow_nonneg,
      fun i inside => (valid i inside).outflow_nonneg,
      fun i inside => (valid i inside).free_flow_nonneg,
      fun i inside => (valid i inside).capacity_nonneg,
      fun i inside => (valid i inside).queue_in_stock, rfl⟩

theorem baseline_ok {ext : EdgeExtensions} {batch : List EdgeInput}
    {next : List EdgeDynamicState} : evolveEdges ext batch .baseline = .ok next ↔
      (∀ edge ∈ batch, edge.Valid) ∧ next = batch.map evolveEdge := by
  constructor
  · exact evolve_edges_ok
  · rintro ⟨valid, rfl⟩
    refine map_all_total fun edge listed => ?_
    obtain ⟨queue, within, inflow, outflow, free, capacity⟩ := valid edge listed
    simp only [updateEdgeState, validateEdge, bind_ok, raise_value_ok, not_lt, pure_ok]
    exact ⟨⟨⟩, ⟨⟨⟩, queue, ⟨⟩, queue.trans within, ⟨⟩, within, ⟨⟩, inflow, ⟨⟩, outflow, free⟩,
      ⟨⟨⟩, capacity, trivial⟩⟩

/-- The world of one batch, and what the caller gives for its next tick. -/
structure Given (world : WorldState) (input : FastTickInput)
    (queue stock inflow outflow freeFlow capacity : List ℚ) : Prop where
  queue : world.traffic.edgeQueue = queue
  stock : world.traffic.edgeStock = stock
  travel_time : world.traffic.edgeTravelTime.length = world.graph.numEdges
  inflow : input.edgeInflowVehPerTick = some inflow
  outflow : input.edgeOutflowVehPerTick = some outflow
  free_flow : input.edgeFreeFlowTimeTicks = some freeFlow
  capacity : input.edgeCapacityVehPerTick = some capacity
  backend : input.edgeBackend = .baseline

theorem given_tick_ok {ext : EdgeExtensions} {world : WorldState} {input : FastTickInput}
    (given : Given world input queue stock inflow outflow freeFlow capacity)
    (edges : world.graph.numEdges = n) (lengths : ∀ values ∈ [queue, stock, inflow, outflow,
      freeFlow, capacity], values.length = n) {columns : Columns} :
    (∃ world', evolveEdgesFastTick ext world input = .ok world' ∧
      columns = (world'.traffic.edgeQueue, world'.traffic.edgeStock,
        world'.traffic.edgeTravelTime)) ↔
      (∀ i < n, (edgeOf queue stock inflow outflow freeFlow capacity i).Valid) ∧
      columns = columnsOf ((List.range n).map fun i =>
        evolveEdge (edgeOf queue stock inflow outflow freeFlow capacity i)) := by
  simp only [List.forall_mem_cons, List.not_mem_nil, false_imp_iff, implies_true, and_true]
    at lengths
  obtain ⟨l₁, l₂, l₃, l₄, l₅, l₆⟩ := lengths
  have timed := given.travel_time
  rw [edges] at timed
  unfold evolveEdgesFastTick
  dsimp only
  rw [edges]
  split
  · rename_i none
    have empty : n = 0 := by exact_mod_cast none
    subst empty
    have nothing : ∀ {values : List ℚ}, values.length = 0 → values = [] :=
      List.length_eq_zero_iff.mp
    have times : world.traffic.edgeTravelTime = [] := nothing (by exact_mod_cast timed)
    simp [given.queue, given.stock, nothing l₁, nothing l₂, times, columnsOf]
  · have taken : ∀ {values : List ℚ} {default : ℚ} {name : String}, values.length = n →
        normalizeEdgeValues (some values) n default name = .ok values := by
      intro values default name length
      unfold normalizeEdgeValues
      exact bind_ok.mpr ⟨⟨⟩, by rw [raise_value_ok, not_not, length], rfl⟩
    have passes : ∀ {length : ℕ} {message : String}, length = n →
        raiseValue ((length : ℤ) ≠ n) message = .ok ⟨⟩ := by
      intro length message same
      rw [raise_value_ok, not_not, same]
    have timed : world.traffic.edgeTravelTime.length = n := by exact_mod_cast timed
    rw [given.queue, given.stock, passes l₁, passes l₂, passes timed, given.inflow, given.outflow,
      given.free_flow, given.capacity, taken l₃, taken l₄, taken l₅, taken l₆, given.backend]
    simp only [ok_bind, bind_ok, pure_ok, baseline_ok]
    have batch : edgeBatch world inflow outflow freeFlow capacity =
        (List.range n).map (edgeOf queue stock inflow outflow freeFlow capacity) := by
      unfold edgeBatch edgeOf
      rw [given.queue, given.stock, edges, Int.toNat_natCast]
    rw [batch]
    simp only [List.forall_mem_map, List.mem_range, List.map_map]
    constructor
    · rintro ⟨_, ⟨_, ⟨valid, rfl⟩, rfl⟩, rfl⟩
      exact ⟨valid, rfl⟩
    · rintro ⟨valid, rfl⟩
      exact ⟨_, ⟨_, ⟨valid, rfl⟩, rfl⟩, rfl⟩

end Agreement

section Runs

variable {ext : EdgeExtensions} {world world' : WorldState} {input : FastTickInput} {i : ℕ}

/-- An edge of the world with the values of a tick, defaults for those not given. -/
def edgeAt (world : WorldState) (input : FastTickInput) : ℕ → EdgeInput :=
  let n := world.graph.numEdges.toNat
  edgeOf world.traffic.edgeQueue world.traffic.edgeStock
    (input.edgeInflowVehPerTick.getD (List.replicate n 0))
    (input.edgeOutflowVehPerTick.getD (List.replicate n 0))
    (input.edgeFreeFlowTimeTicks.getD (List.replicate n 1))
    (input.edgeCapacityVehPerTick.getD (List.replicate n 1))

/-- What leaves an edge in a tick, of the outflow asked for. -/
def realizedOutflow (edge : EdgeInput) : ℚ :=
  if edge.capacity ≤ 0 then 0 else min (min edge.outflow (edge.stock + edge.inflow)) edge.capacity

theorem evolved_stock (edge : EdgeInput) :
    (evolveEdge edge).stock = edge.stock + edge.inflow - realizedOutflow edge := rfl

theorem realized_bounds {edge : EdgeInput} (h : edge.Valid) : 0 ≤ realizedOutflow edge ∧
    realizedOutflow edge ≤ edge.capacity ∧ realizedOutflow edge ≤ edge.stock + edge.inflow := by
  have available : 0 ≤ edge.stock + edge.inflow :=
    add_nonneg (h.queue_nonneg.trans h.queue_in_stock) h.inflow_nonneg
  unfold realizedOutflow
  split
  · exact ⟨le_rfl, h.capacity_nonneg, available⟩
  · exact ⟨le_min (le_min h.outflow_nonneg available) h.capacity_nonneg, min_le_right _ _,
      (min_le_left _ _).trans (min_le_right _ _)⟩

theorem normalized {values : Option (List ℚ)} {numEdges : ℤ} {default : ℚ} {name : String}
    {taken : List ℚ} (h : normalizeEdgeValues values numEdges default name = .ok taken) :
    taken = values.getD (List.replicate numEdges.toNat default) := by
  unfold normalizeEdgeValues at h
  split at h
  · exact (Except.ok.inj h).symm
  · obtain ⟨_, _, h⟩ := bind_ok.mp h
    exact (pure_ok.mp h).symm

theorem fast_tick_edges (h : evolveEdgesFastTick ext world input = .ok world')
    (inside : i < world.graph.numEdges.toNat) :
    world'.graph = world.graph ∧ (edgeAt world input i).Valid ∧
      world'.traffic.edgeQueue.getD i 0 = (evolveEdge (edgeAt world input i)).queue ∧
      world'.traffic.edgeStock.getD i 0 = (evolveEdge (edgeAt world input i)).stock := by
  unfold evolveEdgesFastTick at h
  dsimp only at h
  split at h
  · rename_i none
    rw [none] at inside
    exact absurd inside (Nat.not_lt_zero i)
  · simp only [bind_ok, pure_ok] at h
    obtain ⟨_, -, _, -, _, -, inflow, in_ok, outflow, out_ok, freeFlow, free_ok, capacity, cap_ok,
      next, evolved, rfl⟩ := h
    obtain ⟨valid, rfl⟩ := evolve_edges_ok evolved
    have batch : edgeBatch world inflow outflow freeFlow capacity =
        (List.range world.graph.numEdges.toNat).map (edgeAt world input) := by
      rw [normalized in_ok, normalized out_ok, normalized free_ok, normalized cap_ok]
      rfl
    rw [batch] at valid ⊢
    refine ⟨rfl, valid _ (List.mem_map_of_mem (List.mem_range.mpr inside)), ?_, ?_⟩
    all_goals
      rw [List.getD_eq_getElem _ 0 (by simpa using inside)]
      simp

def QueueInStock (world : WorldState) (i : ℕ) : Prop :=
  0 ≤ world.traffic.edgeQueue.getD i 0 ∧
    world.traffic.edgeQueue.getD i 0 ≤ world.traffic.edgeStock.getD i 0

/-- What holds of one edge along a run: its queue stays within its stock, its stock is what came
in and has not left, and no more leaves than may or can. -/
structure Conserves (world : WorldState) (steps : List (Taken WorldState FastTickInput))
    (world' : WorldState) (i : ℕ) : Prop where
  each : ∀ taken ∈ steps, QueueInStock taken.before i ∧ QueueInStock taken.after i ∧
    0 ≤ realizedOutflow (edgeAt taken.before taken.input i) ∧
    realizedOutflow (edgeAt taken.before taken.input i) ≤
      (edgeAt taken.before taken.input i).capacity ∧
    realizedOutflow (edgeAt taken.before taken.input i) ≤
      taken.before.traffic.edgeStock.getD i 0 + (edgeAt taken.before taken.input i).inflow
  total : world'.traffic.edgeStock.getD i 0 = world.traffic.edgeStock.getD i 0 +
    (steps.map fun taken => (edgeAt taken.before taken.input i).inflow).sum -
    (steps.map fun taken => realizedOutflow (edgeAt taken.before taken.input i)).sum

theorem run_conserves {steps : List (Taken WorldState FastTickInput)}
    (run : Trace (evolveEdgesFastTick ext) world steps world')
    (inside : i < world.graph.numEdges.toNat) : Conserves world steps world' i := by
  induction run with
  | done world => exact ⟨by simp, by simp⟩
  | @next world mid world' input rest first tail ih =>
    obtain ⟨graph, valid, queue, stock⟩ := fast_tick_edges first inside
    obtain ⟨each, total⟩ := ih (graph ▸ inside)
    obtain ⟨low, within, available⟩ := realized_bounds valid
    refine ⟨List.forall_mem_cons.mpr ⟨⟨⟨valid.queue_nonneg, valid.queue_in_stock⟩, ?_, low, within,
      available⟩, each⟩, ?_⟩
    · have evolved := valid.evolved
      unfold QueueInStock
      dsimp only
      rw [queue, stock]
      exact ⟨evolved.queue_nonneg, evolved.queue_in_stock⟩
    · rw [total, stock, evolved_stock, List.map_cons, List.map_cons, List.sum_cons, List.sum_cons]
      change _ = (edgeAt world input i).stock + _ - _
      dsimp only
      ring

end Runs

/-- The three edge kernels agree, and no run of them creates or loses a vehicle. -/
theorem edge_kernels_agree_and_conserve :
    (∀ (n : ℕ) (ext : EdgeExtensions) (world : WorldState) (input : FastTickInput)
      (queue stock inflow outflow freeFlow capacity : List ℚ), world.graph.numEdges = n →
      (∀ values ∈ [queue, stock, inflow, outflow, freeFlow, capacity], values.length = n) →
      Given world input queue stock inflow outflow freeFlow capacity → ∀ columns : Columns,
      ((∃ world', evolveEdgesFastTick ext world input = .ok world' ∧
        columns = (world'.traffic.edgeQueue, world'.traffic.edgeStock,
          world'.traffic.edgeTravelTime)) ↔
        evolveEdgesBatchImpl queue stock inflow outflow freeFlow capacity = .ok columns)) ∧
    ∀ (ext : EdgeExtensions) (world world' : WorldState)
      (steps : List (Taken WorldState FastTickInput)),
      Trace (evolveEdgesFastTick ext) world steps world' → ∀ i < world.graph.numEdges.toNat,
      Conserves world steps world' i := by
  constructor
  · intro n ext world input queue stock inflow outflow freeFlow capacity edges lengths given columns
    rw [given_tick_ok given edges lengths, crate_batch_ok lengths]
  · intro ext world world' steps run i inside
    exact run_conserves run inside

/-- A world with one edge, before and after a tick. -/
def oneEdge (step : ℤ) (queue stock time : ℚ) : WorldState where
  graph := { numEdges := 1 }
  traffic := { step := step, edgeQueue := [queue], edgeStock := [stock], edgeTravelTime := [time] }

theorem one_edge_conserves :
    (∃ world', evolveEdgesFastTick {} (oneEdge 0 1 3 1)
        ⟨some [2], some [9], some [5], some [4], .baseline⟩ = .ok world' ∧
      (([1], [1], [21 / 4]) : Columns) = (world'.traffic.edgeQueue, world'.traffic.edgeStock,
        world'.traffic.edgeTravelTime)) ∧
    (oneEdge 1 1 1 (21 / 4)).traffic.edgeStock.getD 0 0 = 3 + 2 - 4 := by
  obtain ⟨agree, conserve⟩ := edge_kernels_agree_and_conserve
  constructor
  · refine (agree 1 {} (oneEdge 0 1 3 1) _ [1] [3] [2] [9] [5] [4] rfl (by decide)
      ⟨rfl, rfl, rfl, rfl, rfl, rfl, rfl, rfl⟩ _).mpr ?_
    decide +kernel
  · have step : evolveEdgesFastTick {} (oneEdge 0 1 3 1)
        ⟨some [2], some [9], some [5], some [4], .baseline⟩ = .ok (oneEdge 1 1 1 (21 / 4)) := by
      decide +kernel
    have total := (conserve {} _ _ _ (.next step (.done _)) 0 (by decide)).total
    rw [total]
    decide +kernel

end Metroflow.Multirate.EdgeKernels
