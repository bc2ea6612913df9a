import Metroflow.Lib.GuidedSearch
import Metroflow.Lib.Polyline

namespace Metroflow.City.StreetRoutes

open Lib

/-- Row and column. -/
abbrev Cell := ℤ × ℤ

/-- The evenly spaced coordinates of the rows or of the columns. -/
structure Axis where
  first : ℝ
  spacing : ℝ
  spacing_pos : 0 < spacing

def Axis.at (axis : Axis) (index : ℤ) : ℝ := axis.first + index * axis.spacing

structure TerrainField where
  shape : ℕ × ℕ
  xCoordinatesM : Axis
  yCoordinatesM : Axis
  slopeRisePerM : Cell → ℝ
  waterMask : Cell → Bool
  buildableMask : Cell → Bool
  slope_nonneg : ∀ cell, 0 ≤ slopeRisePerM cell

structure UrbanFormField where
  developmentIntensity : Cell → ℝ
  intensity_range : ∀ cell, 0 ≤ developmentIntensity cell ∧ developmentIntensity cell ≤ 1

section Model

variable (terrain : TerrainField) (urbanForm : UrbanFormField)

def TerrainField.allowed (cell : Cell) : Bool :=
  terrain.buildableMask cell || terrain.waterMask cell

noncomputable def cellCost (cell : Cell) : ℝ :=
  let waterPenalty := if terrain.waterMask cell then 28 else 0
  let slopePenalty := terrain.slopeRisePerM cell * 20
  let developmentPenalty := (1 - urbanForm.developmentIntensity cell) * (35 / 100)
  1 + waterPenalty + slopePenalty + developmentPenalty

def deltas : List (ℤ × ℤ) :=
  [(-1, -1), (-1, 0), (-1, 1), (0, -1), (0, 1), (1, -1), (1, 0), (1, 1)]

def OnGrid (shape : ℕ × ℕ) (cell : Cell) : Prop :=
  0 ≤ cell.1 ∧ cell.1 < shape.1 ∧ 0 ≤ cell.2 ∧ cell.2 < shape.2

instance (shape : ℕ × ℕ) : DecidablePred (OnGrid shape) :=
  fun _ => inferInstanceAs (Decidable (_ ∧ _))

/-- The length of a step by a row and a column difference. -/
noncomputable def stepLength (delta : ℤ × ℤ) : ℝ :=
  if delta.1 ≠ 0 ∧ delta.2 ≠ 0 then Real.sqrt 2 else 1

noncomputable def neighbors (shape : ℕ × ℕ) (cell : Cell) : List (Cell × ℝ) :=
  (deltas.map fun delta => (cell + delta, stepLength delta)).filter fun out => OnGrid shape out.1

/-- Where the search goes on, at the cost of a step. -/
noncomputable def allowedNeighbors (cell : Cell) : List Cell :=
  ((neighbors terrain.shape cell).map Prod.fst).filter terrain.allowed

noncomputable def stepCost (cell nextCell : Cell) : ℝ :=
  stepLength (nextCell - cell) * cellCost terrain urbanForm nextCell

noncomputable def heuristic (goal cell : Cell) : ℝ :=
  Scalar.hypot (goal.1 - cell.1 : ℝ) (goal.2 - cell.2 : ℝ)

/-- Entries are compared as tuples. -/
noncomputable def entryLe (a b : ℝ × ℝ × Cell) : Bool :=
  decide (toLex (a.1, toLex (a.2.1, toLex a.2.2)) ≤ toLex (b.1, toLex (b.2.1, toLex b.2.2)))

/-- The loop over the queue; it ends by itself before the fuel is spent. -/
noncomputable def searched (start goal : Cell) : Guided ℝ Cell :=
  loop (Guided.step (allowedNeighbors terrain) (stepCost terrain urbanForm) (heuristic goal)
    entryLe goal) (8 * (terrain.shape.1 * terrain.shape.2) + 1) (Guided.start start)

noncomputable def reconstructPath (previous : Cell → Option Cell) (goal : Cell) : List Cell :=
  loop (Guided.backStep previous) (terrain.shape.1 * terrain.shape.2) [goal]

noncomputable def astarCells (start goal : Cell) : Except String (List Cell) :=
  if ¬ terrain.allowed start ∨ ¬ terrain.allowed goal then
    .error "street anchors must map to allowed terrain cells"
  else
    let s := searched terrain urbanForm start goal
    if s.reached then .ok (reconstructPath terrain s.previous goal)
    else .error (s!"no terrain-aware path between anchor cells ({start.1}, {start.2})" ++
      s!" and ({goal.1}, {goal.2})")

def waterRunStep (runs : List (Bool × List Cell)) (step : Cell × Cell) :
    List (Bool × List Cell) :=
  let isBridge := terrain.waterMask step.1 || terrain.waterMask step.2
  match runs.getLast? with
  | none => runs ++ [(isBridge, [step.1, step.2])]
  | some last =>
    if last.1 ≠ isBridge then runs ++ [(isBridge, [step.1, step.2])]
    else if last.2.getLast? ≠ some step.2 then runs.dropLast ++ [(last.1, last.2 ++ [step.2])]
    else runs

def splitWaterRuns (cells : List Cell) : Except String (List (Bool × List Cell)) :=
  if cells.length < 2 then .error "street route must contain at least two cells"
  else .ok ((cells.zip cells.tail).foldl (waterRunStep terrain) [])

def cellToPoint (cell : Cell) : PointM ℝ :=
  (terrain.xCoordinatesM.at cell.2, terrain.yCoordinatesM.at cell.1)

end Model

section Simplification

/-- The sign of the way along an axis. -/
noncomputable def axisDirection (left right : ℝ) : ℤ :=
  if right ≠ left then (if right - left < 0 then -1 else 1) else 0

noncomputable def direction (left right : PointM ℝ) : ℤ × ℤ :=
  (axisDirection left.1 right.1, axisDirection left.2 right.2)

/-- The points kept so far and the direction of the step before. -/
structure Simplifying where
  kept : List (PointM ℝ)
  previousDirection : Option (ℤ × ℤ)

noncomputable def simplifyStep (s : Simplifying) (step : PointM ℝ × PointM ℝ) : Simplifying :=
  let turns := s.previousDirection.any fun previous => direction step.1 step.2 ≠ previous
  { kept := if turns then s.kept ++ [step.1] else s.kept
    previousDirection := some (direction step.1 step.2) }

noncomputable def simplifyPoints (points : List (PointM ℝ)) : List (PointM ℝ) :=
  if points.length ≤ 2 then points
  else ((points.zip points.tail).foldl simplifyStep ⟨points.take 1, none⟩).kept ++
    points.getLast?.toList

end Simplification

section Grid

variable {terrain : TerrainField} {urbanForm : UrbanFormField} {cell nextCell start goal : Cell}
  {path : List Cell}

/-- Cells that touch at a side or a corner. -/
def Neighboring (cell nextCell : Cell) : Prop := nextCell - cell ∈ deltas

instance : Decidable (Neighboring cell nextCell) := inferInstanceAs (Decidable (_ ∈ deltas))

/-- The grid's allowed cells, from one to the next neighbour. -/
structure CellRoute (terrain : TerrainField) (start goal : Cell) (path : List Cell) : Prop where
  begins : path.head? = some start
  ends : path.getLast? = some goal
  allowed : ∀ cell ∈ path, OnGrid terrain.shape cell ∧ terrain.allowed cell
  steps : path.IsChain Neighboring

/-- The cost of a way: every step costs its length as often as the cell it enters says. -/
noncomputable def routeCost (terrain : TerrainField) (urbanForm : UrbanFormField)
    (path : List Cell) : ℝ :=
  Guided.pathCost (stepCost terrain urbanForm) path

noncomputable def cells (terrain : TerrainField) : Finset Cell :=
  Finset.Ico 0 (terrain.shape.1 : ℤ) ×ˢ Finset.Ico 0 (terrain.shape.2 : ℤ)

theorem mem_cells : cell ∈ cells terrain ↔ OnGrid terrain.shape cell := by
  rw [cells, Finset.mem_product, Finset.mem_Ico, Finset.mem_Ico, OnGrid, and_assoc]

theorem card_cells : (cells terrain).card = terrain.shape.1 * terrain.shape.2 := by
  simp [cells]

theorem mem_neighbors {length : ℝ} : (nextCell, length) ∈ neighbors terrain.shape cell ↔
    Neighboring cell nextCell ∧ OnGrid terrain.shape nextCell ∧
      length = stepLength (nextCell - cell) := by
  rw [neighbors, List.mem_filter, List.mem_map, decide_eq_true_eq]
  constructor
  · rintro ⟨⟨delta, listed, same⟩, inside⟩
    obtain ⟨rfl, rfl⟩ := Prod.ext_iff.mp same
    have back : cell + delta - cell = delta := add_sub_cancel_left cell delta
    exact ⟨by rwa [Neighboring, back], inside, by rw [back]⟩
  · rintro ⟨near, inside, rfl⟩
    exact ⟨⟨nextCell - cell, near, by rw [add_sub_cancel]⟩, inside⟩

theorem mem_allowed_neighbors : nextCell ∈ allowedNeighbors terrain cell ↔
    Neighboring cell nextCell ∧ OnGrid terrain.shape nextCell ∧ terrain.allowed nextCell := by
  rw [allowedNeighbors, List.mem_filter, List.mem_map]
  constructor
  · rintro ⟨⟨⟨out, length⟩, listed, rfl⟩, free⟩
    obtain ⟨near, inside, -⟩ := mem_neighbors.mp listed
    exact ⟨near, inside, free⟩
  · rintro ⟨near, inside, free⟩
    exact ⟨⟨(nextCell, _), mem_neighbors.mpr ⟨near, inside, rfl⟩, rfl⟩, free⟩

theorem one_le_cell_cost : 1 ≤ cellCost terrain urbanForm cell := by
  have slope := terrain.slope_nonneg cell
  have developed := (urbanForm.intensity_range cell).2
  unfold cellCost
  dsimp only
  split <;> linarith

theorem hypot_delta {delta : ℤ × ℤ} (listed : delta ∈ deltas) :
    Scalar.hypot (delta.1 : ℝ) (delta.2 : ℝ) = stepLength delta := by
  have root_one : Real.sqrt 1 = 1 := Real.sqrt_one
  simp only [deltas, List.mem_cons, List.not_mem_nil, or_false] at listed
  rcases listed with rfl | rfl | rfl | rfl | rfl | rfl | rfl | rfl <;>
    norm_num [stepLength, Scalar.hypot]

theorem heuristic_eq : heuristic goal cell =
    Scalar.dist ((goal.1, goal.2) : PointM ℝ) (cell.1, cell.2) := rfl

theorem heuristic_consistent (near : Neighboring cell nextCell) :
    heuristic goal cell ≤ stepCost terrain urbanForm cell nextCell + heuristic goal nextCell := by
  have length : Scalar.dist ((nextCell.1, nextCell.2) : PointM ℝ) (cell.1, cell.2) =
      stepLength (nextCell - cell) := by
    rw [← hypot_delta near]
    simp [Scalar.dist]
  have long : 0 ≤ stepLength (nextCell - cell) := by
    rw [← length]
    exact Scalar.dist_nonneg
  have costs : stepLength (nextCell - cell) ≤ stepCost terrain urbanForm cell nextCell :=
    le_mul_of_one_le_right long one_le_cell_cost
  have triangle := Scalar.dist_le_add ((goal.1, goal.2) : PointM ℝ) (nextCell.1, nextCell.2)
    (cell.1, cell.2)
  rw [heuristic_eq, heuristic_eq]
  linarith

theorem step_cost_pos : 0 < stepCost terrain urbanForm cell nextCell := by
  refine mul_pos ?_ (one_pos.trans_le one_le_cell_cost)
  unfold stepLength
  split
  · exact Real.sqrt_pos.mpr two_pos
  · exact one_pos

theorem grid_graph : Guided.Graph (allowedNeighbors terrain) (stepCost terrain urbanForm)
    (heuristic goal) goal (cells terrain) 8 where
  inside u _ v out := mem_cells.mpr (mem_allowed_neighbors.mp out).2.1
  degree u := by
    refine (List.length_filter_le _ _).trans ?_
    rw [List.length_map]
    exact List.length_filter_le _ _
  positive u v _ := step_cost_pos
  consistent u v out := heuristic_consistent (mem_allowed_neighbors.mp out).1
  at_goal := by
    rw [heuristic_eq]
    exact Scalar.dist_same

theorem entry_le_estimate (a b : ℝ × ℝ × Cell) (before : entryLe a b) : a.1 ≤ b.1 := by
  rw [entryLe, decide_eq_true_eq, Prod.Lex.toLex_le_toLex] at before
  exact before.elim le_of_lt fun same => same.1.le

theorem entry_le_total (a b : ℝ × ℝ × Cell) : entryLe a b ∨ entryLe b a := by
  simp only [entryLe, decide_eq_true_eq]
  exact le_total _ _

theorem entry_le_trans (a b c : ℝ × ℝ × Cell) (first : entryLe a b) (second : entryLe b c) :
    entryLe a c := by
  simp only [entryLe, decide_eq_true_eq] at first second ⊢
  exact first.trans second

theorem steps_iff : (cell :: path).IsChain (fun u v => v ∈ allowedNeighbors terrain u) ↔
    (cell :: path).IsChain Neighboring ∧
      ∀ c ∈ path, OnGrid terrain.shape c ∧ terrain.allowed c := by
  induction path generalizing cell with
  | nil => simp
  | cons c path ih =>
    rw [List.isChain_cons_cons, List.isChain_cons_cons, ih, mem_allowed_neighbors,
      List.forall_mem_cons]
    constructor
    · rintro ⟨⟨near, here⟩, steps, later⟩
      exact ⟨⟨near, steps⟩, here, later⟩
    · rintro ⟨⟨near, steps⟩, here, later⟩
      exact ⟨⟨near, here⟩, steps, later⟩

theorem cell_route_iff (inside : OnGrid terrain.shape start) (free : terrain.allowed start) :
    CellRoute terrain start goal path ↔
      Guided.Route (allowedNeighbors terrain) start goal path := by
  constructor
  · rintro ⟨begins, ends, allowed, steps⟩
    refine ⟨begins, ends, ?_⟩
    obtain ⟨rest, rfl⟩ := List.head?_eq_some_iff.mp begins
    exact steps_iff.mpr ⟨steps, fun c later => allowed c (List.mem_cons_of_mem _ later)⟩
  · rintro ⟨begins, ends, steps⟩
    obtain ⟨rest, rfl⟩ := List.head?_eq_some_iff.mp begins
    obtain ⟨near, later⟩ := steps_iff.mp steps
    exact ⟨begins, ends, List.forall_mem_cons.mpr ⟨⟨inside, free⟩, later⟩, near⟩

theorem searched_spec (terrain : TerrainField) (urbanForm : UrbanFormField)
    (inside : OnGrid terrain.shape start) :
    Guided.Finished (allowedNeighbors terrain) (stepCost terrain urbanForm) start goal
      (searched terrain urbanForm start goal) ∧
    ∀ c, (searched terrain urbanForm start goal).best goal = some c →
      let path := reconstructPath terrain (searched terrain urbanForm start goal).previous goal
      Guided.Route (allowedNeighbors terrain) start goal path ∧
      routeCost terrain urbanForm path ≤ c ∧
      Guided.backStep (searched terrain urbanForm start goal).previous path = none := by
  have known : start ∈ cells terrain := mem_cells.mpr inside
  obtain ⟨S, level, settled, finished⟩ := Guided.search
    (grid_graph : Guided.Graph _ (stepCost terrain urbanForm) (heuristic goal) goal _ _)
    entry_le_estimate entry_le_total entry_le_trans known rfl
  rw [card_cells] at settled finished
  refine ⟨finished, fun c label => ?_⟩
  have enough := (Finset.card_filter_le (cells terrain) fun w =>
    ((searched terrain urbanForm start goal).best w).any (· < c)).trans card_cells.le
  obtain ⟨route, cost, ended⟩ := settled.route grid_graph label (List.isChain_singleton goal) rfl
    enough
  refine ⟨route, cost.trans ?_, ended⟩
  simp [Guided.pathCost]

theorem astar_cells_spec (terrain : TerrainField) (urbanForm : UrbanFormField)
    (start_inside : OnGrid terrain.shape start) (start_free : terrain.allowed start)
    (goal_free : terrain.allowed goal) :
    (∃ path, astarCells terrain urbanForm start goal = .ok path ∧
      CellRoute terrain start goal path ∧ ∀ other, CellRoute terrain start goal other →
        routeCost terrain urbanForm path ≤ routeCost terrain urbanForm other) ∨
    (∃ e, astarCells terrain urbanForm start goal = .error e) ∧
      ∀ path, ¬ CellRoute terrain start goal path := by
  obtain ⟨finished, back⟩ := @searched_spec start goal terrain urbanForm start_inside
  unfold astarCells
  rw [if_neg (by simp [start_free, goal_free])]
  dsimp only
  rcases finished with ⟨reached, c, label, least⟩ | ⟨searching, -, none⟩
  · rw [if_pos reached]
    obtain ⟨route, cost, -⟩ := back c label
    refine .inl ⟨_, rfl, (cell_route_iff start_inside start_free).mpr route, fun other way => ?_⟩
    exact cost.trans (least other ((cell_route_iff start_inside start_free).mp way))
  · rw [searching, if_neg Bool.false_ne_true]
    exact .inr ⟨⟨_, rfl⟩, fun path way =>
      none path ((cell_route_iff start_inside start_free).mp way)⟩

end Grid

section Runs

variable {terrain : TerrainField} {cells past : List Cell} {runs init : List (Bool × List Cell)}
  {left right : Cell} {flag : Bool} {run : List Cell}

def joined (runs : List (Bool × List Cell)) : List Cell :=
  (runs.head?.map Prod.snd).getD [] ++ runs.tail.flatMap fun run => run.2.tail

/-- A way cut into runs on and off the water. -/
structure WaterRuns (terrain : TerrainField) (cells : List Cell)
    (runs : List (Bool × List Cell)) : Prop where
  joined_eq : joined runs = cells
  linked : runs.IsChain fun run next => run.1 ≠ next.1 ∧ run.2.getLast? = next.2.head?
  steps : ∀ run ∈ runs, 2 ≤ run.2.length ∧
    run.2.IsChain fun u v => run.1 = (terrain.waterMask u || terrain.waterMask v)

theorem joined_snoc {run : Bool × List Cell} (some_run : runs ≠ []) :
    joined (runs ++ [run]) = joined runs ++ run.2.tail := by
  cases runs with
  | nil => exact absurd rfl some_run
  | cons first rest => simp [joined]

theorem joined_grow {last : List Cell} (filled : last ≠ []) :
    joined (init ++ [(flag, last ++ [right])]) = joined (init ++ [(flag, last)]) ++ [right] := by
  cases init with
  | nil => simp [joined]
  | cons first rest => simp [joined, List.tail_append_of_ne_nil filled]

theorem WaterRuns.step (held : WaterRuns terrain past (init ++ [(flag, run ++ [left])]))
    (moves : left ≠ right) :
    ∃ init' flag' run', waterRunStep terrain (init ++ [(flag, run ++ [left])]) (left, right) =
        init' ++ [(flag', run' ++ [right])] ∧
      WaterRuns terrain (past ++ [right]) (init' ++ [(flag', run' ++ [right])]) := by
  obtain ⟨joined_eq, linked, steps⟩ := held
  obtain ⟨before, ⟨long, chain⟩⟩ := List.forall_mem_append.mp steps |>.imp_right
    List.forall_mem_singleton.mp
  unfold waterRunStep
  dsimp only
  rw [List.getLast?_concat]
  dsimp only
  by_cases same : flag = (terrain.waterMask left || terrain.waterMask right)
  · have ends : (run ++ [left]).getLast? ≠ some right := by
      rw [List.getLast?_concat]
      exact fun stays => moves (Option.some.inj stays)
    rw [if_neg (not_not_intro same), if_pos ends, List.dropLast_concat]
    refine ⟨init, flag, run ++ [left], rfl, ?_, ?_, ?_⟩
    · rw [joined_grow (by simp), joined_eq]
    · obtain ⟨earlier, -, joins⟩ := List.isChain_append.mp linked
      refine earlier.append (List.isChain_singleton _) fun x at_end y at_start => ?_
      obtain ⟨other, meets⟩ := joins x at_end _ rfl
      obtain rfl := Option.some.inj at_start
      exact ⟨other, meets.trans (by cases run <;> rfl)⟩
    · refine List.forall_mem_append.mpr ⟨before, List.forall_mem_singleton.mpr
        ⟨long.trans (by simp), ?_⟩⟩
      refine chain.append (List.isChain_singleton right) fun u at_end v at_start => ?_
      rw [List.getLast?_concat] at at_end
      obtain rfl := Option.some.inj at_end
      obtain rfl := Option.some.inj at_start
      exact same
  · rw [if_pos same]
    refine ⟨init ++ [(flag, run ++ [left])], _, [left], rfl, ?_, ?_, ?_⟩
    · rw [joined_snoc (by simp), joined_eq]
      rfl
    · refine linked.append (List.isChain_singleton _) fun x at_end y at_start => ?_
      rw [List.getLast?_concat] at at_end
      obtain rfl := Option.some.inj at_end
      obtain rfl := Option.some.inj at_start
      exact ⟨same, List.getLast?_concat⟩
    · refine List.forall_mem_append.mpr ⟨steps, List.forall_mem_singleton.mpr ⟨le_rfl, ?_⟩⟩
      exact List.isChain_pair.mpr rfl

theorem split_water_runs_spec (terrain : TerrainField) (long : 2 ≤ cells.length)
    (moves : cells.IsChain (· ≠ ·)) :
    ∃ runs, splitWaterRuns terrain cells = .ok runs ∧ WaterRuns terrain cells runs := by
  have general : ∀ (rest past : List Cell) (left : Cell) init flag run,
      (left :: rest).IsChain (· ≠ ·) →
      WaterRuns terrain (past ++ [left]) (init ++ [(flag, run ++ [left])]) →
      WaterRuns terrain (past ++ left :: rest) (((left :: rest).zip rest).foldl
        (waterRunStep terrain) (init ++ [(flag, run ++ [left])])) := by
    intro rest
    induction rest with
    | nil => exact fun past left init flag run _ held => held
    | cons right rest ih =>
      intro past left init flag run moves held
      obtain ⟨apart, later⟩ := List.isChain_cons_cons.mp moves
      obtain ⟨init', flag', run', step, now⟩ := held.step apart
      rw [List.zip_cons_cons, List.foldl_cons, step]
      have done := ih (past ++ [left]) right init' flag' run' later now
      rwa [List.append_assoc] at done
  match cells, long with
  | first :: second :: rest, _ =>
    refine ⟨_, if_neg (by simp), ?_⟩
    obtain ⟨-, later⟩ := List.isChain_cons_cons.mp moves
    exact general rest [first] second [] _ [first] later
      ⟨rfl, List.isChain_singleton _, List.forall_mem_singleton.mpr
        ⟨le_rfl, List.isChain_pair.mpr rfl⟩⟩

theorem run_within (linked : runs.IsChain fun run next => run.1 ≠ next.1 ∧
      run.2.getLast? = next.2.head?) (filled : ∀ run ∈ runs, 2 ≤ run.2.length) :
    ∀ run ∈ runs, run.2 <:+: joined runs := by
  induction runs with
  | nil => simp
  | cons first rest ih =>
    refine List.forall_mem_cons.mpr ⟨⟨[], _, rfl⟩, ?_⟩
    cases rest with
    | nil => simp
    | cons next rest =>
      obtain ⟨⟨-, meets⟩, later⟩ := List.isChain_cons_cons.mp linked
      obtain ⟨-, others⟩ := List.forall_mem_cons.mp filled
      have some_cells := others next List.mem_cons_self
      obtain ⟨x, cells, next_eq⟩ := List.exists_cons_of_length_pos (two_pos.trans_le some_cells)
      obtain ⟨start, first_eq⟩ := List.getLast?_eq_some_iff.mp (meets.trans (by rw [next_eq]; rfl))
      have suffix : joined (next :: rest) <:+: joined (first :: next :: rest) := by
        refine ⟨start, [], ?_⟩
        simp [joined, first_eq, next_eq]
      exact fun run listed => (ih later others run listed).trans suffix

end Runs

section Corners

variable {terrain : TerrainField} {spacing k l r : PointM ℝ} {points rest : List (PointM ℝ)}
  {cell nextCell : Cell} {m : ℕ} {d : ℤ × ℤ}

/-- Goes some steps of a direction. -/
def ahead (spacing p : PointM ℝ) (m : ℕ) (d : ℤ × ℤ) : PointM ℝ :=
  (p.1 + m * (d.1 * spacing.1), p.2 + m * (d.2 * spacing.2))

def GridStep (spacing l r : PointM ℝ) : Prop := l ≠ r ∧ r = ahead spacing l 1 (direction l r)

/-- Lines of the same course: the same ends and the same point at every arc length. -/
structure SameCourse (points simplified : List (PointM ℝ)) : Prop where
  first : simplified.head? = points.head?
  last : simplified.getLast? = points.getLast?
  length : Scalar.pathLength simplified = Scalar.pathLength points
  course : ∀ s, Scalar.curve simplified s = Scalar.curve points s

theorem axis_direction_step {x y gap : ℝ} {j : ℤ} (gap_pos : 0 < gap) (step : y = x + j * gap)
    (unit : j = -1 ∨ j = 0 ∨ j = 1) : axisDirection x y = j := by
  unfold axisDirection
  rcases unit with rfl | rfl | rfl
  · have back : y = x - gap := by rw [step]; push_cast; ring
    rw [if_pos (by rw [back]; linarith), if_pos (by linarith)]
  · have stays : y = x := by rw [step]; push_cast; ring
    rw [if_neg (not_not_intro stays)]
  · have on : y = x + gap := by rw [step]; push_cast; ring
    rw [if_pos (by rw [on]; linarith), if_neg (by linarith)]

theorem delta_units {delta : ℤ × ℤ} (listed : delta ∈ deltas) :
    (delta.1 = -1 ∨ delta.1 = 0 ∨ delta.1 = 1) ∧ (delta.2 = -1 ∨ delta.2 = 0 ∨ delta.2 = 1) ∧
      (delta.1 ≠ 0 ∨ delta.2 ≠ 0) := by
  revert delta
  decide

theorem Neighboring.ne (near : Neighboring cell nextCell) : cell ≠ nextCell := by
  rintro rfl
  have moves := (delta_units near).2.2
  simp at moves

theorem grid_step_of_neighboring (near : Neighboring cell nextCell) :
    GridStep (terrain.xCoordinatesM.spacing, terrain.yCoordinatesM.spacing)
      (cellToPoint terrain cell) (cellToPoint terrain nextCell) := by
  obtain ⟨row_unit, column_unit, moves⟩ := delta_units near
  have x_step : (cellToPoint terrain nextCell).1 = (cellToPoint terrain cell).1 +
      ((nextCell - cell).2 : ℤ) * terrain.xCoordinatesM.spacing := by
    simp only [cellToPoint, Axis.at, Prod.snd_sub]
    push_cast
    ring
  have y_step : (cellToPoint terrain nextCell).2 = (cellToPoint terrain cell).2 +
      ((nextCell - cell).1 : ℤ) * terrain.yCoordinatesM.spacing := by
    simp only [cellToPoint, Axis.at, Prod.fst_sub]
    push_cast
    ring
  have x_direction := axis_direction_step terrain.xCoordinatesM.spacing_pos x_step column_unit
  have y_direction := axis_direction_step terrain.yCoordinatesM.spacing_pos y_step row_unit
  constructor
  · intro same
    rw [← same] at x_direction y_direction
    have flat : ∀ x, axisDirection x x = 0 := fun x => if_neg (not_not_intro rfl)
    rw [flat] at x_direction y_direction
    exact moves.elim (· y_direction.symm) (· x_direction.symm)
  · refine Prod.ext ?_ ?_
    · simp only [ahead, direction, x_direction, Nat.cast_one, one_mul]
      exact x_step
    · simp only [ahead, direction, y_direction, Nat.cast_one, one_mul]
      exact y_step

theorem ahead_between : ahead spacing k m d =
    Scalar.along k (ahead spacing k (m + 1) d) (m / (m + 1)) := by
  have long : (m : ℝ) + 1 ≠ 0 := by positivity
  refine Prod.ext ?_ ?_ <;>
  · simp only [ahead, Scalar.along]
    push_cast
    field_simp
    ring

theorem ahead_ne (moves : k ≠ ahead spacing k m d) : k ≠ ahead spacing k (m + 1) d := by
  intro same
  have flat : ∀ {x a : ℝ}, x = x + ((m + 1 : ℕ) : ℝ) * a → a = 0 := by
    intro x a stays
    have none : ((m + 1 : ℕ) : ℝ) * a = 0 := by linarith
    exact (mul_eq_zero.mp none).resolve_left (by positivity)
  obtain ⟨x, y⟩ := Prod.ext_iff.mp same
  refine moves (Prod.ext ?_ ?_)
  · simp [ahead, flat x]
  · simp [ahead, flat y]

/-- The loop from inside a straight piece: what it keeps has the course of the whole. -/
theorem simplify_rest (front : List (PointM ℝ)) (moves : k ≠ l) (straight : l = ahead spacing k m d)
    (begun : 0 < m) (chain : (l :: rest).IsChain (GridStep spacing)) :
    ∃ more, (((l :: rest).zip rest).foldl simplifyStep ⟨front ++ [k], some d⟩).kept =
        front ++ k :: more ∧
      Scalar.pathLength (front ++ k :: more ++ (l :: rest).getLast?.toList) =
        Scalar.pathLength (front ++ k :: l :: rest) ∧
      ∀ s, Scalar.curve (front ++ k :: more ++ (l :: rest).getLast?.toList) s =
        Scalar.curve (front ++ k :: l :: rest) s := by
  induction rest generalizing front k l m d with
  | nil => exact ⟨[], rfl, by simp, by simp⟩
  | cons r rest ih =>
    obtain ⟨⟨apart, step⟩, later⟩ := List.isChain_cons_cons.mp chain
    rw [List.zip_cons_cons, List.foldl_cons, List.getLast?_cons_cons]
    by_cases on : direction l r = d
    · have through : r = ahead spacing k (m + 1) d := by
        rw [step, on, straight]
        refine Prod.ext ?_ ?_ <;>
        · simp only [ahead]
          push_cast
          ring
      have far : k ≠ r := by
        rw [through]
        exact ahead_ne (straight ▸ moves)
      have kept : simplifyStep ⟨front ++ [k], some d⟩ (l, r) = ⟨front ++ [k], some d⟩ := by
        simp [simplifyStep, on]
      have placed : l = Scalar.along k r (m / (m + 1)) := by
        rw [through, straight]
        exact ahead_between
      have m_pos : (0 : ℝ) < m := Nat.cast_pos.mpr begun
      have after : (0 : ℝ) < m / (m + 1) := by positivity
      have before : (m : ℝ) / (m + 1) < 1 := by
        rw [div_lt_one (by positivity)]
        linarith
      obtain ⟨more, built, length, course⟩ := ih front far through m.succ_pos later
      rw [kept]
      refine ⟨more, built, length.trans ?_, fun s => (course s).trans ?_⟩
      · rw [placed]
        exact (Scalar.path_length_insert after before).symm
      · rw [placed]
        exact (Scalar.curve_insert (Scalar.dist_pos far) after before s).symm
    · have kept : simplifyStep ⟨front ++ [k], some d⟩ (l, r) =
          ⟨front ++ [k] ++ [l], some (direction l r)⟩ := by
        simp [simplifyStep, on]
      obtain ⟨more, built, length, course⟩ := ih (front ++ [k]) apart step one_pos later
      rw [kept]
      simp only [List.append_assoc, List.cons_append] at built length course ⊢
      exact ⟨l :: more, built, length, course⟩

theorem simplify_points_spec (spacing : PointM ℝ) (chain : points.IsChain (GridStep spacing)) :
    SameCourse points (simplifyPoints points) := by
  unfold simplifyPoints
  split
  · exact ⟨rfl, rfl, rfl, fun _ => rfl⟩
  rename_i long
  rcases points with _ | ⟨a, _ | ⟨b, _ | ⟨c, rest⟩⟩⟩
  · exact absurd (Nat.zero_le 2) long
  · exact absurd one_le_two long
  · exact absurd le_rfl long
  obtain ⟨⟨apart, step⟩, later⟩ := List.isChain_cons_cons.mp chain
  obtain ⟨more, built, length, course⟩ := simplify_rest [] apart step one_pos later
  have loop : (((a :: b :: c :: rest).zip (a :: b :: c :: rest).tail).foldl simplifyStep
      ⟨(a :: b :: c :: rest).take 1, none⟩).kept = a :: more := built
  have last : (b :: c :: rest).getLast? = some ((b :: c :: rest).getLast nofun) :=
    List.getLast?_eq_some_getLast _
  rw [loop]
  refine ⟨rfl, ?_, length, course⟩
  rw [List.getLast?_cons_cons, last]
  exact List.getLast?_concat

end Corners

variable {start goal : Cell}

/-- Streets over terrain take a cheapest way, cut into runs on and off the water whose lines are
thinned without a change of their course. -/
theorem street_routes_shortest (terrain : TerrainField) (urbanForm : UrbanFormField)
    (start_inside : OnGrid terrain.shape start) (start_free : terrain.allowed start)
    (goal_free : terrain.allowed goal) :
    ((∃ e, astarCells terrain urbanForm start goal = .error e) ↔
      ¬ ∃ path, CellRoute terrain start goal path) ∧
    (∀ path, astarCells terrain urbanForm start goal = .ok path →
      CellRoute terrain start goal path ∧ ∀ other, CellRoute terrain start goal other →
        routeCost terrain urbanForm path ≤ routeCost terrain urbanForm other) ∧
    ∀ cells : List Cell, 2 ≤ cells.length → cells.IsChain Neighboring →
      ∃ runs, splitWaterRuns terrain cells = .ok runs ∧ WaterRuns terrain cells runs ∧
        ∀ run ∈ runs, SameCourse (run.2.map (cellToPoint terrain))
          (simplifyPoints (run.2.map (cellToPoint terrain))) := by
  refine ⟨?_, fun path found => ?_, fun cells long near => ?_⟩
  · rcases astar_cells_spec terrain urbanForm start_inside start_free goal_free with
      ⟨path, found, route, -⟩ | ⟨failed, none⟩
    · rw [found]
      exact ⟨nofun, fun no_route => absurd ⟨path, route⟩ no_route⟩
    · exact ⟨fun _ ⟨path, route⟩ => none path route, fun _ => failed⟩
  · rcases astar_cells_spec terrain urbanForm start_inside start_free goal_free with
      ⟨path', found', spec⟩ | ⟨⟨e, failed⟩, -⟩
    · obtain rfl := Except.ok.inj (found.symm.trans found')
      exact spec
    · rw [failed] at found
      cases found
  · obtain ⟨runs, split, held⟩ := split_water_runs_spec terrain long
      (near.imp fun _ _ => Neighboring.ne)
    refine ⟨runs, split, held, fun run listed => simplify_points_spec
      (terrain.xCoordinatesM.spacing, terrain.yCoordinatesM.spacing) ?_⟩
    have piece := run_within held.linked (fun run listed => (held.steps run listed).1) run listed
    rw [held.joined_eq] at piece
    rw [List.isChain_map]
    have inner := near.infix piece
    exact inner.imp fun _ _ => grid_step_of_neighboring

noncomputable def twoCells : TerrainField where
  shape := (1, 2)
  xCoordinatesM := ⟨0, 1, one_pos⟩
  yCoordinatesM := ⟨0, 1, one_pos⟩
  slopeRisePerM _ := 0
  waterMask _ := false
  buildableMask _ := true
  slope_nonneg _ := le_rfl

noncomputable def undeveloped : UrbanFormField where
  developmentIntensity _ := 0
  intensity_range _ := ⟨le_rfl, zero_le_one⟩

theorem two_cells_routed : ∃ path, astarCells twoCells undeveloped (0, 0) (0, 1) = .ok path ∧
    CellRoute twoCells (0, 0) (0, 1) path := by
  have spec := @street_routes_shortest (0, 0) (0, 1) twoCells undeveloped
    ⟨le_rfl, one_pos, le_rfl, two_pos⟩ rfl rfl
  have direct : CellRoute twoCells (0, 0) (0, 1) [(0, 0), (0, 1)] := by
    refine ⟨rfl, rfl, fun cell listed => ⟨?_, rfl⟩, List.isChain_pair.mpr (by decide)⟩
    rcases List.mem_pair.mp listed with rfl | rfl
    · exact ⟨le_rfl, one_pos, le_rfl, two_pos⟩
    · exact ⟨le_rfl, one_pos, zero_le_one, one_lt_two⟩
  cases ran : astarCells twoCells undeveloped (0, 0) (0, 1) with
  | error e => exact absurd ⟨_, direct⟩ (spec.1.mp ⟨e, ran⟩)
  | ok path => exact ⟨path, rfl, (spec.2.1 path ran).1⟩

end Metroflow.City.StreetRoutes
