import Metroflow.City.StreetIncidence
import Metroflow.Lib.Polyline

namespace Metroflow.City.StreetTopologyBuilder

open Metroflow.Lib
open Metroflow.Lib.Scalar (Piece Reaches reach curve)

section Places

variable {b : StreetTopologyBuilder ℝ} {nodeIds : List ℕ} {index last : ℕ} {s travelled : ℝ}
  {street : Street} {street_id : ℤ} {piece : Piece ℕ}

theorem weld_tolerance_real : (weldToleranceM : ℝ) = 1 / 4 := by
  unfold weldToleranceM
  change (1 : ℝ) / ((4 : ℤ) : ℝ) = 1 / 4
  norm_num

noncomputable def weldPlace (b : StreetTopologyBuilder ℝ) (piece : Piece ℕ) : SplitPlace ℝ :=
  let span := Scalar.dist (b.pointOf piece.left) (b.pointOf piece.right)
  if piece.remainder ≤ 1 / 4 ∧ span - piece.remainder ≤ 1 / 4 then
    .vertex (if piece.remainder ≤ span - piece.remainder then piece.left else piece.right)
  else if piece.remainder ≤ 1 / 4 then .vertex piece.left
  else if span - piece.remainder ≤ 1 / 4 then .vertex piece.right
  else .inside piece.index
    (Scalar.along (b.pointOf piece.left) (b.pointOf piece.right) (piece.remainder / span))

theorem locate_arc_eq (index : ℕ) (travelled s : ℝ) (ends : nodeIds.getLast? = some last) :
    b.locateArc (travelled + s) index travelled nodeIds =
      .ok (match reach b.pointOf index s nodeIds with
        | none => .vertex last
        | some piece => b.weldPlace piece) := by
  induction nodeIds generalizing index s travelled with
  | nil => cases ends
  | cons left rest ih =>
    cases rest with
    | nil =>
      obtain rfl := Option.some.inj ends
      rfl
    | cons right rest =>
      rw [List.getLast?_cons_cons] at ends
      unfold locateArc reach
      dsimp only
      split
      · exact ih _ _ _ ends
      rename_i long
      have passed : travelled + Scalar.dist (b.pointOf left) (b.pointOf right) < travelled + s ↔
          Scalar.dist (b.pointOf left) (b.pointOf right) < s := add_lt_add_iff_left travelled
      by_cases beyond : Scalar.dist (b.pointOf left) (b.pointOf right) < s
      · rw [if_pos (passed.mpr beyond), if_pos beyond, ← ih _ _ _ ends]
        congr 1
        ring
      · rw [if_neg (mt passed.mp beyond), if_neg beyond, add_sub_cancel_left, weld_tolerance_real]
        unfold weldPlace
        dsimp only
        split_ifs <;> rfl

theorem street_last (kept : Incidence b) (found : b.streets[street_id.toNat]? = some street) :
    ∃ last, street.nodeIds.getLast? = some last :=
  Option.ne_none_iff_exists'.mp fun none =>
    kept.nonempty street (List.mem_of_getElem? found) (List.getLast?_eq_none_iff.mp none)

/-- Where a split falls: the place on its piece, or the first vertex of the street near it. -/
noncomputable def resolved (b : StreetTopologyBuilder ℝ) (nodeIds : List ℕ) (last : ℕ) (s : ℝ) :
    SplitPlace ℝ :=
  match Scalar.reach b.pointOf 0 s nodeIds with
  | none => .vertex last
  | some piece =>
    match b.weldPlace piece with
    | .vertex nodeId => .vertex nodeId
    | .inside index point =>
      match nodeIds.find? fun existing =>
          decide (Scalar.dist (b.pointOf existing) point ≤ 1 / 4) with
      | some existing => .vertex existing
      | none => .inside index point

theorem split_place_eq (street_ok : b.requireStreet street_id = .ok street) (nonneg : 0 ≤ s)
    (within : s ≤ b.arcLengthOf street + 1 / 4) (ends : street.nodeIds.getLast? = some last) :
    b.splitPlace street_id s = .ok (b.resolved street.nodeIds last s) := by
  have located := locate_arc_eq (b := b) 0 0 s ends
  rw [zero_add] at located
  unfold splitPlace
  refine bind_ok.mpr ⟨street, street_ok, ?_⟩
  have finite : ¬(Scalar.isfinite s = false ∨ s < 0) := by
    rintro (infinite | negative)
    · cases infinite
    · exact absurd negative (not_lt.mpr nonneg)
  dsimp only
  rw [if_neg finite, weld_tolerance_real, if_neg (not_lt.mpr within), located]
  unfold resolved
  cases reach b.pointOf 0 s street.nodeIds with
  | none => rfl
  | some piece =>
    dsimp only
    cases b.weldPlace piece with
    | vertex nodeId => rfl
    | inside index point =>
      dsimp only
      generalize street.nodeIds.find? _ = found
      cases found <;> rfl

theorem weld_place_near (h : Reaches b.pointOf nodeIds index s piece) :
    match b.weldPlace piece with
    | .vertex nodeId => nodeId ∈ nodeIds ∧
        Scalar.dist (b.pointOf nodeId) (curve (nodeIds.map b.pointOf) s) ≤ 1 / 4
    | .inside place point => place = piece.index ∧
        point = curve (nodeIds.map b.pointOf) s ∧
        1 / 4 < piece.remainder ∧
        1 / 4 < Scalar.dist (b.pointOf piece.left) (b.pointOf piece.right) - piece.remainder := by
  obtain ⟨at_left, at_right⟩ := h.dists
  obtain ⟨⟨front, rest, split, -⟩, -, -, point⟩ := h
  have left_on : piece.left ∈ nodeIds := by simp [split]
  have right_on : piece.right ∈ nodeIds := by simp [split]
  unfold weldPlace
  dsimp only
  split_ifs with both nearer left_close right_close
  · exact ⟨left_on, at_left.trans_le both.1⟩
  · exact ⟨right_on, at_right.trans_le both.2⟩
  · exact ⟨left_on, at_left.trans_le left_close⟩
  · exact ⟨right_on, at_right.trans_le right_close⟩
  · exact ⟨rfl, point.symm, not_le.mp left_close, not_le.mp right_close⟩

theorem resolved_spec (nonneg : 0 ≤ s) (ends : nodeIds.getLast? = some last) :
    (∃ nodeId ∈ nodeIds, b.resolved nodeIds last s = .vertex nodeId ∧
      Scalar.dist (b.pointOf nodeId) (curve (nodeIds.map b.pointOf) s) ≤ 1 / 4) ∨
    ∃ piece, reach b.pointOf 0 s nodeIds = some piece ∧
      b.resolved nodeIds last s = .inside piece.index (curve (nodeIds.map b.pointOf) s) ∧
      1 / 4 < piece.remainder ∧
      1 / 4 < Scalar.dist (b.pointOf piece.left) (b.pointOf piece.right) - piece.remainder ∧
      ∀ nodeId ∈ nodeIds,
        1 / 4 < Scalar.dist (b.pointOf nodeId) (curve (nodeIds.map b.pointOf) s) := by
  unfold resolved
  cases found : reach b.pointOf 0 s nodeIds with
  | none =>
    refine .inl ⟨last, List.mem_of_getLast? ends, rfl, ?_⟩
    rw [Scalar.reach_none nonneg found ends, Scalar.dist_same]
    norm_num
  | some piece =>
    have near := weld_place_near (Scalar.reach_spec nonneg found)
    dsimp only
    cases place : b.weldPlace piece with
    | vertex nodeId =>
      rw [place] at near
      exact .inl ⟨nodeId, near.1, rfl, near.2⟩
    | inside index point =>
      rw [place] at near
      obtain ⟨rfl, rfl, left, right⟩ := near
      dsimp only
      cases search : nodeIds.find? fun existing =>
          decide (Scalar.dist (b.pointOf existing) (curve (nodeIds.map b.pointOf) s) ≤ 1 / 4) with
      | some existing =>
        refine .inl ⟨existing, List.mem_of_find?_eq_some search, rfl, ?_⟩
        have hit := List.find?_some search
        exact of_decide_eq_true hit
      | none =>
        refine .inr ⟨piece, rfl, rfl, left, right, fun nodeId listed => ?_⟩
        have far := List.find?_eq_none.mp search nodeId listed
        rw [decide_eq_true_eq] at far
        exact not_le.mp far

end Places

section Splits

variable {b b' : StreetTopologyBuilder ℝ} {front rest : List ℕ} {l r n streetId : ℕ} {s : ℝ}
  {street : Street} {street_id : ℤ} {x : PointM ℝ}

noncomputable def polyline (b : StreetTopologyBuilder ℝ) (streetId : ℕ) : List (PointM ℝ) :=
  (b.nodeIdsOf streetId).map b.pointOf

/-- What a split leaves as it is, and where its node lies. -/
structure SplitKeeps (b b' : StreetTopologyBuilder ℝ) (streetId : ℕ) (s : ℝ) (n : ℕ) : Prop where
  geometry : curve (b'.polyline streetId) = curve (b.polyline streetId) ∧
    Scalar.pathLength (b'.polyline streetId) = Scalar.pathLength (b.polyline streetId)
  others : ∀ other, other ≠ streetId → b'.nodeIdsOf other = b.nodeIdsOf other ∧
    b'.polyline other = b.polyline other
  on_street : n ∈ b'.nodeIdsOf streetId
  near : Scalar.dist (b'.pointOf n) (curve (b.polyline streetId) s) ≤ weldToleranceM
  added : b'.points = b.points ∨ ∃ point, b'.points = b.points ++ [point]

theorem node_ids_of_found (found : b.streets[streetId]? = some street) :
    b.nodeIdsOf streetId = street.nodeIds := by
  unfold nodeIdsOf
  rw [found]
  rfl

theorem insert_idx_between {α : Type} {front tail : List α} {l x : α} :
    (front ++ l :: tail).insertIdx (front.length + 1) x = front ++ l :: x :: tail := by
  induction front with
  | nil => rfl
  | cons a front ih =>
    rw [List.cons_append, List.length_cons, List.insertIdx_succ_cons, ih, List.cons_append]

/-- The state after a node is minted on a street. -/
noncomputable def minted (b : StreetTopologyBuilder ℝ) (streetId place : ℕ) (x : PointM ℝ) :
    StreetTopologyBuilder ℝ :=
  (b.withNode x).withNodeOn streetId (place + 1) b.points.length

theorem minted_points {place : ℕ} : (b.minted streetId place x).points = b.points ++ [x] := rfl

theorem minted_point_new {place : ℕ} :
    (b.minted streetId place x).pointOf b.points.length = x := by
  unfold pointOf
  rw [minted_points, List.getD_append_right _ _ _ _ le_rfl, Nat.sub_self, List.getD_cons_zero]

theorem minted_point_old {place : ℕ} (known : n < b.points.length) :
    (b.minted streetId place x).pointOf n = b.pointOf n := by
  unfold pointOf
  rw [minted_points, List.getD_append _ _ _ _ known]

theorem minted_node_ids (found : b.streets[streetId]? = some street)
    (split : street.nodeIds = front ++ l :: r :: rest) :
    (b.minted streetId front.length x).nodeIdsOf streetId =
      front ++ l :: b.points.length :: r :: rest := by
  have after : (b.minted streetId front.length x).streets[streetId]? =
      some { street with
        nodeIds := street.nodeIds.insertIdx (front.length + 1) b.points.length } :=
    (with_node_on_street (b := b.withNode x) found).mpr (.inr ⟨rfl, rfl⟩)
  rw [node_ids_of_found after]
  dsimp only
  rw [split, insert_idx_between]

theorem minted_elsewhere {place other : ℕ} (apart : other ≠ streetId) :
    (b.minted streetId place x).nodeIdsOf other = b.nodeIdsOf other := by
  unfold nodeIdsOf minted
  rw [with_node_on_elsewhere apart]
  rfl

theorem minted_map (kept : Incidence b) {place other : ℕ} :
    (b.nodeIdsOf other).map (b.minted streetId place x).pointOf = b.polyline other :=
  List.map_congr_left fun _ passes => minted_point_old (kept.known_on passes)

theorem minted_line (kept : Incidence b) (found : b.streets[streetId]? = some street)
    (split : street.nodeIds = front ++ l :: r :: rest) :
    b.polyline streetId = front.map b.pointOf ++ b.pointOf l :: b.pointOf r :: rest.map b.pointOf ∧
    (b.minted streetId front.length x).polyline streetId =
      front.map b.pointOf ++ b.pointOf l :: x :: b.pointOf r :: rest.map b.pointOf := by
  have old : ∀ n ∈ front ++ l :: r :: rest,
      (b.minted streetId front.length x).pointOf n = b.pointOf n := fun n listed =>
    minted_point_old (kept.known street (List.mem_of_getElem? found) n (split ▸ listed))
  unfold polyline
  rw [node_ids_of_found found, minted_node_ids found split, split]
  constructor
  · rw [List.map_append, List.map_cons, List.map_cons]
  · rw [List.map_append, List.map_cons, List.map_cons, List.map_cons, minted_point_new,
      old _ (by simp), old _ (by simp),
      List.map_congr_left fun n listed => old n (by simp [listed]),
      List.map_congr_left fun n listed => old n (by simp [listed])]

theorem split_result (street_ok : b.requireStreet street_id = .ok street) (nonneg : 0 ≤ s)
    (within : s ≤ b.arcLengthOf street + 1 / 4) {last : ℕ}
    (ends : street.nodeIds.getLast? = some last) :
    (∃ n ∈ street.nodeIds, b.resolved street.nodeIds last s = .vertex n ∧
      Scalar.dist (b.pointOf n) (curve (street.nodeIds.map b.pointOf) s) ≤ 1 / 4 ∧
      splitAtArcLength street_id s b = (.ok n, b)) ∨
    ∃ piece front rest, reach b.pointOf 0 s street.nodeIds = some piece ∧
      street.nodeIds = front ++ piece.left :: piece.right :: rest ∧ piece.index = front.length ∧
      1 / 4 < piece.remainder ∧
      1 / 4 < Scalar.dist (b.pointOf piece.left) (b.pointOf piece.right) - piece.remainder ∧
      (∀ nodeId ∈ street.nodeIds,
        1 / 4 < Scalar.dist (b.pointOf nodeId) (curve (street.nodeIds.map b.pointOf) s)) ∧
      splitAtArcLength street_id s b = (.ok b.points.length,
        b.minted street_id.toNat front.length (curve (street.nodeIds.map b.pointOf) s)) := by
  have place := split_place_eq street_ok nonneg within ends
  rcases resolved_spec (b := b) nonneg ends with
    ⟨n, on, resolved, near⟩ | ⟨piece, reached, resolved, left, right, far⟩
  · refine .inl ⟨n, on, resolved, near, Call.bind_returns.mpr
      ⟨_, b, Call.query_returns.mpr ⟨place, rfl⟩, ?_⟩⟩
    rw [resolved]
    exact Call.pure_returns.mpr ⟨rfl, rfl⟩
  · obtain ⟨⟨front, rest, split, index⟩, -⟩ := Scalar.reach_spec nonneg reached
    rw [Nat.zero_add] at index
    refine .inr ⟨piece, front, rest, reached, split, index, left, right, far,
      Call.bind_returns.mpr ⟨_, b, Call.query_returns.mpr ⟨place, rfl⟩, ?_⟩⟩
    rw [resolved, index]
    rfl

theorem split_keeps (kept : Incidence b) (street_ok : b.requireStreet street_id = .ok street)
    (nonneg : 0 ≤ s) (within : s ≤ b.arcLengthOf street + 1 / 4) :
    ∃ n b', splitAtArcLength street_id s b = (.ok n, b') ∧
      SplitKeeps b b' street_id.toNat s n := by
  have found := require_street_ok street_ok
  have ids := node_ids_of_found found
  have line : b.polyline street_id.toNat = street.nodeIds.map b.pointOf := by
    rw [polyline, ids]
  obtain ⟨last, ends⟩ := street_last kept found
  rcases split_result street_ok nonneg within ends with
    ⟨n, on, -, near, result⟩ | ⟨piece, front, rest, reached, split, -, left, right, -, result⟩
  · refine ⟨n, b, result, ⟨⟨rfl, rfl⟩, fun _ _ => ⟨rfl, rfl⟩, ids ▸ on, ?_, .inl rfl⟩⟩
    rw [weld_tolerance_real, line]
    exact near
  · obtain ⟨-, long, -, point⟩ := Scalar.reach_spec nonneg reached
    have after_l : 0 < piece.remainder /
        Scalar.dist (b.pointOf piece.left) (b.pointOf piece.right) := div_pos (by linarith) long
    have before_r : piece.remainder /
        Scalar.dist (b.pointOf piece.left) (b.pointOf piece.right) < 1 :=
      (div_lt_one long).mpr (by linarith)
    set x := curve (street.nodeIds.map b.pointOf) s with here
    have new_ids := minted_node_ids (x := x) found split
    obtain ⟨old_line, new_line⟩ := minted_line (x := x) kept found split
    refine ⟨b.points.length, b.minted street_id.toNat front.length x, result,
      ⟨⟨?_, ?_⟩, fun other apart => ⟨minted_elsewhere apart, ?_⟩, ?_, ?_, .inr ⟨_, rfl⟩⟩⟩
    · rw [new_line, old_line, point]
      exact funext (Scalar.curve_insert long after_l before_r)
    · rw [new_line, old_line, point]
      exact Scalar.path_length_insert after_l before_r
    · unfold polyline
      rw [minted_elsewhere apart]
      exact minted_map kept
    · rw [new_ids]
      simp
    · rw [minted_point_new, line, Scalar.dist_same, weld_tolerance_real]
      norm_num

end Splits

section Contacts

open Scalar (along Passes)

variable {b b' : StreetTopologyBuilder ℝ} {x l r : PointM ℝ} {points : List (PointM ℝ)}
  {travelled tol : ℝ} {best : Option (ℝ × ℝ)} {street : Street} {street_id : ℤ}

/-- The foot of a point on a segment is its nearest point there. -/
theorem project_spec (apart : l ≠ r) : ∃ t, 0 ≤ t ∧ t ≤ 1 ∧
    project x l r = (Scalar.dist x (along l r t), t * Scalar.dist l r) ∧
    ∀ u, 0 ≤ u → u ≤ 1 → Scalar.dist x (along l r t) ≤ Scalar.dist x (along l r u) := by
  have length : Real.sqrt ((r.1 - l.1) * (r.1 - l.1) + (r.2 - l.2) * (r.2 - l.2)) =
      Scalar.dist l r := by
    rw [Scalar.dist_comm, Scalar.dist_real]
    congr 1
    ring
  set n := (r.1 - l.1) * (r.1 - l.1) + (r.2 - l.2) * (r.2 - l.2) with n_eq
  set dot := (x.1 - l.1) * (r.1 - l.1) + (x.2 - l.2) * (r.2 - l.2) with dot_eq
  have long : 0 < n := by
    have pos := Scalar.dist_pos apart
    rw [← length, Real.sqrt_pos] at pos
    exact pos
  -- two points of the segment compare by a quadratic in their ratios
  have compare : ∀ {t u : ℝ}, 0 ≤ (u - t) * (n * (u + t) - 2 * dot) →
      Scalar.dist x (along l r t) ≤ Scalar.dist x (along l r u) := by
    intro t u farther
    rw [Scalar.dist_real, Scalar.dist_real]
    refine Real.sqrt_le_sqrt ?_
    unfold along
    dsimp only
    rw [n_eq, dot_eq] at farther
    linarith
  have found : ∀ t, (let atLeast := if dot / n < 0 then 0 else dot / n
      if 1 < atLeast then 1 else atLeast) = t →
      project x l r = (Scalar.dist x (along l r t), t * Scalar.dist l r) := by
    intro t same
    unfold project
    dsimp only
    rw [if_neg (not_le.mpr long), ← length, ← same]
    rfl
  dsimp only at found
  clear_value n dot
  by_cases before : dot / n < 0
  · rw [if_pos before, if_neg (by norm_num)] at found
    refine ⟨0, le_rfl, zero_le_one, found 0 rfl, fun u low high => compare ?_⟩
    have negative : dot < 0 := by
      rw [div_lt_iff₀ long, zero_mul] at before
      exact before
    rw [sub_zero, add_zero]
    exact mul_nonneg low (by linarith [mul_nonneg long.le low])
  · rw [if_neg before] at found
    by_cases behind : 1 < dot / n
    · rw [if_pos behind] at found
      refine ⟨1, zero_le_one, le_rfl, found 1 rfl, fun u low high => compare ?_⟩
      have beyond : n < dot := (one_lt_div long).mp behind
      have shorter : n * u ≤ n := mul_le_of_le_one_right long.le high
      exact mul_nonneg_of_nonpos_of_nonpos (by linarith) (by linarith)
    · rw [if_neg behind] at found
      refine ⟨dot / n, not_lt.mp before, not_lt.mp behind, found _ rfl, fun u _ _ => compare ?_⟩
      have square : (u - dot / n) * (n * (u + dot / n) - 2 * dot) = n * (u - dot / n) ^ 2 := by
        field_simp
        ring
      rw [square]
      exact mul_nonneg long.le (sq_nonneg _)

/-- The nearest point so far after one more segment. -/
def nearer {K : Type} [Scalar K] (d a : K) (best : Option (K × K)) : Option (K × K) :=
  match best with
  | none => some (d, a)
  | some found => if d < found.1 then some (d, a) else best

theorem nearer_spec (d a : ℝ) (best : Option (ℝ × ℝ)) : ∃ found, nearer d a best = some found ∧
    found.1 ≤ d ∧ (∀ other, best = some other → found.1 ≤ other.1) ∧
    (best = some found ∨ found = (d, a)) := by
  cases best with
  | none => exact ⟨_, rfl, le_rfl, fun _ same => (nomatch same), .inr rfl⟩
  | some best =>
    unfold nearer
    dsimp only
    split
    · rename_i closer
      refine ⟨_, rfl, le_rfl, fun other same => ?_, .inr rfl⟩
      rw [← Option.some.inj same]
      exact closer.le
    · rename_i farther
      refine ⟨_, rfl, not_lt.mp farther, fun other same => ?_, .inl rfl⟩
      rw [← Option.some.inj same]

/-- What a search for the nearest segment point finds. -/
def Nearest (x : PointM ℝ) (points : List (PointM ℝ)) (travelled : ℝ) (best : Option (ℝ × ℝ)) :
    Option (ℝ × ℝ) → Prop
  | none => best = none ∧ ∀ tol, ¬Passes points x tol
  | some (d, a) =>
    (best = some (d, a) ∨ Passes points x d ∧ ∃ s, 0 ≤ s ∧ s ≤ Scalar.pathLength points ∧
      a = travelled + s ∧ Scalar.dist x (curve points s) = d) ∧
    (∀ tol, Passes points x tol → d ≤ tol) ∧ ∀ other, best = some other → d ≤ other.1

theorem nearest_short (short : points.length < 2) : Nearest x points travelled best best := by
  have never : ∀ tol, ¬Passes points x tol := fun tol passes => absurd passes.long (by omega)
  cases best with
  | none => exact ⟨rfl, never⟩
  | some found =>
    refine ⟨.inl rfl, fun tol passes => absurd passes (never tol), fun other same => ?_⟩
    rw [← Option.some.inj same]

theorem Nearest.skip {found : Option (ℝ × ℝ)} (flat : Scalar.dist l r ≤ 0)
    (h : Nearest x (r :: points) travelled best found) :
    Nearest x (l :: r :: points) travelled best found := by
  have same := Scalar.eq_of_dist flat
  have zero := le_antisymm flat Scalar.dist_nonneg
  have passes : ∀ tol, Passes (l :: r :: points) x tol ↔ Passes (r :: points) x tol := by
    intro tol
    rw [Scalar.passes_cons, or_iff_right fun first => first.1 same]
  cases found with
  | none => exact ⟨h.1, fun tol => mt (passes tol).mp (h.2 tol)⟩
  | some found =>
    obtain ⟨attained, nearest, before⟩ := h
    refine ⟨attained.imp_right ?_, fun tol near => nearest tol ((passes tol).mp near), before⟩
    rintro ⟨near, s, nonneg, within, place, point⟩
    refine ⟨(passes _).mpr near, s, nonneg, ?_, place, ?_⟩
    · rw [Scalar.path_length_cons, zero, zero_add]
      exact within
    · rw [Scalar.curve_past (zero.trans_le nonneg), zero, sub_zero]
      exact point

theorem Nearest.compare {found : Option (ℝ × ℝ)} (long : 0 < Scalar.dist l r)
    (h : Nearest x (r :: points) (travelled + Scalar.dist l r)
      (nearer (project x l r).1 (travelled + (project x l r).2) best) found) :
    Nearest x (l :: r :: points) travelled best found := by
  have apart : l ≠ r := by
    rintro rfl
    rw [Scalar.dist_same] at long
    exact lt_irrefl _ long
  obtain ⟨t, low, high, foot, least⟩ := project_spec (x := x) apart
  obtain ⟨nearer, best_eq, at_foot, before, which⟩ :=
    nearer_spec (project x l r).1 (travelled + (project x l r).2) best
  rw [best_eq] at h
  cases found with
  | none => cases h.1
  | some found =>
    obtain ⟨attained, nearest, ahead⟩ := h
    have below := ahead nearer rfl
    refine ⟨?_, fun tol passes => ?_, fun other same => below.trans (before other same)⟩
    · rcases attained with same | ⟨near, s, nonneg, within, place, point⟩
      · obtain rfl := Option.some.inj same
        refine which.imp_right fun at_segment => ?_
        rw [foot] at at_segment
        obtain ⟨d, a⟩ := found
        obtain ⟨rfl, rfl⟩ := Prod.mk.inj at_segment
        have within := mul_le_of_le_one_left long.le high
        refine ⟨Scalar.passes_cons.mpr (.inl ⟨apart, t, low, high, le_rfl⟩), _,
          mul_nonneg low long.le, ?_, rfl, ?_⟩
        · rw [Scalar.path_length_cons]
          exact within.trans (le_add_of_nonneg_right Scalar.path_length_nonneg)
        · rw [Scalar.curve_first long within, mul_div_cancel_right₀ _ long.ne']
      · refine .inr ⟨Scalar.passes_cons.mpr (.inr near), Scalar.dist l r + s, by positivity,
          ?_, by rw [place, add_assoc], ?_⟩
        · rw [Scalar.path_length_cons]
          linarith
        · rw [Scalar.curve_past (by linarith), add_sub_cancel_left]
          exact point
    · rcases Scalar.passes_cons.mp passes with ⟨-, u, u_low, u_high, near⟩ | passes
      · rw [foot] at at_foot
        exact below.trans (at_foot.trans ((least u u_low u_high).trans near))
      · exact nearest tol passes

theorem best_contact_spec :
    Nearest x points travelled best (bestContact x travelled best points) := by
  induction points generalizing travelled best with
  | nil => exact nearest_short (by simp)
  | cons l rest ih =>
    cases rest with
    | nil => exact nearest_short (by simp)
    | cons r rest =>
      unfold bestContact
      dsimp only
      split
      · rename_i flat
        exact Nearest.skip flat ih
      · rename_i long
        change Nearest x (l :: r :: rest) travelled best
          (bestContact x (travelled + Scalar.dist l r)
            (nearer (project x l r).1 (travelled + (project x l r).2) best) (r :: rest))
        exact Nearest.compare (not_le.mp long) ih

theorem contact_spec (kept : Incidence b) (street_ok : b.requireStreet street_id = .ok street)
    (x : PointM ℝ) (tol : ℝ) : ∃ found b', contact street_id x tol b = (.ok found, b') ∧
      (found.isSome ↔ Passes (b.polyline street_id.toNat) x tol) ∧
      ∀ n, found = some n → Scalar.dist (b'.pointOf n) x ≤ tol + weldToleranceM := by
  have line : b.polyline street_id.toNat = b.pointsOf street := by
    rw [polyline, node_ids_of_found (require_street_ok street_ok)]
    rfl
  rw [line]
  have spec : Nearest x (b.pointsOf street) 0 none (bestContact x 0 none (b.pointsOf street)) :=
    best_contact_spec
  have read : Call.query (fun b => do
      let street ← b.requireStreet street_id
      return bestContact x 0 none (b.pointsOf street)) b =
      (Except.ok (bestContact x 0 none (b.pointsOf street)), b) :=
    Call.query_returns.mpr ⟨bind_ok.mpr ⟨street, street_ok, rfl⟩, rfl⟩
  rcases best : bestContact x 0 none (b.pointsOf street) with _ | ⟨d, a⟩ <;> rw [best] at read spec
  · refine ⟨none, b, Call.bind_returns.mpr ⟨_, b, read, Call.pure_returns.mpr ⟨rfl, rfl⟩⟩, ?_,
      fun _ same => (nomatch same)⟩
    exact ⟨fun found => (nomatch found), fun passes => absurd passes (spec.2 tol)⟩
  · obtain ⟨attained, nearest, -⟩ := spec
    obtain ⟨passes, s, nonneg, within, place, point⟩ := attained.resolve_left (by simp)
    rw [zero_add] at place
    obtain rfl := place
    by_cases far : tol < d
    · refine ⟨none, b, Call.bind_returns.mpr ⟨_, b, read, ?_⟩, ?_, fun _ same => (nomatch same)⟩
      · dsimp only
        rw [if_pos far]
        exact Call.pure_returns.mpr ⟨rfl, rfl⟩
      · exact ⟨fun found => (nomatch found), fun passes =>
          absurd (nearest tol passes) (not_le.mpr far)⟩
    · obtain ⟨n, b', split_at, kept_at⟩ := split_keeps kept street_ok nonneg
        (within.trans (le_add_of_nonneg_right (by norm_num)))
      refine ⟨some n, b', Call.bind_returns.mpr ⟨_, b, read, ?_⟩, ?_, fun n' same => ?_⟩
      · dsimp only
        rw [if_neg far]
        exact Call.bind_returns.mpr ⟨n, b', split_at, Call.pure_returns.mpr ⟨rfl, rfl⟩⟩
      · refine ⟨fun _ => ?_, fun _ => rfl⟩
        obtain ⟨front, l, r, rest, split, apart, t, low, high, near⟩ := passes
        exact ⟨front, l, r, rest, split, apart, t, low, high, near.trans (not_lt.mp far)⟩
      · obtain rfl := Option.some.inj same
        have near := kept_at.near
        rw [line] at near
        calc Scalar.dist (b'.pointOf n) x
            ≤ Scalar.dist (b'.pointOf n) (curve (b.pointsOf street) a) +
                Scalar.dist (curve (b.pointsOf street) a) x := Scalar.dist_le_add _ _ _
          _ ≤ weldToleranceM + tol := by
              refine add_le_add near ?_
              rw [Scalar.dist_comm, point]
              exact not_lt.mp far
          _ = tol + weldToleranceM := add_comm _ _

end Contacts

section Runs

variable {street : Street} {street_id : ℤ}

/-- After any calls a split leaves all polylines as they are and returns a node of the street
near the split point, and a contact is made exactly where a segment is near enough. -/
theorem splitting_preserves_geometry (calls : List (BuilderCall ℝ))
    (street_ok : (after calls).requireStreet street_id = .ok street) :
    (∀ s, 0 ≤ s → s ≤ (after calls).arcLengthOf street + weldToleranceM →
      ∃ n b', splitAtArcLength street_id s (after calls) = (.ok n, b') ∧
        SplitKeeps (after calls) b' street_id.toNat s n) ∧
    ∀ x tol, ∃ found b', contact street_id x tol (after calls) = (.ok found, b') ∧
      (found.isSome ↔ Scalar.Passes ((after calls).polyline street_id.toNat) x tol) ∧
      ∀ n, found = some n → Scalar.dist (b'.pointOf n) x ≤ tol + weldToleranceM := by
  have kept := incidence_after calls
  refine ⟨fun s nonneg within => split_keeps kept street_ok nonneg ?_,
    contact_spec kept street_ok⟩
  rw [← weld_tolerance_real]
  exact within

/-- A street of a kilometre. -/
theorem kilometre_street_preserved :
    ((after [.openStreet [((0 : ℝ), (0 : ℝ)), (1000, 0)] none 0]).requireStreet 0 =
      .ok ⟨0, [0, 1], 0⟩) ∧
    (∀ s, 0 ≤ s → s ≤ (after [.openStreet [((0 : ℝ), (0 : ℝ)), (1000, 0)] none 0]).arcLengthOf
        ⟨0, [0, 1], 0⟩ + weldToleranceM →
      ∃ n b', splitAtArcLength 0 s (after [.openStreet [(0, 0), (1000, 0)] none 0]) = (.ok n, b') ∧
        SplitKeeps (after [.openStreet [(0, 0), (1000, 0)] none 0]) b' 0 s n) ∧
    ∀ x tol, ∃ found b',
      contact 0 x tol (after [.openStreet [(0, 0), (1000, 0)] none 0]) = (.ok found, b') ∧
      (found.isSome ↔
        Scalar.Passes ((after [.openStreet [(0, 0), (1000, 0)] none 0]).polyline 0) x tol) ∧
      ∀ n, found = some n → Scalar.dist (b'.pointOf n) x ≤ tol + weldToleranceM :=
  ⟨rfl, splitting_preserves_geometry [.openStreet [(0, 0), (1000, 0)] none 0] rfl⟩

/-- A street of one place and no length is met by no contact. -/
theorem flat_street_not_met : ∃ front l r rest,
    (after [.openStreet [((0 : ℝ), (0 : ℝ)), (0, 0)] none 0]).polyline 0 =
      front ++ l :: r :: rest ∧
    Scalar.dist ((0 : ℝ), (0 : ℝ)) (Scalar.along l r 0) ≤ 1 ∧
    contact 0 (0, 0) 1 (after [.openStreet [((0 : ℝ), (0 : ℝ)), (0, 0)] none 0]) =
      (.ok none, after [.openStreet [(0, 0), (0, 0)] none 0]) := by
  refine ⟨[], (0, 0), (0, 0), [], rfl, ?_, ?_⟩
  · rw [Scalar.along_zero, Scalar.dist_same]
    exact zero_le_one
  · obtain ⟨found, b', returned, met, -⟩ := contact_spec (incidence_after _)
      (rfl : (after [.openStreet [((0 : ℝ), (0 : ℝ)), (0, 0)] none 0]).requireStreet 0 =
        .ok ⟨0, [0, 1], 0⟩) (0, 0) 1
    have never : ¬Scalar.Passes [((0 : ℝ), (0 : ℝ)), (0, 0)] (0, 0) 1 := fun passes =>
      (Scalar.passes_cons.mp passes).elim (fun first => first.1 rfl) fun later =>
        absurd later.long (by decide)
    rcases contact_inv returned with ⟨rfl, rfl⟩ | ⟨n, _, rfl, -⟩
    · exact returned
    · exact absurd (met.mp rfl) never

end Runs

end Metroflow.City.StreetTopologyBuilder
