import Metroflow.Lib.Rings

namespace Metroflow.Lib

section Edges

variable {V W : Type*} {walk left right : List V}

/-- The closed list of the vertices of a closed walk: the first one again at the end. -/
def close (walk : List V) : List V := walk ++ walk.head?.toList

/-- The edges of a closed walk, from each vertex to the next and from the last to the first. -/
def cycleEdges (walk : List V) : List (V × V) := sides (close walk)

theorem sides_joint (l : List V) (a : V) (r : List V) :
    sides (l ++ a :: r) = sides (l ++ [a]) ++ sides (a :: r) := by
  induction l with
  | nil => rfl
  | cons b l ih =>
    cases l with
    | nil => rfl
    | cons c l =>
      exact congrArg (List.cons (b, c)) ih

theorem sides_reverse (l : List V) : sides l.reverse = ((sides l).map Prod.swap).reverse := by
  induction l with
  | nil => rfl
  | cons a l ih =>
    cases l with
    | nil => rfl
    | cons b l =>
      rw [List.reverse_cons, List.reverse_cons, List.append_assoc, List.singleton_append,
        sides_joint, ← List.reverse_cons, ih]
      change _ ++ [(b, a)] = (((a, b) :: sides (b :: l)).map Prod.swap).reverse
      rw [List.map_cons, List.reverse_cons]
      rfl

theorem sides_map (f : V → W) (l : List V) : sides (l.map f) = (sides l).map (Prod.map f f) := by
  unfold sides
  rw [← List.map_tail, List.zip_map]

theorem close_map (f : V → W) : close (walk.map f) = (close walk).map f := by
  cases walk <;> simp [close]

theorem cycle_edges_map (f : V → W) :
    cycleEdges (walk.map f) = (cycleEdges walk).map (Prod.map f f) := by
  rw [cycleEdges, close_map, sides_map, cycleEdges]

theorem cycle_edges_append (a : V) (left right : List V) :
    cycleEdges (a :: left ++ a :: right) = cycleEdges (a :: left) ++ cycleEdges (a :: right) := by
  change sides (a :: left ++ a :: right ++ [a]) = _
  rw [List.append_assoc]
  exact sides_joint (a :: left) a (right ++ [a])

theorem cycle_edges_rotated (same : walk.IsRotated left) :
    (cycleEdges walk).Perm (cycleEdges left) := by
  obtain ⟨n, rfl⟩ := same
  induction n with
  | zero => rw [List.rotate_zero]
  | succ n ih =>
    refine ih.trans ?_
    rw [← List.rotate_rotate]
    generalize walk.rotate n = l
    cases l with
    | nil => rfl
    | cons a l =>
      cases l with
      | nil => rw [List.rotate_singleton]
      | cons b l =>
        rw [List.rotate_cons_succ, List.rotate_zero]
        change ((a, b) :: sides (b :: l ++ [a])).Perm (sides (b :: l ++ [a] ++ [b]))
        rw [List.append_assoc, List.singleton_append, sides_joint (b :: l) a [b]]
        exact (List.perm_append_singleton (a, b) _).symm

theorem cycle_edges_reverse :
    (cycleEdges walk.reverse).Perm ((cycleEdges walk).map Prod.swap) := by
  cases walk with
  | nil => rfl
  | cons a l =>
    -- begun at the same vertex, the reversed walk is the closed one read backwards
    have turned : (a :: l).reverse.IsRotated (a :: l.reverse) := by
      rw [List.reverse_cons]
      exact List.isRotated_append
    refine (cycle_edges_rotated turned).trans ?_
    have backwards : close (a :: l.reverse) = (close (a :: l)).reverse := by
      simp [close]
    rw [cycleEdges, backwards, sides_reverse]
    exact (List.reverse_perm _)

end Edges

section Symmetry

variable {V : Type*} {edges others : Multiset (V × V)}

/-- As many edges from one vertex to another as back. -/
def BothWays (edges : Multiset (V × V)) : Prop := edges.map Prod.swap = edges

theorem BothWays.add (h : BothWays edges) (h' : BothWays others) : BothWays (edges + others) := by
  rw [BothWays, Multiset.map_add, h, h']

theorem both_ways_of_short {walk : List V} (short : walk.length < 3) :
    BothWays (cycleEdges walk : Multiset (V × V)) := by
  match walk, short with
  | [], _ => rfl
  | [a], _ => rfl
  | [a, b], _ => exact Multiset.coe_eq_coe.mpr (List.Perm.swap (a, b) (b, a) [])

theorem BothWays.sum_eq_zero {K : Type*} [Field K] [CharZero K] (h : BothWays edges)
    (weight : V × V → K) (odd : ∀ e, weight e.swap = -weight e) :
    (edges.map weight).sum = 0 := by
  have turned : (edges.map weight).sum = -(edges.map weight).sum := by
    calc (edges.map weight).sum = ((edges.map Prod.swap).map weight).sum := by rw [h]
      _ = (edges.map fun e => -weight e).sum := by
        rw [Multiset.map_map]
        exact congrArg Multiset.sum (Multiset.map_congr rfl fun e _ => odd e)
      _ = -(edges.map weight).sum := Multiset.sum_map_neg
  exact self_eq_neg.mp turned

end Symmetry

section Area

variable {R : Type*} [CommRing R] {walk other : List (R × R)}

/-- The part of twice the area that an edge contributes. -/
def crossTerm (e : (R × R) × (R × R)) : R := e.1.1 * e.2.2 - e.2.1 * e.1.2

theorem cross_term_swap (e : (R × R) × (R × R)) : crossTerm e.swap = -crossTerm e := by
  simp only [crossTerm, Prod.fst_swap, Prod.snd_swap]
  ring

theorem area2_close : area2 (close walk) = ((cycleEdges walk).map crossTerm).sum := rfl

theorem area2_rotated (same : walk.IsRotated other) :
    area2 (close walk) = area2 (close other) := by
  rw [area2_close, area2_close]
  exact ((cycle_edges_rotated same).map crossTerm).sum_eq

theorem area2_reverse : area2 (close walk.reverse) = -area2 (close walk) := by
  have general : ∀ edges : List ((R × R) × (R × R)),
      ((edges.map Prod.swap).map crossTerm).sum = -(edges.map crossTerm).sum := by
    intro edges
    induction edges with
    | nil => exact neg_zero.symm
    | cons e edges ih =>
      simp only [List.map_cons, List.sum_cons, ih, cross_term_swap, neg_add]
  rw [area2_close, (cycle_edges_reverse.map crossTerm).sum_eq, general, area2_close]

end Area

end Metroflow.Lib
