import Metroflow.Lib.Keyed
import Metroflow.Lib.Scalar
import Metroflow.Lib.SpanningTrees
import Metroflow.Lib.UnionFind

namespace Metroflow.City.StreetTrees

open Lib Lib.SpanningTrees Lib.UnionFind

section Model

variable {K : Type}

structure CandidateEdge (K : Type) where
  distanceM : K
  left : ℕ
  right : ℕ

def CandidateEdge.ends (edge : CandidateEdge K) : ℕ × ℕ := (edge.left, edge.right)

/-- The loop of `_minimum_spanning_tree` over the parents and the selected edges. -/
def selectEdges (anchorCount : ℕ) : List (CandidateEdge K) → (ℕ → ℕ) × List (CandidateEdge K) →
    (ℕ → ℕ) × List (CandidateEdge K)
  | [], s => s
  | edge :: rest, (parent, selected) =>
    let left := find anchorCount parent edge.left
    let right := find anchorCount left.1 edge.right
    if left.2 = right.2 then selectEdges anchorCount rest (right.1, selected)
    else
      let s := (Function.update right.1 right.2 left.2, selected ++ [edge])
      if s.2.length + 1 = anchorCount then s else selectEdges anchorCount rest s

def minimumSpanningTree (anchorCount : ℕ) (candidates : List (CandidateEdge K)) :
    Except String (List (CandidateEdge K)) := do
  let selected := (selectEdges anchorCount candidates (id, [])).2
  raiseIf (selected.length + 1 ≠ anchorCount) "cannot connect urban anchors"
  return selected

variable [Scalar K]

/-- `_distance` -/
def distance (left right : PointM K) : K := Scalar.hypot (right.1 - left.1) (right.2 - left.2)

def pointAt (points : List (PointM K)) (index : ℕ) : PointM K := points.getD index (0, 0)

def pairKey (points : List (PointM K)) (pair : ℕ × ℕ) : K ×ₗ (ℕ ×ₗ ℕ) :=
  toLex (distance (pointAt points pair.1) (pointAt points pair.2), toLex pair)

/-- The state of `_nearest_tree_edges`; its edges are kept as pairs of indices. -/
structure Growing where
  connected : List ℕ
  remaining : List ℕ
  edges : List (ℕ × ℕ)

end Model

/-- One pass of the loop takes the least pair of a connected and a remaining point. -/
noncomputable def growTree (points : List (PointM ℝ)) (s : Growing) : Option Growing :=
  (sortOn (pairKey points) (s.connected.product s.remaining)).head?.map fun pair =>
    { connected := s.connected ++ [pair.2], remaining := s.remaining.erase pair.2,
      edges := s.edges ++ [pair] }

noncomputable def nearestTreePairs (points : List (PointM ℝ)) : List (ℕ × ℕ) :=
  if points.length < 2 then []
  else (loop (growTree points) points.length
    ⟨[0], (List.range points.length).erase 0, []⟩).edges

/-- `_nearest_tree_edges` -/
noncomputable def nearestTreeEdges (points : List (PointM ℝ)) : List (PointM ℝ × PointM ℝ) :=
  (nearestTreePairs points).map fun pair => (pointAt points pair.1, pointAt points pair.2)

section Parents

variable {n k x : ℕ} {parent root rank : ℕ → ℕ}

/-- The parents that lookups and unions of roots can make. -/
inductive Reached (n : ℕ) : (ℕ → ℕ) → Prop where
  | start : Reached n id
  | halve {parent : ℕ → ℕ} {x : ℕ} (before : Reached n parent) (low : parent x ≠ x) :
      Reached n (Function.update parent x (parent (parent x)))
  | join {parent : ℕ → ℕ} {left right : ℕ} (before : Reached n parent)
      (left_root : parent left = left) (right_root : parent right = right) (apart : left ≠ right)
      (left_lt : left < n) (right_lt : right < n) : Reached n (Function.update parent right left)

/-- Parents after `k` unions. A rank says which union put a node under another. -/
structure Rooted (n k : ℕ) (parent root rank : ℕ → ℕ) : Prop where
  along : ∀ x, root (parent x) = root x
  top : ∀ x, parent (root x) = root x
  fixed : ∀ x, parent x = x → root x = x
  rises : ∀ x, parent x ≠ x → rank x < rank (parent x)
  bounded : ∀ x, rank x ≤ k
  highest : ∀ x, parent x = x → rank x = k
  within : ∀ x < n, root x < n
  roots : ((Finset.range n).filter fun x => parent x = x).card + k = n

theorem Rooted.start : Rooted n 0 id id fun _ => 0 where
  along _ := rfl
  top _ := rfl
  fixed _ _ := rfl
  rises _ low := absurd rfl low
  bounded _ := le_rfl
  highest _ _ := rfl
  within _ := id
  roots := by simp

theorem Rooted.above (h : Rooted n k parent root rank) (x : ℕ) : rank x ≤ rank (parent x) := by
  by_cases high : parent x = x
  · rw [high]
  · exact (h.rises x high).le

theorem Rooted.halve (h : Rooted n k parent root rank) (low : parent x ≠ x) :
    Rooted n k (Function.update parent x (parent (parent x))) root rank := by
  have higher := (h.rises x low).trans_le (h.above (parent x))
  have moves : parent (parent x) ≠ x := fun back => absurd (back ▸ higher) (lt_irrefl _)
  have same : ∀ y, Function.update parent x (parent (parent x)) y = y ↔ parent y = y := fun y => by
    rw [Function.update_apply]
    split
    · rename_i here
      exact iff_of_false (here ▸ moves) (here ▸ low)
    · rfl
  refine ⟨fun y => ?_, fun y => (same _).mpr (h.top y), fun y root => h.fixed y ((same y).mp root),
    fun y other => ?_, h.bounded, fun y root => h.highest y ((same y).mp root), h.within, ?_⟩
  · rw [Function.update_apply]
    split
    · rename_i here
      rw [h.along, h.along, here]
    · exact h.along y
  · have old := h.rises y fun root => other ((same y).mpr root)
    rw [Function.update_apply]
    split
    · rename_i here
      rwa [here]
    · exact old
  · simp only [same]
    exact h.roots

theorem Rooted.find (h : Rooted n k parent root rank) (x : ℕ) :
    Rooted n k (find n parent x).1 root rank ∧ (find n parent x).2 = root x ∧
      climb (find n parent x) = none := by
  refine find_keeps (I := fun parent => Rooted n k parent root rank) (fun y => k - rank y)
    (fun {parent y} rooted low => ⟨rooted.halve low, by rw [rooted.along, rooted.along], ?_⟩)
    (fun rooted still => rooted.fixed _ still) h
    ((Nat.sub_le _ _).trans (h.roots ▸ Nat.le_add_left _ _))
  have higher := (rooted.rises y low).trans_le (rooted.above (parent y))
  exact Nat.sub_lt_sub_left (higher.trans_le (rooted.bounded _)) higher

theorem Rooted.join (h : Rooted n k parent root rank) {left right : ℕ}
    (left_root : parent left = left) (right_root : parent right = right) (apart : left ≠ right)
    (left_lt : left < n) (right_lt : right < n) :
    Rooted n (k + 1) (Function.update parent right left)
      (fun x => if root x = right then left else root x)
      (fun x => if Function.update parent right left x = x then k + 1 else rank x) := by
  have same : ∀ y, Function.update parent right left y = y ↔ parent y = y ∧ y ≠ right := fun y => by
    rw [Function.update_apply]
    split
    · rename_i here
      exact iff_of_false (here ▸ apart) fun other => other.2 here
    · rename_i other
      exact ⟨fun root => ⟨root, other⟩, And.left⟩
  refine ⟨fun y => ?_, fun y => ?_, fun y root => ?_, fun y low => ?_, fun y => ?_,
    fun y root => ?_, fun y small => ?_, ?_⟩
  · rw [Function.update_apply]
    split
    · rename_i here
      rw [here, h.fixed left left_root, h.fixed right right_root, if_neg apart, if_pos rfl]
    · rw [h.along]
  · split
    · exact (same left).mpr ⟨left_root, apart⟩
    · rename_i other
      exact (same _).mpr ⟨h.top y, other⟩
  · obtain ⟨old, other⟩ := (same y).mp root
    rw [h.fixed y old, if_neg other]
  · rw [if_neg low]
    split
    · exact Nat.lt_succ_of_le (h.bounded y)
    · rename_i high
      by_cases here : y = right
      · rw [here, Function.update_self] at high
        exact absurd ((same left).mpr ⟨left_root, apart⟩) high
      · rw [Function.update_of_ne here] at low ⊢
        exact h.rises y low
  · split
    · exact le_rfl
    · exact (h.bounded y).trans (Nat.le_succ k)
  · rw [if_pos root]
  · split
    · exact left_lt
    · exact h.within y small
  · have fewer : ((Finset.range n).filter fun x => Function.update parent right left x = x) =
        ((Finset.range n).filter fun x => parent x = x).erase right := by
      ext y
      simp only [Finset.mem_filter, Finset.mem_erase, same]
      tauto
    rw [fewer, Finset.card_erase_of_mem (by simp [right_lt, right_root])]
    have some_root : 0 < ((Finset.range n).filter fun x => parent x = x).card :=
      Finset.card_pos.mpr ⟨right, by simp [right_lt, right_root]⟩
    have := h.roots
    omega

theorem Reached.rooted (h : Reached n parent) : ∃ k root rank, Rooted n k parent root rank := by
  induction h with
  | start => exact ⟨0, _, _, .start⟩
  | halve _ low ih =>
    obtain ⟨k, root, rank, rooted⟩ := ih
    exact ⟨k, root, rank, rooted.halve low⟩
  | join _ left_root right_root apart left_lt right_lt ih =>
    obtain ⟨k, root, rank, rooted⟩ := ih
    exact ⟨_, _, _, rooted.join left_root right_root apart left_lt right_lt⟩

theorem Reached.find (h : Reached n parent) (x : ℕ) : Reached n (find n parent x).1 := by
  refine loop_invariant (I := fun s : (ℕ → ℕ) × ℕ => Reached n s.1) ?_ n h
  rintro ⟨parent, y⟩ s' reached step
  exact (climb_some step).2 ▸ reached.halve (climb_some step).1

end Parents

section Selection

variable {K : Type} [PartialOrder K] {n : ℕ}
  {candidates done rest : List (CandidateEdge K)} {edge : CandidateEdge K}
  {s : (ℕ → ℕ) × List (CandidateEdge K)}

/-- The parents and the selected edges once some candidates have been seen. -/
structure Progress (n : ℕ) (candidates done : List (CandidateEdge K))
    (s : (ℕ → ℕ) × List (CandidateEdge K)) : Prop where
  reached : Reached n s.1
  classes : ∃ root rank, Rooted n s.2.length s.1 root rank ∧
    ∀ x y, root x = root y ↔ Joined CandidateEdge.ends s.2 x y
  chosen : Chosen CandidateEdge.ends CandidateEdge.distanceM (· ∈ candidates) s.2
  closed : ∀ e ∈ done, Joined CandidateEdge.ends s.2 e.left e.right
  listed : ∀ e ∈ s.2, e ∈ candidates

theorem Progress.start : Progress n candidates [] (id, []) where
  reached := .start
  classes := ⟨id, fun _ => 0, .start, fun x y => ⟨fun same => (show x = y from same) ▸ .refl x,
    eqv_gen_of_agree fun _ _ none => by simp at none⟩⟩
  chosen := .nil
  closed := by simp
  listed := by simp

omit [PartialOrder K] in
theorem joined_root {root : ℕ → ℕ} {selected : List (CandidateEdge K)}
    (classes : ∀ x y, root x = root y ↔ Joined CandidateEdge.ends selected x y) (x y : ℕ) :
    (if root x = root edge.right then root edge.left else root x) =
        (if root y = root edge.right then root edge.left else root y) ↔
      Joined CandidateEdge.ends (selected ++ [edge]) x y := by
  have taken : Joined CandidateEdge.ends (selected ++ [edge]) edge.left edge.right :=
    joined_ends (List.mem_append_right _ (List.mem_singleton_self edge))
  refine classes_link classes ?_ taken ?_ x y
  · exact fun a b ⟨e, old, at_ends⟩ => ⟨e, List.mem_append_left _ old, at_ends⟩
  · rintro a b ⟨e, listed, at_ends⟩
    rcases List.mem_append.mp listed with old | new
    · exact .inl ⟨e, old, at_ends⟩
    · rw [List.mem_singleton.mp new] at at_ends
      obtain ⟨rfl, rfl⟩ := Prod.mk.inj at_ends
      exact .inr (.inl ⟨rfl, rfl⟩)

theorem select_progress (h : Progress n (done ++ rest) done s)
    (inside : ∀ e ∈ done ++ rest, e.left < n ∧ e.right < n)
    (sorted : (done ++ rest).Pairwise fun a b => a.distanceM ≤ b.distanceM) :
    ∃ seen, Progress n (done ++ rest) seen (selectEdges n rest s) ∧
      (seen = done ++ rest ∨ (selectEdges n rest s).2.length + 1 = n) := by
  induction rest generalizing done s with
  | nil => exact ⟨done, h, .inl (List.append_nil done).symm⟩
  | cons edge rest ih =>
    obtain ⟨parent, selected⟩ := s
    obtain ⟨root, rank, rooted, classes⟩ := h.classes
    have reached := (h.reached.find edge.left).find edge.right
    obtain ⟨rooted, left, -⟩ := rooted.find edge.left
    obtain ⟨rooted, right, -⟩ := rooted.find edge.right
    obtain ⟨left_lt, right_lt⟩ := inside edge (by simp)
    rw [List.append_cons] at h inside sorted ⊢
    unfold selectEdges
    simp only [left, right]
    split
    · rename_i same
      refine ih ⟨reached, ⟨root, rank, rooted, classes⟩, h.chosen, ?_, h.listed⟩ inside sorted
      exact List.forall_mem_append.mpr ⟨h.closed, by simpa using (classes _ _).mp same⟩
    · rename_i apart
      have join := rooted.join (rooted.top edge.left) (rooted.top edge.right) apart
        (rooted.within _ left_lt) (rooted.within _ right_lt)
      -- the class of the left end is a cut; only candidates still to come leave it
      have chosen : Chosen CandidateEdge.ends CandidateEdge.distanceM (· ∈ done ++ [edge] ++ rest)
          (selected ++ [edge]) := by
        refine h.chosen.snoc (fun z => root z = root edge.left) rfl (fun same => apart same.symm)
          (fun e old => ?_) fun e listed crosses => ?_
        · have same := (classes _ _).mpr (joined_ends old)
          simp only [same]
        · obtain ⟨-, -, later⟩ := List.pairwise_append.mp sorted
          rcases List.mem_append.mp listed with seen | unseen
          · rcases List.mem_append.mp seen with old | new
            · refine absurd ?_ crosses
              have same : root e.ends.1 = root e.ends.2 := (classes _ _).mpr (h.closed e old)
              simp only [same]
            · rw [List.mem_singleton.mp new]
          · exact later edge (by simp) e unseen
      have next : Progress n (done ++ [edge] ++ rest) (done ++ [edge])
          (Function.update (find n (find n parent edge.left).1 edge.right).1 (root edge.right)
            (root edge.left), selected ++ [edge]) := by
        refine ⟨reached.join (rooted.top _) (rooted.top _) apart (rooted.within _ left_lt)
          (rooted.within _ right_lt), ⟨_, _, by simpa using join, joined_root classes⟩,
          chosen, ?_, ?_⟩
        · refine List.forall_mem_append.mpr ⟨fun e old => ?_, fun e new => ?_⟩
          · exact (h.closed e old).mono fun _ => List.mem_append_left _
          · rw [List.mem_singleton.mp new]
            exact joined_ends (e := edge) (by simp)
        · exact List.forall_mem_append.mpr ⟨h.listed, by simp⟩
      split
      · rename_i full
        exact ⟨_, next, .inr full⟩
      · exact ih next inside sorted

theorem minimum_spanning_tree_spec [AddCommMonoid K] [IsOrderedAddMonoid K] (some_anchor : 0 < n)
    (inside : ∀ e ∈ candidates, e.left < n ∧ e.right < n)
    (complete : ∀ i j, i < j → j < n → ∃ e ∈ candidates, e.left = i ∧ e.right = j)
    (sorted : candidates.Pairwise fun a b => a.distanceM ≤ b.distanceM) :
    ∃ selected, minimumSpanningTree n candidates = .ok selected ∧ ShortestTree CandidateEdge.ends
      CandidateEdge.distanceM (· ∈ candidates) n selected := by
  obtain ⟨seen, progress, ended⟩ := select_progress Progress.start inside sorted
  unfold minimumSpanningTree
  generalize selectEdges n candidates (id, []) = s at progress ended ⊢
  obtain ⟨parent, selected⟩ := s
  obtain ⟨root, rank, rooted, classes⟩ := progress.classes
  have one : ((Finset.range n).filter fun x => parent x = x).card = 1 := by
    rcases ended with rfl | full
    · refine Finset.card_eq_one.mpr ⟨root 0, Finset.ext fun r => ?_⟩
      rw [Finset.mem_filter, Finset.mem_range, Finset.mem_singleton]
      refine ⟨fun ⟨small, top⟩ => ?_,
        fun same => same ▸ ⟨rooted.within 0 some_anchor, rooted.top 0⟩⟩
      rw [← rooted.fixed r top]
      rcases Nat.eq_zero_or_pos r with rfl | positive
      · rfl
      · obtain ⟨e, listed, left, right⟩ := complete 0 r positive small
        exact ((classes 0 r).mpr (left ▸ right ▸ progress.closed e listed)).symm
    · have := rooted.roots
      dsimp only at this full
      omega
  have size : selected.length + 1 = n := by
    have := rooted.roots
    dsimp only at this
    omega
  have spans : SpanningTree CandidateEdge.ends n selected := by
    refine ⟨fun e listed => inside e (progress.listed e listed), by omega,
      fun u small v small' => ?_⟩
    obtain ⟨r, only⟩ := Finset.card_eq_one.mp one
    have own : ∀ x < n, root x = r := fun x small => Finset.mem_singleton.mp
      (only ▸ Finset.mem_filter.mpr ⟨Finset.mem_range.mpr (rooted.within x small), rooted.top x⟩)
    exact (classes u v).mp ((own u small).trans (own v small').symm)
  exact ⟨selected, bind_ok.mpr ⟨(), raise_if_ok.mpr (not_not.mpr size), rfl⟩,
    progress.chosen.shortest progress.listed spans⟩

end Selection

section Growth

variable {points : List (PointM ℝ)} {s s' : Growing}

noncomputable def pairLength (points : List (PointM ℝ)) (pair : ℕ × ℕ) : ℝ :=
  distance (pointAt points pair.1) (pointAt points pair.2)

def Listed (points : List (PointM ℝ)) (pair : ℕ × ℕ) : Prop :=
  pair.1 < points.length ∧ pair.2 < points.length

theorem pair_length_swap (a b : ℕ) : pairLength points (a, b) = pairLength points (b, a) := by
  unfold pairLength distance
  simp only [Scalar.hypot]
  rw [sub_sq_comm, sub_sq_comm (pointAt points b).2]

/-- What the loop keeps: a tree over the connected points, chosen over their border. -/
structure Grows (points : List (PointM ℝ)) (s : Growing) : Prop where
  parted : (s.connected ++ s.remaining).Perm (List.range points.length)
  root : 0 ∈ s.connected
  chosen : Chosen id (pairLength points) (Listed points) s.edges
  inside : ∀ e ∈ s.edges, e.1 ∈ s.connected ∧ e.2 ∈ s.connected
  joins : ∀ v ∈ s.connected, Joined id s.edges 0 v
  size : s.edges.length + 1 = s.connected.length

theorem Grows.step (h : Grows points s) (grown : growTree points s = some s') :
    Grows points s' ∧ s'.remaining.length < s.remaining.length := by
  obtain ⟨⟨left, right⟩, first, rfl⟩ := Option.map_eq_some_iff.mp grown
  obtain ⟨listed, least⟩ := sort_on_head first
  obtain ⟨from_here, new⟩ := List.mem_product.mp listed
  have apart := List.disjoint_of_nodup_append (h.parted.nodup_iff.mpr List.nodup_range)
  have shorter := List.length_erase_of_mem new
  have some_left := List.length_pos_of_mem new
  refine ⟨⟨?_, by simp [h.root], ?_, ?_, ?_, by simp [h.size]⟩, by dsimp only; omega⟩
  · refine List.Perm.trans ?_ h.parted
    rw [List.append_assoc]
    exact (List.perm_cons_erase new).symm.append_left _
  · refine h.chosen.snoc (· ∈ s.connected) from_here (fun old => apart old new) (fun f old => ?_)
      fun f small crosses => ?_
    · exact iff_of_true (h.inside f old).1 (h.inside f old).2
    · have known : ∀ v < points.length, v ∈ s.connected ∨ v ∈ s.remaining := fun v small =>
        List.mem_append.mp (h.parted.mem_iff.mpr (List.mem_range.mpr small))
      have shortest : ∀ pair ∈ s.connected.product s.remaining,
          pairLength points (left, right) ≤ pairLength points pair := fun pair listed =>
        (Prod.Lex.le_iff.mp (least pair listed)).elim le_of_lt fun same => same.1.le
      by_cases here : f.1 ∈ s.connected
      · have there := (known f.2 small.2).resolve_left fun also => crosses (iff_of_true here also)
        exact shortest f (List.mem_product.mpr ⟨here, there⟩)
      · have there := (known f.1 small.1).resolve_left here
        have back : f.2 ∈ s.connected := by
          by_contra neither
          exact crosses (iff_of_false here neither)
        rw [← Prod.mk.eta (p := f), pair_length_swap f.1]
        exact shortest (f.2, f.1) (List.mem_product.mpr ⟨back, there⟩)
  · refine List.forall_mem_append.mpr ⟨fun e old => ?_, by simp [from_here]⟩
    exact ⟨List.mem_append_left _ (h.inside e old).1, List.mem_append_left _ (h.inside e old).2⟩
  · have grow : ∀ {v}, v ∈ s.connected → Joined id (s.edges ++ [(left, right)]) 0 v :=
      fun known => (h.joins _ known).mono fun _ => List.mem_append_left _
    refine List.forall_mem_append.mpr ⟨fun v => grow, fun v last => ?_⟩
    rw [List.mem_singleton.mp last]
    exact (grow from_here).trans _ _ _ (joined_ends (e := (left, right)) (by simp))

theorem nearest_tree_spec (points : List (PointM ℝ)) : ShortestTree id (pairLength points)
    (Listed points) points.length (nearestTreePairs points) := by
  unfold nearestTreePairs
  split
  · rename_i few
    have spans : SpanningTree (id : ℕ × ℕ → ℕ × ℕ) points.length [] :=
      ⟨by simp, (Nat.sub_eq_zero_of_le (Nat.lt_succ_iff.mp few)).symm, fun u small v small' => by
        obtain rfl : u = v := by omega
        exact .refl u⟩
    exact Chosen.nil.shortest spans.inside spans
  · rename_i several
    have zero : 0 ∈ List.range points.length := List.mem_range.mpr (by omega)
    have start : Grows points ⟨[0], (List.range points.length).erase 0, []⟩ :=
      ⟨(List.perm_cons_erase zero).symm, by simp, .nil, by simp, by simpa using .refl 0, rfl⟩
    have grows := loop_invariant (fun s s' h step => (h.step step).1) points.length start
    have halted := loop_halts (fun s s' h step => (h.step step).1) (fun s => s.remaining.length)
      (fun s s' h step => (h.step step).2) start
      (List.length_erase_le.trans (List.length_range).le)
    generalize loop (growTree points) points.length _ = s at grows halted ⊢
    have done : s.remaining = [] := by
      have empty := sort_on_head_none.mp (Option.map_eq_none_iff.mp halted)
      refine List.eq_nil_iff_forall_not_mem.mpr fun v left => ?_
      have listed : (0, v) ∈ s.connected.product s.remaining :=
        List.mem_product.mpr ⟨grows.root, left⟩
      simp [empty] at listed
    have all : s.connected.Perm (List.range points.length) := by
      simpa [done] using grows.parted
    have count := all.length_eq
    rw [List.length_range] at count
    have small : ∀ {v}, v ∈ s.connected ↔ v < points.length :=
      all.mem_iff.trans List.mem_range
    have spans : SpanningTree id points.length s.edges :=
      ⟨fun e taken => (grows.inside e taken).imp small.mp small.mp,
        by have := grows.size; omega, fun u known v known' =>
        ((grows.joins u (small.mpr known)).symm _ _).trans _ _ _ (grows.joins v (small.mpr known'))⟩
    exact grows.chosen.shortest spans.inside spans

end Growth

/-- Both trees are shortest, and a lookup ends whatever the unions and lookups before it. -/
theorem spanning_trees_minimal {K : Type} [AddCommMonoid K] [PartialOrder K]
    [IsOrderedAddMonoid K] {n : ℕ} {candidates : List (CandidateEdge K)} (some_anchor : 0 < n)
    (inside : ∀ e ∈ candidates, e.left < n ∧ e.right < n)
    (complete : ∀ i j, i < j → j < n → ∃ e ∈ candidates, e.left = i ∧ e.right = j)
    (sorted : candidates.Pairwise fun a b => a.distanceM ≤ b.distanceM)
    (points : List (PointM ℝ)) :
    (∃ selected, minimumSpanningTree n candidates = .ok selected ∧ ShortestTree CandidateEdge.ends
      CandidateEdge.distanceM (· ∈ candidates) n selected) ∧
    (∀ done rest, candidates = done ++ rest → Reached n (selectEdges n done (id, [])).1) ∧
    (∀ parent, Reached n parent → ∀ x, climb (find n parent x) = none) ∧
    ∃ pairs, nearestTreeEdges points =
        pairs.map (fun pair => (pointAt points pair.1, pointAt points pair.2)) ∧
      ShortestTree id (pairLength points) (Listed points) points.length pairs := by
  refine ⟨minimum_spanning_tree_spec some_anchor inside complete sorted, fun done rest all => ?_,
    fun parent reached x => ?_, nearestTreePairs points, rfl, nearest_tree_spec points⟩
  · subst all
    obtain ⟨_, progress, -⟩ := select_progress Progress.start
      (fun e seen => inside e (List.mem_append_left _ seen)) (List.pairwise_append.mp sorted).1
    exact progress.reached
  · obtain ⟨k, root, rank, rooted⟩ := reached.rooted
    exact (rooted.find x).2.2

/-- Of the three sides of a triangle the two shorter ones are taken. -/
theorem two_sides_taken :
    ∃ selected : List (CandidateEdge ℕ),
      minimumSpanningTree 3 [⟨3, 0, 1⟩, ⟨4, 1, 2⟩, ⟨5, 0, 2⟩] = .ok selected ∧
        (selected.map CandidateEdge.distanceM).sum = 7 := by
  have complete : ∀ i j, i < j → j < 3 →
      ∃ e ∈ [(⟨3, 0, 1⟩ : CandidateEdge ℕ), ⟨4, 1, 2⟩, ⟨5, 0, 2⟩], e.left = i ∧ e.right = j := by
    intro i j less small
    have pairs : i = 0 ∧ j = 1 ∨ i = 1 ∧ j = 2 ∨ i = 0 ∧ j = 2 := by omega
    rcases pairs with ⟨rfl, rfl⟩ | ⟨rfl, rfl⟩ | ⟨rfl, rfl⟩ <;> simp
  obtain ⟨⟨selected, made, -⟩, -⟩ :=
    spanning_trees_minimal (by decide) (by simp) complete (by simp) []
  have run : minimumSpanningTree 3 [⟨3, 0, 1⟩, ⟨4, 1, 2⟩, ⟨5, 0, 2⟩] =
      .ok [(⟨3, 0, 1⟩ : CandidateEdge ℕ), ⟨4, 1, 2⟩] := rfl
  rw [run] at made
  obtain rfl := Except.ok.inj made
  exact ⟨_, run, rfl⟩

end Metroflow.City.StreetTrees
