import Metroflow.City.Morphology

namespace Metroflow.City.Morphology

open Metroflow.Lib

variable {edges : List Edge} {i j : ℕ} {u v w : ℤ}

section Incidence

/-- No street leads back to the node it leaves. -/
def Loopless (edges : List Edge) : Prop := ∀ edge ∈ edges, edge.1 ≠ edge.2.1

theorem mem_adjacency : i ∈ adjacency edges v ↔
    ∃ edge, edges[i]? = some edge ∧ (edge.1 = v ∨ edge.2.1 = v) := by
  unfold adjacency
  rw [List.mem_flatMap]
  constructor
  · rintro ⟨⟨edge, index⟩, listed, here⟩
    have found := List.mem_zipIdx_iff_getElem?.mp listed
    dsimp only at found here
    rcases List.mem_append.mp here with here | here
    all_goals
      split at here
      · rename_i same
        obtain rfl := List.mem_singleton.mp here
        exact ⟨edge, found, by simp [same]⟩
      · cases here
  · rintro ⟨edge, found, ends⟩
    refine ⟨(edge, i), List.mem_zipIdx_iff_getElem?.mpr found, List.mem_append.mpr ?_⟩
    exact ends.imp (fun same => by simp [same]) fun same => by simp [same]

theorem adjacent_lt (adjacent : i ∈ adjacency edges v) : i < edges.length := by
  obtain ⟨edge, found, -⟩ := mem_adjacency.mp adjacent
  exact (List.getElem?_eq_some_iff.mp found).1

theorem other_adjacent (adjacent : i ∈ adjacency edges v) :
    i ∈ adjacency edges (other edges i v) := by
  obtain ⟨edge, found, ends⟩ := mem_adjacency.mp adjacent
  refine mem_adjacency.mpr ⟨edge, found, ?_⟩
  unfold other
  rw [found]
  dsimp only
  split
  · exact .inr rfl
  · exact .inl rfl

theorem adjacent_ends (adjacent : i ∈ adjacency edges v) (adjacent' : i ∈ adjacency edges u) :
    u = v ∨ u = other edges i v := by
  obtain ⟨edge, found, ends⟩ := mem_adjacency.mp adjacent
  obtain ⟨edge', found', ends'⟩ := mem_adjacency.mp adjacent'
  obtain rfl := Option.some.inj (found.symm.trans found')
  unfold other
  rw [found]
  dsimp only
  split <;> grind

theorem other_ne (loopless : Loopless edges) (adjacent : i ∈ adjacency edges v) :
    other edges i v ≠ v := by
  obtain ⟨edge, found, ends⟩ := mem_adjacency.mp adjacent
  have apart := loopless edge (List.mem_of_getElem? found)
  unfold other
  rw [found]
  dsimp only
  split <;> grind

theorem other_other (loopless : Loopless edges) (adjacent : i ∈ adjacency edges v) :
    other edges i (other edges i v) = v :=
  ((adjacent_ends (other_adjacent adjacent) adjacent).resolve_left
    (other_ne loopless adjacent).symm).symm

theorem adjacency_nodup (loopless : Loopless edges) (v : ℤ) : (adjacency edges v).Nodup := by
  unfold adjacency
  have positions : (edges.zipIdx.map Prod.snd).Nodup := by
    rw [List.zipIdx_map_snd]
    exact List.nodup_range'
  refine List.nodup_flatMap.mpr ⟨fun entry listed => ?_, ?_⟩
  · have apart := loopless entry.1 (List.fst_mem_of_mem_zipIdx listed)
    dsimp only
    by_cases first : entry.1.1 = v
    · rw [if_pos first, if_neg fun second => apart (first.trans second.symm)]
      exact List.nodup_singleton _
    · rw [if_neg first, List.nil_append]
      split
      · exact List.nodup_singleton _
      · exact List.nodup_nil
  · refine (List.pairwise_map.mp positions).imp fun {first second} apart => ?_
    have only : ∀ (entry : Edge × ℕ) (k : ℕ), k ∈ (if entry.1.1 = v then [entry.2] else []) ++
        (if entry.1.2.1 = v then [entry.2] else []) → k = entry.2 := by
      intro entry k listed
      rcases List.mem_append.mp listed with here | here
      all_goals
        split at here
        · exact List.mem_singleton.mp here
        · cases here
    exact fun k in_first in_second => apart ((only first k in_first).symm.trans
      (only second k in_second))

theorem neighbours_eq : neighbours edges v =
    ((adjacency edges v).map fun index => other edges index v).dedup := by
  unfold neighbours adjacency
  have plain : edges = edges.zipIdx.map Prod.fst := (List.zipIdx_map_fst 0 _).symm
  conv_lhs => rw [plain]
  rw [List.flatMap_map, List.map_flatMap]
  refine congrArg List.dedup (List.flatMap_congr fun entry listed => ?_)
  have found := List.mem_zipIdx_iff_getElem?.mp listed
  unfold other
  rw [List.map_append]
  by_cases first : entry.1.1 = v <;> by_cases second : entry.1.2.1 = v <;>
    simp [first, second, found]

theorem interstitial_iff (loopless : Loopless edges) : isInterstitial edges v = true ↔
    ∃ i j, adjacency edges v = [i, j] ∧ other edges i v ≠ other edges j v := by
  have no_loop : v ∉ neighbours edges v := by
    rw [neighbours_eq, List.mem_dedup, List.mem_map]
    rintro ⟨i, adjacent, same⟩
    exact other_ne loopless adjacent same
  unfold isInterstitial compiledDegree
  rw [if_neg no_loop, decide_eq_true_eq, neighbours_eq]
  constructor
  · rintro ⟨two, distinct⟩
    obtain ⟨i, j, pair⟩ := List.length_eq_two.mp two
    refine ⟨i, j, pair, fun same => ?_⟩
    rw [pair, List.map_cons, List.map_singleton, same] at distinct
    simp at distinct
  · rintro ⟨i, j, pair, apart⟩
    rw [pair]
    exact ⟨rfl, by simp [List.dedup_cons_of_notMem, apart]⟩

end Incidence

section Balance

variable {consumed : List ℕ}

/-- Of the streets at a node all are consumed, or none. -/
def EvenAt (edges : List Edge) (consumed : List ℕ) (v : ℤ) : Prop :=
  ∀ i ∈ adjacency edges v, ∀ j ∈ adjacency edges v, i ∈ consumed → j ∈ consumed

/-- Of the streets at a node one is consumed and one is not. -/
def HalfAt (edges : List Edge) (consumed : List ℕ) (v : ℤ) : Prop :=
  ∃ i j, i ∈ adjacency edges v ∧ j ∈ adjacency edges v ∧ i ∈ consumed ∧ j ∉ consumed

theorem EvenAt.elsewhere (even : EvenAt edges consumed u) (adjacent : i ∈ adjacency edges v)
    (apart : u ≠ v) (apart' : u ≠ other edges i v) : EvenAt edges (i :: consumed) u := by
  intro j adjacent_j k adjacent_k taken
  rcases List.mem_cons.mp taken with rfl | taken
  · exact absurd (adjacent_ends adjacent adjacent_j) (by grind)
  · exact List.mem_cons_of_mem _ (even j adjacent_j k adjacent_k taken)

theorem two_streets (loopless : Loopless edges) (inner : isInterstitial edges w = true)
    (adjacent : i ∈ adjacency edges w) : ∃ j, j ≠ i ∧ j ∈ adjacency edges w ∧
      other edges j w ≠ other edges i w ∧ ∀ k ∈ adjacency edges w, k = i ∨ k = j := by
  obtain ⟨a, b, pair, apart⟩ := (interstitial_iff loopless).mp inner
  have distinct : a ≠ b := fun same => apart (by rw [same])
  rw [pair] at adjacent ⊢
  rcases List.mem_pair.mp adjacent with rfl | rfl
  · exact ⟨b, distinct.symm, by simp, apart.symm, fun k listed => List.mem_pair.mp listed⟩
  · exact ⟨a, distinct, by simp, apart, fun k listed => (List.mem_pair.mp listed).symm⟩

theorem EvenAt.arrive (even : EvenAt edges consumed w) (loopless : Loopless edges)
    (inner : isInterstitial edges w = true) (adjacent : i ∈ adjacency edges w)
    (fresh : i ∉ consumed) : HalfAt edges (i :: consumed) w := by
  obtain ⟨j, apart, adjacent_j, -, -⟩ := two_streets loopless inner adjacent
  refine ⟨i, j, adjacent, adjacent_j, List.mem_cons_self, ?_⟩
  rintro (_ | ⟨_, taken⟩)
  · exact apart rfl
  · exact fresh (even j adjacent_j i adjacent taken)

theorem HalfAt.leave (half : HalfAt edges consumed w) (loopless : Loopless edges)
    (inner : isInterstitial edges w = true) (adjacent : i ∈ adjacency edges w)
    (fresh : i ∉ consumed) : EvenAt edges (i :: consumed) w := by
  obtain ⟨taken, left, adjacent_taken, -, consumed_taken, -⟩ := half
  obtain ⟨j, apart, adjacent_j, -, only⟩ := two_streets loopless inner adjacent
  have same : taken = j := (only taken adjacent_taken).resolve_left fun same =>
    fresh (same ▸ consumed_taken)
  intro _ _ k adjacent_k _
  rcases only k adjacent_k with rfl | rfl
  · exact List.mem_cons_self
  · exact List.mem_cons_of_mem _ (same ▸ consumed_taken)

theorem HalfAt.onward (half : HalfAt edges consumed w) (loopless : Loopless edges)
    (inner : isInterstitial edges w = true) :
    ∃ j, ((adjacency edges w).filter fun candidate => candidate ∉ consumed) = [j] ∧
      j ∈ adjacency edges w ∧ j ∉ consumed := by
  obtain ⟨i, j, adjacent_i, adjacent_j, taken, fresh⟩ := half
  obtain ⟨a, b, pair, -⟩ := (interstitial_iff loopless).mp inner
  refine ⟨j, ?_, adjacent_j, fresh⟩
  rw [pair] at adjacent_i adjacent_j ⊢
  rcases List.mem_pair.mp adjacent_i with rfl | rfl <;>
    rcases List.mem_pair.mp adjacent_j with rfl | rfl
  · exact absurd taken fresh
  · simp [taken, fresh]
  · simp [taken, fresh]
  · exact absurd taken fresh

end Balance

section Paths

/-- A way along streets from a node to a node, through interstitial nodes. -/
inductive Path (edges : List Edge) (start : ℤ) : List ℕ → ℤ → Prop
  | first {i : ℕ} (adjacent : i ∈ adjacency edges start) :
      Path edges start [i] (other edges i start)
  | onward {members : List ℕ} {w : ℤ} {i j : ℕ} (way : Path edges start (members ++ [i]) w)
      (inner : isInterstitial edges w = true) (adjacent : j ∈ adjacency edges w) (apart : j ≠ i) :
      Path edges start (members ++ [i] ++ [j]) (other edges j w)

variable {members : List ℕ} {start : ℤ}

theorem Path.ne_nil (way : Path edges start members w) : members ≠ [] := by
  cases way <;> simp

theorem Path.last (way : Path edges start (members ++ [i]) w) : i ∈ adjacency edges w := by
  generalize last : members ++ [i] = all at way
  have ends := congrArg List.getLast? last
  cases way with
  | @first k adjacent =>
    obtain rfl : i = k := by simpa using ends
    exact other_adjacent adjacent
  | @onward _ _ _ k _ _ adjacent =>
    obtain rfl : i = k := by simpa using ends
    exact other_adjacent adjacent

theorem Path.arrives (way : Path edges start members w) : ∃ k ∈ adjacency edges w, k ∈ members := by
  cases way with
  | first adjacent => exact ⟨_, other_adjacent adjacent, List.mem_singleton.mpr rfl⟩
  | onward way inner adjacent apart =>
    exact ⟨_, other_adjacent adjacent, List.mem_append_right _ (List.mem_singleton.mpr rfl)⟩

theorem Path.lt (way : Path edges start members w) : ∀ k ∈ members, k < edges.length := by
  induction way with
  | first adjacent =>
    intro k listed
    obtain rfl := List.mem_singleton.mp listed
    exact adjacent_lt adjacent
  | onward _ _ adjacent _ ih =>
    intro k listed
    rcases List.mem_append.mp listed with earlier | last
    · exact ih k earlier
    · obtain rfl := List.mem_singleton.mp last
      exact adjacent_lt adjacent

theorem Path.incidences (way : Path edges start members w) (loopless : Loopless edges)
    (distinct : members.Nodup) (junction : isInterstitial edges v = false) :
    members.countP (fun k => k ∈ adjacency edges v) =
      (if v = start then 1 else 0) + if v = w then 1 else 0 := by
  induction way with
  | @first i adjacent =>
    have apart := other_ne loopless adjacent
    rw [List.countP_singleton]
    by_cases here : i ∈ adjacency edges v
    · rw [if_pos (decide_eq_true here)]
      rcases adjacent_ends adjacent here with rfl | rfl
      · rw [if_pos rfl, if_neg apart.symm]
      · rw [if_neg apart, if_pos rfl]
    · have off : v ≠ start := fun same => here (by rw [same]; exact adjacent)
      have off' : v ≠ other edges i start := fun same =>
        here (by rw [same]; exact other_adjacent adjacent)
      rw [if_neg (by simpa using here), if_neg off, if_neg off']
  | @onward members w i j way inner adjacent apart ih =>
    have passed : v ≠ w := fun same => by
      rw [same, inner] at junction
      cases junction
    rw [List.countP_append, ih (List.nodup_append.mp distinct).1, List.countP_singleton,
      if_neg passed, add_zero]
    congr 1
    by_cases here : j ∈ adjacency edges v
    · have there := (adjacent_ends adjacent here).resolve_left passed
      rw [if_pos (decide_eq_true here), if_pos there]
    · have off : v ≠ other edges j w := fun same =>
        here (by rw [same]; exact other_adjacent adjacent)
      rw [if_neg (by simpa using here), if_neg off]

end Paths

section Trails

variable {consumed : List ℕ} {walk walk' : Walk} {start : ℤ}

/-- What a walk has done since it began. -/
structure Trail (edges : List Edge) (consumed : List ℕ) (start : ℤ) (startEdge : ℕ)
    (walk : Walk) : Prop where
  consumed_eq : walk.consumed = walk.members.reverse ++ consumed
  distinct : walk.members.Nodup
  fresh : ∀ k ∈ walk.members, k ∉ consumed
  head : walk.members.head? = some startEdge
  way : Path edges start walk.members walk.nextNodeId
  arc : walk.arcLengthM = (walk.members.map (lengthOf edges)).sum

theorem Trail.mem_consumed (trail : Trail edges consumed start i walk) {k : ℕ} :
    k ∈ walk.consumed ↔ k ∈ walk.members ∨ k ∈ consumed := by
  rw [trail.consumed_eq, List.mem_append, List.mem_reverse]

theorem trail_start (adjacent : i ∈ adjacency edges start) (fresh : i ∉ consumed) :
    Trail edges consumed start i (Walk.start edges consumed start i) where
  consumed_eq := rfl
  distinct := List.nodup_singleton i
  fresh k listed := by
    obtain rfl := List.mem_singleton.mp listed
    exact fresh
  head := rfl
  way := .first adjacent
  arc := by simp [Walk.start]

theorem Trail.advance (trail : Trail edges consumed start i walk) (loopless : Loopless edges)
    (inner : isInterstitial edges walk.nextNodeId = true)
    (half : HalfAt edges walk.consumed walk.nextNodeId) :
    ∃ j walk', walk.advance edges = some walk' ∧ Trail edges consumed start i walk' ∧
      j ∈ adjacency edges walk.nextNodeId ∧ j ∉ walk.consumed ∧
      walk'.consumed = j :: walk.consumed ∧ walk'.nextNodeId = other edges j walk.nextNodeId := by
  obtain ⟨j, only, adjacent, left⟩ := half.onward loopless inner
  refine ⟨j, _, by unfold Walk.advance; rw [only], ?_, adjacent, left, rfl, rfl⟩
  have new : j ∉ walk.members ∧ j ∉ consumed := by
    rw [trail.mem_consumed, not_or] at left
    exact left
  obtain ⟨members, last, split⟩ := List.eq_nil_or_concat walk.members |>.resolve_left
    trail.way.ne_nil
  rw [List.concat_eq_append] at split
  refine ⟨?_, ?_, ?_, ?_, ?_, ?_⟩
  · dsimp only
    rw [trail.consumed_eq, List.reverse_append, List.reverse_singleton]
    rfl
  · refine List.nodup_append.mpr ⟨trail.distinct, List.nodup_singleton j, fun k listed l last => ?_⟩
    obtain rfl := List.mem_singleton.mp last
    exact fun same => new.1 (same ▸ listed)
  · intro k listed
    rcases List.mem_append.mp listed with earlier | last
    · exact trail.fresh k earlier
    · obtain rfl := List.mem_singleton.mp last
      exact new.2
  · dsimp only
    rw [List.head?_append, trail.head]
    rfl
  · have way := trail.way
    rw [split] at way
    dsimp only
    rw [split]
    refine .onward way inner adjacent fun same => new.1 ?_
    rw [split, same]
    exact List.mem_append_right _ (List.mem_singleton.mpr rfl)
  · dsimp only
    rw [trail.arc, List.map_append, List.sum_append, List.map_singleton, List.sum_singleton]

/-- The streets that a walk may still take. -/
def unconsumed (edges : List Edge) (walk : Walk) : ℕ :=
  ((List.range edges.length).filter fun k => k ∉ walk.consumed).length

theorem unconsumed_lt (inside : j < edges.length) (fresh : j ∉ walk.consumed)
    (taken : walk'.consumed = j :: walk.consumed) :
    unconsumed edges walk' < unconsumed edges walk := by
  unfold unconsumed
  have left : ((List.range edges.length).filter fun k => k ∉ walk'.consumed) =
      ((List.range edges.length).filter fun k => k ∉ walk.consumed).filter fun k => k ≠ j := by
    rw [List.filter_filter, taken]
    refine List.filter_congr fun k _ => ?_
    simp [not_or]
  rw [left, List.length_filter_lt_length_iff_exists]
  refine ⟨j, List.mem_filter.mpr ⟨List.mem_range.mpr inside, by simpa using fresh⟩, by simp⟩

theorem unconsumed_le (walk : Walk) : unconsumed edges walk ≤ edges.length :=
  (List.length_filter_le _ _).trans_eq List.length_range

/-- Between two steps of a chain every other interstitial node is even. -/
structure OnChain (edges : List Edge) (consumed : List ℕ) (start : ℤ) (startEdge : ℕ)
    (walk : Walk) : Prop where
  trail : Trail edges consumed start startEdge walk
  even : ∀ u, isInterstitial edges u = true → u ≠ walk.nextNodeId → EvenAt edges walk.consumed u
  half : isInterstitial edges walk.nextNodeId = true → HalfAt edges walk.consumed walk.nextNodeId

theorem OnChain.step (on : OnChain edges consumed start i walk) (loopless : Loopless edges)
    (step : walk.chainStep edges = some walk') :
    OnChain edges consumed start i walk' ∧ unconsumed edges walk' < unconsumed edges walk := by
  unfold Walk.chainStep at step
  split at step
  · cases step
  rename_i inner
  rw [Bool.not_eq_false] at inner
  obtain ⟨j, next, advanced, trail, adjacent, fresh, taken, there⟩ :=
    on.trail.advance loopless inner (on.half inner)
  obtain rfl := Option.some.inj (advanced.symm.trans step)
  refine ⟨⟨trail, fun u inner_u apart => ?_, fun inner' => ?_⟩,
    unconsumed_lt (adjacent_lt adjacent) fresh taken⟩
  · rw [there] at apart
    rw [taken]
    by_cases here : u = walk.nextNodeId
    · subst here
      exact (on.half inner).leave loopless inner adjacent fresh
    · exact (on.even u inner_u here).elsewhere adjacent here apart
  · rw [there] at inner' ⊢
    rw [taken]
    exact (on.even _ inner' (other_ne loopless adjacent)).arrive loopless inner'
      (other_adjacent adjacent) fresh

theorem chain_spec (loopless : Loopless edges) (anchor : isInterstitial edges start = false)
    (adjacent : i ∈ adjacency edges start) (fresh : i ∉ consumed)
    (even : ∀ u, isInterstitial edges u = true → EvenAt edges consumed u) :
    Trail edges consumed start i (chain edges consumed start i) ∧
      isInterstitial edges (chain edges consumed start i).nextNodeId = false ∧
      ∀ u, isInterstitial edges u = true →
        EvenAt edges (chain edges consumed start i).consumed u := by
  have begins : OnChain edges consumed start i (Walk.start edges consumed start i) := by
    refine ⟨trail_start adjacent fresh, fun u inner apart => ?_, fun inner => ?_⟩
    · refine (even u inner).elsewhere adjacent (fun same => ?_) apart
      rw [same, anchor] at inner
      cases inner
    · exact (even _ inner).arrive loopless inner (other_adjacent adjacent) fresh
  have kept : ∀ s s', OnChain edges consumed start i s → Walk.chainStep edges s = some s' →
      OnChain edges consumed start i s' := fun s s' on step => (on.step loopless step).1
  have on : OnChain edges consumed start i (chain edges consumed start i) :=
    loop_invariant kept edges.length begins
  have halts : Walk.chainStep edges (chain edges consumed start i) = none :=
    loop_halts kept (unconsumed edges) (fun s s' on step => (on.step loopless step).2) begins
      (unconsumed_le _)
  have ends : isInterstitial edges (chain edges consumed start i).nextNodeId = false := by
    unfold Walk.chainStep at halts
    split at halts
    · assumption
    · rename_i inner
      rw [Bool.not_eq_false] at inner
      obtain ⟨_, _, advanced, -⟩ := on.trail.advance loopless inner (on.half inner)
      rw [advanced] at halts
      cases halts
  refine ⟨on.trail, ends, fun u inner => on.even u inner fun same => ?_⟩
  rw [same, ends] at inner
  cases inner

/-- Between two steps of a ring its first node is even only where the walk has come back to it. -/
structure OnRing (edges : List Edge) (consumed : List ℕ) (start : ℤ) (startEdge : ℕ)
    (walk : Walk) : Prop where
  trail : Trail edges consumed start startEdge walk
  even : ∀ u, isInterstitial edges u = true → u ≠ walk.nextNodeId → u ≠ start →
    EvenAt edges walk.consumed u
  inner : isInterstitial edges walk.nextNodeId = true
  away : walk.nextNodeId ≠ start →
    HalfAt edges walk.consumed walk.nextNodeId ∧ HalfAt edges walk.consumed start
  back : walk.nextNodeId = start → EvenAt edges walk.consumed start

theorem OnRing.step (on : OnRing edges consumed start i walk) (loopless : Loopless edges)
    (inner_start : isInterstitial edges start = true) (adjacent_start : i ∈ adjacency edges start)
    (ends : ∀ k, k ∉ consumed → ∀ u, k ∈ adjacency edges u → isInterstitial edges u = true)
    (step : walk.advance edges = some walk') :
    OnRing edges consumed start i walk' ∧ unconsumed edges walk' < unconsumed edges walk := by
  have gone : walk.nextNodeId ≠ start := by
    intro back
    have first : i ∈ walk.consumed := on.trail.mem_consumed.mpr
      (.inl (List.mem_of_mem_head? on.trail.head))
    have all : ∀ k ∈ adjacency edges walk.nextNodeId, k ∈ walk.consumed := fun k adjacent =>
      on.back back i adjacent_start k (back ▸ adjacent) first
    have none : ((adjacency edges walk.nextNodeId).filter
        fun candidate => candidate ∉ walk.consumed) = [] :=
      List.filter_eq_nil_iff.mpr fun k adjacent => by simpa using all k adjacent
    unfold Walk.advance at step
    rw [none] at step
    cases step
  obtain ⟨half, half_start⟩ := on.away gone
  obtain ⟨j, next, advanced, trail, adjacent, fresh, taken, there⟩ :=
    on.trail.advance loopless on.inner half
  obtain rfl := Option.some.inj (advanced.symm.trans step)
  have new : j ∉ consumed := fun old => fresh (on.trail.mem_consumed.mpr (.inr old))
  have inner' := ends j new _ (other_adjacent adjacent)
  refine ⟨⟨trail, fun u inner_u apart off => ?_, there ▸ inner', fun away => ?_, fun back => ?_⟩,
    unconsumed_lt (adjacent_lt adjacent) fresh taken⟩
  · rw [there] at apart
    rw [taken]
    by_cases here : u = walk.nextNodeId
    · subst here
      exact half.leave loopless on.inner adjacent fresh
    · exact (on.even u inner_u here off).elsewhere adjacent here apart
  · rw [there] at away ⊢
    rw [taken]
    constructor
    · exact (on.even _ inner' (other_ne loopless adjacent) away).arrive loopless inner'
        (other_adjacent adjacent) fresh
    · obtain ⟨a, b, adjacent_a, adjacent_b, taken_a, fresh_b⟩ := half_start
      refine ⟨a, b, adjacent_a, adjacent_b, List.mem_cons_of_mem _ taken_a, ?_⟩
      rintro (_ | ⟨_, old⟩)
      · rcases adjacent_ends adjacent adjacent_b with same | same
        · exact gone same.symm
        · exact away same.symm
      · exact fresh_b old
  · rw [there] at back
    rw [taken]
    exact half_start.leave loopless inner_start (back ▸ other_adjacent adjacent) fresh

theorem ring_spec (loopless : Loopless edges) (adjacent : i ∈ adjacency edges start)
    (fresh : i ∉ consumed)
    (ends : ∀ k, k ∉ consumed → ∀ u, k ∈ adjacency edges u → isInterstitial edges u = true)
    (even : ∀ u, isInterstitial edges u = true → EvenAt edges consumed u) :
    Trail edges consumed start i (ring edges consumed start i) ∧
      (ring edges consumed start i).nextNodeId = start ∧
      ∀ u, isInterstitial edges u = true →
        EvenAt edges (ring edges consumed start i).consumed u := by
  have inner_start := ends i fresh start adjacent
  have inner_next := ends i fresh _ (other_adjacent adjacent)
  have begins : OnRing edges consumed start i (Walk.start edges consumed start i) := by
    refine ⟨trail_start adjacent fresh, fun u inner apart off => ?_, inner_next, fun _ => ?_,
      fun back => absurd back (other_ne loopless adjacent)⟩
    · exact (even u inner).elsewhere adjacent off apart
    · exact ⟨(even _ inner_next).arrive loopless inner_next (other_adjacent adjacent) fresh,
        (even _ inner_start).arrive loopless inner_start adjacent fresh⟩
  have kept : ∀ s s', OnRing edges consumed start i s → Walk.advance edges s = some s' →
      OnRing edges consumed start i s' :=
    fun s s' on step => (on.step loopless inner_start adjacent ends step).1
  have on : OnRing edges consumed start i (ring edges consumed start i) :=
    loop_invariant kept edges.length begins
  have halts : Walk.advance edges (ring edges consumed start i) = none :=
    loop_halts kept (unconsumed edges)
      (fun s s' on step => (on.step loopless inner_start adjacent ends step).2) begins
      (unconsumed_le _)
  have back : (ring edges consumed start i).nextNodeId = start := by
    by_contra gone
    obtain ⟨_, _, advanced, -⟩ := on.trail.advance loopless on.inner (on.away gone).1
    rw [advanced] at halts
    cases halts
  refine ⟨on.trail, back, fun u inner => ?_⟩
  by_cases here : u = start
  · rw [here]
    exact on.back back
  · exact on.even u inner (back.symm ▸ here) here

end Trails

end Metroflow.City.Morphology
