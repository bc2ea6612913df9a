import Metroflow.Lib.Dict

namespace Metroflow.Lib.BreadthFirst

section Rank

variable {L : Type} [LinearOrder L] {p q : List L} {a b : L}

/-- The order in which paths are found: the shorter first, then by their labels. -/
def rank (p : List L) : ℕ ×ₗ List L := toLex (p.length, p)

theorem rank_lt : rank p < rank q ↔ p.length < q.length ∨ p.length = q.length ∧ p < q :=
  Prod.Lex.toLex_lt_toLex

theorem rank_nil_le : rank ([] : List L) ≤ rank p := by
  rcases p.eq_nil_or_concat with rfl | ⟨q, b, rfl⟩
  · exact le_refl _
  · exact le_of_lt (rank_lt.mpr (.inl (by simp)))

theorem rank_lt_snoc : rank p < rank (p ++ [a]) := rank_lt.mpr (.inl (by simp))

theorem append_lt_append (same : p.length = q.length) (h : p < q) : p ++ [a] < q ++ [b] := by
  induction p generalizing q with
  | nil =>
    obtain rfl := List.length_eq_zero_iff.mp same.symm
    exact absurd h (lt_irrefl _)
  | cons c p ih =>
    cases q with
    | nil => cases same
    | cons d q =>
      rw [List.cons_append, List.cons_append]
      rcases List.cons_lt_cons_iff.mp h with here | ⟨rfl, later⟩
      · exact List.cons_lt_cons_iff.mpr (.inl here)
      · exact List.cons_lt_cons_iff.mpr (.inr ⟨rfl, ih (Nat.succ.inj same) later⟩)

theorem rank_snoc_lt (h : rank p < rank q) : rank (p ++ [a]) < rank (q ++ [b]) := by
  rcases rank_lt.mp h with shorter | ⟨same, before⟩
  · exact rank_lt.mpr (.inl (by simpa using shorter))
  · exact rank_lt.mpr (.inr ⟨by simpa using same, append_lt_append same before⟩)

theorem rank_snoc_le (h : rank p ≤ rank q) : rank (p ++ [a]) ≤ rank (q ++ [a]) := by
  rcases eq_or_lt_of_le h with same | before
  · have := congrArg (fun r => (ofLex r).2) same
    exact le_of_eq (congrArg (fun p => rank (p ++ [a])) this)
  · exact le_of_lt (rank_snoc_lt before)

theorem rank_snoc_label (h : a < b) : rank (p ++ [a]) < rank (p ++ [b]) := by
  refine rank_lt.mpr (.inr ⟨by simp, ?_⟩)
  induction p with
  | nil => exact List.cons_lt_cons_iff.mpr (.inl h)
  | cons c p ih => exact List.cons_lt_cons_iff.mpr (.inr ⟨rfl, ih⟩)

end Rank

variable {V L : Type} [DecidableEq V]

/-- What a search has seen: each vertex with its parent, and those not yet expanded. -/
structure State (V L : Type) where
  previous : Dict V (Option (V × L))
  queue : List V

/-- Looks along one edge of `node`. -/
def visit (node : V) (state : State V L) (edge : L × V) : State V L :=
  if (state.previous.get edge.2).isSome then state
  else ⟨state.previous.set edge.2 (some (node, edge.1)), state.queue ++ [edge.2]⟩

/-- Expands vertices in the order they were seen, until one stops the search. -/
def search (edges : V → List (L × V)) (stop : V → Prop) [DecidablePred stop] :
    ℕ → State V L → Option V × Dict V (Option (V × L))
  | 0, state => (none, state.previous)
  | fuel + 1, state =>
    match state.queue with
    | [] => (none, state.previous)
    | node :: queue =>
      if stop node then (some node, state.previous)
      else search edges stop fuel ((edges node).foldl (visit node) ⟨state.previous, queue⟩)

/-- The labels from a vertex back to where the search began. -/
def traceBack (previous : Dict V (Option (V × L))) : ℕ → V → List L
  | 0, _ => []
  | fuel + 1, target =>
    match previous.get target with
    | some (some (parent, label)) => label :: traceBack previous fuel parent
    | _ => []

/-- The first path found to a vertex that stops the search, backwards, and that vertex. -/
def pathTo (edges : V → List (L × V)) (stop : V → Prop) [DecidablePred stop] (fuel : ℕ)
    (start : V) : Option (List L × V) :=
  match search edges stop fuel ⟨[(start, none)], [start]⟩ with
  | (none, _) => none
  | (some target, previous) => some (traceBack previous previous.length target, target)

inductive Walk (edges : V → List (L × V)) (start : V) : List L → V → Prop
  | nil : Walk edges start [] start
  | snoc {p : List L} {u v : V} {l : L} (front : Walk edges start p u) (edge : (l, v) ∈ edges u) :
      Walk edges start (p ++ [l]) v

/-- The recorded parents lead back along the path. -/
inductive Traced (previous : Dict V (Option (V × L))) : List L → V → Prop
  | root {v : V} (found : previous.get v = some none) : Traced previous [] v
  | step {p : List L} {u v : V} {l : L} (found : previous.get v = some (some (u, l)))
      (front : Traced previous p u) : Traced previous (p ++ [l]) v

theorem trace_back_of_traced {previous : Dict V (Option (V × L))} {p : List L} {v : V}
    (h : Traced previous p v) {fuel : ℕ} (enough : p.length < fuel) :
    traceBack previous fuel v = p.reverse := by
  induction h generalizing fuel with
  | root found =>
    obtain ⟨fuel, rfl⟩ := Nat.exists_eq_succ_of_ne_zero (Nat.ne_of_gt enough)
    rw [traceBack, found, List.reverse_nil]
  | step found front ih =>
    obtain ⟨fuel, rfl⟩ := Nat.exists_eq_succ_of_ne_zero (Nat.ne_of_gt (Nat.zero_lt_of_lt enough))
    rw [List.length_append, List.length_singleton] at enough
    rw [traceBack, found, List.reverse_append, List.reverse_singleton, List.singleton_append]
    exact congrArg _ (ih (by omega))

theorem Traced.set {previous : Dict V (Option (V × L))} {p : List L} {v other : V}
    {parent : Option (V × L)} (h : Traced previous p v) (fresh : previous.get other = none) :
    Traced (previous.set other parent) p v := by
  induction h with
  | root found =>
    refine .root (Eq.trans (Dict.get_set_of_ne ?_) found)
    rintro rfl
    rw [fresh] at found
    cases found
  | step found front ih =>
    refine .step (Eq.trans (Dict.get_set_of_ne ?_) found) ih
    rintro rfl
    rw [fresh] at found
    cases found

variable [LinearOrder L]

/-- A path to a vertex that stops the search, and none comes before it. -/
structure Least (edges : V → List (L × V)) (start : V) (stop : V → Prop) (p : List L) (v : V) :
    Prop where
  walk : Walk edges start p v
  stops : stop v
  least : ∀ w v', Walk edges start w v' → stop v' → rank p ≤ rank w

variable {edges : V → List (L × V)} {start : V} {stop : V → Prop} {p w : List L} {u v : V} {l : L}
  {found past here : List (V × List L)} {previous : Dict V (Option (V × L))} {s : State V L}

/-- The vertices seen so far, each once and in order with the path that found it. -/
structure Found (edges : V → List (L × V)) (start : V) (found : List (V × List L))
    (previous : Dict V (Option (V × L))) : Prop where
  keys : previous.map Prod.fst = found.map Prod.fst
  distinct : (found.map Prod.fst).Nodup
  walks : ∀ entry ∈ found, Walk edges start entry.2 entry.1
  traced : ∀ entry ∈ found, Traced previous entry.2 entry.1
  short : ∀ entry ∈ found, entry.2.length < found.length
  rising : found.Pairwise fun a b => rank a.2 < rank b.2

theorem Found.init : Found edges start [(start, [])] [(start, none)] where
  keys := rfl
  distinct := List.nodup_singleton _
  walks := by
    rintro entry listed
    obtain rfl := List.mem_singleton.mp listed
    exact .nil
  traced := by
    rintro entry listed
    obtain rfl := List.mem_singleton.mp listed
    exact .root (by simp)
  short := by simp
  rising := List.pairwise_singleton _ _

theorem Found.known (h : Found edges start found previous) :
    (previous.get v).isSome ↔ ∃ entry ∈ found, entry.1 = v := by
  rw [Option.isSome_iff_exists, ← Dict.mem_keys_iff, h.keys, List.mem_map]

theorem Found.add (h : Found edges start found previous) (parent : (u, p) ∈ found)
    (edge : (l, v) ∈ edges u) (fresh : previous.get v = none)
    (after : ∀ entry ∈ found, rank entry.2 < rank (p ++ [l])) :
    Found edges start (found ++ [(v, p ++ [l])]) (previous.set v (some (u, l))) where
  keys := by rw [Dict.set_of_get_none fresh, List.map_append, List.map_append, h.keys]; rfl
  distinct := by
    rw [List.map_append, List.nodup_append_comm]
    refine List.nodup_cons.mpr ⟨fun listed => ?_, h.distinct⟩
    have := h.known.mpr (List.mem_map.mp listed)
    rw [fresh] at this
    cases this
  walks := by
    intro entry listed
    rcases List.mem_append.mp listed with old | new
    · exact h.walks entry old
    · obtain rfl := List.mem_singleton.mp new
      exact (h.walks _ parent).snoc edge
  traced := by
    intro entry listed
    rcases List.mem_append.mp listed with old | new
    · exact (h.traced entry old).set fresh
    · obtain rfl := List.mem_singleton.mp new
      exact .step Dict.get_set_self ((h.traced _ parent).set fresh)
  short := by
    have base := h.short _ parent
    intro entry listed
    rw [List.length_append, List.length_singleton]
    rcases List.mem_append.mp listed with old | new
    · exact Nat.lt_succ_of_lt (h.short entry old)
    · obtain rfl := List.mem_singleton.mp new
      rw [List.length_append, List.length_singleton]
      exact Nat.succ_lt_succ base
  rising := by
    refine List.pairwise_append.mpr ⟨h.rising, List.pairwise_singleton _ _, fun a old b new => ?_⟩
    obtain rfl := List.mem_singleton.mp new
    exact after a old

/-- What the edges of one vertex add to the vertices seen. -/
structure Expanded (edges : V → List (L × V)) (start u : V) (p : List L) (done : List (L × V))
    (old added : List (V × List L)) (queue : List V) (s : State V L) : Prop where
  found : Found edges start (old ++ added) s.previous
  queue : s.queue = queue ++ added.map Prod.fst
  from_here : ∀ entry ∈ added, ∃ e ∈ done, entry.2 = p ++ [e.1]
  covered : ∀ e ∈ done, ∃ entry ∈ old ++ added, entry.1 = e.2 ∧ rank entry.2 ≤ rank (p ++ [e.1])

theorem visit_expanded {done rest : List (L × V)} {old added : List (V × List L)} {queue : List V}
    (h : Expanded edges start u p done old added queue s) (split : edges u = done ++ (l, v) :: rest)
    (sorted : (edges u).Pairwise fun a b => a.1 < b.1) (parent : (u, p) ∈ old)
    (after : ∀ entry ∈ old, ∀ l, rank entry.2 < rank (p ++ [l])) :
    ∃ added', Expanded edges start u p (done ++ [(l, v)]) old added' queue (visit u s (l, v)) := by
  have edge : (l, v) ∈ edges u := by simp [split]
  have increasing : ∀ e ∈ done, e.1 < l := by
    intro e passed
    rw [split] at sorted
    exact (List.pairwise_append.mp sorted).2.2 e passed _ List.mem_cons_self
  have later : ∀ entry ∈ old ++ added, rank entry.2 < rank (p ++ [l]) := by
    intro entry listed
    rcases List.mem_append.mp listed with before | new
    · exact after entry before l
    · obtain ⟨e, passed, same⟩ := h.from_here entry new
      exact same ▸ rank_snoc_label (increasing e passed)
  unfold visit
  by_cases seen : (s.previous.get v).isSome
  · rw [if_pos seen]
    obtain ⟨entry, listed, here⟩ := h.found.known.mp seen
    refine ⟨added, h.found, h.queue, ?_, ?_⟩
    · intro entry new
      obtain ⟨e, passed, same⟩ := h.from_here entry new
      exact ⟨e, List.mem_append_left _ passed, same⟩
    · intro e passed
      rcases List.mem_append.mp passed with before | last
      · exact h.covered e before
      · obtain rfl := List.mem_singleton.mp last
        exact ⟨entry, listed, here, le_of_lt (later entry listed)⟩
  · rw [if_neg seen]
    rw [Bool.not_eq_true, Option.isSome_eq_false_iff, Option.isNone_iff_eq_none] at seen
    have grown := h.found.add (List.mem_append_left _ parent) edge seen later
    rw [List.append_assoc] at grown
    refine ⟨added ++ [(v, p ++ [l])], grown, ?_, ?_, ?_⟩
    · rw [h.queue, List.map_append, List.append_assoc]
      rfl
    · intro entry new
      rcases List.mem_append.mp new with before | last
      · obtain ⟨e, passed, same⟩ := h.from_here entry before
        exact ⟨e, List.mem_append_left _ passed, same⟩
      · obtain rfl := List.mem_singleton.mp last
        exact ⟨(l, v), by simp, rfl⟩
    · intro e passed
      rcases List.mem_append.mp passed with before | last
      · obtain ⟨entry, listed, here, first⟩ := h.covered e before
        rw [← List.append_assoc]
        exact ⟨entry, List.mem_append_left _ listed, here, first⟩
      · obtain rfl := List.mem_singleton.mp last
        exact ⟨(v, p ++ [l]), by simp, rfl, le_refl _⟩

theorem expand {old : List (V × List L)} {queue : List V} (h : Found edges start old previous)
    (sorted : (edges u).Pairwise fun a b => a.1 < b.1) (parent : (u, p) ∈ old)
    (after : ∀ entry ∈ old, ∀ l, rank entry.2 < rank (p ++ [l])) :
    ∃ added, Expanded edges start u p (edges u) old added queue
      ((edges u).foldl (visit u) ⟨previous, queue⟩) := by
  suffices general : ∀ done rest, edges u = done ++ rest → ∃ added,
      Expanded edges start u p done old added queue (done.foldl (visit u) ⟨previous, queue⟩) from
    general (edges u) [] (List.append_nil _).symm
  intro done
  induction done using List.reverseRecOn with
  | nil =>
    intro _ _
    exact ⟨[], by simpa using h, by simp, by simp, by simp⟩
  | append_singleton done e ih =>
    intro rest split
    rw [List.append_assoc, List.singleton_append] at split
    obtain ⟨added, expanded⟩ := ih _ split
    rw [List.foldl_append, List.foldl_cons, List.foldl_nil]
    exact visit_expanded expanded split sorted parent after

/-- A search between two expansions: the vertices `past` are expanded, those `here` are queued. -/
structure Frontier (edges : V → List (L × V)) (start : V) (stop : V → Prop)
    (past here : List (V × List L)) (s : State V L) : Prop where
  found : Found edges start (past ++ here) s.previous
  queue : s.queue = here.map Prod.fst
  root : (start, []) ∈ past ++ here
  grown : ∀ entry ∈ past ++ here, entry.2 = [] ∨ ∃ parent ∈ past, ∃ l, entry.2 = parent.2 ++ [l]
  closed : ∀ entry ∈ past, ∀ e ∈ edges entry.1, ∃ later ∈ past ++ here, later.1 = e.2 ∧
    rank later.2 ≤ rank (entry.2 ++ [e.1])
  passed : ∀ entry ∈ past, ¬ stop entry.1

theorem Frontier.init :
    Frontier edges start stop [] [(start, [])] ⟨[(start, none)], [start]⟩ where
  found := Found.init
  queue := rfl
  root := by simp
  grown := by simp
  closed := by simp
  passed := by simp

theorem Frontier.expand (h : Frontier edges start stop past ((u, p) :: here) s)
    (sorted : (edges u).Pairwise fun a b => a.1 < b.1) (goes_on : ¬ stop u) :
    ∃ added, Frontier edges start stop (past ++ [(u, p)]) (here ++ added)
      ((edges u).foldl (visit u) ⟨s.previous, here.map Prod.fst⟩) := by
  have before : ∀ parent ∈ past, rank parent.2 < rank p := fun parent listed =>
    (List.pairwise_append.mp h.found.rising).2.2 parent listed _ List.mem_cons_self
  have after : ∀ entry ∈ past ++ (u, p) :: here, ∀ l, rank entry.2 < rank (p ++ [l]) := by
    intro entry listed l
    rcases h.grown entry listed with first | ⟨parent, expanded, l', same⟩
    · rw [first]
      exact lt_of_le_of_lt rank_nil_le rank_lt_snoc
    · rw [same]
      exact rank_snoc_lt (before parent expanded)
  obtain ⟨added, expanded⟩ : ∃ added, Expanded edges start u p (edges u) (past ++ (u, p) :: here)
      added (here.map Prod.fst) ((edges u).foldl (visit u) ⟨s.previous, here.map Prod.fst⟩) :=
    BreadthFirst.expand h.found sorted (by simp) after
  have regroup : past ++ (u, p) :: here ++ added = past ++ [(u, p)] ++ (here ++ added) := by simp
  have found := expanded.found
  have covered := expanded.covered
  rw [regroup] at found covered
  refine ⟨added, found, ?_, ?_, ?_, ?_, ?_⟩
  · rw [expanded.queue, List.map_append]
  · rw [← regroup]
    exact List.mem_append_left _ h.root
  · intro entry listed
    rw [← regroup] at listed
    rcases List.mem_append.mp listed with old | new
    · rcases h.grown entry old with first | ⟨parent, expanded, l, same⟩
      · exact .inl first
      · exact .inr ⟨parent, List.mem_append_left _ expanded, l, same⟩
    · obtain ⟨e, -, same⟩ := expanded.from_here entry new
      exact .inr ⟨(u, p), by simp, e.1, same⟩
  · intro entry listed
    rcases List.mem_append.mp listed with old | last
    · intro e edge
      obtain ⟨later, seen, here, first⟩ := h.closed entry old e edge
      exact ⟨later, regroup ▸ List.mem_append_left _ seen, here, first⟩
    · obtain rfl := List.mem_singleton.mp last
      exact covered
  · intro entry listed
    rcases List.mem_append.mp listed with old | last
    · exact h.passed entry old
    · obtain rfl := List.mem_singleton.mp last
      exact goes_on

theorem Frontier.reaches (h : Frontier edges start stop past here s) (walk : Walk edges start w v) :
    (∃ entry ∈ past, entry.1 = v ∧ rank entry.2 ≤ rank w) ∨
      ∃ entry ∈ here, rank entry.2 ≤ rank w := by
  induction walk with
  | nil =>
    rcases List.mem_append.mp h.root with expanded | queued
    · exact .inl ⟨_, expanded, rfl, le_refl _⟩
    · exact .inr ⟨_, queued, le_refl _⟩
  | @snoc w u v l front edge ih =>
    rcases ih with ⟨entry, expanded, rfl, first⟩ | ⟨entry, queued, first⟩
    · obtain ⟨later, listed, rfl, bound⟩ := h.closed entry expanded _ edge
      have bound := le_trans bound (rank_snoc_le first)
      rcases List.mem_append.mp listed with expanded | queued
      · exact .inl ⟨later, expanded, rfl, bound⟩
      · exact .inr ⟨later, queued, bound⟩
    · exact .inr ⟨entry, queued, le_trans first (le_of_lt rank_lt_snoc)⟩

/-- What a search that expands every vertex it must has to show. -/
theorem search_spec [DecidablePred stop] {vertices : List V} {fuel : ℕ}
    (inside : ∀ p v, Walk edges start p v → v ∈ vertices)
    (sorted : ∀ u, (edges u).Pairwise fun a b => a.1 < b.1)
    (h : Frontier edges start stop past here s) (enough : vertices.length < past.length + fuel) :
    (∃ previous, search edges stop fuel s = (none, previous) ∧
      ∀ w v, Walk edges start w v → ¬ stop v) ∨
    ∃ v previous p, search edges stop fuel s = (some v, previous) ∧
      Least edges start stop p v ∧ Traced previous p v ∧ p.length < previous.length := by
  induction fuel generalizing past here s with
  | zero =>
    have within : (past ++ here).map Prod.fst ⊆ vertices := by
      intro v listed
      obtain ⟨entry, seen, rfl⟩ := List.mem_map.mp listed
      exact inside _ _ (h.found.walks entry seen)
    have := (List.subperm_of_subset h.found.distinct within).length_le
    rw [List.length_map, List.length_append] at this
    omega
  | succ fuel ih =>
    cases here with
    | nil =>
      left
      refine ⟨s.previous, by rw [search, h.queue]; rfl, fun w v walk stops => ?_⟩
      rcases h.reaches walk with ⟨entry, expanded, rfl, -⟩ | ⟨entry, queued, -⟩
      · exact h.passed entry expanded stops
      · cases queued
    | cons head here =>
      obtain ⟨u, p⟩ := head
      have queue : s.queue = u :: here.map Prod.fst := h.queue
      rw [search, queue]
      by_cases stops : stop u
      · right
        have listed : (u, p) ∈ past ++ (u, p) :: here := by simp
        have size := congrArg List.length h.found.keys
        rw [List.length_map, List.length_map] at size
        refine ⟨u, s.previous, p, if_pos stops, ⟨h.found.walks _ listed, stops, ?_⟩,
          h.found.traced _ listed, size ▸ h.found.short _ listed⟩
        intro w v walk ends
        rcases h.reaches walk with ⟨entry, expanded, rfl, -⟩ | ⟨entry, queued, first⟩
        · exact absurd ends (h.passed entry expanded)
        · rcases List.mem_cons.mp queued with rfl | later
          · exact first
          · have order := (List.pairwise_append.mp h.found.rising).2.1
            exact le_trans (le_of_lt (List.rel_of_pairwise_cons order later)) first
      · obtain ⟨added, next⟩ := h.expand (sorted u) stops
        dsimp only
        rw [if_neg stops]
        refine ih next ?_
        rw [List.length_append, List.length_singleton]
        omega

theorem path_to_spec (stop : V → Prop) [DecidablePred stop] (fuel : ℕ) {vertices : List V}
    (inside : ∀ p v, Walk edges start p v → v ∈ vertices)
    (sorted : ∀ u, (edges u).Pairwise fun a b => a.1 < b.1) (enough : vertices.length < fuel) :
    (pathTo edges stop fuel start = none ∧ ∀ w v, Walk edges start w v → ¬ stop v) ∨
    ∃ p v, pathTo edges stop fuel start = some (p.reverse, v) ∧ Least edges start stop p v := by
  have init : Frontier edges start stop [] [(start, [])] ⟨[(start, none)], [start]⟩ :=
    Frontier.init
  rcases search_spec inside sorted init (by simpa using enough) with
    ⟨previous, result, none_there⟩ | ⟨v, previous, p, result, least, traced, short⟩
  · exact .inl ⟨by rw [pathTo, result], none_there⟩
  · exact .inr ⟨p, v, by rw [pathTo, result, ← trace_back_of_traced traced short], least⟩

end Metroflow.Lib.BreadthFirst
