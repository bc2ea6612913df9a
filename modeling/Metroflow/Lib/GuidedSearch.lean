import Metroflow.Lib.Heap
import Metroflow.Lib.Loops

namespace Metroflow.Lib

/-- A best-first search: what waits with its estimate and its cost, the best costs, and the way
back. -/
structure Guided (K ν : Type) where
  queue : List (K × K × ν)
  best : ν → Option K
  previous : ν → Option ν
  reached : Bool

namespace Guided

variable {K ν : Type} [Field K] [LinearOrder K] [DecidableEq ν]

section Model

variable (next : ν → List ν) (weight : ν → ν → K) (heuristic : ν → K)
  (le : K × K × ν → K × K × ν → Bool) (goal : ν)

def relax (cost : K) (node : ν) (s : Guided K ν) (nextNode : ν) : Guided K ν :=
  let nextCost := cost + weight node nextNode
  if (s.best nextNode).any fun known => known ≤ nextCost then s
  else
    { s with
      queue := (nextCost + heuristic nextNode, nextCost, nextNode) :: s.queue
      best := Function.update s.best nextNode (some nextCost)
      previous := Function.update s.previous nextNode (some node) }

/-- Pops the least estimate; a label that is not stale ends the search or is passed on. -/
def step (s : Guided K ν) : Option (Guided K ν) :=
  if s.reached then none
  else match popMin le s.queue with
    | none => none
    | some ((_, cost, node), rest) =>
      if s.best node ≠ some cost then some { s with queue := rest }
      else if node = goal then some { s with queue := rest, reached := true }
      else some ((next node).foldl (relax weight heuristic cost node) { s with queue := rest })

def start (source : ν) : Guided K ν where
  queue := [(0, 0, source)]
  best := Function.update (fun _ => none) source (some 0)
  previous _ := none
  reached := false

/-- Goes back by one node. -/
def backStep (previous : ν → Option ν) (path : List ν) : Option (List ν) :=
  (path.head?.bind previous).map fun node => node :: path

/-- A way along the successors. -/
structure Route (source goal : ν) (path : List ν) : Prop where
  begins : path.head? = some source
  ends : path.getLast? = some goal
  steps : path.IsChain fun u v => v ∈ next u

def pathCost (path : List ν) : K :=
  ((path.zip path.tail).map fun piece => weight piece.1 piece.2).sum

end Model

variable {next : ν → List ν} {weight : ν → ν → K} {heuristic : ν → K}
  {le : K × K × ν → K × K × ν → Bool} {source goal u v : ν} {s : Guided K ν} {cost level : K}
  {S cells : Finset ν}

theorem loop_stopped {σ : Type} {step : σ → Option σ} {s : σ} {fuel : ℕ} (ended : step s = none) :
    loop step fuel s = s := by
  cases fuel with
  | zero => rfl
  | succ fuel => rw [loop, ended]

omit [LinearOrder K] [DecidableEq ν] in
theorem path_cost_cons {path : List ν} :
    pathCost weight (u :: v :: path) = weight u v + pathCost weight (v :: path) := by
  simp [pathCost]

theorem relax_cases (weight : ν → ν → K) (heuristic : ν → K) (cost : K) (u v : ν)
    (s : Guided K ν) :
    ((∃ known, s.best v = some known ∧ known ≤ cost + weight u v) ∧
      relax weight heuristic cost u s v = s) ∨
    ((∀ known, s.best v = some known → cost + weight u v < known) ∧
      relax weight heuristic cost u s v = { s with
        queue := (cost + weight u v + heuristic v, cost + weight u v, v) :: s.queue
        best := Function.update s.best v (some (cost + weight u v))
        previous := Function.update s.previous v (some u) }) := by
  unfold relax
  dsimp only
  split
  · rename_i low
    obtain ⟨known, found, at_most⟩ := (Option.any_eq_true _ _).mp low
    exact .inl ⟨⟨known, found, of_decide_eq_true at_most⟩, rfl⟩
  · rename_i high
    refine .inr ⟨fun known found => ?_, rfl⟩
    rw [found] at high
    simpa using high

/-- Labels with a way back to the source, and a queue of what was labelled. The nodes of `S` are
settled at estimates up to `level`, from which the queue starts. -/
structure Settled (next : ν → List ν) (weight : ν → ν → K) (heuristic : ν → K) (source : ν)
    (cells S : Finset ν) (level : K) (s : Guided K ν) : Prop where
  source_best : s.best source = some 0
  source_settled : source ∈ S
  source_first : s.previous source = none
  back : ∀ v c, s.best v = some c → v ≠ source → ∃ u b, s.previous v = some u ∧ v ∈ next u ∧
    s.best u = some b ∧ b + weight u v ≤ c
  inside : ∀ v c, s.best v = some c → v ∈ cells
  queue_label : ∀ e ∈ s.queue, e.1 = e.2.1 + heuristic e.2.2 ∧
    ∃ b, s.best e.2.2 = some b ∧ b ≤ e.2.1
  queue_nodup : (s.queue.map Prod.snd).Nodup
  queue_from : ∀ e ∈ s.queue, level ≤ e.1
  settled_low : ∀ v ∈ S, ∃ b, s.best v = some b ∧ b + heuristic v ≤ level
  settled_gone : ∀ v ∈ S, ∀ e ∈ s.queue, e.2.2 = v → s.best v ≠ some e.2.1

/-- The label of a node waits in the queue, or it was passed on. -/
def Followed (next : ν → List ν) (weight : ν → ν → K) (goal : ν) (s : Guided K ν) (v : ν) :
    Prop :=
  ∀ c, s.best v = some c → (c, v) ∈ s.queue.map Prod.snd ∨
    v ≠ goal ∧ ∀ w ∈ next v, ∃ b, s.best w = some b ∧ b ≤ c + weight v w

/-- The successors stay among the cells, at a positive cost that the heuristic does not exceed. -/
structure Graph (next : ν → List ν) (weight : ν → ν → K) (heuristic : ν → K) (goal : ν)
    (cells : Finset ν) (degree : ℕ) : Prop where
  inside : ∀ u ∈ cells, ∀ v ∈ next u, v ∈ cells
  degree : ∀ u, (next u).length ≤ degree
  positive : ∀ u, ∀ v ∈ next u, 0 < weight u v
  consistent : ∀ u, ∀ v ∈ next u, heuristic u ≤ weight u v + heuristic v
  at_goal : heuristic goal = 0

theorem Followed.relax {w : ν} (followed : Followed next weight goal s w) :
    Followed next weight goal (relax weight heuristic cost u s v) w := by
  rcases relax_cases weight heuristic cost u v s with ⟨-, same⟩ | ⟨lower, new⟩
  · rwa [same]
  rw [new]
  intro c known
  dsimp only at known ⊢
  by_cases at_v : w = v
  · subst at_v
    rw [Function.update_self] at known
    obtain rfl := Option.some.inj known
    exact .inl List.mem_cons_self
  rw [Function.update_of_ne at_v] at known
  rcases followed c known with waits | ⟨away, passed⟩
  · exact .inl (List.mem_cons_of_mem _ waits)
  refine .inr ⟨away, fun x out => ?_⟩
  obtain ⟨b, labelled, low⟩ := passed x out
  by_cases changed : x = v
  · rw [changed] at labelled low ⊢
    exact ⟨_, Function.update_self .., (lower b labelled).le.trans low⟩
  · exact ⟨b, by rwa [Function.update_of_ne changed], low⟩

theorem relax_le (weight : ν → ν → K) (heuristic : ν → K) (cost : K) (u v : ν) (s : Guided K ν) :
    (∃ b, (relax weight heuristic cost u s v).best v = some b ∧ b ≤ cost + weight u v) ∧
    ∀ w c, s.best w = some c →
      ∃ b, (relax weight heuristic cost u s v).best w = some b ∧ b ≤ c := by
  rcases relax_cases weight heuristic cost u v s with ⟨⟨known, found, low⟩, same⟩ | ⟨lower, new⟩
  · rw [same]
    exact ⟨⟨known, found, low⟩, fun w c label => ⟨c, label, le_rfl⟩⟩
  · rw [new]
    refine ⟨⟨_, Function.update_self .., le_rfl⟩, fun w c label => ?_⟩
    by_cases changed : w = v
    · rw [changed] at label ⊢
      exact ⟨_, Function.update_self .., (lower c label).le⟩
    · exact ⟨c, (Function.update_of_ne changed _ _).trans label, le_rfl⟩

theorem Followed.relax_all {w : ν} {out : List ν} (followed : Followed next weight goal s w) :
    Followed next weight goal (out.foldl (Guided.relax weight heuristic cost u) s) w := by
  induction out generalizing s with
  | nil => exact followed
  | cons v out ih => exact ih followed.relax

theorem relax_all_le (weight : ν → ν → K) (heuristic : ν → K) (cost : K) (u : ν) (out : List ν)
    (s : Guided K ν) :
    (∀ w c, s.best w = some c → ∃ b,
      (out.foldl (relax weight heuristic cost u) s).best w = some b ∧ b ≤ c) ∧
    ∀ v ∈ out, ∃ b, (out.foldl (relax weight heuristic cost u) s).best v = some b ∧
      b ≤ cost + weight u v := by
  induction out generalizing s with
  | nil => exact ⟨fun w c label => ⟨c, label, le_rfl⟩, by simp⟩
  | cons v out ih =>
    obtain ⟨⟨first, found, at_most⟩, falls⟩ := relax_le weight heuristic cost u v s
    obtain ⟨after, rest⟩ := ih (relax weight heuristic cost u s v)
    refine ⟨fun w c label => ?_, List.forall_mem_cons.mpr ⟨?_, rest⟩⟩
    · obtain ⟨b, now, low⟩ := falls w c label
      obtain ⟨b', later, lower⟩ := after w b now
      exact ⟨b', later, lower.trans low⟩
    · obtain ⟨b, later, lower⟩ := after v first found
      exact ⟨b, later, lower.trans at_most⟩

omit [DecidableEq ν] in
theorem Settled.settled_subset
    (settled : Settled next weight heuristic source cells S level s) : S ⊆ cells := by
  intro v old
  obtain ⟨b, label, -⟩ := settled.settled_low v old
  exact settled.inside v b label

omit [DecidableEq ν] in
theorem Settled.pop {entry : K × K × ν} {rest : List (K × K × ν)}
    (settled : Settled next weight heuristic source cells S level s)
    (popped : popMin le s.queue = some (entry, rest)) (least : ∀ e ∈ rest, entry.1 ≤ e.1) :
    Settled next weight heuristic source cells S entry.1 { s with queue := rest } := by
  have stays : ∀ e ∈ rest, e ∈ s.queue := fun e waits => (pop_min_mem popped).mpr (.inr waits)
  have risen := settled.queue_from entry ((pop_min_mem popped).mpr (.inl rfl))
  have nodup := ((pop_min_perm popped).map Prod.snd).nodup_iff.mp settled.queue_nodup
  refine ⟨settled.source_best, settled.source_settled, settled.source_first, settled.back,
    settled.inside, fun e waits => settled.queue_label e (stays e waits),
    (List.nodup_cons.mp nodup).2, least, fun v old => ?_,
    fun v old e waits => settled.settled_gone v old e (stays e waits)⟩
  obtain ⟨b, label, low⟩ := settled.settled_low v old
  exact ⟨b, label, low.trans risen⟩

theorem Settled.insert {estimate : K} {rest : List (K × K × ν)}
    (settled : Settled next weight heuristic source cells S level s)
    (popped : popMin le s.queue = some ((estimate, cost, u), rest))
    (least : ∀ e ∈ rest, estimate ≤ e.1) (label : s.best u = some cost) :
    u ∉ S ∧ cost + heuristic u = estimate ∧
      Settled next weight heuristic source cells (insert u S) estimate
        { s with queue := rest } := by
  have waited : (estimate, cost, u) ∈ s.queue := (pop_min_mem popped).mpr (.inl rfl)
  have estimated : estimate = cost + heuristic u := (settled.queue_label _ waited).1
  have nodup := ((pop_min_perm popped).map Prod.snd).nodup_iff.mp settled.queue_nodup
  have before := settled.pop popped least
  refine ⟨fun old => settled.settled_gone u old _ waited rfl label, estimated.symm,
    { before with
      source_settled := Finset.mem_insert_of_mem before.source_settled
      settled_low := fun v old => ?_
      settled_gone := fun v old e waits same known => ?_ }⟩
  · rcases Finset.mem_insert.mp old with rfl | old
    · exact ⟨cost, label, estimated.ge⟩
    · exact before.settled_low v old
  · rcases Finset.mem_insert.mp old with rfl | old
    · have cost_eq : cost = e.2.1 := Option.some.inj (label.symm.trans known)
      have twice : e.2 = (cost, v) := Prod.ext cost_eq.symm same
      exact (List.nodup_cons.mp nodup).1 (List.mem_map.mpr ⟨e, waits, twice⟩)
    · exact before.settled_gone v old e waits same known

variable [IsStrictOrderedRing K] {degree : ℕ}

theorem Settled.relax (settled : Settled next weight heuristic source cells S level s)
    (graph : Graph next weight heuristic goal cells degree) (here : u ∈ S)
    (label : s.best u = some cost) (at_level : cost + heuristic u = level) (out : v ∈ next u) :
    Settled next weight heuristic source cells S level (relax weight heuristic cost u s v) := by
  rcases relax_cases weight heuristic cost u v s with ⟨-, same⟩ | ⟨lower, new⟩
  · rw [same]
    exact settled
  have estimate := graph.consistent u v out
  -- a settled node has no worse label
  have fresh : v ∉ S := by
    intro old
    obtain ⟨b, known, low⟩ := settled.settled_low v old
    have less := lower b known
    linarith
  have other : ∀ w ∈ S, w ≠ v := fun w old same => fresh (same ▸ old)
  have kept : ∀ w ∈ S, (Function.update s.best v (some (cost + weight u v))) w = s.best w :=
    fun w old => Function.update_of_ne (other w old) _ _
  have apart : u ≠ v := other u here
  rw [new]
  refine ⟨(kept source settled.source_settled).trans settled.source_best, settled.source_settled,
    ?_, fun w c known away => ?_, fun w c known => ?_, fun e waits => ?_, ?_, fun e waits => ?_,
    fun w old => ?_, fun w old e waits same => ?_⟩
  · dsimp only
    rw [Function.update_of_ne (other source settled.source_settled)]
    exact settled.source_first
  · dsimp only at known ⊢
    by_cases at_v : w = v
    · subst at_v
      rw [Function.update_self] at known ⊢
      refine ⟨u, cost, rfl, out, ?_, (Option.some.inj known).le⟩
      rw [Function.update_of_ne apart]
      exact label
    · rw [Function.update_of_ne at_v] at known ⊢
      obtain ⟨p, b, first, step, known_p, low⟩ := settled.back w c known away
      by_cases through : p = v
      · rw [through] at first step known_p low
        have less := lower b known_p
        exact ⟨v, _, first, step, Function.update_self .., by linarith⟩
      · exact ⟨p, b, first, step, by rwa [Function.update_of_ne through], low⟩
  · dsimp only at known
    by_cases at_v : w = v
    · rw [at_v]
      exact graph.inside u (settled.inside u cost label) v out
    · rw [Function.update_of_ne at_v] at known
      exact settled.inside w c known
  · dsimp only
    rcases List.mem_cons.mp waits with rfl | old
    · exact ⟨rfl, _, Function.update_self .., le_rfl⟩
    · obtain ⟨estimated, b, known, low⟩ := settled.queue_label e old
      refine ⟨estimated, ?_⟩
      by_cases at_v : e.2.2 = v
      · rw [at_v] at known ⊢
        exact ⟨_, Function.update_self .., (lower b known).le.trans low⟩
      · exact ⟨b, by rwa [Function.update_of_ne at_v], low⟩
  · refine List.nodup_cons.mpr ⟨fun old => ?_, settled.queue_nodup⟩
    obtain ⟨e, waits, same⟩ := List.mem_map.mp old
    obtain ⟨-, b, known, low⟩ := settled.queue_label e waits
    rw [same] at known low
    exact absurd (lower b known) (not_lt.mpr low)
  · rcases List.mem_cons.mp waits with rfl | old
    · dsimp only
      linarith
    · exact settled.queue_from e old
  · dsimp only
    rw [kept w old]
    exact settled.settled_low w old
  · dsimp only
    rw [kept w old]
    rcases List.mem_cons.mp waits with rfl | before
    · exact absurd same.symm (other w old)
    · exact settled.settled_gone w old e before same

theorem Settled.relax_all (settled : Settled next weight heuristic source cells S level s)
    (graph : Graph next weight heuristic goal cells degree) (here : u ∈ S)
    (label : s.best u = some cost) (at_level : cost + heuristic u = level) {out : List ν}
    (listed : out ⊆ next u) :
    Settled next weight heuristic source cells S level
      (out.foldl (Guided.relax weight heuristic cost u) s) ∧
    (out.foldl (Guided.relax weight heuristic cost u) s).best u = some cost ∧
    (out.foldl (Guided.relax weight heuristic cost u) s).reached = s.reached ∧
    (out.foldl (Guided.relax weight heuristic cost u) s).queue.length ≤
      s.queue.length + out.length := by
  induction out generalizing s with
  | nil => exact ⟨settled, label, rfl, le_rfl⟩
  | cons v out ih =>
    obtain ⟨first, rest⟩ := List.cons_subset.mp listed
    have now := settled.relax graph here label at_level first
    have kept : (Guided.relax weight heuristic cost u s v).best u = some cost ∧
        (Guided.relax weight heuristic cost u s v).reached = s.reached ∧
        (Guided.relax weight heuristic cost u s v).queue.length ≤ s.queue.length + 1 := by
      rcases relax_cases weight heuristic cost u v s with ⟨-, same⟩ | ⟨lower, new⟩
      · rw [same]
        exact ⟨label, rfl, Nat.le_succ _⟩
      · have apart : u ≠ v := by
          rintro rfl
          have less := lower cost label
          have := graph.positive u u first
          linarith
        rw [new]
        exact ⟨(Function.update_of_ne apart _ _).trans label, rfl, le_rfl⟩
    obtain ⟨after, same, still, length⟩ := ih now kept.1 rest
    refine ⟨after, same, still.trans kept.2.1, ?_⟩
    rw [List.foldl_cons, List.length_cons]
    omega

omit [DecidableEq ν] in
theorem Graph.heuristic_le {cells : Finset ν}
    (graph : Graph next weight heuristic goal cells degree) {w : ν} {path : List ν}
    (chain : (w :: path).IsChain fun u v => v ∈ next u)
    (ends : (w :: path).getLast? = some goal) : heuristic w ≤ pathCost weight (w :: path) := by
  induction path generalizing w with
  | nil =>
    obtain rfl : w = goal := Option.some.inj ends
    simp [graph.at_goal, pathCost]
  | cons x path ih =>
    obtain ⟨out, later⟩ := List.isChain_cons_cons.mp chain
    rw [List.getLast?_cons_cons] at ends
    rw [path_cost_cons]
    linarith [graph.consistent w x out, ih later ends]

omit [DecidableEq ν] in
theorem chain_waits (graph : Graph next weight heuristic goal cells degree)
    (followed : ∀ v, Followed next weight goal s v) {w : ν} {c : K} {path : List ν}
    (label : s.best w = some c) (chain : (w :: path).IsChain fun u v => v ∈ next u)
    (ends : (w :: path).getLast? = some goal) :
    ∃ e ∈ s.queue, e.2.1 + heuristic e.2.2 ≤ c + pathCost weight (w :: path) := by
  induction path generalizing w c with
  | nil =>
    obtain rfl : w = goal := Option.some.inj ends
    rcases followed w c label with waits | ⟨away, -⟩
    · obtain ⟨e, listed, same⟩ := List.mem_map.mp waits
      have bound := graph.heuristic_le chain ends
      exact ⟨e, listed, by rw [same]; linarith⟩
    · exact absurd rfl away
  | cons x path ih =>
    rcases followed w c label with waits | ⟨-, passed⟩
    · obtain ⟨e, listed, same⟩ := List.mem_map.mp waits
      have bound := graph.heuristic_le chain ends
      exact ⟨e, listed, by rw [same]; linarith⟩
    · obtain ⟨out, later⟩ := List.isChain_cons_cons.mp chain
      obtain ⟨b, labelled, low⟩ := passed x out
      rw [List.getLast?_cons_cons] at ends
      obtain ⟨e, listed, at_most⟩ := ih labelled later ends
      refine ⟨e, listed, at_most.trans ?_⟩
      rw [path_cost_cons]
      linarith

omit [DecidableEq ν] in
theorem Route.waits (graph : Graph next weight heuristic goal cells degree)
    (source_best : s.best source = some 0) (followed : ∀ v, Followed next weight goal s v)
    {path : List ν} (route : Route next source goal path) :
    ∃ e ∈ s.queue, e.2.1 + heuristic e.2.2 ≤ pathCost weight path := by
  obtain ⟨begins, ends, steps⟩ := route
  obtain ⟨rest, rfl⟩ := List.head?_eq_some_iff.mp begins
  simpa using chain_waits graph followed source_best steps ends

/-- The search ended by itself: at the goal with the least cost of a way there, or without any
way there. -/
def Finished (next : ν → List ν) (weight : ν → ν → K) (source goal : ν) (s : Guided K ν) : Prop :=
  (s.reached = true ∧ ∃ c, s.best goal = some c ∧
    ∀ path, Route next source goal path → c ≤ pathCost weight path) ∨
  s.reached = false ∧ s.queue = [] ∧ ∀ path, ¬ Route next source goal path

omit [IsStrictOrderedRing K] in
theorem Finished.stops (finished : Finished next weight source goal s) :
    step next weight heuristic le goal s = none := by
  rcases finished with ⟨reached, -⟩ | ⟨searching, empty, -⟩
  · exact if_pos reached
  · unfold step
    rw [searching, empty]
    rfl

omit [DecidableEq ν] in
theorem Finished.exhausted (graph : Graph next weight heuristic goal cells degree)
    (source_best : s.best source = some 0) (followed : ∀ v, Followed next weight goal s v)
    (searching : s.reached = false) (empty : s.queue = []) :
    Finished next weight source goal s := by
  refine .inr ⟨searching, empty, fun path route => ?_⟩
  obtain ⟨e, waits, -⟩ := route.waits graph source_best followed
  simp [empty] at waits

theorem Settled.run (graph : Graph next weight heuristic goal cells degree)
    (by_estimate : ∀ a b, le a b → a.1 ≤ b.1) (total : ∀ a b, le a b ∨ le b a)
    (trans : ∀ a b c, le a b → le b c → le a c) {fuel : ℕ}
    (settled : Settled next weight heuristic source cells S level s)
    (followed : ∀ v, Followed next weight goal s v) (searching : s.reached = false)
    (enough : s.queue.length + degree * (cells.card - S.card) ≤ fuel) :
    ∃ S level, Settled next weight heuristic source cells S level
        (loop (step next weight heuristic le goal) fuel s) ∧
      Finished next weight source goal (loop (step next weight heuristic le goal) fuel s) := by
  induction fuel generalizing s S level with
  | zero =>
    have empty : s.queue = [] := List.eq_nil_of_length_eq_zero (by omega)
    exact ⟨S, level, settled, .exhausted graph settled.source_best followed searching empty⟩
  | succ fuel ih =>
    cases popped : popMin le s.queue with
    | none =>
      have finished : Finished next weight source goal s :=
        .exhausted graph settled.source_best followed searching (pop_min_none.mp popped)
      rw [loop_stopped finished.stops]
      exact ⟨S, level, settled, finished⟩
    | some pair =>
      obtain ⟨⟨estimate, cost, u⟩, rest⟩ := pair
      have least : ∀ e ∈ rest, estimate ≤ e.1 := fun e waits =>
        by_estimate _ _ (pop_min_least total trans popped e waits)
      have length := pop_min_length popped
      have this_step : step next weight heuristic le goal s =
          if s.best u ≠ some cost then some { s with queue := rest }
          else if u = goal then some { s with queue := rest, reached := true }
          else some ((next u).foldl (Guided.relax weight heuristic cost u)
            { s with queue := rest }) := by
        unfold step
        rw [searching, popped]
        rfl
      have waiting : ∀ v, s.best v ≠ some cost ∨ v ≠ u →
          Followed next weight goal { s with queue := rest } v := by
        intro v other c label
        refine (followed v c label).imp_left fun waits => ?_
        obtain ⟨e, listed, same⟩ := List.mem_map.mp waits
        rcases (pop_min_mem popped).mp listed with rfl | stays
        · obtain ⟨rfl, rfl⟩ := Prod.ext_iff.mp same
          exact absurd label (other.resolve_right fun away => away rfl)
        · exact List.mem_map.mpr ⟨e, stays, same⟩
      unfold loop
      rw [this_step]
      by_cases label : s.best u = some cost
      · rw [if_neg (not_not_intro label)]
        obtain ⟨fresh, estimated, now⟩ := settled.insert popped least label
        by_cases here : u = goal
        · -- what waits promises no less than the label of the goal
          rw [if_pos here]
          have finished : Finished next weight source goal
              { s with queue := rest, reached := true } := by
            refine .inl ⟨rfl, cost, here ▸ label, fun path route => ?_⟩
            obtain ⟨e, waits, promised⟩ := route.waits graph settled.source_best followed
            rw [← (settled.queue_label e waits).1] at promised
            rw [here, graph.at_goal] at estimated
            rcases (pop_min_mem popped).mp waits with rfl | stays
            · dsimp only at promised
              linarith
            · linarith [least e stays]
          dsimp only
          rw [loop_stopped finished.stops]
          exact ⟨_, _, { now with }, finished⟩
        · rw [if_neg here]
          dsimp only
          obtain ⟨after, kept, still, grown⟩ := now.relax_all graph (Finset.mem_insert_self u S)
            label estimated (List.Subset.refl (next u))
          obtain ⟨-, passed⟩ := relax_all_le weight heuristic cost u (next u)
            { s with queue := rest }
          refine ih after (fun v => ?_) (still.trans searching) ?_
          · by_cases same : v = u
            · rw [same]
              intro c known
              rw [kept] at known
              obtain rfl := Option.some.inj known
              exact .inr ⟨here, passed⟩
            · exact (waiting v (.inr same)).relax_all
          · have bound := Finset.card_le_card after.settled_subset
            have out := graph.degree u
            dsimp only at grown
            rw [Finset.card_insert_of_notMem fresh] at bound ⊢
            obtain ⟨k, left⟩ : ∃ k, cells.card - S.card = k + 1 :=
              ⟨cells.card - S.card - 1, by omega⟩
            have fewer : cells.card - (S.card + 1) = k := by omega
            rw [left, Nat.mul_succ] at enough
            rw [fewer]
            omega
      · rw [if_pos label]
        dsimp only
        refine ih (settled.pop popped least) (fun v => waiting v ?_) searching ?_
        · by_cases same : v = u
          · exact .inl (same ▸ label)
          · exact .inr same
        · dsimp only
          omega

/-- The whole search ends by itself, with its labels in order. -/
theorem search (graph : Graph next weight heuristic goal cells degree)
    (by_estimate : ∀ a b, le a b → a.1 ≤ b.1) (total : ∀ a b, le a b ∨ le b a)
    (trans : ∀ a b c, le a b → le b c → le a c) (known : source ∈ cells) {s : Guided K ν}
    (ran : loop (step next weight heuristic le goal) (degree * cells.card + 1) (start source) = s) :
    ∃ S level, Settled next weight heuristic source cells S level s ∧
      Finished next weight source goal s := by
  have only : ∀ v c, (start source : Guided K ν).best v = some c → v = source ∧ c = 0 := by
    intro v c label
    unfold start at label
    dsimp only at label
    by_cases same : v = source
    · rw [same, Function.update_self] at label
      exact ⟨same, (Option.some.inj label).symm⟩
    · rw [Function.update_of_ne same] at label
      cases label
  have label : (start source : Guided K ν).best source = some 0 := by simp [start]
  have first : Settled next weight heuristic source cells {source} (heuristic source)
      { (start source : Guided K ν) with queue := [] } := by
    refine ⟨label, Finset.mem_singleton_self source, rfl, fun v c here away => ?_,
      fun v c here => ?_, by simp, List.nodup_nil, by simp, fun v old => ?_, by simp⟩
    · exact absurd (only v c here).1 away
    · exact (only v c here).1 ▸ known
    · rw [Finset.mem_singleton.mp old]
      exact ⟨0, label, (zero_add _).le⟩
  have this_step : step next weight heuristic le goal (start source) =
      if source = goal then some { (start source : Guided K ν) with queue := [], reached := true }
      else some ((next source).foldl (Guided.relax weight heuristic 0 source)
        { (start source : Guided K ν) with queue := [] }) := by
    show (if (start source : Guided K ν).best source ≠ some 0 then _ else _) = _
    rw [if_neg (not_not_intro label)]
  rw [loop, this_step] at ran
  by_cases here : source = goal
  · rw [if_pos here] at ran
    have finished : Finished next weight source goal
        { (start source : Guided K ν) with queue := [], reached := true } := by
      refine .inl ⟨rfl, 0, here ▸ label, fun path route => ?_⟩
      obtain ⟨rest, rfl⟩ := List.head?_eq_some_iff.mp route.begins
      have low := graph.heuristic_le route.steps route.ends
      rwa [here, graph.at_goal, ← here] at low
    dsimp only at ran
    rw [loop_stopped finished.stops] at ran
    subst ran
    exact ⟨_, _, { first with }, finished⟩
  · rw [if_neg here] at ran
    subst ran
    obtain ⟨after, kept, still, grown⟩ := first.relax_all graph
      (Finset.mem_singleton_self source) label (zero_add _) (List.Subset.refl (next source))
    obtain ⟨-, passed⟩ := relax_all_le weight heuristic 0 source (next source)
      { (start source : Guided K ν) with queue := [] }
    refine after.run graph by_estimate total trans (fun v => ?_) still ?_
    · by_cases same : v = source
      · rw [same]
        intro c found
        rw [kept] at found
        obtain rfl := Option.some.inj found
        exact .inr ⟨here, passed⟩
      · refine Followed.relax_all fun c found => ?_
        exact absurd (only v c found).1 same
    · have out := graph.degree source
      obtain ⟨k, size⟩ : ∃ k, cells.card = k + 1 :=
        ⟨cells.card - 1, (Nat.sub_add_cancel (Finset.card_pos.mpr ⟨source, known⟩)).symm⟩
      rw [Finset.card_singleton, size, Nat.mul_succ, Nat.add_sub_cancel]
      rw [List.length_nil, Nat.zero_add] at grown
      have bound := grown.trans out
      rw [Nat.add_comm]
      exact Nat.add_le_add_left bound _

omit [DecidableEq ν] in
theorem Settled.back_fewer (settled : Settled next weight heuristic source cells S level s)
    (graph : Graph next weight heuristic goal cells degree) {c : K} (label : s.best v = some c)
    (away : v ≠ source) :
    ∃ u b, s.previous v = some u ∧ v ∈ next u ∧ s.best u = some b ∧ b + weight u v ≤ c ∧
      {w ∈ cells | (s.best w).any (· < b)}.card < {w ∈ cells | (s.best w).any (· < c)}.card := by
  obtain ⟨u, b, before, out, known, low⟩ := settled.back v c label away
  have less : b < c := by linarith [graph.positive u v out]
  refine ⟨u, b, before, out, known, low, Finset.card_lt_card
    ((Finset.ssubset_iff_of_subset fun w lower => ?_).mpr ⟨u, ?_, fun lower => ?_⟩)⟩
  · obtain ⟨inside, below⟩ := Finset.mem_filter.mp lower
    obtain ⟨d, at_w, d_lt⟩ := (Option.any_eq_true _ _).mp below
    exact Finset.mem_filter.mpr ⟨inside, by simp [at_w, (of_decide_eq_true d_lt).trans less]⟩
  · exact Finset.mem_filter.mpr ⟨settled.inside u b known, by simp [known, less]⟩
  · simp [known] at lower

theorem Settled.route (settled : Settled next weight heuristic source cells S level s)
    (graph : Graph next weight heuristic goal cells degree) {c : K} {path : List ν} {fuel : ℕ}
    (label : s.best v = some c) (steps : (v :: path).IsChain fun u w => w ∈ next u)
    (ends : (v :: path).getLast? = some goal)
    (enough : {w ∈ cells | (s.best w).any (· < c)}.card ≤ fuel) :
    Route next source goal (loop (backStep s.previous) fuel (v :: path)) ∧
      pathCost weight (loop (backStep s.previous) fuel (v :: path)) ≤
        c + pathCost weight (v :: path) ∧
      backStep s.previous (loop (backStep s.previous) fuel (v :: path)) = none := by
  have arrived : ∀ {fuel c path}, s.best source = some c →
      (source :: path).IsChain (fun u w => w ∈ next u) → (source :: path).getLast? = some goal →
      Route next source goal (loop (backStep s.previous) fuel (source :: path)) ∧
        pathCost weight (loop (backStep s.previous) fuel (source :: path)) ≤
          c + pathCost weight (source :: path) ∧
        backStep s.previous (loop (backStep s.previous) fuel (source :: path)) = none := by
    intro fuel c path label steps ends
    have ended : backStep s.previous (source :: path) = none := by
      simp [backStep, settled.source_first]
    obtain rfl := Option.some.inj (settled.source_best.symm.trans label)
    rw [loop_stopped ended]
    exact ⟨⟨rfl, ends, steps⟩, (zero_add _).ge, ended⟩
  induction fuel generalizing v c path with
  | zero =>
    by_cases here : v = source
    · subst here
      exact arrived label steps ends
    · obtain ⟨u, b, -, -, -, -, fewer⟩ := settled.back_fewer graph label here
      omega
  | succ fuel ih =>
    by_cases here : v = source
    · subst here
      exact arrived label steps ends
    · obtain ⟨u, b, before, out, known, low, fewer⟩ := settled.back_fewer graph label here
      have back : backStep s.previous (v :: path) = some (u :: v :: path) := by
        simp [backStep, before]
      obtain ⟨route, cost_le, ended⟩ := ih known (List.isChain_cons_cons.mpr ⟨out, steps⟩)
        (by rwa [List.getLast?_cons_cons]) (by omega)
      rw [loop, back]
      refine ⟨route, cost_le.trans ?_, ended⟩
      rw [path_cost_cons]
      linarith

end Guided

end Metroflow.Lib
