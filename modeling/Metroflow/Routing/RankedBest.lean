import Metroflow.Routing.GreedyDescent

namespace Metroflow.Routing

open Metroflow.Lib Metroflow.City

variable {p n m : ℕ} {net : RoadNetworkCSR p n m} {potential : DynamicPotentialState p n}

section Paths

variable {blocked : Fin n → Bool} {u v w : Fin p} {ls rest : List (Fin n)} {l : Fin n}

theorem LinkPath.snoc (path : LinkPath net blocked v u ls) (leaves : net.linkSrcNodeIndex l = v)
    (isOpen : blocked l = false) : LinkPath net blocked (net.linkDstNodeIndex l) u (ls ++ [l]) := by
  induction path with
  | arrived =>
    subst leaves
    exact .take isOpen .arrived
  | take isOpen' _ ih => exact .take isOpen' ih

theorem LinkPath.split (path : LinkPath net blocked w u (ls ++ rest)) :
    ∃ v, LinkPath net blocked v u ls ∧ LinkPath net blocked w v rest := by
  induction ls generalizing u with
  | nil => exact ⟨u, .arrived, path⟩
  | cons l ls ih =>
    rw [List.cons_append] at path
    cases path with
    | take isOpen onward =>
      obtain ⟨v, first, second⟩ := ih onward
      exact ⟨v, .take isOpen first, second⟩

theorem LinkPath.last (path : LinkPath net blocked v u ls) :
    (u :: pathNodes net ls).getLast? = some v := by
  induction path with
  | arrived => rfl
  | take _ _ ih => exact List.getLast?_cons_cons.trans ih

theorem LinkPath.end_unique (path : LinkPath net blocked v u ls)
    (path' : LinkPath net blocked w u ls) : v = w :=
  Option.some.inj (path.last.symm.trans path'.last)

theorem LinkPath.end_mem (path : LinkPath net blocked v u ls) (some_links : ls ≠ []) :
    v ∈ pathNodes net ls := by
  cases path with
  | arrived => exact absurd rfl some_links
  | take _ onward => exact List.mem_of_getLast? onward.last

theorem link_ids_injective : Function.Injective (linkIds net) :=
  List.map_injective_iff.mpr fun _ _ same => net.link_ids_unique same

theorem path_cost_append (costs : Fin n → ℚ) :
    pathCost costs (ls ++ rest) = pathCost costs ls + pathCost costs rest := by
  simp [pathCost]

end Paths

section Run

variable (net potential) {ι : Type}

def rankedRun (score : Fin p → ι → Except RoutingError (List (ℚ × Fin n)))
    (enter : Fin n → ι) (destination : Fin p → Bool) (maxHops maxCandidates : ℕ) :
    ℕ → RankedSearch p ι → Except RoutingError (RankedSearch p ι)
  | 0, s => .ok s
  | expansions + 1, s =>
    if maxCandidates ≤ s.paths.length then .ok s
    else
      match popMin RankedEntry.before s.heap with
      | none => .ok s
      | some (entry, rest) => do
        let s' ← expandEntry net potential score enter destination maxHops entry
          { s with heap := rest }
        rankedRun score enter destination maxHops maxCandidates expansions s'

theorem ranked_search_eq (score : Fin p → ι → Except RoutingError (List (ℚ × Fin n)))
    (enter : Fin n → ι) (destination : Fin p → Bool) (maxHops maxCandidates expansions : ℕ)
    (s : RankedSearch p ι) :
    rankedSearch net potential score enter destination maxHops maxCandidates expansions s =
      (rankedRun net potential score enter destination maxHops maxCandidates expansions s).map
        RankedSearch.paths := by
  induction expansions generalizing s with
  | zero => rfl
  | succ expansions ih =>
    unfold rankedSearch rankedRun
    split
    · rfl
    · cases popMin RankedEntry.before s.heap with
      | none => rfl
      | some popped =>
        obtain ⟨entry, rest⟩ := popped
        dsimp only
        cases expandEntry net potential score enter destination maxHops entry
          { s with heap := rest } with
        | error e => rfl
        | ok s' => exact ih s'

end Run

/-- What the ranked search looks for: a path of open links and legal turns from the origin,
reached by the incoming link, to the destination, in at most so many hops and past no node
twice. -/
structure CandidateRoute (net : RoadNetworkCSR p n m) (blocked : Fin n → Bool)
    (incoming : Option (Fin n)) (origin destination : Fin p) (maxHops : ℕ)
    (ls : List (Fin n)) : Prop where
  nonempty : ls ≠ []
  path : LinkPath net blocked destination origin ls
  legal : (incoming.toList ++ ls).IsChain (Follows net)
  simple : (origin :: pathNodes net ls).Nodup
  hops : ls.length ≤ maxHops

/-- An open route of the search, link by link. -/
structure OpenEntry (net : RoadNetworkCSR p n m) (potential : DynamicPotentialState p n)
    (incoming : Option (Fin n)) (origin : Fin p) (maxHops : ℕ) (e : RankedEntry p (Option ℤ))
    (ls : List (Fin n)) : Prop where
  path : e.path = linkIds net ls
  last : e.lastLink = lastLinkId net (ls.getLast?.or incoming)
  visited : e.visited = origin :: pathNodes net ls
  cost : e.pathCost = pathCost potential.linkTravelTimeCost ls
  estimate : e.estimatedCost ≤ e.pathCost + potential.nodeCostToGo e.node
  arrived : e.node = potential.destinationNodeIndex → ls ≠ [] → e.estimatedCost = e.pathCost
  links : LinkPath net potential.blockedLinkMask e.node origin ls
  legal : (incoming.toList ++ ls).IsChain (Follows net)
  simple : (origin :: pathNodes net ls).Nodup
  hops : ls.length ≤ maxHops

section Search

variable {incoming : Option (Fin n)} {origin : Fin p} {maxHops : ℕ}
  {e : RankedEntry p (Option ℤ)} {ls : List (Fin n)}

/-- The node test of the search on the host. -/
abbrev atDestination (net : RoadNetworkCSR p n m) (potential : DynamicPotentialState p n)
    (i : Fin p) : Bool := decide ((net.nodes i).nodeId = potential.destinationNodeId)

theorem at_destination (own : OwnField net potential) {i : Fin p} :
    atDestination net potential i = true ↔ i = potential.destinationNodeIndex := by
  rw [decide_eq_true_eq, ← own.anchored.2]
  exact net.node_ids_unique.eq_iff

theorem mem_scored {node : Fin p} {scored : ℚ × Fin n} :
    scored ∈ scoredLegalNextLinkIndices net potential node incoming ↔
      (net.linkSrcNodeIndex scored.2 = node ∧ ∀ a, incoming = some a → Follows net a scored.2) ∧
        actionCost net potential scored.2 = some scored.1 := by
  rw [scoredLegalNextLinkIndices, List.mem_insertionSort, List.mem_filterMap]
  constructor
  · rintro ⟨l, allowed, found⟩
    obtain ⟨c, cost, rfl⟩ := Option.map_eq_some_iff.mp found
    exact ⟨mem_outgoing_allowed.mp allowed, cost⟩
  · rintro ⟨allowed, cost⟩
    exact ⟨scored.2, mem_outgoing_allowed.mpr allowed, by rw [cost]; rfl⟩

theorem own_field_of_nonneg (own : OwnField net potential)
    (nonneg : ∀ l, 0 ≤ potential.linkTravelTimeCost l) :
    CostToGo net potential.linkTravelTimeCost potential.blockedLinkMask
      potential.destinationNodeIndex potential.nodeCostToGo := by
  rw [own.field]
  exact reverse_dijkstra_cost_to_go nonneg

theorem remaining_cost_eq (own : OwnField net potential)
    (nonneg : ∀ l, 0 ≤ potential.linkTravelTimeCost l) (i : Fin p) :
    remainingCost potential (atDestination net potential) i = potential.nodeCostToGo i := by
  unfold remainingCost
  split
  · rename_i there
    rw [(at_destination own).mp there, (own_field_of_nonneg own nonneg).destination_zero nonneg]
  · rfl

/-- The open route that continues an entry by a link. -/
def continued (net : RoadNetworkCSR p n m) (potential : DynamicPotentialState p n) (serial : ℕ)
    (e : RankedEntry p (Option ℤ)) (l : Fin n) : RankedEntry p (Option ℤ) where
  estimatedCost := e.pathCost + potential.linkTravelTimeCost l +
    remainingCost potential (atDestination net potential) (net.linkDstNodeIndex l)
  pathCost := e.pathCost + potential.linkTravelTimeCost l
  serial := serial
  path := e.path ++ [(net.links l).linkId]
  node := net.linkDstNodeIndex l
  lastLink := some (net.links l).linkId
  visited := e.visited ++ [net.linkDstNodeIndex l]

theorem OpenEntry.continued (own : OwnField net potential)
    (nonneg : ∀ l, 0 ≤ potential.linkTravelTimeCost l)
    (h : OpenEntry net potential incoming origin maxHops e ls) {l : Fin n}
    (isOpen : potential.blockedLinkMask l = false) (leaves : net.linkSrcNodeIndex l = e.node)
    (follows : ∀ a, ls.getLast?.or incoming = some a → Follows net a l)
    (fresh : net.linkDstNodeIndex l ∉ e.visited) (room : ls.length < maxHops) (serial : ℕ) :
    OpenEntry net potential incoming origin maxHops (continued net potential serial e l)
      (ls ++ [l]) where
  path := by simp [Routing.continued, h.path, linkIds]
  last := by simp [Routing.continued, lastLinkId]
  visited := by simp [Routing.continued, h.visited, pathNodes]
  cost := by simp [Routing.continued, h.cost, pathCost]
  estimate := by simp [Routing.continued, remaining_cost_eq own nonneg]
  arrived there _ := by
    have free := (own_field_of_nonneg own nonneg).destination_zero nonneg
    have there' : net.linkDstNodeIndex l = potential.destinationNodeIndex := there
    simp [Routing.continued, remaining_cost_eq own nonneg, there', free]
  links := h.links.snoc leaves isOpen
  legal := by
    rw [← List.append_assoc]
    refine List.isChain_append.mpr ⟨h.legal, List.isChain_singleton l, ?_⟩
    intro a last b head
    obtain rfl : l = b := by simpa using head
    refine follows a ?_
    rw [List.getLast?_append] at last
    cases incoming <;> simpa using last
  simple := by
    rw [h.visited] at fresh
    have apart : ([net.linkDstNodeIndex l] ++ (origin :: pathNodes net ls)).Nodup :=
      List.nodup_cons.mpr ⟨fresh, h.simple⟩
    simpa [pathNodes] using List.nodup_append_comm.mp apart
  hops := by
    rw [List.length_append, List.length_singleton]
    exact room

theorem OpenEntry.estimate_le_continued (own : OwnField net potential)
    (nonneg : ∀ l, 0 ≤ potential.linkTravelTimeCost l)
    (h : OpenEntry net potential incoming origin maxHops e ls) {l : Fin n}
    (isOpen : potential.blockedLinkMask l = false) (leaves : net.linkSrcNodeIndex l = e.node)
    (serial : ℕ) : e.estimatedCost ≤ (Routing.continued net potential serial e l).estimatedCost := by
  have down := (own_field_of_nonneg own nonneg).link_le nonneg isOpen
  rw [leaves] at down
  have estimate := h.estimate
  simp only [Routing.continued, remaining_cost_eq own nonneg]
  linarith

theorem push_continuation_cases (s : RankedSearch p (Option ℤ)) (scored : ℚ × Fin n) :
    (pushContinuation net potential (fun l => some (net.links l).linkId)
        (atDestination net potential) e s scored = s ∧
      (net.linkDstNodeIndex scored.2 ∈ e.visited ∨
        infCost / 2 ≤ potential.linkTravelTimeCost scored.2 ∨
        infCost / 2 ≤ remainingCost potential (atDestination net potential)
          (net.linkDstNodeIndex scored.2))) ∨
    (net.linkDstNodeIndex scored.2 ∉ e.visited ∧
      pushContinuation net potential (fun l => some (net.links l).linkId)
        (atDestination net potential) e s scored =
      { s with
        serial := s.serial + 1
        heap := continued net potential (s.serial + 1) e scored.2 :: s.heap }) := by
  unfold pushContinuation
  dsimp only
  split_ifs with seen costly far
  · exact .inl ⟨rfl, .inl seen⟩
  · exact .inl ⟨rfl, .inr (.inl costly)⟩
  · exact .inl ⟨rfl, .inr (.inr far)⟩
  · exact .inr ⟨seen, rfl⟩

structure Pushed (net : RoadNetworkCSR p n m) (potential : DynamicPotentialState p n)
    (incoming : Option (Fin n)) (origin : Fin p) (maxHops : ℕ) (e : RankedEntry p (Option ℤ))
    (ls : List (Fin n)) (links : List (ℚ × Fin n)) (s s' : RankedSearch p (Option ℤ)) : Prop where
  paths : s'.paths = s.paths
  kept : s.heap ⊆ s'.heap
  new : ∀ e' ∈ s'.heap, e' ∈ s.heap ∨ e.estimatedCost ≤ e'.estimatedCost ∧
    ∃ ls', OpenEntry net potential incoming origin maxHops e' ls'
  opened : ∀ scored ∈ links, net.linkDstNodeIndex scored.2 ∉ e.visited →
    potential.linkTravelTimeCost scored.2 < infCost / 2 →
    potential.nodeCostToGo (net.linkDstNodeIndex scored.2) < infCost / 2 →
    ∃ e' ∈ s'.heap, OpenEntry net potential incoming origin maxHops e' (ls ++ [scored.2])

theorem push_all_pushed (own : OwnField net potential)
    (nonneg : ∀ l, 0 ≤ potential.linkTravelTimeCost l)
    (h : OpenEntry net potential incoming origin maxHops e ls) (room : ls.length < maxHops)
    {links : List (ℚ × Fin n)}
    (allowed : ∀ scored ∈ links, potential.blockedLinkMask scored.2 = false ∧
      net.linkSrcNodeIndex scored.2 = e.node ∧
      ∀ a, ls.getLast?.or incoming = some a → Follows net a scored.2)
    (s : RankedSearch p (Option ℤ)) :
    Pushed net potential incoming origin maxHops e ls links s
      (links.foldl (pushContinuation net potential (fun l => some (net.links l).linkId)
        (atDestination net potential) e) s) := by
  induction links generalizing s with
  | nil => exact ⟨rfl, List.Subset.refl _, fun e' old => .inl old, by simp⟩
  | cons scored links ih =>
    obtain ⟨⟨isOpen, leaves, follows⟩, later⟩ := List.forall_mem_cons.mp allowed
    rw [List.foldl_cons]
    rcases push_continuation_cases (e := e) s scored with ⟨skipped, why⟩ | ⟨fresh, pushed⟩
    · rw [skipped]
      have rest := ih later s
      refine ⟨rest.paths, rest.kept, rest.new, List.forall_mem_cons.mpr ⟨?_, rest.opened⟩⟩
      intro unseen cheap near
      rw [remaining_cost_eq own nonneg] at why
      rcases why with seen | costly | far
      · exact absurd seen unseen
      · exact absurd cheap (not_lt.mpr costly)
      · exact absurd near (not_lt.mpr far)
    · rw [pushed]
      have entry := h.continued own nonneg isOpen leaves follows fresh room (s.serial + 1)
      have rest := ih later
        { s with
          serial := s.serial + 1
          heap := continued net potential (s.serial + 1) e scored.2 :: s.heap }
      refine ⟨rest.paths, fun e' old => rest.kept (List.mem_cons_of_mem _ old), fun e' listed => ?_,
        List.forall_mem_cons.mpr ⟨fun _ _ _ => ⟨_, rest.kept List.mem_cons_self, entry⟩,
          rest.opened⟩⟩
      rcases rest.new e' listed with old | new
      · rcases List.mem_cons.mp old with rfl | older
        · exact .inr ⟨h.estimate_le_continued own nonneg isOpen leaves _, _, entry⟩
        · exact .inl older
      · exact .inr new

/-- The search so far: it has found the given routes, cheapest first, at a cost up to the
level from which its open entries are estimated; and every affordable route is found or
has a part that is open. -/
structure Ranking (net : RoadNetworkCSR p n m) (potential : DynamicPotentialState p n)
    (incoming : Option (Fin n)) (origin : Fin p) (maxHops maxCandidates : ℕ)
    (found : List (List (Fin n))) (level : ℚ) (s : RankedSearch p (Option ℤ)) : Prop where
  paths : s.paths = found.map (linkIds net)
  routes : ∀ ls ∈ found, CandidateRoute net potential.blockedLinkMask incoming origin
    potential.destinationNodeIndex maxHops ls
  distinct : found.Nodup
  sorted : found.Pairwise fun a b =>
    pathCost potential.linkTravelTimeCost a ≤ pathCost potential.linkTravelTimeCost b
  low : ∀ ls ∈ found, pathCost potential.linkTravelTimeCost ls ≤ level
  few : found.length ≤ maxCandidates
  high : ∀ e ∈ s.heap, level ≤ e.estimatedCost
  entries : ∀ e ∈ s.heap, ∃ ls, OpenEntry net potential incoming origin maxHops e ls
  covered : ∀ ls, CandidateRoute net potential.blockedLinkMask incoming origin
      potential.destinationNodeIndex maxHops ls →
    pathCost potential.linkTravelTimeCost ls < infCost / 2 → ls ∈ found ∨
      ∃ e ∈ s.heap, ∃ part rest, ls = part ++ rest ∧
        OpenEntry net potential incoming origin maxHops e part

theorem OpenEntry.estimate_le_route (own : OwnField net potential)
    (nonneg : ∀ l, 0 ≤ potential.linkTravelTimeCost l) {rest : List (Fin n)}
    (h : OpenEntry net potential incoming origin maxHops e ls)
    (route : CandidateRoute net potential.blockedLinkMask incoming origin
      potential.destinationNodeIndex maxHops (ls ++ rest)) :
    e.estimatedCost ≤ pathCost potential.linkTravelTimeCost (ls ++ rest) := by
  obtain ⟨v, first, onward⟩ := route.path.split
  obtain rfl := first.end_unique h.links
  have tail := (own_field_of_nonneg own nonneg).least _ _ onward
  have estimate := h.estimate
  rw [h.cost] at estimate
  rw [path_cost_append]
  linarith

theorem OpenEntry.whole {rest : List (Fin n)}
    (h : OpenEntry net potential incoming origin maxHops e ls)
    (there : e.node = potential.destinationNodeIndex) (some_links : ls ≠ [])
    (route : CandidateRoute net potential.blockedLinkMask incoming origin
      potential.destinationNodeIndex maxHops (ls ++ rest)) : rest = [] := by
  by_contra onward
  obtain ⟨v, first, second⟩ := route.path.split
  have here : potential.destinationNodeIndex ∈ pathNodes net ls :=
    there ▸ h.links.end_mem some_links
  have again := second.end_mem onward
  have simple := (List.nodup_cons.mp route.simple).2
  rw [pathNodes, List.map_append] at simple
  exact List.disjoint_of_nodup_append simple here again

theorem OpenEntry.finished (h : OpenEntry net potential incoming origin maxHops e ls)
    (there : e.node = potential.destinationNodeIndex) (some_links : ls ≠ []) :
    CandidateRoute net potential.blockedLinkMask incoming origin potential.destinationNodeIndex
      maxHops ls :=
  ⟨some_links, there ▸ h.links, h.legal, h.simple, h.hops⟩

theorem OpenEntry.next_link (own : OwnField net potential)
    (nonneg : ∀ l, 0 ≤ potential.linkTravelTimeCost l) {l : Fin n} {rest : List (Fin n)}
    (h : OpenEntry net potential incoming origin maxHops e ls)
    (route : CandidateRoute net potential.blockedLinkMask incoming origin
      potential.destinationNodeIndex maxHops (ls ++ l :: rest))
    (affordable : pathCost potential.linkTravelTimeCost (ls ++ l :: rest) < infCost / 2) :
    (∃ c, (c, l) ∈ scoredLegalNextLinkIndices net potential e.node (ls.getLast?.or incoming)) ∧
      net.linkDstNodeIndex l ∉ e.visited ∧ potential.linkTravelTimeCost l < infCost / 2 ∧
      potential.nodeCostToGo (net.linkDstNodeIndex l) < infCost / 2 := by
  obtain ⟨v, first, second⟩ := route.path.split
  obtain rfl := first.end_unique h.links
  have first_nonneg : 0 ≤ pathCost potential.linkTravelTimeCost ls := path_cost_nonneg nonneg
  have rest_nonneg : 0 ≤ pathCost potential.linkTravelTimeCost rest := path_cost_nonneg nonneg
  have total : pathCost potential.linkTravelTimeCost (ls ++ l :: rest) =
      pathCost potential.linkTravelTimeCost ls + (potential.linkTravelTimeCost l +
        pathCost potential.linkTravelTimeCost rest) := by
    rw [path_cost_append]
    simp [pathCost]
  generalize same : e.node = node at second
  cases second with
  | take isOpen onward =>
    have tail := (own_field_of_nonneg own nonneg).least _ _ onward
    have link_nonneg := nonneg l
    have fresh : net.linkDstNodeIndex l ∉ e.visited := by
      have simple := route.simple
      rw [h.visited]
      rw [pathNodes, List.map_append, List.map_cons, ← List.cons_append] at simple
      exact fun seen => List.disjoint_of_nodup_append simple seen List.mem_cons_self
    have follows : ∀ a, ls.getLast?.or incoming = some a → Follows net a l := by
      intro a last
      have legal := route.legal
      rw [← List.append_assoc] at legal
      refine (List.isChain_append.mp legal).2.2 a ?_ l rfl
      rw [List.getLast?_append]
      cases incoming <;> simpa using last
    refine ⟨⟨potential.linkTravelTimeCost l + potential.nodeCostToGo (net.linkDstNodeIndex l),
      mem_scored.mpr ⟨⟨rfl, follows⟩, action_cost_some.mpr ⟨isOpen, ?_, rfl, ?_⟩⟩⟩, fresh,
      ?_, ?_⟩ <;> linarith

theorem OpenEntry.unique {part : List (Fin n)}
    (h : OpenEntry net potential incoming origin maxHops e ls)
    (h' : OpenEntry net potential incoming origin maxHops e part) : part = ls :=
  link_ids_injective (h'.path.symm.trans h.path)

/-- The order of the heap: by estimate, then by cost, then by serial. -/
def RankedEntry.key {ι : Type} (a : RankedEntry p ι) : ℚ ×ₗ ℚ ×ₗ ℕ :=
  toLex (a.estimatedCost, toLex (a.pathCost, a.serial))

theorem before_iff_key {ι : Type} (a b : RankedEntry p ι) : a.before b = true ↔ a.key ≤ b.key := by
  simp [RankedEntry.before, RankedEntry.key, Prod.Lex.toLex_le_toLex]

theorem popped_estimate_le {ι : Type} {heap rest : List (RankedEntry p ι)} {top : RankedEntry p ι}
    (popped : popMin RankedEntry.before heap = some (top, rest)) :
    ∀ a ∈ rest, top.estimatedCost ≤ a.estimatedCost := by
  intro a listed
  have first := pop_min_least (fun a b => by
      rw [before_iff_key, before_iff_key]
      exact le_total a.key b.key)
    (fun a b c ab bc => by
      rw [before_iff_key] at ab bc ⊢
      exact ab.trans bc) popped a listed
  rw [before_iff_key, RankedEntry.key, RankedEntry.key, Prod.Lex.toLex_le_toLex] at first
  exact first.elim le_of_lt fun same => same.1.le

variable {maxCandidates : ℕ} {found : List (List (Fin n))} {level : ℚ}
  {s s' : RankedSearch p (Option ℤ)} {rest : List (RankedEntry p (Option ℤ))}
  {score : Fin p → Option ℤ → Except RoutingError (List (ℚ × Fin n))}

/-- Without the popped entry the search is on the entry's level, but for the routes that
the entry was to cover. -/
structure Popped (net : RoadNetworkCSR p n m) (potential : DynamicPotentialState p n)
    (incoming : Option (Fin n)) (origin : Fin p) (maxHops : ℕ) (found : List (List (Fin n)))
    (e : RankedEntry p (Option ℤ)) (ls : List (Fin n)) (rest : List (RankedEntry p (Option ℤ))) :
    Prop where
  entry : OpenEntry net potential incoming origin maxHops e ls
  low : ∀ ls' ∈ found, pathCost potential.linkTravelTimeCost ls' ≤ e.estimatedCost
  high : ∀ e' ∈ rest, e.estimatedCost ≤ e'.estimatedCost
  entries : ∀ e' ∈ rest, ∃ ls', OpenEntry net potential incoming origin maxHops e' ls'
  covered : ∀ ls', CandidateRoute net potential.blockedLinkMask incoming origin
      potential.destinationNodeIndex maxHops ls' →
    pathCost potential.linkTravelTimeCost ls' < infCost / 2 → ls' ∈ found ∨
      (∃ e' ∈ rest, ∃ part tail, ls' = part ++ tail ∧
        OpenEntry net potential incoming origin maxHops e' part) ∨
      ∃ tail, ls' = ls ++ tail

theorem Ranking.pop (h : Ranking net potential incoming origin maxHops maxCandidates found level s)
    (popped : popMin RankedEntry.before s.heap = some (e, rest)) :
    ∃ ls, Popped net potential incoming origin maxHops found e ls rest := by
  have listed := fun {e'} => pop_min_mem popped (a := e')
  obtain ⟨ls, entry⟩ := h.entries e (listed.mpr (.inl rfl))
  refine ⟨ls, entry, fun ls' old => (h.low ls' old).trans (h.high e (listed.mpr (.inl rfl))),
    popped_estimate_le popped, fun e' stays => h.entries e' (listed.mpr (.inr stays)),
    fun ls' route affordable => ?_⟩
  rcases h.covered ls' route affordable with old | ⟨e', waits, part, tail, same, part_open⟩
  · exact .inl old
  · rcases listed.mp waits with rfl | stays
    · obtain rfl := entry.unique part_open
      exact .inr (.inr ⟨tail, same⟩)
    · exact .inr (.inl ⟨e', stays, part, tail, same, part_open⟩)

/-- A finished route joins those found, unless it is among them. -/
theorem Popped.finish (h : Ranking net potential incoming origin maxHops maxCandidates found level s)
    (top : Popped net potential incoming origin maxHops found e ls rest)
    (room : found.length < maxCandidates) (there : e.node = potential.destinationNodeIndex)
    (some_links : ls ≠ []) (paths : s'.heap = rest)
    (kept : e.path ∈ s.paths ∧ s'.paths = s.paths ∨
      e.path ∉ s.paths ∧ s'.paths = s.paths ++ [e.path]) :
    ∃ found', Ranking net potential incoming origin maxHops maxCandidates found' e.estimatedCost
      s' := by
  have among : e.path ∈ s.paths ↔ ls ∈ found := by
    rw [h.paths, top.entry.path, List.mem_map]
    exact ⟨fun ⟨ls', old, same⟩ => link_ids_injective same ▸ old, fun old => ⟨ls, old, rfl⟩⟩
  -- the routes that the entry was to cover are the finished one
  have covered : ∀ found', found ⊆ found' → ls ∈ found' → ∀ ls',
      CandidateRoute net potential.blockedLinkMask incoming origin
        potential.destinationNodeIndex maxHops ls' →
      pathCost potential.linkTravelTimeCost ls' < infCost / 2 → ls' ∈ found' ∨
        ∃ e' ∈ s'.heap, ∃ part tail, ls' = part ++ tail ∧
          OpenEntry net potential incoming origin maxHops e' part := by
    intro found' more new ls' route affordable
    rcases top.covered ls' route affordable with old | waits | ⟨tail, rfl⟩
    · exact .inl (more old)
    · exact .inr (paths ▸ waits)
    · rw [top.entry.whole there some_links route, List.append_nil]
      exact .inl new
  rcases kept with ⟨old, same⟩ | ⟨new, added⟩
  · exact ⟨found, same.trans h.paths, h.routes, h.distinct, h.sorted, top.low, h.few,
      paths ▸ top.high, paths ▸ top.entries,
      covered found (List.Subset.refl _) (among.mp old)⟩
  · have cost : pathCost potential.linkTravelTimeCost ls = e.estimatedCost := by
      rw [top.entry.arrived there some_links, top.entry.cost]
    refine ⟨found ++ [ls], ?_, ?_, ?_, ?_, ?_, ?_, paths ▸ top.high, paths ▸ top.entries,
      covered _ (List.subset_append_left _ _) (by simp)⟩
    · rw [added, h.paths, top.entry.path, List.map_append, List.map_singleton]
    · intro ls' listed
      rcases List.mem_append.mp listed with old | here
      · exact h.routes ls' old
      · rw [List.mem_singleton.mp here]
        exact top.entry.finished there some_links
    · refine List.nodup_append.mpr ⟨h.distinct, List.nodup_singleton ls, fun a old b here same => ?_⟩
      rw [List.mem_singleton.mp here] at same
      exact new (among.mpr (same ▸ old))
    · refine List.pairwise_append.mpr ⟨h.sorted, List.pairwise_singleton _ _, fun a old b here => ?_⟩
      rw [List.mem_singleton.mp here, cost]
      exact top.low a old
    · intro ls' listed
      rcases List.mem_append.mp listed with old | here
      · exact top.low ls' old
      · rw [List.mem_singleton.mp here, cost]
    · rw [List.length_append, List.length_singleton]
      exact room

theorem Popped.drop (h : Ranking net potential incoming origin maxHops maxCandidates found level s)
    (top : Popped net potential incoming origin maxHops found e ls rest)
    (short : ¬ (e.node = potential.destinationNodeIndex ∧ ls ≠ [])) (spent : maxHops ≤ ls.length)
    (heap : s'.heap = rest) (paths : s'.paths = s.paths) :
    Ranking net potential incoming origin maxHops maxCandidates found e.estimatedCost s' := by
  refine ⟨paths.trans h.paths, h.routes, h.distinct, h.sorted, top.low, h.few, heap ▸ top.high,
    heap ▸ top.entries, fun ls' route affordable => ?_⟩
  rcases top.covered ls' route affordable with old | waits | ⟨tail, rfl⟩
  · exact .inl old
  · exact .inr (heap ▸ waits)
  · have hops := route.hops
    rw [List.length_append] at hops
    obtain rfl : tail = [] := List.length_eq_zero_iff.mp (by omega)
    rw [List.append_nil] at route
    exact absurd ⟨top.entry.links.end_unique route.path, route.nonempty⟩ short

theorem Popped.expand (own : OwnField net potential)
    (nonneg : ∀ l, 0 ≤ potential.linkTravelTimeCost l)
    (h : Ranking net potential incoming origin maxHops maxCandidates found level s)
    (top : Popped net potential incoming origin maxHops found e ls rest)
    (short : ¬ (e.node = potential.destinationNodeIndex ∧ ls ≠ []))
    (pushed : Pushed net potential incoming origin maxHops e ls
      (scoredLegalNextLinkIndices net potential e.node (ls.getLast?.or incoming))
      { s with heap := rest } s') :
    Ranking net potential incoming origin maxHops maxCandidates found e.estimatedCost s' := by
  refine ⟨pushed.paths.trans h.paths, h.routes, h.distinct, h.sorted, top.low, h.few,
    fun e' listed => ?_, fun e' listed => ?_, fun ls' route affordable => ?_⟩
  · exact (pushed.new e' listed).elim (top.high e') And.left
  · exact (pushed.new e' listed).elim (top.entries e') And.right
  · rcases top.covered ls' route affordable with old | ⟨e', stays, covers⟩ | ⟨tail, rfl⟩
    · exact .inl old
    · exact .inr ⟨e', pushed.kept stays, covers⟩
    · cases tail with
      | nil =>
        rw [List.append_nil] at route
        exact absurd ⟨top.entry.links.end_unique route.path, route.nonempty⟩ short
      | cons l tail =>
        obtain ⟨⟨c, scored⟩, fresh, cheap, near⟩ := top.entry.next_link own nonneg route affordable
        obtain ⟨e', listed, opened⟩ := pushed.opened _ scored fresh cheap near
        exact .inr ⟨e', listed, ls ++ [l], tail, by simp, opened⟩

/-- How the host scores the next links, under any backend. -/
def ScoresLegal (net : RoadNetworkCSR p n m) (potential : DynamicPotentialState p n)
    (score : Fin p → Option ℤ → Except RoutingError (List (ℚ × Fin n))) : Prop :=
  ∀ node prev links, score node (lastLinkId net prev) = .ok links →
    links = scoredLegalNextLinkIndices net potential node prev

theorem Ranking.step (own : OwnField net potential)
    (nonneg : ∀ l, 0 ≤ potential.linkTravelTimeCost l) (scores : ScoresLegal net potential score)
    (h : Ranking net potential incoming origin maxHops maxCandidates found level s)
    (popped : popMin RankedEntry.before s.heap = some (e, rest))
    (room : found.length < maxCandidates)
    (run : expandEntry net potential score (fun l => some (net.links l).linkId)
      (atDestination net potential) maxHops e { s with heap := rest } = .ok s') :
    ∃ found', Ranking net potential incoming origin maxHops maxCandidates found' e.estimatedCost
      s' := by
  obtain ⟨ls, top⟩ := h.pop popped
  have no_links : e.path = [] ↔ ls = [] := by
    rw [top.entry.path, linkIds, List.map_eq_nil_iff]
  have length : e.path.length = ls.length := by
    rw [top.entry.path, linkIds, List.length_map]
  unfold expandEntry at run
  simp only [at_destination own, ne_eq, no_links, length] at run
  split at run
  · rename_i arrived
    refine top.finish h room arrived.1 arrived.2 ?_ ?_ <;> split at run <;>
      rename_i kept <;> obtain rfl := Except.ok.inj run
    · rfl
    · rfl
    · exact .inl ⟨kept, rfl⟩
    · exact .inr ⟨kept, rfl⟩
  · rename_i short
    split at run
    · rename_i spent
      obtain rfl := Except.ok.inj run
      exact ⟨found, top.drop h short spent rfl rfl⟩
    · rename_i hops
      obtain ⟨links, scored, run⟩ := bind_ok.mp run
      obtain rfl := pure_ok.mp run
      rw [top.entry.last] at scored
      obtain rfl := scores _ _ _ scored
      refine ⟨found, top.expand own nonneg h short
        (push_all_pushed own nonneg top.entry (not_le.mp hops) (fun scored listed => ?_) _)⟩
      obtain ⟨allowed, cost⟩ := mem_scored.mp listed
      exact ⟨(action_cost_some.mp cost).1, allowed.1, allowed.2⟩

theorem Ranking.run (own : OwnField net potential)
    (nonneg : ∀ l, 0 ≤ potential.linkTravelTimeCost l) (scores : ScoresLegal net potential score)
    {expansions : ℕ}
    (h : Ranking net potential incoming origin maxHops maxCandidates found level s)
    (run : rankedRun net potential score (fun l => some (net.links l).linkId)
      (atDestination net potential) maxHops maxCandidates expansions s = .ok s') :
    ∃ found' level', Ranking net potential incoming origin maxHops maxCandidates found' level'
      s' := by
  induction expansions generalizing s found level with
  | zero =>
    obtain rfl := Except.ok.inj run
    exact ⟨found, level, h⟩
  | succ expansions ih =>
    unfold rankedRun at run
    split at run
    · obtain rfl := Except.ok.inj run
      exact ⟨found, level, h⟩
    · rename_i more
      split at run
      · obtain rfl := Except.ok.inj run
        exact ⟨found, level, h⟩
      · rename_i entry rest popped
        obtain ⟨mid, expanded, run⟩ := bind_ok.mp run
        have room : found.length < maxCandidates := by
          rw [h.paths, List.length_map] at more
          exact not_le.mp more
        obtain ⟨found', next⟩ := h.step own nonneg scores popped room expanded
        exact ih next run

end Search

section Best

variable {rust : RustExtension}

theorem rust_cost_affordable (l : Fin n) :
    (Option.guard (fun scored : ℚ × Fin n => decide (scored.1 < infCost / 2))
      (if potential.blockedLinkMask l = true ∨
          infCost / 2 ≤ potential.nodeCostToGo (net.linkDstNodeIndex l) then infCost
        else if infCost / 2 ≤ potential.linkTravelTimeCost l +
          potential.nodeCostToGo (net.linkDstNodeIndex l) then infCost
        else potential.linkTravelTimeCost l + potential.nodeCostToGo (net.linkDstNodeIndex l),
        l)) = (actionCost net potential l).map (·, l) := by
  have dear : ¬ infCost < infCost / 2 := by norm_num [infCost]
  unfold actionCost
  by_cases blocked : potential.blockedLinkMask l = true
  · simp [blocked, dear, Option.guard]
  · by_cases far : infCost / 2 ≤ potential.nodeCostToGo (net.linkDstNodeIndex l)
    · simp [blocked, far, dear, Option.guard]
    · by_cases costly : infCost / 2 ≤
        potential.linkTravelTimeCost l + potential.nodeCostToGo (net.linkDstNodeIndex l)
      · simp [blocked, far, costly, dear, Option.guard]
      · simp [blocked, far, costly, not_le.mp costly, Option.guard]

theorem scores_legal_host (backend : RoutingBackend) :
    ScoresLegal net potential fun node last =>
      scoreLegalNextLinks net potential rust node last backend := by
  intro node prev links run
  unfold scoreLegalNextLinks at run
  obtain ⟨⟨costs, computed⟩, dispatched, result⟩ := bind_ok.mp run
  rw [filter_legal_known] at dispatched result
  rw [← pure_ok.mp result, scoredLegalNextLinkIndices]
  rcases dispatch_ok dispatched with compiled | host
  · obtain ⟨_, _, found⟩ := bind_ok.mp (RustExtension.call_ok compiled)
    rw [← pure_ok.mp found, zip_filter_map]
    simp only [rust_cost_affordable]
  · rw [← Except.ok.inj host, computeNextLinkActionCostsHost, zip_filter_map]
    simp only [host_cost_affordable]

theorem CostToGo.nonneg {costs : Fin n → ℚ} {blocked : Fin n → Bool} {destination : Fin p}
    {dist : Fin p → ℚ} (h : CostToGo net costs blocked destination dist)
    (nonneg : ∀ l, 0 ≤ costs l) (v : Fin p) : 0 ≤ dist v := by
  rcases h.attained v with cut | ⟨ls, _, cost⟩
  · rw [cut]
    norm_num [infCost]
  · rw [← cost]
    exact path_cost_nonneg nonneg

theorem Ranking.start (own : OwnField net potential)
    (nonneg : ∀ l, 0 ≤ potential.linkTravelTimeCost l) (incoming : Option (Fin n))
    (origin : Fin p) (maxHops maxCandidates : ℕ) :
    Ranking net potential incoming origin maxHops maxCandidates [] 0
      (rankedStart origin (lastLinkId net incoming)) := by
  have entry : OpenEntry net potential incoming origin maxHops
      ⟨0, 0, 0, [], origin, lastLinkId net incoming, [origin]⟩ [] := by
    refine ⟨rfl, by simp, rfl, rfl, ?_, fun _ none => absurd rfl none, .arrived, ?_, by simp [pathNodes],
      Nat.zero_le _⟩
    · rw [zero_add]
      exact (own_field_of_nonneg own nonneg).nonneg nonneg origin
    · cases incoming <;> simp
  refine ⟨rfl, by simp, List.nodup_nil, List.Pairwise.nil, by simp, Nat.zero_le _, ?_, ?_,
    fun ls _ _ => .inr ⟨_, List.mem_singleton_self _, [], ls, rfl, entry⟩⟩
  · intro e listed
    rw [List.mem_singleton.mp listed]
  · intro e listed
    rw [List.mem_singleton.mp listed]
    exact ⟨[], entry⟩

/-- The search ends because nothing is open or enough is found, not for its budget. -/
def WithinBudget (net : RoadNetworkCSR p n m) (potential : DynamicPotentialState p n)
    (rust : RustExtension) (incoming : Option (Fin n)) (origin : Fin p)
    (maxCandidates maxHops : ℕ) (backend : RoutingBackend) : Prop :=
  ∀ s, rankedRun net potential
      (fun node last => scoreLegalNextLinks net potential rust node last backend)
      (fun l => some (net.links l).linkId) (atDestination net potential) maxHops maxCandidates
      (maxExpansions n maxCandidates) (rankedStart origin (lastLinkId net incoming)) = .ok s →
    s.heap = [] ∨ maxCandidates ≤ s.paths.length

/-- Routes found in the order of their costs; where the search ended by itself, every other
route that costs less than half the sentinel costs at least as much as all of them, and
they are as many as asked for. -/
structure BestRoutes (net : RoadNetworkCSR p n m) (potential : DynamicPotentialState p n)
    (incoming : Option (Fin n)) (origin : Fin p) (maxCandidates maxHops : ℕ) (ended : Prop)
    (found : List (List (Fin n))) : Prop where
  distinct : found.Nodup
  routes : ∀ ls ∈ found, CandidateRoute net potential.blockedLinkMask incoming origin
    potential.destinationNodeIndex maxHops ls
  sorted : found.Pairwise fun a b =>
    pathCost potential.linkTravelTimeCost a ≤ pathCost potential.linkTravelTimeCost b
  few : found.length ≤ maxCandidates
  best : ended → ∀ ls, CandidateRoute net potential.blockedLinkMask incoming origin
      potential.destinationNodeIndex maxHops ls →
    pathCost potential.linkTravelTimeCost ls < infCost / 2 → ls ∉ found →
    found.length = maxCandidates ∧ ∀ ls' ∈ found,
      pathCost potential.linkTravelTimeCost ls' ≤ pathCost potential.linkTravelTimeCost ls

theorem BestRoutes.none {incoming : Option (Fin n)} {origin : Fin p} {maxCandidates maxHops : ℕ}
    {ended : Prop} (no_route : ∀ ls, CandidateRoute net potential.blockedLinkMask incoming origin
      potential.destinationNodeIndex maxHops ls → maxCandidates = 0) :
    BestRoutes net potential incoming origin maxCandidates maxHops ended [] :=
  ⟨List.nodup_nil, by simp, List.Pairwise.nil, Nat.zero_le _,
    fun _ ls route _ _ => ⟨(no_route ls route).symm, by simp⟩⟩

theorem Ranking.best_routes (own : OwnField net potential)
    (nonneg : ∀ l, 0 ≤ potential.linkTravelTimeCost l) {incoming : Option (Fin n)}
    {origin : Fin p} {maxCandidates maxHops : ℕ} {found : List (List (Fin n))} {level : ℚ}
    {s : RankedSearch p (Option ℤ)} {ended : Prop}
    (h : Ranking net potential incoming origin maxHops maxCandidates found level s)
    (why : ended → s.heap = [] ∨ maxCandidates ≤ s.paths.length) :
    BestRoutes net potential incoming origin maxCandidates maxHops ended found := by
  refine ⟨h.distinct, h.routes, h.sorted, h.few, fun finished ls route affordable other => ?_⟩
  obtain ⟨e, waits, part, tail, rfl, part_open⟩ := (h.covered ls route affordable).resolve_left other
  have full := (why finished).resolve_left (List.ne_nil_of_mem waits)
  rw [h.paths, List.length_map] at full
  refine ⟨le_antisymm h.few full, fun ls' listed => ?_⟩
  calc pathCost potential.linkTravelTimeCost ls' ≤ level := h.low ls' listed
    _ ≤ e.estimatedCost := h.high e waits
    _ ≤ _ := part_open.estimate_le_route own nonneg route

end Best

end Metroflow.Routing
