import Metroflow.Routing.Planned

namespace Metroflow.Routing

open Metroflow.Lib Metroflow.City Metroflow.Flow

variable {p n m : ℕ} {net : RoadNetworkCSR p n m} {potential : DynamicPotentialState p n}
  {rust : RustExtension}

def lastLinkId (net : RoadNetworkCSR p n m) (incoming : Option (Fin n)) : Option ℤ :=
  incoming.map fun a => (net.links a).linkId

section Scoring

variable (node : Fin p)

theorem allowed_among_outgoing (a : Fin n) :
    (allowedSuccessors net a).filter (· ∈ net.outgoingLinkIndices node) =
      (net.outgoingLinkIndices node).filter (· ∈ allowedSuccessors net a) := by
  unfold allowedSuccessors RoadNetworkCSR.outgoingLinkIndices
  rw [List.filter_filter, List.filter_filter]
  refine List.filter_congr fun l listed => ?_
  simp only [List.mem_filter, listed, true_and, decide_eq_true_eq]
  exact Bool.and_comm _ _

theorem filter_legal_known (incoming : Option (Fin n)) :
    filterLegalTurnSuccessors net (net.outgoingLinkIndices node) (lastLinkId net incoming) =
      outgoingAllowed net node incoming := by
  unfold filterLegalTurnSuccessors outgoingAllowed allowedSuccessorsForIncoming lastLinkId
  cases incoming with
  | none => rfl
  | some a =>
    simp only [Option.map_some, net.link_id_to_index_self]
    by_cases dead : net.outgoingLinkIndices node = []
    · simp only [dead, if_true, List.filter_nil]
      split <;> rfl
    · by_cases table : m = 0
      · simp only [dead, table, if_true, if_false]
      · by_cases listed : allSuccessors net a = []
        · simp only [dead, table, listed, if_true, if_false]
        · by_cases allowed : allowedSuccessors net a = []
          · simp only [dead, table, listed, allowed, if_true, if_false, List.filter_nil]
          · simp only [dead, table, listed, allowed, if_false]
            exact allowed_among_outgoing node a

theorem filter_legal_unknown {linkId : ℤ} (table : m ≠ 0)
    (unknown : net.linkIdToIndex linkId = none) (outgoing : List (Fin n)) :
    filterLegalTurnSuccessors net outgoing (some linkId) = [] := by
  unfold filterLegalTurnSuccessors
  simp only [table, unknown, if_false]
  split
  · assumption
  · rfl

theorem host_cost_affordable (l : Fin n) :
    (Option.guard (fun scored : ℚ × Fin n => decide (scored.1 < infCost / 2))
      (if potential.blockedLinkMask l = false ∧
          potential.nodeCostToGo (net.linkDstNodeIndex l) < infCost / 2 then
        potential.linkTravelTimeCost l + potential.nodeCostToGo (net.linkDstNodeIndex l)
      else infCost, l)) = (actionCost net potential l).map (·, l) := by
  have dear : ¬ infCost < infCost / 2 := by norm_num [infCost]
  unfold actionCost
  by_cases blocked : potential.blockedLinkMask l = true
  · simp [blocked, dear, Option.guard]
  · by_cases far : infCost / 2 ≤ potential.nodeCostToGo (net.linkDstNodeIndex l)
    · simp [blocked, far, not_lt.mpr far, dear, Option.guard]
    · by_cases costly : infCost / 2 ≤
        potential.linkTravelTimeCost l + potential.nodeCostToGo (net.linkDstNodeIndex l)
      · simp [blocked, far, not_le.mp far, costly, not_lt.mpr costly, Option.guard]
      · simp [blocked, far, not_le.mp far, costly, not_le.mp costly, Option.guard]

theorem zip_filter_map {α β : Type*} (cost : α → β) (keep : β × α → Bool) (l : List α) :
    ((l.map cost).zip l).filter keep = l.filterMap fun a => Option.guard keep (cost a, a) := by
  induction l with
  | nil => rfl
  | cons a l ih =>
    rw [List.map_cons, List.zip_cons_cons, List.filter_cons, List.filterMap_cons, ih]
    by_cases kept : keep (cost a, a) = true
    · simp [kept, Option.guard]
    · simp [kept, Option.guard]

theorem score_legal_known (incoming : Option (Fin n)) :
    scoreLegalNextLinks net potential rust node (lastLinkId net incoming) .baseline =
      .ok (scoredLegalNextLinkIndices net potential node incoming) := by
  unfold scoreLegalNextLinks scoredLegalNextLinkIndices
  rw [filter_legal_known]
  refine bind_ok.mpr ⟨(_, .host), rfl, pure_ok.mpr ?_⟩
  rw [computeNextLinkActionCostsHost, zip_filter_map]
  simp only [host_cost_affordable]

theorem score_legal_unknown {linkId : ℤ} (table : m ≠ 0)
    (unknown : net.linkIdToIndex linkId = none) :
    scoreLegalNextLinks net potential rust node (some linkId) .baseline = .ok [] := by
  unfold scoreLegalNextLinks
  rw [filter_legal_unknown table unknown]
  rfl

theorem best_legal_known (incoming : Option (Fin n)) :
    bestLegalNextLinkIdHost net potential node (lastLinkId net incoming) =
      bestLegalNextLinkIndexRust net potential node incoming := by
  unfold bestLegalNextLinkIdHost bestLegalNextLinkIndexRust
  rw [filter_legal_known]

theorem best_legal_unknown {linkId : ℤ} (table : m ≠ 0)
    (unknown : net.linkIdToIndex linkId = none) :
    bestLegalNextLinkIdHost net potential node (some linkId) = none := by
  unfold bestLegalNextLinkIdHost
  rw [filter_legal_unknown table unknown]
  rfl

end Scoring

section Searches

variable {ι κ : Type} (means : κ → ι)

theorem greedy_walk_means {next : Fin p → ι → Option (Fin n)} {next' : Fin p → κ → Option (Fin n)}
    {enter : Fin n → ι} {enter' : Fin n → κ} {arrived : Fin n → Bool}
    (chosen : ∀ node last, next node (means last) = next' node last)
    (entered : ∀ l, enter l = means (enter' l)) (hops : ℕ) {node : Fin p} {last : κ}
    {visited : List (Fin p)} {path : List ℤ} :
    greedyWalk net next enter arrived hops node (means last) visited path =
      greedyWalk net next' enter' arrived hops node last visited path := by
  induction hops generalizing node last visited path with
  | zero => rfl
  | succ hops ih =>
    rw [greedyWalk, greedyWalk, chosen]
    cases next' node last with
    | none => rfl
    | some l =>
      simp only [entered]
      split
      · rfl
      · split
        · rfl
        · exact ih

/-- An open route, with its last link read another way. -/
def RankedEntry.reread (entry : RankedEntry p κ) : RankedEntry p ι :=
  { entry with lastLink := means entry.lastLink }

def RankedSearch.reread (s : RankedSearch p κ) : RankedSearch p ι :=
  { s with heap := s.heap.map (RankedEntry.reread means) }

@[simp]
theorem reread_paths (s : RankedSearch p κ) : (s.reread means).paths = s.paths := rfl

variable {enter : Fin n → ι} {enter' : Fin n → κ} {destination : Fin p → Bool}

theorem push_continuation_reread (entered : ∀ l, enter l = means (enter' l))
    (entry : RankedEntry p κ) (s : RankedSearch p κ) (scored : ℚ × Fin n) :
    pushContinuation net potential enter destination (entry.reread means) (s.reread means)
        scored =
      (pushContinuation net potential enter' destination entry s scored).reread means := by
  unfold pushContinuation
  simp only [RankedEntry.reread, entered]
  split
  · rfl
  · split
    · rfl
    · split <;> rfl

theorem push_all_reread (entered : ∀ l, enter l = means (enter' l)) (entry : RankedEntry p κ)
    (links : List (ℚ × Fin n)) (s : RankedSearch p κ) :
    links.foldl (pushContinuation net potential enter destination (entry.reread means))
        (s.reread means) =
      (links.foldl (pushContinuation net potential enter' destination entry) s).reread means := by
  induction links generalizing s with
  | nil => rfl
  | cons scored links ih =>
    rw [List.foldl_cons, List.foldl_cons, push_continuation_reread means entered, ih]

variable {score : Fin p → ι → Except RoutingError (List (ℚ × Fin n))}
  {score' : Fin p → κ → Except RoutingError (List (ℚ × Fin n))} {maxHops maxCandidates : ℕ}

theorem expand_entry_reread (scores : ∀ node last, score node (means last) = score' node last)
    (entered : ∀ l, enter l = means (enter' l)) (entry : RankedEntry p κ) (s : RankedSearch p κ) :
    expandEntry net potential score enter destination maxHops (entry.reread means)
        (s.reread means) =
      (expandEntry net potential score' enter' destination maxHops entry s).map
        (RankedSearch.reread means) := by
  unfold expandEntry
  by_cases finished : destination entry.node = true ∧ entry.path ≠ []
  · rw [if_pos finished]
    refine (if_pos finished).trans ?_
    by_cases known : entry.path ∈ s.paths
    · rw [if_pos known]
      exact if_pos known
    · rw [if_neg known]
      exact if_neg known
  · rw [if_neg finished]
    refine (if_neg finished).trans ?_
    by_cases long : maxHops ≤ entry.path.length
    · rw [if_pos long]
      exact if_pos long
    · rw [if_neg long]
      refine (if_neg long).trans ?_
      have same : score entry.node (means entry.lastLink) = score' entry.node entry.lastLink :=
        scores entry.node entry.lastLink
      simp only [RankedEntry.reread, same]
      cases score' entry.node entry.lastLink with
      | error e => rfl
      | ok links => exact congrArg Except.ok (push_all_reread means entered entry links s)

theorem ranked_search_reread (scores : ∀ node last, score node (means last) = score' node last)
    (entered : ∀ l, enter l = means (enter' l)) (expansions : ℕ) (s : RankedSearch p κ) :
    rankedSearch net potential score enter destination maxHops maxCandidates expansions
        (s.reread means) =
      rankedSearch net potential score' enter' destination maxHops maxCandidates expansions s := by
  induction expansions generalizing s with
  | zero => rfl
  | succ expansions ih =>
    have popped : popMin RankedEntry.before (s.reread means).heap =
        (popMin RankedEntry.before s.heap).map
          (Prod.map (RankedEntry.reread means) (List.map (RankedEntry.reread means))) :=
      pop_min_map (RankedEntry.reread means) fun _ _ => rfl
    rw [rankedSearch, rankedSearch, popped, reread_paths]
    split
    · rfl
    · cases popMin RankedEntry.before s.heap with
      | none => rfl
      | some top =>
        obtain ⟨entry, rest⟩ := top
        have expanded : expandEntry net potential score enter destination maxHops
            (entry.reread means) (RankedSearch.reread means { s with heap := rest }) =
              (expandEntry net potential score' enter' destination maxHops entry
                { s with heap := rest }).map (RankedSearch.reread means) :=
          expand_entry_reread means scores entered entry { s with heap := rest }
        refine (congrArg (· >>= rankedSearch net potential score enter destination maxHops
          maxCandidates expansions) expanded).trans ?_
        simp only
        cases expandEntry net potential score' enter' destination maxHops entry
            { s with heap := rest } with
        | error e => rfl
        | ok s' => exact ih s'

theorem ranked_search_stuck {origin : Fin p} {last : ι} (stuck : score origin last = .ok [])
    (expansions : ℕ) :
    rankedSearch net potential score enter destination maxHops maxCandidates expansions
      (rankedStart origin last) = .ok [] := by
  have emptied : ∀ expansions, rankedSearch net potential score enter destination maxHops
      maxCandidates expansions ⟨[], 0, []⟩ = .ok [] := by
    intro expansions
    cases expansions with
    | zero => rfl
    | succ expansions =>
      rw [rankedSearch]
      split <;> rfl
  cases expansions with
  | zero => rfl
  | succ expansions =>
    rw [rankedSearch]
    split
    · rfl
    · have expanded : expandEntry net potential score enter destination maxHops
          ⟨0, 0, 0, [], origin, last, [origin]⟩ ⟨[], 0, []⟩ = .ok ⟨[], 0, []⟩ := by
        unfold expandEntry
        rw [if_neg fun finished => finished.2 rfl]
        split
        · rfl
        · simp only [stuck]
          rfl
      simp only [rankedStart, popMin, expanded]
      exact emptied expansions

end Searches

theorem resolve_incoming_known {incomingLinkId : Option ℤ} {incoming : Option (Fin n)}
    (h : resolveIncoming net incomingLinkId = some incoming) :
    incomingLinkId = lastLinkId net incoming := by
  unfold resolveIncoming at h
  split at h
  · obtain rfl := Option.some.inj h
    rfl
  · obtain ⟨a, found, rfl⟩ := Option.map_eq_some_iff.mp h
    rw [lastLinkId, Option.map_some, net.link_id_to_index_some.mp found]

theorem resolve_incoming_unknown {incomingLinkId : Option ℤ}
    (h : resolveIncoming net incomingLinkId = none) :
    ∃ linkId, incomingLinkId = some linkId ∧ net.linkIdToIndex linkId = none := by
  unfold resolveIncoming at h
  split at h
  · cases h
  · exact ⟨_, rfl, Option.map_eq_none_iff.mp h⟩

def ReadAlike (net : RoadNetworkCSR p n m) (incomingLinkId : Option ℤ) : Prop :=
  resolveIncoming net incomingLinkId ≠ none ∨ m ≠ 0

/-- The costs that the compiled module takes. -/
def NonNegative (potential : DynamicPotentialState p n) : Prop :=
  (∀ i, 0 ≤ potential.nodeCostToGo i) ∧ ∀ l, 0 ≤ potential.linkTravelTimeCost l

theorem validate_inputs_ok (nonneg : NonNegative potential) {maxHops : ℕ} (hops : 1 ≤ maxHops) :
    validateGreedyRouteInputs potential maxHops = .ok () := by
  have validated : validateNonNegative potential = .ok () :=
    bind_ok.mpr ⟨(), raise_if_ok.mpr (by simpa using nonneg.1),
      raise_if_ok.mpr (by simpa using nonneg.2)⟩
  exact bind_ok.mpr ⟨(), raise_if_ok.mpr (by omega), validated⟩

section Greedy

variable {origin : Fin p} {incomingLinkId : Option ℤ} {hopLimit : ℕ}

theorem greedy_rust_is_host (anchored : Anchored net potential potential.destinationNodeId)
    (alike : ReadAlike net incomingLinkId)
    (away : (net.nodes origin).nodeId ≠ potential.destinationNodeId) {path : List ℤ}
    (h : buildGreedyRouteCandidateRust net potential rust origin incomingLinkId hopLimit =
      .ok path) :
    buildGreedyRouteCandidateBaseline net potential origin incomingLinkId hopLimit = path := by
  unfold buildGreedyRouteCandidateRust at h
  unfold buildGreedyRouteCandidateBaseline
  split at h
  · rename_i unresolved
    obtain rfl := Except.ok.inj h
    obtain ⟨linkId, rfl, unknown⟩ := resolve_incoming_unknown unresolved
    have table : m ≠ 0 := alike.resolve_left fun resolved => resolved unresolved
    cases hopLimit with
    | zero => rfl
    | succ hops => rw [greedyWalk, best_legal_unknown origin table unknown]
  · rename_i incoming resolved
    obtain ⟨_, _, walked⟩ := bind_ok.mp (RustExtension.call_ok h)
    have walked := pure_ok.mp walked
    have apart : origin ≠ potential.destinationNodeIndex := by
      rintro rfl
      exact away anchored.2
    have arrives : (fun l => decide ((net.links l).dstNodeId = potential.destinationNodeId)) =
        fun l => decide (net.linkDstNodeIndex l = potential.destinationNodeIndex) := by
      funext l
      rw [← net.dst_node, ← anchored.2]
      exact decide_eq_decide.mpr net.node_ids_unique.eq_iff
    rw [if_neg apart] at walked
    rw [resolve_incoming_known resolved, arrives, ← walked]
    refine greedy_walk_means (lastLinkId net) ?_ ?_ hopLimit
    · exact fun node last => best_legal_known node last
    · exact fun _ => rfl

theorem greedy_rust_ok (installed : rust.routingBackendAvailable = true)
    (nonneg : NonNegative potential) (hops : 1 ≤ hopLimit) :
    ∃ path, buildGreedyRouteCandidateRust net potential rust origin incomingLinkId hopLimit =
      .ok path := by
  have exported : rust.exports .greedyCandidate = true := by
    simp only [RustExtension.routingBackendAvailable, Bool.and_eq_true] at installed
    tauto
  unfold buildGreedyRouteCandidateRust
  split
  · exact ⟨[], rfl⟩
  · rw [RustExtension.call, if_pos exported]
    exact ⟨_, bind_ok.mpr ⟨(), validate_inputs_ok nonneg hops, rfl⟩⟩

end Greedy

section Ranked

variable {originNodeId destinationNodeId : ℤ} {incomingLinkId : Option ℤ}
  {maxCandidates maxHops : ℕ}

theorem max_expansions_eq (some_candidates : maxCandidates ≠ 0) :
    maxExpansions n maxCandidates = maxCandidates * max 16 (n * 4) := by
  have budget : 0 < maxCandidates * max 16 (n * 4) := by positivity
  exact max_eq_left budget

theorem ranked_impl_ok {origin destination : Fin p} {incoming : Option (Fin n)}
    {paths : List (List ℤ)} (h : computeRankedRouteCandidatesImpl net potential origin destination
      incoming maxHops maxCandidates = .ok paths) :
    maxCandidates ≠ 0 ∧ maxHops ≠ 0 ∧
      (origin = destination ∧ paths = [] ∨ origin ≠ destination ∧ rankedSearch net potential
        (fun node last => .ok (scoredLegalNextLinkIndices net potential node last)) some
        (fun i => decide (i = destination)) maxHops maxCandidates
        (maxCandidates * max 16 (n * 4)) (rankedStart origin incoming) = .ok paths) := by
  obtain ⟨_, some_candidates, checked⟩ := bind_ok.mp h
  obtain ⟨_, validated, searched⟩ := bind_ok.mp checked
  obtain ⟨_, some_hops, _⟩ := bind_ok.mp validated
  refine ⟨raise_if_ok.mp some_candidates, raise_if_ok.mp some_hops, ?_⟩
  split at searched
  · rename_i same
    exact .inl ⟨same, (pure_ok.mp searched).symm⟩
  · rename_i apart
    exact .inr ⟨apart, searched⟩

theorem ranked_search_scored_ok (destination : Fin p → Bool) (expansions : ℕ)
    (s : RankedSearch p (Option (Fin n))) :
    ∃ paths, rankedSearch net potential
      (fun node last => .ok (scoredLegalNextLinkIndices net potential node last)) some destination
      maxHops maxCandidates expansions s = .ok paths := by
  induction expansions generalizing s with
  | zero => exact ⟨s.paths, rfl⟩
  | succ expansions ih =>
    rw [rankedSearch]
    split
    · exact ⟨s.paths, rfl⟩
    · split
      · exact ⟨s.paths, rfl⟩
      · rename_i entry rest _
        have expanded : ∃ s', expandEntry net potential
            (fun node last => .ok (scoredLegalNextLinkIndices net potential node last)) some
            destination maxHops entry { s with heap := rest } = .ok s' := by
          unfold expandEntry
          split
          · split <;> exact ⟨_, rfl⟩
          · split <;> exact ⟨_, rfl⟩
        obtain ⟨s', expanded⟩ := expanded
        obtain ⟨paths, found⟩ := ih s'
        exact ⟨paths, bind_ok.mpr ⟨s', expanded, found⟩⟩

theorem ranked_rust_is_host (alike : ReadAlike net incomingLinkId) {paths : List (List ℤ)}
    (h : buildRankedRouteCandidatePathsRust net potential rust originNodeId destinationNodeId
      incomingLinkId maxCandidates maxHops = .ok paths) :
    buildRankedRouteCandidatePathsHost net potential rust originNodeId destinationNodeId
      incomingLinkId maxCandidates maxHops .baseline = .ok paths := by
  unfold buildRankedRouteCandidatePathsRust at h
  unfold buildRankedRouteCandidatePathsHost
  split at h
  · cases h
  · cases h
  · rename_i origin destination start arrival
    have originId := net.node_id_to_index_some.mp start
    have destinationId := net.node_id_to_index_some.mp arrival
    split at h
    · rename_i unresolved
      obtain rfl := Except.ok.inj h
      obtain ⟨linkId, rfl, unknown⟩ := resolve_incoming_unknown unresolved
      have table : m ≠ 0 := alike.resolve_left fun resolved => resolved unresolved
      split
      · rfl
      · split
        · rfl
        · simp only [start]
          refine ranked_search_stuck ?_ _
          exact score_legal_unknown origin table unknown
    · rename_i incoming resolved
      obtain ⟨some_candidates, some_hops, answer⟩ := ranked_impl_ok (RustExtension.call_ok h)
      rcases answer with ⟨rfl, rfl⟩ | ⟨apart, searched⟩
      · exact if_pos (originId.symm.trans destinationId)
      · have apartId : originNodeId ≠ destinationNodeId := by
          rw [← originId, ← destinationId]
          exact fun same => apart (net.node_ids_unique same)
        have there : (fun i => decide ((net.nodes i).nodeId = destinationNodeId)) =
            fun i => decide (i = destination) := by
          funext i
          rw [← destinationId]
          exact decide_eq_decide.mpr net.node_ids_unique.eq_iff
        rw [if_neg apartId, if_neg (by tauto)]
        simp only [start, there, resolve_incoming_known resolved,
          max_expansions_eq some_candidates]
        rw [← searched]
        refine ranked_search_reread (lastLinkId net) ?_ ?_ _ (rankedStart origin incoming)
        · exact fun node last => score_legal_known node last
        · exact fun _ => rfl

theorem ranked_rust_ok (installed : rust.routingBackendAvailable = true)
    (nonneg : NonNegative potential) (some_candidates : 1 ≤ maxCandidates)
    (some_hops : 1 ≤ maxHops) {origin destination : Fin p}
    (start : net.nodeIdToIndex originNodeId = some origin)
    (arrival : net.nodeIdToIndex destinationNodeId = some destination) :
    ∃ paths, buildRankedRouteCandidatePathsRust net potential rust originNodeId destinationNodeId
      incomingLinkId maxCandidates maxHops = .ok paths := by
  have exported : rust.exports .rankedCandidates = true := by
    simp only [RustExtension.routingBackendAvailable, Bool.and_eq_true] at installed
    tauto
  unfold buildRankedRouteCandidatePathsRust
  simp only [start, arrival]
  split
  · exact ⟨[], rfl⟩
  · rename_i incoming _
    rw [RustExtension.call, if_pos exported]
    by_cases same : origin = destination
    · exact ⟨[], bind_ok.mpr ⟨(), raise_if_ok.mpr (by omega), bind_ok.mpr
        ⟨(), validate_inputs_ok nonneg some_hops, if_pos same⟩⟩⟩
    · obtain ⟨paths, found⟩ : ∃ paths, rankedSearch net potential
          (fun node last => .ok (scoredLegalNextLinkIndices net potential node last)) some
          (fun i => decide (i = destination)) maxHops maxCandidates
          (maxCandidates * max 16 (n * 4)) (rankedStart origin incoming) = .ok paths :=
        ranked_search_scored_ok _ _ _
      exact ⟨paths, bind_ok.mpr ⟨(), raise_if_ok.mpr (by omega), bind_ok.mpr
        ⟨(), validate_inputs_ok nonneg some_hops, (if_neg same).trans found⟩⟩⟩

end Ranked

/-- The ranked paths of a request, whoever computes them. -/
def rankedPaths (net : RoadNetworkCSR p n m) (potential : DynamicPotentialState p n)
    (rust : RustExtension) (originNodeId destinationNodeId : ℤ) (incomingLinkId : Option ℤ)
    (maxCandidates maxHops : ℕ) (backend : RoutingBackend) :
    Except RoutingError (List (List ℤ)) :=
  (buildRankedRouteCandidatePaths net potential rust originNodeId destinationNodeId
    incomingLinkId maxCandidates maxHops backend).map Prod.fst

section Agreement

variable {originNodeId destinationNodeId : ℤ} {incomingLinkId : Option ℤ}
  {maxCandidates maxHops : ℕ}

@[simp]
theorem ranked_paths_rust :
    rankedPaths net potential rust originNodeId destinationNodeId incomingLinkId maxCandidates
      maxHops .rustCpu =
    buildRankedRouteCandidatePathsRust net potential rust originNodeId destinationNodeId
      incomingLinkId maxCandidates maxHops := by
  simp [rankedPaths, buildRankedRouteCandidatePaths]

@[simp]
theorem ranked_paths_baseline :
    rankedPaths net potential rust originNodeId destinationNodeId incomingLinkId maxCandidates
      maxHops .baseline =
    buildRankedRouteCandidatePathsHost net potential rust originNodeId destinationNodeId
      incomingLinkId maxCandidates maxHops .baseline := by
  simp [rankedPaths, buildRankedRouteCandidatePaths]

theorem ranked_unknown_origin {destination : Fin p}
    (start : net.nodeIdToIndex originNodeId = none)
    (arrival : net.nodeIdToIndex destinationNodeId = some destination)
    (some_candidates : 1 ≤ maxCandidates) (some_hops : 1 ≤ maxHops) :
    buildRankedRouteCandidatePathsRust net potential rust originNodeId destinationNodeId
      incomingLinkId maxCandidates maxHops =
    buildRankedRouteCandidatePathsHost net potential rust originNodeId destinationNodeId
      incomingLinkId maxCandidates maxHops .baseline := by
  have apart : originNodeId ≠ destinationNodeId := by
    rintro rfl
    rw [start] at arrival
    cases arrival
  unfold buildRankedRouteCandidatePathsRust buildRankedRouteCandidatePathsHost
  rw [if_neg apart, if_neg (by omega)]
  simp only [start]

theorem build_greedy_rust {origin : Fin p} (away : originNodeId ≠ potential.destinationNodeId)
    (start : net.nodeIdToIndex originNodeId = some origin) :
    buildGreedyRouteCandidate net potential rust originNodeId incomingLinkId maxHops .rustCpu =
      buildGreedyRouteCandidateRust net potential rust origin incomingLinkId (max 1 maxHops) := by
  unfold buildGreedyRouteCandidate
  rw [if_neg away, start]
  exact computed_bind

theorem build_greedy_baseline {origin : Fin p}
    (away : originNodeId ≠ potential.destinationNodeId)
    (start : net.nodeIdToIndex originNodeId = some origin) :
    buildGreedyRouteCandidate net potential rust originNodeId incomingLinkId maxHops .baseline =
      .ok (buildGreedyRouteCandidateBaseline net potential origin incomingLinkId
        (max 1 maxHops)) := by
  unfold buildGreedyRouteCandidate
  rw [if_neg away, start]
  rfl

theorem build_greedy_settled
    (settled : originNodeId = potential.destinationNodeId ∨
      net.nodeIdToIndex originNodeId = none) :
    buildGreedyRouteCandidate net potential rust originNodeId incomingLinkId maxHops .rustCpu =
      buildGreedyRouteCandidate net potential rust originNodeId incomingLinkId maxHops
        .baseline := by
  unfold buildGreedyRouteCandidate
  rcases settled with there | unknown
  · rw [if_pos there, if_pos there]
  · simp only [unknown]

theorem greedy_backends_agree (anchored : Anchored net potential potential.destinationNodeId)
    (alike : ReadAlike net incomingLinkId) {path : List ℤ}
    (h : buildGreedyRouteCandidate net potential rust originNodeId incomingLinkId maxHops
      .rustCpu = .ok path) :
    buildGreedyRouteCandidate net potential rust originNodeId incomingLinkId maxHops
      .baseline = .ok path := by
  by_cases settled : originNodeId = potential.destinationNodeId ∨
      net.nodeIdToIndex originNodeId = none
  · rw [← build_greedy_settled settled, h]
  · obtain ⟨away, known⟩ := not_or.mp settled
    obtain ⟨origin, start⟩ := Option.ne_none_iff_exists'.mp known
    have originId := net.node_id_to_index_some.mp start
    rw [build_greedy_rust away start] at h
    rw [build_greedy_baseline away start]
    rw [greedy_rust_is_host anchored alike (originId ▸ away) h]

theorem greedy_backends_equal (anchored : Anchored net potential potential.destinationNodeId)
    (alike : ReadAlike net incomingLinkId) (installed : rust.routingBackendAvailable = true)
    (nonneg : NonNegative potential) :
    buildGreedyRouteCandidate net potential rust originNodeId incomingLinkId maxHops .rustCpu =
      buildGreedyRouteCandidate net potential rust originNodeId incomingLinkId maxHops
        .baseline := by
  by_cases settled : originNodeId = potential.destinationNodeId ∨
      net.nodeIdToIndex originNodeId = none
  · exact build_greedy_settled settled
  · obtain ⟨away, known⟩ := not_or.mp settled
    obtain ⟨origin, start⟩ := Option.ne_none_iff_exists'.mp known
    obtain ⟨path, found⟩ : ∃ path, buildGreedyRouteCandidateRust net potential rust origin
        incomingLinkId (max 1 maxHops) = .ok path :=
      greedy_rust_ok installed nonneg (le_max_left 1 maxHops)
    rw [← build_greedy_rust away start] at found
    rw [found, greedy_backends_agree anchored alike found]

theorem ranked_backends_equal (alike : ReadAlike net incomingLinkId)
    (installed : rust.routingBackendAvailable = true) (nonneg : NonNegative potential)
    (some_candidates : 1 ≤ maxCandidates) (some_hops : 1 ≤ maxHops) {destination : Fin p}
    (arrival : net.nodeIdToIndex destinationNodeId = some destination) :
    buildRankedRouteCandidatePathsRust net potential rust originNodeId destinationNodeId
      incomingLinkId maxCandidates maxHops =
    buildRankedRouteCandidatePathsHost net potential rust originNodeId destinationNodeId
      incomingLinkId maxCandidates maxHops .baseline := by
  cases start : net.nodeIdToIndex originNodeId with
  | none => exact ranked_unknown_origin start arrival some_candidates some_hops
  | some origin =>
    obtain ⟨paths, found⟩ : ∃ paths, buildRankedRouteCandidatePathsRust net potential rust
        originNodeId destinationNodeId incomingLinkId maxCandidates maxHops = .ok paths :=
      ranked_rust_ok installed nonneg some_candidates some_hops start arrival
    rw [found, ranked_rust_is_host alike found]

end Agreement

/-- The two backends plan the same routes. Whatever the compiled module returns,
the host returns too; and with costs, limits and a destination that the compiled
module takes, neither can be told from the other, errors included. -/
theorem route_backends_agree (net : RoadNetworkCSR p n m) (potential : DynamicPotentialState p n)
    (rust : RustExtension) (originNodeId destinationNodeId : ℤ) (incomingLinkId : Option ℤ)
    (maxCandidates maxHops : ℕ) (alike : ReadAlike net incomingLinkId) :
    (∀ paths,
      rankedPaths net potential rust originNodeId destinationNodeId incomingLinkId maxCandidates
        maxHops .rustCpu = .ok paths →
      rankedPaths net potential rust originNodeId destinationNodeId incomingLinkId maxCandidates
        maxHops .baseline = .ok paths) ∧
    (rust.routingBackendAvailable = true → NonNegative potential →
      1 ≤ maxCandidates → 1 ≤ maxHops → (∃ i, (net.nodes i).nodeId = destinationNodeId) →
      rankedPaths net potential rust originNodeId destinationNodeId incomingLinkId maxCandidates
        maxHops .rustCpu =
      rankedPaths net potential rust originNodeId destinationNodeId incomingLinkId maxCandidates
        maxHops .baseline) ∧
    (Anchored net potential potential.destinationNodeId →
      (∀ path,
        buildGreedyRouteCandidate net potential rust originNodeId incomingLinkId maxHops
          .rustCpu = .ok path →
        buildGreedyRouteCandidate net potential rust originNodeId incomingLinkId maxHops
          .baseline = .ok path) ∧
      (rust.routingBackendAvailable = true → NonNegative potential →
        buildGreedyRouteCandidate net potential rust originNodeId incomingLinkId maxHops
          .rustCpu =
        buildGreedyRouteCandidate net potential rust originNodeId incomingLinkId maxHops
          .baseline)) := by
  refine ⟨fun paths found => ?_, ?_, fun anchored => ⟨fun path => ?_, ?_⟩⟩
  · rw [ranked_paths_rust] at found
    rw [ranked_paths_baseline]
    exact ranked_rust_is_host alike found
  · rintro installed nonneg some_candidates some_hops ⟨destination, arrival⟩
    rw [ranked_paths_rust, ranked_paths_baseline]
    exact ranked_backends_equal alike installed nonneg some_candidates some_hops
      (net.node_id_to_index_some.mpr arrival)
  · exact greedy_backends_agree anchored alike
  · exact greedy_backends_equal anchored alike

/-- One road, without a turn table. -/
def singleRoad : RoadNetworkCSR 2 1 0 where
  nodes := ![⟨1⟩, ⟨2⟩]
  links := ![
    { linkId := 10, srcNodeId := 1, dstNodeId := 2, lengthM := 100, freeFlowSpeedMps := 10,
      capacityVehPerTick := 1, ends_differ := Lib.ids_one_two, length_pos := Lib.hundred_pos,
      speed_pos := Lib.ten_pos, capacity_nonneg := Lib.one_nonneg, lanes_pos := Lib.one_lane }]
  turns := Fin.elim0
  linkSrcNodeIndex := ![0]
  linkDstNodeIndex := ![1]
  turnFromLinkIndex := Fin.elim0
  turnToLinkIndex := Fin.elim0
  node_ids_unique := City.two_nodes_unique
  link_ids_unique := by decide
  src_node := by decide
  dst_node := by decide
  from_link := by decide
  to_link := by decide
  turn_adjacent := by decide
  legal_pairs_unique := City.no_turns_unique
  crossing_links := by simp

/-- What it costs to get to the end of the road. -/
def singleRoadPotential : DynamicPotentialState 2 1 where
  destinationNodeId := 2
  destinationNodeIndex := 1
  nodeCostToGo := ![10, 0]
  linkTravelTimeCost := ![10]
  blockedLinkMask := ![false]
  requested := .baseline
  computed := .host

/-- A compiled module with all its functions. -/
def completeModule : RustExtension := ⟨fun _ => true⟩

theorem single_road_backends_agree :
    buildGreedyRouteCandidate singleRoad singleRoadPotential completeModule 1 none 4 .rustCpu =
      buildGreedyRouteCandidate singleRoad singleRoadPotential completeModule 1 none 4 .baseline ∧
    rankedPaths singleRoad singleRoadPotential completeModule 1 2 none 2 4 .rustCpu =
      rankedPaths singleRoad singleRoadPotential completeModule 1 2 none 2 4 .baseline := by
  have agree := route_backends_agree singleRoad singleRoadPotential completeModule 1 2 none 2 4
    (.inl (by decide))
  have nonneg : NonNegative singleRoadPotential := by
    constructor
    · decide
    · decide
  exact ⟨(agree.2.2 (by constructor <;> decide)).2 rfl nonneg,
    agree.2.1 rfl nonneg (by decide) (by decide) ⟨1, rfl⟩⟩

/-- Where the backends part: without a turn table the compiled module finds no
route from a link it does not know. It refuses a search without hops, without
candidates, to a node it does not know or over negative costs, and it takes the
index of a potential's destination for the destination. -/
theorem single_road_backends_part :
    buildGreedyRouteCandidate singleRoad singleRoadPotential completeModule 1 (some 99) 4
        .baseline = .ok [10] ∧
      buildGreedyRouteCandidate singleRoad singleRoadPotential completeModule 1 (some 99) 4
        .rustCpu = .ok [] ∧
      rankedPaths singleRoad singleRoadPotential completeModule 1 2 (some 99) 2 4 .baseline =
        .ok [[10]] ∧
      rankedPaths singleRoad singleRoadPotential completeModule 1 2 (some 99) 2 4 .rustCpu =
        .ok [] ∧
      rankedPaths singleRoad singleRoadPotential completeModule 1 2 none 2 0 .baseline = .ok [] ∧
      rankedPaths singleRoad singleRoadPotential completeModule 1 2 none 2 0 .rustCpu =
        .error .rustHopLimit ∧
      rankedPaths singleRoad singleRoadPotential completeModule 1 2 none 0 4 .baseline = .ok [] ∧
      rankedPaths singleRoad singleRoadPotential completeModule 1 2 none 0 4 .rustCpu =
        .error .rustMaxCandidates ∧
      rankedPaths singleRoad singleRoadPotential completeModule 1 7 none 2 4 .baseline = .ok [] ∧
      rankedPaths singleRoad singleRoadPotential completeModule 1 7 none 2 4 .rustCpu =
        .error (.unknownNode 7) ∧
      buildGreedyRouteCandidate singleRoad { singleRoadPotential with linkTravelTimeCost := ![-1] }
        completeModule 1 none 4 .baseline = .ok [10] ∧
      buildGreedyRouteCandidate singleRoad { singleRoadPotential with linkTravelTimeCost := ![-1] }
        completeModule 1 none 4 .rustCpu = .error .rustNegativeLinkCost ∧
      buildGreedyRouteCandidate singleRoad { singleRoadPotential with destinationNodeIndex := 0 }
        completeModule 1 none 4 .baseline = .ok [10] ∧
      buildGreedyRouteCandidate singleRoad { singleRoadPotential with destinationNodeIndex := 0 }
        completeModule 1 none 4 .rustCpu = .ok [] := by
  decide +kernel

end Metroflow.Routing
