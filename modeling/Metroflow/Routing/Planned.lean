import Metroflow.Routing.Walks

namespace Metroflow.Routing

open Metroflow.Lib Metroflow.City Metroflow.Flow

variable {p n m : ℕ} {net : RoadNetworkCSR p n m} {potential : DynamicPotentialState p n}
  {rust : RustExtension}

/-- The searches on the host remember the last link by its id. -/
def meansId (net : RoadNetworkCSR p n m) (last : Option ℤ) (prev : Option (Fin n)) : Prop :=
  ∀ a, prev = some a → last = some (net.links a).linkId

/-- The compiled searches remember the last link itself. -/
def meansIndex (last prev : Option (Fin n)) : Prop := ∀ a, prev = some a → last = some a

theorem means_id_enter (l : Fin n) : meansId net (some (net.links l).linkId) (some l) := by
  rintro a ⟨⟩
  rfl

theorem means_index_enter (l : Fin n) : meansIndex (some l) (some l) := by
  rintro a ⟨⟩
  rfl

theorem means_id_incoming (incomingLinkId : Option ℤ) :
    meansId net incomingLinkId (incomingLinkId.bind net.linkIdToIndex) := by
  intro a known
  obtain ⟨linkId, rfl, found⟩ := Option.bind_eq_some_iff.mp known
  rw [net.link_id_to_index_some.mp found]

theorem resolve_incoming_some {incomingLinkId : Option ℤ} {incoming : Option (Fin n)}
    (h : resolveIncoming net incomingLinkId = some incoming) :
    incoming = incomingLinkId.bind net.linkIdToIndex := by
  unfold resolveIncoming at h
  split at h
  · exact (Option.some.inj h).symm
  · obtain ⟨a, found, rfl⟩ := Option.map_eq_some_iff.mp h
    simp [found]

theorem outgoing_allowed_mem {node : Fin p} {incoming : Option (Fin n)} {l : Fin n}
    (h : l ∈ outgoingAllowed net node incoming) :
    net.linkSrcNodeIndex l = node ∧ ∀ a, incoming = some a → Follows net a l := by
  unfold outgoingAllowed allowedSuccessorsForIncoming at h
  cases incoming with
  | none => exact ⟨net.mem_outgoing.mp h, fun a known => by cases known⟩
  | some a =>
    simp only at h
    by_cases table : m = 0
    · rw [if_pos table] at h
      exact ⟨net.mem_outgoing.mp h, fun _ _ => .inl table⟩
    · rw [if_neg table] at h
      split at h
      · cases h
      · rename_i unrestricted
        split at unrestricted <;> [cases unrestricted; (split at unrestricted <;> cases unrestricted)]
      · rename_i allowed found
        have same : allowed = allowedSuccessors net a := by
          split at found
          · cases found
          · split at found
            · cases found
            · exact (Option.some.inj (Option.some.inj found)).symm
        subst same
        simp only [allowedSuccessors, List.mem_filter, List.mem_finRange, true_and,
          decide_eq_true_eq, RoadNetworkCSR.mem_outgoing] at h
        refine ⟨h.1, fun b known => .inr ?_⟩
        obtain rfl := Option.some.inj known
        exact h.2

theorem best_legal_rust_mem {node : Fin p} {incoming : Option (Fin n)} {l : Fin n}
    (h : bestLegalNextLinkIndexRust net potential node incoming = some l) :
    net.linkSrcNodeIndex l = node ∧ ∀ a, incoming = some a → Follows net a l := by
  obtain ⟨found, fold, rfl⟩ := Option.map_eq_some_iff.mp h
  rcases take_better_mem net potential fold with none | listed
  · cases none
  · exact outgoing_allowed_mem listed

theorem scored_legal_rust_mem {node : Fin p} {incoming : Option (Fin n)} {scored : ℚ × Fin n}
    (h : scored ∈ scoredLegalNextLinkIndices net potential node incoming) :
    net.linkSrcNodeIndex scored.2 = node ∧ ∀ a, incoming = some a → Follows net a scored.2 := by
  rw [scoredLegalNextLinkIndices, List.mem_insertionSort, List.mem_filterMap] at h
  obtain ⟨l, listed, cost⟩ := h
  obtain ⟨c, _, rfl⟩ := Option.map_eq_some_iff.mp cost
  exact outgoing_allowed_mem listed

def Anchored (net : RoadNetworkCSR p n m) (potential : DynamicPotentialState p n)
    (destinationNodeId : ℤ) : Prop :=
  potential.destinationNodeId = destinationNodeId ∧
    (net.nodes potential.destinationNodeIndex).nodeId = destinationNodeId

theorem compute_potential_anchored {κ : Type} [DecidableEq κ] {source : CostSource n}
    {backend : RoutingBackend} {cache cache' : PotentialCache κ p n} {key : Option κ}
    {destinationNodeId : ℤ}
    (cached : ∀ k s, key = some k → cache.lookup (backend, k) = some s →
      Anchored net s destinationNodeId)
    (h : computeDynamicPotentialState rust net destinationNodeId source backend cache key =
      .ok (potential, cache')) : Anchored net potential destinationNodeId := by
  unfold computeDynamicPotentialState at h
  split at h
  · rename_i state found
    obtain ⟨k, named, found⟩ := Option.bind_eq_some_iff.mp found
    obtain ⟨rfl, _⟩ := Prod.mk.inj (Except.ok.inj h)
    exact cached k state named found
  · split at h
    · cases h
    · rename_i destination known
      obtain ⟨⟨nodeCost, computed⟩, _, h⟩ := bind_ok.mp h
      obtain ⟨rfl, _⟩ := Prod.mk.inj (pure_ok.mp h)
      exact ⟨rfl, net.node_id_to_index_some.mp known⟩

/-- Where a request's paths start and end. -/
def Planned (net : RoadNetworkCSR p n m) (request : CandidateRequest) (path : List ℤ) : Prop :=
  ∃ origin, net.nodeIdToIndex request.originNodeId = some origin ∧
    Reaches net (request.incomingLinkId.bind net.linkIdToIndex) origin
      (fun i => decide ((net.nodes i).nodeId = request.destinationNodeId)) path

section Greedy

variable {request : CandidateRequest} {origin : Fin p}

theorem greedy_reaches {ι : Type} (means : ι → Option (Fin n) → Prop) {incoming : Option (Fin n)}
    {next : Fin p → ι → Option (Fin n)} {enter : Fin n → ι} {arrived : Fin n → Bool}
    {destination : Fin p → Bool} {last : ι} {hops : ℕ} {path : List ℤ}
    (legal : Legal means net fun node last l => next node last = some l)
    (entered : ∀ l, means (enter l) (some l)) (known : means last incoming)
    (arrives : ∀ l, arrived l = true → destination (net.linkDstNodeIndex l) = true)
    (away : destination origin = false)
    (found : path = greedyWalk net next enter arrived hops origin last [origin] [])
    (some_path : path ≠ []) : Reaches net incoming origin destination path := by
  have elsewhere : ∀ l, arrived l = true → net.linkDstNodeIndex l ≠ origin := by
    intro l reached same
    have := arrives l reached
    rw [same, away] at this
    cases this
  obtain ⟨ls, l, walk, path, reached⟩ := greedy_walk_reaches means legal entered elsewhere hops
    (.start : Walk net incoming origin [] origin) known List.mem_cons_self found some_path
  exact ⟨ls ++ [l], _, by simp, walk, path, arrives l reached⟩

theorem build_greedy_planned (anchored : Anchored net potential request.destinationNodeId)
    {maxHops : ℕ} {backend : RoutingBackend} {path : List ℤ}
    (h : buildGreedyRouteCandidate net potential rust request.originNodeId request.incomingLinkId
      maxHops backend = .ok path) (some_path : path ≠ []) : Planned net request path := by
  unfold buildGreedyRouteCandidate at h
  obtain ⟨destinationId, destinationIndex⟩ := anchored
  split at h
  · exact absurd (Except.ok.inj h).symm some_path
  · rename_i apart
    split at h
    · cases h
    · rename_i origin known
      obtain ⟨⟨found, computed⟩, dispatched, h⟩ := bind_ok.mp h
      obtain rfl := pure_ok.mp h
      have originId := net.node_id_to_index_some.mp known
      have away : decide ((net.nodes origin).nodeId = request.destinationNodeId) = false := by
        rw [originId, decide_eq_false_iff_not]
        exact fun same => apart (same.trans destinationId.symm)
      refine ⟨origin, known, ?_⟩
      rcases dispatch_ok dispatched with compiled | host
      · unfold buildGreedyRouteCandidateRust at compiled
        split at compiled
        · exact absurd (Except.ok.inj compiled).symm some_path
        · rename_i incoming resolved
          obtain ⟨_, _, walked⟩ := bind_ok.mp (RustExtension.call_ok compiled)
          have walked := pure_ok.mp walked
          split at walked
          · exact absurd walked.symm some_path
          · rw [← resolve_incoming_some resolved]
            refine greedy_reaches meansIndex ?_ means_index_enter ?_ ?_ away walked.symm some_path
            · intro node last prev l known chosen
              obtain ⟨leaves, follows⟩ := best_legal_rust_mem chosen
              exact ⟨leaves, fun a same => follows a (known a same)⟩
            · exact fun a same => same
            · intro l reached
              rw [decide_eq_true_eq] at reached ⊢
              rw [reached, destinationIndex]
      · refine greedy_reaches (meansId net) ?_ means_id_enter
          (means_id_incoming request.incomingLinkId) ?_ away (Except.ok.inj host).symm some_path
        · intro node last prev l known chosen
          obtain ⟨leaves, follows⟩ := best_legal_mem net potential chosen
          exact ⟨leaves, fun a same => follows a (known a same)⟩
        · intro l reached
          rw [decide_eq_true_eq] at reached ⊢
          rw [net.dst_node, reached, destinationId]

end Greedy

theorem build_ranked_planned {request : CandidateRequest} {maxCandidates maxHops : ℕ}
    {backend : RoutingBackend} {paths : List (List ℤ)} {computed : Computed}
    (h : buildRankedRouteCandidatePaths net potential rust request.originNodeId
      request.destinationNodeId request.incomingLinkId maxCandidates maxHops backend =
        .ok (paths, computed)) : ∀ path ∈ paths, Planned net request path := by
  intro path member
  rcases dispatch_ok h with compiled | host
  · unfold buildRankedRouteCandidatePathsRust at compiled
    split at compiled
    · cases compiled
    · cases compiled
    · rename_i origin destination known arrival
      refine ⟨origin, known, ?_⟩
      split at compiled
      · obtain rfl := Except.ok.inj compiled
        cases member
      · rename_i incoming resolved
        obtain ⟨_, _, checked⟩ := bind_ok.mp (RustExtension.call_ok compiled)
        obtain ⟨_, _, searched⟩ := bind_ok.mp checked
        split at searched
        · obtain rfl := pure_ok.mp searched
          cases member
        · rw [← resolve_incoming_some resolved]
          have reached := ranked_search_reaches meansIndex ?_ means_index_enter
            (fun a same => same) searched path member
          · obtain ⟨ls, node, nonempty, walk, same, there⟩ := reached
            refine ⟨ls, node, nonempty, walk, same, ?_⟩
            rw [decide_eq_true_eq] at there ⊢
            rw [there]
            exact net.node_id_to_index_some.mp arrival
          · intro node last links scores scored listed prev known
            obtain rfl := Except.ok.inj scores
            obtain ⟨leaves, follows⟩ := scored_legal_rust_mem listed
            exact ⟨leaves, fun a same => follows a (known a same)⟩
  · unfold buildRankedRouteCandidatePathsHost at host
    split at host
    · obtain rfl := Except.ok.inj host
      cases member
    · split at host
      · obtain rfl := Except.ok.inj host
        cases member
      · split at host
        · cases host
        · rename_i origin known
          refine ⟨origin, known, ?_⟩
          refine ranked_search_reaches (meansId net) ?_ means_id_enter
            (means_id_incoming request.incomingLinkId) host path member
          intro node last links scores scored listed prev known
          obtain ⟨leaves, follows⟩ := score_legal_mem net potential scores listed
          exact ⟨leaves, fun a same => follows a (known a same)⟩

theorem candidate_paths_planned {request : CandidateRequest}
    (anchored : Anchored net potential request.destinationNodeId) {paths : List (List ℤ)}
    (h : candidatePathsFor rust net potential request = .ok paths) :
    ∀ path ∈ paths, Planned net request path := by
  unfold candidatePathsFor at h
  split at h
  · obtain ⟨path, built, h⟩ := bind_ok.mp h
    obtain rfl := pure_ok.mp h
    intro path' member
    split at member
    · cases member
    · rename_i some_path
      obtain rfl := List.mem_singleton.mp member
      exact build_greedy_planned anchored built some_path
  · obtain ⟨⟨found, computed⟩, built, h⟩ := bind_ok.mp h
    obtain rfl := pure_ok.mp h
    exact build_ranked_planned built

theorem create_candidate_set_planned {κ : Type} [DecidableEq κ] {source : CostSource n}
    {request : CandidateRequest} {cache cache' : PotentialCache κ p n} {key : Option κ}
    {set : RouteCandidateSet}
    (cached : ∀ k s, key = some k → cache.lookup (request.routingBackend, k) = some s →
      Anchored net s request.destinationNodeId)
    (h : createRouteCandidateSet rust net source request cache key = .ok (set, cache')) :
    ∀ path ∈ set.candidatePaths, Planned net request path := by
  obtain ⟨_, _, h⟩ := bind_ok.mp h
  obtain ⟨⟨potential, after⟩, computed, h⟩ := bind_ok.mp h
  obtain ⟨paths, built, h⟩ := bind_ok.mp h
  obtain ⟨⟨⟨costs, factors⟩, by_⟩, _, h⟩ := bind_ok.mp h
  simp only at h
  split at h
  · obtain ⟨rfl, _⟩ := Prod.mk.inj (pure_ok.mp h)
    exact candidate_paths_planned (compute_potential_anchored cached computed) built
  · cases h

theorem create_candidate_set_of_paths {κ : Type} [DecidableEq κ] {source : CostSource n}
    {request : CandidateRequest} {cache cache' : PotentialCache κ p n} {key : Option κ}
    {paths : List (List ℤ)} {described : (List ℚ × List ℚ) × Computed}
    (some_candidates : ¬ request.maxCandidates < 1)
    (computed : computeDynamicPotentialState rust net request.destinationNodeId source
      request.routingBackend cache key = .ok (potential, cache'))
    (built : candidatePathsFor rust net potential request = .ok paths)
    (metadata : candidatePathMetadata net rust potential.linkTravelTimeCost paths
      request.routingBackend = .ok described)
    (valid : ∀ path ∈ paths, ∀ linkId ∈ path, 0 ≤ linkId) :
    ∃ set, createRouteCandidateSet rust net source request cache key = .ok (set, cache') ∧
      set.candidatePaths = paths := by
  unfold createRouteCandidateSet
  rw [(raise_if_ok (u := ())).mpr some_candidates, computed]
  simp only [bind, Except.bind, built, metadata, dif_pos valid]
  exact ⟨_, rfl, rfl⟩

end Metroflow.Routing
