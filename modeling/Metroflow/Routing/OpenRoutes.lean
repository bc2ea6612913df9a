import Metroflow.Routing.Walks

namespace Metroflow.Routing

open Metroflow.Lib Metroflow.City Metroflow.Flow

variable {p n m : ℕ} {net : RoadNetworkCSR p n m} {potential : DynamicPotentialState p n}
  {rust : RustExtension}

def AllLinks (net : RoadNetworkCSR p n m) (P : Fin n → Prop) (path : List ℤ) : Prop :=
  ∀ linkId ∈ path, ∃ l, P l ∧ linkId = (net.links l).linkId

theorem AllLinks.concat {P : Fin n → Prop} {path : List ℤ} (h : AllLinks net P path) {l : Fin n}
    (last : P l) : AllLinks net P (path ++ [(net.links l).linkId]) := by
  intro linkId listed
  rcases List.mem_append.mp listed with old | new
  · exact h linkId old
  · exact ⟨l, last, List.mem_singleton.mp new⟩

theorem AllLinks.imp {P Q : Fin n → Prop} {path : List ℤ} (h : AllLinks net P path)
    (weaker : ∀ l, P l → Q l) : AllLinks net Q path := by
  intro linkId listed
  obtain ⟨l, fine, same⟩ := h linkId listed
  exact ⟨l, weaker l fine, same⟩

section Search

variable {ι : Type} {P : Fin n → Prop}

theorem greedy_walk_all {next : Fin p → ι → Option (Fin n)} {enter : Fin n → ι}
    {arrived : Fin n → Bool} (chosen : ∀ node last l, next node last = some l → P l) (hops : ℕ)
    (node : Fin p) (last : ι) (visited : List (Fin p)) {path : List ℤ} (h : AllLinks net P path) :
    AllLinks net P (greedyWalk net next enter arrived hops node last visited path) := by
  have none : AllLinks net P [] := fun _ listed => by cases listed
  induction hops generalizing node last visited path with
  | zero => exact none
  | succ hops ih =>
    unfold greedyWalk
    split
    · exact none
    · rename_i l found
      have grown := h.concat (chosen node last l found)
      split
      · exact grown
      · split
        · exact none
        · exact ih _ _ _ grown

theorem ranked_search_all {destination : Fin p → Bool} {enter : Fin n → ι} {origin : Fin p}
    {score : Fin p → ι → Except RoutingError (List (ℚ × Fin n))} {last : ι}
    {maxHops maxCandidates expansions : ℕ} {paths : List (List ℤ)}
    (chosen : ∀ node last links, score node last = .ok links → ∀ scored ∈ links, P scored.2)
    (run : rankedSearch net potential score enter destination maxHops maxCandidates expansions
      (rankedStart origin last) = .ok paths) : ∀ path ∈ paths, AllLinks net P path := by
  refine ranked_search_keeps (R := fun entry => AllLinks net P entry.path) ?_ ?_
    (List.forall_mem_singleton.mpr fun _ none => by cases none) (fun path none => by cases none) run
  · intro entry links route scores scored listed _ _ _ _
    exact route.concat (chosen _ _ links scores scored listed)
  · exact fun entry route _ _ => route

end Search

section Blocked

/-- The links that a potential does not block. -/
def Unblocked (potential : DynamicPotentialState p n) (l : Fin n) : Prop :=
  potential.blockedLinkMask l = false

theorem action_cost_unblocked {l : Fin n} {cost : ℚ} (h : actionCost net potential l = some cost) :
    Unblocked potential l := by
  unfold actionCost at h
  simp only at h
  split at h
  · cases h
  · rename_i unblocked
    simpa [Unblocked] using unblocked

theorem take_better_unblocked {links : List (Fin n)} {best : Option (ℚ × Fin n)}
    {found : ℚ × Fin n} (start : ∀ b, best = some b → Unblocked potential b.2)
    (h : links.foldl (takeBetter net potential) best = some found) : Unblocked potential found.2 := by
  induction links generalizing best with
  | nil => exact start found h
  | cons l links ih =>
    refine ih (fun b kept => ?_) h
    unfold takeBetter at kept
    split at kept
    · exact start b kept
    · rename_i cost
      obtain rfl := Option.some.inj kept
      exact action_cost_unblocked cost
    · rename_i cost
      split at kept
      · obtain rfl := Option.some.inj kept
        exact action_cost_unblocked cost
      · exact start b kept

theorem best_legal_unblocked {node : Fin p} {incomingLinkId : Option ℤ} {l : Fin n}
    (h : bestLegalNextLinkIdHost net potential node incomingLinkId = some l) :
    Unblocked potential l := by
  obtain ⟨found, fold, rfl⟩ := Option.map_eq_some_iff.mp h
  exact take_better_unblocked (fun _ none => by cases none) fold

theorem best_legal_rust_unblocked {node : Fin p} {incoming : Option (Fin n)} {l : Fin n}
    (h : bestLegalNextLinkIndexRust net potential node incoming = some l) :
    Unblocked potential l := by
  obtain ⟨found, fold, rfl⟩ := Option.map_eq_some_iff.mp h
  exact take_better_unblocked (fun _ none => by cases none) fold

theorem scored_legal_rust_unblocked {node : Fin p} {incoming : Option (Fin n)} {scored : ℚ × Fin n}
    (h : scored ∈ scoredLegalNextLinkIndices net potential node incoming) :
    Unblocked potential scored.2 := by
  rw [scoredLegalNextLinkIndices, List.mem_insertionSort, List.mem_filterMap] at h
  obtain ⟨l, _, cost⟩ := h
  obtain ⟨c, found, rfl⟩ := Option.map_eq_some_iff.mp cost
  exact action_cost_unblocked found

theorem zip_map_self {α β : Type*} (f : α → β) (l : List α) {entry : β × α}
    (h : entry ∈ (l.map f).zip l) : entry.1 = f entry.2 := by
  induction l with
  | nil => cases h
  | cons a l ih =>
    rcases List.mem_cons.mp h with rfl | later
    · rfl
    · exact ih later

theorem score_legal_unblocked {node : Fin p} {incomingLinkId : Option ℤ} {backend : RoutingBackend}
    {scored : List (ℚ × Fin n)} {entry : ℚ × Fin n}
    (h : scoreLegalNextLinks net potential rust node incomingLinkId backend = .ok scored)
    (found : entry ∈ scored) : Unblocked potential entry.2 := by
  obtain ⟨⟨costs, by_⟩, computed, h⟩ := bind_ok.mp h
  obtain rfl := pure_ok.mp h
  rw [List.mem_insertionSort, List.mem_filter, decide_eq_true_eq] at found
  obtain ⟨listed, affordable⟩ := found
  by_contra blocked
  have blocked : potential.blockedLinkMask entry.2 = true := Bool.not_eq_false _ ▸ blocked
  have cost : entry.1 = infCost := by
    rcases dispatch_ok computed with compiled | host
    · obtain ⟨_, _, mapped⟩ := bind_ok.mp (RustExtension.call_ok compiled)
      obtain rfl := pure_ok.mp mapped
      rw [zip_map_self _ _ listed]
      simp [blocked]
    · obtain rfl := Except.ok.inj host
      rw [zip_map_self _ _ listed]
      simp [blocked]
  rw [cost] at affordable
  norm_num [infCost] at affordable

end Blocked

section Paths

variable {request : CandidateRequest} {maxHops : ℕ} {backend : RoutingBackend}

theorem build_greedy_unblocked {path : List ℤ}
    (h : buildGreedyRouteCandidate net potential rust request.originNodeId request.incomingLinkId
      maxHops backend = .ok path) : AllLinks net (Unblocked potential) path := by
  have none : AllLinks net (Unblocked potential) [] := fun _ listed => by cases listed
  unfold buildGreedyRouteCandidate at h
  split at h
  · exact Except.ok.inj h ▸ none
  · split at h
    · cases h
    · obtain ⟨⟨found, computed⟩, dispatched, h⟩ := bind_ok.mp h
      obtain rfl := pure_ok.mp h
      rcases dispatch_ok dispatched with compiled | host
      · unfold buildGreedyRouteCandidateRust at compiled
        split at compiled
        · exact Except.ok.inj compiled ▸ none
        · obtain ⟨_, _, walked⟩ := bind_ok.mp (RustExtension.call_ok compiled)
          have walked := pure_ok.mp walked
          split at walked
          · exact walked ▸ none
          · rw [← walked]
            exact greedy_walk_all (fun _ _ _ => best_legal_rust_unblocked) _ _ _ _ none
      · rw [← Except.ok.inj host]
        exact greedy_walk_all (fun _ _ _ => best_legal_unblocked) _ _ _ _ none

theorem build_ranked_unblocked {maxCandidates : ℕ} {paths : List (List ℤ)} {computed : Computed}
    (h : buildRankedRouteCandidatePaths net potential rust request.originNodeId
      request.destinationNodeId request.incomingLinkId maxCandidates maxHops backend =
        .ok (paths, computed)) : ∀ path ∈ paths, AllLinks net (Unblocked potential) path := by
  intro path member
  rcases dispatch_ok h with compiled | host
  · unfold buildRankedRouteCandidatePathsRust at compiled
    split at compiled
    · cases compiled
    · cases compiled
    · split at compiled
      · obtain rfl := Except.ok.inj compiled
        cases member
      · obtain ⟨_, _, checked⟩ := bind_ok.mp (RustExtension.call_ok compiled)
        obtain ⟨_, _, searched⟩ := bind_ok.mp checked
        split at searched
        · obtain rfl := pure_ok.mp searched
          cases member
        · refine ranked_search_all ?_ searched path member
          intro node last links scores scored listed
          obtain rfl := Except.ok.inj scores
          exact scored_legal_rust_unblocked listed
  · unfold buildRankedRouteCandidatePathsHost at host
    split at host
    · obtain rfl := Except.ok.inj host
      cases member
    · split at host
      · obtain rfl := Except.ok.inj host
        cases member
      · split at host
        · cases host
        · refine ranked_search_all ?_ host path member
          exact fun node last links scores scored listed => score_legal_unblocked scores listed

theorem candidate_paths_unblocked {paths : List (List ℤ)}
    (h : candidatePathsFor rust net potential request = .ok paths) :
    ∀ path ∈ paths, AllLinks net (Unblocked potential) path := by
  unfold candidatePathsFor at h
  split at h
  · obtain ⟨path, built, h⟩ := bind_ok.mp h
    obtain rfl := pure_ok.mp h
    intro path' member
    split at member
    · cases member
    · obtain rfl := List.mem_singleton.mp member
      exact build_greedy_unblocked built
  · obtain ⟨⟨found, computed⟩, built, h⟩ := bind_ok.mp h
    obtain rfl := pure_ok.mp h
    exact build_ranked_unblocked built

end Paths

end Metroflow.Routing
