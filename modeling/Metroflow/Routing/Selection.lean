import Metroflow.Routing.Candidates

namespace Metroflow.Routing

open Metroflow.Lib

/-- The candidate an agent was given, with what its choice was based on. -/
structure SelectedCandidateRoute where
  candidateIndex : ℕ
  candidateId : ℕ
  candidateCount : ℕ
  path : List ℤ
  pathCost : ℚ
  pathSizeFactor : ℚ
  utility : ℚ
  selectionBackend : Computed
  deriving DecidableEq, Repr

section Select

variable (log : ℚ → ℚ)

def candidatePathUtility (cost pathSizeFactor pathSizeGamma : ℚ) : ℚ :=
  -cost + max 0 pathSizeGamma *
    log (if 0 < pathSizeFactor then pathSizeFactor else 1 / 1000000000000)

/-- The order of equally good paths: the lower link id first, then the longer path. -/
def pathTieBreakGreater : List ℤ → List ℤ → Bool
  | a :: candidate, b :: best => if a = b then pathTieBreakGreater candidate best else decide (a < b)
  | [], _ => false
  | _ :: _, [] => true

/-- What the choice between candidates reads. -/
structure CandidateTable where
  candidateIds : List ℕ
  candidatePaths : List (List ℤ)
  costs : List ℚ
  pathSizes : List ℚ
  pathSizeGamma : ℚ

namespace CandidateTable

variable (table : CandidateTable)

def viableIndices : List ℕ :=
  (List.range table.candidatePaths.length).filter fun i => table.candidatePaths.getD i [] ≠ []

def utility (i : ℕ) : ℚ :=
  candidatePathUtility log (table.costs.getD i 0) (table.pathSizes.getD i 1) table.pathSizeGamma

def better (i best : ℕ) : Bool :=
  decide (table.utility log best < table.utility log i) ||
    decide (table.utility log i = table.utility log best) &&
      (decide (table.candidateIds.getD i i < table.candidateIds.getD best best) ||
        decide (table.candidateIds.getD i i = table.candidateIds.getD best best) &&
          pathTieBreakGreater (table.candidatePaths.getD i []) (table.candidatePaths.getD best []))

/-- The best of the viable candidates, the first one when the costs are missing. -/
def selectRouteCandidateIndexHost (first : ℕ) (others : List ℕ) : ℕ × ℚ :=
  if table.candidatePaths.length ≤ table.costs.length then
    let best := others.foldl (fun best i => if table.better log i best then i else best) first
    (best, table.utility log best)
  else (first, 0)

/-- The compiled choice; no viable candidate gives none. -/
def selectRouteCandidateIndexImpl : Except RoutingError (Option (ℕ × ℚ)) := do
  raiseIf (∃ path ∈ table.candidatePaths, ∃ linkId ∈ path, linkId < 0) .rustNegativeLinkId
  match table.viableIndices with
  | [] => return none
  | first :: others => return some (table.selectRouteCandidateIndexHost log first others)

def selectRouteCandidateIndexRust (rust : RustExtension) : Except RoutingError (Option (ℕ × ℚ)) := do
  match ← rust.call .selectIndex (table.selectRouteCandidateIndexImpl log) with
  | none => return none
  | some (i, utility) =>
    raiseIf (i ∉ table.viableIndices) .notViable
    return some (i, utility)

end CandidateTable

/-- The candidate route an agent of the OD pair is given, if there is one. -/
def selectCandidateRoute (rust : RustExtension) (candidateSet : Option RouteCandidateSet)
    (pathSizeGamma : ℚ) (backend : RoutingBackend) :
    Except RoutingError (Option SelectedCandidateRoute) :=
  match candidateSet with
  | none => .ok none
  | some set =>
    let table : CandidateTable :=
      ⟨set.candidateIds, set.candidatePaths, set.candidatePathCosts, set.candidatePathSizeFactors,
        pathSizeGamma⟩
    match table.viableIndices with
    | [] => .ok none
    | first :: others => do
      let (selected, computed) ← dispatch backend rust.routingBackendAvailable
        (table.selectRouteCandidateIndexRust log rust)
        (.ok (some (table.selectRouteCandidateIndexHost log first others)))
      return selected.map fun (i, utility) => {
        candidateIndex := i
        candidateId := set.candidateIds.getD i i
        candidateCount := set.candidatePaths.length
        path := set.candidatePaths.getD i []
        pathCost := set.candidatePathCosts.getD i 0
        pathSizeFactor := set.candidatePathSizeFactors.getD i 1
        utility := utility
        selectionBackend := computed }

theorem best_index_mem {better : ℕ → ℕ → Bool} (others : List ℕ) (first : ℕ) :
    others.foldl (fun best i => if better i best then i else best) first ∈ first :: others := by
  induction others generalizing first with
  | nil => simp
  | cons i others ih =>
    rw [List.foldl_cons]
    split
    · exact List.mem_cons_of_mem first (ih i)
    · rcases List.mem_cons.mp (ih first) with kept | later
      · rw [kept]
        exact List.mem_cons_self
      · exact List.mem_cons_of_mem _ (List.mem_cons_of_mem _ later)

theorem CandidateTable.select_host_mem (table : CandidateTable) (first : ℕ) (others : List ℕ) :
    (table.selectRouteCandidateIndexHost log first others).1 ∈ first :: others := by
  unfold CandidateTable.selectRouteCandidateIndexHost
  split
  · exact best_index_mem others first
  · exact List.mem_cons_self

theorem select_candidate_route_mem {rust : RustExtension} {candidateSet : Option RouteCandidateSet}
    {gamma : ℚ} {backend : RoutingBackend} {selected : SelectedCandidateRoute}
    (h : selectCandidateRoute log rust candidateSet gamma backend = .ok (some selected)) :
    ∃ set, candidateSet = some set ∧ selected.path ∈ set.candidatePaths ∧ selected.path ≠ [] := by
  unfold selectCandidateRoute at h
  split at h
  · cases h
  · rename_i set
    refine ⟨set, rfl, ?_⟩
    simp only at h
    split at h
    · cases h
    · rename_i first others viable
      obtain ⟨⟨found, computed⟩, dispatched, h⟩ := bind_ok.mp h
      obtain ⟨⟨i, utility⟩, rfl, rfl⟩ := Option.map_eq_some_iff.mp (pure_ok.mp h)
      have listed : i ∈ first :: others := by
        rcases dispatch_ok dispatched with compiled | host
        · obtain ⟨result, _, compiled⟩ := bind_ok.mp compiled
          split at compiled
          · cases pure_ok.mp compiled
          · obtain ⟨_, checked, compiled⟩ := bind_ok.mp compiled
            obtain ⟨rfl, rfl⟩ := Prod.mk.inj (Option.some.inj (pure_ok.mp compiled))
            have member := not_not.mp (raise_if_ok.mp checked)
            rw [← viable]
            exact member
        · have same := Option.some.inj (Except.ok.inj host)
          have member := CandidateTable.select_host_mem log
            ⟨set.candidateIds, set.candidatePaths, set.candidatePathCosts,
              set.candidatePathSizeFactors, gamma⟩ first others
          rw [same] at member
          exact member
      rw [← viable] at listed
      simp only [CandidateTable.viableIndices, List.mem_filter, List.mem_range,
        decide_eq_true_eq] at listed
      obtain ⟨bound, nonempty⟩ := listed
      refine ⟨?_, nonempty⟩
      change set.candidatePaths.getD i [] ∈ set.candidatePaths
      rw [List.getD_eq_getElem?_getD, List.getElem?_eq_getElem bound]
      exact List.getElem_mem bound

end Select

end Metroflow.Routing
