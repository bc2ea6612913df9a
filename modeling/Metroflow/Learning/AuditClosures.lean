import Metroflow.Lib.Keyed
import Metroflow.Lib.Sha256
import Metroflow.Routing.CostToGo

namespace Metroflow.Learning.AuditClosures

open Metroflow.Lib Metroflow.City Metroflow.Flow Metroflow.Routing

variable {p n m : ℕ} (net : RoadNetworkCSR p n m)

section Model

/-- One link of an expanded node; `none` where the search returns from within the loop. -/
def scan (destination : Fin p) (closed : Finset (Fin n)) (usable : Fin n → Bool)
    (s : Option (Finset (Fin p) × List (Fin p))) (l : Fin n) :
    Option (Finset (Fin p) × List (Fin p)) :=
  s.bind fun (visited, queue) =>
    if l ∈ closed ∨ usable l = false then some (visited, queue)
    else
      let next := net.linkDstNodeIndex l
      if next = destination then none
      else if next ∉ visited then some (insert next visited, queue ++ [next])
      else some (visited, queue)

def search (destination : Fin p) (closed : Finset (Fin n)) (usable : Fin n → Bool) :
    ℕ → Finset (Fin p) → List (Fin p) → Bool
  | 0, _, _ => false
  | _ + 1, _, [] => false
  | fuel + 1, visited, node :: queue =>
    match (net.outgoingLinkIndices node).foldl (scan net destination closed usable)
        (some (visited, queue)) with
    | none => true
    | some (visited, queue) => search destination closed usable fuel visited queue

def directedPathExists (source destination : Fin p) (closed : Finset (Fin n))
    (usable : Fin n → Bool) : Bool :=
  if source = destination then true
  else search net destination closed usable p {source} [source]

/-- The candidates one after the other, until as many as requested are selected. -/
def selectClosures (requestedCount : ℤ) (usable : Fin n → Bool) :
    Finset (Fin n) → List (Fin n) → Finset (Fin n)
  | selected, [] => selected
  | selected, l :: rest =>
    let proposed := insert l selected
    if directedPathExists net (net.linkSrcNodeIndex l) (net.linkDstNodeIndex l) proposed usable then
      if requestedCount ≤ proposed.card then proposed
      else selectClosures requestedCount usable proposed rest
    else selectClosures requestedCount usable selected rest

def selectReachabilityPreservingClosures (rankedCandidates : List (Fin n)) (requestedCount : ℤ)
    (usable : Fin n → Bool) : List (Fin n) :=
  let selected := selectClosures net requestedCount usable ∅ rankedCandidates
  (List.finRange n).filter (· ∈ selected)

def stableUnitInterval (seed value : ℤ) : ℚ :=
  Sha256.ofBytes ((sha256 (utf8 s!"{seed}:{value}:stress")).take 8).reverse / (2 ^ 64 - 1)

/-- The two states that labels are made for. -/
structure AuditStates (n : ℕ) where
  freeFlow : LinkState n
  stressedClosure : LinkState n

def travel (l : Fin n) : ℚ :=
  max (1 / 1000) ((net.links l).lengthM / max (1 / 1000) (net.links l).freeFlowSpeedMps)

def stressFactor (seed : ℤ) (l : Fin n) : ℚ :=
  5 / 4 + 3 / 4 * stableUnitInterval seed (net.links l).linkId

theorem travel_pos (l : Fin n) : 0 < travel net l := lt_max_of_lt_left (by norm_num)

theorem stress_factor_low (seed : ℤ) (l : Fin n) : 5 / 4 ≤ stressFactor net seed l := by
  have unit : 0 ≤ stableUnitInterval seed (net.links l).linkId :=
    div_nonneg (Nat.cast_nonneg _) (by norm_num)
  unfold stressFactor
  linarith

/-- A state without vehicles. -/
def emptyState (cost : Fin n → ℚ) (positive : ∀ l, 0 < cost l) (multiplier : Fin n → Bool) :
    LinkState n where
  queueVehicles _ := 0
  inflowVehicles _ := 0
  outflowVehicles _ := 0
  travelTimeCost := cost
  capacityVehPerTick l := max 0 (net.links l).capacityVehPerTick
  incidentCapacityMultiplier l := if multiplier l then 1 else 0
  capacityViolationFlags _ := false
  metadata := {}
  queue_nonneg := Flow.none_nonneg
  inflow_nonneg := Flow.none_nonneg
  outflow_nonneg := Flow.none_nonneg
  travel_time_pos := positive
  capacity_nonneg _ := le_max_left _ _
  multiplier_unit l := by split <;> norm_num

def candidates (seed : ℤ) : List (Fin n) :=
  sortOn (fun l => toLex (hexdigest (sha256 (utf8 s!"{seed}:{(net.links l).linkId}")),
      (net.links l).linkId))
    ((List.finRange n).filter fun l =>
      (net.links l).isBlockable && decide (0 < max 0 (net.links l).capacityVehPerTick))

def requestedClosureCount (fraction : ℚ) (count : ℕ) : ℤ := min count (max 1 ⌈count * fraction⌉)

def usableLinkMask (l : Fin n) : Bool := decide (0 < max 0 (net.links l).capacityVehPerTick)

def selectedClosures (seed : ℤ) (fraction : ℚ) : List (Fin n) :=
  let ranked := candidates net seed
  selectReachabilityPreservingClosures net ranked (requestedClosureCount fraction ranked.length)
    (usableLinkMask net)

def buildFeatureAuditLinkStates (seed : ℤ) (closureFraction : ℚ) :
    Except String (AuditStates n) := do
  raiseIf (¬(0 < closureFraction ∧ closureFraction ≤ 1 / 5))
    "closure_fraction must be finite and in (0, 0.2]"
  raiseIf (candidates net seed = [])
    "feature audit requires at least one positive-capacity blockable link"
  let selected := selectedClosures net seed closureFraction
  raiseIf ((selected.length : ℤ) ≠
      requestedClosureCount closureFraction (candidates net seed).length)
    "feature audit could not satisfy the reachability-preserving closure quota"
  return {
    freeFlow := emptyState net (travel net) (travel_pos net) fun _ => true
    stressedClosure := emptyState net (fun l => travel net l * stressFactor net seed l)
      (fun l => mul_pos (travel_pos net l) (by linarith [stress_factor_low net seed l]))
      fun l => decide (l ∉ selected) }

/-- The nodes that `export_cost_to_go_label_records` writes a row of a destination for. -/
def exportedRows (s : LinkState n) (destination : Fin p) : List (Fin p) :=
  (List.finRange p).filter fun node => decide (reverseDijkstraNodeCosts net
    (resolveLinkCosts net (.linkState s)) (resolveBlockedLinkMask net (.linkState s)) destination
    node < infCost * (1 / 2))

end Model

section Search

variable {net} {source destination u v : Fin p} {closed selected : Finset (Fin n)}
  {usable : Fin n → Bool} {visited : Finset (Fin p)} {queue : List (Fin p)} {fuel : ℕ}

def OpenLink (net : RoadNetworkCSR p n m) (closed : Finset (Fin n)) (usable : Fin n → Bool)
    (u v : Fin p) : Prop :=
  ∃ l, net.linkSrcNodeIndex l = u ∧ net.linkDstNodeIndex l = v ∧ l ∉ closed ∧ usable l = true

/-- Joined by a directed path of usable links that are not closed. -/
def Reach (net : RoadNetworkCSR p n m) (closed : Finset (Fin n)) (usable : Fin n → Bool) :
    Fin p → Fin p → Prop :=
  Relation.ReflTransGen (OpenLink net closed usable)

/-- What is visited is reached, and what neither waits nor is being expanded has been expanded; of
a node being expanded the links scanned so far lead to visited nodes. -/
structure Searches (net : RoadNetworkCSR p n m) (source destination : Fin p)
    (closed : Finset (Fin n)) (usable : Fin n → Bool) (busy : List (Fin p)) (done : List (Fin n))
    (visited : Finset (Fin p)) (queue : List (Fin p)) : Prop where
  root : source ∈ visited
  reached : ∀ v ∈ visited, Reach net closed usable source v
  waiting : ∀ v ∈ busy ++ queue, v ∈ visited
  missed : destination ∉ visited
  expanded : ∀ v ∈ visited, v ∉ busy ++ queue → ∀ w, OpenLink net closed usable v w → w ∈ visited
  scanned : ∀ l ∈ done, l ∉ closed → usable l = true → net.linkDstNodeIndex l ∈ visited

theorem Searches.skip {busy : List (Fin p)} {done : List (Fin n)} {l : Fin n}
    (h : Searches net source destination closed usable busy done visited queue)
    (known : l ∉ closed → usable l = true → net.linkDstNodeIndex l ∈ visited) :
    Searches net source destination closed usable busy (done ++ [l]) visited queue :=
  { h with
    scanned := fun k listed opened works => by
      rcases List.mem_append.mp listed with before | last
      · exact h.scanned k before opened works
      · obtain rfl := List.mem_singleton.mp last
        exact known opened works }

theorem Searches.discover {busy : List (Fin p)} {done : List (Fin n)} {l : Fin n}
    (h : Searches net source destination closed usable busy done visited queue)
    (reach : Reach net closed usable source (net.linkDstNodeIndex l))
    (other : net.linkDstNodeIndex l ≠ destination) :
    Searches net source destination closed usable busy (done ++ [l])
      (insert (net.linkDstNodeIndex l) visited) (queue ++ [net.linkDstNodeIndex l]) where
  root := Finset.mem_insert_of_mem h.root
  reached := by
    intro v listed
    rcases Finset.mem_insert.mp listed with rfl | old
    · exact reach
    · exact h.reached v old
  waiting := by
    intro v listed
    rw [← List.append_assoc, List.mem_append, List.mem_singleton] at listed
    rcases listed with old | rfl
    · exact Finset.mem_insert_of_mem (h.waiting v old)
    · exact Finset.mem_insert_self _ _
  missed := by
    intro listed
    rcases Finset.mem_insert.mp listed with same | old
    · exact other same.symm
    · exact h.missed old
  expanded := by
    intro v listed idle w edge
    rw [← List.append_assoc, List.mem_append, List.mem_singleton, not_or] at idle
    have old := (Finset.mem_insert.mp listed).resolve_left idle.2
    exact Finset.mem_insert_of_mem (h.expanded v old idle.1 w edge)
  scanned := by
    intro k listed opened works
    rcases List.mem_append.mp listed with before | last
    · exact Finset.mem_insert_of_mem (h.scanned k before opened works)
    · obtain rfl := List.mem_singleton.mp last
      exact Finset.mem_insert_self _ _

theorem Searches.exhausted
    (h : Searches net source destination closed usable [] [] visited []) :
    ¬ Reach net closed usable source destination := by
  have all : ∀ v, Reach net closed usable source v → v ∈ visited := by
    intro v path
    induction path with
    | refl => exact h.root
    | tail _ edge ih => exact h.expanded _ ih (by simp) _ edge
  exact fun path => h.missed (all destination path)

theorem scan_all {node : Fin p} {done links : List (Fin n)}
    (h : Searches net source destination closed usable [node] done visited queue)
    (out : ∀ l ∈ links, net.linkSrcNodeIndex l = node) :
    match links.foldl (scan net destination closed usable) (some (visited, queue)) with
    | none => Reach net closed usable source destination
    | some (visited', queue') =>
      Searches net source destination closed usable [node] (done ++ links) visited' queue' ∧
        queue'.length + (p - visited'.card) = queue.length + (p - visited.card) := by
  induction links generalizing done visited queue with
  | nil => simpa using h
  | cons l links ih =>
    obtain ⟨from_here, rest⟩ := List.forall_mem_cons.mp out
    rw [List.foldl_cons, List.append_cons]
    by_cases barred : l ∈ closed ∨ usable l = false
    · have kept : scan net destination closed usable (some (visited, queue)) l =
          some (visited, queue) := if_pos barred
      rw [kept]
      refine ih (h.skip fun opened works => ?_) rest
      rcases barred with shut | dead
      · exact absurd shut opened
      · rw [dead] at works
        cases works
    · obtain ⟨opened, works⟩ := not_or.mp barred
      rw [Bool.not_eq_false] at works
      have reach : Reach net closed usable source (net.linkDstNodeIndex l) :=
        (h.reached _ (h.waiting node (by simp))).tail ⟨l, from_here, rfl, opened, works⟩
      by_cases arrived : net.linkDstNodeIndex l = destination
      · have found : scan net destination closed usable (some (visited, queue)) l = none := by
          simp [scan, opened, works, arrived]
        have returned : links.foldl (scan net destination closed usable) none = none := by
          clear ih rest out
          induction links with
          | nil => rfl
          | cons _ _ ih => exact ih
        rw [found, returned]
        exact arrived ▸ reach
      · by_cases known : net.linkDstNodeIndex l ∈ visited
        · have kept : scan net destination closed usable (some (visited, queue)) l =
              some (visited, queue) := by
            simp [scan, opened, works, arrived, known]
          rw [kept]
          exact ih (h.skip fun _ _ => known) rest
        · have grown : scan net destination closed usable (some (visited, queue)) l =
              some (insert (net.linkDstNodeIndex l) visited,
                queue ++ [net.linkDstNodeIndex l]) := by
            simp [scan, opened, works, arrived, known]
          have room : (insert (net.linkDstNodeIndex l) visited).card ≤ p := by
            simpa using Finset.card_le_univ (insert (net.linkDstNodeIndex l) visited)
          have size : (queue ++ [net.linkDstNodeIndex l]).length +
              (p - (insert (net.linkDstNodeIndex l) visited).card) =
              queue.length + (p - visited.card) := by
            rw [Finset.card_insert_of_notMem known] at room ⊢
            rw [List.length_append, List.length_singleton]
            omega
          rw [grown, ← size]
          exact ih (h.discover reach arrived) rest

theorem search_iff (h : Searches net source destination closed usable [] [] visited queue)
    (enough : queue.length + (p - visited.card) ≤ fuel) :
    search net destination closed usable fuel visited queue = true ↔
      Reach net closed usable source destination := by
  induction fuel generalizing visited queue with
  | zero =>
    obtain rfl := List.length_eq_zero_iff.mp (show queue.length = 0 by omega)
    exact iff_of_false (by simp [search]) h.exhausted
  | succ fuel ih =>
    cases queue with
    | nil => exact iff_of_false (by simp [search]) h.exhausted
    | cons node queue =>
      unfold search
      have init : Searches net source destination closed usable [node] [] visited queue :=
        ⟨h.root, h.reached, h.waiting, h.missed, h.expanded, h.scanned⟩
      have leaves : ∀ l ∈ net.outgoingLinkIndices node, net.linkSrcNodeIndex l = node :=
        fun l listed => (net.mem_outgoing).mp listed
      have scanned := scan_all init leaves
      split
      · rename_i found
        rw [found] at scanned
        exact iff_of_true rfl scanned
      · rename_i visited' queue' found
        rw [found, List.nil_append] at scanned
        obtain ⟨scanned, size⟩ := scanned
        rw [List.length_cons] at enough
        refine ih ⟨scanned.root, scanned.reached, fun v listed => scanned.waiting v ?_,
          scanned.missed, fun v listed idle w edge => ?_, by simp⟩ (by omega)
        · exact List.mem_append_right _ listed
        · by_cases same : v = node
          · obtain ⟨l, out, rfl, opened, works⟩ := edge
            refine scanned.scanned l ?_ opened works
            simp [RoadNetworkCSR.outgoingLinkIndices, out, same]
          · refine scanned.expanded v listed ?_ w edge
            simpa [same] using idle

theorem path_exists_iff : directedPathExists net source destination closed usable = true ↔
    Reach net closed usable source destination := by
  unfold directedPathExists
  split
  · rename_i same
    subst same
    exact iff_of_true rfl .refl
  · rename_i apart
    refine search_iff ⟨by simp, ?_, by simp, by simpa using Ne.symm apart, ?_, by simp⟩ ?_
    · intro v listed
      obtain rfl := Finset.mem_singleton.mp listed
      exact .refl
    · intro v listed idle
      exact absurd (by simpa using listed) (by simpa using idle)
    · have := source.pos
      rw [List.length_singleton, Finset.card_singleton]
      omega

end Search

section Selection

variable {net} {usable : Fin n → Bool} {closed closed' selected : Finset (Fin n)} {l : Fin n}
  {requestedCount : ℤ} {u v : Fin p} {ranked : List (Fin n)}

theorem Reach.mono (less : closed ⊆ closed') (h : Reach net closed' usable u v) :
    Reach net closed usable u v := by
  refine Relation.ReflTransGen.mono (fun u v edge => ?_) _ _ h
  obtain ⟨l, out, into, opened, works⟩ := edge
  exact ⟨l, out, into, fun shut => opened (less shut), works⟩

/-- Closing the links costs no pair of nodes its connection. -/
def Preserves (net : RoadNetworkCSR p n m) (usable : Fin n → Bool) (closed : Finset (Fin n)) :
    Prop :=
  ∀ u v, Reach net ∅ usable u v → Reach net closed usable u v

theorem Preserves.close (h : Preserves net usable selected)
    (around : Reach net (insert l selected) usable (net.linkSrcNodeIndex l)
      (net.linkDstNodeIndex l)) : Preserves net usable (insert l selected) := by
  intro u v path
  have open_before := h u v path
  induction open_before with
  | refl => exact .refl
  | @tail w x first edge ih =>
    have start : Reach net ∅ usable u w := Reach.mono (Finset.empty_subset _) first
    refine (ih start).trans ?_
    obtain ⟨k, rfl, rfl, opened, works⟩ := edge
    by_cases same : k = l
    · exact same ▸ around
    · exact .single ⟨k, rfl, rfl, by simp [same, opened], works⟩

/-- What the selection has done with its first candidates. -/
structure Selects (net : RoadNetworkCSR p n m) (usable : Fin n → Bool) (requestedCount : ℤ)
    (ranked : List (Fin n)) (selected : Finset (Fin n)) : Prop where
  candidates : ∀ l ∈ selected, l ∈ ranked
  few : (selected.card : ℤ) ≤ max 1 requestedCount
  preserves : Preserves net usable selected
  full : (selected.card : ℤ) < requestedCount → ∀ l ∈ ranked, l ∉ selected → usable l = true →
    ¬ Preserves net usable (insert l selected)

theorem select_closures {done rest : List (Fin n)}
    (h : Selects net usable requestedCount done selected)
    (goes_on : selected = ∅ ∨ (selected.card : ℤ) < requestedCount) :
    Selects net usable requestedCount (done ++ rest)
      (selectClosures net requestedCount usable selected rest) := by
  induction rest generalizing done selected with
  | nil => simpa [selectClosures] using h
  | cons l rest ih =>
    unfold selectClosures
    dsimp only
    split
    · rename_i around
      have preserves := h.preserves.close (path_exists_iff.mp around)
      have member : ∀ k ∈ insert l selected, k ∈ done ++ [l] := by
        intro k listed
        rcases Finset.mem_insert.mp listed with rfl | old
        · simp
        · exact List.mem_append_left _ (h.candidates k old)
      have size : ((insert l selected).card : ℤ) ≤ selected.card + 1 := by
        exact_mod_cast Finset.card_insert_le l selected
      have few : ((insert l selected).card : ℤ) ≤ max 1 requestedCount := by
        rcases goes_on with rfl | less
        · rw [Finset.card_empty] at size
          exact size.trans (le_max_left _ _)
        · exact (size.trans less).trans (le_max_right _ _)
      split
      · rename_i enough
        refine ⟨fun k listed => ?_, few, preserves, fun less => absurd enough (not_le.mpr less)⟩
        have := member k listed
        rw [List.mem_append, List.mem_singleton] at this
        simp only [List.mem_append, List.mem_cons]
        tauto
      · rename_i more
        rw [List.append_cons]
        refine ih ⟨member, few, preserves, fun less k listed apart works => ?_⟩
          (.inr (not_le.mp more))
        rw [Finset.mem_insert, not_or] at apart
        rcases List.mem_append.mp listed with old | last
        · have before : (selected.card : ℤ) < requestedCount :=
            (Int.ofNat_le.mpr (Finset.card_le_card (Finset.subset_insert l selected))).trans_lt less
          refine fun kept => h.full before k old apart.2 works fun a b path => ?_
          exact (kept a b path).mono (Finset.insert_subset_insert k (Finset.subset_insert l _))
        · exact absurd (List.mem_singleton.mp last) apart.1
    · rename_i blocked
      rw [List.append_cons]
      refine ih ⟨fun k listed => List.mem_append_left _ (h.candidates k listed), h.few,
        h.preserves, fun less k listed apart works => ?_⟩ goes_on
      rcases List.mem_append.mp listed with old | last
      · exact h.full less k old apart works
      · obtain rfl := List.mem_singleton.mp last
        refine fun kept => blocked (path_exists_iff.mpr (kept _ _ ?_))
        exact .single ⟨k, rfl, rfl, Finset.notMem_empty k, works⟩

theorem selection_selects (net : RoadNetworkCSR p n m) (ranked : List (Fin n)) (requestedCount : ℤ)
    (usable : Fin n → Bool) : Selects net usable requestedCount ranked
      (selectReachabilityPreservingClosures net ranked requestedCount usable).toFinset := by
  have same : (selectReachabilityPreservingClosures net ranked requestedCount usable).toFinset =
      selectClosures net requestedCount usable ∅ ranked := by
    unfold selectReachabilityPreservingClosures
    ext l
    simp
  rw [same]
  have none_yet : Selects net usable requestedCount [] ∅ :=
    ⟨by simp, (Int.zero_le_ofNat 1).trans (le_max_left _ _), fun _ _ path => path, by simp⟩
  exact select_closures none_yet (.inl rfl)

end Selection

section States

variable {net} {usable : Fin n → Bool} {closed : Finset (Fin n)} {seed : ℤ} {fraction : ℚ}
  {states : AuditStates n} {u v destination : Fin p} {ls : List (Fin n)}

/-- What the potential of a state follows, and what it does not. -/
def blockedIn (net : RoadNetworkCSR p n m) (s : LinkState n) : Fin n → Bool :=
  resolveBlockedLinkMask net (.linkState s)

def costIn (net : RoadNetworkCSR p n m) (s : LinkState n) : Fin n → ℚ :=
  resolveLinkCosts net (.linkState s)

/-- The destination can be reached from a node over the links that are open in a state. -/
def Reachable (net : RoadNetworkCSR p n m) (s : LinkState n) (v destination : Fin p) : Prop :=
  ∃ ls, LinkPath net (blockedIn net s) destination v ls

theorem cost_in_nonneg (s : LinkState n) (l : Fin n) : 0 ≤ costIn net s l :=
  (s.travel_time_pos l).le.trans (le_max_left _ _)

theorem mem_exported {s : LinkState n} : v ∈ exportedRows net s destination ↔
    ∃ ls, LinkPath net (blockedIn net s) destination v ls ∧
      pathCost (costIn net s) ls < infCost * (1 / 2) := by
  have search : CostToGo net (costIn net s) (blockedIn net s) destination
      (reverseDijkstraNodeCosts net (costIn net s) (blockedIn net s) destination) :=
    reverse_dijkstra_cost_to_go (cost_in_nonneg s)
  unfold exportedRows
  rw [List.mem_filter, decide_eq_true_eq]
  constructor
  · rintro ⟨-, low⟩
    obtain cut | ⟨ls, path, cost⟩ := search.attained v
    · refine absurd (cut ▸ low) (not_lt.mpr ?_)
      unfold infCost
      norm_num
    · exact ⟨ls, path, cost ▸ low⟩
  · rintro ⟨ls, path, low⟩
    exact ⟨List.mem_finRange v, (search.least v ls path).trans_lt low⟩

theorem LinkPath.ne_nil {blocked : Fin n → Bool} (apart : v ≠ destination)
    (path : LinkPath net blocked destination v ls) : ls ≠ [] := by
  rintro rfl
  cases path
  exact apart rfl

theorem LinkPath.of_reach {blocked : Fin n → Bool} (reach : Reach net closed usable u v)
    (opens : ∀ l, l ∉ closed → usable l = true → blocked l = false)
    (rest : LinkPath net blocked destination v ls) :
    ∃ ls, LinkPath net blocked destination u ls := by
  induction reach using Relation.ReflTransGen.head_induction_on with
  | refl => exact ⟨ls, rest⟩
  | head edge _ ih =>
    obtain ⟨l, rfl, rfl, opened, works⟩ := edge
    obtain ⟨ls, path⟩ := ih
    exact ⟨l :: ls, .take (opens l opened works) path⟩

theorem build_states (built : buildFeatureAuditLinkStates net seed fraction = .ok states) :
    states.freeFlow = emptyState net (travel net) (travel_pos net) (fun _ => true) ∧
      (∀ l, states.stressedClosure.travelTimeCost l = travel net l * stressFactor net seed l) ∧
      (∀ l, blockedIn net states.stressedClosure l = ((net.links l).isBlockable &&
        (!usableLinkMask net l || decide (l ∈ selectedClosures net seed fraction)))) := by
  unfold buildFeatureAuditLinkStates at built
  simp only [bind_ok, raise_if_ok, pure_ok] at built
  obtain ⟨_, -, _, -, _, -, rfl⟩ := built
  refine ⟨rfl, fun _ => rfl, fun l => ?_⟩
  unfold blockedIn resolveBlockedLinkMask emptyState usableLinkMask
  by_cases chosen : l ∈ selectedClosures net seed fraction
  · simp [chosen]
  · simp [chosen, Bool.and_comm, ← decide_not]

theorem stressed_reachable (built : buildFeatureAuditLinkStates net seed fraction = .ok states)
    (path : LinkPath net (blockedIn net states.freeFlow) destination v ls) :
    Reachable net states.stressedClosure v destination := by
  obtain ⟨free, -, blocked⟩ := build_states built
  have selection := selection_selects net (candidates net seed)
    (requestedClosureCount fraction (candidates net seed).length) (usableLinkMask net)
  induction path with
  | arrived => exact ⟨[], .arrived⟩
  | @take l ls isOpen _ ih =>
    obtain ⟨ls', path⟩ := ih
    by_cases stays : blockedIn net states.stressedClosure l = false
    · exact ⟨l :: ls', .take stays path⟩
    · have free_link : usableLinkMask net l = true ∨ (net.links l).isBlockable = false := by
        rw [free] at isOpen
        unfold blockedIn resolveBlockedLinkMask emptyState at isOpen
        unfold usableLinkMask
        simp only [if_true, mul_one, Bool.and_eq_false_iff, decide_eq_false_iff_not, not_le]
          at isOpen
        exact isOpen.imp_left decide_eq_true
      rw [blocked] at stays
      have works : usableLinkMask net l = true := by grind
      have kept := selection.preserves _ _
        (.single ⟨l, rfl, rfl, Finset.notMem_empty l, works⟩)
      refine LinkPath.of_reach kept (fun k opened usable => ?_) path
      have out : k ∉ selectedClosures net seed fraction := mt List.mem_toFinset.mpr opened
      rw [blocked, usable, decide_eq_false out, Bool.not_true, Bool.or_false, Bool.and_false]

end States

/-- Closures keep every node connected to what it was connected to, and no more candidates can be
closed; a label row is only lost where all ways left cost as much as the labels' bound. -/
theorem closures_preserve_reachability :
    (∀ (p n m : ℕ) (net : RoadNetworkCSR p n m) (ranked : List (Fin n)) (requestedCount : ℤ)
      (usable : Fin n → Bool),
      (selectReachabilityPreservingClosures net ranked requestedCount usable).Nodup ∧
      Selects net usable requestedCount ranked
        (selectReachabilityPreservingClosures net ranked requestedCount usable).toFinset) ∧
    ∀ (p n m : ℕ) (net : RoadNetworkCSR p n m) (seed : ℤ) (fraction : ℚ) (states : AuditStates n),
      buildFeatureAuditLinkStates net seed fraction = .ok states → ∀ v destination,
      (Reachable net states.freeFlow v destination →
        Reachable net states.stressedClosure v destination) ∧
      (v ∈ exportedRows net states.freeFlow destination →
        (v ∈ exportedRows net states.stressedClosure destination ↔
          ∃ ls, LinkPath net (blockedIn net states.stressedClosure) destination v ls ∧
            pathCost (costIn net states.stressedClosure) ls < infCost * (1 / 2)) ∧
        Reachable net states.stressedClosure v destination) := by
  constructor
  · intro p n m net ranked requestedCount usable
    exact ⟨(List.nodup_finRange n).filter _, selection_selects net ranked requestedCount usable⟩
  · intro p n m net seed fraction states built v destination
    refine ⟨fun ⟨ls, path⟩ => stressed_reachable built path, fun row => ⟨mem_exported, ?_⟩⟩
    obtain ⟨ls, path, -⟩ := mem_exported.mp row
    exact stressed_reachable built path

/-- Two roads between the same nodes, as long as labels allow. -/
def farTwins : RoadNetworkCSR 2 2 0 where
  nodes := ![⟨1⟩, ⟨2⟩]
  links := fun l => {
    linkId := l, srcNodeId := 1, dstNodeId := 2, lengthM := 450000000000, freeFlowSpeedMps := 1,
    capacityVehPerTick := 1, ends_differ := Lib.ids_one_two, length_pos := by norm_num,
    speed_pos := by norm_num, capacity_nonneg := Lib.one_nonneg, lanes_pos := Lib.one_lane }
  turns := Fin.elim0
  linkSrcNodeIndex := ![0, 0]
  linkDstNodeIndex := ![1, 1]
  turnFromLinkIndex := Fin.elim0
  turnToLinkIndex := Fin.elim0
  node_ids_unique := City.two_nodes_unique
  link_ids_unique := by decide
  src_node := by decide
  dst_node := by decide
  from_link := by decide
  to_link := by decide
  turn_adjacent := by decide
  legal_pairs_unique := City.no_turns_unique
  crossing_links := by simp

theorem far_twins_built :
    ∃ states, buildFeatureAuditLinkStates farTwins 0 (1 / 10) = .ok states := by
  have ranked : candidates farTwins 0 = [0, 1] ∨ candidates farTwins 0 = [1, 0] := by
    refine List.perm_pair.mp (sort_on_perm.trans (List.Perm.of_eq ?_))
    decide +kernel
  unfold buildFeatureAuditLinkStates selectedClosures
  rcases ranked with order | order
  all_goals
    simp only [order, bind_ok, raise_if_ok, exists_and_left, exists_const, pure_ok, exists_eq']
    decide +kernel

/-- The stressed cost of the far roads is above the bound of the labels. -/
theorem far_row_lost : ∃ states, buildFeatureAuditLinkStates farTwins 0 (1 / 10) = .ok states ∧
    0 ∈ exportedRows farTwins states.freeFlow 1 ∧
    0 ∉ exportedRows farTwins states.stressedClosure 1 := by
  obtain ⟨states, built⟩ := far_twins_built
  obtain ⟨free, stressed, -⟩ := build_states built
  have far : ∀ l, travel farTwins l = 450000000000 := by decide +kernel
  refine ⟨states, built, mem_exported.mpr ⟨[0], ?_, ?_⟩, fun row => ?_⟩
  · rw [free]
    exact LinkPath.take (l := 0) (by decide +kernel) .arrived
  · rw [free]
    decide +kernel
  · obtain ⟨ls, path, cheap⟩ := mem_exported.mp row
    cases ls with
    | nil => exact absurd rfl (LinkPath.ne_nil (by decide) path)
    | cons l ls =>
      have rest : 0 ≤ pathCost (costIn farTwins states.stressedClosure) ls :=
        List.sum_nonneg (by
          intro cost listed
          obtain ⟨k, -, rfl⟩ := List.mem_map.mp listed
          exact cost_in_nonneg _ k)
      have here : 562500000000 ≤ costIn farTwins states.stressedClosure l := by
        refine le_trans ?_ (le_max_left _ _)
        rw [stressed, far]
        linarith [stress_factor_low farTwins 0 l]
      have total : pathCost (costIn farTwins states.stressedClosure) (l :: ls) =
          costIn farTwins states.stressedClosure l +
            pathCost (costIn farTwins states.stressedClosure) ls := by simp [pathCost]
      unfold infCost at cheap
      linarith

theorem far_twins_reachable : ∃ states,
    buildFeatureAuditLinkStates farTwins 0 (1 / 10) = .ok states ∧
      Reachable farTwins states.stressedClosure 0 1 := by
  obtain ⟨states, built⟩ := far_twins_built
  refine ⟨states, built, (closures_preserve_reachability.2 2 2 0 farTwins 0 (1 / 10) states built
    0 1).1 ⟨[0], ?_⟩⟩
  rw [(build_states built).1]
  exact LinkPath.take (l := 0) (by decide +kernel) .arrived

end Metroflow.Learning.AuditClosures
