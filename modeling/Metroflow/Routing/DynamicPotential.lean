import Metroflow.City.Graph
import Metroflow.Flow.State
import Metroflow.Lib.Heap
import Metroflow.Routing.Backend

namespace Metroflow.Routing

open Metroflow.Lib Metroflow.City Metroflow.Flow

variable {p n m : ℕ}

/-- The cost that stands for no route. -/
def infCost : ℚ := 1000000000000

def minLinkCost : ℚ := 1 / 1000000

/-- Where the link costs of a potential come from. -/
inductive CostSource (n : ℕ) where
  | linkState (s : LinkState n)
  | travelTimes (cost : Fin n → ℚ)
  | freeFlow

/-- Destination-anchored node cost-to-go field for baseline routing. -/
structure DynamicPotentialState (p n : ℕ) where
  destinationNodeId : ℤ
  destinationNodeIndex : Fin p
  nodeCostToGo : Fin p → ℚ
  linkTravelTimeCost : Fin n → ℚ
  blockedLinkMask : Fin n → Bool
  requested : RoutingBackend
  computed : Computed

/-- The compiled module takes no negative cost. -/
def validateNonNegative (potential : DynamicPotentialState p n) : Except RoutingError Unit := do
  raiseIf (∃ i, potential.nodeCostToGo i < 0) .rustNegativeNodeCost
  raiseIf (∃ l, potential.linkTravelTimeCost l < 0) .rustNegativeLinkCost

def resolveLinkCosts (net : RoadNetworkCSR p n m) : CostSource n → Fin n → ℚ
  | .linkState s => fun l => max (s.travelTimeCost l) minLinkCost
  | .travelTimes cost => fun l => max (cost l) minLinkCost
  | .freeFlow => fun l =>
    max minLinkCost ((net.links l).lengthM / max minLinkCost (net.links l).freeFlowSpeedMps)

def resolveBlockedLinkMask (net : RoadNetworkCSR p n m) : CostSource n → Fin n → Bool
  | .linkState s => fun l =>
    decide (s.capacityVehPerTick l * s.incidentCapacityMultiplier l ≤ 0) &&
      (net.links l).isBlockable
  | _ => fun _ => false

section Dijkstra

structure PotentialSearch (p : ℕ) where
  dist : Fin p → ℚ
  heap : List (ℚ × Fin p)

/-- The order of the search heap: by cost, then by node. -/
def earlier (a b : ℚ × Fin p) : Bool := decide (a.1 < b.1 ∨ a.1 = b.1 ∧ a.2 ≤ b.2)

variable (net : RoadNetworkCSR p n m) (costs : Fin n → ℚ) (blocked : Fin n → Bool)

def relaxIncoming (cost : ℚ) (s : PotentialSearch p) (l : Fin n) : PotentialSearch p :=
  if blocked l then s
  else if cost + costs l < s.dist (net.linkSrcNodeIndex l) then
    { dist := Function.update s.dist (net.linkSrcNodeIndex l) (cost + costs l)
      heap := (cost + costs l, net.linkSrcNodeIndex l) :: s.heap }
  else s

/-- One pass of the search: pop the least entry, skip it when stale. -/
def potentialPass (s : PotentialSearch p) : Option (PotentialSearch p) :=
  match popMin earlier s.heap with
  | none => none
  | some ((cost, node), rest) =>
    if s.dist node < cost then some { s with heap := rest }
    else some ((net.incomingLinkIndices node).foldl (relaxIncoming net costs blocked cost)
      { s with heap := rest })

/-- The search from the destination. Each node is expanded once, so a link
pushes one entry at most and `n + 1` passes empty the heap. -/
def reverseDijkstraNodeCosts (destination : Fin p) : Fin p → ℚ :=
  (loop (potentialPass net costs blocked) (n + 1)
    { dist := fun i => if i = destination then 0 else infCost
      heap := [(0, destination)] }).dist

/-- The compiled search, which bounds the link costs below itself. -/
def computeDynamicPotentialNodeCostsRust (destination : Fin p) : Fin p → ℚ :=
  reverseDijkstraNodeCosts net (fun l => max (costs l) minLinkCost) blocked destination

def computeNodeCostToGo (rust : RustExtension) (destination : Fin p) (backend : RoutingBackend) :
    Except RoutingError ((Fin p → ℚ) × Computed) :=
  dispatch backend rust.routingBackendAvailable
    (rust.call .dynamicPotential
      (.ok (computeDynamicPotentialNodeCostsRust net costs blocked destination)))
    (.ok (reverseDijkstraNodeCosts net costs blocked destination))

end Dijkstra

/-- Cached potentials under the backend and the caller's key. -/
abbrev PotentialCache (κ : Type) (p n : ℕ) :=
  List ((RoutingBackend × κ) × DynamicPotentialState p n)

/-- A congestion-aware cost-to-go field, served from the cache when the caller
gives a key; without a key the cache is left alone. -/
def computeDynamicPotentialState {κ : Type} [DecidableEq κ] (rust : RustExtension)
    (net : RoadNetworkCSR p n m) (destinationNodeId : ℤ) (source : CostSource n)
    (backend : RoutingBackend) (cache : PotentialCache κ p n) (key : Option κ) :
    Except RoutingError (DynamicPotentialState p n × PotentialCache κ p n) :=
  match key.bind fun k => cache.lookup (backend, k) with
  | some cached => .ok (cached, cache)
  | none => do
    match net.nodeIdToIndex destinationNodeId with
    | none => .error (.unknownNode destinationNodeId)
    | some destination =>
      let costs := resolveLinkCosts net source
      let blocked := resolveBlockedLinkMask net source
      let (nodeCost, computed) ← computeNodeCostToGo net costs blocked rust destination backend
      let state : DynamicPotentialState p n := {
        destinationNodeId := destinationNodeId
        destinationNodeIndex := destination
        nodeCostToGo := nodeCost
        linkTravelTimeCost := costs
        blockedLinkMask := blocked
        requested := backend
        computed := computed }
      return (state, match key with
        | none => cache
        | some k => ((backend, k), state) :: cache)

section Legality

variable (net : RoadNetworkCSR p n m)

/-- The links that some turn of the table leads to, forbidden or not. -/
def allSuccessors (incoming : Fin n) : List (Fin n) :=
  (List.finRange n).filter fun l =>
    decide (∃ t, net.turnFromLinkIndex t = incoming ∧ net.turnToLinkIndex t = l)

def allowedSuccessors (incoming : Fin n) : List (Fin n) :=
  (List.finRange n).filter fun l =>
    decide (∃ t, net.turnFromLinkIndex t = incoming ∧ net.turnToLinkIndex t = l ∧
      net.turnIsForbidden t = false)

def filterLegalTurnSuccessors (outgoing : List (Fin n)) (incomingLinkId : Option ℤ) :
    List (Fin n) :=
  match incomingLinkId with
  | none => outgoing
  | some linkId =>
    if outgoing = [] then outgoing
    else if m = 0 then outgoing
    else
      match net.linkIdToIndex linkId with
      | none => []
      | some incoming =>
        if allSuccessors net incoming = [] then []
        else (allowedSuccessors net incoming).filter (· ∈ outgoing)

/-- A link may follow another: the table joins them, or there is no table. -/
def Follows (a b : Fin n) : Prop :=
  m = 0 ∨ ∃ t, net.turnFromLinkIndex t = a ∧ net.turnToLinkIndex t = b ∧
    net.turnIsForbidden t = false

theorem filter_legal_mem {outgoing : List (Fin n)} {incomingLinkId : Option ℤ} {l : Fin n}
    (h : l ∈ filterLegalTurnSuccessors net outgoing incomingLinkId) :
    l ∈ outgoing ∧ ∀ a, incomingLinkId = some (net.links a).linkId → Follows net a l := by
  unfold filterLegalTurnSuccessors at h
  split at h
  · exact ⟨h, fun a same => by cases same⟩
  · rename_i linkId
    split at h
    · rename_i empty
      simp [empty] at h
    · split at h
      · rename_i table
        exact ⟨h, fun _ _ => .inl table⟩
      · split at h
        · simp at h
        · rename_i incoming found
          split at h
          · simp at h
          · simp only [allowedSuccessors, List.mem_filter, List.mem_finRange, true_and,
              decide_eq_true_eq] at h
            refine ⟨h.2, fun a same => .inr ?_⟩
            have known := net.link_id_to_index_some.mp found
            obtain rfl : incoming = a :=
              net.link_ids_unique (known.trans (Option.some.inj same))
            exact h.1

end Legality

section Scoring

variable (net : RoadNetworkCSR p n m) (potential : DynamicPotentialState p n)

def computeNextLinkActionCostsHost (candidates : List (Fin n)) : List ℚ :=
  candidates.map fun l =>
    if potential.blockedLinkMask l = false ∧
        potential.nodeCostToGo (net.linkDstNodeIndex l) < infCost / 2 then
      potential.linkTravelTimeCost l + potential.nodeCostToGo (net.linkDstNodeIndex l)
    else infCost

def computeNextLinkActionCostsRust (candidates : List (Fin n)) : Except RoutingError (List ℚ) := do
  validateNonNegative potential
  return candidates.map fun l =>
    let tail := potential.nodeCostToGo (net.linkDstNodeIndex l)
    let total := potential.linkTravelTimeCost l + tail
    if potential.blockedLinkMask l = true ∨ infCost / 2 ≤ tail then infCost
    else if infCost / 2 ≤ total then infCost
    else total

def computeNextLinkActionCostsForBackend (rust : RustExtension) (candidates : List (Fin n))
    (backend : RoutingBackend) : Except RoutingError (List ℚ × Computed) :=
  dispatch backend rust.routingBackendAvailable
    (rust.call .nextLinkCosts (computeNextLinkActionCostsRust net potential candidates))
    (.ok (computeNextLinkActionCostsHost net potential candidates))

/-- The order of scored links: by cost, then by link id. -/
def cheaper (a b : ℚ × Fin n) : Bool :=
  decide (a.1 < b.1 ∨ a.1 = b.1 ∧ (net.links a.2).linkId ≤ (net.links b.2).linkId)

def scoreLegalNextLinks (rust : RustExtension) (node : Fin p) (incomingLinkId : Option ℤ)
    (backend : RoutingBackend) : Except RoutingError (List (ℚ × Fin n)) := do
  let allowed :=
    filterLegalTurnSuccessors net (net.outgoingLinkIndices node) incomingLinkId
  let (costs, _) ← computeNextLinkActionCostsForBackend net potential rust allowed backend
  return ((costs.zip allowed).filter fun scored => decide (scored.1 < infCost / 2)).insertionSort
    fun a b => cheaper net a b = true

theorem score_legal_mem {rust : RustExtension} {node : Fin p} {incomingLinkId : Option ℤ}
    {backend : RoutingBackend} {scored : List (ℚ × Fin n)} {entry : ℚ × Fin n}
    (h : scoreLegalNextLinks net potential rust node incomingLinkId backend = .ok scored)
    (found : entry ∈ scored) :
    net.linkSrcNodeIndex entry.2 = node ∧
      ∀ a, incomingLinkId = some (net.links a).linkId → Follows net a entry.2 := by
  obtain ⟨⟨costs, _⟩, _, h⟩ := bind_ok.mp h
  obtain rfl := pure_ok.mp h
  rw [List.mem_insertionSort, List.mem_filter] at found
  have legal := filter_legal_mem net (List.of_mem_zip found.1).2
  exact ⟨net.mem_outgoing.mp legal.1, legal.2⟩

/-- The cost of taking a link next; none where it is closed or leads nowhere. -/
def actionCost (l : Fin n) : Option ℚ :=
  let tail := potential.nodeCostToGo (net.linkDstNodeIndex l)
  let total := potential.linkTravelTimeCost l + tail
  if potential.blockedLinkMask l then none
  else if infCost / 2 ≤ tail then none
  else if infCost / 2 ≤ total then none
  else some total

/-- Keeps the cheaper of the best link so far and the next, the lower id on a tie. -/
def takeBetter (best : Option (ℚ × Fin n)) (l : Fin n) : Option (ℚ × Fin n) :=
  match actionCost net potential l, best with
  | none, _ => best
  | some total, none => some (total, l)
  | some total, some (cost, b) =>
    if total < cost ∨ total = cost ∧ (net.links l).linkId < (net.links b).linkId then
      some (total, l)
    else best

def bestLegalNextLinkIdHost (node : Fin p) (incomingLinkId : Option ℤ) : Option (Fin n) :=
  ((filterLegalTurnSuccessors net (net.outgoingLinkIndices node) incomingLinkId).foldl
    (takeBetter net potential) none).map Prod.snd

theorem take_better_mem {links : List (Fin n)} {best : Option (ℚ × Fin n)} {found : ℚ × Fin n}
    (h : links.foldl (takeBetter net potential) best = some found) :
    best = some found ∨ found.2 ∈ links := by
  induction links generalizing best with
  | nil => exact .inl h
  | cons l links ih =>
    rcases ih h with kept | later
    · unfold takeBetter at kept
      split at kept
      · exact .inl kept
      · obtain rfl := Option.some.inj kept
        exact .inr List.mem_cons_self
      · split at kept
        · obtain rfl := Option.some.inj kept
          exact .inr List.mem_cons_self
        · exact .inl kept
    · exact .inr (List.mem_cons_of_mem l later)

theorem best_legal_mem {node : Fin p} {incomingLinkId : Option ℤ} {l : Fin n}
    (h : bestLegalNextLinkIdHost net potential node incomingLinkId = some l) :
    net.linkSrcNodeIndex l = node ∧
      ∀ a, incomingLinkId = some (net.links a).linkId → Follows net a l := by
  obtain ⟨found, fold, rfl⟩ := Option.map_eq_some_iff.mp h
  rcases take_better_mem net potential fold with none | listed
  · cases none
  · have legal := filter_legal_mem net listed
    exact ⟨net.mem_outgoing.mp legal.1, legal.2⟩

end Scoring

end Metroflow.Routing
