import Metroflow.Routing.DynamicPotential

namespace Metroflow.Routing

open Metroflow.Lib Metroflow.City Metroflow.Flow

variable {p n m : ℕ}

/-- Candidate routes for one OD key. -/
structure RouteCandidateSet where
  odKey : ℤ × ℤ
  candidateIds : List ℕ
  candidatePaths : List (List ℤ)
  lastRefreshTick : ℕ
  originNodeId : Option ℤ := none
  destinationNodeId : Option ℤ := none
  candidatePathCosts : List ℚ := []
  candidatePathSizeFactors : List ℚ := []
  same_length : candidateIds.length = candidatePaths.length
  ids_unique : candidateIds.Nodup
  link_ids_nonneg : ∀ path ∈ candidatePaths, ∀ linkId ∈ path, 0 ≤ linkId
  deriving DecidableEq

structure RouteCandidateRefreshPolicy where
  refreshIntervalTicks : ℕ := 8
  forceRefreshOnIncident : Bool := true
  maxCandidates : ℕ := 1
  maxHops : ℕ := 64
  interval_pos : 1 ≤ refreshIntervalTicks
  candidates_pos : 1 ≤ maxCandidates
  hops_pos : 1 ≤ maxHops

def shouldRefreshRouteCandidateSet (candidateSet : Option RouteCandidateSet) (currentTick : ℕ)
    (incidentActive forceRefresh : Bool) (policy : RouteCandidateRefreshPolicy) : Bool :=
  match candidateSet with
  | none => true
  | some existing =>
    if forceRefresh then true
    else if incidentActive && policy.forceRefreshOnIncident then true
    else if currentTick < existing.lastRefreshTick then true
    else decide (policy.refreshIntervalTicks ≤ currentTick - existing.lastRefreshTick)

section Greedy

variable (net : RoadNetworkCSR p n m)

/-- Follows the best next link hop by hop; a dead end or a loop gives no path. -/
def greedyWalk {ι : Type} (next : Fin p → ι → Option (Fin n)) (enter : Fin n → ι)
    (arrived : Fin n → Bool) : ℕ → Fin p → ι → List (Fin p) → List ℤ → List ℤ
  | 0, _, _, _, _ => []
  | hops + 1, node, incoming, visited, path =>
    match next node incoming with
    | none => []
    | some l =>
      if arrived l then path ++ [(net.links l).linkId]
      else if net.linkDstNodeIndex l ∈ visited then []
      else greedyWalk next enter arrived hops (net.linkDstNodeIndex l) (enter l)
        (net.linkDstNodeIndex l :: visited) (path ++ [(net.links l).linkId])

variable (potential : DynamicPotentialState p n)

def buildGreedyRouteCandidateBaseline (origin : Fin p) (incomingLinkId : Option ℤ)
    (hopLimit : ℕ) : List ℤ :=
  greedyWalk net (bestLegalNextLinkIdHost net potential) (fun l => some (net.links l).linkId)
    (fun l => decide ((net.links l).dstNodeId = potential.destinationNodeId))
    hopLimit origin incomingLinkId [origin] []

/-- The compiled successor table: no restriction, or the allowed links, or a
link from which nothing is allowed. -/
def allowedSuccessorsForIncoming (incoming : Option (Fin n)) : Option (Option (List (Fin n))) :=
  match incoming with
  | none => some none
  | some a =>
    if m = 0 then some none
    else if allSuccessors net a = [] then none
    else if allowedSuccessors net a = [] then none
    else some (some (allowedSuccessors net a))

/-- The outgoing links of a node that the compiled successor table keeps. -/
def outgoingAllowed (node : Fin p) (incoming : Option (Fin n)) : List (Fin n) :=
  match allowedSuccessorsForIncoming net incoming with
  | none => []
  | some none => net.outgoingLinkIndices node
  | some (some allowed) => (net.outgoingLinkIndices node).filter (· ∈ allowed)

def bestLegalNextLinkIndexRust (node : Fin p) (incoming : Option (Fin n)) : Option (Fin n) :=
  ((outgoingAllowed net node incoming).foldl (takeBetter net potential) none).map Prod.snd

/-- The checks of the compiled searches that a network's arrays can fail. -/
def validateGreedyRouteInputs (maxHops : ℕ) : Except RoutingError Unit := do
  raiseIf (maxHops = 0) .rustHopLimit
  validateNonNegative potential

def computeGreedyRouteCandidateImpl (origin destination : Fin p) (incoming : Option (Fin n))
    (maxHops : ℕ) : Except RoutingError (List ℤ) := do
  validateGreedyRouteInputs potential maxHops
  return if origin = destination then []
  else greedyWalk net (bestLegalNextLinkIndexRust net potential) some
    (fun l => decide (net.linkDstNodeIndex l = destination)) maxHops origin incoming [origin] []

/-- The incoming link as the compiled module takes it; none when the id is unknown. -/
def resolveIncoming (incomingLinkId : Option ℤ) : Option (Option (Fin n)) :=
  match incomingLinkId with
  | none => some none
  | some linkId => (net.linkIdToIndex linkId).map some

/-- The compiled search on the caller's ids; an unknown incoming link gives no path. -/
def buildGreedyRouteCandidateRust (rust : RustExtension) (origin : Fin p)
    (incomingLinkId : Option ℤ) (hopLimit : ℕ) : Except RoutingError (List ℤ) :=
  match resolveIncoming net incomingLinkId with
  | none => .ok []
  | some incoming =>
    rust.call .greedyCandidate (computeGreedyRouteCandidateImpl net potential origin
      potential.destinationNodeIndex incoming hopLimit)

/-- A deterministic greedy route candidate from dynamic potential scores. -/
def buildGreedyRouteCandidate (rust : RustExtension) (originNodeId : ℤ)
    (incomingLinkId : Option ℤ) (maxHops : ℕ) (backend : RoutingBackend) :
    Except RoutingError (List ℤ) :=
  if originNodeId = potential.destinationNodeId then .ok []
  else
    match net.nodeIdToIndex originNodeId with
    | none => .error (.unknownNode originNodeId)
    | some origin => do
      let (path, _) ← dispatch backend rust.routingBackendAvailable
        (buildGreedyRouteCandidateRust net potential rust origin incomingLinkId (max 1 maxHops))
        (.ok (buildGreedyRouteCandidateBaseline net potential origin incomingLinkId
          (max 1 maxHops)))
      return path

end Greedy

section Ranked

/-- An open route of the ranked search. -/
structure RankedEntry (p : ℕ) (ι : Type) where
  estimatedCost : ℚ
  pathCost : ℚ
  serial : ℕ
  path : List ℤ
  node : Fin p
  lastLink : ι
  visited : List (Fin p)

/-- The order of the search heap; serials tell entries apart. -/
def RankedEntry.before {ι : Type} (a b : RankedEntry p ι) : Bool :=
  decide (a.estimatedCost < b.estimatedCost ∨ a.estimatedCost = b.estimatedCost ∧
    (a.pathCost < b.pathCost ∨ a.pathCost = b.pathCost ∧ a.serial ≤ b.serial))

structure RankedSearch (p : ℕ) (ι : Type) where
  heap : List (RankedEntry p ι)
  serial : ℕ
  paths : List (List ℤ)

variable (net : RoadNetworkCSR p n m) (potential : DynamicPotentialState p n)

/-- What the search expects from a node on; nothing at the destination. -/
def remainingCost (destination : Fin p → Bool) (node : Fin p) : ℚ :=
  if destination node then 0 else potential.nodeCostToGo node

/-- Opens the route that continues an entry by one scored link. -/
def pushContinuation {ι : Type} (enter : Fin n → ι) (destination : Fin p → Bool)
    (entry : RankedEntry p ι) (s : RankedSearch p ι) (scored : ℚ × Fin n) : RankedSearch p ι :=
  let l := scored.2
  let next := net.linkDstNodeIndex l
  let nextPathCost := entry.pathCost + potential.linkTravelTimeCost l
  if next ∈ entry.visited then s
  else if infCost / 2 ≤ potential.linkTravelTimeCost l then s
  else if infCost / 2 ≤ remainingCost potential destination next then s
  else
    { s with
      serial := s.serial + 1
      heap :=
        { estimatedCost := nextPathCost + remainingCost potential destination next
          pathCost := nextPathCost
          serial := s.serial + 1
          path := entry.path ++ [(net.links l).linkId]
          node := next
          lastLink := enter l
          visited := entry.visited ++ [next] } :: s.heap }

/-- One popped entry: a finished route is kept once, an open one is continued. -/
def expandEntry {ι : Type} (score : Fin p → ι → Except RoutingError (List (ℚ × Fin n)))
    (enter : Fin n → ι) (destination : Fin p → Bool) (maxHops : ℕ) (entry : RankedEntry p ι)
    (s : RankedSearch p ι) : Except RoutingError (RankedSearch p ι) :=
  if destination entry.node = true ∧ entry.path ≠ [] then
    if entry.path ∈ s.paths then .ok s
    else .ok { s with paths := s.paths ++ [entry.path] }
  else if maxHops ≤ entry.path.length then .ok s
  else do
    let scored ← score entry.node entry.lastLink
    return scored.foldl (pushContinuation net potential enter destination entry) s

/-- The ranked loopless search; the fuel counts the expansions that are left. -/
def rankedSearch {ι : Type} (score : Fin p → ι → Except RoutingError (List (ℚ × Fin n)))
    (enter : Fin n → ι) (destination : Fin p → Bool) (maxHops maxCandidates : ℕ) :
    ℕ → RankedSearch p ι → Except RoutingError (List (List ℤ))
  | 0, s => .ok s.paths
  | expansions + 1, s =>
    if maxCandidates ≤ s.paths.length then .ok s.paths
    else
      match popMin RankedEntry.before s.heap with
      | none => .ok s.paths
      | some (entry, rest) => do
        let s' ← expandEntry net potential score enter destination maxHops entry
          { s with heap := rest }
        rankedSearch score enter destination maxHops maxCandidates expansions s'

def maxExpansions (n maxCandidates : ℕ) : ℕ := max (maxCandidates * max 16 (n * 4)) 1

/-- The search before its first expansion. -/
def rankedStart {ι : Type} (origin : Fin p) (incoming : ι) : RankedSearch p ι where
  heap := [⟨0, 0, 0, [], origin, incoming, [origin]⟩]
  serial := 0
  paths := []

def buildRankedRouteCandidatePathsHost (rust : RustExtension)
    (originNodeId destinationNodeId : ℤ) (incomingLinkId : Option ℤ) (maxCandidates maxHops : ℕ)
    (backend : RoutingBackend) : Except RoutingError (List (List ℤ)) :=
  if originNodeId = destinationNodeId then .ok []
  -- without a hop to take or a path to find, the origin is never looked up
  else if maxHops = 0 ∨ maxCandidates = 0 then .ok []
  else
    match net.nodeIdToIndex originNodeId with
    | none => .error (.unknownNode originNodeId)
    | some origin =>
      rankedSearch net potential
        (fun node last => scoreLegalNextLinks net potential rust node last backend)
        (fun l => some (net.links l).linkId)
        (fun i => decide ((net.nodes i).nodeId = destinationNodeId)) maxHops maxCandidates
        (maxExpansions n maxCandidates) (rankedStart origin incomingLinkId)

def scoredLegalNextLinkIndices (node : Fin p) (incoming : Option (Fin n)) : List (ℚ × Fin n) :=
  ((outgoingAllowed net node incoming).filterMap fun l =>
    (actionCost net potential l).map (·, l)).insertionSort fun a b => cheaper net a b = true

def computeRankedRouteCandidatesImpl (origin destination : Fin p) (incoming : Option (Fin n))
    (maxHops maxCandidates : ℕ) : Except RoutingError (List (List ℤ)) := do
  raiseIf (maxCandidates = 0) .rustMaxCandidates
  validateGreedyRouteInputs potential maxHops
  if origin = destination then return []
  else
    rankedSearch net potential
      (fun node last => .ok (scoredLegalNextLinkIndices net potential node last)) some
      (fun i => decide (i = destination)) maxHops maxCandidates
      (maxCandidates * max 16 (n * 4)) (rankedStart origin incoming)

def buildRankedRouteCandidatePathsRust (rust : RustExtension)
    (originNodeId destinationNodeId : ℤ) (incomingLinkId : Option ℤ) (maxCandidates maxHops : ℕ) :
    Except RoutingError (List (List ℤ)) :=
  match net.nodeIdToIndex originNodeId, net.nodeIdToIndex destinationNodeId with
  | none, _ => .error (.unknownNode originNodeId)
  | some _, none => .error (.unknownNode destinationNodeId)
  | some origin, some destination =>
    match resolveIncoming net incomingLinkId with
    | none => .ok []
    | some incoming =>
      rust.call .rankedCandidates (computeRankedRouteCandidatesImpl net potential origin
        destination incoming maxHops maxCandidates)

def buildRankedRouteCandidatePaths (rust : RustExtension) (originNodeId destinationNodeId : ℤ)
    (incomingLinkId : Option ℤ) (maxCandidates maxHops : ℕ) (backend : RoutingBackend) :
    Except RoutingError (List (List ℤ) × Computed) :=
  dispatch backend rust.routingBackendAvailable
    (buildRankedRouteCandidatePathsRust net potential rust originNodeId destinationNodeId
      incomingLinkId maxCandidates maxHops)
    (buildRankedRouteCandidatePathsHost net potential rust originNodeId destinationNodeId
      incomingLinkId maxCandidates maxHops backend)

end Ranked

section CandidateMetadata

variable (net : RoadNetworkCSR p n m)

def candidatePathCosts (cost : Fin n → ℚ) (paths : List (List ℤ)) : List ℚ :=
  paths.map fun path => (path.map fun linkId => (net.linkIdToIndex linkId).elim 0 cost).sum

def pathLinkLength (linkId : ℤ) : ℚ :=
  (net.linkIdToIndex linkId).elim 0 fun l => max minLinkCost (net.links l).lengthM

/-- How much of each path is its own: shared links count by their share. -/
def candidatePathSizeFactors (paths : List (List ℤ)) : List ℚ :=
  paths.map fun path =>
    let total := (path.map (pathLinkLength net)).sum
    if total ≤ 0 then 1
    else max (path.map fun linkId => pathLinkLength net linkId / total *
      (1 / ((max (paths.flatten.count linkId) 1 : ℕ) : ℚ))).sum (1 / 1000000000000)

/-- Costs and path-size factors; the compiled form computes the same formulas. -/
def candidatePathMetadata (rust : RustExtension) (cost : Fin n → ℚ) (paths : List (List ℤ))
    (backend : RoutingBackend) : Except RoutingError ((List ℚ × List ℚ) × Computed) :=
  dispatch backend rust.routingBackendAvailable
    (rust.call .candidateMetadata
      (.ok (candidatePathCosts net cost paths, candidatePathSizeFactors net paths)))
    (.ok (candidatePathCosts net cost paths, candidatePathSizeFactors net paths))

end CandidateMetadata

/-- What a candidate set is built for. -/
structure CandidateRequest where
  odKey : ℤ × ℤ
  originNodeId : ℤ
  destinationNodeId : ℤ
  currentTick : ℕ
  incomingLinkId : Option ℤ := none
  maxCandidates : ℕ := 1
  maxHops : ℕ := 64
  routingBackend : RoutingBackend := .baseline
  deriving DecidableEq

section Create

variable {κ : Type} [DecidableEq κ] (rust : RustExtension) (net : RoadNetworkCSR p n m)

def candidatePathsFor (potential : DynamicPotentialState p n) (request : CandidateRequest) :
    Except RoutingError (List (List ℤ)) :=
  if request.maxCandidates = 1 then do
    let path ← buildGreedyRouteCandidate net potential rust request.originNodeId
      request.incomingLinkId request.maxHops request.routingBackend
    return if path = [] then [] else [path]
  else do
    let (paths, _) ← buildRankedRouteCandidatePaths net potential rust request.originNodeId
      request.destinationNodeId request.incomingLinkId request.maxCandidates request.maxHops
      request.routingBackend
    return paths

theorem candidate_ids_length (paths : List (List ℤ)) :
    (List.range paths.length).length = paths.length := List.length_range

theorem candidate_ids_unique (paths : List (List ℤ)) : (List.range paths.length).Nodup :=
  List.nodup_range

def createRouteCandidateSet (source : CostSource n) (request : CandidateRequest)
    (cache : PotentialCache κ p n) (key : Option κ) :
    Except RoutingError (RouteCandidateSet × PotentialCache κ p n) := do
  raiseIf (request.maxCandidates < 1) .maxCandidates
  let (potential, cache') ← computeDynamicPotentialState rust net request.destinationNodeId source
    request.routingBackend cache key
  let paths ← candidatePathsFor rust net potential request
  let ((costs, factors), _) ← candidatePathMetadata net rust potential.linkTravelTimeCost paths
    request.routingBackend
  if valid : ∀ path ∈ paths, ∀ linkId ∈ path, 0 ≤ linkId then
    return ({
      odKey := request.odKey
      candidateIds := List.range paths.length
      candidatePaths := paths
      lastRefreshTick := request.currentTick
      originNodeId := some request.originNodeId
      destinationNodeId := some request.destinationNodeId
      candidatePathCosts := costs
      candidatePathSizeFactors := factors
      same_length := candidate_ids_length paths
      ids_unique := candidate_ids_unique paths
      link_ids_nonneg := valid }, cache')
  else .error .negativeLinkId

/-- An OD candidate set whose endpoints differ from the request's is dropped. -/
def matchingCandidateSet (existing : Option RouteCandidateSet) (request : CandidateRequest) :
    Option RouteCandidateSet :=
  existing.filter fun set =>
    decide (set.odKey = request.odKey ∧
      set.originNodeId.getD request.originNodeId = request.originNodeId ∧
      set.destinationNodeId.getD request.destinationNodeId = request.destinationNodeId)

def refreshOdRouteCandidateSet (existing : Option RouteCandidateSet) (source : CostSource n)
    (request : CandidateRequest) (incidentActive forceRefresh : Bool)
    (policy : RouteCandidateRefreshPolicy) (cache : PotentialCache κ p n) (key : Option κ) :
    Except RoutingError (RouteCandidateSet × PotentialCache κ p n) :=
  match matchingCandidateSet existing request with
  | some set =>
    if shouldRefreshRouteCandidateSet (some set) request.currentTick incidentActive forceRefresh
        policy then
      createRouteCandidateSet rust net source
        { request with maxCandidates := policy.maxCandidates, maxHops := policy.maxHops } cache key
    else .ok (set, cache)
  | none =>
    createRouteCandidateSet rust net source
      { request with maxCandidates := policy.maxCandidates, maxHops := policy.maxHops } cache key

end Create

end Metroflow.Routing
