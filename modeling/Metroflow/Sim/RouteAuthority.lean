import Metroflow.Sim.State

namespace Metroflow.Sim

open Metroflow.Lib Metroflow.City Metroflow.Flow

variable {p n m cap : ℕ} (net : RoadNetworkCSR p n m)

/-- The turn of a pair of link ids, in one turn table. -/
abbrev TurnLookup (m : ℕ) := ℤ → ℤ → Option (Fin m)

/-- The turns of the node state between two links, by the link ids. -/
def nodeTurnLookup (node : NodeState n m) (forbidden : Fin m → Bool) : TurnLookup m := fun a b =>
  (List.finRange m).find? fun t =>
    !forbidden t && decide ((net.links (node.turnFromLinkIndex t)).linkId = a) &&
      decide ((net.links (node.turnToLinkIndex t)).linkId = b)

def readTurnIsForbidden (node : NodeState n m) : Except SimError (Fin m → Bool) :=
  match node.metadata.turnIsForbidden with
  | none => .ok fun _ => false
  | some stored =>
    match stored.broadcast m with
    | none => .error .turnIsForbiddenShape
    | some forbidden => .ok forbidden

/-- The network's own lookup while the node state has the network's turn table,
else one rebuilt from the node state. -/
def runtimeTurnIndexLookup (node : NodeState n m) : Except SimError (TurnLookup m) := do
  let forbidden ← readTurnIsForbidden node
  if node.turnFromLinkIndex = net.turnFromLinkIndex ∧
      node.turnToLinkIndex = net.turnToLinkIndex ∧ forbidden = net.turnIsForbidden then
    return net.turnPairToIndex
  else
    raiseIf (∃ s t, s < t ∧ forbidden s = false ∧ forbidden t = false ∧
      node.turnFromLinkIndex s = node.turnFromLinkIndex t ∧
      node.turnToLinkIndex s = node.turnToLinkIndex t) .duplicateRuntimeTurn
    return nodeTurnLookup net node forbidden

theorem runtime_lookup_joins {node : NodeState n m} {lookup : TurnLookup m} {a b : ℤ} {t : Fin m}
    (h : runtimeTurnIndexLookup net node = .ok lookup) (found : lookup a b = some t) :
    (net.links (node.turnFromLinkIndex t)).linkId = a ∧
      (net.links (node.turnToLinkIndex t)).linkId = b := by
  obtain ⟨forbidden, _, h⟩ := bind_ok.mp h
  split at h
  · rename_i same
    obtain rfl := pure_ok.mp h
    obtain ⟨_, leaves, enters⟩ := net.turn_pair_to_index_some found
    rw [same.1, same.2.1, net.from_link, net.to_link]
    exact ⟨leaves, enters⟩
  · obtain ⟨_, _, h⟩ := bind_ok.mp h
    obtain rfl := pure_ok.mp h
    have joins := List.find?_some found
    simp only [Bool.and_eq_true, decide_eq_true_eq] at joins
    exact ⟨joins.1.2, joins.2⟩

theorem runtime_lookup_congr {node node' : NodeState n m}
    (from_links : node'.turnFromLinkIndex = node.turnFromLinkIndex)
    (to_links : node'.turnToLinkIndex = node.turnToLinkIndex)
    (forbidden : node'.metadata.turnIsForbidden = node.metadata.turnIsForbidden) :
    runtimeTurnIndexLookup net node' = runtimeTurnIndexLookup net node := by
  have read : readTurnIsForbidden node' = readTurnIsForbidden node := by
    simp only [readTurnIsForbidden, forbidden]
  have turns : nodeTurnLookup net node' = nodeTurnLookup net node := by
    funext forbidden a b
    simp only [nodeTurnLookup, from_links, to_links]
  simp only [runtimeTurnIndexLookup, read, from_links, to_links, turns]

/-- The first pair of consecutive links that no turn joins. -/
def firstIllegalTurn (lookup : TurnLookup m) : List ℤ → Option (ℤ × ℤ)
  | a :: b :: rest =>
    if lookup a b = none then some (a, b) else firstIllegalTurn lookup (b :: rest)
  | _ => none

/-- Checks that a route is known, ends at its destination and only makes legal turns. -/
def validateRoutePathAuthority (lookup : TurnLookup m) (path : List ℤ) (destinationNodeId : ℤ)
    (context : RouteContext) : Except SimError Unit :=
  match path.getLast? with
  | none => .error (.route context .empty)
  | some finalLinkId =>
    match path.find? fun linkId => net.linkIdToIndex linkId = none with
    | some linkId => .error (.route context (.unknownLink linkId))
    | none =>
      match net.linkIdToIndex finalLinkId with
      | none => .error (.route context (.unknownLink finalLinkId))
      | some final =>
        if (net.links final).dstNodeId ≠ destinationNodeId then
          .error (.route context
            (.wrongDestination finalLinkId (net.links final).dstNodeId destinationNodeId))
        else
          match firstIllegalTurn lookup path with
          | some (a, b) => .error (.route context (.illegalTurn a b))
          | none => .ok ()

/-- A route that the authority accepts. -/
structure LegalRoute (lookup : TurnLookup m) (path : List ℤ) (destinationNodeId : ℤ) : Prop where
  known : ∀ linkId ∈ path, ∃ l, net.linkIdToIndex linkId = some l
  final : ∃ l, path.getLast? = some (net.links l).linkId ∧
    (net.links l).dstNodeId = destinationNodeId
  turns : path.IsChain fun a b => lookup a b ≠ none

theorem first_illegal_turn_none {lookup : TurnLookup m} {path : List ℤ} :
    firstIllegalTurn lookup path = none ↔ path.IsChain fun a b => lookup a b ≠ none := by
  induction path with
  | nil => simp [firstIllegalTurn]
  | cons a rest ih =>
    cases rest with
    | nil => simp [firstIllegalTurn]
    | cons b rest =>
      rw [List.isChain_cons_cons, ← ih, firstIllegalTurn]
      split
      · simp_all
      · simp_all

theorem validate_route_ok {lookup : TurnLookup m} {path : List ℤ} {destinationNodeId : ℤ}
    {context : RouteContext} :
    validateRoutePathAuthority net lookup path destinationNodeId context = .ok () ↔
      LegalRoute net lookup path destinationNodeId := by
  unfold validateRoutePathAuthority
  constructor
  · intro h
    split at h
    · cases h
    · rename_i finalLinkId last
      split at h
      · cases h
      · rename_i unknown
        split at h
        · cases h
        · rename_i final found
          split at h
          · cases h
          · rename_i arrives
            split at h
            · cases h
            · rename_i legal
              refine ⟨?_, ⟨final, ?_, not_not.mp arrives⟩, first_illegal_turn_none.mp legal⟩
              · intro linkId listed
                have := List.find?_eq_none.mp unknown linkId listed
                simpa [Option.ne_none_iff_exists'] using this
              · rw [net.link_id_to_index_some.mp found]
                exact last
  · rintro ⟨known, ⟨final, last, arrives⟩, turns⟩
    have listed : path.find? (fun linkId => net.linkIdToIndex linkId = none) = none := by
      rw [List.find?_eq_none]
      intro linkId member
      obtain ⟨l, found⟩ := known linkId member
      simp [found]
    simp [last, listed, net.link_id_to_index_self, arrives, first_illegal_turn_none.mpr turns]

theorem validate_route_error {lookup : TurnLookup m} {path : List ℤ} {destinationNodeId : ℤ}
    {context : RouteContext} {e : SimError}
    (h : validateRoutePathAuthority net lookup path destinationNodeId context = .error e) :
    ∃ fault, e = .route context fault := by
  unfold validateRoutePathAuthority at h
  split at h
  · exact ⟨_, (Except.error.inj h).symm⟩
  · split at h
    · exact ⟨_, (Except.error.inj h).symm⟩
    · split at h
      · exact ⟨_, (Except.error.inj h).symm⟩
      · split at h
        · exact ⟨_, (Except.error.inj h).symm⟩
        · split at h
          · exact ⟨_, (Except.error.inj h).symm⟩
          · cases h

/-- What an agent asks of the flow update at a place on its route. -/
inductive RouteIntent (n m : ℕ) where
  | turn (t : Fin m)
  | sink (l : Fin n)
  | missing (toLinkId : ℤ)
  | invalidSink (actualDestination : ℤ)

/-- The move that a route asks for at a pointer: its next turn, or its sink. -/
def routeIntent (lookup : TurnLookup m) (path : List ℤ) (ptr : ℕ) (currentLinkId destNodeId : ℤ) :
    RouteIntent n m :=
  if ptr + 1 = path.length then
    match net.linkIdToIndex currentLinkId with
    | none => .missing (-1)
    | some l =>
      if (net.links l).dstNodeId ≠ destNodeId then .invalidSink (net.links l).dstNodeId
      else .sink l
  else
    match lookup currentLinkId (path.getD (ptr + 1) (-1)) with
    | none => .missing (path.getD (ptr + 1) (-1))
    | some t => .turn t

theorem LegalRoute.intent {lookup : TurnLookup m} {path : List ℤ} {destNodeId : ℤ}
    (h : LegalRoute net lookup path destNodeId) {ptr : ℕ} {currentLinkId : ℤ}
    (here : path[ptr]? = some currentLinkId) :
    (∃ l, ptr + 1 = path.length ∧ net.linkIdToIndex currentLinkId = some l ∧
        (net.links l).dstNodeId = destNodeId ∧
        routeIntent net lookup path ptr currentLinkId destNodeId = .sink l) ∨
      ∃ t next, path[ptr + 1]? = some next ∧ lookup currentLinkId next = some t ∧
        routeIntent net lookup path ptr currentLinkId destNodeId = .turn t := by
  obtain ⟨inside, rfl⟩ := List.getElem?_eq_some_iff.mp here
  unfold routeIntent
  by_cases final : ptr + 1 = path.length
  · left
    obtain ⟨l, last, arrives⟩ := h.final
    have same : path[ptr] = (net.links l).linkId := by
      rw [List.getLast?_eq_getElem?, show path.length - 1 = ptr by omega,
        List.getElem?_eq_getElem inside] at last
      exact Option.some.inj last
    refine ⟨l, final, ?_, arrives, ?_⟩
    · rw [same]
      exact net.link_id_to_index_self l
    · simp [final, same, net.link_id_to_index_self, arrives]
  · right
    have more : ptr + 1 < path.length := by omega
    have joined := (List.isChain_iff_getElem.mp h.turns) ptr more
    obtain ⟨t, found⟩ := Option.ne_none_iff_exists'.mp joined
    refine ⟨t, path[ptr + 1], List.getElem?_eq_getElem more, found, ?_⟩
    simp [final, List.getD_eq_getElem?_getD, List.getElem?_eq_getElem more, found]

def OnRoute (lookup : TurnLookup m) (slot : ActiveAgentSlot) (memory : Option RouteMemory) : Prop :=
  slot.alive = true → ∃ remembered, memory = some remembered ∧
    remembered.tripRequestId = some slot.tripId ∧
    remembered.routePath[slot.remainingRoutePtr]? = some slot.currentLinkId ∧
    LegalRoute net lookup remembered.routePath slot.destNodeId

end Metroflow.Sim
