import Metroflow.City.GrowthTopology
import Metroflow.Lib.Loops

namespace Metroflow.City.StreetTopologyBuilder

open Metroflow.Lib

variable {K : Type} {b b' : StreetTopologyBuilder K} {nodeId streetId index : ℕ}
  {nodeIds : List ℕ} {layer : ℤ} {point : PointM K} {street : Street}

section Updates

theorem mem_modify {incident : List (Finset ℕ)} {place s n : ℕ} (inside : place < incident.length) :
    s ∈ (incident.modify place (insert streetId)).getD n ∅ ↔
      s ∈ incident.getD n ∅ ∨ n = place ∧ s = streetId := by
  rw [List.getD_eq_getElem?_getD, List.getElem?_modify, List.getD_eq_getElem?_getD]
  by_cases here : place = n
  · subst here
    rw [List.getElem?_eq_getElem inside]
    simp [or_comm]
  · simp [here, Ne.symm here]

theorem mem_modify_all {incident : List (Finset ℕ)} {s n : ℕ}
    (inside : ∀ nodeId ∈ nodeIds, nodeId < incident.length) :
    s ∈ (nodeIds.foldl (fun incident nodeId => incident.modify nodeId (insert streetId))
      incident).getD n ∅ ↔ s ∈ incident.getD n ∅ ∨ n ∈ nodeIds ∧ s = streetId := by
  induction nodeIds generalizing incident with
  | nil => simp
  | cons nodeId nodeIds ih =>
    obtain ⟨here, later⟩ := List.forall_mem_cons.mp inside
    rw [List.foldl_cons, ih (by simpa using later), mem_modify here, List.mem_cons, or_assoc,
      or_and_right]

theorem length_modify_all {incident : List (Finset ℕ)} :
    (nodeIds.foldl (fun incident nodeId => incident.modify nodeId (insert streetId))
      incident).length = incident.length := by
  induction nodeIds generalizing incident with
  | nil => rfl
  | cons nodeId nodeIds ih => rw [List.foldl_cons, ih, List.length_modify]

theorem mem_node_ids_of : nodeId ∈ b.nodeIdsOf streetId ↔
    ∃ street, b.streets[streetId]? = some street ∧ nodeId ∈ street.nodeIds := by
  unfold nodeIdsOf
  cases b.streets[streetId]? <;> simp

end Updates

/-- Streets and nodes record the same incidence, and every street is a path of existing nodes. -/
structure Incidence (b : StreetTopologyBuilder K) : Prop where
  rows : b.incident.length = b.points.length
  incident_iff : ∀ nodeId streetId, streetId ∈ b.incidentStreets nodeId ↔
    nodeId ∈ b.nodeIdsOf streetId
  nonempty : ∀ street ∈ b.streets, street.nodeIds ≠ []
  known : ∀ street ∈ b.streets, ∀ nodeId ∈ street.nodeIds, nodeId < b.points.length
  nodup : ∀ street ∈ b.streets, street.nodeIds.Nodup
  ids : ∀ (i : ℕ) (street : Street), b.streets[i]? = some street → street.streetId = i

theorem Incidence.known_on (kept : Incidence b) (passes : nodeId ∈ b.nodeIdsOf streetId) :
    nodeId < b.points.length := by
  obtain ⟨street, found, passes⟩ := mem_node_ids_of.mp passes
  exact kept.known street (List.mem_of_getElem? found) nodeId passes

/-- What a call may do to the streets and nodes. -/
inductive Change : StreetTopologyBuilder K → StreetTopologyBuilder K → Prop where
  | node (b : StreetTopologyBuilder K) (point : PointM K) : Change b (b.withNode point)
  | street (b : StreetTopologyBuilder K) (nodeIds : List ℕ) (layer : ℤ) (nonempty : nodeIds ≠ [])
      (known : ∀ nodeId ∈ nodeIds, nodeId < b.points.length) (nodup : nodeIds.Nodup) :
      Change b (b.withStreet nodeIds layer)
  | nodeOn (b : StreetTopologyBuilder K) (streetId index nodeId : ℕ) (street : Street)
      (found : b.streets[streetId]? = some street) (within : index ≤ street.nodeIds.length)
      (known : nodeId < b.points.length) (absent : nodeId ∉ street.nodeIds) :
      Change b (b.withNodeOn streetId index nodeId)
  | separation (b : StreetTopologyBuilder K) (nodeA nodeB : ℕ) :
      Change b (b.withSeparation nodeA nodeB)

theorem Incidence.with_node (h : Incidence b) : Incidence (b.withNode point) where
  rows := by
    change (b.incident ++ [∅]).length = (b.points ++ [point]).length
    rw [List.length_append, List.length_append, h.rows]
    rfl
  incident_iff nodeId streetId := by
    have same : (b.withNode point).incidentStreets nodeId = b.incidentStreets nodeId := by
      change (b.incident ++ [∅]).getD nodeId ∅ = b.incident.getD nodeId ∅
      rw [List.getD_eq_getElem?_getD, List.getD_eq_getElem?_getD, List.getElem?_append]
      split
      · rfl
      · rename_i beyond
        rw [List.getElem?_eq_none (not_lt.mp beyond)]
        cases nodeId - b.incident.length <;> rfl
    rw [same]
    exact h.incident_iff nodeId streetId
  nonempty := h.nonempty
  known street listed nodeId passes := by
    have := h.known street listed nodeId passes
    change nodeId < (b.points ++ [point]).length
    rw [List.length_append]
    omega
  nodup := h.nodup
  ids := h.ids

theorem Incidence.with_street (h : Incidence b) (nonempty : nodeIds ≠ [])
    (known : ∀ nodeId ∈ nodeIds, nodeId < b.points.length) (nodup : nodeIds.Nodup) :
    Incidence (b.withStreet nodeIds layer) := by
  have streets : (b.withStreet nodeIds layer).streets =
      b.streets ++ [⟨b.streets.length, nodeIds, layer⟩] := rfl
  have old_or_new : ∀ street ∈ (b.withStreet nodeIds layer).streets,
      street ∈ b.streets ∨ street.nodeIds = nodeIds := by
    intro street listed
    rw [streets, List.mem_append, List.mem_singleton] at listed
    exact listed.imp_right fun new => congrArg Street.nodeIds new
  have place : ∀ i street, (b.withStreet nodeIds layer).streets[i]? = some street ↔
      b.streets[i]? = some street ∨
        i = b.streets.length ∧ street = ⟨b.streets.length, nodeIds, layer⟩ := by
    intro i street
    rw [streets, List.getElem?_append]
    split
    · rename_i inside
      exact (or_iff_left fun h => (Nat.ne_of_lt inside) h.1).symm
    · rename_i beyond
      rw [List.getElem?_eq_none (not_lt.mp beyond), List.getElem?_singleton]
      by_cases here : i = b.streets.length
      · simp [here, eq_comm]
      · have : i - b.streets.length ≠ 0 := by omega
        simp [here, this]
  refine ⟨?_, fun nodeId streetId => ?_, fun street listed => ?_, fun street listed => ?_,
    fun street listed => ?_, fun i street found => ?_⟩
  · exact length_modify_all.trans h.rows
  · unfold incidentStreets
    change streetId ∈ (nodeIds.foldl _ b.incident).getD nodeId ∅ ↔ _
    rw [mem_modify_all (by rw [h.rows]; exact known), mem_node_ids_of]
    change streetId ∈ b.incidentStreets nodeId ∨ _ ↔ _
    rw [h.incident_iff, mem_node_ids_of]
    constructor
    · rintro (⟨street, found, passes⟩ | ⟨passes, rfl⟩)
      · exact ⟨street, (place _ _).mpr (.inl found), passes⟩
      · exact ⟨_, (place _ _).mpr (.inr ⟨rfl, rfl⟩), passes⟩
    · rintro ⟨street, found, passes⟩
      rcases (place _ _).mp found with old | ⟨rfl, rfl⟩
      · exact .inl ⟨street, old, passes⟩
      · exact .inr ⟨passes, rfl⟩
  · rcases old_or_new street listed with old | new
    · exact h.nonempty street old
    · exact new ▸ nonempty
  · rcases old_or_new street listed with old | new
    · exact h.known street old
    · exact new ▸ known
  · rcases old_or_new street listed with old | new
    · exact h.nodup street old
    · exact new ▸ nodup
  · rcases (place _ _).mp found with old | ⟨rfl, rfl⟩
    · exact h.ids i street old
    · rfl

theorem with_node_on_street (found : b.streets[streetId]? = some street) {i : ℕ} {other : Street} :
    (b.withNodeOn streetId index nodeId).streets[i]? = some other ↔
      i ≠ streetId ∧ b.streets[i]? = some other ∨
        i = streetId ∧ other = { street with nodeIds := street.nodeIds.insertIdx index nodeId } := by
  change (b.streets.modify streetId _)[i]? = _ ↔ _
  rw [List.getElem?_modify]
  by_cases here : streetId = i
  · subst here
    simp [found, eq_comm]
  · simp [here, Ne.symm here]

theorem with_node_on_elsewhere {s : ℕ} (apart : s ≠ streetId) :
    (b.withNodeOn streetId index nodeId).streets[s]? = b.streets[s]? := by
  change (b.streets.modify streetId _)[s]? = _
  rw [List.getElem?_modify]
  simp only [if_neg (Ne.symm apart), id_map']

theorem with_node_on_end (found : b.streets[streetId]? = some street) :
    (b.withNodeOn streetId street.nodeIds.length nodeId).nodeIdsOf streetId =
      b.nodeIdsOf streetId ++ [nodeId] := by
  unfold nodeIdsOf
  rw [(with_node_on_street found).mpr (.inr ⟨rfl, rfl⟩), found]
  exact List.insertIdx_length_self

theorem Incidence.with_node_on (h : Incidence b) (found : b.streets[streetId]? = some street)
    (within : index ≤ street.nodeIds.length) (known : nodeId < b.points.length)
    (absent : nodeId ∉ street.nodeIds) : Incidence (b.withNodeOn streetId index nodeId) := by
  have listed := List.mem_of_getElem? found
  have old_or_new : ∀ other ∈ (b.withNodeOn streetId index nodeId).streets,
      other ∈ b.streets ∨ other.nodeIds = street.nodeIds.insertIdx index nodeId := by
    intro other mem
    obtain ⟨i, at_i⟩ := List.mem_iff_getElem?.mp mem
    rcases (with_node_on_street found).mp at_i with ⟨-, old⟩ | ⟨-, rfl⟩
    · exact .inl (List.mem_of_getElem? old)
    · exact .inr rfl
  have passes : ∀ n, n ∈ street.nodeIds.insertIdx index nodeId ↔ n = nodeId ∨ n ∈ street.nodeIds :=
    fun n => List.mem_insertIdx within
  refine ⟨?_, fun n s => ?_, fun other mem => ?_, fun other mem => ?_, fun other mem => ?_,
    fun i other at_i => ?_⟩
  · exact (List.length_modify _ _ _).trans h.rows
  · unfold incidentStreets
    change s ∈ (b.incident.modify nodeId (insert streetId)).getD n ∅ ↔ _
    rw [mem_modify (by rw [h.rows]; exact known), mem_node_ids_of]
    change s ∈ b.incidentStreets n ∨ _ ↔ _
    rw [h.incident_iff, mem_node_ids_of]
    by_cases here : s = streetId
    · subst here
      simp only [with_node_on_street found, found, Option.some.injEq, ne_eq, not_true_eq_false,
        false_and, true_and, false_or, and_true, exists_eq_left, exists_eq_left', passes]
      exact or_comm
    · simp only [with_node_on_street found, ne_eq, here, not_false_eq_true, true_and, false_and,
        or_false, and_false]
  · rcases old_or_new other mem with old | new
    · exact h.nonempty other old
    · rw [new]
      exact List.ne_nil_of_mem ((passes nodeId).mpr (.inl rfl))
  · rcases old_or_new other mem with old | new
    · exact h.known other old
    · rw [new]
      intro n inserted
      rcases (passes n).mp inserted with rfl | old
      · exact known
      · exact h.known street listed n old
  · rcases old_or_new other mem with old | new
    · exact h.nodup other old
    · rw [new, List.Perm.nodup_iff (List.perm_insertIdx nodeId street.nodeIds within),
        List.nodup_cons]
      exact ⟨absent, h.nodup street listed⟩
  · rcases (with_node_on_street found).mp at_i with ⟨-, old⟩ | ⟨rfl, rfl⟩
    · exact h.ids i other old
    · exact h.ids i street found

theorem Incidence.change (h : Incidence b) (step : Change b b') : Incidence b' := by
  cases step with
  | node point => exact h.with_node
  | street nodeIds layer nonempty known nodup => exact h.with_street nonempty known nodup
  | nodeOn streetId index nodeId street found within known absent =>
    exact h.with_node_on found within known absent
  | separation nodeA nodeB => exact ⟨h.rows, h.incident_iff, h.nonempty, h.known, h.nodup, h.ids⟩

theorem Change.points_kept (step : Change b b') : b.points <+: b'.points := by
  cases step with
  | node point => exact List.prefix_append _ _
  | street | nodeOn | separation => exact List.prefix_refl _

section Calls

variable {points : List (PointM K)} {street_id node_id : ℤ}

/-- One change after the other. -/
abbrev Changes : StreetTopologyBuilder K → StreetTopologyBuilder K → Prop :=
  Relation.ReflTransGen Change

theorem require_node_ok {n : ℕ} (h : b.requireNode node_id = .ok n) : n < b.points.length := by
  unfold requireNode at h
  split at h
  · obtain rfl := Except.ok.inj h
    omega
  · cases h

theorem require_street_ok (h : b.requireStreet street_id = .ok street) :
    b.streets[street_id.toNat]? = some street := by
  unfold requireStreet at h
  split at h
  · rename_i found
    obtain rfl := Except.ok.inj h
    split at found
    · exact found
    · cases found
  · cases h

theorem mint_node_returns {n : ℕ} :
    mintNode point b = (.ok n, b') ↔ n = b.points.length ∧ b' = b.withNode point := by
  unfold mintNode
  change ((Except.ok b.points.length, b.withNode point) : Except (TopologyError K) ℕ × _) = _ ↔ _
  rw [Prod.mk.injEq, Except.ok.injEq]
  exact and_congr eq_comm eq_comm

theorem mint_node_safe : Call.Safe (mintNode point) := fun b =>
  ⟨b.points.length, b.withNode point, mint_node_returns.mpr ⟨rfl, rfl⟩⟩

theorem mint_nodes_safe : Call.Safe (mintNodes points) := by
  induction points with
  | nil => exact .pure
  | cons point points ih => exact mint_node_safe.bind fun _ => ih.bind fun _ => .pure

theorem mint_nodes_returns (h : mintNodes points b = (.ok nodeIds, b')) :
    Changes b b' ∧ b'.streets = b.streets ∧
      b'.points.length = b.points.length + points.length ∧
      nodeIds = List.range' b.points.length points.length := by
  induction points generalizing b nodeIds with
  | nil =>
    obtain ⟨rfl, rfl⟩ := Call.pure_returns.mp h
    exact ⟨.refl, rfl, rfl, rfl⟩
  | cons point points ih =>
    obtain ⟨n, mid, minted, h⟩ := Call.bind_returns.mp h
    obtain ⟨others, last, rest, h⟩ := Call.bind_returns.mp h
    obtain ⟨rfl, rfl⟩ := Call.pure_returns.mp h
    obtain ⟨rfl, rfl⟩ := mint_node_returns.mp minted
    obtain ⟨changes, streets, length, rfl⟩ := ih rest
    have grown : (b.withNode point).points.length = b.points.length + 1 := List.length_append
    rw [grown] at length ⊢
    refine ⟨.head (.node b point) changes, streets, ?_, ?_⟩
    · rw [length, List.length_cons]
      omega
    · rw [List.length_cons, List.range'_succ]

theorem start_node_returns {start : Option ℤ} {n : ℕ}
    (h : startNode start point b = (.ok n, b')) :
    Changes b b' ∧ b'.streets = b.streets ∧ n < b'.points.length := by
  unfold startNode at h
  split at h
  · obtain ⟨found, rfl⟩ := Call.query_returns.mp h
    exact ⟨.refl, rfl, require_node_ok found⟩
  · obtain ⟨rfl, rfl⟩ := mint_node_returns.mp h
    exact ⟨.single (.node b point), rfl, by simp [withNode]⟩

theorem open_street_inv {start : Option ℤ} {streetId : ℕ}
    (h : openStreet points start layer b = (.ok streetId, b')) :
    ∃ mid nodeIds, Changes b mid ∧ mid.streets = b.streets ∧ nodeIds.length = points.length ∧
      nodeIds ≠ [] ∧ (∀ n ∈ nodeIds, n < mid.points.length) ∧ nodeIds.Nodup ∧
      b' = mid.withStreet nodeIds layer := by
  unfold openStreet at h
  split at h
  · cases (Call.query_returns.mp h).1
  rename_i first rest
  obtain ⟨_, mid, read, h⟩ := Call.bind_returns.mp h
  obtain ⟨-, rfl⟩ := Call.query_returns.mp read
  obtain ⟨startId, mid, started, h⟩ := Call.bind_returns.mp h
  obtain ⟨others, last, minted, h⟩ := Call.bind_returns.mp h
  obtain ⟨_, final, opened, h⟩ := Call.bind_returns.mp h
  obtain ⟨-, rfl⟩ := Call.pure_returns.mp h
  obtain rfl := Call.change_returns.mp opened
  obtain ⟨begun, streets, known⟩ := start_node_returns started
  obtain ⟨changes, streets', length, rfl⟩ := mint_nodes_returns minted
  refine ⟨last, _, begun.trans changes, streets'.trans streets, ?_, List.cons_ne_nil _ _, ?_, ?_,
    rfl⟩
  · rw [List.length_cons, List.length_range', List.length_cons]
  · rw [List.forall_mem_cons]
    refine ⟨by omega, fun n fresh => ?_⟩
    rw [List.mem_range'_1] at fresh
    omega
  · rw [List.nodup_cons, List.mem_range'_1]
    exact ⟨by omega, List.nodup_range'⟩

theorem open_street_returns {start : Option ℤ} {streetId : ℕ}
    (h : openStreet points start layer b = (.ok streetId, b')) : Changes b b' := by
  obtain ⟨mid, nodeIds, changes, -, -, nonempty, known, nodup, rfl⟩ := open_street_inv h
  exact changes.tail (.street mid _ layer nonempty known nodup)

theorem Incidence.fresh (h : Incidence b) (found : b.streets[streetId]? = some street) :
    b.points.length ∉ street.nodeIds := fun passes =>
  absurd (h.known street (List.mem_of_getElem? found) _ passes) (lt_irrefl _)

theorem Incidence.mint_on (h : Incidence b) (found : b.streets[streetId]? = some street)
    (within : index ≤ street.nodeIds.length) :
    Changes b ((b.withNode point).withNodeOn streetId index b.points.length) :=
  .tail (.single (.node b point)) (.nodeOn (b.withNode point) streetId index _ street found within
    (by simp [withNode]) (h.fresh found))

theorem extend_street_inv {n : ℕ} (h : extendStreet street_id point b = (.ok n, b')) :
    ∃ street, b.streets[street_id.toNat]? = some street ∧ n = b.points.length ∧
      b' = (b.withNode point).withNodeOn street_id.toNat street.nodeIds.length n := by
  obtain ⟨street, mid, read, h⟩ := Call.bind_returns.mp h
  obtain ⟨found, rfl⟩ := Call.query_returns.mp read
  obtain ⟨_, mid, minted, h⟩ := Call.bind_returns.mp h
  obtain ⟨rfl, rfl⟩ := mint_node_returns.mp minted
  obtain ⟨_, final, extended, h⟩ := Call.bind_returns.mp h
  obtain ⟨rfl, rfl⟩ := Call.pure_returns.mp h
  obtain rfl := Call.change_returns.mp extended
  exact ⟨street, require_street_ok found, rfl, rfl⟩

theorem extend_street_returns (kept : Incidence b) {n : ℕ}
    (h : extendStreet street_id point b = (.ok n, b')) : Changes b b' := by
  obtain ⟨street, found, rfl, rfl⟩ := extend_street_inv h
  exact kept.mint_on found le_rfl

theorem register_returns {u : Unit}
    (h : registerGradeSeparation street_id node_id b = (.ok u, b')) : Changes b b' := by
  obtain ⟨⟨nodeA, nodeB⟩, mid, read, h⟩ := Call.bind_returns.mp h
  obtain ⟨-, rfl⟩ := Call.query_returns.mp read
  obtain rfl := Call.change_returns.mp h
  exact .single (.separation b nodeA nodeB)

variable [Scalar K] {x : K}

theorem weld_ok {tip : List ℕ → Option ℕ} {n : ℕ}
    (h : b.weld street_id node_id x tip = .ok (street, n, false)) :
    b.streets[street_id.toNat]? = some street ∧ n < b.points.length ∧ n ∉ street.nodeIds := by
  obtain ⟨street', found, h⟩ := bind_ok.mp h
  obtain ⟨n', known, h⟩ := bind_ok.mp h
  split at h
  · cases h
  split at h
  · cases h
  split at h
  · cases h
  rename_i absent
  split at h
  · cases h
  obtain ⟨rfl, rfl, -⟩ := by simpa only [Prod.mk.injEq] using pure_ok.mp h
  exact ⟨require_street_ok found, require_node_ok known, absent⟩

theorem welded_returns {tip : List ℕ → Option ℕ} {place : Street → ℕ} {n : ℕ}
    (h : (do
      let (street, nodeId, already) ← Call.query fun b => b.weld street_id node_id x tip
      if already then return nodeId
      else do
        Call.change fun b => b.withNodeOn street_id.toNat (place street) nodeId
        return nodeId : Op K ℕ) b = (.ok n, b')) :
    b' = b ∨ ∃ street, b.streets[street_id.toNat]? = some street ∧ n < b.points.length ∧
      n ∉ street.nodeIds ∧ b' = b.withNodeOn street_id.toNat (place street) n := by
  obtain ⟨⟨street, found, already⟩, mid, read, h⟩ := Call.bind_returns.mp h
  obtain ⟨welded, rfl⟩ := Call.query_returns.mp read
  dsimp only at h
  split at h
  · obtain ⟨-, rfl⟩ := Call.pure_returns.mp h
    exact .inl rfl
  · rename_i apart
    obtain rfl : already = false := Bool.eq_false_iff.mpr apart
    obtain ⟨_, final, extended, h⟩ := Call.bind_returns.mp h
    obtain ⟨rfl, rfl⟩ := Call.pure_returns.mp h
    obtain rfl := Call.change_returns.mp extended
    obtain ⟨at_street, known, absent⟩ := weld_ok welded
    exact .inr ⟨street, at_street, known, absent, rfl⟩

theorem extend_to_node_inv {n : ℕ}
    (h : extendStreetToNode street_id node_id x b = (.ok n, b')) :
    b' = b ∨ ∃ street, b.streets[street_id.toNat]? = some street ∧ n < b.points.length ∧
      n ∉ street.nodeIds ∧ b' = b.withNodeOn street_id.toNat street.nodeIds.length n :=
  welded_returns h

theorem prepend_to_node_inv {n : ℕ}
    (h : prependStreetToNode street_id node_id x b = (.ok n, b')) :
    b' = b ∨ ∃ street, b.streets[street_id.toNat]? = some street ∧ n < b.points.length ∧
      n ∉ street.nodeIds ∧ b' = b.withNodeOn street_id.toNat 0 n :=
  welded_returns h

theorem extend_to_node_returns {n : ℕ}
    (h : extendStreetToNode street_id node_id x b = (.ok n, b')) : Changes b b' := by
  rcases extend_to_node_inv h with rfl | ⟨street, found, known, absent, rfl⟩
  · exact .refl
  · exact .single (.nodeOn b _ _ _ street found le_rfl known absent)

theorem prepend_to_node_returns {n : ℕ}
    (h : prependStreetToNode street_id node_id x b = (.ok n, b')) : Changes b b' := by
  rcases prepend_to_node_inv h with rfl | ⟨street, found, known, absent, rfl⟩
  · exact .refl
  · exact .single (.nodeOn b _ _ _ street found (Nat.zero_le _) known absent)

theorem locate_arc_inside {start place : ℕ} {arcLengthM travelled : K}
    (h : b.locateArc arcLengthM start travelled nodeIds = .ok (.inside place point)) :
    start ≤ place ∧ place + 1 < start + nodeIds.length := by
  induction nodeIds generalizing start travelled with
  | nil => cases h
  | cons left rest ih =>
    cases rest with
    | nil => cases h
    | cons right rest =>
      unfold locateArc at h
      dsimp only at h
      split at h
      · have := ih h
        simp only [List.length_cons] at this ⊢
        omega
      split at h
      · have := ih h
        simp only [List.length_cons] at this ⊢
        omega
      repeat' split at h
      any_goals cases h
      simp only [List.length_cons]
      omega

theorem split_place_inside {place : ℕ} (h : b.splitPlace street_id x = .ok (.inside place point)) :
    ∃ street, b.streets[street_id.toNat]? = some street ∧ place + 1 ≤ street.nodeIds.length := by
  obtain ⟨street, found, h⟩ := bind_ok.mp h
  refine ⟨street, require_street_ok found, ?_⟩
  split at h
  · cases h
  dsimp only at h
  split at h
  · cases h
  split at h
  · rename_i located
    split at h
    · cases h
    · obtain ⟨rfl, rfl⟩ := by simpa only [Except.ok.injEq, SplitPlace.inside.injEq] using h
      have := locate_arc_inside located
      omega
  · have := locate_arc_inside h
    omega

theorem split_inv {n : ℕ} (h : splitAtArcLength street_id x b = (.ok n, b')) :
    b' = b ∨ ∃ street index point, b.splitPlace street_id x = .ok (.inside index point) ∧
      b.streets[street_id.toNat]? = some street ∧ index + 1 ≤ street.nodeIds.length ∧
      b' = (b.withNode point).withNodeOn street_id.toNat (index + 1) b.points.length := by
  obtain ⟨place, mid, read, h⟩ := Call.bind_returns.mp h
  obtain ⟨found, rfl⟩ := Call.query_returns.mp read
  cases place with
  | vertex nodeId =>
    obtain ⟨-, rfl⟩ := Call.pure_returns.mp h
    exact .inl rfl
  | inside index point =>
    obtain ⟨_, mid, minted, h⟩ := Call.bind_returns.mp h
    obtain ⟨rfl, rfl⟩ := mint_node_returns.mp minted
    obtain ⟨_, final, inserted, h⟩ := Call.bind_returns.mp h
    obtain ⟨-, rfl⟩ := Call.pure_returns.mp h
    obtain rfl := Call.change_returns.mp inserted
    obtain ⟨street, at_street, within⟩ := split_place_inside found
    exact .inr ⟨street, index, point, found, at_street, within, rfl⟩

theorem split_returns (kept : Incidence b) {n : ℕ}
    (h : splitAtArcLength street_id x b = (.ok n, b')) : Changes b b' := by
  rcases split_inv h with rfl | ⟨street, index, point, -, found, within, rfl⟩
  · exact .refl
  · exact kept.mint_on found within

theorem contact_inv {found : Option ℕ} (h : contact street_id point x b = (.ok found, b')) :
    found = none ∧ b' = b ∨
      ∃ n along, found = some n ∧ splitAtArcLength street_id along b = (.ok n, b') := by
  obtain ⟨best, mid, read, h⟩ := Call.bind_returns.mp h
  obtain ⟨-, rfl⟩ := Call.query_returns.mp read
  cases best with
  | none =>
    obtain ⟨rfl, rfl⟩ := Call.pure_returns.mp h
    exact .inl ⟨rfl, rfl⟩
  | some best =>
    dsimp only at h
    split at h
    · obtain ⟨rfl, rfl⟩ := Call.pure_returns.mp h
      exact .inl ⟨rfl, rfl⟩
    · obtain ⟨n, mid, split_at, h⟩ := Call.bind_returns.mp h
      obtain ⟨rfl, rfl⟩ := Call.pure_returns.mp h
      exact .inr ⟨n, best.2, rfl, split_at⟩

theorem contact_returns (kept : Incidence b) {found : Option ℕ}
    (h : contact street_id point x b = (.ok found, b')) : Changes b b' := by
  rcases contact_inv h with ⟨-, rfl⟩ | ⟨n, along, -, split_at⟩
  · exact .refl
  · exact split_returns kept split_at

theorem best_segment_within {start place : ℕ} {best : Option ℕ}
    (h : bestSegment point start best x points = some place) :
    best = some place ∨ start ≤ place ∧ place + 1 < start + points.length := by
  induction points generalizing start best x with
  | nil => exact .inl h
  | cons left rest ih =>
    cases rest with
    | nil => exact .inl h
    | cons right rest =>
      unfold bestSegment at h
      dsimp only at h
      have later : ∀ best' x', bestSegment point (start + 1) best' x' (right :: rest) = some place →
          best' = some place ∨ start ≤ place ∧ place + 1 < start + (left :: right :: rest).length := by
        intro best' x' found
        refine (ih found).imp_right fun inside => ?_
        simp only [List.length_cons] at inside ⊢
        omega
      split at h
      · exact later _ _ h
      split at h
      · rcases later _ _ h with here | inside
        · obtain rfl := Option.some.inj here
          simp only [List.length_cons]
          omega
        · exact .inr inside
      · exact later _ _ h

theorem bind_node_inv {done : Bool}
    (h : bindNodeIntoStreet street_id node_id x b = (.ok done, b')) :
    b' = b ∨ done = true ∧ ∃ street index n, b.streets[street_id.toNat]? = some street ∧
      index + 1 ≤ street.nodeIds.length ∧ n < b.points.length ∧ n ∉ street.nodeIds ∧
      b' = b.withNodeOn street_id.toNat (index + 1) n := by
  obtain ⟨⟨street, n⟩, mid, read, h⟩ := Call.bind_returns.mp h
  obtain ⟨found, rfl⟩ := Call.query_returns.mp read
  obtain ⟨street', at_street, found⟩ := bind_ok.mp found
  obtain ⟨n', known, found⟩ := bind_ok.mp found
  obtain ⟨rfl, rfl⟩ := Prod.mk.inj (pure_ok.mp found)
  dsimp only at h
  split at h
  · obtain ⟨-, rfl⟩ := Call.pure_returns.mp h
    exact .inl rfl
  · rename_i absent
    obtain ⟨best, mid, read, h⟩ := Call.bind_returns.mp h
    obtain ⟨searched, rfl⟩ := Call.query_returns.mp read
    cases best with
    | none =>
      obtain ⟨-, rfl⟩ := Call.pure_returns.mp h
      exact .inl rfl
    | some index =>
      obtain ⟨_, final, bound, h⟩ := Call.bind_returns.mp h
      obtain ⟨rfl, rfl⟩ := Call.pure_returns.mp h
      obtain rfl := Call.change_returns.mp bound
      have inside := (best_segment_within (Except.ok.inj searched)).resolve_left (by simp)
      rw [pointsOf, List.length_map] at inside
      exact .inr ⟨rfl, street', index, n', require_street_ok at_street, by omega,
        require_node_ok known, absent, rfl⟩

theorem bind_node_returns {done : Bool}
    (h : bindNodeIntoStreet street_id node_id x b = (.ok done, b')) : Changes b b' := by
  rcases bind_node_inv h with rfl | ⟨-, street, index, n, found, within, known, absent, rfl⟩
  · exact .refl
  · exact .single (.nodeOn b _ _ _ street found within known absent)

end Calls

section Runs

theorem Incidence.changes (kept : Incidence b) (changes : Changes b b') : Incidence b' := by
  induction changes with
  | refl => exact kept
  | tail _ last ih => exact ih.change last

theorem Changes.points_kept (changes : Changes b b') : b.points <+: b'.points := by
  induction changes with
  | refl => exact List.prefix_refl _
  | tail _ last ih => exact ih.trans last.points_kept

theorem incidence_empty : Incidence ({} : StreetTopologyBuilder K) where
  rows := rfl
  incident_iff nodeId streetId := by simp [incidentStreets, nodeIdsOf]
  nonempty := by simp
  known := by simp
  nodup := by simp
  ids := by simp

variable [Scalar K]

theorem BuilderCall.returns (kept : Incidence b) {call : BuilderCall K} {u : Unit}
    (h : call.op b = (.ok u, b')) : Changes b b' := by
  cases call with
  | openStreet =>
    obtain ⟨_, returned⟩ := Call.drop_returns h
    exact open_street_returns returned
  | extendStreet =>
    obtain ⟨_, returned⟩ := Call.drop_returns h
    exact extend_street_returns kept returned
  | extendStreetToNode =>
    obtain ⟨_, returned⟩ := Call.drop_returns h
    exact extend_to_node_returns returned
  | prependStreetToNode =>
    obtain ⟨_, returned⟩ := Call.drop_returns h
    exact prepend_to_node_returns returned
  | splitAtArcLength =>
    obtain ⟨_, returned⟩ := Call.drop_returns h
    exact split_returns kept returned
  | contact =>
    obtain ⟨_, returned⟩ := Call.drop_returns h
    exact contact_returns kept returned
  | bindNodeIntoStreet =>
    obtain ⟨_, returned⟩ := Call.drop_returns h
    exact bind_node_returns returned
  | registerGradeSeparation => exact register_returns h

theorem split_clean {street_id : ℤ} {x : K} : Call.Clean (splitAtArcLength street_id x) := by
  refine .query_bind fun place => ?_
  cases place with
  | vertex => exact Call.Safe.pure.clean
  | inside => exact (mint_node_safe.bind fun _ => .bind .change fun _ => .pure).clean

theorem BuilderCall.clean (call : BuilderCall K) : Call.Clean call.op := by
  cases call with
  | openStreet points startNodeId layer =>
    refine Call.Clean.drop ?_
    cases points with
    | nil => exact .query
    | cons first rest =>
      refine .query_bind fun _ => Call.Clean.bind_safe ?_ fun start =>
        mint_nodes_safe.bind fun _ => .bind .change fun _ => .pure
      cases startNodeId with
      | none => exact mint_node_safe.clean
      | some nodeId => exact .query
  | extendStreet =>
    exact Call.Clean.drop (.query_bind fun _ =>
      (mint_node_safe.bind fun _ => .bind .change fun _ => .pure).clean)
  | extendStreetToNode | prependStreetToNode =>
    refine Call.Clean.drop (.query_bind fun found => ?_)
    obtain ⟨street, nodeId, already⟩ := found
    cases already with
    | true => exact Call.Safe.pure.clean
    | false => exact (Call.Safe.bind .change fun _ => .pure).clean
  | splitAtArcLength => exact split_clean.drop
  | contact =>
    refine Call.Clean.drop (.query_bind fun best => ?_)
    cases best with
    | none => exact Call.Safe.pure.clean
    | some best =>
      dsimp only
      split
      · exact Call.Safe.pure.clean
      · exact split_clean.bind_safe fun _ => .pure
  | bindNodeIntoStreet =>
    refine Call.Clean.drop (.query_bind fun found => ?_)
    obtain ⟨street, nodeId⟩ := found
    dsimp only
    split
    · exact Call.Safe.pure.clean
    · refine .query_bind fun best => ?_
      cases best with
      | none => exact Call.Safe.pure.clean
      | some index => exact (Call.Safe.bind .change fun _ => .pure).clean
  | registerGradeSeparation => exact .query_bind fun _ => Call.Safe.change.clean

theorem BuilderCall.changes (kept : Incidence b) (call : BuilderCall K) :
    Changes b (call.op b).2 := by
  rcases h : call.op b with ⟨_ | u, b'⟩
  · obtain rfl := call.clean b _ _ h
    exact .refl
  · exact call.returns kept h

theorem incidence_after (calls : List (BuilderCall K)) : Incidence (after calls) := by
  unfold after
  induction calls using List.reverseRecOn with
  | nil => exact incidence_empty
  | append_singleton calls call ih =>
    rw [List.foldl_append]
    exact ih.changes (call.changes ih)

end Runs

end Metroflow.City.StreetTopologyBuilder
