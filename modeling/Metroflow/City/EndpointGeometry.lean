import Metroflow.City.PlanarLinks
import Metroflow.Map.SegmentCrossings

namespace Metroflow.City.Planarization

open Metroflow.Lib Metroflow.Map Metroflow.City.Planar

section Catalog

variable {K : Type} [Scalar K]

def roadClassValue : RoadClass → String
  | .localRoad => "local"
  | .collector => "collector"
  | .arterial => "arterial"
  | .expressway => "expressway"
  | .ramp => "ramp"
  | .bridge => "bridge"

/-- What links along one centerline have in common. -/
inductive GeometryKey (K : Type) where
  | inferred (lo hi : ℤ) (roadClass : String) (bridgeGroup : ℤ) (lengthM : K)
  | physical (physicalRoadId : ℤ)
  deriving DecidableEq

/-- The order of the key tuples, the inferred ones first. -/
def GeometryKey.before : GeometryKey K → GeometryKey K → Bool
  | .inferred .., .physical _ => true
  | .physical _, .inferred .. => false
  | .physical id, .physical id' => decide (id < id')
  | .inferred lo hi roadClass bridge length, .inferred lo' hi' roadClass' bridge' length' =>
    if lo ≠ lo' then decide (lo < lo')
    else if hi ≠ hi' then decide (hi < hi')
    else if roadClass ≠ roadClass' then decide (roadClass < roadClass')
    else if bridge ≠ bridge' then decide (bridge < bridge')
    else decide (length < length')

def geometryKey (link : Map.RoadLink K) : GeometryKey K :=
  match link.physicalRoadId with
  | some physicalRoadId => .physical physicalRoadId
  | none => .inferred (min link.srcNodeId link.dstNodeId) (max link.srcNodeId link.dstNodeId)
      (roadClassValue link.roadClass) (link.bridgeGroupId.getD (-1)) (roundTo 6 link.lengthM)

/-- The links under their keys, as far as their ends are known. -/
def groupLink (nodes : List (Planar.Node K))
    (grouped : Dict (GeometryKey K) (List (Map.RoadLink K))) (link : Map.RoadLink K) :
    Except String (Dict (GeometryKey K) (List (Map.RoadLink K))) :=
  if link.srcNodeId ∉ nodes.map Planar.Node.nodeId ∨
      link.dstNodeId ∉ nodes.map Planar.Node.nodeId then
    .error s!"link {link.linkId} references a missing endpoint node"
  else .ok (grouped.appendAt (geometryKey link) link)

def validateExplicitPhysicalGroup (group : List (Map.RoadLink K)) (physicalRoadId : ℤ) :
    Except String Unit :=
  match group with
  | [_] => .ok ()
  | [first, second] =>
    if (first.srcNodeId = second.dstNodeId ∧ first.dstNodeId = second.srcNodeId) ∧
        first.roadClass = second.roadClass ∧ first.bridgeGroupId = second.bridgeGroupId ∧
        isclose first.lengthM second.lengthM (1 / Scalar.ofInt (10 ^ 6)) then .ok ()
    else .error s!"physical_road_id {physicalRoadId} references incompatible directed links"
  | _ => .error s!"physical_road_id {physicalRoadId} must reference one link or one directed pair"

structure Laying (K : Type) [Scalar K] where
  centerlines : List (RoadCenterline K) := []
  assignments : List LinkGeometryAssignment := []
  geometryId : ℤ := 0

def assignIfAny (link : Option (Map.RoadLink K)) (geometryId : ℤ) (reversed : Bool) :
    Except String (List LinkGeometryAssignment) :=
  match link with
  | some link => do return [← LinkGeometryAssignment.build link.linkId geometryId reversed]
  | none => return []

/-- Lays one centerline for a group and assigns the links that are left for it. -/
def layOrdinal (nodes : List (Planar.Node K)) (first : Map.RoadLink K) (lo hi : ℤ)
    (forward reverse : List (Map.RoadLink K)) (s : Laying K) (ordinal : ℕ) :
    Except String (Laying K) := do
  let loNode ← entry (nodesById nodes) lo
  let hiNode ← entry (nodesById nodes) hi
  let centerline ← RoadCenterline.build s.geometryId [loNode.point, hiNode.point]
    (if first.bridgeGroupId ≠ none then 1 else 0)
  let ahead ← assignIfAny forward[ordinal]? s.geometryId false
  let back ← assignIfAny reverse[ordinal]? s.geometryId true
  return {
    centerlines := s.centerlines ++ [centerline]
    assignments := s.assignments ++ ahead ++ back
    geometryId := s.geometryId + 1 }

def layLinks (nodes : List (Planar.Node K)) (s : Laying K) :
    List (Map.RoadLink K) → Except String (Laying K)
  | [] => .error "tuple index out of range"
  | first :: others =>
    let group := first :: others
    let lo := min first.srcNodeId first.dstNodeId
    let hi := max first.srcNodeId first.dstNodeId
    let forward := group.filter fun link => link.srcNodeId = lo
    let reverse := group.filter fun link => link.srcNodeId = hi
    if 1 < group.length ∧
        ¬(group.length = 2 ∧ forward.length = 1 ∧ reverse.length = 1) then
      let linkIds := group.map fun link => link.linkId
      .error ("endpoint geometry cannot infer ambiguous parallel link pairing " ++
        s!"for link_ids {linkIds}")
    else
      (List.range (max forward.length reverse.length)).foldlM
        (layOrdinal nodes first lo hi forward reverse) s

def validateGroup (group : List (Map.RoadLink K)) : GeometryKey K → Except String Unit
  | .physical physicalRoadId => validateExplicitPhysicalGroup group physicalRoadId
  | .inferred .. => .ok ()

def layGroup (nodes : List (Planar.Node K)) (s : Laying K)
    (grouped : GeometryKey K × List (Map.RoadLink K)) : Except String (Laying K) := do
  let group := sortOn (fun link => link.linkId) grouped.2
  validateGroup group grouped.1
  layLinks nodes s group

/-- Straight centerlines between the ends of the links, one for each physical road. -/
def buildEndpointGeometryCatalog (nodes : List (Planar.Node K)) (links : List (Map.RoadLink K)) :
    Except String (RoadGeometryCatalog K) := do
  raiseIf (¬(nodes.map Planar.Node.nodeId).Nodup) "nodes must have unique node_id values"
  let grouped ← links.foldlM (groupLink nodes) []
  let laid ← (grouped.insertionSort fun a b => b.1.before a.1 = false).foldlM (layGroup nodes) {}
  RoadGeometryCatalog.build laid.centerlines laid.assignments

variable {nodes : List (Planar.Node K)} {links : List (Map.RoadLink K)} {s s' : Laying K}

theorem grouped_spec {grouped : Dict (GeometryKey K) (List (Map.RoadLink K))}
    (h : links.foldlM (groupLink nodes) [] = .ok grouped) :
    Dict.Groups grouped (links.map fun link => (geometryKey link, link)) ∧
      ∀ link ∈ links, link.srcNodeId ∈ nodes.map Planar.Node.nodeId ∧
        link.dstNodeId ∈ nodes.map Planar.Node.nodeId := by
  refine fold_progress (I := fun past grouped =>
    Dict.Groups grouped (past.map fun link => (geometryKey link, link)) ∧
      ∀ link ∈ past, link.srcNodeId ∈ nodes.map Planar.Node.nodeId ∧
        link.dstNodeId ∈ nodes.map Planar.Node.nodeId) ?_ ⟨.nil, by simp⟩ h
  rintro past link - grouped grouped' - ⟨groups, known⟩ step
  unfold groupLink at step
  split at step
  · cases step
  · rename_i ends
    rw [not_or, not_not, not_not] at ends
    obtain rfl := Except.ok.inj step
    refine ⟨?_, fun other listed => ?_⟩
    · rw [List.map_append]
      exact groups.append_at
    · rcases List.mem_append.mp listed with old | new
      · exact known other old
      · rwa [List.mem_singleton.mp new]

theorem assign_if_any_spec {link : Option (Map.RoadLink K)} {geometryId : ℤ} {reversed : Bool}
    {rows : List LinkGeometryAssignment}
    (h : assignIfAny link geometryId reversed = .ok rows) :
    ∀ a ∈ rows, a.geometryId = geometryId ∧ ∃ l ∈ link, l.linkId = a.linkId := by
  unfold assignIfAny at h
  cases link with
  | none =>
    obtain rfl := pure_ok.mp h
    simp
  | some link =>
    obtain ⟨a, built, h⟩ := bind_ok.mp h
    obtain rfl := pure_ok.mp h
    unfold LinkGeometryAssignment.build at built
    split_ifs at built
    obtain rfl := Except.ok.inj built
    simp

theorem lay_ordinal_spec {first : Map.RoadLink K} {lo hi : ℤ}
    {forward reverse : List (Map.RoadLink K)} {ordinal : ℕ}
    (h : layOrdinal nodes first lo hi forward reverse s ordinal = .ok s') :
    ∃ rows, s'.assignments = s.assignments ++ rows ∧ ∀ a ∈ rows, a.geometryId = s.geometryId ∧
      ∃ link ∈ forward ++ reverse, link.linkId = a.linkId := by
  unfold layOrdinal at h
  obtain ⟨_, -, h⟩ := bind_ok.mp h
  obtain ⟨_, -, h⟩ := bind_ok.mp h
  obtain ⟨_, -, h⟩ := bind_ok.mp h
  obtain ⟨ahead, ahead_built, h⟩ := bind_ok.mp h
  obtain ⟨back, back_built, h⟩ := bind_ok.mp h
  rw [← pure_ok.mp h]
  refine ⟨ahead ++ back, List.append_assoc .., fun a listed => ?_⟩
  rcases List.mem_append.mp listed with first | second
  · obtain ⟨same, link, found, id⟩ := assign_if_any_spec ahead_built a first
    exact ⟨same, link, List.mem_append_left _ (List.mem_of_getElem? found), id⟩
  · obtain ⟨same, link, found, id⟩ := assign_if_any_spec back_built a second
    exact ⟨same, link, List.mem_append_right _ (List.mem_of_getElem? found), id⟩

theorem lay_links_spec {group : List (Map.RoadLink K)} (h : layLinks nodes s group = .ok s') :
    ∃ rows, s'.assignments = s.assignments ++ rows ∧
      ∀ a ∈ rows, a.geometryId = s.geometryId ∧ ∃ link ∈ group, link.linkId = a.linkId := by
  cases group with
  | nil => cases h
  | cons first others =>
    unfold layLinks at h
    dsimp only at h
    split at h
    · cases h
    rename_i paired
    have within : ∀ (keep : Map.RoadLink K → Bool), ∀ link ∈ (first :: others).filter keep,
        link ∈ first :: others := fun keep link listed => (List.mem_filter.mp listed).1
    have shorter : ∀ keep : Map.RoadLink K → Bool,
        ((first :: others).filter keep).length ≤ (first :: others).length :=
      fun keep => List.length_filter_le _ _
    generalize forward_def : (first :: others).filter (fun link =>
      link.srcNodeId = min first.srcNodeId first.dstNodeId) = forward at h paired
    generalize reverse_def : (first :: others).filter (fun link =>
      link.srcNodeId = max first.srcNodeId first.dstNodeId) = reverse at h paired
    have forward_short : forward.length ≤ (first :: others).length := forward_def ▸ shorter _
    have reverse_short : reverse.length ≤ (first :: others).length := reverse_def ▸ shorter _
    have members : ∀ link ∈ forward ++ reverse, link ∈ first :: others := by
      rw [← forward_def, ← reverse_def]
      exact List.forall_mem_append.mpr ⟨within _, within _⟩
    -- a pairing leaves at most one link in each direction
    have single : max forward.length reverse.length ≤ 1 := by omega
    rcases Nat.le_one_iff_eq_zero_or_eq_one.mp single with none | one
    · rw [none, List.range_zero, fold_nil] at h
      exact ⟨[], by rw [h, List.append_nil], by simp⟩
    · rw [one, List.range_one, fold_cons] at h
      obtain ⟨mid, step, last⟩ := h
      obtain rfl := fold_nil.mp last
      obtain ⟨rows, grown, each⟩ := lay_ordinal_spec step
      refine ⟨rows, grown, fun a listed => ?_⟩
      obtain ⟨same, link, known, id⟩ := each a listed
      exact ⟨same, link, members link known, id⟩

theorem lay_group_spec {grouped : GeometryKey K × List (Map.RoadLink K)}
    (h : layGroup nodes s grouped = .ok s') :
    ∃ rows, s'.assignments = s.assignments ++ rows ∧
      ∀ a ∈ rows, a.geometryId = s.geometryId ∧ ∃ link ∈ grouped.2, link.linkId = a.linkId := by
  unfold layGroup at h
  dsimp only at h
  obtain ⟨-, -, h⟩ := bind_ok.mp h
  obtain ⟨rows, grown, each⟩ := lay_links_spec h
  refine ⟨rows, grown, fun a listed => ?_⟩
  obtain ⟨same, link, known, id⟩ := each a listed
  exact ⟨same, link, mem_sort_on.mp known, id⟩

theorem endpoint_catalog_spec {catalog : RoadGeometryCatalog K}
    (h : buildEndpointGeometryCatalog nodes links = .ok catalog) :
    (∀ link ∈ links, link.srcNodeId ∈ nodes.map Planar.Node.nodeId ∧
        link.dstNodeId ∈ nodes.map Planar.Node.nodeId) ∧
      ∃ geometryOf : GeometryKey K → ℤ, ∀ a ∈ catalog.assignments, ∃ link ∈ links,
        link.linkId = a.linkId ∧ a.geometryId = geometryOf (geometryKey link) := by
  unfold buildEndpointGeometryCatalog at h
  obtain ⟨_, -, h⟩ := bind_ok.mp h
  obtain ⟨grouped, grouping, h⟩ := bind_ok.mp h
  obtain ⟨laid, laying, h⟩ := bind_ok.mp h
  obtain ⟨groups, known⟩ := grouped_spec grouping
  refine ⟨known, ?_⟩
  have perm := List.perm_insertionSort (fun a b : GeometryKey K × List (Map.RoadLink K) =>
    b.1.before a.1 = false) grouped
  generalize grouped.insertionSort (fun a b => b.1.before a.1 = false) = order at laying perm
  have distinct : (order.map Prod.fst).Nodup := (perm.map Prod.fst).nodup_iff.mpr groups.distinct
  have members : ∀ item ∈ order, ∀ link ∈ item.2, link ∈ links ∧ geometryKey link = item.1 := by
    intro item listed link member
    rw [groups.listed item (perm.mem_iff.mp listed), Dict.mem_values_at] at member
    obtain ⟨other, in_links, same⟩ := List.mem_map.mp member
    obtain ⟨key, rfl⟩ := Prod.mk.inj same
    exact ⟨in_links, key⟩
  have laid_spec : ∃ geometryOf : GeometryKey K → ℤ, ∀ a ∈ laid.assignments, ∃ link ∈ links,
      geometryKey link ∈ order.map Prod.fst ∧ link.linkId = a.linkId ∧
        a.geometryId = geometryOf (geometryKey link) := by
    refine fold_progress (I := fun past s => ∃ geometryOf : GeometryKey K → ℤ,
      ∀ a ∈ s.assignments, ∃ link ∈ links, geometryKey link ∈ past.map Prod.fst ∧
        link.linkId = a.linkId ∧ a.geometryId = geometryOf (geometryKey link)) ?_
      ⟨fun _ => 0, by simp⟩ laying
    rintro past item rest s s' split ⟨geometryOf, each⟩ step
    obtain ⟨rows, grown, fresh⟩ := lay_group_spec step
    have listed : item ∈ order := by simp [split]
    have new_key : item.1 ∉ past.map Prod.fst := by
      rw [split, List.map_append, List.map_cons] at distinct
      exact fun old => (List.nodup_append'.mp distinct).2.2 old List.mem_cons_self
    refine ⟨Function.update geometryOf item.1 s.geometryId, fun a a_listed => ?_⟩
    rw [grown] at a_listed
    rcases List.mem_append.mp a_listed with old | new
    · obtain ⟨link, in_links, key, id, geometry⟩ := each a old
      refine ⟨link, in_links, ?_, id, ?_⟩
      · rw [List.map_append]
        exact List.mem_append_left _ key
      · rw [geometry, Function.update_of_ne fun (same : geometryKey link = item.1) =>
          new_key (same ▸ key)]
    · obtain ⟨geometry, link, member, id⟩ := fresh a new
      obtain ⟨in_links, key⟩ := members item listed link member
      refine ⟨link, in_links, ?_, id, ?_⟩
      · rw [key]
        exact List.mem_map_of_mem (List.mem_append_right _ (List.mem_singleton_self item))
      · rw [geometry, key, Function.update_self]
  obtain ⟨geometryOf, each⟩ := laid_spec
  unfold RoadGeometryCatalog.build at h
  split_ifs at h
  obtain rfl := Except.ok.inj h
  refine ⟨geometryOf, fun a listed => ?_⟩
  obtain ⟨link, in_links, -, id, geometry⟩ := each a (mem_sort_on.mp listed)
  exact ⟨link, in_links, id, geometry⟩

end Catalog

end Metroflow.City.Planarization
