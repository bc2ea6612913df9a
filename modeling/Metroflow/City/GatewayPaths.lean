import Metroflow.City.ScalableLowering
import Metroflow.Lib.BreadthFirst

namespace Metroflow.City.Scalable

open Metroflow.Lib Metroflow.Lib.BreadthFirst

def incidentRoadIds (roads : List PhysicalRoadRecord) (nodeId : ℤ) : List ℤ :=
  roads.flatMap fun road => (if road.startNodeId = nodeId then [road.roadId] else []) ++
    (if road.endNodeId = nodeId then [road.roadId] else [])

def endpointIncidence (nodes : List PhysicalNodeRecord) (roads : List PhysicalRoadRecord) :
    Dict ℤ (List ℤ) :=
  ((nodes.map PhysicalNodeRecord.nodeId).insertionSort (· ≤ ·)).map fun nodeId =>
    (nodeId, (incidentRoadIds roads nodeId).insertionSort (· ≤ ·))

/-- A street network; the fields keep what its constructor checks of the records. -/
structure ScalableStreetNetwork where
  centers : List PointMM
  gatewayNodeIds : List ℤ
  nodes : List PhysicalNodeRecord
  roads : List PhysicalRoadRecord
  endpointIncidence : Dict ℤ (List ℤ)
  node_ids : nodes.map PhysicalNodeRecord.nodeId = (List.range nodes.length).map Int.ofNat
  road_ids : roads.map (fun road => road.roadId) = (List.range roads.length).map Int.ofNat
  ends_known : ∀ road ∈ roads, road.startNodeId ∈ nodes.map PhysicalNodeRecord.nodeId ∧
    road.endNodeId ∈ nodes.map PhysicalNodeRecord.nodeId
  incidence_exact : endpointIncidence = Scalable.endpointIncidence nodes roads

namespace PhysicalRoadRecord

variable (road : PhysicalRoadRecord)

def effectiveFailureGroup : String :=
  match road.failureGroup with
  | some group => if group = "" then "road:" ++ road.semanticId else group
  | none => "road:" ++ road.semanticId

def otherEnd (nodeId : ℤ) : ℤ :=
  if road.startNodeId = nodeId then road.endNodeId else road.startNodeId

def EndsAt (nodeId : ℤ) : Prop := road.startNodeId = nodeId ∨ road.endNodeId = nodeId

end PhysicalRoadRecord

namespace ScalableStreetNetwork

variable (network : ScalableStreetNetwork)

/-- The roads by their ids, which are distinct. -/
def roadsById : Dict ℤ PhysicalRoadRecord := network.roads.map fun road => (road.roadId, road)

def openRoads (excluded : Finset ℤ) (nodeId : ℤ) : List (ℤ × ℤ) :=
  ((network.endpointIncidence.get nodeId).getD []).filterMap fun roadId =>
    if roadId ∈ excluded then none
    -- the incidence lists no unknown road
    else (network.roadsById.get roadId).map fun road => (roadId, road.otherEnd nodeId)

def pathToGateway (start : ℤ) (excluded targets : Finset ℤ) : Option (List ℤ × ℤ) :=
  pathTo (network.openRoads excluded) (fun nodeId => nodeId ∈ targets ∧ nodeId ≠ start)
    (network.nodes.length + 1) start

def centerId (center : PointMM) : Option ℤ :=
  (network.nodes.find? fun node => node.layer = 0 ∧ node.pointMm = center).map
    PhysicalNodeRecord.nodeId

def twoGatewayPaths (center : PointMM) : Bool :=
  match network.centerId center with
  | none => false
  | some centerId =>
    match network.pathToGateway centerId ∅ network.gatewayNodeIds.toFinset with
    | none => false
    | some (firstRoads, firstGateway) =>
      let excludedGroups := firstRoads.filterMap fun roadId =>
        (network.roadsById.get roadId).map (·.effectiveFailureGroup)
      let excludedRoads :=
        ((network.roads.filter (·.effectiveFailureGroup ∈ excludedGroups)).map (·.roadId)).toFinset
      (network.pathToGateway centerId excludedRoads
        (network.gatewayNodeIds.toFinset \ {firstGateway})).isSome

def centerDisjointGatewayPathCount : ℕ := (network.centers.map network.twoGatewayPaths).count true

inductive Path (start : ℤ) : List ℤ → ℤ → Prop
  | nil : Path start [] start
  | snoc {path : List ℤ} {nodeId : ℤ} {road : PhysicalRoadRecord} (front : Path start path nodeId)
      (listed : road ∈ network.roads) (ends : road.EndsAt nodeId) :
      Path start (path ++ [road.roadId]) (road.otherEnd nodeId)

/-- No road of one path fails with a road of the other. -/
def GroupDisjoint (path other : List ℤ) : Prop :=
  ∀ road ∈ network.roads, ∀ road' ∈ network.roads, road.roadId ∈ path → road'.roadId ∈ other →
    road.effectiveFailureGroup ≠ road'.effectiveFailureGroup

/-- Two paths from the center to two gateways share no failure group. -/
def Redundant (center : PointMM) : Prop :=
  ∃ start, network.centerId center = some start ∧
    ∃ path gateway, network.Path start path gateway ∧ gateway ∈ network.gatewayNodeIds ∧
      ∃ path' gateway', network.Path start path' gateway' ∧ gateway' ∈ network.gatewayNodeIds ∧
        gateway ≠ gateway' ∧ network.GroupDisjoint path path'

structure FirstPath (start : ℤ) (path : List ℤ) (gateway : ℤ) : Prop where
  leads : network.Path start path gateway
  to_gateway : gateway ∈ network.gatewayNodeIds ∧ gateway ≠ start
  first : ∀ other gateway', network.Path start other gateway' →
    gateway' ∈ network.gatewayNodeIds → gateway' ≠ start → rank path ≤ rank other

/-- The first path to a gateway leaves the failure groups of another path alone. -/
def Spared (center : PointMM) : Prop :=
  ∃ start, network.centerId center = some start ∧
    ∃ path gateway, network.FirstPath start path gateway ∧
      ∃ path' gateway', network.Path start path' gateway' ∧ gateway' ∈ network.gatewayNodeIds ∧
        gateway' ≠ start ∧ gateway ≠ gateway' ∧ network.GroupDisjoint path path'

end ScalableStreetNetwork

section Incidence

variable {nodes : List PhysicalNodeRecord} {roads : List PhysicalRoadRecord} {nodeId roadId : ℤ}

theorem mem_incident_road_ids : roadId ∈ incidentRoadIds roads nodeId ↔
    ∃ road ∈ roads, road.roadId = roadId ∧ road.EndsAt nodeId := by
  unfold incidentRoadIds PhysicalRoadRecord.EndsAt
  rw [List.mem_flatMap]
  refine exists_congr fun road => and_congr_right fun _ => ?_
  rw [List.mem_append]
  split <;> split <;> simp_all [eq_comm]

theorem incident_road_ids_nodup (distinct : (roads.map (fun road => road.roadId)).Nodup) :
    (incidentRoadIds roads nodeId).Nodup := by
  induction roads with
  | nil => exact List.nodup_nil
  | cons road roads ih =>
    rw [List.map_cons, List.nodup_cons] at distinct
    rw [incidentRoadIds, List.flatMap_cons]
    refine List.nodup_append'.mpr ⟨?_, ih distinct.2, ?_⟩
    · have apart := road.ends_differ
      split <;> split <;> simp_all
    · intro roadId here later
      obtain ⟨other, listed, rfl, -⟩ := mem_incident_road_ids.mp later
      refine distinct.1 (List.mem_map.mpr ⟨other, listed, ?_⟩)
      split at here <;> split at here <;> simp_all

end Incidence

namespace ScalableStreetNetwork

variable {network : ScalableStreetNetwork} {nodeId roadId start gateway : ℤ} {path : List ℤ}
  {excluded targets : Finset ℤ} {road : PhysicalRoadRecord} {center : PointMM}

theorem node_ids_nodup : (network.nodes.map PhysicalNodeRecord.nodeId).Nodup := by
  rw [network.node_ids]
  exact List.nodup_range.map Int.ofNat_injective

theorem road_ids_nodup : (network.roads.map (fun road => road.roadId)).Nodup := by
  rw [network.road_ids]
  exact List.nodup_range.map Int.ofNat_injective

theorem roads_by_id : network.roadsById.get roadId = some road ↔
    road ∈ network.roads ∧ road.roadId = roadId := by
  have keys : network.roadsById.map Prod.fst = network.roads.map (fun road => road.roadId) := by
    simp [roadsById, Function.comp_def]
  rw [Dict.get_eq_some_iff (keys ▸ road_ids_nodup), roadsById, List.mem_map]
  constructor
  · rintro ⟨other, listed, same⟩
    obtain ⟨rfl, rfl⟩ := Prod.mk.inj same
    exact ⟨listed, rfl⟩
  · rintro ⟨listed, rfl⟩
    exact ⟨road, listed, rfl⟩

theorem incidence_at (nodeId : ℤ) :
    (∀ roadId, roadId ∈ (network.endpointIncidence.get nodeId).getD [] ↔
      ∃ road ∈ network.roads, road.roadId = roadId ∧ road.EndsAt nodeId) ∧
    ((network.endpointIncidence.get nodeId).getD []).Pairwise (· < ·) := by
  have keys : network.endpointIncidence.map Prod.fst =
      (network.nodes.map PhysicalNodeRecord.nodeId).insertionSort (· ≤ ·) := by
    rw [network.incidence_exact, Scalable.endpointIncidence, List.map_map]
    exact List.map_id _
  have distinct : (network.endpointIncidence.map Prod.fst).Nodup := by
    rw [keys, (List.perm_insertionSort _ _).nodup_iff]
    exact node_ids_nodup
  by_cases known : nodeId ∈ network.nodes.map PhysicalNodeRecord.nodeId
  · have found : network.endpointIncidence.get nodeId =
        some ((incidentRoadIds network.roads nodeId).insertionSort (· ≤ ·)) := by
      rw [Dict.get_eq_some_iff distinct, network.incidence_exact, Scalable.endpointIncidence]
      exact List.mem_map.mpr ⟨nodeId, (List.mem_insertionSort _).mpr known, rfl⟩
    rw [found, Option.getD_some]
    constructor
    · intro roadId
      rw [List.mem_insertionSort, mem_incident_road_ids]
    · have sorted := List.pairwise_insertionSort (· ≤ ·) (incidentRoadIds network.roads nodeId)
      have apart : ((incidentRoadIds network.roads nodeId).insertionSort (· ≤ ·)).Nodup :=
        (List.perm_insertionSort _ _).nodup_iff.mpr (incident_road_ids_nodup road_ids_nodup)
      exact (sorted.and apart).imp fun pair => lt_of_le_of_ne pair.1 pair.2
  · have missing : network.endpointIncidence.get nodeId = none := by
      by_contra some_there
      obtain ⟨ids, found⟩ := Option.ne_none_iff_exists'.mp some_there
      refine known ((List.mem_insertionSort (· ≤ ·)).mp (keys ▸ ?_))
      exact Dict.mem_keys_iff.mpr ⟨ids, found⟩
    rw [missing, Option.getD_none]
    refine ⟨fun roadId => ⟨fun listed => absurd listed List.not_mem_nil, ?_⟩, List.Pairwise.nil⟩
    rintro ⟨road, listed, -, rfl | rfl⟩
    · exact absurd (network.ends_known road listed).1 known
    · exact absurd (network.ends_known road listed).2 known

theorem mem_open_roads {other : ℤ} : (roadId, other) ∈ network.openRoads excluded nodeId ↔
    roadId ∉ excluded ∧ ∃ road ∈ network.roads, road.roadId = roadId ∧ road.EndsAt nodeId ∧
      road.otherEnd nodeId = other := by
  unfold openRoads
  rw [List.mem_filterMap]
  constructor
  · rintro ⟨roadId', listed, taken⟩
    split at taken
    · cases taken
    · rename_i allowed
      obtain ⟨road, found, same⟩ := Option.map_eq_some_iff.mp taken
      obtain ⟨rfl, rfl⟩ := Prod.mk.inj same
      obtain ⟨road_mem, id_eq⟩ := roads_by_id.mp found
      obtain ⟨road', road_mem', id_eq', ends⟩ := ((incidence_at nodeId).1 _).mp listed
      obtain rfl := List.inj_on_of_nodup_map road_ids_nodup road_mem road_mem'
        (id_eq.trans id_eq'.symm)
      exact ⟨allowed, road, road_mem, id_eq, ends, rfl⟩
  · rintro ⟨allowed, road, road_mem, rfl, ends, rfl⟩
    refine ⟨road.roadId, ((incidence_at nodeId).1 _).mpr ⟨road, road_mem, rfl, ends⟩, ?_⟩
    rw [if_neg allowed, roads_by_id.mpr ⟨road_mem, rfl⟩, Option.map_some]

theorem open_roads_sorted (excluded : Finset ℤ) (nodeId : ℤ) :
    (network.openRoads excluded nodeId).Pairwise fun a b => a.1 < b.1 := by
  unfold openRoads
  refine List.Pairwise.filterMap _ (fun id id' before a found b found' => ?_)
    (incidence_at nodeId).2
  split at found
  · cases found
  split at found'
  · cases found'
  obtain ⟨road, -, rfl⟩ := Option.map_eq_some_iff.mp found
  obtain ⟨road', -, rfl⟩ := Option.map_eq_some_iff.mp found'
  exact before

theorem walk_iff : Walk (network.openRoads excluded) start path nodeId ↔
    network.Path start path nodeId ∧ ∀ roadId ∈ path, roadId ∉ excluded := by
  constructor
  · intro walk
    induction walk with
    | nil => exact ⟨.nil, by simp⟩
    | snoc front edge ih =>
      obtain ⟨leads, allowed⟩ := ih
      obtain ⟨open_road, road, listed, rfl, ends, rfl⟩ := mem_open_roads.mp edge
      refine ⟨leads.snoc listed ends, fun roadId taken => ?_⟩
      rcases List.mem_append.mp taken with before | last
      · exact allowed roadId before
      · obtain rfl := List.mem_singleton.mp last
        exact open_road
  · rintro ⟨leads, allowed⟩
    induction leads with
    | nil => exact .nil
    | @snoc path nodeId road front listed ends ih =>
      refine (ih fun roadId taken => allowed roadId (List.mem_append_left _ taken)).snoc ?_
      exact mem_open_roads.mpr ⟨allowed _ (by simp), road, listed, rfl, ends, rfl⟩

theorem path_known (known : start ∈ network.nodes.map PhysicalNodeRecord.nodeId)
    (leads : network.Path start path nodeId) :
    nodeId ∈ network.nodes.map PhysicalNodeRecord.nodeId := by
  cases leads with
  | nil => exact known
  | @snoc _ nodeId road _ listed _ =>
    unfold PhysicalRoadRecord.otherEnd
    split
    · exact (network.ends_known road listed).2
    · exact (network.ends_known road listed).1

theorem center_known (found : network.centerId center = some start) :
    start ∈ network.nodes.map PhysicalNodeRecord.nodeId := by
  obtain ⟨node, here, rfl⟩ := Option.map_eq_some_iff.mp found
  exact List.mem_map_of_mem (List.mem_of_find?_eq_some here)

theorem path_to_gateway_spec (known : start ∈ network.nodes.map PhysicalNodeRecord.nodeId)
    (excluded targets : Finset ℤ) :
    (network.pathToGateway start excluded targets = none ∧
      ∀ path target, network.Path start path target → (∀ roadId ∈ path, roadId ∉ excluded) →
        target ∈ targets → target = start) ∨
    ∃ path target, network.pathToGateway start excluded targets = some (path.reverse, target) ∧
      network.Path start path target ∧ (∀ roadId ∈ path, roadId ∉ excluded) ∧
      target ∈ targets ∧ target ≠ start ∧
      ∀ other target', network.Path start other target' → (∀ roadId ∈ other, roadId ∉ excluded) →
        target' ∈ targets → target' ≠ start → rank path ≤ rank other := by
  have inside : ∀ path nodeId, Walk (network.openRoads excluded) start path nodeId →
      nodeId ∈ network.nodes.map PhysicalNodeRecord.nodeId :=
    fun _ _ walk => path_known known (walk_iff.mp walk).1
  rcases path_to_spec (fun nodeId => nodeId ∈ targets ∧ nodeId ≠ start) (network.nodes.length + 1)
    inside (open_roads_sorted excluded) (by simp) with
    ⟨result, none_there⟩ | ⟨path, target, result, least⟩
  · refine .inl ⟨result, fun path target leads allowed wanted => ?_⟩
    by_contra away
    exact none_there path target (walk_iff.mpr ⟨leads, allowed⟩) ⟨wanted, away⟩
  · obtain ⟨leads, allowed⟩ := walk_iff.mp least.walk
    refine .inr ⟨path, target, result, leads, allowed, least.stops.1, least.stops.2, ?_⟩
    intro other target' leads' allowed' wanted away
    exact least.least other target' (walk_iff.mpr ⟨leads', allowed'⟩) ⟨wanted, away⟩

theorem path_end {other : ℤ} (leads : network.Path start path nodeId)
    (leads' : network.Path start path other) : nodeId = other := by
  generalize same : path = path' at leads'
  induction leads generalizing path' other with
  | nil =>
    cases leads' with
    | nil => rfl
    | snoc => exact absurd same.symm (by simp)
  | @snoc front nodeId road leads listed ends ih =>
    cases leads' with
    | nil => exact absurd same (by simp)
    | @snoc front' nodeId' road' leads' listed' ends' =>
      obtain ⟨rfl, last⟩ := List.append_inj' same rfl
      obtain rfl := List.inj_on_of_nodup_map road_ids_nodup listed listed'
        (List.singleton_inj.mp last)
      rw [ih _ rfl leads']

theorem FirstPath.unique {path' : List ℤ} {gateway' : ℤ} (h : network.FirstPath start path gateway)
    (h' : network.FirstPath start path' gateway') : path = path' ∧ gateway = gateway' := by
  have same := le_antisymm (h.first path' gateway' h'.leads h'.to_gateway.1 h'.to_gateway.2)
    (h'.first path gateway h.leads h.to_gateway.1 h.to_gateway.2)
  have path_eq : path = path' := congrArg (fun r => (ofLex r).2) same
  exact ⟨path_eq, path_end h.leads (path_eq ▸ h'.leads)⟩

theorem spared_roads_iff {firstRoads : List ℤ} :
    (∀ roadId ∈ path, roadId ∉ ((network.roads.filter (·.effectiveFailureGroup ∈
      firstRoads.reverse.filterMap fun roadId =>
        (network.roadsById.get roadId).map (·.effectiveFailureGroup))).map (·.roadId)).toFinset) ↔
      network.GroupDisjoint firstRoads path := by
  have group : ∀ name, name ∈ (firstRoads.reverse.filterMap fun roadId =>
      (network.roadsById.get roadId).map (·.effectiveFailureGroup)) ↔
      ∃ road ∈ network.roads, road.roadId ∈ firstRoads ∧ road.effectiveFailureGroup = name := by
    intro name
    rw [List.mem_filterMap]
    constructor
    · rintro ⟨roadId, taken, found⟩
      obtain ⟨road, here, rfl⟩ := Option.map_eq_some_iff.mp found
      obtain ⟨listed, rfl⟩ := roads_by_id.mp here
      exact ⟨road, listed, List.mem_reverse.mp taken, rfl⟩
    · rintro ⟨road, listed, taken, rfl⟩
      refine ⟨road.roadId, List.mem_reverse.mpr taken, ?_⟩
      rw [roads_by_id.mpr ⟨listed, rfl⟩, Option.map_some]
  constructor
  · intro allowed road listed road' listed' taken taken' same
    refine allowed _ taken' (List.mem_toFinset.mpr (List.mem_map.mpr ⟨road', ?_, rfl⟩))
    exact List.mem_filter.mpr ⟨listed', decide_eq_true ((group _).mpr ⟨road, listed, taken, same⟩)⟩
  · intro disjoint roadId taken excluded
    obtain ⟨road', found, rfl⟩ := List.mem_map.mp (List.mem_toFinset.mp excluded)
    obtain ⟨listed', shared⟩ := List.mem_filter.mp found
    obtain ⟨road, listed, taken', same⟩ := (group _).mp (of_decide_eq_true shared)
    exact disjoint road listed road' listed' taken' taken same

theorem two_gateway_paths_iff : network.twoGatewayPaths center = true ↔ network.Spared center := by
  unfold twoGatewayPaths Spared
  cases found : network.centerId center with
  | none => simp
  | some centerId =>
    have known := center_known found
    dsimp only
    rcases path_to_gateway_spec known ∅ network.gatewayNodeIds.toFinset with
      ⟨result, none_there⟩ | ⟨path, gateway, result, leads, -, to_gateway, away, first⟩
    · rw [result]
      refine ⟨fun fails => absurd fails Bool.false_ne_true, ?_⟩
      rintro ⟨start, same, path, gateway, ⟨leads, ⟨listed, away⟩, -⟩, -⟩
      obtain rfl := Option.some.inj same
      exact absurd (none_there path gateway leads (by simp) (List.mem_toFinset.mpr listed)) away
    · have first_path : network.FirstPath centerId path gateway :=
        ⟨leads, ⟨List.mem_toFinset.mp to_gateway, away⟩, fun other gateway' leads' listed' away' =>
          first other gateway' leads' (by simp) (List.mem_toFinset.mpr listed') away'⟩
      rw [result]
      dsimp only
      rcases path_to_gateway_spec known ((network.roads.filter (·.effectiveFailureGroup ∈
        path.reverse.filterMap fun roadId => (network.roadsById.get roadId).map
          (·.effectiveFailureGroup))).map (·.roadId)).toFinset
        (network.gatewayNodeIds.toFinset \ {gateway}) with
        ⟨result', none_there⟩ | ⟨path', gateway', result', leads', allowed, to_gateway', away', -⟩
      · rw [result']
        refine ⟨fun fails => absurd fails Bool.false_ne_true, ?_⟩
        rintro ⟨start, same, path₁, gateway₁, first₁, path', gateway', leads', listed', away',
          apart, disjoint⟩
        obtain rfl := Option.some.inj same
        obtain ⟨rfl, rfl⟩ := first_path.unique first₁
        refine absurd (none_there path' gateway' leads' (spared_roads_iff.mpr disjoint) ?_)
          away'
        rw [Finset.mem_sdiff, List.mem_toFinset, Finset.mem_singleton]
        exact ⟨listed', apart.symm⟩
      · rw [result']
        rw [Finset.mem_sdiff, List.mem_toFinset, Finset.mem_singleton] at to_gateway'
        exact ⟨fun _ => ⟨centerId, rfl, path, gateway, first_path, path', gateway', leads',
          to_gateway'.1, away', Ne.symm to_gateway'.2, spared_roads_iff.mp allowed⟩,
          fun _ => rfl⟩

theorem Spared.redundant (h : network.Spared center) : network.Redundant center := by
  obtain ⟨start, found, path, gateway, first, path', gateway', leads', listed', -, apart,
    disjoint⟩ := h
  exact ⟨start, found, path, gateway, first.leads, first.to_gateway.1, path', gateway', leads',
    listed', apart, disjoint⟩

/-- The verdict on a center is right unless it has a pair of paths but the first path has no
partner, and the count over the centers falls short only where that happens. -/
theorem two_gateway_paths_exact (network : ScalableStreetNetwork) :
    (∀ center, (network.twoGatewayPaths center = true ↔ network.Redundant center) ↔
      (network.Redundant center → network.Spared center)) ∧
    ((network.centerDisjointGatewayPathCount = network.centers.length ↔
        ∀ center ∈ network.centers, network.Redundant center) ↔
      ((∀ center ∈ network.centers, network.Redundant center) →
        ∀ center ∈ network.centers, network.Spared center)) := by
  have counted : network.centerDisjointGatewayPathCount = network.centers.length ↔
      ∀ center ∈ network.centers, network.Spared center := by
    unfold centerDisjointGatewayPathCount
    rw [← List.length_map network.twoGatewayPaths, List.count_eq_length, List.forall_mem_map]
    refine forall₂_congr fun center _ => ?_
    rw [eq_comm, two_gateway_paths_iff]
  constructor
  · intro center
    rw [two_gateway_paths_iff]
    exact ⟨fun exact redundant => exact.mpr redundant, fun spared => ⟨Spared.redundant, spared⟩⟩
  · rw [counted]
    exact ⟨fun exact redundant => exact.mpr redundant,
      fun spared => ⟨fun each center listed => (each center listed).redundant, spared⟩⟩

theorem first_ids : (0 : ℤ) ≤ 0 ∧ (0 : ℤ) ≤ 0 ∧ (0 : ℤ) ≤ 1 := by decide

theorem surface_level : FacilityKind.surface = .ramp ↔ (none : Option (ℤ × ℤ)).isSome := by decide

theorem ramp_layer : FacilityKind.ramp = .mainline → (1 : ℤ) = 1 := fun _ => rfl

theorem ramp_rises : FacilityKind.ramp = .ramp ↔ (some ((0 : ℤ), (1 : ℤ))).isSome := by decide

/-- Of the two junctions beside the center, the first has ramps to both gateways. -/
def forkedNetwork : ScalableStreetNetwork where
  centers := [(0, 0)]
  gatewayNodeIds := [3, 4]
  nodes := [⟨0, "n0", 0, 0, 0, Lib.zero_id⟩, ⟨1, "n1", 10, 0, 0, Lib.one_id⟩,
    ⟨2, "n2", 0, 10, 0, Lib.two_id⟩, ⟨3, "n3", 10, 10, 1, Lib.three_id⟩, ⟨4, "n4", 20, 0, 1, Lib.four_id⟩]
  roads := [
    { roadId := 0, semanticId := "r0", startNodeId := 0, endNodeId := 1,
      pointsMm := [(0, 0), (10, 0)], facility := .surface, layer := 0, hierarchy := .arterial,
      accessDirections := {.forward, .reverse}, profileId := "v2:surface:arterial",
      provenance := "grid", ids_nonneg := first_ids, ends_differ := Lib.ids_zero_one,
      ramp_transition := surface_level },
    { roadId := 1, semanticId := "r1", startNodeId := 1, endNodeId := 3,
      pointsMm := [(10, 0), (10, 10)], facility := .ramp, layer := 1,
      layerTransition := some (0, 1), hierarchy := .arterial, accessDirections := {.forward},
      profileId := "v2:ramp", provenance := "grid", rampPurpose := some .onRamp,
      mainline_layer := ramp_layer, ramp_transition := ramp_rises },
    { roadId := 2, semanticId := "r2", startNodeId := 1, endNodeId := 4,
      pointsMm := [(10, 0), (20, 0)], facility := .ramp, layer := 1,
      layerTransition := some (0, 1), hierarchy := .arterial, accessDirections := {.forward},
      profileId := "v2:ramp", provenance := "grid", rampPurpose := some .onRamp,
      mainline_layer := ramp_layer, ramp_transition := ramp_rises },
    { roadId := 3, semanticId := "r3", startNodeId := 0, endNodeId := 2,
      pointsMm := [(0, 0), (0, 10)], facility := .surface, layer := 0, hierarchy := .arterial,
      accessDirections := {.forward, .reverse}, profileId := "v2:surface:arterial",
      provenance := "grid", ramp_transition := surface_level },
    { roadId := 4, semanticId := "r4", startNodeId := 2, endNodeId := 3,
      pointsMm := [(0, 10), (10, 10)], facility := .ramp, layer := 1,
      layerTransition := some (0, 1), hierarchy := .arterial, accessDirections := {.forward},
      profileId := "v2:ramp", provenance := "grid", rampPurpose := some .onRamp,
      ends_differ := Lib.ids_two_three, mainline_layer := ramp_layer, ramp_transition := ramp_rises }]
  endpointIncidence := [(0, [0, 3]), (1, [0, 1, 2]), (2, [3, 4]), (3, [1, 4]), (4, [2])]
  node_ids := by decide
  road_ids := by decide
  ends_known := by decide
  incidence_exact := by decide

/-- The first path takes the one road that a path to the second gateway needs; the search does not
try the other path to the first gateway. -/
theorem forked_network_passed_over :
    ¬ ∀ (network : ScalableStreetNetwork) (center : PointMM),
      network.twoGatewayPaths center = true ↔ network.Redundant center := by
  intro exact
  have found : forkedNetwork.twoGatewayPaths (0, 0) = false := by decide
  have road : ∀ i, (h : i < 5) → forkedNetwork.roads[i] ∈ forkedNetwork.roads :=
    fun i h => List.getElem_mem h
  have left : forkedNetwork.Path 0 [3] 2 :=
    @Path.snoc forkedNetwork 0 [] 0 _ .nil (road 3 (by decide)) (.inl rfl)
  have first : forkedNetwork.Path 0 [3, 4] 3 :=
    @Path.snoc forkedNetwork 0 [3] 2 _ left (road 4 (by decide)) (.inl rfl)
  have right : forkedNetwork.Path 0 [0] 1 :=
    @Path.snoc forkedNetwork 0 [] 0 _ .nil (road 0 (by decide)) (.inl rfl)
  have second : forkedNetwork.Path 0 [0, 2] 4 :=
    @Path.snoc forkedNetwork 0 [0] 1 _ right (road 2 (by decide)) (.inl rfl)
  have disjoint : forkedNetwork.GroupDisjoint [3, 4] [0, 2] := by
    unfold GroupDisjoint
    decide
  have redundant : forkedNetwork.Redundant (0, 0) :=
    ⟨0, by decide, [3, 4], 3, first, by decide, [0, 2], 4, second, by decide, by decide, disjoint⟩
  rw [(exact _ _).mpr redundant] at found
  cases found

end ScalableStreetNetwork

end Metroflow.City.Scalable
