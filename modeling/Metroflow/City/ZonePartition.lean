import Metroflow.City.ZonePlan

namespace Metroflow.City

open Metroflow.Lib Metroflow.Map

namespace Assignment

variable {zoneIds : List ℕ} {s : Assignment} {nodeId other : ℤ} {zoneId z : ℕ}

structure Partition (zoneIds : List ℕ) (s : Assignment) : Prop where
  keys : s.zoneNodeLists.map Prod.fst = zoneIds
  owner : ∀ nodeId zoneId, nodeId ∈ s.listed zoneId ↔ s.nodeZoneById.get nodeId = some zoneId
  nodup : ∀ zoneId, (s.listed zoneId).Nodup
  owned : (s.nodeZoneById.map Prod.fst).Nodup

theorem listed_place :
    (s.place nodeId zoneId).listed z =
      if z = zoneId then s.listed zoneId ++ [nodeId] else s.listed z := by
  unfold listed place
  rw [Dict.get_set]
  split <;> rfl

theorem Partition.zone_known (h : Partition zoneIds s) (listed : nodeId ∈ s.listed zoneId) :
    zoneId ∈ zoneIds := by
  rw [← h.keys, Dict.mem_keys_iff]
  unfold Assignment.listed at listed
  rcases found : s.zoneNodeLists.get zoneId with _ | ids
  · rw [found] at listed
    cases listed
  · exact ⟨ids, rfl⟩

theorem Partition.place_fresh (h : Partition zoneIds s) (known : zoneId ∈ zoneIds)
    (fresh : s.nodeZoneById.get nodeId = none) : Partition zoneIds (s.place nodeId zoneId) where
  keys := (Dict.keys_set_of_mem (h.keys ▸ known)).trans h.keys
  owner n z := by
    have unlisted : ∀ z, nodeId ∉ s.listed z := fun z listed => by
      rw [h.owner, fresh] at listed
      cases listed
    change n ∈ (s.place nodeId zoneId).listed z ↔ (s.nodeZoneById.set nodeId zoneId).get n = some z
    rw [listed_place, Dict.get_set]
    by_cases same : n = nodeId
    · subst same
      rw [if_pos rfl, Option.some.injEq]
      split
      · rename_i here
        simp [here]
      · rename_i elsewhere
        exact iff_of_false (unlisted z) (Ne.symm elsewhere)
    · rw [if_neg same, ← h.owner]
      split
      · rename_i here
        simp [here, same]
      · rfl
  nodup z := by
    rw [listed_place]
    split
    · rw [List.nodup_append']
      refine ⟨h.nodup zoneId, List.nodup_singleton _, ?_⟩
      rw [List.disjoint_singleton, h.owner, fresh]
      exact nofun
    · exact h.nodup z
  owned := Dict.nodup_keys_set h.owned

theorem Partition.listed_withdraw (h : Partition zoneIds s) :
    (s.withdraw nodeId).listed z = (s.listed z).erase nodeId := by
  unfold withdraw
  rcases found : s.nodeZoneById.get nodeId with _ | previous
  · refine (List.erase_of_not_mem ?_).symm
    rw [h.owner, found]
    exact nofun
  · have here : nodeId ∈ s.listed previous := (h.owner _ _).mpr found
    dsimp only
    rw [if_pos here]
    change ((s.zoneNodeLists.set previous ((s.listed previous).erase nodeId)).get z).getD [] = _
    rw [Dict.get_set]
    split
    · rename_i same
      rw [same]
      rfl
    · rename_i apart
      refine (List.erase_of_not_mem ?_).symm
      change nodeId ∉ s.listed z
      rw [h.owner, found, Option.some.injEq]
      exact Ne.symm apart

theorem Partition.keys_withdraw (h : Partition zoneIds s) :
    (s.withdraw nodeId).zoneNodeLists.map Prod.fst = zoneIds := by
  unfold withdraw
  split
  · split
    · rename_i listed
      exact (Dict.keys_set_of_mem (h.keys ▸ h.zone_known listed)).trans h.keys
    · exact h.keys
  · exact h.keys

theorem node_zone_withdraw : (s.withdraw nodeId).nodeZoneById = s.nodeZoneById := by
  unfold withdraw
  split
  · split <;> rfl
  · rfl

theorem Partition.anchor (h : Partition zoneIds s) (nodeId : ℤ) (known : zoneId ∈ zoneIds) :
    Partition zoneIds (s.anchor zoneId nodeId) ∧ nodeId ∈ (s.anchor zoneId nodeId).listed zoneId ∧
      ∀ n ≠ nodeId, ∀ z, n ∈ s.listed z → n ∈ (s.anchor zoneId nodeId).listed z := by
  unfold Assignment.anchor
  split
  · rename_i already
    exact ⟨h, already, fun n _ z listed => listed⟩
  have lists : ∀ z, ((s.withdraw nodeId).place nodeId zoneId).listed z =
      if z = zoneId then (s.listed zoneId).erase nodeId ++ [nodeId]
      else (s.listed z).erase nodeId := by
    intro z
    rw [listed_place, h.listed_withdraw, h.listed_withdraw]
  have left : ∀ z, nodeId ∉ (s.listed z).erase nodeId := fun z => (h.nodup z).not_mem_erase
  refine ⟨⟨?_, fun n z => ?_, fun z => ?_, ?_⟩, ?_, fun n apart z listed => ?_⟩
  · exact (Dict.keys_set_of_mem (h.keys_withdraw ▸ known)).trans h.keys_withdraw
  · change _ ↔ ((s.withdraw nodeId).nodeZoneById.set nodeId zoneId).get n = some z
    rw [lists, node_zone_withdraw, Dict.get_set]
    by_cases same : n = nodeId
    · subst same
      rw [if_pos rfl, Option.some.injEq]
      split
      · rename_i here
        simp [here]
      · rename_i elsewhere
        exact iff_of_false (left z) (Ne.symm elsewhere)
    · rw [if_neg same, ← h.owner]
      split
      · rename_i here
        simp [here, same, List.mem_erase_of_ne same]
      · exact List.mem_erase_of_ne same
  · rw [lists]
    split
    · rw [List.nodup_append']
      refine ⟨(h.nodup zoneId).erase _, List.nodup_singleton _, ?_⟩
      rw [List.disjoint_singleton]
      exact left zoneId
    · exact (h.nodup z).erase _
  · change ((((s.withdraw nodeId).nodeZoneById).set nodeId zoneId).map Prod.fst).Nodup
    rw [node_zone_withdraw]
    exact Dict.nodup_keys_set h.owned
  · rw [lists, if_pos rfl]
    exact List.mem_append_right _ (List.mem_singleton_self _)
  · rw [lists]
    split
    · rename_i here
      rw [here] at listed
      exact List.mem_append_left _ ((List.mem_erase_of_ne apart).mpr listed)
    · exact (List.mem_erase_of_ne apart).mpr listed

/-- The nodes that have a zone. -/
def Covers (nodeIds : List ℤ) (s : Assignment) : Prop :=
  ∀ nodeId, (∃ zoneId, s.nodeZoneById.get nodeId = some zoneId) ↔ nodeId ∈ nodeIds

theorem Covers.set {nodeIds : List ℤ} (h : s.Covers nodeIds) :
    (∃ z, (s.nodeZoneById.set nodeId zoneId).get other = some z) ↔
      other = nodeId ∨ other ∈ nodeIds := by
  rw [Dict.get_set, ← h other]
  split
  · rename_i same
    simp [same]
  · rename_i apart
    simp [apart]

theorem Covers.anchor {nodeIds : List ℤ} (h : s.Covers nodeIds) (known : nodeId ∈ nodeIds) :
    (s.anchor zoneId nodeId).Covers nodeIds := by
  unfold Assignment.anchor
  split
  · exact h
  · intro other
    change (∃ z, ((s.withdraw nodeId).nodeZoneById.set nodeId zoneId).get other = some z) ↔ _
    rw [node_zone_withdraw, h.set]
    exact or_iff_right_of_imp fun same => same ▸ known

section Runs

variable {K : Type} {nodes centers : List (MapNode K)} {zones : List (Zone K)}

theorem Partition.anchors {nodeIds : List ℤ} (h : Partition zoneIds s) (covers : s.Covers nodeIds)
    (pairs : List (Zone K × MapNode K)) (zones_known : ∀ pair ∈ pairs, pair.1.zoneId ∈ zoneIds)
    (centers_known : ∀ pair ∈ pairs, pair.2.nodeId ∈ nodeIds)
    (apart : (pairs.map fun pair => pair.2.nodeId).Nodup) :
    let last := pairs.foldl (fun s pair => s.anchor pair.1.zoneId pair.2.nodeId) s
    Partition zoneIds last ∧ last.Covers nodeIds ∧
      (∀ pair ∈ pairs, pair.2.nodeId ∈ last.listed pair.1.zoneId) ∧
      ∀ n ∉ pairs.map (fun pair => pair.2.nodeId), ∀ z, n ∈ s.listed z → n ∈ last.listed z := by
  induction pairs generalizing s with
  | nil => exact ⟨h, covers, by simp, fun n _ z listed => listed⟩
  | cons pair pairs ih =>
    obtain ⟨zone_known, zones_known⟩ := List.forall_mem_cons.mp zones_known
    obtain ⟨center_known, centers_known⟩ := List.forall_mem_cons.mp centers_known
    obtain ⟨other_centers, apart⟩ := List.nodup_cons.mp apart
    obtain ⟨kept, own, others⟩ := h.anchor pair.2.nodeId zone_known
    obtain ⟨partition, cover, each, left⟩ :=
      ih kept (covers.anchor center_known) zones_known centers_known apart
    refine ⟨partition, cover, ?_, fun n absent z listed => ?_⟩
    · rw [List.forall_mem_cons]
      exact ⟨left _ other_centers _ own, each⟩
    · rw [List.map_cons, List.mem_cons, not_or] at absent
      exact left n absent.2 z (others n absent.1 z listed)

theorem mem_min_key {κ : Type} {before : κ → κ → Bool} {keys : List κ} {key : κ}
    (found : minKey before keys = some key) : key ∈ keys := by
  cases keys with
  | nil => cases found
  | cons first keys =>
    obtain rfl := Option.some.inj found
    clear found
    induction keys generalizing first with
    | nil => exact List.mem_singleton_self _
    | cons next keys ih =>
      rw [List.foldl_cons]
      rcases List.mem_cons.mp (ih (if before next first then next else first)) with here | later
      · rw [here]
        split <;> simp
      · exact List.mem_cons_of_mem _ (List.mem_cons_of_mem _ later)

variable [Scalar K]

theorem nearest_zone_known (node : MapNode K) {zoneCenters : Dict ℕ (PointM K)}
    (some_zone : zoneCenters ≠ []) :
    ∃ zoneId ∈ zoneCenters.map Prod.fst, nearestZoneId node zoneCenters = some zoneId := by
  unfold nearestZoneId
  rcases found : minKey _ zoneCenters with _ | key
  · cases zoneCenters with
    | nil => exact absurd rfl some_zone
    | cons => cases found
  · exact ⟨key.1, List.mem_map_of_mem (mem_min_key found), rfl⟩

theorem Partition.assign_nodes {zoneCenters : Dict ℕ (PointM K)} (some_zone : zoneCenters ≠ [])
    (h : Partition (zoneCenters.map Prod.fst) s) (nobody : s.Covers [])
    (distinct : (nodes.map MapNode.nodeId).Nodup) :
    ∃ s', assignNodes nodes zoneCenters s = .ok s' ∧
      Partition (zoneCenters.map Prod.fst) s' ∧ s'.Covers (nodes.map MapNode.nodeId) := by
  refine fold_total (I := fun past s =>
    Partition (zoneCenters.map Prod.fst) s ∧ s.Covers (past.map MapNode.nodeId)) ?_ ⟨h, nobody⟩
  rintro past node rest s rfl ⟨partition, covers⟩
  obtain ⟨zoneId, known, nearest⟩ := nearest_zone_known node some_zone
  rw [nearest]
  have fresh : s.nodeZoneById.get node.nodeId = none := by
    rw [List.map_append, List.map_cons] at distinct
    have absent := List.disjoint_of_nodup_append distinct
    by_contra taken
    obtain ⟨z, found⟩ := Option.ne_none_iff_exists'.mp taken
    exact absent ((covers _).mp ⟨z, found⟩) List.mem_cons_self
  refine ⟨_, rfl, partition.place_fresh known fresh, fun other => ?_⟩
  rw [List.map_append, List.mem_append, List.map_singleton, List.mem_singleton, or_comm]
  exact covers.set

end Runs

end Assignment

section Pois

variable {K : Type} {zone : Zone K} {zones : List (Zone K)} {anchors : List ℤ} {center : Option ℤ}
  {poiId turn : ℕ} {zoneNodeIds : Dict ℕ (List ℤ)} {centers : Dict ℕ ℤ}

theorem poi_capacity_pos (poiType : PoiType) : ¬ poiCapacityHint zone poiType < 0 := by
  unfold poiCapacityHint
  split <;> omega

theorem next_poi_node_spec (index : ℕ) (some_node : turn < anchors.length)
    (central : ∀ c, center = some c → c ∈ anchors) :
    (nextPoiNode anchors center turn index).1 ∈ anchors ∧
      (nextPoiNode anchors center turn index).2 < anchors.length := by
  unfold nextPoiNode
  split
  · exact ⟨central _ rfl, some_node⟩
  · dsimp only
    rw [List.getD_eq_getElem?_getD, List.getElem?_eq_getElem some_node]
    exact ⟨List.getElem_mem _, Nat.mod_lt _ (by omega)⟩

theorem place_pois_spec (some_node : turn < anchors.length)
    (central : ∀ c, center = some c → c ∈ anchors) (slots : List (PoiType × ℕ)) :
    ∃ pois, placePois zone anchors center poiId turn slots = .ok pois ∧
      pois.map Poi.poiId = List.range' poiId pois.length ∧
      ∀ poi ∈ pois, poi.zoneId = zone.zoneId ∧ poi.nodeId ∈ anchors := by
  induction slots generalizing poiId turn with
  | nil => exact ⟨[], rfl, rfl, by simp⟩
  | cons slot slots ih =>
    obtain ⟨poiType, index⟩ := slot
    obtain ⟨inside, next⟩ := next_poi_node_spec index some_node central
    obtain ⟨pois, later, numbers, each⟩ := ih next
    have built : Poi.build ⟨poiId, zone.zoneId, poiType, _, poiCapacityHint zone poiType⟩ =
        .ok ⟨poiId, zone.zoneId, poiType, (nextPoiNode anchors center turn index).1,
          poiCapacityHint zone poiType⟩ := if_neg (poi_capacity_pos poiType)
    refine ⟨_ :: pois, bind_ok.mpr ⟨_, built, bind_ok.mpr ⟨pois, later, rfl⟩⟩, ?_, ?_⟩
    · rw [List.map_cons, numbers, List.length_cons, List.range'_succ]
    · rw [List.forall_mem_cons]
      exact ⟨⟨rfl, inside⟩, each⟩

theorem place_zone_pois_spec {multiplier scaling seedOffset : ℕ}
    (central : ∀ zone ∈ zones, ∀ c, centers.get zone.zoneId = some c →
      c ∈ (zoneNodeIds.get zone.zoneId).getD []) :
    ∃ pois, placeZonePois zoneNodeIds centers multiplier scaling seedOffset poiId zones = .ok pois ∧
      pois.map Poi.poiId = List.range' poiId pois.length ∧
      ∀ poi ∈ pois, poi.zoneId ∈ zones.map Zone.zoneId ∧
        poi.nodeId ∈ (zoneNodeIds.get poi.zoneId).getD [] := by
  induction zones generalizing poiId with
  | nil => exact ⟨[], rfl, rfl, by simp⟩
  | cons zone zones ih =>
    obtain ⟨here, later⟩ := List.forall_mem_cons.mp central
    unfold placeZonePois
    split
    · obtain ⟨pois, placed, numbers, each⟩ := ih later
      exact ⟨pois, placed, numbers, fun poi listed =>
        ⟨List.mem_cons_of_mem _ (each poi listed).1, (each poi listed).2⟩⟩
    · rename_i first rest nodes
      rw [nodes] at here
      have turn_inside : (seedOffset + zone.zoneId) % (first :: rest).length <
          (first :: rest).length := Nat.mod_lt _ (Nat.succ_pos _)
      obtain ⟨own, placed, numbers, each⟩ := place_pois_spec turn_inside here
        ((poiMixForZone zone.zoneType multiplier).flatMap fun mix =>
          (List.range (max 1 (mix.2 * scaling))).map fun index => (mix.1, index))
      obtain ⟨others, placed', numbers', each'⟩ := ih later
      refine ⟨own ++ others, bind_ok.mpr ⟨own, placed, bind_ok.mpr ⟨others, placed', rfl⟩⟩, ?_, ?_⟩
      · rw [List.map_append, numbers, numbers', List.length_append, List.range'_append_1]
      · intro poi listed
        rcases List.mem_append.mp listed with mine | other
        · obtain ⟨zone_id, inside⟩ := each poi mine
          rw [zone_id, nodes]
          exact ⟨List.mem_cons_self, inside⟩
        · exact ⟨List.mem_cons_of_mem _ (each' poi other).1, (each' poi other).2⟩

theorem generate_pois_spec (profile : String) (seed population : ℤ)
    (central : ∀ zone ∈ zones, ∀ c, centers.get zone.zoneId = some c →
      c ∈ (zoneNodeIds.get zone.zoneId).getD []) :
    ∃ pois, generatePois zones zoneNodeIds centers profile seed population = .ok pois ∧
      (pois.map Poi.poiId).Nodup ∧
      ∀ poi ∈ pois, poi.zoneId ∈ zones.map Zone.zoneId ∧
        poi.nodeId ∈ (zoneNodeIds.get poi.zoneId).getD [] := by
  obtain ⟨pois, placed, numbers, each⟩ := place_zone_pois_spec central
  exact ⟨pois, placed, numbers ▸ List.nodup_range', each⟩

end Pois

section Zones

variable {K : Type} (mix : ZoneType → ℚ) (population : ℤ) {zoneTypes : List ZoneType}
  {centers : List (MapNode K)}

theorem zone_capacities_nonneg (zoneType : ZoneType) (share : ℚ) :
    0 ≤ (zoneCapacitiesForType zoneType share population).1 ∧
      0 ≤ (zoneCapacitiesForType zoneType share population).2.1 ∧
      0 ≤ (zoneCapacitiesForType zoneType share population).2.2 := by
  unfold zoneCapacitiesForType
  cases zoneType <;> dsimp only <;> omega

theorem build_zones_spec (paired : zoneTypes.length = centers.length) :
    ∃ zones, buildZones mix population zoneTypes centers = .ok zones ∧
      zones.map Zone.zoneId = List.range' 1 centers.length ∧
      zones.map Zone.zoneType = zoneTypes := by
  refine ⟨((zoneTypes.zip centers).zipIdx 1).map fun item =>
    let capacities := zoneCapacitiesForType item.1.1
      (mix item.1.1 / max 1 (zoneTypes.count item.1.1)) population
    ⟨item.2, item.1.1, item.1.2.point, capacities.1, capacities.2.1, capacities.2.2⟩, ?_, ?_, ?_⟩
  · unfold buildZones
    rw [if_neg (not_not.mpr paired)]
    refine map_all_total fun item _ => ?_
    obtain ⟨people, jobs, leisure⟩ := zone_capacities_nonneg population item.1.1
      (mix item.1.1 / max 1 (zoneTypes.count item.1.1))
    dsimp only
    unfold Zone.build
    rw [if_neg (not_lt.mpr people), if_neg (not_lt.mpr jobs), if_neg (not_lt.mpr leisure)]
  · rw [List.map_map]
    change ((zoneTypes.zip centers).zipIdx 1).map Prod.snd = _
    rw [List.zipIdx_map_snd, List.length_zip, paired, min_self]
  · rw [List.map_map]
    change ((zoneTypes.zip centers).zipIdx 1).map (fun item => item.1.1) = _
    have : (fun item : (ZoneType × MapNode K) × ℕ => item.1.1) = Prod.fst ∘ Prod.fst := rfl
    rw [this, ← List.map_map, List.zipIdx_map_fst, List.map_fst_zip paired.le]

end Zones

namespace ZoningPlacementResult

variable {K : Type} {r : ZoningPlacementResult K} {nodeIds : List ℤ}

def nodesOf (r : ZoningPlacementResult K) (zoneId : ℕ) : List ℤ :=
  (r.zoneNodeIds.get zoneId).getD []

/-- The nodes are divided among the zones, none of which is empty, and every point of interest
stands in its own zone. -/
structure Partitioned (nodeIds : List ℤ) (r : ZoningPlacementResult K) : Prop where
  zone_ids : (r.zones.map Zone.zoneId).Nodup
  keys : r.zoneNodeIds.map Prod.fst = r.zones.map Zone.zoneId
  lists : ∀ zoneId, (r.nodesOf zoneId).Nodup
  inverse : ∀ nodeId zoneId, nodeId ∈ r.nodesOf zoneId ↔ r.nodeZoneById.get nodeId = some zoneId
  owned : (r.nodeZoneById.map Prod.fst).Nodup
  covers : ∀ nodeId, (∃ zoneId, r.nodeZoneById.get nodeId = some zoneId) ↔ nodeId ∈ nodeIds
  nonempty : ∀ zone ∈ r.zones, r.nodesOf zone.zoneId ≠ []
  poi_ids : (r.pois.map Poi.poiId).Nodup
  pois : ∀ poi ∈ r.pois, poi.zoneId ∈ r.zones.map Zone.zoneId ∧
    poi.nodeId ∈ r.nodesOf poi.zoneId

/-- Every node that a zone lists, with the zone. -/
def refs (r : ZoningPlacementResult K) : List (ℤ × ℕ) :=
  r.zoneNodeIds.flatMap fun item => item.2.map fun nodeId => (nodeId, item.1)

namespace Partitioned

theorem nodes_of_item (h : Partitioned nodeIds r) {item : ℕ × List ℤ}
    (listed : item ∈ r.zoneNodeIds) : r.nodesOf item.1 = item.2 := by
  have distinct : (r.zoneNodeIds.map Prod.fst).Nodup := h.keys ▸ h.zone_ids
  unfold nodesOf
  rw [(Dict.get_eq_some_iff distinct).mpr listed]
  rfl

theorem zone_known (h : Partitioned nodeIds r) {nodeId : ℤ} {zoneId : ℕ}
    (listed : nodeId ∈ r.nodesOf zoneId) : zoneId ∈ r.zones.map Zone.zoneId := by
  rw [← h.keys, Dict.mem_keys_iff]
  unfold nodesOf at listed
  rcases found : r.zoneNodeIds.get zoneId with _ | ids
  · rw [found] at listed
    cases listed
  · exact ⟨ids, rfl⟩

theorem mem_refs (h : Partitioned nodeIds r) {nodeId : ℤ} {zoneId : ℕ} :
    (nodeId, zoneId) ∈ r.refs ↔ r.nodeZoneById.get nodeId = some zoneId := by
  rw [← h.inverse]
  unfold refs
  rw [List.mem_flatMap]
  constructor
  · rintro ⟨item, listed, here⟩
    obtain ⟨n, inside, same⟩ := List.mem_map.mp here
    obtain ⟨rfl, rfl⟩ := Prod.mk.inj same
    rw [h.nodes_of_item listed]
    exact inside
  · intro inside
    obtain ⟨ids, found⟩ := Dict.mem_keys_iff.mp (h.keys ▸ h.zone_known inside)
    have distinct : (r.zoneNodeIds.map Prod.fst).Nodup := h.keys ▸ h.zone_ids
    refine ⟨(zoneId, ids), (Dict.get_eq_some_iff distinct).mp found, List.mem_map.mpr
      ⟨nodeId, ?_, rfl⟩⟩
    unfold nodesOf at inside
    rw [found] at inside
    exact inside

theorem refs_distinct (h : Partitioned nodeIds r) : (r.refs.map Prod.fst).Nodup := by
  have nodes : r.refs.map Prod.fst = r.zoneNodeIds.flatMap Prod.snd := by
    unfold refs
    rw [List.map_flatMap]
    refine List.flatMap_congr fun item _ => ?_
    rw [List.map_map]
    exact List.map_id _
  have apart : r.zoneNodeIds.Pairwise fun a b => a.1 ≠ b.1 :=
    List.pairwise_map.mp (h.keys ▸ h.zone_ids)
  rw [nodes, List.nodup_flatMap]
  refine ⟨fun item listed => h.nodes_of_item listed ▸ h.lists item.1, ?_⟩
  refine apart.imp_of_mem fun {a b} a_mem b_mem ne nodeId in_a in_b => ne ?_
  have in_a : nodeId ∈ r.nodesOf a.1 := h.nodes_of_item a_mem ▸ in_a
  have in_b : nodeId ∈ r.nodesOf b.1 := h.nodes_of_item b_mem ▸ in_b
  exact Option.some.inj (((h.inverse _ _).mp in_a).symm.trans ((h.inverse _ _).mp in_b))

theorem inverse_eq (h : Partitioned nodeIds r) : r.inverseFromZoneNodes = r.refs := by
  have flat : r.inverseFromZoneNodes = Dict.update [] r.refs := by
    unfold inverseFromZoneNodes Dict.update refs
    rw [List.foldl_flatMap]
    congr
    funext inverse item
    rw [List.foldl_map]
  rw [flat, Dict.update_fresh h.refs_distinct (fun _ _ => rfl), List.nil_append]

theorem fresh_refs_unique (items : List (ℤ × ℕ)) : ∀ d : Dict ℤ ℕ, (items.map Prod.fst).Nodup →
    (∀ item ∈ items, d.get item.1 = none) →
    (items.foldl (fun (state : Dict ℤ ℕ × ℕ) ref =>
      (state.1.set ref.1 ref.2, state.2 + match state.1.get ref.1 with
        | some previous => if previous = ref.2 then 0 else 1
        | none => 0)) (d, 0)).2 = 0 := by
  induction items with
  | nil => exact fun _ _ _ => rfl
  | cons item items ih =>
    intro d distinct fresh
    obtain ⟨apart, distinct⟩ := List.nodup_cons.mp distinct
    obtain ⟨new, fresh⟩ := List.forall_mem_cons.mp fresh
    rw [List.foldl_cons, new]
    refine ih _ distinct fun other listed => ?_
    rw [Dict.get_set_of_ne, fresh other listed]
    rintro same
    exact apart (same ▸ List.mem_map_of_mem listed)

theorem no_duplicate_refs (h : Partitioned nodeIds r) : r.duplicateZoneNodeRefs = 0 :=
  fresh_refs_unique r.refs [] h.refs_distinct fun _ _ => rfl

theorem validate_iff (h : Partitioned nodeIds r) : r.validate nodeIds false = [] ↔
    ∀ zoneType ∈ ZoneType.all, zoneType ∈ r.zones.map Zone.zoneType := by
  have zones : r.zoneIssues false = [] ↔
      ∀ zoneType ∈ ZoneType.all, zoneType ∈ r.zones.map Zone.zoneType := by
    unfold zoneIssues
    dsimp only
    rw [if_pos h.zone_ids, if_pos h.poi_ids, if_pos h.no_duplicate_refs]
    have keys : (∀ zoneId ∈ r.zoneNodeIds.map Prod.fst, zoneId ∈ r.zones.map Zone.zoneId) ∧
        ∀ zoneId ∈ r.zones.map Zone.zoneId, zoneId ∈ r.zoneNodeIds.map Prod.fst := by
      rw [h.keys]
      exact ⟨fun _ => id, fun _ => id⟩
    have lists : (r.zoneNodeIds.flatMap fun item => if item.2.Nodup then []
        else [s!"zone_node_ids[{item.1}] contains duplicate node ids"]) = [] :=
      List.flatMap_eq_nil_iff.mpr fun item listed =>
        if_pos (h.nodes_of_item listed ▸ h.lists item.1)
    rw [if_pos keys, lists]
    simp
  have pois : r.poiIssues nodeIds = [] := by
    refine List.flatMap_eq_nil_iff.mpr fun poi listed => ?_
    obtain ⟨zone, node⟩ := h.pois poi listed
    have known : poi.nodeId ∈ nodeIds := (h.covers _).mp ⟨_, (h.inverse _ _).mp node⟩
    rw [if_pos zone, if_pos known]
    rfl
  have maps : r.mapIssues nodeIds = [] := by
    unfold mapIssues
    dsimp only
    rw [h.inverse_eq]
    have nodes : (r.nodeZoneById.flatMap fun item =>
        if item.2 ∈ r.zones.map Zone.zoneId then
          if Dict.get r.refs item.1 = some item.2 then []
          else [s!"node_zone_by_id / zone_node_ids mismatch for node {item.1} (zone {item.2})"]
        else [s!"node_zone_by_id maps node {item.1} to missing zone_id {item.2}"]) = [] := by
      refine List.flatMap_eq_nil_iff.mpr fun item listed => ?_
      have found := (Dict.get_eq_some_iff h.owned).mpr listed
      rw [if_pos (h.zone_known ((h.inverse _ _).mpr found)),
        if_pos ((Dict.get_eq_some_iff h.refs_distinct).mpr (h.mem_refs.mpr found))]
    have refs : (r.refs.flatMap fun item =>
        if r.nodeZoneById.get item.1 = some item.2 then []
        else [s!"zone_node_ids / node_zone_by_id mismatch for node {item.1} (zone {item.2})"]) =
        [] :=
      List.flatMap_eq_nil_iff.mpr fun item listed => if_pos (h.mem_refs.mp listed)
    have missing : (nodeIds.filter fun nodeId => r.nodeZoneById.get nodeId = none) = [] := by
      refine List.filter_eq_nil_iff.mpr fun nodeId listed => ?_
      obtain ⟨zoneId, found⟩ := (h.covers nodeId).mpr listed
      simp [found]
    rw [nodes, refs, missing]
    rfl
  unfold validate
  rw [pois, maps, List.append_nil, List.append_nil]
  exact zones

end Partitioned

end ZoningPlacementResult

section Generation

open ZoningPlacementResult

variable {K : Type} {nodes : List (MapNode K)} {population : ℤ}
  {populationTarget metadataTarget : Option ℤ}

/-- All zone types occur, every zone has a node, every node has one zone, the two maps are
inverse to each other, and every point of interest stands in its own zone. -/
structure Zoned (nodes : List (MapNode K)) (r : ZoningPlacementResult K) : Prop where
  types : ∀ zoneType, ∃ zone ∈ r.zones, zone.zoneType = zoneType
  nonempty : ∀ zone ∈ r.zones, ∃ nodeId, nodeId ∈ r.nodesOf zone.zoneId
  owner : ∀ node ∈ nodes, ∃! zoneId, zoneId ∈ r.zones.map Zone.zoneId ∧
    node.nodeId ∈ r.nodesOf zoneId
  inverse : ∀ nodeId zoneId, r.nodeZoneById.get nodeId = some zoneId ↔ nodeId ∈ r.nodesOf zoneId
  pois : ∀ poi ∈ r.pois, poi.zoneId ∈ r.zones.map Zone.zoneId ∧ poi.nodeId ∈ r.nodesOf poi.zoneId

theorem ZoningPlacementResult.Partitioned.zoned {r : ZoningPlacementResult K}
    (h : Partitioned (nodes.map MapNode.nodeId) r)
    (types : ∀ zoneType ∈ ZoneType.all, zoneType ∈ r.zones.map Zone.zoneType) : Zoned nodes r where
  types zoneType := List.mem_map.mp (types zoneType (ZoneType.mem_all zoneType))
  nonempty zone listed := List.exists_mem_of_ne_nil _ (h.nonempty zone listed)
  owner node listed := by
    obtain ⟨zoneId, found⟩ := (h.covers node.nodeId).mpr (List.mem_map_of_mem listed)
    have inside := (h.inverse _ _).mpr found
    refine ⟨zoneId, ⟨h.zone_known inside, inside⟩, fun other ⟨_, there⟩ => ?_⟩
    exact Option.some.inj (((h.inverse _ _).mp there).symm.trans found)
  inverse nodeId zoneId := (h.inverse nodeId zoneId).symm
  pois := h.pois

theorem centers_by_id (distinct : (nodes.map MapNode.nodeId).Nodup) {centers : List (MapNode K)}
    (known : ∀ center ∈ centers, center ∈ nodes) :
    (centers.map fun center => (Dict.get (Dict.update [] (nodes.map fun node =>
      (node.nodeId, node))) center.nodeId).getD center) = centers := by
  have keys : ((nodes.map fun node => (node.nodeId, node)).map Prod.fst).Nodup := by
    rw [List.map_map]
    exact distinct
  rw [Dict.update_fresh keys (fun _ _ => rfl), List.nil_append]
  refine (List.map_congr_left fun center listed => ?_).trans (List.map_id _)
  rw [(Dict.get_eq_some_iff keys).mpr (List.mem_map_of_mem (known center listed))]
  rfl

theorem sorted_perm {s : Assignment} {zoneId : ℕ} :
    ((Dict.get (s.zoneNodeLists.map fun item => (item.1, item.2.mergeSort)) zoneId).getD []).Perm
      (s.listed zoneId) := by
  have sorted : Dict.get (s.zoneNodeLists.map fun item =>
      (item.1, (fun ids : List ℤ => ids.mergeSort) item.2)) zoneId =
        (s.zoneNodeLists.get zoneId).map fun ids => ids.mergeSort :=
    Dict.get_map_values (f := fun ids : List ℤ => ids.mergeSort)
  change ((Dict.get (s.zoneNodeLists.map fun item =>
      (item.1, (fun ids : List ℤ => ids.mergeSort) item.2)) zoneId).getD []).Perm _
  rw [sorted]
  unfold Assignment.listed
  cases s.zoneNodeLists.get zoneId with
  | none => exact List.Perm.refl _
  | some ids => exact List.mergeSort_perm _ _

theorem Assignment.Partition.placed {zones : List (Zone K)} {pois : List Poi} {s : Assignment}
    {nodeIds : List ℤ} (h : s.Partition (zones.map Zone.zoneId)) (covers : s.Covers nodeIds)
    (distinct : (zones.map Zone.zoneId).Nodup)
    (nonempty : ∀ zone ∈ zones, s.listed zone.zoneId ≠ []) (poi_ids : (pois.map Poi.poiId).Nodup)
    (poi_nodes : ∀ poi ∈ pois, poi.zoneId ∈ zones.map Zone.zoneId ∧
      poi.nodeId ∈ s.listed poi.zoneId) :
    Partitioned nodeIds (⟨zones, pois, s.nodeZoneById,
      s.zoneNodeLists.map fun item => (item.1, item.2.mergeSort)⟩ : ZoningPlacementResult K) where
  zone_ids := distinct
  keys := by
    rw [List.map_map]
    exact h.keys
  lists zoneId := sorted_perm.nodup_iff.mpr (h.nodup zoneId)
  inverse nodeId zoneId := sorted_perm.mem_iff.trans (h.owner nodeId zoneId)
  owned := h.owned
  covers := covers
  nonempty zone listed empty := nonempty zone listed (sorted_perm.symm.trans (List.Perm.of_eq empty)).eq_nil
  poi_ids := poi_ids
  pois poi listed := (poi_nodes poi listed).imp_right sorted_perm.mem_iff.mpr

theorem partition_start {zones : List (Zone K)} : Assignment.Partition (zones.map Zone.zoneId)
    ⟨[], zones.map fun zone => (zone.zoneId, [])⟩ := by
  have empty : ∀ zoneId, Assignment.listed ⟨[], zones.map fun zone => (zone.zoneId, [])⟩ zoneId =
      [] := by
    intro zoneId
    unfold Assignment.listed
    induction zones with
    | nil => rfl
    | cons zone zones ih =>
      rw [List.map_cons, Dict.get_cons]
      split
      · rfl
      · exact ih
  refine ⟨?_, fun nodeId zoneId => ?_, fun zoneId => ?_, List.nodup_nil⟩
  · rw [List.map_map]
    rfl
  · rw [empty]
    simp
  · rw [empty]
    exact List.nodup_nil

variable [Scalar K]

/-- What is generated, before it is validated. -/
theorem generate_spec (config : ZoningConfig) (seed : ℤ) (validate : Bool)
    (enough : 4 ≤ nodes.length) (distinct : (nodes.map MapNode.nodeId).Nodup)
    (resolved : resolvePopulationTarget populationTarget metadataTarget = .ok population) :
    ∃ result : ZoningPlacementResult K, Partitioned (nodes.map MapNode.nodeId) result ∧
      result.zones.map Zone.zoneType =
        zoneTypesForCount (targetZoneCount population nodes.length) population ∧
      generateZonesAndPois nodes config seed populationTarget metadataTarget validate =
        if validate ∧ result.validate (nodes.map MapNode.nodeId) false ≠ [] then
          .error ("Invalid zoning/POI placement: " ++
            "; ".intercalate (result.validate (nodes.map MapNode.nodeId) false))
        else .ok result := by
  obtain ⟨low, within⟩ := target_zone_count_le population enough
  set count := targetZoneCount population nodes.length with count_eq
  have room : max 4 count ≤ nodes.length := by omega
  obtain ⟨chosen, length⟩ := choose_centers_spec seed distinct room
  have by_id := centers_by_id distinct chosen.known
  set centers := chooseZoneCenters nodes seed count with centers_eq
  have paired : (zoneTypesForCount count population).length = centers.length :=
    length_zone_types.trans length.symm
  obtain ⟨zones, built, numbers, types⟩ := build_zones_spec config.zoneMixTargets population paired
  have same_length : zones.length = centers.length := by
    rw [← List.length_map Zone.zoneId, numbers, List.length_range']
  have distinct_zones : (zones.map Zone.zoneId).Nodup := numbers ▸ List.nodup_range'
  have zone_of_pair : (zones.zip centers).map Prod.fst = zones :=
    List.map_fst_zip same_length.le
  have center_of_pair : (zones.zip centers).map Prod.snd = centers :=
    List.map_snd_zip same_length.ge
  -- every node goes to a zone, and every center to its own
  have keys : (zones.map fun zone => (zone.zoneId, zone.centroid)).map Prod.fst =
      zones.map Zone.zoneId := by
    rw [List.map_map]
    rfl
  have some_zone : (zones.map fun zone => (zone.zoneId, zone.centroid)) ≠ [] := by
    rw [ne_eq, List.map_eq_nil_iff, ← List.length_eq_zero_iff]
    omega
  obtain ⟨assigned, assigning, partition, covers⟩ := Assignment.Partition.assign_nodes some_zone
    (keys ▸ partition_start) (fun nodeId => by simp) distinct
  rw [keys] at partition
  have center_ids : ((zones.zip centers).map fun pair => pair.2.nodeId).Nodup := by
    have : (zones.zip centers).map (fun pair => pair.2.nodeId) =
        ((zones.zip centers).map Prod.snd).map MapNode.nodeId := (List.map_map ..).symm
    rw [this, center_of_pair]
    exact chosen.ids
  obtain ⟨partition, covers, own, -⟩ := partition.anchors covers (zones.zip centers)
    (fun pair listed => List.mem_map_of_mem (zone_of_pair ▸ List.mem_map_of_mem listed))
    (fun pair listed => List.mem_map_of_mem
      (chosen.known _ (center_of_pair ▸ List.mem_map_of_mem listed))) center_ids
  set anchored := (zones.zip centers).foldl
    (fun s pair => s.anchor pair.1.zoneId pair.2.nodeId) assigned with anchored_eq
  have pair_keys : (((zones.zip centers).map fun pair => (pair.1.zoneId, pair.2.nodeId)).map
      Prod.fst).Nodup := by
    have : ((zones.zip centers).map fun pair => (pair.1.zoneId, pair.2.nodeId)).map Prod.fst =
        ((zones.zip centers).map Prod.fst).map Zone.zoneId := by
      rw [List.map_map, List.map_map]
      rfl
    rw [this, zone_of_pair]
    exact distinct_zones
  have central : ∀ zone ∈ zones, ∀ c,
      Dict.get ((zones.zip centers).map fun pair => (pair.1.zoneId, pair.2.nodeId)) zone.zoneId =
        some c → c ∈ (Dict.get (anchored.zoneNodeLists.map fun item =>
          (item.1, item.2.mergeSort)) zone.zoneId).getD [] := by
    intro zone _ c found
    obtain ⟨pair, listed, same⟩ := List.mem_map.mp ((Dict.get_eq_some_iff pair_keys).mp found)
    obtain ⟨zone_same, rfl⟩ := Prod.mk.inj same
    rw [← zone_same]
    exact sorted_perm.mem_iff.mpr (own pair listed)
  obtain ⟨pois, generated, poi_ids, poi_nodes⟩ :=
    generate_pois_spec config.poiDensityProfile seed population central
  refine ⟨⟨zones, pois, anchored.nodeZoneById, _⟩, partition.placed covers distinct_zones ?_
    poi_ids ?_, types, ?_⟩
  · intro zone listed
    obtain ⟨pair, paired, rfl⟩ := List.mem_map.mp (zone_of_pair.symm ▸ listed)
    exact List.ne_nil_of_mem (own pair paired)
  · exact fun poi listed => (poi_nodes poi listed).imp_right sorted_perm.mem_iff.mp
  · unfold generateZonesAndPois
    rw [if_neg (List.ne_nil_of_length_pos (by omega)), if_neg (by omega), resolved]
    change (do
      let zones ← buildZones config.zoneMixTargets population _ (centers.map _)
      _) = _
    rw [by_id, built, ok_bind, assigning, ok_bind, ← anchored_eq]
    dsimp only
    rw [generated, ok_bind]
    rfl

theorem generate_zoned_iff (config : ZoningConfig) (seed : ℤ) (validate : Bool)
    (enough : 4 ≤ nodes.length) (distinct : (nodes.map MapNode.nodeId).Nodup)
    (resolved : resolvePopulationTarget populationTarget metadataTarget = .ok population) :
    (∃ result, generateZonesAndPois nodes config seed populationTarget metadataTarget validate =
      .ok result ∧ Zoned nodes result) ↔ ∀ zoneType ∈ ZoneType.all,
        zoneType ∈ zoneTypesForCount (targetZoneCount population nodes.length) population := by
  obtain ⟨result, partitioned, types, generated⟩ :=
    generate_spec config seed validate enough distinct resolved
  rw [generated, ← types]
  constructor
  · rintro ⟨result', returned, zoned⟩ zoneType -
    split at returned
    · cases returned
    · obtain rfl := Except.ok.inj returned
      exact List.mem_map.mpr (zoned.types zoneType)
  · intro all
    refine ⟨result, if_neg fun invalid => ?_, partitioned.zoned all⟩
    exact invalid.2 (partitioned.validate_iff.mpr all)

/-- Four nodes on a line, in the default configuration. -/
def fourNodes : List (MapNode ℝ) := [⟨1, (0, 0)⟩, ⟨2, (1, 0)⟩, ⟨3, (2, 0)⟩, ⟨4, (3, 0)⟩]

theorem four_nodes_enough : 4 ≤ fourNodes.length := le_rfl

def defaultZoning : ZoningConfig where
  zoneMixTargets zoneType := if zoneType = .residential then 4 / 10 else 2 / 10
  poiDensityProfile := "baseline"

end Generation

end Metroflow.City
