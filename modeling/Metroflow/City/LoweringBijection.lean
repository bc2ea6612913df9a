import Metroflow.City.LoweredLinks

namespace Metroflow.City.Scalable

open Metroflow.Lib Metroflow.Map

theorem policy_accepted : ∀ row ∈ numericProfilePolicy ℝ,
    ∃ profile, ScalableNumericProfile.build row = .ok profile := by
  intro row listed
  have valid : row.profileId ≠ "" ∧ 1 ≤ row.lanesPerDirection ∧ ¬ row.freeFlowSpeedMps ≤ 0 ∧
      ¬ row.capacityVehPerSecond < 0 ∧ row.sectionRoadsideProfile ≠ "" := by
    simp only [numericProfilePolicy, List.mem_cons, List.not_mem_nil, or_false] at listed
    rcases listed with rfl | rfl | rfl | rfl | rfl | rfl | rfl | rfl | rfl | rfl | rfl | rfl | rfl |
      rfl <;> norm_num [tenths, hundredths, Scalar.ofInt] <;> decide
  exact ⟨_, dif_pos valid⟩

theorem numeric_profiles_real : ∃ profiles : List (ScalableNumericProfile ℝ),
    numericProfiles = .ok profiles ∧ ∀ row ∈ numericProfilePolicy ℝ, ∃ profile,
      profileById profiles row.profileId = .ok profile ∧ profile.toNumericProfileRow = row := by
  obtain ⟨built, rows⟩ := map_all_exists policy_accepted
  refine ⟨_, bind_ok.mpr ⟨built, rows, rfl⟩, fun row listed => ?_⟩
  obtain ⟨profile, made, ran⟩ := paired_left (map_all_ok.mp rows) listed
  obtain ⟨other, found⟩ : ∃ other, (sortOn (fun profile => profile.profileId) built).find?
      (fun other => other.profileId = row.profileId) = some other := by
    rw [← Option.isSome_iff_exists, List.find?_isSome]
    exact ⟨profile, mem_sort_on.mpr made, by rw [profile_build_ok ran]; simp⟩
  refine ⟨other, by unfold profileById; rw [found], ?_⟩
  have same : other.profileId = row.profileId := by simpa using List.find?_some found
  obtain ⟨row', listed', ran'⟩ := paired_right (map_all_ok.mp rows)
    (mem_sort_on.mp (List.mem_of_find?_eq_some found))
  rw [profile_build_ok ran'] at same ⊢
  exact List.inj_on_of_nodup_map policy_ids_nodup listed' listed same

theorem policy_row (road : PhysicalRoadRecord) : ∃ row ∈ numericProfilePolicy ℝ,
    row.profileId = resolvedProfileId road ∧
    (row.operationalRoadClass = .bridge → road.facility = .bridge) ∧
    (road.facility = .ramp → row.operationalRoadClass = .ramp) := by
  have table : ∀ facility hierarchy, ∃ entry ∈ (numericProfilePolicy ℝ).map
      fun row => (row.profileId, row.operationalRoadClass),
      entry.1 = (if facility = .mainline then "v2:mainline" else profileFor facility hierarchy) ∧
      (entry.2 = .bridge → facility = FacilityKind.bridge) ∧
      (facility = FacilityKind.ramp → entry.2 = .ramp) := by
    intro facility hierarchy
    simp only [numericProfilePolicy, List.map_cons, List.map_nil]
    cases facility <;> cases hierarchy <;> decide
  obtain ⟨entry, listed, named, bridge, ramp⟩ := table road.facility road.hierarchy
  obtain ⟨row, known, rfl⟩ := List.mem_map.mp listed
  refine ⟨row, known, named.trans ?_, bridge, ramp⟩
  rw [resolvedProfileId, road.profile_matches]

/-- What the lowering asks for when no number is rounded. -/
structure Acceptable (nodes : List PhysicalNodeRecord) (roads : List PhysicalRoadRecord) :
    Prop where
  node_ids : nodes.map (·.nodeId) = (List.range nodes.length).map Int.ofNat
  road_ids : roads.map (·.roadId) = (List.range roads.length).map Int.ofNat
  layers : ∀ road ∈ roads, requireEndpointLayers nodes road = .ok ⟨⟩
  named : ∀ road ∈ roads, road.structureGroup ≠ some "" ∧ road.failureGroup ≠ some ""
  bridged : ∀ road ∈ roads, road.facility = .bridge →
    road.structureGroup ≠ none ∧ road.failureGroup ≠ none

section Accepted

variable {roads : List PhysicalRoadRecord} {road : PhysicalRoadRecord}
  {group : PhysicalRoadRecord → Option String} {structures failures : List ScalableGroupCrosswalk}

theorem group_crosswalk_accepts
    (road_ids : roads.map (·.roadId) = (List.range roads.length).map Int.ofNat)
    (named : ∀ road ∈ roads, group road ≠ some "") :
    ∃ crosswalk, groupCrosswalk (groupMembers group roads) = .ok crosswalk := by
  have groups : Dict.Groups (groupMembers group roads) (groupEntries group roads) :=
    group_members_groups
  refine map_all_exists fun entry listed => ?_
  have known : entry.1 ∈ (groupMembers group roads).map Prod.fst :=
    mem_sort_on.mp (List.fst_mem_of_mem_zipIdx listed)
  obtain ⟨members, found⟩ := Dict.mem_keys_iff.mp known
  have item := (Dict.get_eq_some_iff groups.distinct).mp found
  obtain ⟨source, from_road, same⟩ := List.mem_map.mp ((groups.keys entry.1).mp known)
  obtain ⟨road, mine, paired⟩ := List.mem_filterMap.mp from_road
  obtain ⟨name, has, rfl⟩ := Option.map_eq_some_iff.mp paired
  have ordered : (roads.map (·.roadId)).Pairwise (· < ·) := by
    rw [road_ids, List.pairwise_map]
    exact List.pairwise_lt_range.imp fun less => Int.ofNat_lt.mpr less
  refine ⟨_, dif_pos ⟨?_, Int.natCast_nonneg _, ?_, ?_⟩⟩
  · rintro empty
    exact named road mine (has.trans (congrArg some (same.trans empty)))
  · change (Dict.get _ _).getD [] ≠ []
    rw [found]
    exact groups.ne_nil item
  · change ((Dict.get _ _).getD []).Pairwise _
    rw [groups.get, values_at_group_entries]
    exact ordered.sublist (List.filter_sublist.map _)

theorem optional_group_id_accepts (table : GroupTable group roads structures)
    (mine : road ∈ roads) : ∃ id, optionalGroupId (groupIds structures) (group road) = .ok id := by
  cases has : group road with
  | none => exact ⟨none, rfl⟩
  | some name =>
    obtain ⟨row, listed, same⟩ := List.mem_map.mp (table.covered road mine name has)
    have found := table.id_of.mpr ⟨row, listed, same, rfl⟩
    refine ⟨some row.denseGroupId, map_ok.mpr ⟨row.denseGroupId, ?_, rfl⟩⟩
    unfold groupIdOf
    rw [found]

theorem bridge_group_accepts (table : GroupTable PhysicalRoadRecord.failureGroup roads failures)
    (mine : road ∈ roads) (bridged : road.facility = .bridge →
      road.structureGroup ≠ none ∧ road.failureGroup ≠ none) :
    ∃ id, bridgeGroupOf (groupIds failures) road = .ok id ∧ (road.facility = .bridge → id ≠ none) := by
  unfold bridgeGroupOf
  split
  · rename_i bridge
    obtain ⟨structured, failed⟩ := bridged bridge
    obtain ⟨structureName, has⟩ := Option.ne_none_iff_exists'.mp structured
    obtain ⟨failureName, has'⟩ := Option.ne_none_iff_exists'.mp failed
    obtain ⟨row, listed, same⟩ := List.mem_map.mp (table.covered road mine failureName has')
    have found := table.id_of.mpr ⟨row, listed, same, rfl⟩
    refine ⟨some row.denseGroupId, ?_, fun _ => Option.some_ne_none _⟩
    rw [has, has']
    refine map_ok.mpr ⟨row.denseGroupId, ?_, rfl⟩
    unfold groupIdOf
    rw [found]
  · rename_i plain
    exact ⟨none, rfl, fun bridge => absurd bridge plain⟩

theorem points_real (road : PhysicalRoadRecord) : road.pointsMm.mapM (pointToMetres (K := ℝ)) =
    .ok (road.pointsMm.map fun p => ((p.1 : ℝ) / (1000 : ℤ), (p.2 : ℝ) / (1000 : ℤ))) :=
  map_all_total fun _ _ => rfl

theorem centerline_accepts (road : PhysicalRoadRecord) {pointsM : List (PointM ℝ)}
    (points : road.pointsMm.mapM pointToMetres = .ok pointsM) :
    (∃ c, RoadCenterline.build road.roadId pointsM road.layer = .ok c) ∧
      0 < Scalar.pathLength pointsM := by
  obtain rfl := Except.ok.inj ((points_real road).symm.trans points)
  have moves : (road.pointsMm.map fun p => ((p.1 : ℝ) / (1000 : ℤ), (p.2 : ℝ) / (1000 : ℤ))).IsChain
      (· ≠ ·) := by
    rw [List.isChain_map]
    refine road.steps_move.imp fun a b apart same => apart ?_
    obtain ⟨x, y⟩ := Prod.mk.inj same
    have scale : ((1000 : ℤ) : ℝ) ≠ 0 := by norm_num
    exact Prod.ext (Int.cast_injective ((div_left_inj' scale).mp x))
      (Int.cast_injective ((div_left_inj' scale).mp y))
  have two : 2 ≤ (road.pointsMm.map fun p =>
      ((p.1 : ℝ) / (1000 : ℤ), (p.2 : ℝ) / (1000 : ℤ))).length := by
    rw [List.length_map]
    exact road.two_points
  exact ⟨⟨_, RoadCenterline.build_ok road.ids_nonneg.1 two (fun _ _ => ⟨rfl, rfl⟩) moves⟩,
    Scalar.path_length_pos two moves⟩

theorem link_accepts (road : PhysicalRoadRecord) (linkId : ℤ) (direction : Direction)
    {row : NumericProfileRow ℝ} {profile : ScalableNumericProfile ℝ} {length : ℝ}
    {group : Option ℤ} (same : profile.toNumericProfileRow = row)
    (bridge : row.operationalRoadClass = .bridge → group ≠ none)
    (ramp : road.facility = .ramp → row.operationalRoadClass = .ramp) (long : 0 < length) :
    ∃ link, Map.RoadLink.build {
      linkId
      srcNodeId := road.srcNodeId direction
      dstNodeId := road.dstNodeId direction
      roadClass := profile.operationalRoadClass
      lengthM := length
      freeFlowSpeedMps := profile.freeFlowSpeedMps
      capacityVehPerTick := profile.capacityVehPerSecond
      lanes := profile.lanesPerDirection
      bridgeGroupId := group
      physicalRoadId := road.roadId
      rampPurpose := road.rampPurpose } = .ok link := by
  have apart : road.srcNodeId direction ≠ road.dstNodeId direction := by
    cases direction
    · exact road.ends_differ
    · exact road.ends_differ.symm
  have grouped : profile.operationalRoadClass = .bridge → group ≠ none := by
    rw [same]
    exact bridge
  have typed : road.rampPurpose ≠ none → profile.operationalRoadClass = .ramp := by
    rw [same]
    exact fun some => ramp (road.ramps_only (Option.isSome_iff_ne_none.mpr some))
  have numbered : ∀ id ∈ some road.roadId, 0 ≤ id := by
    rintro id given
    exact Option.some.inj given ▸ road.ids_nonneg.1
  refine (Map.RoadLink.build_total ?_ ?_ ?_ ?_ ?_ ?_ ?_ ?_).imp fun _ built => built.1
  · exact apart
  · exact not_le.mpr long
  · exact profile.speed_pos
  · exact profile.capacity_nonneg
  · exact profile.lanes_pos
  · exact grouped
  · exact numbered
  · exact typed

theorem lower_road_accepts {profiles : List (ScalableNumericProfile ℝ)}
    (profiled : ∀ row ∈ numericProfilePolicy ℝ, ∃ profile,
      profileById profiles row.profileId = .ok profile ∧ profile.toNumericProfileRow = row)
    (structureTable : GroupTable PhysicalRoadRecord.structureGroup roads structures)
    (failureTable : GroupTable PhysicalRoadRecord.failureGroup roads failures)
    (mine : road ∈ roads) (bridged : road.facility = .bridge →
      road.structureGroup ≠ none ∧ road.failureGroup ≠ none) (state : Lowering ℝ) :
    ∃ state', lowerRoad (groupIds structures) (groupIds failures) road profiles state =
      .ok state' := by
  obtain ⟨row, listed, named, bridge, ramp⟩ := policy_row road
  obtain ⟨profile, found, same⟩ := profiled row listed
  obtain ⟨pointsM, points⟩ : ∃ pointsM, road.pointsMm.mapM (pointToMetres (K := ℝ)) = .ok pointsM :=
    ⟨_, points_real road⟩
  obtain ⟨⟨centerline, drawn⟩, long⟩ := centerline_accepts road points
  obtain ⟨group, grouped, needed⟩ := bridge_group_accepts failureTable mine bridged
  obtain ⟨structureId, structure_id⟩ := optional_group_id_accepts structureTable mine
  obtain ⟨failureId, failure_id⟩ := optional_group_id_accepts failureTable mine
  have one : ∀ (state : RoadLowering ℝ) direction, ∃ state',
      lowerDirection (groupIds failures) road profile (Scalar.pathLength pointsM) state direction =
        .ok state' := by
    intro state direction
    unfold lowerDirection
    split
    · exact ⟨state, rfl⟩
    · obtain ⟨link, built⟩ := link_accepts road state.links.length direction same
        (fun classed => needed (bridge classed)) ramp long
      exact ⟨_, bind_ok.mpr ⟨group, grouped, bind_ok.mpr ⟨link, built, bind_ok.mpr ⟨_,
        LinkGeometryAssignment.build_ok (Int.natCast_nonneg _) road.ids_nonneg.1, rfl⟩⟩⟩⟩
  obtain ⟨directed, both, -⟩ := fold_total (I := fun _ _ => True)
    (l := [Direction.forward, Direction.reverse])
    (f := lowerDirection (groupIds failures) road profile (Scalar.pathLength pointsM))
    (s := { state with centerlines := state.centerlines ++ [centerline] })
    (fun _ direction _ state _ _ => (one state direction).imp fun _ run => ⟨run, trivial⟩) trivial
  rw [named] at found
  exact ⟨_, bind_ok.mpr ⟨profile, found, bind_ok.mpr ⟨pointsM, points, bind_ok.mpr ⟨centerline,
    drawn, bind_ok.mpr ⟨directed, both, bind_ok.mpr ⟨structureId, structure_id, bind_ok.mpr
      ⟨failureId, failure_id, rfl⟩⟩⟩⟩⟩⟩⟩

end Accepted

theorem lowering_accepts {nodes : List PhysicalNodeRecord} {roads : List PhysicalRoadRecord}
    (h : Acceptable nodes roads) :
    ∃ lowered : LoweredScalableRecords ℝ, lowerScalableRecords nodes roads = .ok lowered := by
  obtain ⟨profiles, ordered, profiled⟩ := numeric_profiles_real
  obtain ⟨structures, structured⟩ := group_crosswalk_accepts h.road_ids
    fun road mine => (h.named road mine).1
  obtain ⟨failures, failed⟩ := group_crosswalk_accepts h.road_ids
    fun road mine => (h.named road mine).2
  have structureTable := group_crosswalk_ok structured
  have failureTable := group_crosswalk_ok failed
  obtain ⟨s, run, -⟩ := fold_total (I := fun _ _ => True) (l := roads) (s := ({} : Lowering ℝ))
    (f := fun state road => lowerRoad (groupIds structures) (groupIds failures) road profiles state)
    (fun past road rest state split _ => by
      have mine : road ∈ roads := split ▸ List.mem_append_right _ List.mem_cons_self
      exact (lower_road_accepts profiled structureTable failureTable mine (h.bridged road mine)
        state).imp fun _ run => ⟨run, trivial⟩) trivial
  have held := lower_roads_ok run
  obtain ⟨placed, positions⟩ : ∃ placed, nodes.mapM (lowerNode (K := ℝ)) = .ok placed :=
    map_all_exists fun node _ => ⟨_, rfl⟩
  obtain ⟨crossings, crossed⟩ : ∃ crossings, bridgeCrossings failures s.bridgeLinkIds =
      .ok crossings := by
    refine map_all_exists fun group listed => ?_
    have known := mem_sort_on.mp listed
    obtain ⟨ids, got⟩ := Dict.mem_keys_iff.mp known
    have item := (Dict.get_eq_some_iff held.linked.bridges.distinct).mp got
    obtain ⟨⟨number, linkId⟩, entry, rfl⟩ :=
      List.mem_map.mp ((held.linked.bridges.keys group).mp known)
    obtain ⟨link, made, grouped, -⟩ := mem_bridge_entries.mp entry
    obtain ⟨i, at_i⟩ := List.mem_iff_getElem?.mp made
    obtain ⟨pair, found, carries⟩ := held.linked.pair_at at_i
    obtain ⟨-, row, table_row, -, dense⟩ := (bridge_group_iff failureTable carries).mp grouped
    have some_row : (failures.find? fun row => row.denseGroupId = number).isSome := by
      rw [List.find?_isSome]
      exact ⟨row, table_row, decide_eq_true dense⟩
    obtain ⟨other, first⟩ := Option.isSome_iff_exists.mp some_row
    rw [first]
    have filled : (s.bridgeLinkIds.get number).getD [] ≠ [] := by
      rw [got]
      exact held.linked.bridges.ne_nil item
    exact ⟨_, dif_neg filled⟩
  exact ⟨_, bind_ok.mpr ⟨⟨⟩, raise_if_ok.mpr (not_not.mpr h.node_ids), bind_ok.mpr ⟨⟨⟩,
    raise_if_ok.mpr (not_not.mpr h.road_ids), bind_ok.mpr ⟨⟨⟩, each_ok.mpr h.layers, bind_ok.mpr
      ⟨profiles, ordered, bind_ok.mpr ⟨structures, structured, bind_ok.mpr ⟨failures, failed,
        bind_ok.mpr ⟨placed, positions, bind_ok.mpr ⟨s, run, bind_ok.mpr ⟨crossings, crossed,
          rfl⟩⟩⟩⟩⟩⟩⟩⟩⟩⟩

/-- The lowering makes one link for each road and allowed direction, every
table of its result agrees on which, and the crosswalk checks of the compiled
topology pass. -/
theorem lowering_bijective {K : Type} [Scalar K] {nodes : List PhysicalNodeRecord}
    {roads : List PhysicalRoadRecord} {lowered : LoweredScalableRecords K} (h : lowerScalableRecords nodes roads = .ok lowered) :
    LoweredExactly nodes roads lowered ∧ requireCrosswalks lowered.roadCrosswalk
      lowered.numericProfiles lowered.structureGroupCrosswalk lowered.failureGroupCrosswalk =
        .ok ⟨⟩ := by
  obtain ⟨_, -, h⟩ := bind_ok.mp h
  obtain ⟨_, dense, h⟩ := bind_ok.mp h
  obtain ⟨_, -, h⟩ := bind_ok.mp h
  obtain ⟨profiles, ordered, h⟩ := bind_ok.mp h
  obtain ⟨structures, structured, h⟩ := bind_ok.mp h
  obtain ⟨failures, failed, h⟩ := bind_ok.mp h
  obtain ⟨loweredNodes, placed, h⟩ := bind_ok.mp h
  obtain ⟨s, run, h⟩ := bind_ok.mp h
  obtain ⟨crossings, crossed, h⟩ := bind_ok.mp h
  obtain rfl := pure_ok.mp h
  have ids := not_not.mp (raise_if_ok.mp dense)
  have structureTable := group_crosswalk_ok structured
  have failureTable := group_crosswalk_ok failed
  have held := lower_roads_ok run
  have crosses := bridge_crossings_ok held.linked.bridges crossed
  have numbered := held.linked.link_ids
  refine ⟨?_, require_crosswalks_ok ids ordered structureTable failureTable held.crosswalk⟩
  exact {
    nodes := by
      refine (map_all_ok.mp placed).imp fun node out built => ?_
      obtain ⟨point, located, built⟩ := bind_ok.mp built
      obtain rfl := pure_ok.mp built
      exact ⟨rfl, located⟩
    link_ids := by
      change s.links.map (·.linkId) = (List.range s.links.length).map Int.ofNat
      rw [numbered, ← held.linked.links.length_eq, List.length_zipIdx]
    assigned := by
      change s.assignments.map (·.linkId) = s.links.map (·.linkId)
      rw [numbered, ← paired_map_eq (f := fun entry => (entry.2 : ℤ)) held.linked.assignments
        fun _ _ orients => orients.link_id.symm, zip_idx_numbers]
    centerlines := (paired_map_eq held.centerlines fun _ _ drawn => drawn.geometry_id.symm).symm
    one_link := fun road listed direction allowed => held.one_link ids listed allowed
    one_pair := fun link made => held.one_pair ids made
    crosswalk := (paired_map_eq held.crosswalk fun _ _ row => row.road_id.symm).symm
    crosswalk_links := by
      refine List.forall₂_iff_get.mpr ⟨held.crosswalk.length_eq, fun i inside inside' => ?_⟩
      intro direction linkId
      exact held.crosswalk_links ids (List.get_mem _ _)
        ((List.forall₂_iff_get.mp held.crosswalk).2 i inside inside')
    inverse := fun row listed linkId => held.inverse ids listed
    crossing_groups := crosses.groups
    crossings := fun crossing made => ⟨crosses.named crossing made, by
      rw [crosses.listed crossing made]
      exact values_at_nodup (link_ids_nodup held),
      fun linkId => crosses.links held ids failureTable made⟩
    crossed := fun link known road listed number bridge =>
      crosses.crossed held ids known listed number bridge }

/-- A bridge with two directions and a street back along one bank. -/
theorem bridge_street_lowered :
    let nodes : List PhysicalNodeRecord := [
      { nodeId := 0, semanticId := "west", xMm := 0, yMm := 0, layer := 0 },
      { nodeId := 1, semanticId := "east", xMm := 3000, yMm := 4000, layer := 0 }]
    let roads : List PhysicalRoadRecord := [
      { roadId := 0, semanticId := "span", startNodeId := 0, endNodeId := 1
        pointsMm := [(0, 0), (3000, 4000)], facility := .bridge, layer := 0, hierarchy := .arterial
        accessDirections := {.forward, .reverse}, structureGroup := some "deck"
        failureGroup := some "river", profileId := "v2:bridge:arterial", provenance := "seed" },
      { roadId := 1, semanticId := "quay", startNodeId := 1, endNodeId := 0
        pointsMm := [(3000, 4000), (0, 4000), (0, 0)], facility := .surface, layer := 0
        hierarchy := .localRoad, accessDirections := {.reverse}
        profileId := "v2:surface:local", provenance := "seed" }]
    ∃ lowered : LoweredScalableRecords ℝ, lowerScalableRecords nodes roads = .ok lowered ∧
      LoweredExactly nodes roads lowered ∧ requireCrosswalks lowered.roadCrosswalk
        lowered.numericProfiles lowered.structureGroupCrosswalk lowered.failureGroupCrosswalk =
          .ok ⟨⟩ := by
  intro nodes roads
  have good : Acceptable nodes roads := {
    node_ids := by decide
    road_ids := by decide
    layers := List.forall_mem_cons.mpr ⟨rfl, List.forall_mem_singleton.mpr rfl⟩
    named := by decide
    bridged := by decide }
  obtain ⟨lowered, run⟩ := lowering_accepts good
  exact ⟨lowered, run, lowering_bijective run⟩

end Metroflow.City.Scalable
