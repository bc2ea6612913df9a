import Metroflow.City.ScalableLowering

namespace Metroflow.City.Scalable

open Metroflow.Lib Metroflow.Map

variable {K : Type} [Scalar K]

section Pairs

variable {road : PhysicalRoadRecord} {direction : Direction} {roads : List PhysicalRoadRecord}

theorem mem_sorted_directions :
    direction ∈ road.sortedDirections ↔ direction ∈ road.accessDirections := by
  unfold PhysicalRoadRecord.sortedDirections
  rw [List.mem_filter, decide_eq_true_eq, and_iff_right_iff_imp]
  intro
  cases direction <;> decide

/-- The roads with their allowed directions, in the order the links are made. -/
def pairsOf (roads : List PhysicalRoadRecord) : List (PhysicalRoadRecord × Direction) :=
  roads.flatMap fun road => road.sortedDirections.map (Prod.mk road)

theorem mem_pairs_of : (road, direction) ∈ pairsOf roads ↔
    road ∈ roads ∧ direction ∈ road.accessDirections := by
  simp [pairsOf, mem_sorted_directions]

theorem pairs_of_append {road : PhysicalRoadRecord} : pairsOf (roads ++ [road]) =
    pairsOf roads ++ road.sortedDirections.map (Prod.mk road) := by
  simp [pairsOf]

theorem pairs_nodup (distinct : roads.Nodup) : (pairsOf roads).Nodup := by
  refine List.nodup_flatMap.mpr ⟨fun road _ => ?_, ?_⟩
  · have base : ([Direction.forward, Direction.reverse] : List Direction).Nodup := by decide
    exact (base.filter _).map fun a b same => (Prod.mk.inj same).2
  · refine distinct.imp fun {a b} apart => ?_
    intro pair left right
    obtain ⟨_, -, rfl⟩ := List.mem_map.mp left
    obtain ⟨_, -, same⟩ := List.mem_map.mp right
    exact apart (Prod.mk.inj same).1.symm

end Pairs

section Builds

theorem group_build_ok {row : GroupCrosswalkRow} {built : ScalableGroupCrosswalk}
    (h : ScalableGroupCrosswalk.build row = .ok built) : built.toGroupCrosswalkRow = row := by
  unfold ScalableGroupCrosswalk.build at h
  split_ifs at h
  obtain rfl := Except.ok.inj h
  rfl

theorem profile_build_ok {row : NumericProfileRow K} {built : ScalableNumericProfile K}
    (h : ScalableNumericProfile.build row = .ok built) : built.toNumericProfileRow = row := by
  unfold ScalableNumericProfile.build at h
  split_ifs at h
  obtain rfl := Except.ok.inj h
  rfl

theorem crossing_build_ok {group : ℤ} {linkIds : List ℤ} {name : String} {crossing : BridgeCrossing}
    (h : BridgeCrossing.build group linkIds name = .ok crossing) :
    crossing.bridgeGroupId = group ∧ crossing.linkIds = linkIds ∧ crossing.crossingName = name := by
  unfold BridgeCrossing.build at h
  split_ifs at h
  obtain rfl := Except.ok.inj h
  exact ⟨rfl, rfl, rfl⟩

theorem assignment_build_ok {linkId geometryId : ℤ} {reversed : Bool} {a : LinkGeometryAssignment}
    (h : LinkGeometryAssignment.build linkId geometryId reversed = .ok a) :
    a.linkId = linkId ∧ a.geometryId = geometryId ∧ a.reversed = reversed := by
  unfold LinkGeometryAssignment.build at h
  split_ifs at h
  obtain rfl := Except.ok.inj h
  exact ⟨rfl, rfl, rfl⟩

theorem centerline_build_ok {geometryId : ℤ} {points : List (PointM K)} {layer : ℤ}
    {c : RoadCenterline K} (h : RoadCenterline.build geometryId points layer = .ok c) :
    c.geometryId = geometryId ∧ c.pointsM = points ∧ c.layer = layer := by
  unfold RoadCenterline.build at h
  split_ifs at h
  obtain rfl := Except.ok.inj h
  exact ⟨rfl, rfl, rfl⟩

end Builds

section GroupTables

variable {group : PhysicalRoadRecord → Option String} {roads : List PhysicalRoadRecord}
  {crosswalk : List ScalableGroupCrosswalk} {name : String} {id : ℤ}

structure GroupTable (group : PhysicalRoadRecord → Option String)
    (roads : List PhysicalRoadRecord) (crosswalk : List ScalableGroupCrosswalk) : Prop where
  semantics : (crosswalk.map (·.semanticGroup)).Nodup
  dense : crosswalk.map (·.denseGroupId) = (List.range crosswalk.length).map Int.ofNat
  members : ∀ row ∈ crosswalk, row.memberPhysicalRoadIds =
    (roads.filter fun road => group road = some row.semanticGroup).map (·.roadId)
  covered : ∀ road ∈ roads, ∀ name, group road = some name →
    name ∈ crosswalk.map (·.semanticGroup)

def groupEntries (group : PhysicalRoadRecord → Option String) (roads : List PhysicalRoadRecord) :
    List (String × ℤ) :=
  roads.filterMap fun road => (group road).map fun name => (name, road.roadId)

theorem add_member_groups {d : Dict String (List ℤ)} {road : PhysicalRoadRecord}
    (h : Dict.Groups d (groupEntries group roads)) :
    Dict.Groups (addMember group d road) (groupEntries group (roads ++ [road])) := by
  have split : groupEntries group (roads ++ [road]) =
      groupEntries group roads ++ groupEntries group [road] := List.filterMap_append
  rw [split]
  unfold addMember
  cases named : group road with
  | some name =>
    have last : groupEntries group [road] = [(name, road.roadId)] := by simp [groupEntries, named]
    exact last ▸ h.append_at
  | none =>
    have last : groupEntries group [road] = [] := by simp [groupEntries, named]
    rw [last, List.append_nil]
    exact h

theorem group_members_groups :
    Dict.Groups (groupMembers group roads) (groupEntries group roads) := by
  suffices general : ∀ (todo done : List PhysicalRoadRecord) (d : Dict String (List ℤ)),
      Dict.Groups d (groupEntries group done) →
      Dict.Groups (todo.foldl (addMember group) d) (groupEntries group (done ++ todo)) from
    general roads [] [] Dict.Groups.nil
  intro todo
  induction todo with
  | nil =>
    intro done d held
    rw [List.append_nil]
    exact held
  | cons road todo ih =>
    intro done d held
    rw [List.append_cons]
    exact ih (done ++ [road]) _ (add_member_groups held)

theorem values_at_group_entries : Dict.valuesAt (groupEntries group roads) name =
    (roads.filter fun road => group road = some name).map (·.roadId) := by
  unfold Dict.valuesAt groupEntries
  induction roads with
  | nil => rfl
  | cons road roads ih =>
    cases named : group road with
    | some other =>
      rw [List.filterMap_cons_some (b := (other, road.roadId)) (by simp [named]), List.filter_cons,
        List.filter_cons]
      by_cases same : other = name <;> simp [same, named, ih]
    | none =>
      rw [List.filterMap_cons_none (by simp [named]), List.filter_cons]
      simp [named, ih]

theorem group_crosswalk_ok
    (h : groupCrosswalk (groupMembers group roads) = .ok crosswalk) :
    GroupTable group roads crosswalk := by
  have groups : Dict.Groups (groupMembers group roads) (groupEntries group roads) :=
    group_members_groups
  have rows := (map_all_ok.mp h).imp fun _ _ built => group_build_ok built
  have names : crosswalk.map (·.semanticGroup) =
      sortOn id ((groupMembers group roads).map Prod.fst) := by
    rw [← paired_map_eq (f := Prod.fst) rows fun _ _ built => by rw [built], List.zipIdx_map_fst]
  exact {
    semantics := names ▸ sort_on_perm.nodup_iff.mpr groups.distinct
    dense := by
      rw [← paired_map_eq (f := fun entry => (entry.2 : ℤ)) rows fun _ _ built => by rw [built],
        zip_idx_numbers, ← rows.length_eq, List.length_zipIdx]
    members := fun row listed => by
      obtain ⟨entry, -, built⟩ := paired_right rows listed
      rw [built, groups.get, values_at_group_entries]
    covered := fun road listed name named => by
      rw [names, mem_sort_on, groups.keys]
      have entry : (name, road.roadId) ∈ groupEntries group roads :=
        List.mem_filterMap.mpr ⟨road, listed, by rw [named]; rfl⟩
      exact List.mem_map_of_mem entry }

theorem GroupTable.id_of (table : GroupTable group roads crosswalk) :
    (groupIds crosswalk).get name = some id ↔
      ∃ row ∈ crosswalk, row.semanticGroup = name ∧ row.denseGroupId = id := by
  have keys : (crosswalk.map fun row => (row.semanticGroup, row.denseGroupId)).map Prod.fst =
      crosswalk.map (·.semanticGroup) := by
    rw [List.map_map]
    rfl
  have items : groupIds crosswalk = crosswalk.map fun row => (row.semanticGroup, row.denseGroupId) :=
    Dict.update_fresh (keys ▸ table.semantics) fun _ _ => Dict.get_nil
  rw [Dict.get_eq_some_iff (items ▸ keys ▸ table.semantics), items, List.mem_map]
  simp only [Prod.mk.injEq]

theorem GroupTable.ids_nodup (table : GroupTable group roads crosswalk) :
    (crosswalk.map (·.denseGroupId)).Nodup := by
  rw [table.dense]
  exact List.nodup_range.map Int.ofNat_injective

end GroupTables

section Links

variable {structureIds failureIds : Dict String ℤ} {road : PhysicalRoadRecord}
  {direction other : Direction} {profile : ScalableNumericProfile K} {pointsM : List (PointM K)}
  {state state' : RoadLowering K} {done : List (PhysicalRoadRecord × Direction)} {linkId : ℤ}

def RoadLowering.linkIdOf (state : RoadLowering K) : Direction → Option ℤ
  | .forward => state.forwardLinkId
  | .reverse => state.reverseLinkId

def ScalableRoadCrosswalk.linkIdOf (row : ScalableRoadCrosswalk) : Direction → Option ℤ
  | .forward => row.forwardLinkId
  | .reverse => row.reverseLinkId

/-- A link runs along a road in one direction, under the number it was given. -/
structure Carries (failureIds : Dict String ℤ) (entry : (PhysicalRoadRecord × Direction) × ℕ)
    (link : Map.RoadLink K) : Prop where
  link_id : link.linkId = entry.2
  src : link.srcNodeId = entry.1.1.srcNodeId entry.1.2
  dst : link.dstNodeId = entry.1.1.dstNodeId entry.1.2
  road : link.physicalRoadId = some entry.1.1.roadId
  length : ∃ pointsM, entry.1.1.pointsMm.mapM pointToMetres = .ok pointsM ∧
    link.lengthM = Scalar.pathLength pointsM
  group : bridgeGroupOf failureIds entry.1.1 = .ok link.bridgeGroupId

structure Orients (entry : (PhysicalRoadRecord × Direction) × ℕ)
    (assignment : LinkGeometryAssignment) : Prop where
  link_id : assignment.linkId = entry.2
  geometry_id : assignment.geometryId = entry.1.1.roadId
  reversed : assignment.reversed = decide (entry.1.2 = .reverse)

/-- The links of the bridges, under their groups. -/
def bridgeEntries (links : List (Map.RoadLink K)) : List (ℤ × ℤ) :=
  links.filterMap fun link => link.bridgeGroupId.map fun group => (group, link.linkId)

structure Linked (failureIds : Dict String ℤ) (done : List (PhysicalRoadRecord × Direction))
    (state : Lowering K) : Prop where
  links : List.Forall₂ (Carries failureIds) done.zipIdx state.links
  assignments : List.Forall₂ Orients done.zipIdx state.assignments
  bridges : Dict.Groups state.bridgeLinkIds (bridgeEntries state.links)

theorem linked_nil : Linked failureIds [] ({} : Lowering K) where
  links := .nil
  assignments := .nil
  bridges := Dict.Groups.nil

structure Directed (failureIds : Dict String ℤ) (road : PhysicalRoadRecord)
    (done : List (PhysicalRoadRecord × Direction)) (direction : Direction)
    (state state' : RoadLowering K) : Prop where
  linked : Linked failureIds
    (done ++ if direction ∈ road.accessDirections then [(road, direction)] else []) state'.toLowering
  link_id : state'.linkIdOf direction =
    if direction ∈ road.accessDirections then some (done.length : ℤ) else state.linkIdOf direction
  others : ∀ other, other ≠ direction → state'.linkIdOf other = state.linkIdOf other
  centerlines : state'.centerlines = state.centerlines
  crosswalk : state'.roadCrosswalk = state.roadCrosswalk

theorem Linked.add {s : Lowering K} {link : Map.RoadLink K} {assignment : LinkGeometryAssignment}
    {pair : PhysicalRoadRecord × Direction} (h : Linked failureIds done s)
    (carries : Carries failureIds (pair, done.length) link)
    (orients : Orients (pair, done.length) assignment) :
    Linked failureIds (done ++ [pair]) (s.addLink link assignment) where
  links := by
    rw [zip_idx_snoc]
    exact List.rel_append h.links (.cons carries .nil)
  assignments := by
    rw [zip_idx_snoc]
    exact List.rel_append h.assignments (.cons orients .nil)
  bridges := by
    have split : bridgeEntries (s.addLink link assignment).links =
        bridgeEntries s.links ++ bridgeEntries [link] := List.filterMap_append
    rw [split]
    unfold Lowering.addLink
    cases grouped : link.bridgeGroupId with
    | some group =>
      have last : bridgeEntries [link] = [(group, link.linkId)] := by
        simp [bridgeEntries, grouped]
      exact last ▸ h.bridges.append_at
    | none =>
      have last : bridgeEntries [link] = [] := by simp [bridgeEntries, grouped]
      rw [last, List.append_nil]
      exact h.bridges

@[simp]
theorem set_link_id_to_lowering :
    (state.setLinkId direction linkId).toLowering = state.toLowering := by
  cases direction <;> rfl

theorem link_id_of_set : (state.setLinkId direction linkId).linkIdOf other =
    if other = direction then some linkId else state.linkIdOf other := by
  cases direction <;> cases other <;> rfl

theorem lower_direction_ok (h : Linked failureIds done state.toLowering)
    (points : road.pointsMm.mapM pointToMetres = .ok pointsM)
    (run : lowerDirection failureIds road profile (Scalar.pathLength pointsM) state direction =
      .ok state') : Directed failureIds road done direction state state' := by
  unfold lowerDirection at run
  split at run
  · rename_i closed
    obtain rfl := Except.ok.inj run
    exact {
      linked := by
        rw [if_neg closed, List.append_nil]
        exact h
      link_id := by rw [if_neg closed]
      others := fun _ _ => rfl
      centerlines := rfl
      crosswalk := rfl }
  · rename_i allowed
    replace allowed := not_not.mp allowed
    obtain ⟨group, grouped, run⟩ := bind_ok.mp run
    obtain ⟨link, built, run⟩ := bind_ok.mp run
    obtain ⟨assignment, assigned, run⟩ := bind_ok.mp run
    obtain rfl := pure_ok.mp run
    have fields := Map.RoadLink.build_ok built
    obtain ⟨assigned_link, assigned_road, oriented⟩ := assignment_build_ok assigned
    have count : state.links.length = done.length := by
      rw [← h.links.length_eq, List.length_zipIdx]
    have carries : Carries failureIds ((road, direction), done.length) link := {
      link_id := by rw [fields, count]
      src := by rw [fields]
      dst := by rw [fields]
      road := by rw [fields]
      length := ⟨pointsM, points, by rw [fields]⟩
      group := by rw [grouped, fields] }
    have orients : Orients ((road, direction), done.length) assignment :=
      ⟨by rw [assigned_link, count], assigned_road, oriented⟩
    exact {
      linked := by
        rw [if_pos allowed, set_link_id_to_lowering]
        exact h.add carries orients
      link_id := by rw [if_pos allowed, link_id_of_set, if_pos rfl, count]
      others := fun other apart => by
        rw [link_id_of_set, if_neg apart]
        cases other <;> rfl
      centerlines := by rw [set_link_id_to_lowering]; rfl
      crosswalk := by rw [set_link_id_to_lowering]; rfl }

end Links

section Roads

variable {structureIds failureIds : Dict String ℤ} {road : PhysicalRoadRecord}
  {profiles : List (ScalableNumericProfile K)} {past : List PhysicalRoadRecord}
  {s s' : Lowering K} {pairs more : List (PhysicalRoadRecord × Direction)}
  {row : ScalableRoadCrosswalk}

structure Drawn (road : PhysicalRoadRecord) (centerline : RoadCenterline K) : Prop where
  geometry_id : centerline.geometryId = road.roadId
  points : road.pointsMm.mapM pointToMetres = .ok centerline.pointsM
  layer : centerline.layer = road.layer

/-- The crosswalk of a road names its groups and the links made for it. -/
structure Mapped (structureIds failureIds : Dict String ℤ)
    (pairs : List (PhysicalRoadRecord × Direction)) (road : PhysicalRoadRecord)
    (row : ScalableRoadCrosswalk) : Prop where
  road_id : row.physicalRoadId = road.roadId
  geometry_id : row.geometryId = road.roadId
  structure_group : row.structureGroup = road.structureGroup
  failure_group : row.failureGroup = road.failureGroup
  structure_id : optionalGroupId structureIds road.structureGroup = .ok row.structureGroupId
  failure_id : optionalGroupId failureIds road.failureGroup = .ok row.bridgeGroupId
  numbered : ∀ direction linkId, row.linkIdOf direction = some linkId →
    ∃ i : ℕ, linkId = i ∧ pairs[i]? = some (road, direction)
  allowed : ∀ direction ∈ road.accessDirections, row.linkIdOf direction ≠ none

theorem Mapped.append (h : Mapped structureIds failureIds pairs road row) :
    Mapped structureIds failureIds (pairs ++ more) road row :=
  { h with
    numbered := fun direction linkId named => by
      obtain ⟨i, rfl, found⟩ := h.numbered direction linkId named
      have inside : i < pairs.length := (List.getElem?_eq_some_iff.mp found).1
      exact ⟨i, rfl, by rw [List.getElem?_append_left inside, found]⟩ }

/-- What the loop over the roads has made of those it passed. -/
structure Lowered (structureIds failureIds : Dict String ℤ) (past : List PhysicalRoadRecord)
    (s : Lowering K) : Prop where
  linked : Linked failureIds (pairsOf past) s
  centerlines : List.Forall₂ Drawn past s.centerlines
  crosswalk : List.Forall₂ (Mapped structureIds failureIds (pairsOf past)) past s.roadCrosswalk

theorem sorted_directions_pairs : road.sortedDirections.map (Prod.mk road) =
    (if Direction.forward ∈ road.accessDirections then [(road, Direction.forward)] else []) ++
      if Direction.reverse ∈ road.accessDirections then [(road, Direction.reverse)] else [] := by
  unfold PhysicalRoadRecord.sortedDirections
  by_cases ahead : Direction.forward ∈ road.accessDirections <;>
    by_cases back : Direction.reverse ∈ road.accessDirections <;> simp [ahead, back]

theorem both_directions_ok {profile : ScalableNumericProfile K} {pointsM : List (PointM K)}
    {state : RoadLowering K} (h : Linked failureIds pairs s)
    (points : road.pointsMm.mapM pointToMetres = .ok pointsM)
    (run : [Direction.forward, Direction.reverse].foldlM
      (lowerDirection failureIds road profile (Scalar.pathLength pointsM))
      { toLowering := s } = .ok state) :
    Linked failureIds (pairs ++ road.sortedDirections.map (Prod.mk road)) state.toLowering ∧
    state.centerlines = s.centerlines ∧ state.roadCrosswalk = s.roadCrosswalk ∧
    (∀ direction linkId, state.linkIdOf direction = some linkId → ∃ i : ℕ, linkId = i ∧
      (pairs ++ road.sortedDirections.map (Prod.mk road))[i]? = some (road, direction)) ∧
    ∀ direction ∈ road.accessDirections, state.linkIdOf direction ≠ none := by
  obtain ⟨middle, first, run⟩ := fold_cons.mp run
  obtain ⟨_, second, run⟩ := fold_cons.mp run
  obtain rfl := fold_nil.mp run
  have ahead := lower_direction_ok h points first
  have back := lower_direction_ok ahead.linked points second
  have forward_id := (back.others .forward (by decide)).trans ahead.link_id
  have reverse_id := back.link_id
  rw [ahead.others .reverse (by decide)] at reverse_id
  rw [sorted_directions_pairs, ← List.append_assoc]
  refine ⟨back.linked, back.centerlines.trans ahead.centerlines,
    back.crosswalk.trans ahead.crosswalk, ?_, ?_⟩
  · intro direction linkId named
    cases direction with
    | forward =>
      rw [forward_id] at named
      split at named
      · rename_i allowed
        refine ⟨pairs.length, (Option.some.inj named).symm, ?_⟩
        rw [if_pos allowed, List.getElem?_append_left (by simp), List.getElem?_concat_length]
      · cases named
    | reverse =>
      rw [reverse_id] at named
      split at named
      · rename_i allowed
        refine ⟨_, (Option.some.inj named).symm, ?_⟩
        rw [if_pos allowed, List.getElem?_concat_length]
      · cases named
  · intro direction allowed
    cases direction with
    | forward => rw [forward_id, if_pos allowed]; exact Option.some_ne_none _
    | reverse => rw [reverse_id, if_pos allowed]; exact Option.some_ne_none _

theorem lower_road_ok (h : Lowered structureIds failureIds past s)
    (run : lowerRoad structureIds failureIds road profiles s = .ok s') :
    Lowered structureIds failureIds (past ++ [road]) s' := by
  unfold lowerRoad at run
  obtain ⟨profile, -, run⟩ := bind_ok.mp run
  obtain ⟨pointsM, points, run⟩ := bind_ok.mp run
  obtain ⟨centerline, drawn, run⟩ := bind_ok.mp run
  obtain ⟨directed, both, run⟩ := bind_ok.mp run
  obtain ⟨structureId, structure_id, run⟩ := bind_ok.mp run
  obtain ⟨failureId, failure_id, run⟩ := bind_ok.mp run
  obtain rfl := pure_ok.mp run
  obtain ⟨geometry_id, points_m, layer⟩ := centerline_build_ok drawn
  have linked : Linked failureIds (pairsOf past)
      { s with centerlines := s.centerlines ++ [centerline] } :=
    ⟨h.linked.links, h.linked.assignments, h.linked.bridges⟩
  obtain ⟨linked', centerlines, crosswalk, numbered, allowed⟩ := both_directions_ok linked points both
  rw [← pairs_of_append] at linked' numbered
  refine ⟨⟨linked'.links, linked'.assignments, linked'.bridges⟩, ?_, ?_⟩
  · change List.Forall₂ Drawn (past ++ [road]) directed.centerlines
    rw [centerlines]
    exact List.rel_append h.centerlines
      (.cons ⟨geometry_id, by rw [points_m, points], layer⟩ .nil)
  · change List.Forall₂ _ (past ++ [road]) (directed.roadCrosswalk ++ [_])
    rw [crosswalk]
    refine List.rel_append ?_ (.cons ?_ .nil)
    · rw [pairs_of_append]
      exact h.crosswalk.imp fun _ _ mapped => mapped.append
    · exact {
        road_id := rfl
        geometry_id := rfl
        structure_group := rfl
        failure_group := rfl
        structure_id
        failure_id
        numbered := fun direction linkId named => numbered direction linkId (by
          cases direction <;> exact named)
        allowed := fun direction listed => by
          have named := allowed direction listed
          cases direction <;> exact named }

theorem lower_roads_ok {roads : List PhysicalRoadRecord}
    (run : roads.foldlM (fun state road => lowerRoad structureIds failureIds road profiles state)
      {} = .ok s) : Lowered structureIds failureIds roads s :=
  fold_progress (I := Lowered structureIds failureIds)
    (fun _ _ _ _ _ _ held step => lower_road_ok held step) ⟨linked_nil, .nil, .nil⟩ run

end Roads

section Checks

variable {roads : List PhysicalRoadRecord} {structureIds failureIds : Dict String ℤ}
  {pairs : List (PhysicalRoadRecord × Direction)} {rows : List ScalableRoadCrosswalk}
  {group : PhysicalRoadRecord → Option String} {crosswalk : List ScalableGroupCrosswalk}
  {semantic : ScalableRoadCrosswalk → Option String} {dense : ScalableRoadCrosswalk → Option ℤ}

theorem member_rows (named : rows.map (fun row => (semantic row, row.physicalRoadId)) =
    roads.map fun road => (group road, road.roadId)) (name : String) :
    (rows.filter fun row => semantic row = some name).map (·.physicalRoadId) =
      (roads.filter fun road => group road = some name).map (·.roadId) := by
  have both := congrArg (fun items => (items.filter fun item : Option String × ℤ =>
    item.1 = some name).map Prod.snd) named
  simp only [List.filter_map, List.map_map] at both
  exact both

theorem optional_group_id_ok {ids : Dict String ℤ} {name : Option String} {id : Option ℤ}
    (h : optionalGroupId ids name = .ok id) : id = name.bind ids.get := by
  cases name with
  | none => exact (Except.ok.inj h).symm
  | some name =>
    obtain ⟨number, found, rfl⟩ := map_ok.mp h
    unfold groupIdOf at found
    split at found
    · rename_i known
      obtain rfl := Except.ok.inj found
      exact known.symm
    · cases found

theorem require_groups_ok {name : String} (table : GroupTable group roads crosswalk)
    (named : rows.map (fun row => (semantic row, row.physicalRoadId)) =
      roads.map fun road => (group road, road.roadId))
    (numbered : ∀ row ∈ rows, dense row = (semantic row).bind (groupIds crosswalk).get) :
    requireGroups name semantic dense rows crosswalk = .ok ⟨⟩ := by
  refine bind_ok.mpr ⟨⟨⟩, raise_if_ok.mpr (not_not.mpr table.semantics), ?_⟩
  refine bind_ok.mpr ⟨⟨⟩, raise_if_ok.mpr (not_not.mpr table.dense), ?_⟩
  refine bind_ok.mpr ⟨⟨⟩, each_ok.mpr fun row listed => ?_, each_ok.mpr fun row listed => ?_⟩
  · rw [raise_if_ok, not_not, member_rows named]
    exact table.members row listed
  · exact raise_if_ok.mpr (not_not.mpr (numbered row listed))

theorem policy_ids_nodup : ((numericProfilePolicy K).map (·.profileId)).Nodup := by
  change List.Nodup ["v2:surface:local", "v2:surface:collector", "v2:surface:arterial",
    "v2:surface:expressway", "v2:mainline", "v2:ramp", "v2:bridge:local", "v2:bridge:collector",
    "v2:bridge:arterial", "v2:bridge:expressway", "v2:tunnel:local", "v2:tunnel:collector",
    "v2:tunnel:arterial", "v2:tunnel:expressway"]
  decide +kernel

theorem profiles_ordered {profiles : List (ScalableNumericProfile K)}
    (h : numericProfiles = .ok profiles) : (profiles.map (·.profileId)).Nodup ∧
      profiles.map (·.profileId) = sortOn id (profiles.map (·.profileId)) := by
  obtain ⟨built, rows, sorted⟩ := bind_ok.mp h
  obtain rfl := pure_ok.mp sorted
  have same := paired_map_eq (f := fun row => row.profileId) (g := fun built => built.profileId)
    (map_all_ok.mp rows) fun _ _ built => by rw [profile_build_ok built]
  refine ⟨?_, (sort_on_eq_self ?_).symm⟩
  · rw [(sort_on_perm.map _).nodup_iff, ← same]
    exact policy_ids_nodup
  · exact List.pairwise_map.mpr sort_on_sorted

theorem require_crosswalks_ok {profiles : List (ScalableNumericProfile K)}
    {structures failures : List ScalableGroupCrosswalk}
    (ids : roads.map (·.roadId) = (List.range roads.length).map Int.ofNat)
    (ordered : numericProfiles = .ok profiles)
    (structureTable : GroupTable PhysicalRoadRecord.structureGroup roads structures)
    (failureTable : GroupTable PhysicalRoadRecord.failureGroup roads failures)
    (mapped : List.Forall₂ (Mapped (groupIds structures) (groupIds failures) pairs) roads rows) :
    requireCrosswalks rows profiles structures failures = .ok ⟨⟩ := by
  have same : rows.map (·.physicalRoadId) = roads.map (·.roadId) :=
    (paired_map_eq mapped fun _ _ row => row.road_id.symm).symm
  obtain ⟨distinct, sorted⟩ := profiles_ordered ordered
  refine bind_ok.mpr ⟨⟨⟩, raise_if_ok.mpr (not_not.mpr ?_), ?_⟩
  · rw [same, ids, mapped.length_eq]
  refine bind_ok.mpr ⟨⟨⟩, raise_if_ok.mpr (not_or.mpr ⟨not_not.mpr distinct, not_not.mpr sorted⟩), ?_⟩
  refine bind_ok.mpr ⟨⟨⟩, ?_, ?_⟩
  · refine require_groups_ok structureTable ?_ fun row listed => ?_
    · exact (paired_map_eq mapped fun _ _ row => by rw [row.structure_group, row.road_id]).symm
    · obtain ⟨road, -, row⟩ := paired_right mapped listed
      rw [row.structure_group]
      exact optional_group_id_ok row.structure_id
  · refine require_groups_ok failureTable ?_ fun row listed => ?_
    · exact (paired_map_eq mapped fun _ _ row => by rw [row.failure_group, row.road_id]).symm
    · obtain ⟨road, -, row⟩ := paired_right mapped listed
      rw [row.failure_group]
      exact optional_group_id_ok row.failure_id

end Checks

section Bijection

variable {nodes : List PhysicalNodeRecord} {roads : List PhysicalRoadRecord}
  {lowered : LoweredScalableRecords K} {link : Map.RoadLink K} {road : PhysicalRoadRecord}
  {direction : Direction} {i : ℕ} {s : Lowering K} {structureIds failureIds : Dict String ℤ}
  {pair : PhysicalRoadRecord × Direction} {pairs : List (PhysicalRoadRecord × Direction)}

def PhysicalRoadRecord.pointsIn (road : PhysicalRoadRecord) : Direction → List PointMM
  | .forward => road.pointsMm
  | .reverse => road.pointsMm.reverse

structure Runs (assignments : List LinkGeometryAssignment) (centerlines : List (RoadCenterline K))
    (link : Map.RoadLink K) (road : PhysicalRoadRecord) (direction : Direction) : Prop where
  road_id : link.physicalRoadId = some road.roadId
  src : link.srcNodeId = road.srcNodeId direction
  dst : link.dstNodeId = road.dstNodeId direction
  geometry : ∃ assignment ∈ assignments, ∃ centerline ∈ centerlines,
    assignment.linkId = link.linkId ∧ assignment.geometryId = centerline.geometryId ∧
    centerline.geometryId = road.roadId ∧ (assignment.reversed ↔ direction = .reverse) ∧
    (road.pointsIn direction).mapM pointToMetres = .ok
      (if assignment.reversed then centerline.pointsM.reverse else centerline.pointsM) ∧
    link.lengthM = Scalar.pathLength centerline.pointsM

/-- The links are the roads with their directions, and every table agrees on it. -/
structure LoweredExactly (nodes : List PhysicalNodeRecord) (roads : List PhysicalRoadRecord)
    (lowered : LoweredScalableRecords K) : Prop where
  nodes : List.Forall₂ (fun node out => out.nodeId = node.nodeId ∧
    pointToMetres node.pointMm = .ok (out.x, out.y)) nodes lowered.nodes
  link_ids : lowered.links.map (·.linkId) = (List.range lowered.links.length).map Int.ofNat
  assigned : lowered.assignments.map (·.linkId) = lowered.links.map (·.linkId)
  centerlines : lowered.centerlines.map (·.geometryId) = roads.map (·.roadId)
  one_link : ∀ road ∈ roads, ∀ direction ∈ road.accessDirections,
    ∃! link, link ∈ lowered.links ∧ Runs lowered.assignments lowered.centerlines link road direction
  one_pair : ∀ link ∈ lowered.links, ∃! pair : PhysicalRoadRecord × Direction,
    (pair.1 ∈ roads ∧ pair.2 ∈ pair.1.accessDirections) ∧
      Runs lowered.assignments lowered.centerlines link pair.1 pair.2
  crosswalk : lowered.roadCrosswalk.map (·.physicalRoadId) = roads.map (·.roadId)
  crosswalk_links : List.Forall₂ (fun road row => ∀ direction linkId,
    ScalableRoadCrosswalk.linkIdOf row direction = some linkId ↔
      ∃ link ∈ lowered.links, link.linkId = linkId ∧
        Runs lowered.assignments lowered.centerlines link road direction)
    roads lowered.roadCrosswalk
  inverse : ∀ row ∈ lowered.roadCrosswalk, ∀ linkId,
    (∃ direction, row.linkIdOf direction = some linkId) ↔
      ∃ link ∈ lowered.links, link.linkId = linkId ∧ link.physicalRoadId = some row.physicalRoadId
  crossing_groups : (lowered.bridgeCrossings.map (·.bridgeGroupId)).Nodup
  crossings : ∀ crossing ∈ lowered.bridgeCrossings,
    (∃ row ∈ lowered.failureGroupCrosswalk, row.denseGroupId = crossing.bridgeGroupId ∧
      row.semanticGroup = crossing.crossingName) ∧ crossing.linkIds.Nodup ∧
    ∀ linkId, linkId ∈ crossing.linkIds ↔ ∃ link ∈ lowered.links, link.linkId = linkId ∧
      ∃ road ∈ roads, link.physicalRoadId = some road.roadId ∧ road.facility = .bridge ∧
        road.failureGroup = some crossing.crossingName
  crossed : ∀ link ∈ lowered.links, ∀ road ∈ roads, link.physicalRoadId = some road.roadId →
    road.facility = .bridge →
    ∃! crossing, crossing ∈ lowered.bridgeCrossings ∧ link.linkId ∈ crossing.linkIds

theorem road_eq_of_id (ids : roads.map (·.roadId) = (List.range roads.length).map Int.ofNat)
    {other : PhysicalRoadRecord} (mine : road ∈ roads) (listed : other ∈ roads)
    (same : road.roadId = other.roadId) : road = other := by
  have distinct : (roads.map (·.roadId)).Nodup := by
    rw [ids]
    exact List.nodup_range.map Int.ofNat_injective
  exact List.inj_on_of_nodup_map distinct mine listed same

theorem direction_eq_of_src {other : Direction}
    (same : road.srcNodeId direction = road.srcNodeId other) : direction = other := by
  have apart := road.ends_differ
  cases direction <;> cases other
  · rfl
  · exact absurd same apart
  · exact absurd same.symm apart
  · rfl

theorem Linked.link_at (h : Linked failureIds pairs s) (found : pairs[i]? = some pair) :
    ∃ link, s.links[i]? = some link ∧ Carries failureIds (pair, i) link :=
  paired_at h.links (zip_idx_at found)

theorem Linked.pair_at (h : Linked failureIds pairs s) (found : s.links[i]? = some link) :
    ∃ pair, pairs[i]? = some pair ∧ Carries failureIds (pair, i) link := by
  obtain ⟨entry, at_i, carries⟩ := paired_at h.links.flip found
  obtain ⟨here, number⟩ := of_zip_idx_at at_i
  exact ⟨entry.1, here, number ▸ carries⟩

theorem Linked.assignment_at (h : Linked failureIds pairs s) (found : pairs[i]? = some pair) :
    ∃ assignment ∈ s.assignments, Orients (pair, i) assignment := by
  obtain ⟨assignment, at_i, orients⟩ := paired_at h.assignments (zip_idx_at found)
  exact ⟨assignment, List.mem_of_getElem? at_i, orients⟩

theorem Linked.link_ids (h : Linked failureIds pairs s) :
    s.links.map (·.linkId) = (List.range pairs.length).map Int.ofNat := by
  rw [← paired_map_eq (f := fun entry => (entry.2 : ℤ)) h.links fun _ _ carries =>
    carries.link_id.symm, zip_idx_numbers]

theorem points_in_metres {pointsM : List (PointM K)}
    (points : road.pointsMm.mapM pointToMetres = .ok pointsM) :
    (road.pointsIn direction).mapM pointToMetres =
      .ok (if direction = .reverse then pointsM.reverse else pointsM) := by
  cases direction with
  | forward => exact points
  | reverse => exact map_all_ok.mpr (List.rel_reverse (map_all_ok.mp points))

theorem Lowered.runs (h : Lowered structureIds failureIds roads s)
    (found : (pairsOf roads)[i]? = some pair) (carries : Carries failureIds (pair, i) link) :
    Runs s.assignments s.centerlines link pair.1 pair.2 := by
  obtain ⟨assignment, listed, orients⟩ := h.linked.assignment_at found
  have mine : pair.1 ∈ roads := (mem_pairs_of.mp (List.mem_of_getElem? found)).1
  obtain ⟨centerline, shown, drawn⟩ := paired_left h.centerlines mine
  obtain ⟨pointsM, points, length⟩ := carries.length
  have same : pointsM = centerline.pointsM := Except.ok.inj (points.symm.trans drawn.points)
  have oriented : assignment.reversed ↔ pair.2 = .reverse := by
    rw [orients.reversed, decide_eq_true_eq]
  exact {
    road_id := carries.road
    src := carries.src
    dst := carries.dst
    geometry := ⟨assignment, listed, centerline, shown, orients.link_id.trans carries.link_id.symm,
      orients.geometry_id.trans drawn.geometry_id.symm, drawn.geometry_id, oriented, by
        rw [points_in_metres points, same]
        simp only [oriented], same ▸ length⟩ }

theorem pair_of_runs (ids : roads.map (·.roadId) = (List.range roads.length).map Int.ofNat)
    (carries : Carries failureIds (pair, i) link) (mine : pair.1 ∈ roads) (listed : road ∈ roads)
    {assignments : List LinkGeometryAssignment} {centerlines : List (RoadCenterline K)}
    (runs : Runs assignments centerlines link road direction) : pair = (road, direction) := by
  have same : pair.1 = road :=
    road_eq_of_id ids mine listed (Option.some.inj (carries.road.symm.trans runs.road_id))
  have starts : road.srcNodeId pair.2 = road.srcNodeId direction := by
    rw [← runs.src, carries.src, same]
  exact Prod.ext same (direction_eq_of_src starts)

theorem pair_index_unique (ids : roads.map (·.roadId) = (List.range roads.length).map Int.ofNat)
    {j : ℕ} (found : (pairsOf roads)[i]? = some pair) (found' : (pairsOf roads)[j]? = some pair) :
    i = j := by
  have distinct : (roads.map (·.roadId)).Nodup := by
    rw [ids]
    exact List.nodup_range.map Int.ofNat_injective
  exact (List.getElem?_inj (List.getElem?_eq_some_iff.mp found).1
    (pairs_nodup (distinct.of_map _))).mp (found.trans found'.symm)

theorem Lowered.one_link (h : Lowered structureIds failureIds roads s)
    (ids : roads.map (·.roadId) = (List.range roads.length).map Int.ofNat) (listed : road ∈ roads)
    (allowed : direction ∈ road.accessDirections) :
    ∃! link, link ∈ s.links ∧ Runs s.assignments s.centerlines link road direction := by
  obtain ⟨i, found⟩ := List.mem_iff_getElem?.mp (mem_pairs_of.mpr ⟨listed, allowed⟩)
  obtain ⟨link, at_i, carries⟩ := h.linked.link_at found
  refine ⟨link, ⟨List.mem_of_getElem? at_i, h.runs found carries⟩, ?_⟩
  rintro other ⟨made, runs⟩
  obtain ⟨j, at_j⟩ := List.mem_iff_getElem?.mp made
  obtain ⟨pair, found', carries'⟩ := h.linked.pair_at at_j
  have mine := (mem_pairs_of.mp (List.mem_of_getElem? found')).1
  obtain rfl := pair_of_runs ids carries' mine listed runs
  rw [pair_index_unique ids found' found, at_i] at at_j
  exact (Option.some.inj at_j).symm

theorem Lowered.one_pair (h : Lowered structureIds failureIds roads s)
    (ids : roads.map (·.roadId) = (List.range roads.length).map Int.ofNat) (made : link ∈ s.links) :
    ∃! pair : PhysicalRoadRecord × Direction,
      (pair.1 ∈ roads ∧ pair.2 ∈ pair.1.accessDirections) ∧
        Runs s.assignments s.centerlines link pair.1 pair.2 := by
  obtain ⟨i, at_i⟩ := List.mem_iff_getElem?.mp made
  obtain ⟨pair, found, carries⟩ := h.linked.pair_at at_i
  have allowed := mem_pairs_of.mp (List.mem_of_getElem? found)
  refine ⟨pair, ⟨allowed, h.runs found carries⟩, ?_⟩
  rintro ⟨road, direction⟩ ⟨⟨listed, -⟩, runs⟩
  exact (pair_of_runs ids carries allowed.1 listed runs).symm

theorem Lowered.crosswalk_links (h : Lowered structureIds failureIds roads s)
    (ids : roads.map (·.roadId) = (List.range roads.length).map Int.ofNat)
    {row : ScalableRoadCrosswalk} {linkId : ℤ} (listed : road ∈ roads)
    (mapped : Mapped structureIds failureIds (pairsOf roads) road row) :
    row.linkIdOf direction = some linkId ↔
      ∃ link ∈ s.links, link.linkId = linkId ∧
        Runs s.assignments s.centerlines link road direction := by
  constructor
  · intro named
    obtain ⟨i, rfl, found⟩ := mapped.numbered direction linkId named
    obtain ⟨link, at_i, carries⟩ := h.linked.link_at found
    exact ⟨link, List.mem_of_getElem? at_i, carries.link_id, h.runs found carries⟩
  · rintro ⟨link, made, rfl, runs⟩
    obtain ⟨i, at_i⟩ := List.mem_iff_getElem?.mp made
    obtain ⟨pair, found, carries⟩ := h.linked.pair_at at_i
    obtain ⟨mine, allowed⟩ := mem_pairs_of.mp (List.mem_of_getElem? found)
    obtain rfl := pair_of_runs ids carries mine listed runs
    obtain ⟨number, named⟩ := Option.ne_none_iff_exists'.mp (mapped.allowed direction allowed)
    obtain ⟨j, rfl, found'⟩ := mapped.numbered direction number named
    rw [named, pair_index_unique ids found' found, carries.link_id]

theorem Lowered.inverse (h : Lowered structureIds failureIds roads s)
    (ids : roads.map (·.roadId) = (List.range roads.length).map Int.ofNat)
    {row : ScalableRoadCrosswalk} {linkId : ℤ} (listed : row ∈ s.roadCrosswalk) :
    (∃ direction, row.linkIdOf direction = some linkId) ↔
      ∃ link ∈ s.links, link.linkId = linkId ∧ link.physicalRoadId = some row.physicalRoadId := by
  obtain ⟨road, mine, mapped⟩ := paired_right h.crosswalk listed
  constructor
  · rintro ⟨direction, named⟩
    obtain ⟨link, made, number, runs⟩ := (h.crosswalk_links ids mine mapped).mp named
    exact ⟨link, made, number, runs.road_id.trans (congrArg some mapped.road_id.symm)⟩
  · rintro ⟨link, made, number, same⟩
    obtain ⟨⟨other, direction⟩, ⟨⟨listed, -⟩, runs⟩, -⟩ := h.one_pair ids made
    obtain rfl : road = other := road_eq_of_id ids mine listed
      (mapped.road_id.symm.trans (Option.some.inj (same.symm.trans runs.road_id)))
    exact ⟨direction, (h.crosswalk_links ids mine mapped).mpr ⟨link, made, number, runs⟩⟩

end Bijection

section Crossings

variable {roads : List PhysicalRoadRecord} {structureIds failureIds : Dict String ℤ}
  {failures : List ScalableGroupCrosswalk} {crossings : List BridgeCrossing} {s : Lowering K}
  {link : Map.RoadLink K} {road : PhysicalRoadRecord} {group : ℤ} {name : String} {i : ℕ}
  {pair : PhysicalRoadRecord × Direction}

theorem mem_bridge_entries {links : List (Map.RoadLink K)} {linkId : ℤ} :
    (group, linkId) ∈ bridgeEntries links ↔
      ∃ link ∈ links, link.bridgeGroupId = some group ∧ link.linkId = linkId := by
  simp [bridgeEntries]

theorem bridge_group_iff (table : GroupTable PhysicalRoadRecord.failureGroup roads failures)
    (carries : Carries (groupIds failures) (pair, i) link) :
    link.bridgeGroupId = some group ↔ pair.1.facility = .bridge ∧ ∃ row ∈ failures,
      pair.1.failureGroup = some row.semanticGroup ∧ row.denseGroupId = group := by
  have given := carries.group
  unfold bridgeGroupOf at given
  split at given
  · rename_i bridge
    rw [and_iff_right bridge]
    split at given
    · rename_i structureName failureName _ named
      obtain ⟨number, found, same⟩ := map_ok.mp given
      unfold groupIdOf at found
      split at found
      · rename_i known
        obtain rfl := Except.ok.inj found
        obtain ⟨row, listed, semantic, dense⟩ := table.id_of.mp known
        rw [← same, Option.some.injEq]
        constructor
        · rintro rfl
          exact ⟨row, listed, by rw [named, semantic], dense⟩
        · rintro ⟨other, listed', semantic', rfl⟩
          rw [named, Option.some.injEq] at semantic'
          rw [← dense, List.inj_on_of_nodup_map table.semantics listed listed'
            (semantic.trans semantic')]
      · cases found
    · cases given
  · rename_i plain
    obtain same := Except.ok.inj given
    rw [← same]
    simp [plain]

structure Crosses (failures : List ScalableGroupCrosswalk) (links : List (Map.RoadLink K))
    (crossings : List BridgeCrossing) : Prop where
  groups : (crossings.map (·.bridgeGroupId)).Nodup
  named : ∀ crossing ∈ crossings, ∃ row ∈ failures, row.denseGroupId = crossing.bridgeGroupId ∧
    row.semanticGroup = crossing.crossingName
  listed : ∀ crossing ∈ crossings,
    crossing.linkIds = Dict.valuesAt (bridgeEntries links) crossing.bridgeGroupId
  covered : ∀ entry ∈ bridgeEntries links, ∃ crossing ∈ crossings, crossing.bridgeGroupId = entry.1

theorem bridge_crossings_ok {links : List (Map.RoadLink K)} {ids : Dict ℤ (List ℤ)}
    (bridges : Dict.Groups ids (bridgeEntries links))
    (h : bridgeCrossings failures ids = .ok crossings) : Crosses failures links crossings := by
  have rows : List.Forall₂ (fun group crossing => ∃ row ∈ failures,
      row.denseGroupId = group ∧ BridgeCrossing.bridgeGroupId crossing = group ∧
      crossing.linkIds = (ids.get group).getD [] ∧ crossing.crossingName = row.semanticGroup)
      (sortOn id (ids.map Prod.fst)) crossings := by
    refine (map_all_ok.mp h).imp fun group crossing built => ?_
    split at built
    · rename_i row found
      obtain ⟨number, listed, named⟩ := crossing_build_ok built
      exact ⟨row, List.mem_of_find?_eq_some found,
        by simpa using List.find?_some found, number, listed, named⟩
    · cases built
  have numbers : crossings.map (·.bridgeGroupId) = sortOn id (ids.map Prod.fst) := by
    rw [← paired_map_eq (f := id) rows ?_, List.map_id]
    rintro group crossing ⟨row, -, -, number, -⟩
    exact number.symm
  refine ⟨?_, fun crossing made => ?_, fun crossing made => ?_, fun entry listed => ?_⟩
  · rw [numbers, sort_on_perm.nodup_iff]
    exact bridges.distinct
  · obtain ⟨group, -, row, known, dense, number, -, named⟩ := paired_right rows made
    exact ⟨row, known, dense.trans number.symm, named.symm⟩
  · obtain ⟨group, -, row, -, -, number, listed, -⟩ := paired_right rows made
    rw [listed, bridges.get, number]
  · have known : entry.1 ∈ sortOn id (ids.map Prod.fst) :=
      mem_sort_on.mpr ((bridges.keys entry.1).mpr (List.mem_map_of_mem listed))
    obtain ⟨crossing, made, row, -, -, number, -⟩ := paired_left rows known
    exact ⟨crossing, made, number⟩

theorem link_ids_nodup (h : Lowered structureIds failureIds roads s) :
    (s.links.map (·.linkId)).Nodup := by
  rw [h.linked.link_ids]
  exact List.nodup_range.map Int.ofNat_injective

theorem Crosses.links (crosses : Crosses failures s.links crossings)
    (h : Lowered structureIds (groupIds failures) roads s)
    (ids : roads.map (·.roadId) = (List.range roads.length).map Int.ofNat)
    (table : GroupTable PhysicalRoadRecord.failureGroup roads failures)
    {crossing : BridgeCrossing} (made : crossing ∈ crossings) {linkId : ℤ} :
    linkId ∈ crossing.linkIds ↔ ∃ link ∈ s.links, link.linkId = linkId ∧ ∃ road ∈ roads,
      link.physicalRoadId = some road.roadId ∧ road.facility = .bridge ∧
      road.failureGroup = some crossing.crossingName := by
  rw [crosses.listed crossing made, Dict.mem_values_at, mem_bridge_entries]
  obtain ⟨row, listed, dense, semantic⟩ := crosses.named crossing made
  refine exists_congr fun link => and_congr_right fun known => ?_
  rw [and_comm]
  refine and_congr_right fun _ => ?_
  obtain ⟨i, at_i⟩ := List.mem_iff_getElem?.mp known
  obtain ⟨pair, found, carries⟩ := h.linked.pair_at at_i
  have mine := (mem_pairs_of.mp (List.mem_of_getElem? found)).1
  rw [bridge_group_iff table carries]
  constructor
  · rintro ⟨bridge, other, listed', named, same⟩
    refine ⟨pair.1, mine, carries.road, bridge, ?_⟩
    rw [named, ← semantic, List.inj_on_of_nodup_map table.ids_nodup listed' listed
      (same.trans dense.symm)]
  · rintro ⟨road, there, number, bridge, named⟩
    obtain rfl := road_eq_of_id ids mine there (Option.some.inj (carries.road.symm.trans number))
    exact ⟨bridge, row, listed, by rw [named, semantic], dense⟩

theorem Crosses.crossed (crosses : Crosses failures s.links crossings)
    (h : Lowered structureIds (groupIds failures) roads s)
    (ids : roads.map (·.roadId) = (List.range roads.length).map Int.ofNat) (known : link ∈ s.links)
    (listed : road ∈ roads) (number : link.physicalRoadId = some road.roadId)
    (bridge : road.facility = .bridge) :
    ∃! crossing, crossing ∈ crossings ∧ link.linkId ∈ crossing.linkIds := by
  obtain ⟨i, at_i⟩ := List.mem_iff_getElem?.mp known
  obtain ⟨pair, found, carries⟩ := h.linked.pair_at at_i
  have mine := (mem_pairs_of.mp (List.mem_of_getElem? found)).1
  obtain rfl := road_eq_of_id ids mine listed (Option.some.inj (carries.road.symm.trans number))
  obtain ⟨group, grouped⟩ : ∃ group, link.bridgeGroupId = some group := by
    have given := carries.group
    unfold bridgeGroupOf at given
    rw [if_pos bridge] at given
    split at given
    · obtain ⟨group, -, same⟩ := map_ok.mp given
      exact ⟨group, same.symm⟩
    · cases given
  obtain ⟨crossing, made, same⟩ := crosses.covered (group, link.linkId)
    (mem_bridge_entries.mpr ⟨link, known, grouped, rfl⟩)
  refine ⟨crossing, ⟨made, ?_⟩, ?_⟩
  · rw [crosses.listed crossing made, same]
    exact Dict.mem_values_at.mpr (mem_bridge_entries.mpr ⟨link, known, grouped, rfl⟩)
  · rintro other ⟨made', inside⟩
    rw [crosses.listed other made', Dict.mem_values_at, mem_bridge_entries] at inside
    obtain ⟨link', known', grouped', number'⟩ := inside
    obtain rfl := List.inj_on_of_nodup_map (link_ids_nodup h) known' known number'
    exact List.inj_on_of_nodup_map crosses.groups made' made
      (Option.some.inj (grouped'.symm.trans (same ▸ grouped)))

theorem values_at_nodup {links : List (Map.RoadLink K)} (distinct : (links.map (·.linkId)).Nodup) :
    (Dict.valuesAt (bridgeEntries links) group).Nodup := by
  refine List.Nodup.sublist ?_ distinct
  unfold Dict.valuesAt bridgeEntries
  induction links with
  | nil => exact List.Sublist.slnil
  | cons link links ih =>
    have later := ih (List.nodup_cons.mp distinct).2
    cases grouped : link.bridgeGroupId with
    | none =>
      rw [List.filterMap_cons_none (by rw [grouped]; rfl), List.map_cons]
      exact later.cons _
    | some other =>
      rw [List.filterMap_cons_some (by rw [grouped]; rfl), List.filter_cons, List.map_cons]
      split
      · rw [List.map_cons]
        exact later.cons_cons _
      · exact later.cons _

end Crossings

end Metroflow.City.Scalable
