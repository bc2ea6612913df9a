import Metroflow.City.StructuralAudit
import Metroflow.Lib.Dict
import Metroflow.Lib.Keyed
import Metroflow.Map.RoadLinks

namespace Metroflow.City

inductive RoadHierarchy where
  | expressway
  | arterial
  | collector
  | localRoad
  deriving DecidableEq, Repr

inductive Direction where
  | forward
  | reverse
  deriving DecidableEq, Repr

def FacilityKind.value : FacilityKind → String
  | .surface => "surface"
  | .mainline => "mainline"
  | .ramp => "ramp"
  | .bridge => "bridge"
  | .tunnel => "tunnel"

def RoadHierarchy.value : RoadHierarchy → String
  | .expressway => "expressway"
  | .arterial => "arterial"
  | .collector => "collector"
  | .localRoad => "local"

def profileFor (facility : FacilityKind) (hierarchy : RoadHierarchy) : String :=
  if facility = .ramp then "v2:ramp" else "v2:" ++ facility.value ++ ":" ++ hierarchy.value

namespace Scalable

open Metroflow.Lib Metroflow.Map

/-- A road of the street plan with what the compiler reads of it. -/
structure PhysicalRoadRecord extends City.PhysicalRoadRecord where
  hierarchy : RoadHierarchy
  accessDirections : Finset Direction
  structureGroup : Option String := none
  failureGroup : Option String := none
  profileId : String
  provenance : String
  rampPurpose : Option RampPurpose := none
  some_direction : accessDirections.Nonempty := by decide
  profile_matches : profileId = profileFor facility hierarchy := by decide
  ramps_only : rampPurpose.isSome → facility = .ramp := by decide
  typed_ramp_layer : rampPurpose.isSome → layer = 1 := by decide
  typed_ramp_forward : rampPurpose.isSome → accessDirections = {.forward} := by decide

namespace PhysicalRoadRecord

variable (road : PhysicalRoadRecord)

def sortedDirections : List Direction :=
  [Direction.forward, Direction.reverse].filter (· ∈ road.accessDirections)

def srcNodeId : Direction → ℤ
  | .forward => road.startNodeId
  | .reverse => road.endNodeId

def dstNodeId : Direction → ℤ
  | .forward => road.endNodeId
  | .reverse => road.startNodeId

end PhysicalRoadRecord

variable (K : Type) [Scalar K]

structure Node where
  nodeId : ℤ
  kind : NodeKind := .intersection
  x : K
  y : K

structure NumericProfileRow where
  profileId : String
  lanesPerDirection : ℤ
  freeFlowSpeedMps : K
  capacityVehPerSecond : K
  operationalRoadClass : RoadClass
  sectionRoadsideProfile : String
  medianWhenBidirectional : Bool

structure ScalableNumericProfile extends NumericProfileRow K where
  id_nonempty : profileId ≠ ""
  lanes_pos : 1 ≤ lanesPerDirection
  speed_pos : ¬ freeFlowSpeedMps ≤ 0
  capacity_nonneg : ¬ capacityVehPerSecond < 0
  roadside_nonempty : sectionRoadsideProfile ≠ ""

structure GroupCrosswalkRow where
  semanticGroup : String
  denseGroupId : ℤ
  memberPhysicalRoadIds : List ℤ

structure ScalableGroupCrosswalk extends GroupCrosswalkRow where
  semantic_nonempty : semanticGroup ≠ ""
  id_nonneg : 0 ≤ denseGroupId
  members_nonempty : memberPhysicalRoadIds ≠ []
  members_canonical : memberPhysicalRoadIds.Pairwise (· < ·)

/-- What became of a road; the fields keep what the constructor checks. -/
structure ScalableRoadCrosswalk where
  physicalRoadId : ℤ
  roadSemanticId : String
  hierarchy : RoadHierarchy
  facility : FacilityKind
  profileId : String
  layer : ℤ
  layerTransition : Option (ℤ × ℤ)
  accessDirections : List Direction
  provenance : String
  geometryId : ℤ
  centerlineSourceRef : String
  forwardLinkId : Option ℤ
  reverseLinkId : Option ℤ
  structureGroup : Option String
  structureGroupId : Option ℤ
  failureGroup : Option String
  bridgeGroupId : Option ℤ
  rampPurpose : Option RampPurpose
  ramps_only : rampPurpose.isSome → facility = .ramp
  canonical : accessDirections ∈ [[.forward], [.reverse], [.forward, .reverse]]

structure BridgeCrossing where
  bridgeGroupId : ℤ
  linkIds : List ℤ
  barrierId : ℤ
  crossingName : String
  nonempty : linkIds ≠ []

variable {K}

def ScalableNumericProfile.build (row : NumericProfileRow K) :
    Except String (ScalableNumericProfile K) :=
  if valid : row.profileId ≠ "" ∧ 1 ≤ row.lanesPerDirection ∧ ¬ row.freeFlowSpeedMps ≤ 0 ∧
      ¬ row.capacityVehPerSecond < 0 ∧ row.sectionRoadsideProfile ≠ "" then
    .ok ⟨row, valid.1, valid.2.1, valid.2.2.1, valid.2.2.2.1, valid.2.2.2.2⟩
  else .error "numeric profile values must be non-empty and non-negative"

def ScalableGroupCrosswalk.build (row : GroupCrosswalkRow) :
    Except String ScalableGroupCrosswalk :=
  if valid : row.semanticGroup ≠ "" ∧ 0 ≤ row.denseGroupId ∧ row.memberPhysicalRoadIds ≠ [] ∧
      row.memberPhysicalRoadIds.Pairwise (· < ·) then
    .ok ⟨row, valid.1, valid.2.1, valid.2.2.1, valid.2.2.2⟩
  else .error "group crosswalk values must be unique and canonical"

section Nodes

variable (nodes : List PhysicalNodeRecord) (road : PhysicalRoadRecord)

/-- A length in metres; only what a float can hold is converted. -/
def toMetres (mm : ℤ) : Except String K :=
  let value : K := Scalar.ofInt mm
  if Scalar.isfinite value then .ok (value / Scalar.ofInt 1000)
  else .error "int too large to convert to float"

def pointToMetres (point : PointMM) : Except String (PointM K) := do
  return (← toMetres point.1, ← toMetres point.2)

def lowerNode (node : PhysicalNodeRecord) : Except String (Node K) := do
  let (x, y) ← pointToMetres node.pointMm
  return { nodeId := node.nodeId, x, y }

def layerOf (nodeId : ℤ) : Except String ℤ :=
  match nodes.find? fun node => node.nodeId = nodeId with
  | some node => .ok node.layer
  | none => .error "road endpoint is absent from physical nodes"

def requireEndpointLayers : Except String Unit := do
  let startLayer ← layerOf nodes road.startNodeId
  let endLayer ← layerOf nodes road.endNodeId
  match road.facility with
  | .surface =>
    raiseIf (road.layer ≠ 0 ∨ (startLayer, endLayer) ≠ (0, 0))
      "surface roads require layer-0 endpoints"
  | .mainline =>
    raiseIf (road.hierarchy ≠ .expressway ∨ road.layer ≠ 1 ∨ (startLayer, endLayer) ≠ (1, 1))
      "mainline roads require expressway hierarchy and layer-1 endpoints"
  | .ramp =>
    let expected : ℤ × ℤ := if road.rampPurpose = some .offRamp then (1, 0) else (0, 1)
    raiseIf (road.hierarchy ≠ .arterial ∨ road.layer ≠ 1 ∨ road.layerTransition ≠ some (0, 1) ∨
        (startLayer, endLayer) ≠ expected)
      "ramp roads require arterial hierarchy and their declared layer transition"
  | .bridge =>
    raiseIf (road.layer ≠ 0 ∨ (startLayer, endLayer) ≠ (0, 0))
      "bridge roads require layer-0 endpoints"
  | .tunnel => .error "tunnel facility is not admitted by this adapter schema"

end Nodes

section Profiles

def tenths (value : ℤ) : K := Scalar.ofInt value / Scalar.ofInt 10

def hundredths (value : ℤ) : K := Scalar.ofInt value / Scalar.ofInt 100

variable (K) in
def numericProfilePolicy : List (NumericProfileRow K) := [
  ⟨"v2:surface:local", 1, tenths 83, hundredths 45, .localRoad, "urban", false⟩,
  ⟨"v2:surface:collector", 1, tenths 111, hundredths 70, .collector, "urban", false⟩,
  ⟨"v2:surface:arterial", 2, tenths 167, hundredths 110, .arterial, "urban", true⟩,
  ⟨"v2:surface:expressway", 3, tenths 278, hundredths 180, .expressway, "limited_access", true⟩,
  ⟨"v2:mainline", 3, tenths 278, hundredths 180, .expressway, "limited_access", true⟩,
  ⟨"v2:ramp", 1, tenths 139, hundredths 70, .ramp, "rural", false⟩,
  ⟨"v2:bridge:local", 1, tenths 83, hundredths 45, .bridge, "limited_access", true⟩,
  ⟨"v2:bridge:collector", 1, tenths 111, hundredths 70, .bridge, "limited_access", true⟩,
  ⟨"v2:bridge:arterial", 2, tenths 167, hundredths 110, .bridge, "limited_access", true⟩,
  ⟨"v2:bridge:expressway", 3, tenths 278, hundredths 180, .bridge, "limited_access", true⟩,
  ⟨"v2:tunnel:local", 1, tenths 83, hundredths 45, .localRoad, "urban", false⟩,
  ⟨"v2:tunnel:collector", 1, tenths 111, hundredths 70, .collector, "urban", false⟩,
  ⟨"v2:tunnel:arterial", 2, tenths 167, hundredths 110, .arterial, "urban", true⟩,
  ⟨"v2:tunnel:expressway", 3, tenths 278, hundredths 180, .expressway, "limited_access", true⟩]

def numericProfiles : Except String (List (ScalableNumericProfile K)) := do
  let profiles ← (numericProfilePolicy K).mapM ScalableNumericProfile.build
  return sortOn (fun profile => profile.profileId) profiles

def resolvedProfileId (road : PhysicalRoadRecord) : String :=
  if road.facility = .mainline then "v2:mainline" else road.profileId

def profileById (profiles : List (ScalableNumericProfile K)) (profileId : String) :
    Except String (ScalableNumericProfile K) :=
  match profiles.find? fun profile => profile.profileId = profileId with
  | some profile => .ok profile
  | none => .error s!"unsupported numeric profile '{profileId}'"

end Profiles

section Groups

def addMember (group : PhysicalRoadRecord → Option String) (members : Dict String (List ℤ))
    (road : PhysicalRoadRecord) : Dict String (List ℤ) :=
  match group road with
  | some semanticGroup => members.appendAt semanticGroup road.roadId
  | none => members

def groupMembers (group : PhysicalRoadRecord → Option String) (roads : List PhysicalRoadRecord) :
    Dict String (List ℤ) :=
  roads.foldl (addMember group) []

def groupCrosswalk (members : Dict String (List ℤ)) :
    Except String (List ScalableGroupCrosswalk) :=
  (sortOn id (members.map Prod.fst)).zipIdx.mapM fun entry =>
    ScalableGroupCrosswalk.build {
      semanticGroup := entry.1
      denseGroupId := entry.2
      memberPhysicalRoadIds := (members.get entry.1).getD [] }

def groupIds (crosswalk : List ScalableGroupCrosswalk) : Dict String ℤ :=
  Dict.update [] (crosswalk.map fun row => (row.semanticGroup, row.denseGroupId))

def groupIdOf (ids : Dict String ℤ) (semanticGroup : String) : Except String ℤ :=
  match ids.get semanticGroup with
  | some denseGroupId => .ok denseGroupId
  | none => .error semanticGroup

def optionalGroupId (ids : Dict String ℤ) : Option String → Except String (Option ℤ)
  | none => .ok none
  | some semanticGroup => (groupIdOf ids semanticGroup).map some

end Groups

section Roads

variable (K) in
structure Lowering where
  links : List (Map.RoadLink K) := []
  centerlines : List (RoadCenterline K) := []
  assignments : List LinkGeometryAssignment := []
  roadCrosswalk : List ScalableRoadCrosswalk := []
  bridgeLinkIds : Dict ℤ (List ℤ) := []

variable (K) in
/-- The links made so far, and those of the road at hand. -/
structure RoadLowering extends Lowering K where
  forwardLinkId : Option ℤ := none
  reverseLinkId : Option ℤ := none

def Lowering.addLink (state : Lowering K) (link : Map.RoadLink K)
    (assignment : LinkGeometryAssignment) : Lowering K :=
  { state with
    links := state.links ++ [link]
    assignments := state.assignments ++ [assignment]
    bridgeLinkIds := match link.bridgeGroupId with
      | some group => state.bridgeLinkIds.appendAt group link.linkId
      | none => state.bridgeLinkIds }

def RoadLowering.setLinkId (state : RoadLowering K) (direction : Direction) (linkId : ℤ) :
    RoadLowering K :=
  match direction with
  | .forward => { state with forwardLinkId := some linkId }
  | .reverse => { state with reverseLinkId := some linkId }

variable (structureGroupId failureGroupId : Dict String ℤ) (road : PhysicalRoadRecord)
  (profile : ScalableNumericProfile K) (lengthM : K)

def bridgeGroupOf : Except String (Option ℤ) :=
  if road.facility = .bridge then
    match road.structureGroup, road.failureGroup with
    | some _, some failureGroup => (groupIdOf failureGroupId failureGroup).map some
    | _, _ => .error "bridge roads require structure and failure groups"
  else .ok none

def lowerDirection (state : RoadLowering K) (direction : Direction) :
    Except String (RoadLowering K) :=
  if direction ∉ road.accessDirections then .ok state
  else do
    let linkId : ℤ := state.links.length
    let bridgeGroupId ← bridgeGroupOf failureGroupId road
    let link ← Map.RoadLink.build {
      linkId
      srcNodeId := road.srcNodeId direction
      dstNodeId := road.dstNodeId direction
      roadClass := profile.operationalRoadClass
      lengthM
      freeFlowSpeedMps := profile.freeFlowSpeedMps
      capacityVehPerTick := profile.capacityVehPerSecond
      lanes := profile.lanesPerDirection
      bridgeGroupId
      physicalRoadId := some road.roadId
      rampPurpose := road.rampPurpose }
    let assignment ← LinkGeometryAssignment.build linkId road.roadId (direction = .reverse)
    let lowered := { state with toLowering := state.addLink link assignment }
    return lowered.setLinkId direction linkId

theorem sorted_directions_canonical :
    road.sortedDirections ∈ [[.forward], [.reverse], [.forward, .reverse]] := by
  obtain ⟨direction, allowed⟩ := road.some_direction
  unfold PhysicalRoadRecord.sortedDirections
  by_cases ahead : Direction.forward ∈ road.accessDirections <;>
    by_cases back : Direction.reverse ∈ road.accessDirections <;> simp [ahead, back]
  cases direction <;> contradiction

def lowerRoad (profiles : List (ScalableNumericProfile K)) (state : Lowering K) :
    Except String (Lowering K) := do
  let profile ← profileById profiles (resolvedProfileId road)
  let pointsM ← road.pointsMm.mapM pointToMetres
  let centerline ← RoadCenterline.build road.roadId pointsM road.layer
  let directed ← [Direction.forward, Direction.reverse].foldlM
    (lowerDirection failureGroupId road profile (Scalar.pathLength pointsM))
    { state with centerlines := state.centerlines ++ [centerline] }
  let row : ScalableRoadCrosswalk := {
    physicalRoadId := road.roadId
    roadSemanticId := road.semanticId
    hierarchy := road.hierarchy
    facility := road.facility
    profileId := resolvedProfileId road
    layer := road.layer
    layerTransition := road.layerTransition
    accessDirections := road.sortedDirections
    provenance := road.provenance
    geometryId := road.roadId
    centerlineSourceRef := "scalable:" ++ road.semanticId
    forwardLinkId := directed.forwardLinkId
    reverseLinkId := directed.reverseLinkId
    structureGroup := road.structureGroup
    structureGroupId := ← optionalGroupId structureGroupId road.structureGroup
    failureGroup := road.failureGroup
    bridgeGroupId := ← optionalGroupId failureGroupId road.failureGroup
    rampPurpose := road.rampPurpose
    ramps_only := road.ramps_only
    canonical := sorted_directions_canonical road }
  return { directed.toLowering with roadCrosswalk := directed.roadCrosswalk ++ [row] }

end Roads

section Records

variable (K) in
structure LoweredScalableRecords where
  nodes : List (Node K)
  links : List (Map.RoadLink K)
  centerlines : List (RoadCenterline K)
  assignments : List LinkGeometryAssignment
  numericProfiles : List (ScalableNumericProfile K)
  roadCrosswalk : List ScalableRoadCrosswalk
  structureGroupCrosswalk : List ScalableGroupCrosswalk
  failureGroupCrosswalk : List ScalableGroupCrosswalk
  bridgeCrossings : List BridgeCrossing

def BridgeCrossing.build (bridgeGroupId : ℤ) (linkIds : List ℤ) (crossingName : String) :
    Except String BridgeCrossing :=
  if empty : linkIds = [] then .error "BridgeCrossing link_ids must not be empty"
  else .ok ⟨bridgeGroupId, linkIds, bridgeGroupId, crossingName, empty⟩

def bridgeCrossings (failureGroups : List ScalableGroupCrosswalk)
    (bridgeLinkIds : Dict ℤ (List ℤ)) : Except String (List BridgeCrossing) :=
  (sortOn id (bridgeLinkIds.map Prod.fst)).mapM fun denseGroupId =>
    match failureGroups.find? fun row => row.denseGroupId = denseGroupId with
    | some row => BridgeCrossing.build denseGroupId ((bridgeLinkIds.get denseGroupId).getD [])
        row.semanticGroup
    | none => .error s!"{denseGroupId}"

def lowerScalableRecords (nodes : List PhysicalNodeRecord) (roads : List PhysicalRoadRecord) :
    Except String (LoweredScalableRecords K) := do
  raiseIf (nodes.map (·.nodeId) ≠ (List.range nodes.length).map Int.ofNat)
    "physical node IDs must be dense and ordered"
  raiseIf (roads.map (·.roadId) ≠ (List.range roads.length).map Int.ofNat)
    "physical road IDs must be dense and ordered"
  roads.forM (requireEndpointLayers nodes)
  let profiles ← numericProfiles (K := K)
  let structureGroups ← groupCrosswalk (groupMembers PhysicalRoadRecord.structureGroup roads)
  let failureGroups ← groupCrosswalk (groupMembers PhysicalRoadRecord.failureGroup roads)
  let loweredNodes ← nodes.mapM lowerNode
  let lowered ← roads.foldlM (fun state road =>
    lowerRoad (groupIds structureGroups) (groupIds failureGroups) road profiles state) {}
  let crossings ← bridgeCrossings failureGroups lowered.bridgeLinkIds
  return {
    nodes := loweredNodes
    links := lowered.links
    centerlines := lowered.centerlines
    assignments := lowered.assignments
    numericProfiles := profiles
    roadCrosswalk := lowered.roadCrosswalk
    structureGroupCrosswalk := structureGroups
    failureGroupCrosswalk := failureGroups
    bridgeCrossings := crossings }

end Records

section Validation

/-- The checks between one table of groups and the roads. -/
def requireGroups (name : String) (semantic : ScalableRoadCrosswalk → Option String)
    (dense : ScalableRoadCrosswalk → Option ℤ) (roads : List ScalableRoadCrosswalk)
    (groups : List ScalableGroupCrosswalk) : Except String Unit := do
  raiseIf (¬ (groups.map (·.semanticGroup)).Nodup) (name ++ " has duplicate group semantics")
  raiseIf (groups.map (·.denseGroupId) ≠ (List.range groups.length).map Int.ofNat)
    (name ++ " dense group IDs are not canonical")
  let groupBySemantic := groupIds groups
  groups.forM fun group =>
    raiseIf (group.memberPhysicalRoadIds ≠
        (roads.filter fun row => semantic row = some group.semanticGroup).map (·.physicalRoadId))
      (name ++ " member rows differ")
  roads.forM fun row =>
    raiseIf (dense row ≠ (semantic row).bind groupBySemantic.get) (name ++ " road mapping differs")

/-- The checks of a compiled topology on its crosswalks. -/
def requireCrosswalks (roads : List ScalableRoadCrosswalk)
    (profiles : List (ScalableNumericProfile K))
    (structureGroups failureGroups : List ScalableGroupCrosswalk) : Except String Unit := do
  raiseIf (roads.map (·.physicalRoadId) ≠ (List.range roads.length).map Int.ofNat)
    "road crosswalk physical IDs must be dense and ordered"
  let profileIds := profiles.map (·.profileId)
  raiseIf (¬ profileIds.Nodup ∨ profileIds ≠ sortOn id profileIds)
    "numeric profile IDs must be unique and ordered"
  requireGroups "structure_group_crosswalk" ScalableRoadCrosswalk.structureGroup
    ScalableRoadCrosswalk.structureGroupId roads structureGroups
  requireGroups "failure_group_crosswalk" ScalableRoadCrosswalk.failureGroup
    ScalableRoadCrosswalk.bridgeGroupId roads failureGroups

end Validation

end Scalable

end Metroflow.City
