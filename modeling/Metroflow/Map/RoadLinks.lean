import Metroflow.Map.RoadGeometry

namespace Metroflow.Map

open Metroflow.Lib

inductive NodeKind where
  | intersection
  | rampMerge
  | rampSplit
  | interchange
  | bridgeEndpoint
  deriving DecidableEq, Repr

inductive RoadClass where
  | localRoad
  | collector
  | arterial
  | expressway
  | ramp
  | bridge
  deriving DecidableEq, Repr

inductive RampPurpose where
  | onRamp
  | offRamp
  deriving DecidableEq, Repr

/-- A directed road link as the map compilers make it; the fields keep what
its constructor checks. -/
structure RoadLinkRecord (K : Type) [Scalar K] where
  linkId : ℤ
  srcNodeId : ℤ
  dstNodeId : ℤ
  roadClass : RoadClass
  lengthM : K
  freeFlowSpeedMps : K
  capacityVehPerTick : K
  lanes : ℤ
  physicalRoadId : ℤ
  ends_differ : srcNodeId ≠ dstNodeId
  length_pos : ¬ lengthM ≤ 0
  speed_pos : ¬ freeFlowSpeedMps ≤ 0
  capacity_nonneg : ¬ capacityVehPerTick < 0
  lanes_pos : 1 ≤ lanes
  not_bridge : roadClass ≠ .bridge
  road_id_nonneg : 0 ≤ physicalRoadId

namespace RoadLinkRecord

variable {K : Type} [Scalar K]

def build (linkId srcNodeId dstNodeId : ℤ) (roadClass : RoadClass)
    (lengthM freeFlowSpeedMps capacityVehPerTick : K) (lanes physicalRoadId : ℤ) :
    Except String (RoadLinkRecord K) :=
  if ends : srcNodeId = dstNodeId then
    .error "RoadLink src_node_id and dst_node_id must differ"
  else if length : lengthM ≤ 0 then .error "RoadLink length_m must be > 0"
  else if speed : freeFlowSpeedMps ≤ 0 then .error "RoadLink free_flow_speed_mps must be > 0"
  else if capacity : capacityVehPerTick < 0 then
    .error "RoadLink capacity_veh_per_tick must be >= 0"
  else if few : lanes < 1 then .error "RoadLink lanes must be >= 1"
  -- these links never carry a bridge group
  else if bridge : roadClass = .bridge then
    .error "RoadLink bridge_group_id is required for bridge links"
  else if road : physicalRoadId < 0 then
    .error "RoadLink physical_road_id must be >= 0 when provided"
  else .ok ⟨linkId, srcNodeId, dstNodeId, roadClass, lengthM, freeFlowSpeedMps,
    capacityVehPerTick, lanes, physicalRoadId, ends, length, speed, capacity, one_le_of_not_few few, bridge,
    id_of_not_neg road⟩

variable {linkId srcNodeId dstNodeId lanes physicalRoadId : ℤ} {roadClass : RoadClass}
  {lengthM freeFlowSpeedMps capacityVehPerTick : K}

theorem build_ok (ends_differ : srcNodeId ≠ dstNodeId) (length_pos : ¬ lengthM ≤ 0)
    (speed_pos : ¬ freeFlowSpeedMps ≤ 0) (capacity_nonneg : ¬ capacityVehPerTick < 0)
    (lanes_pos : 1 ≤ lanes) (not_bridge : roadClass ≠ .bridge) (road_id : 0 ≤ physicalRoadId) :
    build linkId srcNodeId dstNodeId roadClass lengthM freeFlowSpeedMps capacityVehPerTick lanes
        physicalRoadId =
      .ok ⟨linkId, srcNodeId, dstNodeId, roadClass, lengthM, freeFlowSpeedMps, capacityVehPerTick,
        lanes, physicalRoadId, ends_differ, length_pos, speed_pos, capacity_nonneg, lanes_pos,
        not_bridge, road_id⟩ := by
  unfold build
  rw [dif_neg ends_differ, dif_neg length_pos, dif_neg speed_pos, dif_neg capacity_nonneg,
    dif_neg (not_lt.mpr lanes_pos), dif_neg not_bridge, dif_neg (not_lt.mpr road_id)]

end RoadLinkRecord

structure MapNode (K : Type) where
  nodeId : ℤ
  point : PointM K

structure RoadLinkFields (K : Type) where
  linkId : ℤ
  srcNodeId : ℤ
  dstNodeId : ℤ
  roadClass : RoadClass
  lengthM : K
  freeFlowSpeedMps : K
  capacityVehPerTick : K
  lanes : ℤ
  bridgeGroupId : Option ℤ
  isBlockable : Bool := true
  physicalRoadId : Option ℤ
  rampPurpose : Option RampPurpose := none

/-- A directed road link; the fields keep what its constructor checks. -/
structure RoadLink (K : Type) [Scalar K] extends RoadLinkFields K where
  ends_differ : srcNodeId ≠ dstNodeId
  length_pos : ¬ lengthM ≤ 0
  speed_pos : ¬ freeFlowSpeedMps ≤ 0
  capacity_nonneg : ¬ capacityVehPerTick < 0
  lanes_pos : 1 ≤ lanes
  bridge_grouped : roadClass = .bridge → bridgeGroupId ≠ none
  road_id_nonneg : ∀ id ∈ physicalRoadId, 0 ≤ id
  ramps_only : rampPurpose ≠ none → roadClass = .ramp

def RoadLink.build {K : Type} [Scalar K] (fields : RoadLinkFields K) : Except String (RoadLink K) :=
  if ends : fields.srcNodeId = fields.dstNodeId then
    .error "RoadLink src_node_id and dst_node_id must differ"
  else if length : fields.lengthM ≤ 0 then .error "RoadLink length_m must be > 0"
  else if speed : fields.freeFlowSpeedMps ≤ 0 then
    .error "RoadLink free_flow_speed_mps must be > 0"
  else if capacity : fields.capacityVehPerTick < 0 then
    .error "RoadLink capacity_veh_per_tick must be >= 0"
  else if few : fields.lanes < 1 then .error "RoadLink lanes must be >= 1"
  else if bridge : fields.roadClass = .bridge ∧ fields.bridgeGroupId = none then
    .error "RoadLink bridge_group_id is required for bridge links"
  else if road : ∃ id ∈ fields.physicalRoadId, id < 0 then
    .error "RoadLink physical_road_id must be >= 0 when provided"
  else if ramp : fields.rampPurpose ≠ none ∧ fields.roadClass ≠ .ramp then
    .error "RoadLink ramp_purpose requires RoadClass.RAMP"
  else .ok ⟨fields, ends, length, speed, capacity, not_lt.mp few, not_and.mp bridge,
    fun id given => not_lt.mp fun negative => road ⟨id, given, negative⟩,
    fun typed => not_not.mp fun other => ramp ⟨typed, other⟩⟩

theorem RoadLink.build_total {K : Type} [Scalar K] {fields : RoadLinkFields K}
    (ends : fields.srcNodeId ≠ fields.dstNodeId) (length : ¬ fields.lengthM ≤ 0)
    (speed : ¬ fields.freeFlowSpeedMps ≤ 0) (capacity : ¬ fields.capacityVehPerTick < 0)
    (lanes : 1 ≤ fields.lanes) (bridge : fields.roadClass = .bridge → fields.bridgeGroupId ≠ none)
    (road : ∀ id ∈ fields.physicalRoadId, 0 ≤ id)
    (ramp : fields.rampPurpose ≠ none → fields.roadClass = .ramp) :
    ∃ link, RoadLink.build fields = .ok link ∧ link.toRoadLinkFields = fields := by
  refine ⟨⟨fields, ends, length, speed, capacity, lanes, bridge, road, ramp⟩, ?_, rfl⟩
  have numbered : ¬ ∃ id ∈ fields.physicalRoadId, id < 0 := by
    rintro ⟨id, given, negative⟩
    exact absurd (road id given) (not_le.mpr negative)
  unfold RoadLink.build
  rw [dif_neg ends, dif_neg length, dif_neg speed, dif_neg capacity, dif_neg (not_lt.mpr lanes),
    dif_neg (not_and.mpr bridge), dif_neg numbered,
    dif_neg (not_and.mpr fun typed other => other (ramp typed))]

theorem RoadLink.build_ok {K : Type} [Scalar K] {fields : RoadLinkFields K} {link : RoadLink K}
    (h : RoadLink.build fields = .ok link) : link.toRoadLinkFields = fields := by
  unfold RoadLink.build at h
  split_ifs at h
  obtain rfl := Except.ok.inj h
  rfl

end Metroflow.Map
