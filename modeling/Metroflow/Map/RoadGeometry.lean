import Metroflow.Lib.Keyed
import Metroflow.Lib.Loops
import Metroflow.Lib.Scalar

namespace Metroflow.Map

open Metroflow.Lib

variable {K : Type} [Scalar K]

/-- A physical road centerline; the fields keep what its constructor checks. -/
structure RoadCenterline (K : Type) [Scalar K] where
  geometryId : ℤ
  pointsM : List (PointM K)
  layer : ℤ
  id_nonneg : 0 ≤ geometryId
  two_points : 2 ≤ pointsM.length
  finite : ∀ p ∈ pointsM, Scalar.isfinite p.1 = true ∧ Scalar.isfinite p.2 = true
  steps_move : pointsM.IsChain (· ≠ ·)

namespace RoadCenterline

def build (geometryId : ℤ) (pointsM : List (PointM K)) (layer : ℤ) :
    Except String (RoadCenterline K) :=
  if negative : geometryId < 0 then .error "geometry_id must be >= 0"
  else if short : pointsM.length < 2 then .error "points_m must contain at least two points"
  else if finite : ∀ p ∈ pointsM, Scalar.isfinite p.1 = true ∧ Scalar.isfinite p.2 = true then
    if moves : pointsM.IsChain (· ≠ ·) then
      .ok ⟨geometryId, pointsM, layer, id_of_not_neg negative, not_lt.mp short, finite, moves⟩
    else .error "points_m must not contain consecutive duplicate points"
  else .error "points_m coordinates must be finite"

theorem build_ok {geometryId : ℤ} {pointsM : List (PointM K)} {layer : ℤ}
    (id_nonneg : 0 ≤ geometryId) (two_points : 2 ≤ pointsM.length)
    (finite : ∀ p ∈ pointsM, Scalar.isfinite p.1 = true ∧ Scalar.isfinite p.2 = true)
    (steps_move : pointsM.IsChain (· ≠ ·)) : build geometryId pointsM layer =
      .ok ⟨geometryId, pointsM, layer, id_nonneg, two_points, finite, steps_move⟩ := by
  unfold build
  rw [dif_neg (not_lt.mpr id_nonneg), dif_neg (not_lt.mpr two_points), dif_pos finite,
    dif_pos steps_move]

def lengthM (c : RoadCenterline K) : K := Scalar.pathLength c.pointsM

end RoadCenterline

/-- Orients one directed link along a centerline. -/
structure LinkGeometryAssignment where
  linkId : ℤ
  geometryId : ℤ
  reversed : Bool := false
  ids_nonneg : 0 ≤ linkId ∧ 0 ≤ geometryId

namespace LinkGeometryAssignment

def build (linkId geometryId : ℤ) (reversed : Bool) : Except String LinkGeometryAssignment :=
  if link : linkId < 0 then .error "link_id must be >= 0"
  else if geometry : geometryId < 0 then .error "geometry_id must be >= 0"
  else .ok ⟨linkId, geometryId, reversed, not_lt.mp link, not_lt.mp geometry⟩

theorem build_ok {linkId geometryId : ℤ} {reversed : Bool} (link : 0 ≤ linkId)
    (geometry : 0 ≤ geometryId) :
    build linkId geometryId reversed = .ok ⟨linkId, geometryId, reversed, link, geometry⟩ := by
  unfold build
  rw [dif_neg (not_lt.mpr link), dif_neg (not_lt.mpr geometry)]

end LinkGeometryAssignment

/-- The centerlines of a map and the links that run along them. -/
structure RoadGeometryCatalog (K : Type) [Scalar K] where
  centerlines : List (RoadCenterline K)
  assignments : List LinkGeometryAssignment
  geometry_ids : centerlines.Pairwise fun a b => a.geometryId < b.geometryId
  link_ids : assignments.Pairwise fun a b => a.linkId < b.linkId
  resolves : ∀ a ∈ assignments, ∃ c ∈ centerlines, c.geometryId = a.geometryId

namespace RoadGeometryCatalog

def build (centerlines : List (RoadCenterline K)) (assignments : List LinkGeometryAssignment) :
    Except String (RoadGeometryCatalog K) :=
  if geometries : (centerlines.map RoadCenterline.geometryId).Nodup then
    if links : (assignments.map LinkGeometryAssignment.linkId).Nodup then
      if resolves : ∀ a ∈ assignments, ∃ c ∈ centerlines, c.geometryId = a.geometryId then
        .ok {
          centerlines := sortOn RoadCenterline.geometryId centerlines
          assignments := sortOn LinkGeometryAssignment.linkId assignments
          geometry_ids := sort_on_strict geometries
          link_ids := sort_on_strict links
          resolves := fun a listed => by
            obtain ⟨c, known, same⟩ := resolves a (mem_sort_on.mp listed)
            exact ⟨c, mem_sort_on.mpr known, same⟩ }
      else
        let missing := sortOn id ((assignments.map LinkGeometryAssignment.geometryId).dedup.filter
          fun geometryId => geometryId ∉ centerlines.map RoadCenterline.geometryId)
        .error s!"assignment references missing geometry_id values: {missing}"
    else .error "duplicate link_id geometry assignments are not allowed"
  else .error "duplicate geometry_id values are not allowed"

theorem build_sorted {centerlines : List (RoadCenterline K)}
    {assignments : List LinkGeometryAssignment}
    (geometry_ids : centerlines.Pairwise fun a b => a.geometryId < b.geometryId)
    (link_ids : assignments.Pairwise fun a b => a.linkId < b.linkId)
    (resolves : ∀ a ∈ assignments, ∃ c ∈ centerlines, c.geometryId = a.geometryId) :
    build centerlines assignments =
      .ok ⟨centerlines, assignments, geometry_ids, link_ids, resolves⟩ := by
  have geometries : (centerlines.map RoadCenterline.geometryId).Nodup :=
    List.pairwise_map.mpr (geometry_ids.imp ne_of_lt)
  have links : (assignments.map LinkGeometryAssignment.linkId).Nodup :=
    List.pairwise_map.mpr (link_ids.imp ne_of_lt)
  unfold build
  rw [dif_pos geometries, dif_pos links, dif_pos resolves]
  simp only [sort_on_eq_self (geometry_ids.imp le_of_lt), sort_on_eq_self (link_ids.imp le_of_lt)]

variable (catalog : RoadGeometryCatalog K)

def centerline (geometryId : ℤ) : Except String (RoadCenterline K) :=
  match catalog.centerlines.find? fun c => c.geometryId = geometryId with
  | some c => .ok c
  | none => .error s!"unknown geometry_id {geometryId}"

def assignmentForLink (linkId : ℤ) : Except String LinkGeometryAssignment :=
  match catalog.assignments.find? fun a => a.linkId = linkId with
  | some a => .ok a
  | none => .error s!"no geometry assignment for link_id {linkId}"

def pointsForLink (linkId : ℤ) : Except String (List (PointM K)) := do
  let assignment ← catalog.assignmentForLink linkId
  let centerline ← catalog.centerline assignment.geometryId
  return if assignment.reversed then centerline.pointsM.reverse else centerline.pointsM

end RoadGeometryCatalog

end Metroflow.Map
