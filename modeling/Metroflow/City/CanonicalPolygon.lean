import Metroflow.City.InteriorWitness
import Metroflow.Lib.ClosedWalks

namespace Metroflow.City.Blocks

open Metroflow.Lib

section Rotations

variable {α : Type} [LinearOrder α] {l l' : List α}

def leastRotation (l : List α) : List α :=
  ((List.range l.length).map fun index => l.drop index ++ l.take index).min?.getD []

omit [LinearOrder α] in
theorem mem_rotations (some : l ≠ []) :
    l' ∈ (List.range l.length).map (fun index => l.drop index ++ l.take index) ↔
      l.IsRotated l' := by
  rw [List.mem_map]
  constructor
  · rintro ⟨index, inside, rfl⟩
    refine ⟨index, ?_⟩
    rw [List.rotate_eq_drop_append_take (List.mem_range.mp inside).le]
  · rintro ⟨n, rfl⟩
    refine ⟨n % l.length, List.mem_range.mpr (Nat.mod_lt _ (List.length_pos_iff.mpr some)), ?_⟩
    rw [← List.rotate_eq_drop_append_take_mod]

theorem least_rotation_spec (some : l ≠ []) : l.IsRotated (leastRotation l) ∧
    ∀ m, l.IsRotated m → leastRotation l ≤ m := by
  cases found : ((List.range l.length).map fun index => l.drop index ++ l.take index).min? with
  | none =>
    have itself := (mem_rotations some).mpr (List.IsRotated.refl l)
    rw [List.min?_eq_none_iff.mp found] at itself
    cases itself
  | some m =>
    obtain ⟨listed, least⟩ := List.min?_eq_some_iff.mp found
    rw [leastRotation, found, Option.getD_some]
    exact ⟨(mem_rotations some).mp listed,
      fun m rotated => least m ((mem_rotations some).mpr rotated)⟩

theorem least_rotation_rotated (same : l.IsRotated l') : leastRotation l = leastRotation l' := by
  by_cases none : l = []
  · subst none
    rw [List.isRotated_nil_iff'.mp same]
  · have none' : l' ≠ [] := by
      rintro rfl
      exact none (List.isRotated_nil_iff.mp same)
    obtain ⟨rotated, least⟩ := least_rotation_spec none
    obtain ⟨rotated', least'⟩ := least_rotation_spec none'
    exact le_antisymm (least _ (same.trans rotated')) (least' _ (same.symm.trans rotated))

end Rotations

def signedArea2 (polygon : Ring) : ℤ := area2 polygon

def canonicalPolygon (polygon : Ring) (clockwise : Bool) : Ring :=
  let points :=
    if polygon ≠ [] ∧ polygon.head? = polygon.getLast? then polygon.dropLast else polygon
  if points = [] then []
  else
    let points :=
      if decide (signedArea2 (close points) < 0) ≠ clockwise then points.reverse else points
    close ((leastRotation (points.map toLex)).map ofLex)

/-- The points in the direction asked for. -/
def oriented (points : List PointMM) (clockwise : Bool) : List PointMM :=
  if decide (signedArea2 (close points) < 0) ≠ clockwise then points.reverse else points

def SameCycle (points other : List PointMM) : Prop :=
  points.IsRotated other ∨ points.reverse.IsRotated other

variable {points other : List PointMM} {clockwise : Bool}

theorem close_ends (some : points ≠ []) :
    close points ≠ [] ∧ (close points).head? = (close points).getLast? ∧
      (close points).dropLast = points := by
  cases points with
  | nil => exact absurd rfl some
  | cons a l =>
    change a :: l ++ [a] ≠ [] ∧ (a :: l ++ [a]).head? = (a :: l ++ [a]).getLast? ∧
      (a :: l ++ [a]).dropLast = a :: l
    rw [List.getLast?_concat, List.dropLast_concat]
    exact ⟨List.cons_ne_nil _ _, rfl, rfl⟩

theorem canonical_polygon_close (some : points ≠ []) (clockwise : Bool) :
    canonicalPolygon (close points) clockwise =
      close ((leastRotation ((oriented points clockwise).map toLex)).map ofLex) := by
  obtain ⟨closed, ends, drop⟩ := close_ends some
  have stripped : (if close points ≠ [] ∧ (close points).head? = (close points).getLast? then
      (close points).dropLast else close points) = points := by
    rw [if_pos ⟨closed, ends⟩, drop]
  unfold canonicalPolygon
  simp only [stripped, if_neg some]
  rfl

theorem canonical_polygon_open (apart : points.head? ≠ points.getLast?) :
    canonicalPolygon points clockwise = canonicalPolygon (close points) clockwise := by
  have some : points ≠ [] := by
    rintro rfl
    exact apart rfl
  have stripped : (if points ≠ [] ∧ points.head? = points.getLast? then points.dropLast
      else points) = points := if_neg fun h => apart h.2
  rw [canonical_polygon_close some]
  unfold canonicalPolygon
  simp only [stripped, if_neg some]
  rfl

theorem SameCycle.area (h : SameCycle points other) :
    points.IsRotated other ∧ signedArea2 (close other) = signedArea2 (close points) ∨
      points.reverse.IsRotated other ∧ signedArea2 (close other) = -signedArea2 (close points) := by
  rcases h with along | against
  · exact .inl ⟨along, (area2_rotated along).symm⟩
  · exact .inr ⟨against, (area2_rotated against).symm.trans area2_reverse⟩

theorem SameCycle.oriented (h : SameCycle points other)
    (area : signedArea2 (close points) ≠ 0) :
    (oriented points clockwise).IsRotated (oriented other clockwise) := by
  unfold Blocks.oriented
  rcases h.area with ⟨along, same⟩ | ⟨against, opposite⟩
  · rw [same]
    split
    · exact along.reverse
    · exact along
  · have turned : decide (signedArea2 (close other) < 0) =
        !decide (signedArea2 (close points) < 0) := by
      rw [opposite, ← decide_not, decide_eq_decide]
      omega
    rw [turned]
    cases decide (signedArea2 (close points) < 0) <;> cases clockwise
    · exact points.reverse_reverse ▸ against.reverse
    · exact against
    · exact against
    · exact points.reverse_reverse ▸ against.reverse

theorem least_points_rotated (some : points ≠ []) (clockwise : Bool) :
    (oriented points clockwise).IsRotated
      ((leastRotation ((oriented points clockwise).map toLex)).map ofLex) := by
  have turned : (oriented points clockwise).map toLex ≠ [] := by
    unfold oriented
    split
    · simpa using some
    · simpa using some
  have rotated := (least_rotation_spec turned).1.map ofLex
  have same : ((oriented points clockwise).map toLex).map ofLex = oriented points clockwise := by
    rw [List.map_map]
    exact List.map_id _
  rw [same] at rotated
  exact rotated

theorem same_cycle_oriented (rotated : (oriented points clockwise).IsRotated other) :
    SameCycle points other := by
  unfold oriented at rotated
  split at rotated
  · exact .inr rotated
  · exact .inl rotated

theorem canonical_polygon_same (h : SameCycle points other)
    (area : signedArea2 (close points) ≠ 0) :
    canonicalPolygon (close other) clockwise = canonicalPolygon (close points) clockwise := by
  have some : points ≠ [] := by
    rintro rfl
    exact area rfl
  have some' : other ≠ [] := by
    rintro rfl
    rcases h with same | same
    · exact some (List.isRotated_nil_iff.mp same)
    · exact some (List.reverse_eq_nil_iff.mp (List.isRotated_nil_iff.mp same))
  rw [canonical_polygon_close some clockwise, canonical_polygon_close some' clockwise,
    least_rotation_rotated ((h.oriented area).map toLex)]

theorem close_reverse (points : List PointMM) :
    ∃ other, SameCycle points other ∧ (close points).reverse = close other := by
  cases points with
  | nil => exact ⟨[], .inl (List.IsRotated.refl _), rfl⟩
  | cons a l =>
    refine ⟨a :: l.reverse, .inr ?_, by simp [close]⟩
    rw [List.reverse_cons]
    exact List.isRotated_append

theorem signed_area_canonical (area : signedArea2 (close points) ≠ 0) {chosen : List PointMM}
    (canonical : (oriented points clockwise).IsRotated chosen) :
    |signedArea2 (close chosen)| = |signedArea2 (close points)| ∧
      decide (signedArea2 (close chosen) < 0) = clockwise := by
  have same : signedArea2 (close chosen) = signedArea2 (close (oriented points clockwise)) :=
    (area2_rotated canonical).symm
  have turned : signedArea2 (close points.reverse) = -signedArea2 (close points) := area2_reverse
  rw [same]
  unfold oriented
  split
  · rename_i turn
    rw [turned, abs_neg]
    refine ⟨rfl, ?_⟩
    cases clockwise with
    | false =>
      have : signedArea2 (close points) < 0 := by simpa using turn
      simpa using this.le
    | true =>
      have : 0 ≤ signedArea2 (close points) := by simpa using turn
      simpa using lt_of_le_of_ne this area.symm
  · rename_i keep
    exact ⟨rfl, not_not.mp keep⟩

/-- The canonical form of a ring with an area is one and the same closed ring for all ways to
write its cycle, with the area it had and the direction asked for, and its own canonical form. -/
theorem canonical_polygon_spec (points : List PointMM) (area : signedArea2 (close points) ≠ 0)
    (clockwise : Bool) :
    ∃ chosen, canonicalPolygon (close points) clockwise = close chosen ∧
      SameCycle points chosen ∧
      |signedArea2 (close chosen)| = |signedArea2 (close points)| ∧
      decide (signedArea2 (close chosen) < 0) = clockwise ∧
      (∀ n, canonicalPolygon (close (points.rotate n)) clockwise = close chosen) ∧
      canonicalPolygon (close points.reverse) clockwise = close chosen ∧
      canonicalPolygon (close points).reverse clockwise = close chosen ∧
      canonicalPolygon (close chosen) clockwise = close chosen ∧
      (points.head? ≠ points.getLast? → canonicalPolygon points clockwise = close chosen) := by
  have some : points ≠ [] := by
    rintro rfl
    exact area rfl
  have canonical := canonical_polygon_close some clockwise
  have rotated := least_points_rotated some clockwise
  generalize (leastRotation ((oriented points clockwise).map toLex)).map ofLex = chosen
    at canonical rotated
  have cycle := same_cycle_oriented rotated
  have same : ∀ other, SameCycle points other →
      canonicalPolygon (close other) clockwise = close chosen :=
    fun other h => (canonical_polygon_same h area).trans canonical
  obtain ⟨magnitude, direction⟩ := signed_area_canonical area rotated
  refine ⟨chosen, canonical, cycle, magnitude, direction, fun n => ?_, ?_, ?_, same _ cycle, ?_⟩
  · exact same _ (.inl (List.IsRotated.forall points n).symm)
  · exact same _ (.inr (List.IsRotated.refl _))
  · obtain ⟨other, turned, eq⟩ := close_reverse points
    rw [eq]
    exact same _ turned
  · intro apart
    rw [canonical_polygon_open apart, canonical]

def bowedRing : List PointMM := [(0, 0), (4, 0), (4, 4), (0, 0), (-4, 4), (-4, 0)]

example : canonicalPolygon (close bowedRing) false =
    close [(-4, 0), (0, 0), (4, 0), (4, 4), (0, 0), (-4, 4)] := by decide +kernel

theorem bowed_ring_canonical :
    ∃ chosen, canonicalPolygon (close bowedRing) false = close chosen ∧
      SameCycle bowedRing chosen ∧
      |signedArea2 (close chosen)| = |signedArea2 (close bowedRing)| ∧
      decide (signedArea2 (close chosen) < 0) = false ∧
      (∀ n, canonicalPolygon (close (bowedRing.rotate n)) false = close chosen) ∧
      canonicalPolygon (close bowedRing.reverse) false = close chosen ∧
      canonicalPolygon (close bowedRing).reverse false = close chosen ∧
      canonicalPolygon (close chosen) false = close chosen ∧
      (bowedRing.head? ≠ bowedRing.getLast? →
        canonicalPolygon bowedRing false = close chosen) :=
  canonical_polygon_spec bowedRing (by decide) false

end Metroflow.City.Blocks
