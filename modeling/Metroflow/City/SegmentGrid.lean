import Metroflow.City.StructuralAudit

namespace Metroflow.City

open Metroflow.Lib

section Contacts

variable {a b c d p q r : PointMM}

/-- Two segments of the plan have a point in common. -/
def Meet (a b c d : PointMM) : Prop :=
  ∃ x, x ∈ segment ℝ (PointMM.toReal a) (PointMM.toReal b) ∧
    x ∈ segment ℝ (PointMM.toReal c) (PointMM.toReal d)

theorem meet_of_proper (h : properIntersection a b c d = true) : Meet a b c d := by
  unfold properIntersection at h
  split at h
  · cases h
  · rename_i touching
    obtain ⟨⟨abc, abd⟩, cda, cdb⟩ : (cross a b c ≠ 0 ∧ cross a b d ≠ 0) ∧
        cross c d a ≠ 0 ∧ cross c d b ≠ 0 := by tauto
    rw [Bool.and_eq_true, bne_iff_ne, bne_iff_ne, ne_eq, decide_eq_decide, ne_eq,
      decide_eq_decide] at h
    have opposite : ∀ {u v : ℤ}, u ≠ 0 → v ≠ 0 → ¬(0 < u ↔ 0 < v) → u * v < 0 := by
      intro u v u_ne v_ne sides
      rcases lt_or_gt_of_ne u_ne with neg | pos
      · exact mul_neg_of_neg_of_pos neg (by omega)
      · exact mul_neg_of_pos_of_neg pos (by omega)
    refine meet_of_crosses ⟨?_, ?_⟩
    · rw [cross_to_real, cross_to_real]
      exact_mod_cast opposite abc abd h.1
    · rw [cross_to_real, cross_to_real]
      exact_mod_cast opposite cda cdb h.2

theorem mem_of_open (h : pointInOpenSegment p q r = true) :
    PointMM.toReal p ∈ segment ℝ (PointMM.toReal q) (PointMM.toReal r) := by
  unfold pointInOpenSegment at h
  split at h
  · cases h
  · rename_i line
    obtain ⟨-, -, low, high, low', high'⟩ := of_decide_eq_true h
    refine mem_segment_of_box ?_ ⟨?_, ?_⟩ ⟨?_, ?_⟩
    · rw [cross_to_real]
      exact_mod_cast not_not.mp line
    · change min (q.1 : ℝ) r.1 ≤ p.1
      exact_mod_cast low
    · change (p.1 : ℝ) ≤ max (q.1 : ℝ) r.1
      exact_mod_cast high
    · change min (q.2 : ℝ) r.2 ≤ p.2
      exact_mod_cast low'
    · change (p.2 : ℝ) ≤ max (q.2 : ℝ) r.2
      exact_mod_cast high'

theorem meet_of_overlap (h : collinearOverlap a b c d = true) : Meet a b c d := by
  unfold collinearOverlap at h
  split at h
  · cases h
  · rename_i line
    obtain ⟨flat_c, flat_d⟩ : cross a b c = 0 ∧ cross a b d = 0 := by tauto
    have line_c : cross (PointMM.toReal a) (PointMM.toReal b) (PointMM.toReal c) = 0 := by
      rw [cross_to_real]
      exact_mod_cast flat_c
    have line_d : cross (PointMM.toReal a) (PointMM.toReal b) (PointMM.toReal d) = 0 := by
      rw [cross_to_real]
      exact_mod_cast flat_d
    split at h
    · refine meet_of_first line_c line_d ?_
      have overlap := of_decide_eq_true h
      change max (min (a.1 : ℝ) b.1) (min (c.1 : ℝ) d.1) <
        min (max (a.1 : ℝ) b.1) (max (c.1 : ℝ) d.1)
      exact_mod_cast overlap
    · refine meet_of_second line_c line_d ?_
      have overlap := of_decide_eq_true h
      change max (min (a.2 : ℝ) b.2) (min (c.2 : ℝ) d.2) <
        min (max (a.2 : ℝ) b.2) (max (c.2 : ℝ) d.2)
      exact_mod_cast overlap

end Contacts

section Lists

variable {α : Type*}

theorem mem_of_mem_pairs {l : List α} {pair : α × α} (h : pair ∈ pairs l) :
    pair.1 ∈ l ∧ pair.2 ∈ l := by
  induction l with
  | nil => cases h
  | cons a l ih =>
    rcases List.mem_append.mp h with first | later
    · obtain ⟨b, listed, rfl⟩ := List.mem_map.mp first
      exact ⟨List.mem_cons_self, List.mem_cons_of_mem a listed⟩
    · exact ⟨List.mem_cons_of_mem a (ih later).1, List.mem_cons_of_mem a (ih later).2⟩

theorem pairs_sublist {l l' : List α} (h : l.Sublist l') : (pairs l).Sublist (pairs l') := by
  induction h with
  | slnil => exact List.Sublist.refl _
  | cons a _ ih => exact ih.trans (List.sublist_append_right _ _)
  | cons_cons a sub ih => exact List.Sublist.append (sub.map _) ih

theorem mem_pairs_filter {keep : α → Bool} {l : List α} {pair : α × α} (h : pair ∈ pairs l)
    (first : keep pair.1 = true) (second : keep pair.2 = true) : pair ∈ pairs (l.filter keep) := by
  induction l with
  | nil => cases h
  | cons a l ih =>
    rcases List.mem_append.mp h with here | later
    · obtain ⟨b, listed, rfl⟩ := List.mem_map.mp here
      rw [List.filter_cons_of_pos first]
      exact List.mem_append_left _ (List.mem_map_of_mem (List.mem_filter.mpr ⟨listed, second⟩))
    · exact (pairs_sublist ((List.sublist_cons_self a l).filter keep)).subset (ih later)

theorem pairs_pairwise {R : α → α → Prop} {l : List α} (h : l.Pairwise R) :
    ∀ pair ∈ pairs l, R pair.1 pair.2 := by
  induction h with
  | nil => exact fun _ none => by cases none
  | cons first _ ih =>
    intro pair listed
    rcases List.mem_append.mp listed with here | later
    · obtain ⟨b, known, rfl⟩ := List.mem_map.mp here
      exact first b known
    · exact ih pair later

theorem nodup_pairs {l : List α} (h : l.Nodup) : (pairs l).Nodup := by
  induction l with
  | nil => exact List.nodup_nil
  | cons a l ih =>
    obtain ⟨fresh, distinct⟩ := List.nodup_cons.mp h
    refine List.nodup_append.mpr ⟨distinct.map (Prod.mk_right_injective a), ih distinct, ?_⟩
    rintro pair here _ later rfl
    obtain ⟨b, -, rfl⟩ := List.mem_map.mp here
    exact fresh (mem_of_mem_pairs later).1

theorem zip_idx_pairwise (l : List α) : l.zipIdx.Pairwise fun s t => s.2 < t.2 := by
  refine List.pairwise_map.mp ?_
  rw [List.zipIdx_map_snd]
  exact List.pairwise_lt_range'

theorem count_p_of_cover {l part : List α} {counts : α → Bool} (distinct : l.Nodup)
    (distinct' : part.Nodup) (sub : ∀ a ∈ part, a ∈ l)
    (cover : ∀ a ∈ l, counts a = true → a ∈ part) : part.countP counts = l.countP counts := by
  rw [List.countP_eq_length_filter, List.countP_eq_length_filter]
  refine ((List.perm_ext_iff_of_nodup (distinct'.filter _) (distinct.filter _)).mpr ?_).length_eq
  intro a
  rw [List.mem_filter, List.mem_filter]
  exact ⟨fun h => ⟨sub a h.1, h.2⟩, fun h => ⟨cover a h.1 h.2, h.2⟩⟩

theorem sum_of_cover {l part : List α} {value : α → ℕ} (distinct : l.Nodup)
    (distinct' : part.Nodup) (sub : ∀ a ∈ part, a ∈ l)
    (cover : ∀ a ∈ l, value a ≠ 0 → a ∈ part) : (part.map value).sum = (l.map value).sum := by
  classical
  rw [← List.sum_toFinset value distinct', ← List.sum_toFinset value distinct]
  refine Finset.sum_subset (fun a => ?_) fun a listed absent => ?_
  · rw [List.mem_toFinset, List.mem_toFinset]
    exact sub a
  · by_contra counted
    exact absent (List.mem_toFinset.mpr (cover a (List.mem_toFinset.mp listed) counted))

end Lists

section Grid

def cellsAt (cellMm : ℤ) (s : RoadSegment) : List (ℤ × ℤ) :=
  segmentSupercoverCells s.left s.right cellMm

def bucketsAt (cellMm : ℤ) (segments : List RoadSegment) : List (List (RoadSegment × ℕ)) :=
  (segments.flatMap (cellsAt cellMm)).dedup.map fun cell =>
    segments.zipIdx.filter fun entry => cell ∈ cellsAt cellMm entry.1

/-- The pairs of segments, with their positions, that share a bucket. -/
def candidatePairs (cellMm : ℤ) (segments : List RoadSegment) :
    List ((RoadSegment × ℕ) × RoadSegment × ℕ) :=
  ((bucketsAt cellMm segments).flatMap pairs).dedup

/-- The counts of the exact tests over the given pairs. -/
def auditPairs (candidates : List ((RoadSegment × ℕ) × RoadSegment × ℕ)) : ℕ × ℕ × ℕ × ℕ :=
  let checked := (candidates.map fun pair => (pair.1.1, pair.2.1)).filter
    fun pair => !pairSkipped pair.1 pair.2
  (checked.countP fun pair => pair.1.roadId ≠ pair.2.roadId &&
      properIntersection pair.1.left pair.1.right pair.2.left pair.2.right,
    (checked.map fun pair => pairTouches pair.1 pair.2).sum,
    checked.countP fun pair =>
      collinearOverlap pair.1.left pair.1.right pair.2.left pair.2.right,
    checked.countP fun pair => pair.1.roadId = pair.2.roadId &&
      properIntersection pair.1.left pair.1.right pair.2.left pair.2.right)

def gridSegmentAudit (cellMm : ℤ) (segments : List RoadSegment) : ℕ × ℕ × ℕ × ℕ :=
  auditPairs (candidatePairs cellMm segments)

def allPairsAudit (segments : List RoadSegment) : ℕ × ℕ × ℕ × ℕ :=
  auditPairs (pairs segments.zipIdx)

variable {segments : List RoadSegment} {cellMm : ℤ}
  {pair : (RoadSegment × ℕ) × RoadSegment × ℕ}

theorem mem_all_of_candidate (h : pair ∈ candidatePairs cellMm segments) :
    pair ∈ pairs segments.zipIdx := by
  obtain ⟨bucket, listed, found⟩ := List.mem_flatMap.mp (List.mem_dedup.mp h)
  obtain ⟨cell, -, rfl⟩ := List.mem_map.mp listed
  exact (pairs_sublist List.filter_sublist).subset found

theorem nodup_all : (pairs segments.zipIdx).Nodup :=
  nodup_pairs ((zip_idx_pairwise segments).imp fun before same => by
    rw [same] at before
    exact lt_irrefl _ before)

theorem candidate_of_meet (size : 0 < cellMm) (listed : pair ∈ pairs segments.zipIdx)
    (meet : Meet pair.1.1.left pair.1.1.right pair.2.1.left pair.2.1.right) :
    pair ∈ candidatePairs cellMm segments := by
  obtain ⟨x, first, second⟩ := meet
  have cell : cellOf cellMm x ∈ cellsAt cellMm pair.1.1 := supercover_mem size first
  have cell' : cellOf cellMm x ∈ cellsAt cellMm pair.2.1 := supercover_mem size second
  have member : pair.1.1 ∈ segments :=
    List.fst_mem_of_mem_zipIdx (mem_of_mem_pairs listed).1
  refine List.mem_dedup.mpr (List.mem_flatMap.mpr ⟨_, List.mem_map.mpr
    ⟨cellOf cellMm x, List.mem_dedup.mpr (List.mem_flatMap.mpr ⟨_, member, cell⟩), rfl⟩, ?_⟩)
  exact mem_pairs_filter listed (decide_eq_true cell) (decide_eq_true cell')

theorem meet_of_touches {s t : RoadSegment} (h : pairTouches s t ≠ 0) :
    Meet s.left s.right t.left t.right := by
  by_contra apart
  have untouched : ∀ {p q r : PointMM}, (pointInOpenSegment p q r = true →
      Meet s.left s.right t.left t.right) → (pointInOpenSegment p q r).toNat = 0 := by
    intro p q r meet
    rw [Bool.toNat_eq_zero, Bool.eq_false_iff]
    exact fun touch => apart (meet touch)
  apply h
  unfold pairTouches
  rw [untouched fun touch => ⟨_, left_mem_segment ℝ _ _, mem_of_open touch⟩,
    untouched fun touch => ⟨_, right_mem_segment ℝ _ _, mem_of_open touch⟩,
    untouched fun touch => ⟨_, mem_of_open touch, left_mem_segment ℝ _ _⟩,
    untouched fun touch => ⟨_, mem_of_open touch, right_mem_segment ℝ _ _⟩]

theorem grid_audit_eq (size : 0 < cellMm) :
    gridSegmentAudit cellMm segments = allPairsAudit segments := by
  let kept : (RoadSegment × ℕ) × RoadSegment × ℕ → Bool := fun pair =>
    !pairSkipped pair.1.1 pair.2.1
  have distinct : ((pairs segments.zipIdx).filter kept).Nodup := nodup_all.filter kept
  have distinct' : ((candidatePairs cellMm segments).filter kept).Nodup :=
    (List.nodup_dedup _).filter kept
  have sub : ∀ pair ∈ (candidatePairs cellMm segments).filter kept,
      pair ∈ (pairs segments.zipIdx).filter kept := by
    intro pair listed
    obtain ⟨candidate, keep⟩ := List.mem_filter.mp listed
    exact List.mem_filter.mpr ⟨mem_all_of_candidate candidate, keep⟩
  have cover : ∀ pair ∈ (pairs segments.zipIdx).filter kept,
      Meet pair.1.1.left pair.1.1.right pair.2.1.left pair.2.1.right →
        pair ∈ (candidatePairs cellMm segments).filter kept := by
    intro pair listed meet
    obtain ⟨known, keep⟩ := List.mem_filter.mp listed
    exact List.mem_filter.mpr ⟨candidate_of_meet size known meet, keep⟩
  unfold gridSegmentAudit allPairsAudit auditPairs
  simp only [List.filter_map, List.countP_map, List.map_map, Prod.mk.injEq]
  refine ⟨?_, ?_, ?_, ?_⟩
  · refine count_p_of_cover distinct distinct' sub fun pair listed counts => ?_
    exact cover pair listed (meet_of_proper (Bool.and_eq_true _ _ ▸ counts).2)
  · refine sum_of_cover distinct distinct' sub fun pair listed counts => ?_
    exact cover pair listed (meet_of_touches counts)
  · refine count_p_of_cover distinct distinct' sub fun pair listed counts => ?_
    exact cover pair listed (meet_of_overlap counts)
  · refine count_p_of_cover distinct distinct' sub fun pair listed counts => ?_
    exact cover pair listed (meet_of_proper (Bool.and_eq_true _ _ ▸ counts).2)

theorem mem_all_iff {i j : ℕ} {s t : RoadSegment} : ((s, i), t, j) ∈ pairs segments.zipIdx ↔
    i < j ∧ segments[i]? = some s ∧ segments[j]? = some t := by
  constructor
  · intro listed
    obtain ⟨first, second⟩ := mem_of_mem_pairs listed
    exact ⟨pairs_pairwise (zip_idx_pairwise segments) _ listed,
      List.mk_mem_zipIdx_iff_getElem?.mp first, List.mk_mem_zipIdx_iff_getElem?.mp second⟩
  · rintro ⟨before, s_at, t_at⟩
    have first := List.mk_mem_zipIdx_iff_getElem?.mpr s_at
    have second := List.mk_mem_zipIdx_iff_getElem?.mpr t_at
    have differ : (s, i) ≠ (t, j) := fun same => before.ne (congrArg Prod.snd same)
    rcases mem_pairs first second differ with found | found
    · exact found
    · exact absurd (pairs_pairwise (zip_idx_pairwise segments) _ found) before.asymm

end Grid

/-- At every cell size the grid offers each pair of segments at most once and each that has a
point in common, so its audit is that of all pairs. -/
theorem grid_audit_equals_all_pairs (segments : List RoadSegment) {cellMm : ℤ} (size : 0 < cellMm) :
    (∀ i j s t, i < j → segments[i]? = some s → segments[j]? = some t →
      Meet s.left s.right t.left t.right →
        ((s, i), t, j) ∈ candidatePairs cellMm segments) ∧
      (candidatePairs cellMm segments).Nodup ∧
      (∀ i j s t, ((s, i), t, j) ∈ candidatePairs cellMm segments →
        i < j ∧ segments[i]? = some s ∧ segments[j]? = some t) ∧
      gridSegmentAudit cellMm segments = allPairsAudit segments :=
  ⟨fun _ _ _ _ before s_at t_at => candidate_of_meet size (mem_all_iff.mpr ⟨before, s_at, t_at⟩),
    List.nodup_dedup _, fun _ _ _ _ candidate => mem_all_iff.mp (mem_all_of_candidate candidate),
    grid_audit_eq size⟩

/-- Two roads that meet at a corner of the grid, on a third one. -/
theorem grid_audit_equals_all_pairs_corner :
    gridSegmentAudit 10 [⟨0, 0, 0, (-5, -5), (0, 0)⟩, ⟨1, 0, 0, (0, 0), (5, 5)⟩,
        ⟨2, 0, 0, (-5, 5), (5, -5)⟩] =
      allPairsAudit [⟨0, 0, 0, (-5, -5), (0, 0)⟩, ⟨1, 0, 0, (0, 0), (5, 5)⟩,
        ⟨2, 0, 0, (-5, 5), (5, -5)⟩] ∧
    allPairsAudit [⟨0, 0, 0, (-5, -5), (0, 0)⟩, ⟨1, 0, 0, (0, 0), (5, 5)⟩,
        ⟨2, 0, 0, (-5, 5), (5, -5)⟩] = (0, 2, 0, 0) :=
  ⟨(grid_audit_equals_all_pairs _ (by decide)).2.2.2, by decide⟩

end Metroflow.City
