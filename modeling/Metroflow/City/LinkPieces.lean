import Metroflow.City.SplitNodes

namespace Metroflow.City.Planarization

open Metroflow.Lib Metroflow.Map Metroflow.City.Planar

section Paths

variable {K : Type} {src mid dst : ℤ}

def IntervalPath : ℤ → ℤ → List (Interval K) → Prop
  | src, dst, [] => src = dst
  | src, dst, interval :: rest =>
    interval.leftNodeId = src ∧ IntervalPath interval.rightNodeId dst rest

def Interval.turned (interval : Interval K) : Interval K :=
  { interval with leftNodeId := interval.rightNodeId, rightNodeId := interval.leftNodeId }

def orient (reversed : Bool) (intervals : List (Interval K)) : List (Interval K) :=
  if reversed then (intervals.map Interval.turned).reverse else intervals

theorem IntervalPath.append {first second : List (Interval K)} (left : IntervalPath src mid first)
    (right : IntervalPath mid dst second) : IntervalPath src dst (first ++ second) := by
  induction first generalizing src with
  | nil => exact (show src = mid from left) ▸ right
  | cons interval rest ih => exact ⟨left.1, ih left.2⟩

theorem IntervalPath.turned {intervals : List (Interval K)} (h : IntervalPath src dst intervals) :
    IntervalPath dst src (intervals.map Interval.turned).reverse := by
  induction intervals generalizing src with
  | nil => exact Eq.symm h
  | cons interval rest ih =>
    rw [List.map_cons, List.reverse_cons]
    exact (ih h.2).append ⟨rfl, h.1⟩

theorem IntervalPath.same_end {src dst dst' : ℤ} {intervals : List (Interval K)}
    (h : IntervalPath src dst intervals) (h' : IntervalPath src dst' intervals) : dst = dst' := by
  induction intervals generalizing src with
  | nil => exact (Eq.symm h).trans h'
  | cons interval rest ih => exact ih h.2 h'.2

theorem IntervalPath.same_ends {src dst src' dst' : ℤ} {intervals : List (Interval K)}
    (nonempty : intervals ≠ []) (h : IntervalPath src dst intervals)
    (h' : IntervalPath src' dst' intervals) : src = src' ∧ dst = dst' := by
  cases intervals with
  | nil => exact absurd rfl nonempty
  | cons interval rest => exact ⟨h.1.symm.trans h'.1, h.2.same_end h'.2⟩

variable [Scalar K]

def LeadsFrom : ℤ → ℤ → List (Map.RoadLink K) → Prop
  | src, dst, [] => src = dst
  | src, dst, link :: rest => link.srcNodeId = src ∧ LeadsFrom link.dstNodeId dst rest

theorem LeadsFrom.append {first second : List (Map.RoadLink K)} (left : LeadsFrom src mid first)
    (right : LeadsFrom mid dst second) : LeadsFrom src dst (first ++ second) := by
  induction first generalizing src with
  | nil => exact (show src = mid from left) ▸ right
  | cons link rest ih => exact ⟨left.1, ih left.2⟩

theorem LeadsFrom.refine {links : List (Map.RoadLink K)}
    {pieces : Map.RoadLink K → List (Map.RoadLink K)} (h : LeadsFrom src dst links)
    (each : ∀ link ∈ links, LeadsFrom link.srcNodeId link.dstNodeId (pieces link)) :
    LeadsFrom src dst (links.flatMap pieces) := by
  induction links generalizing src with
  | nil => exact h
  | cons link rest ih =>
    rw [List.forall_mem_cons] at each
    rw [List.flatMap_cons]
    exact (h.1 ▸ each.1).append (ih h.2 each.2)

def PieceOf (link : Map.RoadLink K) (interval : Interval K) (piece : Map.RoadLink K) : Prop :=
  piece.toRoadLinkFields = pieceFields link false piece.linkId interval

theorem leads_from_of_pieces {link : Map.RoadLink K} {intervals : List (Interval K)}
    {pieces : List (Map.RoadLink K)} (h : List.Forall₂ (PieceOf link) intervals pieces)
    (path : IntervalPath src dst intervals) : LeadsFrom src dst pieces := by
  induction h generalizing src with
  | nil => exact path
  | @cons interval piece _ _ here _ ih =>
    have ends : piece.srcNodeId = interval.leftNodeId ∧ piece.dstNodeId = interval.rightNodeId := by
      rw [here]
      exact ⟨rfl, rfl⟩
    exact ⟨ends.1.trans path.1, ih (ends.2.symm ▸ path.2)⟩

end Paths

section Endpoints

variable {K : Type} [Scalar K] {links : List (Map.RoadLink K)} {geometry : RoadGeometryCatalog K}

theorem link_by_id (distinct : (links.map fun link => link.linkId).Nodup) {id : ℤ}
    {link : Map.RoadLink K} :
    (Dict.update [] (links.map fun link => (link.linkId, link))).get id = some link ↔
      link ∈ links ∧ link.linkId = id := by
  have keys : ((links.map fun link => (link.linkId, link)).map Prod.fst).Nodup := by
    rwa [List.map_map]
  rw [Dict.update_fresh keys (fun _ _ => rfl), List.nil_append, Dict.get_eq_some_iff keys,
    List.mem_map]
  constructor
  · rintro ⟨other, listed, same⟩
    obtain ⟨rfl, rfl⟩ := Prod.mk.inj same
    exact ⟨listed, rfl⟩
  · rintro ⟨listed, rfl⟩
    exact ⟨link, listed, rfl⟩

theorem endpoint_node_ids_spec {linkById : Dict ℤ (Map.RoadLink K)} {out : Dict ℤ (ℤ × ℤ)}
    (h : geometryEndpointNodeIds geometry linkById = .ok out) :
    ∀ assignment ∈ geometry.assignments, ∃ link, linkById.get assignment.linkId = some link ∧
      out.get assignment.geometryId = some (canonicalEnds link assignment.reversed) := by
  unfold geometryEndpointNodeIds at h
  obtain ⟨ends, run, h⟩ := bind_ok.mp h
  obtain ⟨_, -, h⟩ := bind_ok.mp h
  obtain rfl := pure_ok.mp h
  refine fold_progress (I := fun past out => ∀ assignment ∈ past, ∃ link,
    linkById.get assignment.linkId = some link ∧
      out.get assignment.geometryId = some (canonicalEnds link assignment.reversed)) ?_ (by simp)
    run
  rintro past assignment rest out out' - old step
  unfold addEndpointPair at step
  obtain ⟨link, at_link, step⟩ := bind_ok.mp step
  obtain ⟨_, agree, step⟩ := bind_ok.mp step
  rw [← pure_ok.mp step, List.forall_mem_append, List.forall_mem_singleton]
  refine ⟨fun other listed => ?_, link, found_ok.mp at_link, Dict.get_set_self⟩
  obtain ⟨otherLink, at_other, same⟩ := old other listed
  refine ⟨otherLink, at_other, ?_⟩
  rw [Dict.get_set]
  split
  · rename_i here
    rw [raise_if_ok] at agree
    by_contra other_ends
    exact agree ⟨_, here ▸ same, fun equal => other_ends (congrArg some equal.symm)⟩
  · exact same

end Endpoints

section Intervals

variable {K : Type} [Field K] [LinearOrder K] [IsStrictOrderedRing K] [FloorRing K] [Roots K]
  {centerline : RoadCenterline K}

omit [IsStrictOrderedRing K] in
theorem intervals_spec {first last : K × ℤ} {between : List (K × ℤ)}
    {s s' : List (Interval K) × ℤ}
    (h : ((first :: between ++ [last]).zip (between ++ [last])).foldlM (addInterval centerline) s =
      .ok s') :
    ∃ new, s'.1 = s.1 ++ new ∧ IntervalPath first.2 last.2 new ∧
      (new.map Interval.lengthFraction).sum = last.1 - first.1 ∧
      new.length = between.length + 1 := by
  have one : ∀ {a b : K × ℤ} {s s' : List (Interval K) × ℤ},
      addInterval centerline s (a, b) = .ok s' →
      s' = (s.1 ++ [⟨a.2, b.2, b.1 - a.1, s.2⟩], s.2 + 1) := by
    intro a b s s' step
    unfold addInterval at step
    dsimp only at step
    split at step
    · cases step
    · exact (Except.ok.inj step).symm
  induction between generalizing first s with
  | nil =>
    rw [List.cons_append, List.nil_append, List.zip_cons_cons, fold_cons] at h
    obtain ⟨mid, step, h⟩ := h
    rw [List.zip_nil_right, fold_nil] at h
    subst h
    rw [one step]
    exact ⟨_, rfl, ⟨rfl, rfl⟩, by simp, rfl⟩
  | cons next between ih =>
    rw [List.cons_append, List.cons_append, List.zip_cons_cons, fold_cons] at h
    obtain ⟨mid, step, h⟩ := h
    obtain ⟨new, grown, path, sum, length⟩ := ih h
    rw [one step] at grown
    refine ⟨_ :: new, by rw [grown, List.append_assoc, List.singleton_append], ⟨rfl, path⟩, ?_, ?_⟩
    · rw [List.map_cons, List.sum_cons, sum]
      ring
    · rw [List.length_cons, length, List.length_cons]

structure CutRoad (crossings : List (Crossing K)) (geometryId : ℤ) (ends : ℤ × ℤ)
    (intervals : List (Interval K)) : Prop where
  path : IntervalPath ends.1 ends.2 intervals
  whole : (intervals.map Interval.lengthFraction).sum = 1
  quiet : (∀ crossing ∈ crossings, crossing.leftGeometryId ≠ geometryId ∧
    crossing.rightGeometryId ≠ geometryId) → intervals.length = 1

theorem cut_road_spec {crossings : List (Crossing K)} {firstId geometryId nextId : ℤ}
    {ends : ℤ × ℤ} {values positions : List (K × ℤ)} {s : List (Interval K) × ℤ}
    (split : SplitAt crossings firstId geometryId ends values) (apart : ends.1 ≠ ends.2)
    (known : ends.2 < firstId)
    (deduplicated : deduplicateSplitNodes values geometryId = .ok positions)
    (run : (positions.zip positions.tail).foldlM (addInterval centerline) ([], nextId) = .ok s) :
    CutRoad crossings geometryId ends s.1 := by
  obtain ⟨kept, rfl, quiet⟩ := deduplicate_spec split apart known deduplicated
  obtain ⟨new, grown, path, sum, length⟩ := intervals_spec run
  rw [List.nil_append] at grown
  rw [grown]
  refine ⟨path, by rw [sum, sub_zero], fun none => ?_⟩
  rw [length, quiet none, List.length_nil]

end Intervals

section Pieces

variable {K : Type} [Scalar K] {links : List (Map.RoadLink K)}

/-- The links stand at the places their ids name. -/
def Numbered (output : List (Map.RoadLink K)) : Prop :=
  ∀ (k : ℕ) (link : Map.RoadLink K), output[k]? = some link → link.linkId = k

theorem Numbered.distinct {output : List (Map.RoadLink K)} (h : Numbered output) :
    (output.map fun link => link.linkId).Nodup := by
  rw [List.nodup_iff_getElem?_ne_getElem?]
  intro i j before inside same
  rw [List.length_map] at inside
  have i_inside := before.trans inside
  rw [List.getElem?_map, List.getElem?_map, List.getElem?_eq_getElem i_inside,
    List.getElem?_eq_getElem inside, Option.map_some, Option.map_some, Option.some.injEq,
    h i _ (List.getElem?_eq_getElem i_inside), h j _ (List.getElem?_eq_getElem inside)] at same
  exact before.ne (Int.ofNat.inj same)

theorem Numbered.append {output : List (Map.RoadLink K)} {link : Map.RoadLink K}
    (h : Numbered output) (next : link.linkId = output.length) : Numbered (output ++ [link]) := by
  intro k other at_k
  rcases lt_or_ge k output.length with inside | behind
  · rw [List.getElem?_append_left inside] at at_k
    exact h k other at_k
  · rw [List.getElem?_append_right behind, List.getElem?_singleton] at at_k
    split at at_k
    · obtain rfl := Option.some.inj at_k
      rw [next]
      omega
    · cases at_k

/-- The pieces of a link in what a pass put out. -/
def Maps (mapping : Dict ℤ (List ℤ)) (output : List (Map.RoadLink K)) (link : Map.RoadLink K)
    (pieces : List (Map.RoadLink K)) : Prop :=
  mapping.get link.linkId = some (pieces.map fun piece => piece.linkId) ∧ pieces ⊆ output

theorem add_pieces_spec {link : Map.RoadLink K} {reversed : Bool} {intervals : List (Interval K)}
    {s s' : Cutting K} (numbered : Numbered s.outputLinks)
    (h : intervals.foldlM (addPiece link reversed) s = .ok s') :
    ∃ pieces, s'.outputLinks = s.outputLinks ++ pieces ∧ Numbered s'.outputLinks ∧
      List.Forall₂ (fun interval piece => piece.toRoadLinkFields =
        pieceFields link reversed piece.linkId interval) intervals pieces ∧
      (∀ ids, s.mappedIds.get link.linkId = some ids →
        s'.mappedIds.get link.linkId = some (ids ++ pieces.map fun piece => piece.linkId)) ∧
      ∀ other, other ≠ link.linkId → s'.mappedIds.get other = s.mappedIds.get other := by
  refine fold_progress (I := fun past s' => ∃ pieces,
    s'.outputLinks = s.outputLinks ++ pieces ∧ Numbered s'.outputLinks ∧
      List.Forall₂ (fun interval piece => piece.toRoadLinkFields =
        pieceFields link reversed piece.linkId interval) past pieces ∧
      (∀ ids, s.mappedIds.get link.linkId = some ids →
        s'.mappedIds.get link.linkId = some (ids ++ pieces.map fun piece => piece.linkId)) ∧
      ∀ other, other ≠ link.linkId → s'.mappedIds.get other = s.mappedIds.get other) ?_
    ⟨[], (List.append_nil _).symm, numbered, .nil, by simp, by simp⟩ h
  rintro past interval rest t t' - ⟨pieces, grown, numbered, each, mapped, kept⟩ step
  unfold addPiece at step
  obtain ⟨piece, built, step⟩ := bind_ok.mp step
  have fields := Map.RoadLink.build_ok built
  have id : piece.linkId = t.outputLinks.length := by
    rw [fields]
    rfl
  rw [← pure_ok.mp step]
  refine ⟨pieces ++ [piece], ?_, numbered.append id, ?_, fun ids at_link => ?_,
    fun other apart => ?_⟩
  · rw [grown, List.append_assoc]
  · refine List.rel_append each (.cons ?_ .nil)
    rw [id, ← fields]
  · dsimp only
    rw [get_append_at, if_pos rfl, mapped ids at_link, Option.getD_some, List.append_assoc,
      List.map_append, List.map_singleton, id]
  · dsimp only
    rw [get_append_at, if_neg apart, kept other apart]

/-- The links of the assignments done are mapped to pieces along their roads, the others to
nothing yet. -/
structure Cuts (linkById : Dict ℤ (Map.RoadLink K)) (links : List (Map.RoadLink K))
    (intervalsOf : ℤ → List (Interval K)) (done : List LinkGeometryAssignment) (s : Cutting K) :
    Prop where
  numbered : Numbered s.outputLinks
  mapped : ∀ a ∈ done, ∀ link, linkById.get a.linkId = some link → ∃ pieces,
    Maps s.mappedIds s.outputLinks link pieces ∧
      List.Forall₂ (PieceOf link) (orient a.reversed (intervalsOf a.geometryId)) pieces
  pending : ∀ link ∈ links, (∀ a ∈ done, a.linkId ≠ link.linkId) →
    s.mappedIds.get link.linkId = some []
  rebuilt : ∀ piece ∈ s.outputLinks, piece.rampPurpose = none ∧ piece.physicalRoadId ≠ none

variable {linkById : Dict ℤ (Map.RoadLink K)} {intervalsOf : ℤ → List (Interval K)}
  {done : List LinkGeometryAssignment} {s s' : Cutting K}

theorem pieces_oriented {link : Map.RoadLink K} {reversed : Bool} {intervals : List (Interval K)}
    {pieces : List (Map.RoadLink K)}
    (h : List.Forall₂ (fun interval piece => piece.toRoadLinkFields =
      pieceFields link reversed piece.linkId interval)
      (if reversed then intervals.reverse else intervals) pieces) :
    List.Forall₂ (PieceOf link) (orient reversed intervals) pieces := by
  cases reversed with
  | false => exact h
  | true =>
    rw [orient, if_pos rfl, ← List.map_reverse, List.forall₂_map_left_iff]
    exact h

theorem Cuts.add_assignment {a : LinkGeometryAssignment}
    (known : ∀ id link, linkById.get id = some link → link ∈ links ∧ link.linkId = id)
    (fresh : ∀ old ∈ done, old.linkId ≠ a.linkId) (cuts : Cuts linkById links intervalsOf done s)
    (h : addAssignment linkById (intervalsOf a.geometryId) s a = .ok s') :
    Cuts linkById links intervalsOf (done ++ [a]) s' := by
  unfold addAssignment at h
  obtain ⟨link, at_link, h⟩ := bind_ok.mp h
  have at_link := found_ok.mp at_link
  obtain ⟨listed, id⟩ := known _ _ at_link
  obtain ⟨pieces, grown, numbered, each, mapped, kept⟩ := add_pieces_spec cuts.numbered h
  refine ⟨numbered, ?_, fun other other_listed waits => ?_, ?_⟩
  · rw [List.forall_mem_append, List.forall_mem_singleton]
    refine ⟨fun old old_listed oldLink at_old => ?_, fun link' at_link' => ?_⟩
    · obtain ⟨oldPieces, ⟨at_ids, inside⟩, old_each⟩ := cuts.mapped old old_listed oldLink at_old
      refine ⟨oldPieces, ⟨?_, ?_⟩, old_each⟩
      · rw [kept _ (by rw [(known _ _ at_old).2, id]; exact fresh old old_listed), at_ids]
      · rw [grown]
        exact List.Subset.trans inside (List.subset_append_left _ _)
    · obtain rfl : link = link' := Option.some.inj (at_link.symm.trans at_link')
      have empty := cuts.pending link listed fun old old_listed same =>
        fresh old old_listed (same.trans id)
      refine ⟨pieces, ⟨mapped [] empty, ?_⟩, pieces_oriented each⟩
      rw [grown]
      exact List.subset_append_right _ _
  · rw [List.forall_mem_append, List.forall_mem_singleton] at waits
    rw [kept _ fun same => waits.2 (id.symm.trans same.symm)]
    exact cuts.pending other other_listed waits.1
  · rw [grown, List.forall_mem_append]
    refine ⟨cuts.rebuilt, fun piece mem => ?_⟩
    obtain ⟨interval, -, fields⟩ := paired_right each mem
    rw [fields]
    exact ⟨rfl, Option.some_ne_none _⟩

theorem Cuts.add_assignments {geometryId : ℤ} {more : List LinkGeometryAssignment}
    (known : ∀ id link, linkById.get id = some link → link ∈ links ∧ link.linkId = id)
    (along : ∀ a ∈ more, a.geometryId = geometryId)
    (distinct : (done ++ more).Pairwise fun a b => a.linkId ≠ b.linkId)
    (cuts : Cuts linkById links intervalsOf done s)
    (h : more.foldlM (addAssignment linkById (intervalsOf geometryId)) s = .ok s') :
    Cuts linkById links intervalsOf (done ++ more) s' := by
  induction more generalizing done s with
  | nil =>
    obtain rfl := fold_nil.mp h
    rwa [List.append_nil]
  | cons a more ih =>
    obtain ⟨mid, step, h⟩ := fold_cons.mp h
    rw [List.forall_mem_cons] at along
    rw [List.append_cons] at distinct ⊢
    have fresh : ∀ old ∈ done, old.linkId ≠ a.linkId := fun old listed =>
      (List.pairwise_append.mp (List.pairwise_append.mp distinct).1).2.2 old listed a
        List.mem_cons_self
    rw [← along.1] at step
    exact ih along.2 distinct (cuts.add_assignment known fresh step) h

end Pieces

section Pass

variable {K : Type} [Field K] [LinearOrder K] [IsStrictOrderedRing K] [FloorRing K] [Roots K]
  {nodes : List (Planar.Node K)} {links : List (Map.RoadLink K)} {geometry : RoadGeometryCatalog K}
  {crossings : List (Crossing K)}

/-- The cuts of the roads passed, each along its intervals from end to end. -/
structure CutsSoFar (linkById : Dict ℤ (Map.RoadLink K)) (links : List (Map.RoadLink K))
    (geometry : RoadGeometryCatalog K) (crossings : List (Crossing K))
    (endpointNodes : Dict ℤ (ℤ × ℤ)) (past : List (RoadCenterline K))
    (intervalsOf : ℤ → List (Interval K)) (done : List LinkGeometryAssignment) (s : Cutting K) :
    Prop extends Cuts linkById links intervalsOf done s where
  done_iff : ∀ a, a ∈ done ↔ a ∈ geometry.assignments ∧
    a.geometryId ∈ past.map RoadCenterline.geometryId
  distinct : done.Pairwise fun a b => a.linkId ≠ b.linkId
  roads : ∀ a ∈ done, ∀ ends, endpointNodes.get a.geometryId = some ends →
    CutRoad crossings a.geometryId ends (intervalsOf a.geometryId)

theorem CutsSoFar.add_centerline {linkById : Dict ℤ (Map.RoadLink K)}
    {endpointNodes : Dict ℤ (ℤ × ℤ)} {splitNodes : SplitNodes K} {firstId : ℤ}
    {past : List (RoadCenterline K)} {centerline : RoadCenterline K}
    {intervalsOf : ℤ → List (Interval K)} {done : List LinkGeometryAssignment} {s s' : Cutting K}
    (known : ∀ id link, linkById.get id = some link → link ∈ links ∧ link.linkId = id)
    (split : ∀ geometryId ends, endpointNodes.get geometryId = some ends → ∃ values,
      splitNodes.get geometryId = some values ∧ SplitAt crossings firstId geometryId ends values)
    (ends_ok : ∀ a ∈ geometry.assignments, ∀ ends, endpointNodes.get a.geometryId = some ends →
      ends.1 ≠ ends.2 ∧ ends.2 < firstId)
    (new : centerline.geometryId ∉ past.map RoadCenterline.geometryId)
    (cuts : CutsSoFar linkById links geometry crossings endpointNodes past intervalsOf done s)
    (h : addCenterline geometry linkById splitNodes s centerline = .ok s') :
    ∃ intervalsOf' done', CutsSoFar linkById links geometry crossings endpointNodes
      (past ++ [centerline]) intervalsOf' done' s' := by
  unfold addCenterline at h
  obtain ⟨values, at_values, h⟩ := bind_ok.mp h
  obtain ⟨positions, deduplicated, h⟩ := bind_ok.mp h
  obtain ⟨⟨intervals, nextId⟩, run, h⟩ := bind_ok.mp h
  generalize more_def : sortOn LinkGeometryAssignment.linkId (geometry.assignments.filter
    fun assignment => assignment.geometryId = centerline.geometryId) = more at h
  have mem_more : ∀ a, a ∈ more ↔ a ∈ geometry.assignments ∧
      a.geometryId = centerline.geometryId := by
    intro a
    rw [← more_def, mem_sort_on, List.mem_filter, decide_eq_true_eq]
  have ids := keys_nodup_of_strict geometry.link_ids
  have more_distinct : more.Pairwise fun a b => a.linkId ≠ b.linkId := by
    rw [← more_def]
    exact List.pairwise_map.mp ((sort_on_perm.map _).nodup_iff.mpr
      (ids.sublist (List.filter_sublist.map _)))
  have elsewhere : ∀ a ∈ done, a.geometryId ≠ centerline.geometryId := fun a listed same =>
    new (same ▸ ((cuts.done_iff a).mp listed).2)
  have distinct : (done ++ more).Pairwise fun a b => a.linkId ≠ b.linkId := by
    refine List.pairwise_append.mpr ⟨cuts.distinct, more_distinct,
      fun a a_listed b b_listed same => ?_⟩
    have b_facts := (mem_more b).mp b_listed
    have equal := List.inj_on_of_nodup_map ids ((cuts.done_iff a).mp a_listed).1 b_facts.1 same
    exact elsewhere a a_listed (equal ▸ b_facts.2)
  have still : ∀ a ∈ done,
      Function.update intervalsOf centerline.geometryId intervals a.geometryId =
        intervalsOf a.geometryId :=
    fun a listed => Function.update_of_ne (elsewhere a listed) _ _
  have start : Cuts linkById links (Function.update intervalsOf centerline.geometryId intervals)
      done { s with nextPhysicalRoadId := nextId } := by
    refine ⟨cuts.numbered, fun a listed link at_link => ?_, cuts.pending, cuts.rebuilt⟩
    rw [still a listed]
    exact cuts.mapped a listed link at_link
  have run_more : more.foldlM (addAssignment linkById
      (Function.update intervalsOf centerline.geometryId intervals centerline.geometryId))
      { s with nextPhysicalRoadId := nextId } = .ok s' := by
    rw [Function.update_self]
    exact h
  refine ⟨_, done ++ more,
    start.add_assignments known (fun a listed => ((mem_more a).mp listed).2) distinct run_more,
    fun a => ?_, distinct, ?_⟩
  · rw [List.mem_append, cuts.done_iff, mem_more, List.map_append, List.mem_append,
      List.map_singleton, List.mem_singleton, and_or_left]
  · rw [List.forall_mem_append]
    refine ⟨fun a listed ends at_ends => ?_, fun a listed ends at_ends => ?_⟩
    · rw [still a listed]
      exact cuts.roads a listed ends at_ends
    · obtain ⟨in_catalog, along⟩ := (mem_more a).mp listed
      obtain ⟨apart, below⟩ := ends_ok a in_catalog ends at_ends
      rw [along] at at_ends ⊢
      obtain ⟨values', at_values', split_at⟩ := split _ _ at_ends
      obtain rfl : values' = values :=
        Option.some.inj (at_values'.symm.trans (found_ok.mp at_values))
      rw [Function.update_self]
      exact cut_road_spec split_at apart below deduplicated run

/-- Every link with an assignment gets its pieces along the cuts of its road. -/
structure PassOf (nodes : List (Planar.Node K)) (links : List (Map.RoadLink K))
    (geometry : RoadGeometryCatalog K) (crossings : List (Crossing K))
    (intervalsOf : ℤ → List (Interval K)) (pass : Pass K) : Prop where
  numbered : Numbered pass.links
  links : ∀ a ∈ geometry.assignments, ∃ link ∈ links, link.linkId = a.linkId ∧
    CutRoad crossings a.geometryId (canonicalEnds link a.reversed) (intervalsOf a.geometryId) ∧
    ∃ pieces, Maps pass.mappedIds pass.links link pieces ∧
      List.Forall₂ (PieceOf link) (orient a.reversed (intervalsOf a.geometryId)) pieces
  rebuilt : ∀ piece ∈ pass.links, piece.rampPurpose = none ∧ piece.physicalRoadId ≠ none

def Anchored (nodes : List (Planar.Node K)) (links : List (Map.RoadLink K)) : Prop :=
  ∀ link ∈ links, link.srcNodeId ∈ nodes.map Planar.Node.nodeId ∧
    link.dstNodeId ∈ nodes.map Planar.Node.nodeId

theorem split_crossings_spec {pass : Pass K} (anchored : Anchored nodes links)
    (distinct : (links.map fun link => link.linkId).Nodup)
    (inner : ∀ crossing ∈ crossings, Inner crossing.leftT ∧ Inner crossing.rightT)
    (h : splitCrossings nodes links geometry crossings = .ok pass) :
    ∃ intervalsOf, PassOf nodes links geometry crossings intervalsOf pass := by
  unfold splitCrossings at h
  dsimp only at h
  obtain ⟨endpointNodes, agreed, h⟩ := bind_ok.mp h
  obtain ⟨⟨outputNodes, splitNodes⟩, splitting, h⟩ := bind_ok.mp h
  obtain ⟨cut, run, h⟩ := bind_ok.mp h
  rw [← pure_ok.mp h]
  have known : ∀ id link,
      (Dict.update [] (links.map fun link => (link.linkId, link))).get id = some link →
      link ∈ links ∧ link.linkId = id := fun _ _ => (link_by_id distinct).mp
  have ends_at := endpoint_node_ids_spec agreed
  have ends_ok : ∀ a ∈ geometry.assignments, ∀ ends,
      endpointNodes.get a.geometryId = some ends →
        ends.1 ≠ ends.2 ∧ ends.2 < nextAfter (nodes.map Planar.Node.nodeId) := by
    intro a listed ends at_ends
    obtain ⟨link, at_link, same⟩ := ends_at a listed
    obtain rfl := Option.some.inj (at_ends.symm.trans same)
    obtain ⟨src, dst⟩ := anchored link (known _ _ at_link).1
    unfold canonicalEnds
    split
    · exact ⟨link.ends_differ.symm, lt_next_after src⟩
    · exact ⟨link.ends_differ, lt_next_after dst⟩
  have start : CutsSoFar (Dict.update [] (links.map fun link => (link.linkId, link))) links geometry
      crossings endpointNodes [] (fun _ => [])
      [] { mappedIds := links.map fun link => (link.linkId, []) } := by
    refine ⟨⟨fun k link none => absurd none (by simp), by simp, fun link listed _ => ?_, by simp⟩,
      by simp, .nil, by simp⟩
    refine (Dict.get_eq_some_iff (by rwa [List.map_map])).mpr ?_
    exact List.mem_map_of_mem listed
  have all := fold_progress (I := fun past s => ∃ intervalsOf done, CutsSoFar
    (Dict.update [] (links.map fun link => (link.linkId, link))) links geometry crossings
    endpointNodes past intervalsOf done s) (by
      rintro past centerline rest s s' split ⟨intervalsOf, done, cuts⟩ step
      refine cuts.add_centerline known (fun geometryId ends at_ends =>
        split_nodes_spec inner splitting at_ends) ends_ok ?_ step
      have ids := keys_nodup_of_strict geometry.geometry_ids
      rw [split, List.map_append, List.map_cons] at ids
      exact fun old => (List.nodup_append'.mp ids).2.2 old List.mem_cons_self)
    ⟨_, _, start⟩ run
  obtain ⟨intervalsOf, done, cuts⟩ := all
  refine ⟨intervalsOf, cuts.numbered, fun a listed => ?_, cuts.rebuilt⟩
  obtain ⟨link, at_link, at_ends⟩ := ends_at a listed
  obtain ⟨in_links, id⟩ := known _ _ at_link
  have is_done : a ∈ done := by
    obtain ⟨centerline, in_catalog, same⟩ := geometry.resolves a listed
    exact (cuts.done_iff a).mpr ⟨listed, same ▸ List.mem_map_of_mem in_catalog⟩
  obtain ⟨pieces, mapped, each⟩ := cuts.mapped a is_done link at_link
  exact ⟨link, in_links, id, cuts.roads a is_done _ at_ends, pieces, mapped, each⟩

end Pass

end Metroflow.City.Planarization
