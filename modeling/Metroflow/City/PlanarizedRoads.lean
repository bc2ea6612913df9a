import Metroflow.City.LinkPieces

namespace Metroflow.City.Planarization

open Metroflow.Lib Metroflow.Map Metroflow.City.Planar

section Property

variable {K : Type} [Scalar K]

/-- What a piece takes over from its link, apart from a purpose as a ramp. -/
structure SameService (link piece : Map.RoadLink K) : Prop where
  roadClass : piece.roadClass = link.roadClass
  freeFlowSpeedMps : piece.freeFlowSpeedMps = link.freeFlowSpeedMps
  capacityVehPerTick : piece.capacityVehPerTick = link.capacityVehPerTick
  lanes : piece.lanes = link.lanes
  bridgeGroupId : piece.bridgeGroupId = link.bridgeGroupId
  isBlockable : piece.isBlockable = link.isBlockable

/-- All attributes but the id, the ends, the length and the physical road. -/
structure SameAttributes (link piece : Map.RoadLink K) : Prop extends SameService link piece where
  rampPurpose : piece.rampPurpose = link.rampPurpose

/-- A piece as a pass rebuilds it. -/
structure Rebuilt (link piece : Map.RoadLink K) : Prop extends SameService link piece where
  rampPurpose : piece.rampPurpose = none
  road : piece.physicalRoadId ≠ none

/-- The two directions of one physical road. -/
structure Opposite (geometry : RoadGeometryCatalog K) (a b : Map.RoadLink K) : Prop where
  ends : a.srcNodeId = b.dstNodeId ∧ a.dstNodeId = b.srcNodeId
  road : a.physicalRoadId = b.physicalRoadId
  geometry : ∃ x ∈ geometry.assignments, ∃ y ∈ geometry.assignments,
    x.linkId = a.linkId ∧ y.linkId = b.linkId ∧ x.geometryId = y.geometryId

/-- The two directions of one physical piece. -/
def Twin (a b : Map.RoadLink K) : Prop :=
  a.srcNodeId = b.dstNodeId ∧ a.dstNodeId = b.srcNodeId ∧ a.physicalRoadId = b.physicalRoadId

/-- What splitting keeps of the roads; `untouched` are the links that nothing splits. -/
structure Preserves (inherits : Map.RoadLink K → Map.RoadLink K → Prop)
    (links : List (Map.RoadLink K)) (geometry : RoadGeometryCatalog K) (untouched : ℤ → Prop)
    (mapping : Dict ℤ (List ℤ)) (output : List (Map.RoadLink K)) : Prop where
  distinct : (output.map fun link => link.linkId).Nodup
  pieces : ∀ link ∈ links, ∃ pieces, Maps mapping output link pieces ∧
    LeadsFrom link.srcNodeId link.dstNodeId pieces ∧
    (pieces.map fun piece => piece.lengthM).sum = link.lengthM ∧
    (∀ piece ∈ pieces, inherits link piece) ∧ (untouched link.linkId → pieces.length = 1)
  opposite : ∀ a ∈ links, ∀ b ∈ links, Opposite geometry a b → ∀ as bs,
    Maps mapping output a as → Maps mapping output b bs → List.Forall₂ Twin as bs.reverse

def Uncrossed (geometry : RoadGeometryCatalog K) (crossings : List (Crossing K)) (linkId : ℤ) :
    Prop :=
  ∀ a ∈ geometry.assignments, a.linkId = linkId → ∀ crossing ∈ crossings,
    crossing.leftGeometryId ≠ a.geometryId ∧ crossing.rightGeometryId ≠ a.geometryId

def Untouched (cellSizeM : K) :
    ℕ → List (Planar.Node K) → List (Map.RoadLink K) → RoadGeometryCatalog K → ℤ → Prop
  | 0, _, _, geometry, linkId =>
    ∀ crossings, crossingsOf geometry cellSizeM = .ok crossings →
      Uncrossed geometry crossings linkId
  | passes + 1, nodes, links, geometry, linkId =>
    ∀ crossings, crossingsOf geometry cellSizeM = .ok crossings →
      Uncrossed geometry crossings linkId ∧ ∀ pass output ids,
        splitCrossings nodes links geometry crossings = .ok pass →
        buildEndpointGeometryCatalog pass.nodes pass.links = .ok output →
        output.countInteriorCenterlineIntersections (Scalar.ofInt 250) ≠ 0 →
        pass.mappedIds.get linkId = some ids →
        ∀ id ∈ ids, Untouched cellSizeM passes pass.nodes pass.links output id

variable {links mid output : List (Map.RoadLink K)} {geometry : RoadGeometryCatalog K}
  {mapping : Dict ℤ (List ℤ)} {link : Map.RoadLink K}

theorem eq_of_ids (distinct : (output.map fun link => link.linkId).Nodup)
    {first second : List (Map.RoadLink K)} (inside : first ⊆ output) (inside' : second ⊆ output)
    (same : (first.map fun link => link.linkId) = second.map fun link => link.linkId) :
    first = second := by
  induction first generalizing second with
  | nil => exact (List.map_eq_nil_iff.mp same.symm).symm
  | cons link rest ih =>
    cases second with
    | nil => cases same
    | cons link' rest' =>
      obtain ⟨id, ids⟩ := List.cons.inj same
      rw [List.cons_subset] at inside inside'
      rw [List.inj_on_of_nodup_map distinct inside.1 inside'.1 id, ih inside.2 inside'.2 ids]

theorem Maps.unique (distinct : (output.map fun link => link.linkId).Nodup)
    {first second : List (Map.RoadLink K)} (h : Maps mapping output link first)
    (h' : Maps mapping output link second) : first = second :=
  eq_of_ids distinct h.2 h'.2 (Option.some.inj (h.1.symm.trans h'.1))

theorem Preserves.weaken {inherits inherits' : Map.RoadLink K → Map.RoadLink K → Prop}
    {untouched untouched' : ℤ → Prop}
    (h : Preserves inherits links geometry untouched mapping output)
    (weaker : ∀ link ∈ links, ∀ piece, inherits link piece → inherits' link piece)
    (fewer : ∀ id, untouched' id → untouched id) :
    Preserves inherits' links geometry untouched' mapping output where
  distinct := h.distinct
  pieces link listed := by
    obtain ⟨pieces, maps, leads, sum, each, whole⟩ := h.pieces link listed
    exact ⟨pieces, maps, leads, sum, fun piece mem => weaker link listed piece (each piece mem),
      fun quiet => whole (fewer _ quiet)⟩
  opposite := h.opposite

theorem path_of_canonical {link : Map.RoadLink K} {reversed : Bool} {intervals : List (Interval K)}
    (h : IntervalPath (canonicalEnds link reversed).1 (canonicalEnds link reversed).2 intervals) :
    IntervalPath link.srcNodeId link.dstNodeId (orient reversed intervals) := by
  cases reversed with
  | false => exact h
  | true => exact h.turned

theorem rebuilt_of_piece {link piece : Map.RoadLink K} {interval : Interval K}
    (h : PieceOf link interval piece) : Rebuilt link piece := by
  unfold PieceOf at h
  constructor
  · constructor <;> rw [h] <;> rfl
  · rw [h]
    rfl
  · rw [h]
    exact Option.some_ne_none _

theorem twin_of_pieces {a b p q : Map.RoadLink K} {interval : Interval K}
    (h : PieceOf a interval p) (h' : PieceOf b interval.turned q) : Twin p q := by
  unfold PieceOf at h h'
  unfold Twin
  rw [h, h']
  exact ⟨rfl, rfl, rfl⟩

theorem Twin.symm {a b : Map.RoadLink K} (h : Twin a b) : Twin b a :=
  ⟨h.2.1.symm, h.1.symm, h.2.2.symm⟩

theorem twins_of_oriented {a b : Map.RoadLink K} {intervals : List (Interval K)}
    {as bs : List (Map.RoadLink K)} (h : List.Forall₂ (PieceOf a) intervals as)
    (h' : List.Forall₂ (PieceOf b) (intervals.map Interval.turned).reverse bs) :
    List.Forall₂ Twin as bs.reverse := by
  have turned : List.Forall₂ (PieceOf b) (intervals.map Interval.turned) bs.reverse := by
    rw [← List.reverse_reverse (intervals.map Interval.turned)]
    exact List.rel_reverse h'
  rw [List.forall₂_map_left_iff] at turned
  clear h'
  generalize bs.reverse = others at turned
  induction h generalizing others with
  | nil =>
    cases turned
    exact .nil
  | cons here _ ih =>
    cases turned with
    | cons there later => exact .cons (twin_of_pieces here there) (ih _ later)

theorem compose_mapping_get {first second composed : Dict ℤ (List ℤ)}
    (h : composeMapping first second = .ok composed) {id : ℤ} {ids : List ℤ}
    (at_id : first.get id = some ids) : ∃ refined, ids.mapM (found second) = .ok refined ∧
      composed.get id = some refined.flatten := by
  unfold composeMapping at h
  have rows := map_all_ok.mp h
  clear h
  induction rows with
  | nil => cases at_id
  | @cons item row first composed here _ ih =>
    obtain ⟨refined, ran, made⟩ := bind_ok.mp here
    obtain rfl := pure_ok.mp made
    rw [Dict.get_cons] at at_id ⊢
    dsimp only
    split at at_id
    · rename_i same
      obtain rfl := Option.some.inj at_id
      rw [if_pos same]
      exact ⟨refined, ran, rfl⟩
    · rename_i other
      rw [if_neg other]
      exact ih at_id

end Property

section Exact

variable {K : Type} [Field K] [LinearOrder K] [FloorRing K] [Roots K]
  {nodes : List (Planar.Node K)} {links mid output : List (Map.RoadLink K)}
  {geometry : RoadGeometryCatalog K} {crossings : List (Crossing K)}

theorem Preserves.refl {inherits : Map.RoadLink K → Map.RoadLink K → Prop}
    (distinct : (links.map fun link => link.linkId).Nodup)
    (refl : ∀ link ∈ links, inherits link link) (untouched : ℤ → Prop) :
    Preserves inherits links geometry untouched
      (links.map fun link => (link.linkId, [link.linkId])) links := by
  have whole : ∀ link ∈ links,
      Maps (links.map fun link => (link.linkId, [link.linkId])) links link [link] := by
    intro link listed
    refine ⟨(Dict.get_eq_some_iff (by rwa [List.map_map])).mpr (List.mem_map_of_mem listed), ?_⟩
    exact List.cons_subset.mpr ⟨listed, List.nil_subset _⟩
  refine ⟨distinct, fun link listed => ⟨[link], whole link listed, ⟨rfl, rfl⟩,
    List.sum_singleton, ?_,
    fun _ => rfl⟩, fun a a_listed b b_listed opposite as bs a_maps b_maps => ?_⟩
  · rw [List.forall_mem_singleton]
    exact refl link listed
  · rw [a_maps.unique distinct (whole a a_listed), b_maps.unique distinct (whole b b_listed)]
    exact .cons ⟨opposite.ends.1, opposite.ends.2, opposite.road⟩ .nil

theorem Preserves.plain {mapping : Dict ℤ (List ℤ)} {untouched untouched' : ℤ → Prop}
    (kept : Preserves SameAttributes links geometry untouched mapping output)
    (rebuilt : Preserves Rebuilt links geometry untouched' mapping output) :
    ∀ link ∈ links, link.rampPurpose = none := by
  intro link listed
  obtain ⟨pieces, maps, leads, -, same, -⟩ := kept.pieces link listed
  obtain ⟨pieces', maps', -, -, each, -⟩ := rebuilt.pieces link listed
  obtain rfl := maps.unique rebuilt.distinct maps'
  -- the pieces lead from one node to another, so there is one
  have nonempty : pieces ≠ [] := by
    rintro rfl
    exact link.ends_differ leads
  obtain ⟨piece, mem⟩ := List.exists_mem_of_ne_nil pieces nonempty
  exact (same piece mem).rampPurpose.symm.trans (each piece mem).rampPurpose

theorem sum_oriented (reversed : Bool) (intervals : List (Interval K)) :
    ((orient reversed intervals).map Interval.lengthFraction).sum =
      (intervals.map Interval.lengthFraction).sum := by
  cases reversed with
  | false => rfl
  | true =>
    rw [orient, if_pos rfl, List.map_reverse, List.sum_reverse, List.map_map]
    rfl

theorem sum_pieces {link : Map.RoadLink K} {intervals : List (Interval K)}
    {pieces : List (Map.RoadLink K)} (h : List.Forall₂ (PieceOf link) intervals pieces) :
    (pieces.map fun piece => piece.lengthM).sum =
      link.lengthM * (intervals.map Interval.lengthFraction).sum := by
  induction h with
  | nil => exact (mul_zero _).symm
  | cons here _ ih =>
    rw [List.map_cons, List.sum_cons, ih, here, List.map_cons, List.sum_cons, mul_add]
    rfl

theorem PassOf.preserves {pass : Pass K} {intervalsOf : ℤ → List (Interval K)}
    (h : PassOf nodes links geometry crossings intervalsOf pass)
    (distinct : (links.map fun link => link.linkId).Nodup)
    (cover : ∀ link ∈ links, ∃ a ∈ geometry.assignments, a.linkId = link.linkId) :
    Preserves Rebuilt links geometry (Uncrossed geometry crossings) pass.mappedIds pass.links := by
  have at_link : ∀ link ∈ links, ∀ a ∈ geometry.assignments, a.linkId = link.linkId →
      CutRoad crossings a.geometryId (canonicalEnds link a.reversed) (intervalsOf a.geometryId) ∧
      ∃ pieces, Maps pass.mappedIds pass.links link pieces ∧
        List.Forall₂ (PieceOf link) (orient a.reversed (intervalsOf a.geometryId)) pieces := by
    intro link listed a a_listed id
    obtain ⟨link', listed', id', cut, pieces⟩ := h.links a a_listed
    rw [List.inj_on_of_nodup_map distinct listed' listed (id'.trans id)] at cut pieces
    exact ⟨cut, pieces⟩
  refine ⟨h.numbered.distinct, fun link listed => ?_,
    fun a a_listed b b_listed opposite as bs a_maps b_maps => ?_⟩
  · obtain ⟨a, a_listed, id⟩ := cover link listed
    obtain ⟨cut, pieces, maps, each⟩ := at_link link listed a a_listed id
    refine ⟨pieces, maps, leads_from_of_pieces each (path_of_canonical cut.path), ?_,
      fun piece mem => ?_, fun quiet => ?_⟩
    · rw [sum_pieces each, sum_oriented, cut.whole, mul_one]
    · obtain ⟨interval, -, along⟩ := paired_right each mem
      exact rebuilt_of_piece along
    · rw [← each.length_eq, ← cut.quiet (quiet a a_listed id)]
      unfold orient
      split <;> simp
  · obtain ⟨x, x_listed, y, y_listed, x_id, y_id, same⟩ := opposite.geometry
    obtain ⟨a_cut, as', a_maps', a_each⟩ := at_link a a_listed x x_listed x_id
    obtain ⟨b_cut, bs', b_maps', b_each⟩ := at_link b b_listed y y_listed y_id
    obtain rfl := a_maps.unique h.numbered.distinct a_maps'
    obtain rfl := b_maps.unique h.numbered.distinct b_maps'
    rw [← same] at b_cut b_each
    generalize intervalsOf x.geometryId = intervals at a_cut a_each b_cut b_each
    have nonempty : intervals ≠ [] := by
      rintro rfl
      exact zero_ne_one a_cut.whole
    obtain ⟨first, last⟩ := a_cut.path.same_ends nonempty b_cut.path
    obtain ⟨forth, back⟩ := opposite.ends
    cases x_way : x.reversed <;> cases y_way : y.reversed <;>
      simp only [canonicalEnds, x_way, y_way, if_true, if_false, Bool.false_eq_true] at first last
    · exact absurd (first.symm.trans forth) b.ends_differ
    · rw [x_way] at a_each
      rw [y_way] at b_each
      exact twins_of_oriented a_each b_each
    · rw [x_way] at a_each
      rw [y_way] at b_each
      have twins := List.rel_reverse (twins_of_oriented b_each a_each)
      rw [List.reverse_reverse] at twins
      exact twins.flip.imp fun _ _ (h : Twin _ _) => Twin.symm h
    · exact absurd (first.symm.trans back) b.ends_differ.symm

theorem sum_refine {pieces : Map.RoadLink K → List (Map.RoadLink K)}
    (each : ∀ link ∈ links, ((pieces link).map fun piece => piece.lengthM).sum = link.lengthM) :
    ((links.flatMap pieces).map fun piece => piece.lengthM).sum =
      (links.map fun link => link.lengthM).sum := by
  induction links with
  | nil => rfl
  | cons link rest ih =>
    rw [List.forall_mem_cons] at each
    rw [List.flatMap_cons, List.map_append, List.sum_append, each.1, ih each.2, List.map_cons,
      List.sum_cons]

theorem SameService.trans {a b c : Map.RoadLink K} (h : SameService a b) (h' : SameService b c) :
    SameService a c where
  roadClass := h'.roadClass.trans h.roadClass
  freeFlowSpeedMps := h'.freeFlowSpeedMps.trans h.freeFlowSpeedMps
  capacityVehPerTick := h'.capacityVehPerTick.trans h.capacityVehPerTick
  lanes := h'.lanes.trans h.lanes
  bridgeGroupId := h'.bridgeGroupId.trans h.bridgeGroupId
  isBlockable := h'.isBlockable.trans h.isBlockable

theorem twins_refine {pieces : Map.RoadLink K → List (Map.RoadLink K)}
    {as bs : List (Map.RoadLink K)} (h : List.Forall₂ Twin as bs)
    (each : ∀ a ∈ as, ∀ b ∈ bs, Twin a b → List.Forall₂ Twin (pieces a) (pieces b).reverse) :
    List.Forall₂ Twin (as.flatMap pieces) (bs.flatMap fun b => (pieces b).reverse) := by
  induction h with
  | nil => exact .nil
  | @cons a b as bs here _ ih =>
    rw [List.flatMap_cons, List.flatMap_cons]
    refine List.rel_append (each a List.mem_cons_self b List.mem_cons_self here) (ih ?_)
    exact fun a' a_mem b' b_mem =>
      each a' (List.mem_cons_of_mem a a_mem) b' (List.mem_cons_of_mem b b_mem)

/-- Two passes keep the roads that each of them keeps. -/
theorem Preserves.compose {first second composed : Dict ℤ (List ℤ)}
    {untouched untouched' : ℤ → Prop} {catalog : RoadGeometryCatalog K}
    (h : Preserves Rebuilt links geometry untouched first mid)
    (h' : Preserves Rebuilt mid catalog untouched' second output)
    (composes : composeMapping first second = .ok composed)
    (twins : ∀ p ∈ mid, ∀ q ∈ mid, Twin p q → p.physicalRoadId ≠ none → Opposite catalog p q) :
    Preserves Rebuilt links geometry (fun id => untouched id ∧
      ∀ ids, first.get id = some ids → ∀ id' ∈ ids, untouched' id') composed output := by
  have split := h'.pieces
  choose! pieces maps leads sum each whole using split
  have composed_maps : ∀ link ps, Maps first mid link ps →
      Maps composed output link (ps.flatMap pieces) := by
    rintro link ps ⟨at_ids, inside⟩
    obtain ⟨refined, ran, at_link⟩ := compose_mapping_get composes at_ids
    have all : (ps.map fun piece => piece.linkId).mapM (found second) =
        .ok (ps.map fun p => (pieces p).map fun piece => piece.linkId) := by
      rw [map_all_ok, List.forall₂_map_left_iff, List.forall₂_map_right_iff, List.forall₂_same]
      exact fun p mem => found_ok.mpr (maps p (inside mem)).1
    obtain rfl := Except.ok.inj (ran.symm.trans all)
    refine ⟨?_, fun piece mem => ?_⟩
    · rw [at_link, List.map_flatMap, List.flatMap_def]
    · obtain ⟨p, listed, mem⟩ := List.mem_flatMap.mp mem
      exact (maps p (inside listed)).2 mem
  refine ⟨h'.distinct, fun link listed => ?_,
    fun a a_listed b b_listed opposite as bs as_maps bs_maps => ?_⟩
  · obtain ⟨ps, ps_maps, ps_leads, ps_sum, ps_each, ps_whole⟩ := h.pieces link listed
    have inside := ps_maps.2
    refine ⟨ps.flatMap pieces, composed_maps link ps ps_maps,
      ps_leads.refine fun p mem => leads p (inside mem),
      (sum_refine fun p mem => sum p (inside mem)).trans ps_sum, fun piece mem => ?_,
      fun ⟨quiet, quiet'⟩ => ?_⟩
    · obtain ⟨p, p_mem, mem⟩ := List.mem_flatMap.mp mem
      have outer := ps_each p p_mem
      have inner := each p (inside p_mem) piece mem
      exact ⟨outer.toSameService.trans inner.toSameService, inner.rampPurpose, inner.road⟩
    · obtain ⟨p, rfl⟩ := List.length_eq_one_iff.mp (ps_whole quiet)
      rw [List.flatMap_singleton]
      exact whole p (inside List.mem_cons_self)
        (quiet' _ ps_maps.1 p.linkId (List.mem_map_of_mem List.mem_cons_self))
  · obtain ⟨ps, ps_maps, -, -, ps_each, -⟩ := h.pieces a a_listed
    obtain ⟨qs, qs_maps, -⟩ := h.pieces b b_listed
    obtain rfl := as_maps.unique h'.distinct (composed_maps a ps ps_maps)
    obtain rfl := bs_maps.unique h'.distinct (composed_maps b qs qs_maps)
    rw [List.reverse_flatMap]
    refine twins_refine (h.opposite a a_listed b b_listed opposite ps qs ps_maps qs_maps) ?_
    intro p p_mem q q_mem twin
    have q_mem := List.mem_reverse.mp q_mem
    have p_in := ps_maps.2 p_mem
    have q_in := qs_maps.2 q_mem
    exact h'.opposite p p_in q q_in (twins p p_in q q_in twin (ps_each p p_mem).road) _ _
      (maps p p_in) (maps q q_in)

end Exact

section Runs

variable {K : Type} [Field K] [LinearOrder K] [IsStrictOrderedRing K] [FloorRing K] [Roots K]
  {nodes : List (Planar.Node K)} {links : List (Map.RoadLink K)} {geometry : RoadGeometryCatalog K}
  {cellSizeM : K} {passes : ℕ} {result : PlanarizationResult K}

omit [IsStrictOrderedRing K] in
theorem check_inputs_ok (h : checkInputs nodes links geometry cellSizeM = .ok ()) :
    0 < cellSizeM ∧ (links.map fun link => link.linkId).Nodup ∧
      ∀ link ∈ links, ∃ a ∈ geometry.assignments, a.linkId = link.linkId := by
  unfold checkInputs at h
  obtain ⟨_, -, h⟩ := bind_ok.mp h
  obtain ⟨_, size, h⟩ := bind_ok.mp h
  obtain ⟨_, distinct, h⟩ := bind_ok.mp h
  have cover := raise_if_ok.mp h
  rw [raise_if_ok, not_or, not_le] at size
  rw [raise_if_ok, not_not] at distinct
  exact ⟨size.2, distinct, (not_not.mp cover).2⟩

inductive Planarizes (cellSizeM : K) : ℕ → List (Planar.Node K) → List (Map.RoadLink K) →
    RoadGeometryCatalog K → Dict ℤ (List ℤ) → List (Map.RoadLink K) → Prop
  | planar {passes : ℕ} {nodes : List (Planar.Node K)} {links : List (Map.RoadLink K)}
    {geometry : RoadGeometryCatalog K} (clear : crossingsOf geometry cellSizeM = .ok []) :
    Planarizes cellSizeM passes nodes links geometry
      (links.map fun link => (link.linkId, [link.linkId])) links
  | split {passes : ℕ} {nodes : List (Planar.Node K)} {links : List (Map.RoadLink K)}
    {geometry output : RoadGeometryCatalog K} {crossings : List (Crossing K)} {pass : Pass K}
    (crossed : crossings ≠ []) (found : crossingsOf geometry cellSizeM = .ok crossings)
    (ran : splitCrossings nodes links geometry crossings = .ok pass)
    (laid : buildEndpointGeometryCatalog pass.nodes pass.links = .ok output)
    (clear : output.countInteriorCenterlineIntersections (Scalar.ofInt 250) = 0) :
    Planarizes cellSizeM passes nodes links geometry pass.mappedIds pass.links
  | again {passes : ℕ} {nodes : List (Planar.Node K)} {links : List (Map.RoadLink K)}
    {geometry output : RoadGeometryCatalog K} {crossings : List (Crossing K)} {pass : Pass K}
    {refinement : PlanarizationResult K} {composed : Dict ℤ (List ℤ)}
    (crossed : crossings ≠ []) (found : crossingsOf geometry cellSizeM = .ok crossings)
    (ran : splitCrossings nodes links geometry crossings = .ok pass)
    (laid : buildEndpointGeometryCatalog pass.nodes pass.links = .ok output)
    (left : output.countInteriorCenterlineIntersections (Scalar.ofInt 250) ≠ 0)
    (refines : planarizeEndpointTopology pass.nodes pass.links output cellSizeM passes =
      .ok refinement)
    (composes : composeMapping pass.mappedIds refinement.oldLinkToNewLinkIds = .ok composed) :
    Planarizes cellSizeM (passes + 1) nodes links geometry composed refinement.links

omit [IsStrictOrderedRing K] in
theorem planarize_cases
    (h : planarizeEndpointTopology nodes links geometry cellSizeM passes = .ok result) :
    checkInputs nodes links geometry cellSizeM = .ok () ∧ Planarizes cellSizeM passes nodes links
      geometry result.oldLinkToNewLinkIds result.links := by
  unfold planarizeEndpointTopology at h
  obtain ⟨_, checked, h⟩ := bind_ok.mp h
  refine ⟨checked, ?_⟩
  obtain ⟨crossings, found, h⟩ := bind_ok.mp h
  split at h
  · rename_i empty
    rw [← pure_ok.mp h]
    rw [List.isEmpty_iff.mp empty] at found
    exact .planar found
  · rename_i some_crossing
    have crossed : crossings ≠ [] := fun empty => some_crossing (List.isEmpty_iff.mpr empty)
    obtain ⟨pass, ran, h⟩ := bind_ok.mp h
    obtain ⟨output, laid, h⟩ := bind_ok.mp h
    dsimp only at h
    split at h
    · rename_i left
      cases passes with
      | zero => cases h
      | succ passes =>
        obtain ⟨refinement, refines, h⟩ := bind_ok.mp h
        obtain ⟨composed, composes, h⟩ := bind_ok.mp h
        rw [← pure_ok.mp h]
        change Planarizes cellSizeM (passes + 1) nodes links geometry composed refinement.links
        exact .again crossed found ran laid left refines composes
    · rename_i clear
      rw [← pure_ok.mp h]
      exact .split crossed found ran laid (not_not.mp clear)

omit [IsStrictOrderedRing K] in
theorem opposite_of_twin {pass : Pass K} {output : RoadGeometryCatalog K}
    (distinct : (pass.links.map fun link => link.linkId).Nodup)
    (laid : buildEndpointGeometryCatalog pass.nodes pass.links = .ok output)
    (cover : ∀ link ∈ pass.links, ∃ a ∈ output.assignments, a.linkId = link.linkId) :
    ∀ p ∈ pass.links, ∀ q ∈ pass.links, Twin p q → p.physicalRoadId ≠ none →
      Opposite output p q := by
  intro p p_mem q q_mem twin road
  obtain ⟨-, geometryOf, each⟩ := endpoint_catalog_spec laid
  have along : ∀ link ∈ pass.links, ∃ a ∈ output.assignments, a.linkId = link.linkId ∧
      a.geometryId = geometryOf (geometryKey link) := by
    intro link listed
    obtain ⟨a, a_listed, id⟩ := cover link listed
    obtain ⟨other, other_listed, other_id, geometry⟩ := each a a_listed
    rw [List.inj_on_of_nodup_map distinct other_listed listed (other_id.trans id)] at geometry
    exact ⟨a, a_listed, id, geometry⟩
  obtain ⟨x, x_listed, x_id, x_along⟩ := along p p_mem
  obtain ⟨y, y_listed, y_id, y_along⟩ := along q q_mem
  obtain ⟨id, given⟩ := Option.ne_none_iff_exists'.mp road
  have same : geometryKey p = geometryKey q := by
    unfold geometryKey
    rw [← twin.2.2, given]
  exact ⟨⟨twin.1, twin.2.1⟩, twin.2.2, x, x_listed, y, y_listed, x_id, y_id,
    by rw [x_along, y_along, same]⟩

omit [IsStrictOrderedRing K] in
theorem untouched_uncrossed {crossings : List (Crossing K)} {id : ℤ}
    (found : crossingsOf geometry cellSizeM = .ok crossings)
    (h : Untouched cellSizeM passes nodes links geometry id) : Uncrossed geometry crossings id := by
  cases passes with
  | zero => exact h crossings found
  | succ passes => exact (h crossings found).1

theorem one_pass_preserves {crossings : List (Crossing K)} {pass : Pass K}
    (anchored : Anchored nodes links)
    (checked : checkInputs nodes links geometry cellSizeM = .ok ())
    (found : crossingsOf geometry cellSizeM = .ok crossings)
    (ran : splitCrossings nodes links geometry crossings = .ok pass) :
    Preserves Rebuilt links geometry (Uncrossed geometry crossings) pass.mappedIds pass.links ∧
      ∀ piece ∈ pass.links, piece.rampPurpose = none ∧ piece.physicalRoadId ≠ none := by
  obtain ⟨size, distinct, cover⟩ := check_inputs_ok checked
  obtain ⟨segments, -, made⟩ := bind_ok.mp found
  have inner : ∀ crossing ∈ crossings, Inner crossing.leftT ∧ Inner crossing.rightT :=
    fun crossing listed => found_inner size (pure_ok.mp made ▸ listed)
  obtain ⟨intervalsOf, of_pass⟩ := split_crossings_spec anchored distinct inner ran
  exact ⟨of_pass.preserves distinct cover, of_pass.rebuilt⟩

theorem planarize_preserves (anchored : Anchored nodes links)
    (h : planarizeEndpointTopology nodes links geometry cellSizeM passes = .ok result)
    (splits : crossingsOf geometry cellSizeM ≠ .ok [] ∨
      ∀ link ∈ links, link.rampPurpose = none ∧ link.physicalRoadId ≠ none) :
    Preserves Rebuilt links geometry (Untouched cellSizeM passes nodes links geometry)
      result.oldLinkToNewLinkIds result.links := by
  -- each further pass starts from the nodes and pieces of the pass before
  induction passes using Nat.strongRec generalizing nodes links geometry result with
  | ind passes ih =>
    obtain ⟨checked, run⟩ := planarize_cases h
    obtain ⟨-, distinct, -⟩ := check_inputs_ok checked
    clear h
    generalize result.oldLinkToNewLinkIds = mapping at run ⊢
    generalize result.links = output at run ⊢
    cases run with
    | planar clear =>
      have rebuilt := splits.resolve_left (not_not.mpr clear)
      exact .refl distinct (fun link listed => ⟨⟨rfl, rfl, rfl, rfl, rfl, rfl⟩,
        (rebuilt link listed).1, (rebuilt link listed).2⟩) _
    | split _ found ran _ _ =>
      exact (one_pass_preserves anchored checked found ran).1.weaken (fun _ _ _ kept => kept)
        fun id quiet => untouched_uncrossed found quiet
    | @again passes _ _ _ output crossings pass refinement _ _ found ran laid left refines
        composes =>
      obtain ⟨first, rebuilt⟩ := one_pass_preserves anchored checked found ran
      have second := ih passes passes.lt_succ_self (endpoint_catalog_spec laid).1 refines
        (.inr rebuilt)
      obtain ⟨-, -, cover⟩ := check_inputs_ok (planarize_cases refines).1
      refine (first.compose second composes (opposite_of_twin first.distinct laid cover)).weaken
        (fun _ _ _ kept => kept) fun id quiet => ?_
      obtain ⟨uncrossed, later⟩ := quiet crossings found
      exact ⟨uncrossed, fun ids at_id id' mem => later pass output ids ran laid left at_id id' mem⟩

/-- The roads are kept with all their attributes if and only if nothing crosses or no link is a
ramp. -/
theorem roads_preserved_iff (anchored : Anchored nodes links)
    (h : planarizeEndpointTopology nodes links geometry cellSizeM passes = .ok result) :
    Preserves SameAttributes links geometry (Untouched cellSizeM passes nodes links geometry)
        result.oldLinkToNewLinkIds result.links ↔
      crossingsOf geometry cellSizeM = .ok [] ∨ ∀ link ∈ links, link.rampPurpose = none := by
  by_cases clear : crossingsOf geometry cellSizeM = .ok []
  · refine iff_of_true ?_ (.inl clear)
    obtain ⟨checked, run⟩ := planarize_cases h
    obtain ⟨-, distinct, -⟩ := check_inputs_ok checked
    generalize result.oldLinkToNewLinkIds = mapping at run ⊢
    generalize result.links = output at run ⊢
    cases run with
    | planar => exact .refl distinct (fun _ _ => ⟨⟨rfl, rfl, rfl, rfl, rfl, rfl⟩, rfl⟩) _
    | split crossed found => exact absurd (Except.ok.inj (found.symm.trans clear)) crossed
    | again crossed found => exact absurd (Except.ok.inj (found.symm.trans clear)) crossed
  · have rebuilt := planarize_preserves anchored h (.inl clear)
    rw [or_iff_right clear]
    refine ⟨fun kept => kept.plain rebuilt, fun plain => ?_⟩
    refine rebuilt.weaken (fun link listed piece same => ?_) fun _ quiet => quiet
    exact ⟨same.toSameService, same.rampPurpose.trans (plain link listed).symm⟩

end Runs

section Ramps

/-- A ramp of length two that leads onto an expressway. -/
def slipRoad (linkId src dst : ℤ) (apart : src ≠ dst) : Map.RoadLink ℚ :=
  ⟨⟨linkId, src, dst, .ramp, 2, 10, 5, 1, none, true, none, some .onRamp⟩, apart,
    not_le.mpr two_pos, not_le.mpr (show (0 : ℚ) < 10 by norm_num),
    not_lt.mpr (show (0 : ℚ) ≤ 5 by norm_num), Lib.one_lane_int, by simp, by simp, by simp⟩

def slipNodes : List (Planar.Node ℚ) :=
  [{ nodeId := 0, x := 0, y := 1 }, { nodeId := 1, x := 2, y := 1 },
    { nodeId := 2, x := 1, y := 0 }, { nodeId := 3, x := 1, y := 2 }]

/-- Two ramps that cross in the middle. -/
def slipLinks : List (Map.RoadLink ℚ) := [slipRoad 0 0 1 Lib.ids_zero_one, slipRoad 1 2 3 Lib.ids_two_three]

def slipGeometry : RoadGeometryCatalog ℚ :=
  ⟨[⟨0, [(0, 1), (2, 1)], 0, Lib.zero_id, by decide, by decide, by decide⟩,
    ⟨1, [(1, 0), (1, 2)], 0, Lib.one_id, by decide, by decide, by decide⟩],
    [⟨0, 0, false, Lib.zero_ids⟩, ⟨1, 1, false, Lib.one_ids⟩], by simp, by simp, by simp⟩

theorem slip_roads_anchored : Anchored slipNodes slipLinks := by
  unfold Anchored
  decide

theorem slip_roads_run : ∃ result,
    planarizeEndpointTopology slipNodes slipLinks slipGeometry 250 5 = .ok result := by
  apply ok_of_is_ok
  unfold planarizeEndpointTopology crossingsOf findProperCrossings splitCrossings addCenterline
    buildEndpointGeometryCatalog layGroup RoadGeometryCatalog.build
    RoadGeometryCatalog.countInteriorCenterlineIntersections pairsIn
  simp only [sort_on_insertion]
  decide +kernel

theorem slip_roads_decided : ∃ result,
    planarizeEndpointTopology slipNodes slipLinks slipGeometry 250 5 = .ok result ∧
      (Preserves SameAttributes slipLinks slipGeometry
          (Untouched 250 5 slipNodes slipLinks slipGeometry) result.oldLinkToNewLinkIds
          result.links ↔
        crossingsOf slipGeometry 250 = .ok [] ∨ ∀ link ∈ slipLinks, link.rampPurpose = none) := by
  obtain ⟨result, ran⟩ := slip_roads_run
  exact ⟨result, ran, roads_preserved_iff slip_roads_anchored ran⟩

/-- The pieces of crossing ramps are no ramps onto anything. -/
theorem ramp_purpose_lost : ∃ result,
    planarizeEndpointTopology slipNodes slipLinks slipGeometry 250 5 = .ok result ∧
      ¬Preserves SameAttributes slipLinks slipGeometry
        (Untouched 250 5 slipNodes slipLinks slipGeometry) result.oldLinkToNewLinkIds
        result.links := by
  obtain ⟨result, ran⟩ := slip_roads_run
  have one : (crossingsOf slipGeometry 250).toOption.map List.length = some 1 := by
    unfold crossingsOf findProperCrossings pairsIn
    simp only [sort_on_insertion]
    decide +kernel
  have crossed : crossingsOf slipGeometry 250 ≠ .ok [] := by
    intro clear
    rw [clear] at one
    cases one
  refine ⟨result, ran, fun kept => ?_⟩
  have rebuilt := planarize_preserves slip_roads_anchored ran (.inl crossed)
  cases kept.plain rebuilt _ List.mem_cons_self

end Ramps

end Metroflow.City.Planarization
