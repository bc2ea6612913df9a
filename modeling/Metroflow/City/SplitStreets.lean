import Metroflow.City.TwoWayStreets

namespace Metroflow.City.Planar

open Metroflow.Lib Metroflow.Map

section Geometry

variable {graph : StreetGraph ℝ} {link back : Map.RoadLink ℝ} {src dst point : PointM ℝ}
  {node : Node ℝ} {t : ℝ}

theorem squared_length_comm : squaredLength dst src = squaredLength src dst := by
  unfold squaredLength
  ring

theorem parameter_flip (long : 0 < squaredLength src dst) :
    parameter dst src point = 1 - parameter src dst point := by
  unfold parameter
  rw [squared_length_comm, eq_sub_iff_add_eq, ← add_div, div_eq_one_iff_eq long.ne']
  unfold squaredLength
  ring

theorem project_flip : project dst src (1 - t) = project src dst t := by
  unfold project
  refine Prod.ext ?_ ?_
  · ring
  · ring

theorem candidate_node_ids_comm : candidateNodeIds graph dst src = candidateNodeIds graph src dst := by
  unfold candidateNodeIds
  simp only [lesser_real, greater_real, min_comm dst.1, min_comm dst.2, max_comm dst.1,
    max_comm dst.2]

theorem split_by_flip (long : 0 < squaredLength src dst) (from_end : back.srcNodeId = link.dstNodeId)
    (to_start : back.dstNodeId = link.srcNodeId) (bridge : back.bridgeGroupId = link.bridgeGroupId) :
    splitBy graph back dst src node = (splitBy graph link src dst node).map fun t => 1 - t := by
  unfold splitBy
  rw [from_end, to_start, bridge]
  simp only [parameter_flip long, project_flip, or_comm (a := node.nodeId = link.dstNodeId)]
  split
  · rfl
  · split
    · rfl
    · have inside : ∀ far : Prop,
          (0 < 1 - parameter src dst node.point ∧ 1 - parameter src dst node.point < 1 ∧ far) ↔
          0 < parameter src dst node.point ∧ parameter src dst node.point < 1 ∧ far := by
        intro far
        rw [sub_pos, sub_lt_self_iff]
        tauto
      simp only [inside]
      split <;> rfl

end Geometry

theorem head_of_least {α : Type} {R : α → α → Prop} {l : List α} {a : α} (related : l.Pairwise R)
    (mem : a ∈ l) (least : ∀ b ∈ l, R b a → b = a) : l.head? = some a := by
  cases l with
  | nil => cases mem
  | cons b l =>
    rcases List.mem_cons.mp mem with rfl | later
    · rfl
    · have below := (List.pairwise_cons.mp related).1 a later
      rw [List.head?_cons, least b List.mem_cons_self below]

section Points

variable {points points' : List (ℝ × ℤ)} {p : ℝ × ℤ} {graph : StreetGraph ℝ}
  {link back : Map.RoadLink ℝ} {src dst : PointM ℝ}

theorem sort_points_perm : (sortPoints points).Perm points := List.mergeSort_perm _ _

theorem sort_points_order :
    (sortPoints points).Pairwise fun a b => a.1 < b.1 ∨ (a.1 = b.1 ∧ a.2 ≤ b.2) := by
  have sorted : (sortPoints points).Pairwise fun a b =>
      decide (a.1 < b.1 ∨ (a.1 = b.1 ∧ a.2 ≤ b.2)) = true := by
    refine List.pairwise_mergeSort (fun a b c ab bc => ?_) (fun a b => ?_) points
    · rw [decide_eq_true_eq] at ab bc ⊢
      rcases ab with ab | ⟨ab, ab'⟩
      · rcases bc with bc | ⟨bc, -⟩
        · exact .inl (ab.trans bc)
        · exact .inl (bc ▸ ab)
      · rcases bc with bc | ⟨bc, bc'⟩
        · exact .inl (ab ▸ bc)
        · exact .inr ⟨ab.trans bc, ab'.trans bc'⟩
    · rw [Bool.or_eq_true, decide_eq_true_eq, decide_eq_true_eq]
      rcases lt_trichotomy a.1 b.1 with less | same | more
      · exact .inl (.inl less)
      · exact (le_total a.2 b.2).imp (fun le => .inr ⟨same, le⟩) fun le => .inr ⟨same.symm, le⟩
      · exact .inr (.inl more)
  exact sorted.imp fun h => of_decide_eq_true h

theorem sort_points_sorted : (sortPoints points).Pairwise fun a b => a.1 ≤ b.1 :=
  sort_points_order.imp fun h => h.elim le_of_lt fun tie => tie.1.le

theorem sort_points_eq (perm : points.Perm points')
    (ordered : points'.Pairwise fun a b => a.1 < b.1 ∨ (a.1 = b.1 ∧ a.2 ≤ b.2)) :
    sortPoints points = points' := by
  refine (sort_points_perm.trans perm).eq_of_pairwise (fun a b _ _ ab ba => ?_) sort_points_order
    ordered
  rcases ab with ab | ⟨same, ab⟩
  · exact absurd ab (not_lt.mpr (ba.elim le_of_lt fun tie => tie.1.le))
  · rcases ba with ba | ⟨-, ba⟩
    · exact absurd ba (not_lt.mpr same.le)
    · exact Prod.ext same (le_antisymm ab ba)

theorem sort_points_strict (distinct : (points.map Prod.fst).Nodup) :
    (sortPoints points).Pairwise fun a b => a.1 < b.1 := by
  have apart : (sortPoints points).Pairwise fun a b => a.1 ≠ b.1 :=
    List.pairwise_map.mp ((sort_points_perm.map Prod.fst).nodup_iff.mpr distinct)
  exact (sort_points_sorted.and apart).imp fun h => lt_of_le_of_ne h.1 h.2

/-- A point as it is seen from the other end. -/
def seenBack (p : ℝ × ℤ) : ℝ × ℤ := (1 - p.1, p.2)

theorem sort_points_back (distinct : (points.map Prod.fst).Nodup)
    (perm : points'.Perm (points.map seenBack)) :
    sortPoints points' = ((sortPoints points).map seenBack).reverse := by
  have strict : ((sortPoints points).map seenBack).reverse.Pairwise fun a b => a.1 < b.1 := by
    rw [List.pairwise_reverse, List.pairwise_map]
    exact (sort_points_strict distinct).imp fun less => sub_lt_sub_left less 1
  have distinct' : (points'.map Prod.fst).Nodup := by
    rw [(perm.map Prod.fst).nodup_iff, List.map_map]
    have split : Prod.fst ∘ seenBack = (fun t : ℝ => 1 - t) ∘ Prod.fst := rfl
    rw [split, ← List.map_map]
    exact distinct.map sub_right_injective
  refine eq_of_perm_of_strict ?_ (sort_points_strict distinct') strict
  exact sort_points_perm.trans (perm.trans
    ((sort_points_perm.map seenBack).symm.trans (List.reverse_perm _).symm))

theorem mem_inner_points : p ∈ innerPoints graph link src dst ↔
    p.2 ∈ candidateNodeIds graph src dst ∧ ∃ node, (nodesById graph.nodes).get p.2 = some node ∧
      splitBy graph link src dst node = some p.1 := by
  unfold innerPoints
  rw [List.mem_filterMap]
  constructor
  · rintro ⟨nodeId, candidate, split⟩
    obtain ⟨node, found, split⟩ := Option.bind_eq_some_iff.mp split
    obtain ⟨t, here, rfl⟩ := Option.map_eq_some_iff.mp split
    exact ⟨candidate, node, found, here⟩
  · rintro ⟨candidate, node, found, split⟩
    refine ⟨p.2, candidate, ?_⟩
    rw [found, Option.bind_some, split]
    rfl

theorem split_by_inside {node : Node ℝ} {t : ℝ} (h : splitBy graph link src dst node = some t) :
    0 < t ∧ t < 1 := by
  unfold splitBy at h
  split at h
  · cases h
  · split at h
    · cases h
    · simp only at h
      split at h
      · rename_i inside
        obtain rfl := Option.some.inj h
        exact ⟨inside.1, inside.2.1⟩
      · cases h

theorem inner_inside (mem : p ∈ innerPoints graph link src dst) : 0 < p.1 ∧ p.1 < 1 := by
  obtain ⟨-, node, -, split⟩ := mem_inner_points.mp mem
  exact split_by_inside split

theorem inner_points_back (long : 0 < squaredLength src dst)
    (from_end : back.srcNodeId = link.dstNodeId) (to_start : back.dstNodeId = link.srcNodeId)
    (bridge : back.bridgeGroupId = link.bridgeGroupId) :
    innerPoints graph back dst src = (innerPoints graph link src dst).map seenBack := by
  unfold innerPoints
  rw [candidate_node_ids_comm, List.map_filterMap]
  congr 1
  funext nodeId
  rw [Option.map_bind]
  congr 1
  funext node
  rw [split_by_flip long from_end to_start bridge, Option.map_map, Function.comp_apply,
    Option.map_map]
  rfl

/-- No two nodes split a link at one place. -/
def SplitsApart (graph : StreetGraph ℝ) : Prop :=
  ∀ link ∈ graph.links, ∀ src dst a b : Node ℝ, ∀ (i j : ℤ) (t : ℝ),
    (nodesById graph.nodes).get link.srcNodeId = some src →
    (nodesById graph.nodes).get link.dstNodeId = some dst →
    (nodesById graph.nodes).get i = some a → (nodesById graph.nodes).get j = some b →
    splitBy graph link src.point dst.point a = some t →
    splitBy graph link src.point dst.point b = some t → i = j

/-- What splitting a link starts from. -/
structure Located (graph : StreetGraph ℝ) (link : Map.RoadLink ℝ) (src dst : Node ℝ)
    (streetId : ℤ) : Prop where
  src_at : (nodesById graph.nodes).get link.srcNodeId = some src
  dst_at : (nodesById graph.nodes).get link.dstNodeId = some dst
  long : 0 < squaredLength src.point dst.point
  street : graph.linkToStreetId.get link.linkId = some streetId

variable {start finish : Node ℝ} {streetId : ℤ}

theorem split_places_nodup (apart : SplitsApart graph) (listed : link ∈ graph.links)
    (located : Located graph link start finish streetId) :
    (((0, link.srcNodeId) :: (1, link.dstNodeId) ::
      innerPoints graph link start.point finish.point).map Prod.fst).Nodup := by
  have inner : ((innerPoints graph link start.point finish.point).map Prod.fst).Nodup := by
    have candidates : (candidateNodeIds graph start.point finish.point).Nodup :=
      sort_on_perm.nodup_iff.mpr (List.nodup_dedup _)
    refine List.pairwise_map.mpr (List.pairwise_filterMap.mpr (candidates.imp ?_))
    intro i j other p at_i q at_j same
    obtain ⟨a, found, split⟩ := Option.bind_eq_some_iff.mp at_i
    obtain ⟨b, found', split'⟩ := Option.bind_eq_some_iff.mp at_j
    obtain ⟨t, here, rfl⟩ := Option.map_eq_some_iff.mp split
    obtain ⟨t', here', rfl⟩ := Option.map_eq_some_iff.mp split'
    obtain rfl : t = t' := same
    exact other (apart link listed start finish a b i j t located.src_at located.dst_at found found' here
      here')
  rw [List.map_cons, List.map_cons, List.nodup_cons, List.nodup_cons, List.mem_cons]
  refine ⟨?_, fun mem => ?_, inner⟩
  · rintro (same | mem)
    · exact zero_ne_one same
    · obtain ⟨p, mem, place⟩ := List.mem_map.mp mem
      exact (inner_inside mem).1.ne' place
  · obtain ⟨p, mem, place⟩ := List.mem_map.mp mem
    exact (inner_inside mem).2.ne place

theorem split_points_back (apart : SplitsApart graph) (listed : link ∈ graph.links)
    (located : Located graph link start finish streetId)
    (from_end : back.srcNodeId = link.dstNodeId) (to_start : back.dstNodeId = link.srcNodeId)
    (bridge : back.bridgeGroupId = link.bridgeGroupId) :
    splitPoints graph back finish.point start.point =
      ((splitPoints graph link start.point finish.point).map seenBack).reverse := by
  refine sort_points_back (split_places_nodup apart listed located) ?_
  rw [inner_points_back located.long from_end to_start bridge, from_end, to_start]
  simp only [List.map_cons, seenBack, sub_zero, sub_self]
  exact .swap _ _ _

theorem split_points_ends (graph : StreetGraph ℝ) (link : Map.RoadLink ℝ) (src dst : PointM ℝ) :
    (splitPoints graph link src dst).head? = some (0, link.srcNodeId) ∧
      (splitPoints graph link src dst).getLast? = some (1, link.dstNodeId) := by
  have listed : ∀ p, p ∈ splitPoints graph link src dst ↔ p = (0, link.srcNodeId) ∨
      p = (1, link.dstNodeId) ∨ p ∈ innerPoints graph link src dst := by
    intro p
    rw [splitPoints, sort_points_perm.mem_iff, List.mem_cons, List.mem_cons]
  have sorted : (splitPoints graph link src dst).Pairwise fun a b => a.1 ≤ b.1 :=
    sort_points_sorted
  constructor
  · refine head_of_least sorted ((listed _).mpr (.inl rfl)) fun p mem low => ?_
    rcases (listed p).mp mem with rfl | rfl | mem
    · rfl
    · exact absurd low (not_le.mpr one_pos)
    · exact absurd low (not_le.mpr (inner_inside mem).1)
  · rw [← List.head?_reverse]
    refine head_of_least (List.pairwise_reverse.mpr sorted)
      (List.mem_reverse.mpr ((listed _).mpr (.inr (.inl rfl)))) fun p mem high => ?_
    rcases (listed p).mp (List.mem_reverse.mp mem) with rfl | rfl | mem
    · exact absurd high (not_le.mpr one_pos)
    · rfl
    · exact absurd high (not_le.mpr (inner_inside mem).2)

end Points

section Splitting

variable {graph out : StreetGraph ℝ} {link : Map.RoadLink ℝ} {start finish : Node ℝ} {streetId : ℤ}
  {done kept : List (Piece ℝ)} {s s' : Relinking ℝ} {points : List (ℝ × ℤ)} {piece : Piece ℝ}
  {u v : ℤ}

theorem mem_pieces_between : piece ∈ piecesBetween link streetId points ↔
    ∃ step ∈ walkSteps points, step.1.2 ≠ step.2.2 ∧
      piece = ⟨link, streetId, step.1.2, step.2.2⟩ := by
  unfold piecesBetween
  rw [List.mem_map]
  constructor
  · rintro ⟨step, mem, rfl⟩
    obtain ⟨mem, other⟩ := List.mem_filter.mp mem
    exact ⟨step, mem, of_decide_eq_true other, rfl⟩
  · rintro ⟨step, mem, other, rfl⟩
    exact ⟨step, List.mem_filter.mpr ⟨mem, decide_eq_true other⟩, rfl⟩

noncomputable def linkPieces (graph : StreetGraph ℝ) (link : Map.RoadLink ℝ) : List (Piece ℝ) :=
  match (nodesById graph.nodes).get link.srcNodeId, (nodesById graph.nodes).get link.dstNodeId,
    graph.linkToStreetId.get link.linkId with
  | some src, some dst, some streetId =>
    piecesBetween link streetId (splitPoints graph link src.point dst.point)
  | _, _, _ => []

theorem Located.pieces (h : Located graph link start finish streetId) :
    linkPieces graph link =
      piecesBetween link streetId (splitPoints graph link start.point finish.point) := by
  rw [linkPieces, h.src_at, h.dst_at, h.street]

theorem split_link_ok (h : Emits (entry (nodesById graph.nodes)) false done kept s)
    (run : splitLink graph s link = .ok s') :
    (∃ kept', Emits (entry (nodesById graph.nodes)) false (done ++ linkPieces graph link) kept' s') ∧
      ∃ start finish streetId, Located graph link start finish streetId := by
  obtain ⟨start, at_src, run⟩ := bind_ok.mp run
  obtain ⟨finish, at_dst, run⟩ := bind_ok.mp run
  rw [entry_ok] at at_src at_dst
  split at run
  · cases run
  rename_i long
  obtain ⟨streetId, named, run⟩ := bind_ok.mp run
  rw [entry_ok] at named
  have located : Located graph link start finish streetId :=
    ⟨at_src, at_dst, not_le.mp long, named⟩
  refine ⟨?_, start, finish, streetId, located⟩
  rw [located.pieces]
  exact fold_progress (I := fun past s =>
      ∃ kept, Emits (entry (nodesById graph.nodes)) false (done ++ past) kept s)
    (fun past piece rest s s' _ held step => by
      obtain ⟨kept, emits⟩ := held
      rw [← List.append_assoc]
      exact emits.add step)
    ⟨kept, by rwa [List.append_nil]⟩ run

theorem Located.joined {links : List (Map.RoadLink ℝ)}
    (h : Located graph link start finish streetId)
    (each : ∀ piece ∈ linkPieces graph link,
      ∃ made ∈ links, made.srcNodeId = piece.left ∧ made.dstNodeId = piece.right) :
    Joined links link.srcNodeId link.dstNodeId := by
  obtain ⟨first, last⟩ := split_points_ends graph link start.point finish.point
  have chain : (splitPoints graph link start.point finish.point).IsChain
      fun a b => Joined links a.2 b.2 := by
    refine chain_iff_steps.mpr fun step taken => ?_
    by_cases same : step.1.2 = step.2.2
    · rw [same]
      exact .refl
    · have mem : (⟨link, streetId, step.1.2, step.2.2⟩ : Piece ℝ) ∈ linkPieces graph link := by
        rw [h.pieces, mem_pieces_between]
        exact ⟨step, taken, same, rfl⟩
      exact .single (each _ mem)
  have nonempty : splitPoints graph link start.point finish.point ≠ [] := by
    intro empty
    rw [empty] at first
    cases first
  rw [List.head?_eq_some_head nonempty] at first
  rw [List.getLast?_eq_some_getLast nonempty] at last
  have path := List.relationReflTransGen_of_exists_isChain _ chain nonempty
  rw [Option.some.inj first, Option.some.inj last] at path
  have along : ∀ p, Relation.ReflTransGen (fun a b : ℝ × ℤ => Joined links a.2 b.2)
      (0, link.srcNodeId) p → Joined links link.srcNodeId p.2 := by
    intro p path
    induction path with
    | refl => exact .refl
    | tail _ step ih => exact ih.trans step
  exact along _ path

theorem Located.points_known (h : Located graph link start finish streetId) {p : ℝ × ℤ}
    (mem : p ∈ splitPoints graph link start.point finish.point) :
    ∃ node, (nodesById graph.nodes).get p.2 = some node := by
  rw [splitPoints, sort_points_perm.mem_iff, List.mem_cons, List.mem_cons] at mem
  rcases mem with rfl | rfl | mem
  · exact ⟨start, h.src_at⟩
  · exact ⟨finish, h.dst_at⟩
  · obtain ⟨-, node, found, -⟩ := mem_inner_points.mp mem
    exact ⟨node, found⟩

theorem Located.split_total (located : Located graph link start finish streetId)
    (h : Emits (entry (nodesById graph.nodes)) false done kept s)
    (places : ∀ i j a b, (nodesById graph.nodes).get i = some a →
      (nodesById graph.nodes).get j = some b → i ≠ j → a.point ≠ b.point) :
    ∃ s', splitLink graph s link = .ok s' := by
  unfold splitLink
  simp only [entry_ok.mpr located.src_at, entry_ok.mpr located.dst_at,
    entry_ok.mpr located.street, ok_bind]
  rw [if_neg (not_le.mpr located.long)]
  obtain ⟨s', run, -⟩ := fold_total (f := addDirected (entry (nodesById graph.nodes)) false) (s := s)
    (l := piecesBetween link streetId (splitPoints graph link start.point finish.point))
    (I := fun past s => ∃ kept, Emits (entry (nodesById graph.nodes)) false (done ++ past) kept s)
    (fun past piece rest s split held => by
      obtain ⟨kept, emits⟩ := held
      have mem : piece ∈ piecesBetween link streetId
          (splitPoints graph link start.point finish.point) :=
        split ▸ List.mem_append_right _ List.mem_cons_self
      obtain ⟨step, taken, other, rfl⟩ := mem_pieces_between.mp mem
      obtain ⟨left, right⟩ := List.of_mem_zip taken
      obtain ⟨a, at_left⟩ := located.points_known left
      obtain ⟨b, at_right⟩ := located.points_known (List.mem_of_mem_tail right)
      obtain ⟨s', run⟩ := Emits.add_total (p := ⟨link, streetId, step.1.2, step.2.2⟩) emits
        (entry_ok.mpr at_left) (entry_ok.mpr at_right) other (places _ _ a b at_left at_right other)
      refine ⟨s', run, ?_⟩
      rw [← List.append_assoc]
      exact emits.add run)
    ⟨kept, by rwa [List.append_nil]⟩
  exact ⟨s', run⟩

theorem split_total (filled : graph.links ≠ [])
    (located : ∀ link ∈ graph.links, ∃ start finish streetId,
      Located graph link start finish streetId)
    (places : ∀ i j a b, (nodesById graph.nodes).get i = some a →
      (nodesById graph.nodes).get j = some b → i ≠ j → a.point ≠ b.point) :
    ∃ out, splitLinksAtExistingNodes graph = .ok out := by
  have known : (graph.links.forM fun link => do
      let _ ← entry (nodesById graph.nodes) link.srcNodeId
      let _ ← entry (nodesById graph.nodes) link.dstNodeId
      return ⟨⟩) = .ok ⟨⟩ := by
    refine each_ok.mpr fun link mem => ?_
    obtain ⟨start, finish, streetId, here⟩ := located link mem
    rw [entry_ok.mpr here.src_at, entry_ok.mpr here.dst_at]
    rfl
  obtain ⟨s, looped, kept, emits⟩ := fold_total (f := splitLink graph)
    (l := sortOn (fun link => link.linkId) graph.links) (s := {})
    (I := fun past s => ∃ kept, Emits (entry (nodesById graph.nodes)) false
      (past.flatMap (linkPieces graph)) kept s)
    (fun past link rest s split held => by
      obtain ⟨kept, emits⟩ := held
      have mem : link ∈ sortOn (fun link => link.linkId) graph.links :=
        split ▸ List.mem_append_right _ List.mem_cons_self
      obtain ⟨start, finish, streetId, here⟩ := located link (mem_sort_on.mp mem)
      obtain ⟨s', run⟩ := here.split_total emits places
      refine ⟨s', run, ?_⟩
      rw [List.flatMap_append, List.flatMap_singleton]
      exact (split_link_ok emits run).1)
    ⟨[], emits_nil⟩
  have some_link : s.outputLinks ≠ [] := by
    intro empty
    obtain ⟨link, mem⟩ := List.exists_mem_of_ne_nil _ filled
    obtain ⟨start, finish, streetId, here⟩ := located link mem
    have path : Joined s.outputLinks link.srcNodeId link.dstNodeId :=
      here.joined fun piece piece_mem =>
        emits.reaches (List.mem_flatMap.mpr ⟨link, mem_sort_on.mpr mem, piece_mem⟩)
          fun none => by cases none
    rcases path.cases_head with same | ⟨_, ⟨made, listed, -⟩, -⟩
    · exact link.ends_differ same
    · rw [empty] at listed
      cases listed
  unfold splitLinksAtExistingNodes
  rw [known, looped]
  simp only [ok_bind]
  rw [if_neg some_link]
  exact ⟨_, rfl⟩

theorem split_ok (run : splitLinksAtExistingNodes graph = .ok out) :
    out.nodes = graph.nodes ∧
      (∀ link ∈ graph.links, ∃ start finish streetId, Located graph link start finish streetId) ∧
      ∃ s kept, out.links = s.outputLinks ∧ out.linkToStreetId = s.outputProvenance ∧
        Emits (entry (nodesById graph.nodes)) false
          ((sortOn (fun link => link.linkId) graph.links).flatMap (linkPieces graph)) kept s := by
  obtain ⟨-, -, run⟩ := bind_ok.mp run
  obtain ⟨s, looped, run⟩ := bind_ok.mp run
  split at run
  · cases run
  obtain rfl := pure_ok.mp run
  obtain ⟨⟨kept, emits⟩, located⟩ := fold_progress (I := fun past s =>
      (∃ kept, Emits (entry (nodesById graph.nodes)) false
        (past.flatMap (linkPieces graph)) kept s) ∧
      ∀ link ∈ past, ∃ start finish streetId, Located graph link start finish streetId)
    (fun past link rest s s' _ held step => by
      obtain ⟨⟨kept, emits⟩, located⟩ := held
      obtain ⟨added, here⟩ := split_link_ok emits step
      refine ⟨?_, fun other mem => ?_⟩
      · rw [List.flatMap_append, List.flatMap_singleton]
        exact added
      · rcases List.mem_append.mp mem with old | last
        · exact located other old
        · exact List.mem_singleton.mp last ▸ here)
    ⟨⟨[], emits_nil⟩, fun _ none => by cases none⟩ looped
  exact ⟨rfl, fun link mem => located link (mem_sort_on.mpr mem), s, kept, rfl, rfl, emits⟩

theorem Located.mirror {back : Map.RoadLink ℝ} (h : Located graph link start finish streetId)
    (apart : SplitsApart graph) (listed : link ∈ graph.links)
    (opposite : Opposite graph.linkToStreetId link back) (mem : piece ∈ linkPieces graph link) :
    ∃ q ∈ linkPieces graph back, q.left = piece.right ∧ q.right = piece.left ∧
      q.roadKey = piece.roadKey := by
  have located : Located graph back finish start streetId :=
    ⟨opposite.src ▸ h.dst_at, opposite.dst ▸ h.src_at, squared_length_comm ▸ h.long,
      opposite.street.trans h.street⟩
  rw [h.pieces, mem_pieces_between] at mem
  obtain ⟨step, taken, other, rfl⟩ := mem
  refine ⟨⟨back, streetId, step.2.2, step.1.2⟩, ?_, rfl, rfl, ?_⟩
  · rw [located.pieces, mem_pieces_between]
    refine ⟨(seenBack step.2, seenBack step.1), ?_, Ne.symm other, rfl⟩
    rw [split_points_back apart listed h opposite.src opposite.dst opposite.bridge,
      walk_steps_reverse, List.mem_reverse, walk_steps_map, List.map_map, List.mem_map]
    exact ⟨step, taken, rfl⟩
  · exact Prod.ext rfl (Prod.ext opposite.road_class opposite.bridge)

theorem split_keeps (two_way : TwoWay graph.linkToStreetId graph.links) (apart : SplitsApart graph)
    (run : splitLinksAtExistingNodes graph = .ok out) : Keeps id graph out := by
  obtain ⟨nodes_eq, located, s, kept, links_eq, streets_eq, emits⟩ := split_ok run
  have two : TwoWay out.linkToStreetId out.links := by
    rw [links_eq, streets_eq]
    refine emits.two_way fun p mem => ?_
    obtain ⟨link, link_mem, mem⟩ := List.mem_flatMap.mp mem
    rw [mem_sort_on] at link_mem
    obtain ⟨start, finish, streetId, here⟩ := located link link_mem
    obtain ⟨back, back_mem, opposite⟩ := two_way.back link_mem
    obtain ⟨q, q_mem, ends⟩ := here.mirror apart link_mem opposite mem
    exact ⟨q, List.mem_flatMap.mpr ⟨back, mem_sort_on.mpr back_mem, q_mem⟩, ends⟩
  have even : EvenLengths out.links := links_eq ▸ emits.even_lengths
  have joined : ∀ u v, Joined graph.links u v → Joined out.links u v := by
    intro u v path
    induction path with
    | refl => exact .refl
    | tail _ step ih =>
      obtain ⟨link, mem, rfl, rfl⟩ := step
      obtain ⟨start, finish, streetId, here⟩ := located link mem
      refine ih.trans (here.joined fun piece piece_mem => ?_)
      rw [links_eq]
      exact emits.reaches (List.mem_flatMap.mpr ⟨link, mem_sort_on.mpr mem, piece_mem⟩)
        fun none => by cases none
  refine ⟨two, even, joined, fun whole => ⟨nodes_eq ▸ whole.distinct, ?_⟩,
    physical_segment_lengths_ok two even⟩
  rw [nodes_eq]
  exact fun a a_mem b b_mem => joined _ _ (whole.joined a a_mem b b_mem)

end Splitting

end Metroflow.City.Planar
