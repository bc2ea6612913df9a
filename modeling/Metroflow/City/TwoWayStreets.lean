import Metroflow.City.PlanarLinks

namespace Metroflow.City.Planar

open Metroflow.Lib Metroflow.Map

section Streets

variable {K : Type} [Scalar K]

structure Opposite (street : Dict ℤ ℤ) (a b : Map.RoadLink K) : Prop where
  src : b.srcNodeId = a.dstNodeId
  dst : b.dstNodeId = a.srcNodeId
  road_class : b.roadClass = a.roadClass
  bridge : b.bridgeGroupId = a.bridgeGroupId
  street : street.get b.linkId = street.get a.linkId

def TwoWay (street : Dict ℤ ℤ) (links : List (Map.RoadLink K)) : Prop :=
  ∀ link ∈ links, ∃ roadId back, link.physicalRoadId = some roadId ∧
    (links.filter fun other => other.physicalRoadId = some roadId).Perm [link, back] ∧
    Opposite street link back

def EvenLengths (links : List (Map.RoadLink K)) : Prop :=
  ∀ a ∈ links, ∀ b ∈ links, a.physicalRoadId = b.physicalRoadId → a.lengthM = b.lengthM

/-- One node can be reached from the other along links. -/
def Joined (links : List (Map.RoadLink K)) : ℤ → ℤ → Prop :=
  Relation.ReflTransGen fun u v => ∃ link ∈ links, link.srcNodeId = u ∧ link.dstNodeId = v

variable {street : Dict ℤ ℤ} {links : List (Map.RoadLink K)} {link : Map.RoadLink K}

theorem TwoWay.back (h : TwoWay street links) (listed : link ∈ links) :
    ∃ back ∈ links, Opposite street link back := by
  obtain ⟨roadId, back, -, pair, opposite⟩ := h link listed
  have mem : back ∈ links.filter fun other => other.physicalRoadId = some roadId :=
    pair.mem_iff.mpr (by simp)
  exact ⟨back, List.mem_of_mem_filter mem, opposite⟩

end Streets

theorem dist_comm (a b : PointM ℝ) : Scalar.dist a b = Scalar.dist b a := by
  rw [Scalar.dist_real, Scalar.dist_real]
  congr 1
  ring

theorem lesser_real (a b : ℝ) : lesser a b = min a b :=
  (min_comm a b).trans (min_def_lt b a) |>.symm

theorem greater_real (a b : ℝ) : greater a b = max a b := (max_def_lt a b).symm

section Emitting

variable {place : ℤ → Except String (Node ℝ)} {skipFlat : Bool} {done kept : List (Piece ℝ)}
  {s s' : Relinking ℝ} {piece p q : Piece ℝ} {ids ids' : Dict (ℤ × ℤ × RoadKey) ℤ}
  {link : Map.RoadLink ℝ} {entry : Piece ℝ × ℕ}

/-- A piece whose ends are at one place. -/
def Flat (place : ℤ → Except String (Node ℝ)) (left right : ℤ) : Prop :=
  ∃ a b, place left = .ok a ∧ place right = .ok b ∧ Scalar.dist a.point b.point ≤ 0

theorem Flat.symm {left right : ℤ} (h : Flat place left right) : Flat place right left := by
  obtain ⟨a, b, at_left, at_right, flat⟩ := h
  exact ⟨b, a, at_right, at_left, dist_comm a.point b.point ▸ flat⟩

structure Made (place : ℤ → Except String (Node ℝ)) (ids : Dict (ℤ × ℤ × RoadKey) ℤ)
    (entry : Piece ℝ × ℕ) (link : Map.RoadLink ℝ) : Prop where
  link_id : link.linkId = entry.2
  src : link.srcNodeId = entry.1.left
  dst : link.dstNodeId = entry.1.right
  road_class : link.roadClass = entry.1.link.roadClass
  bridge : link.bridgeGroupId = entry.1.link.bridgeGroupId
  road_id : ∃ roadId, link.physicalRoadId = some roadId ∧ ids.get entry.1.physicalKey = some roadId
  length : ∃ a b, place entry.1.left = .ok a ∧ place entry.1.right = .ok b ∧
    link.lengthM = Scalar.dist a.point b.point

theorem Made.mono (h : Made place ids entry link)
    (grown : ∀ key id, ids.get key = some id → ids'.get key = some id) :
    Made place ids' entry link :=
  { h with
    road_id := by
      obtain ⟨roadId, named, known⟩ := h.road_id
      exact ⟨roadId, named, grown _ _ known⟩ }

/-- What has been made of the pieces seen so far: those kept have a link each,
and every other one has the key of a kept one or no length. -/
structure Emits (place : ℤ → Except String (Node ℝ)) (skipFlat : Bool) (done kept : List (Piece ℝ))
    (s : Relinking ℝ) : Prop where
  keys : (kept.map Piece.directedKey).Nodup
  sound : ∀ p ∈ kept, p ∈ done
  seen : ∀ key, key ∈ s.seenDirected ↔ key ∈ done.map Piece.directedKey
  covered : ∀ p ∈ done, p.directedKey ∈ kept.map Piece.directedKey ∨
    skipFlat = true ∧ Flat place p.left p.right
  made : List.Forall₂ (Made place s.physicalIdByKey) kept.zipIdx s.outputLinks
  provenance : s.outputProvenance = kept.zipIdx.map fun entry => ((entry.2 : ℤ), entry.1.streetId)
  numbered : Dict.Numbered s.physicalIdByKey

theorem emits_nil : Emits place skipFlat [] [] {} where
  keys := List.nodup_nil
  sound _ none := by cases none
  seen _ := Iff.rfl
  covered _ none := by cases none
  made := .nil
  provenance := rfl
  numbered := Dict.Numbered.nil

theorem Emits.links_length (h : Emits place skipFlat done kept s) :
    s.outputLinks.length = kept.length := by
  rw [← h.made.length_eq, List.length_zipIdx]

theorem Emits.street_at (h : Emits place skipFlat done kept s) (i : ℕ) :
    s.outputProvenance.get (i : ℤ) = (kept[i]?).map Piece.streetId := by
  have keys : (s.outputProvenance.map Prod.fst).Nodup := by
    have split : s.outputProvenance.map Prod.fst = (List.range kept.length).map Int.ofNat := by
      rw [h.provenance, List.map_map, ← zip_idx_numbers]
      rfl
    rw [split]
    exact List.nodup_range.map Int.ofNat_injective
  ext streetId
  rw [Dict.get_eq_some_iff keys, h.provenance, List.mem_map, Option.map_eq_some_iff]
  constructor
  · rintro ⟨⟨piece, j⟩, listed, same⟩
    obtain ⟨index, rfl⟩ := Prod.mk.inj same
    obtain rfl := Int.ofNat.inj index
    exact ⟨piece, List.mk_mem_zipIdx_iff_getElem?.mp listed, rfl⟩
  · rintro ⟨piece, found, rfl⟩
    exact ⟨(piece, i), List.mk_mem_zipIdx_iff_getElem?.mpr found, rfl⟩

theorem same_ends (same : p.directedKey = q.directedKey) :
    p.left = q.left ∧ p.right = q.right ∧ p.roadKey = q.roadKey := by
  obtain ⟨left, rest⟩ := Prod.mk.inj same
  exact ⟨left, Prod.mk.inj rest⟩

theorem Emits.skip (h : Emits place skipFlat done kept s) (ids : Dict (ℤ × ℤ × RoadKey) ℤ)
    (seen : List (ℤ × ℤ × RoadKey)) (numbered : Dict.Numbered ids)
    (grown : ∀ key id, s.physicalIdByKey.get key = some id → ids.get key = some id)
    (lists : ∀ key, key ∈ seen ↔ key ∈ s.seenDirected ∨ key = p.directedKey)
    (covered : p.directedKey ∈ kept.map Piece.directedKey ∨
      skipFlat = true ∧ Flat place p.left p.right) :
    Emits place skipFlat (done ++ [p]) kept
      { s with physicalIdByKey := ids, seenDirected := seen } where
  keys := h.keys
  sound q mem := List.mem_append_left _ (h.sound q mem)
  seen key := by
    rw [lists, h.seen, List.map_append, List.mem_append, List.map_singleton, List.mem_singleton]
  covered q mem := by
    rcases List.mem_append.mp mem with old | new
    · exact h.covered q old
    · exact List.mem_singleton.mp new ▸ covered
  made := h.made.imp fun _ _ made => made.mono grown
  provenance := h.provenance
  numbered := numbered

theorem Emits.add (h : Emits place skipFlat done kept s)
    (run : addDirected place skipFlat s p = .ok s') :
    ∃ kept', Emits place skipFlat (done ++ [p]) kept' s' := by
  have numbered : Dict.Numbered
      (s.physicalIdByKey.setDefault p.physicalKey s.physicalIdByKey.length) :=
    h.numbered.set_default
  have grown : ∀ key id, s.physicalIdByKey.get key = some id →
      (s.physicalIdByKey.setDefault p.physicalKey s.physicalIdByKey.length).get key = some id :=
    fun _ _ known => Dict.get_set_default known
  unfold addDirected at run
  simp only at run
  split at run
  · rename_i repeated
    obtain rfl := pure_ok.mp run
    refine ⟨kept, h.skip _ s.seenDirected numbered grown ?_ ?_⟩
    · intro key
      refine ⟨.inl, ?_⟩
      rintro (old | rfl)
      · exact old
      · exact repeated
    · -- the piece seen before has the same ends
      obtain ⟨q, mem, same⟩ := List.mem_map.mp ((h.seen _).mp repeated)
      obtain ⟨left, right, -⟩ := same_ends same
      rw [← same, ← left, ← right]
      exact h.covered q mem
  · rename_i fresh
    obtain ⟨a, at_left, run⟩ := bind_ok.mp run
    obtain ⟨b, at_right, run⟩ := bind_ok.mp run
    have lists : ∀ key, key ∈ s.seenDirected ++ [p.directedKey] ↔
        key ∈ s.seenDirected ∨ key = p.directedKey := by
      intro key
      rw [List.mem_append, List.mem_singleton]
    split at run
    · rename_i flat
      obtain rfl := pure_ok.mp run
      exact ⟨kept, h.skip _ _ numbered grown lists
        (.inr ⟨flat.1, a, b, at_left, at_right, flat.2⟩)⟩
    · obtain ⟨link, built, run⟩ := bind_ok.mp run
      obtain rfl := pure_ok.mp run
      have fields := Map.RoadLink.build_ok built
      have new : p.directedKey ∉ kept.map Piece.directedKey := by
        intro mem
        obtain ⟨q, old, same⟩ := List.mem_map.mp mem
        exact fresh ((h.seen _).mpr (List.mem_map.mpr ⟨q, h.sound q old, same⟩))
      refine ⟨kept ++ [p], ?_⟩
      exact {
        keys := by
          rw [List.map_append, List.map_singleton]
          exact h.keys.append (List.nodup_singleton _) (by simpa using new)
        sound := fun q mem => by
          rcases List.mem_append.mp mem with old | last
          · exact List.mem_append_left _ (h.sound q old)
          · exact List.mem_append_right _ last
        seen := fun key => by
          rw [lists, h.seen, List.map_append, List.mem_append, List.map_singleton,
            List.mem_singleton]
        covered := fun q mem => by
          rw [List.map_append, List.mem_append, List.map_singleton, List.mem_singleton]
          rcases List.mem_append.mp mem with old | last
          · exact (h.covered q old).imp_left .inl
          · exact .inl (.inr (congrArg Piece.directedKey (List.mem_singleton.mp last)))
        made := by
          rw [zip_idx_snoc]
          refine List.rel_append (h.made.imp fun _ _ made => made.mono grown) (.cons ?_ .nil)
          exact {
            link_id := by rw [fields, ← h.links_length]
            src := by rw [fields]
            dst := by rw [fields]
            road_class := by rw [fields]
            bridge := by rw [fields]
            road_id := ⟨_, by rw [fields], Dict.get_set_default_self⟩
            length := ⟨a, b, at_left, at_right, by rw [fields]⟩ }
        provenance := by
          have absent : s.outputProvenance.get (s.outputLinks.length : ℤ) = none := by
            rw [h.street_at, h.links_length, List.getElem?_length]
            rfl
          rw [zip_idx_snoc, List.map_append, ← h.provenance, List.map_singleton,
            Dict.set_of_get_none absent, h.links_length]
        numbered := numbered }

theorem Emits.add_total (h : Emits place skipFlat done kept s) {a b : Node ℝ}
    (at_left : place p.left = .ok a) (at_right : place p.right = .ok b) (other : p.left ≠ p.right)
    (apart : a.point ≠ b.point) : ∃ s', addDirected place skipFlat s p = .ok s' := by
  have long : ¬ Scalar.dist a.point b.point ≤ 0 := not_le.mpr (Scalar.dist_pos apart)
  have road : 0 ≤ (s.physicalIdByKey.get p.physicalKey).getD s.physicalIdByKey.length := by
    cases known : s.physicalIdByKey.get p.physicalKey with
    | none => exact Int.natCast_nonneg _
    | some roadId => exact (h.numbered.bound known).1
  unfold addDirected
  simp only
  split
  · exact ⟨_, rfl⟩
  · rw [at_left, at_right, ok_bind, ok_bind, if_neg fun flat => long flat.2]
    have made : ∃ link, Map.RoadLink.build { p.link.toRoadLinkFields with
        linkId := s.outputLinks.length
        srcNodeId := p.left
        dstNodeId := p.right
        lengthM := Scalar.dist a.point b.point
        physicalRoadId := some ((s.physicalIdByKey.get p.physicalKey).getD s.physicalIdByKey.length)
        rampPurpose := none } = .ok link := by
      refine (Map.RoadLink.build_total ?_ ?_ ?_ ?_ ?_ ?_ ?_ ?_).imp fun _ built => built.1
      · exact other
      · exact long
      · exact p.link.speed_pos
      · exact p.link.capacity_nonneg
      · exact p.link.lanes_pos
      · exact p.link.bridge_grouped
      · exact fun id given => Option.some.inj given ▸ road
      · exact fun typed => absurd rfl typed
    obtain ⟨link, built⟩ := made
    rw [built]
    exact ⟨_, rfl⟩

theorem Emits.link_at (h : Emits place skipFlat done kept s) {i : ℕ} (found : kept[i]? = some p) :
    ∃ link, s.outputLinks[i]? = some link ∧ Made place s.physicalIdByKey (p, i) link :=
  paired_at h.made (zip_idx_at found)

theorem Emits.piece_at (h : Emits place skipFlat done kept s) {i : ℕ}
    (found : s.outputLinks[i]? = some link) :
    ∃ p, kept[i]? = some p ∧ Made place s.physicalIdByKey (p, i) link := by
  obtain ⟨entry, at_i, made⟩ := paired_at h.made.flip found
  obtain ⟨here, number⟩ := of_zip_idx_at at_i
  exact ⟨entry.1, here, number ▸ made⟩

theorem Emits.links_nodup (h : Emits place skipFlat done kept s) : s.outputLinks.Nodup := by
  have ids : s.outputLinks.map (·.linkId) = (List.range kept.length).map Int.ofNat := by
    rw [← paired_map_eq (f := fun entry => (entry.2 : ℤ)) h.made fun _ _ made => made.link_id.symm,
      zip_idx_numbers]
  have distinct : (s.outputLinks.map (·.linkId)).Nodup := by
    rw [ids]
    exact List.nodup_range.map Int.ofNat_injective
  exact distinct.of_map _

theorem Emits.index_unique (h : Emits place skipFlat done kept s) {i j : ℕ}
    (found : kept[i]? = some p) (found' : kept[j]? = some q)
    (same : p.directedKey = q.directedKey) : i = j := by
  have at_i : (kept.map Piece.directedKey)[i]? = some p.directedKey := by
    rw [List.getElem?_map, found]
    rfl
  have at_j : (kept.map Piece.directedKey)[j]? = some p.directedKey := by
    rw [List.getElem?_map, found', same]
    rfl
  exact (List.getElem?_inj (List.getElem?_eq_some_iff.mp at_i).1 h.keys).mp (at_i.trans at_j.symm)

theorem physical_key_cases (same : p.physicalKey = q.physicalKey) :
    p.directedKey = q.directedKey ∨
      p.left = q.right ∧ p.right = q.left ∧ p.roadKey = q.roadKey := by
  obtain ⟨low, rest⟩ := Prod.mk.inj same
  obtain ⟨high, road⟩ := Prod.mk.inj rest
  have ends : p.left = q.left ∧ p.right = q.right ∨ p.left = q.right ∧ p.right = q.left := by
    omega
  rcases ends with ⟨left, right⟩ | ⟨left, right⟩
  · exact .inl (Prod.ext left (Prod.ext right road))
  · exact .inr ⟨left, right, road⟩

theorem physical_key_swap (left : q.left = p.right) (right : q.right = p.left)
    (road : q.roadKey = p.roadKey) : q.physicalKey = p.physicalKey := by
  unfold Piece.physicalKey
  rw [left, right, road, min_comm, max_comm]

theorem Made.even {other : Map.RoadLink ℝ} {i j : ℕ} (made : Made place ids (p, i) link)
    (made' : Made place ids (q, j) other) (same : p.physicalKey = q.physicalKey) :
    link.lengthM = other.lengthM := by
  obtain ⟨a, b, at_left, at_right, length⟩ := made.length
  obtain ⟨a', b', at_left', at_right', length'⟩ := made'.length
  simp only at at_left at_right at_left' at_right'
  rcases physical_key_cases same with directed | ⟨left, right, -⟩
  · obtain ⟨left, right, -⟩ := same_ends directed
    rw [left] at at_left
    rw [right] at at_right
    rw [length, length', Except.ok.inj (at_left.symm.trans at_left'),
      Except.ok.inj (at_right.symm.trans at_right')]
  · rw [left] at at_left
    rw [right] at at_right
    rw [length, length', Except.ok.inj (at_left.symm.trans at_right'),
      Except.ok.inj (at_right.symm.trans at_left'), dist_comm]

theorem Made.same_key {other : Map.RoadLink ℝ} {i j : ℕ} (made : Made place ids (p, i) link)
    (made' : Made place ids (q, j) other) (numbered : Dict.Numbered ids)
    (same : link.physicalRoadId = other.physicalRoadId) : p.physicalKey = q.physicalKey := by
  obtain ⟨roadId, named, known⟩ := made.road_id
  obtain ⟨roadId', named', known'⟩ := made'.road_id
  obtain rfl := Option.some.inj (named.symm.trans (same.trans named'))
  exact numbered.injective known known'

theorem Emits.even_lengths (h : Emits place skipFlat done kept s) : EvenLengths s.outputLinks := by
  intro a a_mem b b_mem same
  obtain ⟨i, at_i⟩ := List.mem_iff_getElem?.mp a_mem
  obtain ⟨j, at_j⟩ := List.mem_iff_getElem?.mp b_mem
  obtain ⟨p, -, made⟩ := h.piece_at at_i
  obtain ⟨q, -, made'⟩ := h.piece_at at_j
  exact made.even made' (made.same_key made' h.numbered same)

theorem Emits.two_way (h : Emits place skipFlat done kept s)
    (mirror : ∀ p ∈ done, ∃ q ∈ done, q.left = p.right ∧ q.right = p.left ∧
      q.roadKey = p.roadKey) : TwoWay s.outputProvenance s.outputLinks := by
  intro link listed
  obtain ⟨i, at_i⟩ := List.mem_iff_getElem?.mp listed
  obtain ⟨p, found, made⟩ := h.piece_at at_i
  obtain ⟨q, mem, left, right, road⟩ := mirror p (h.sound p (List.mem_of_getElem? found))
  have long : ¬ Flat place q.left q.right := by
    rintro flat
    rw [left, right] at flat
    obtain ⟨a, b, at_left, at_right, flat⟩ := flat.symm
    obtain ⟨a', b', at_left', at_right', length⟩ := made.length
    rw [Except.ok.inj (at_left.symm.trans at_left'),
      Except.ok.inj (at_right.symm.trans at_right'), ← length] at flat
    exact link.length_pos flat
  obtain ⟨r, r_mem, same⟩ := List.mem_map.mp
    ((h.covered q mem).resolve_right fun other => long other.2)
  obtain ⟨j, found'⟩ := List.mem_iff_getElem?.mp r_mem
  obtain ⟨back, at_j, made'⟩ := h.link_at found'
  obtain ⟨r_left, r_right, r_road⟩ := same_ends same
  have ends_back : r.left = p.right ∧ r.right = p.left ∧ r.roadKey = p.roadKey :=
    ⟨r_left.trans left, r_right.trans right, r_road.trans road⟩
  have keys : r.physicalKey = p.physicalKey :=
    physical_key_swap ends_back.1 ends_back.2.1 ends_back.2.2
  obtain ⟨roadId, named, known⟩ := made.road_id
  obtain ⟨roadId', named', known'⟩ := made'.road_id
  have same_road : roadId' = roadId := by
    rw [keys] at known'
    exact Option.some.inj (known'.symm.trans known)
  subst same_road
  obtain ⟨street, road_class, bridge⟩ : r.streetId = p.streetId ∧
      r.link.roadClass = p.link.roadClass ∧ r.link.bridgeGroupId = p.link.bridgeGroupId := by
    obtain ⟨street, rest⟩ := Prod.mk.inj ends_back.2.2
    exact ⟨street, Prod.mk.inj rest⟩
  refine ⟨roadId', back, named, ?_, ?_⟩
  · have apart : link ≠ back := by
      rintro rfl
      exact link.ends_differ (made.src.trans (ends_back.2.1.symm.trans made'.dst.symm))
    refine (List.perm_ext_iff_of_nodup (h.links_nodup.filter _) (by simpa using apart)).mpr ?_
    intro other
    rw [List.mem_filter, decide_eq_true_eq, List.mem_pair]
    constructor
    · rintro ⟨mem', named''⟩
      obtain ⟨k, at_k⟩ := List.mem_iff_getElem?.mp mem'
      obtain ⟨t, found'', made''⟩ := h.piece_at at_k
      have key := made''.same_key made h.numbered (named''.trans named.symm)
      rcases physical_key_cases key with directed | ⟨t_left, t_right, t_road⟩
      · rw [h.index_unique found'' found directed, at_i] at at_k
        exact .inl (Option.some.inj at_k).symm
      · have directed : t.directedKey = r.directedKey :=
          Prod.ext (t_left.trans ends_back.1.symm)
            (Prod.ext (t_right.trans ends_back.2.1.symm) (t_road.trans ends_back.2.2.symm))
        rw [h.index_unique found'' found' directed, at_j] at at_k
        exact .inr (Option.some.inj at_k).symm
    · rintro (rfl | rfl)
      · exact ⟨listed, named⟩
      · exact ⟨List.mem_of_getElem? at_j, named'⟩
  · exact {
      src := made'.src.trans (ends_back.1.trans made.dst.symm)
      dst := made'.dst.trans (ends_back.2.1.trans made.src.symm)
      road_class := made'.road_class.trans (road_class.trans made.road_class.symm)
      bridge := made'.bridge.trans (bridge.trans made.bridge.symm)
      street := by
        rw [made'.link_id, made.link_id, h.street_at, h.street_at, found, found', Option.map_some,
          Option.map_some, street] }

theorem Emits.mirror (h : Emits place skipFlat done kept s)
    (two_way : TwoWay s.outputProvenance s.outputLinks) (mem : p ∈ done)
    (long : skipFlat = true → ¬ Flat place p.left p.right) :
    ∃ q ∈ done, q.left = p.right ∧ q.right = p.left ∧ q.roadKey = p.roadKey := by
  obtain ⟨r, r_mem, same⟩ := List.mem_map.mp
    ((h.covered p mem).resolve_right fun other => long other.1 other.2)
  obtain ⟨left, right, road⟩ := same_ends same
  obtain ⟨i, found⟩ := List.mem_iff_getElem?.mp r_mem
  obtain ⟨link, at_i, made⟩ := h.link_at found
  obtain ⟨back, back_mem, opposite⟩ := two_way.back (List.mem_of_getElem? at_i)
  obtain ⟨j, at_j⟩ := List.mem_iff_getElem?.mp back_mem
  obtain ⟨q, found', made'⟩ := h.piece_at at_j
  have street : q.streetId = r.streetId := by
    have streets := opposite.street
    rw [made'.link_id, made.link_id, h.street_at, h.street_at, found, found'] at streets
    exact Option.some.inj streets
  refine ⟨q, h.sound q (List.mem_of_getElem? found'), ?_, ?_, ?_⟩
  · exact made'.src.symm.trans (opposite.src.trans (made.dst.trans right))
  · exact made'.dst.symm.trans (opposite.dst.trans (made.src.trans left))
  · refine Eq.trans (b := r.roadKey) (Prod.ext street (Prod.ext ?_ ?_)) road
    · exact made'.road_class.symm.trans (opposite.road_class.trans made.road_class)
    · exact made'.bridge.symm.trans (opposite.bridge.trans made.bridge)

theorem Emits.reaches (h : Emits place skipFlat done kept s) (mem : p ∈ done)
    (long : skipFlat = true → ¬ Flat place p.left p.right) :
    ∃ link ∈ s.outputLinks, link.srcNodeId = p.left ∧ link.dstNodeId = p.right := by
  obtain ⟨r, r_mem, same⟩ := List.mem_map.mp
    ((h.covered p mem).resolve_right fun other => long other.1 other.2)
  obtain ⟨i, found⟩ := List.mem_iff_getElem?.mp r_mem
  obtain ⟨link, at_i, made⟩ := h.link_at found
  obtain ⟨left, right, -⟩ := same_ends same
  exact ⟨link, List.mem_of_getElem? at_i, made.src.trans left, made.dst.trans right⟩

end Emitting

theorem entry_ok {κ α : Type} [DecidableEq κ] [ToString κ] {d : Dict κ α} {key : κ} {value : α} :
    entry d key = .ok value ↔ d.get key = some value := by
  unfold entry
  split <;> simp_all

section Moving

variable {nodes : Renumbering ℝ} {graph out : StreetGraph ℝ} {street : Dict ℤ ℤ}
  {link : Map.RoadLink ℝ} {done kept : List (Piece ℝ)} {s s' : Relinking ℝ} {u v : ℤ}

def Renumbering.image (nodes : Renumbering ℝ) (nodeId : ℤ) : ℤ :=
  (nodes.oldToNewNodeId.get nodeId).getD nodeId

/-- What a link becomes when its nodes move, unless its ends become one node. -/
def movedPiece (nodes : Renumbering ℝ) (street : Dict ℤ ℤ) (link : Map.RoadLink ℝ) :
    Option (Piece ℝ) :=
  match nodes.oldToNewNodeId.get link.srcNodeId, nodes.oldToNewNodeId.get link.dstNodeId,
    street.get link.linkId with
  | some src, some dst, some streetId => if src = dst then none else some ⟨link, streetId, src, dst⟩
  | _, _, _ => none

theorem moved_piece_some {p : Piece ℝ} : movedPiece nodes street link = some p ↔
    p.link = link ∧ nodes.oldToNewNodeId.get link.srcNodeId = some p.left ∧
    nodes.oldToNewNodeId.get link.dstNodeId = some p.right ∧
    street.get link.linkId = some p.streetId ∧ p.left ≠ p.right := by
  unfold movedPiece
  constructor
  · intro made
    split at made
    · rename_i src dst streetId at_src at_dst named
      split at made
      · cases made
      · rename_i apart
        obtain rfl := Option.some.inj made
        exact ⟨rfl, at_src, at_dst, named, apart⟩
    · cases made
  · rintro ⟨rfl, at_src, at_dst, named, apart⟩
    rw [at_src, at_dst, named]
    exact if_neg apart

/-- The ends of a link have moved, to one node or to the ends of its piece. -/
structure Follows (nodes : Renumbering ℝ) (street : Dict ℤ ℤ) (link : Map.RoadLink ℝ) : Prop where
  src : nodes.oldToNewNodeId.get link.srcNodeId = some (nodes.image link.srcNodeId)
  dst : nodes.oldToNewNodeId.get link.dstNodeId = some (nodes.image link.dstNodeId)
  street : nodes.image link.srcNodeId = nodes.image link.dstNodeId ∨
    ∃ streetId, street.get link.linkId = some streetId

theorem move_link_ok (h : Emits (nodeAt nodes.outputNodes) true done kept s)
    (run : moveLink nodes street s link = .ok s') :
    (∃ kept', Emits (nodeAt nodes.outputNodes) true
      (done ++ (movedPiece nodes street link).toList) kept' s') ∧ Follows nodes street link := by
  obtain ⟨src, at_src, run⟩ := bind_ok.mp run
  obtain ⟨dst, at_dst, run⟩ := bind_ok.mp run
  rw [entry_ok] at at_src at_dst
  have src_image : nodes.image link.srcNodeId = src := by rw [Renumbering.image, at_src]; rfl
  have dst_image : nodes.image link.dstNodeId = dst := by rw [Renumbering.image, at_dst]; rfl
  split at run
  · rename_i met
    obtain rfl := pure_ok.mp run
    have gone : movedPiece nodes street link = none := by
      rw [Option.eq_none_iff_forall_ne_some]
      rintro p made
      obtain ⟨-, left, right, -, apart⟩ := moved_piece_some.mp made
      rw [at_src] at left
      rw [at_dst] at right
      exact apart (Option.some.inj (left.symm.trans (met ▸ right)))
    refine ⟨⟨kept, ?_⟩, src_image ▸ at_src, dst_image ▸ at_dst, .inl ?_⟩
    · rw [gone, Option.toList_none, List.append_nil]
      exact h
    · rw [src_image, dst_image, met]
  · rename_i apart
    obtain ⟨streetId, named, run⟩ := bind_ok.mp run
    rw [entry_ok] at named
    have made : movedPiece nodes street link = some ⟨link, streetId, src, dst⟩ :=
      moved_piece_some.mpr ⟨rfl, at_src, at_dst, named, apart⟩
    refine ⟨?_, src_image ▸ at_src, dst_image ▸ at_dst, .inr ⟨streetId, named⟩⟩
    rw [made]
    exact h.add run

/-- What moving the links comes to: two-way roads stay two-way, and a link still
joins what it joined unless both its ends came to one place. -/
structure Moved (nodes : Renumbering ℝ) (graph out : StreetGraph ℝ) : Prop where
  nodes_eq : out.nodes = nodes.outputNodes
  two_way : TwoWay graph.linkToStreetId graph.links → TwoWay out.linkToStreetId out.links
  even : EvenLengths out.links
  follows : ∀ link ∈ graph.links, Follows nodes graph.linkToStreetId link
  reaches : ∀ link ∈ graph.links,
    ¬ Flat (nodeAt nodes.outputNodes) (nodes.image link.srcNodeId) (nodes.image link.dstNodeId) →
    nodes.image link.srcNodeId = nodes.image link.dstNodeId ∨
      ∃ made ∈ out.links, made.srcNodeId = nodes.image link.srcNodeId ∧
        made.dstNodeId = nodes.image link.dstNodeId

theorem move_links_ok (run : moveLinks nodes graph = .ok out) : Moved nodes graph out := by
  obtain ⟨s, looped, run⟩ := bind_ok.mp run
  obtain rfl := pure_ok.mp run
  obtain ⟨⟨kept, emits⟩, follows⟩ := fold_progress (I := fun past s =>
      (∃ kept, Emits (nodeAt nodes.outputNodes) true
        (past.filterMap (movedPiece nodes graph.linkToStreetId)) kept s) ∧
      ∀ link ∈ past, Follows nodes graph.linkToStreetId link)
    (fun past link rest s s' _ held step => by
      obtain ⟨⟨kept, emits⟩, follows⟩ := held
      obtain ⟨added, here⟩ := move_link_ok emits step
      refine ⟨?_, fun other mem => ?_⟩
      · have split : [link].filterMap (movedPiece nodes graph.linkToStreetId) =
            (movedPiece nodes graph.linkToStreetId link).toList := by
          cases found : movedPiece nodes graph.linkToStreetId link <;> simp [found]
        rw [List.filterMap_append, split]
        exact added
      · rcases List.mem_append.mp mem with old | last
        · exact follows other old
        · exact List.mem_singleton.mp last ▸ here)
    ⟨⟨[], emits_nil⟩, fun _ none => by cases none⟩ looped
  have known : ∀ link ∈ graph.links, Follows nodes graph.linkToStreetId link :=
    fun link mem => follows link (mem_sort_on.mpr mem)
  refine ⟨rfl, fun two => emits.two_way ?_, emits.even_lengths, known, fun link mem long => ?_⟩
  · intro p made
    obtain ⟨link, mem, moved⟩ := List.mem_filterMap.mp made
    obtain ⟨rfl, left, right, named, apart⟩ := moved_piece_some.mp moved
    obtain ⟨back, back_mem, opposite⟩ := two.back (mem_sort_on.mp mem)
    refine ⟨⟨back, p.streetId, p.right, p.left⟩, ?_, rfl, rfl, ?_⟩
    · refine List.mem_filterMap.mpr ⟨back, mem_sort_on.mpr back_mem, ?_⟩
      exact moved_piece_some.mpr ⟨rfl, opposite.src ▸ right, opposite.dst ▸ left,
        opposite.street ▸ named, apart.symm⟩
    · exact Prod.ext rfl (Prod.ext opposite.road_class opposite.bridge)
  · have here := known link mem
    rcases here.street with met | ⟨streetId, named⟩
    · exact .inl met
    · by_cases met : nodes.image link.srcNodeId = nodes.image link.dstNodeId
      · exact .inl met
      · have moved : movedPiece nodes graph.linkToStreetId link =
            some ⟨link, streetId, nodes.image link.srcNodeId, nodes.image link.dstNodeId⟩ :=
          moved_piece_some.mpr ⟨rfl, here.src, here.dst, named, met⟩
        exact .inr (emits.reaches
          (List.mem_filterMap.mpr ⟨link, mem_sort_on.mpr mem, moved⟩) fun _ => long)

theorem Moved.joined (h : Moved nodes graph out) (long : ∀ link ∈ graph.links,
      nodes.image link.srcNodeId ≠ nodes.image link.dstNodeId →
      ¬ Flat (nodeAt nodes.outputNodes) (nodes.image link.srcNodeId) (nodes.image link.dstNodeId))
    (path : Joined graph.links u v) : Joined out.links (nodes.image u) (nodes.image v) := by
  induction path with
  | refl => exact .refl
  | tail _ step ih =>
    obtain ⟨link, mem, rfl, rfl⟩ := step
    by_cases met : nodes.image link.srcNodeId = nodes.image link.dstNodeId
    · exact met ▸ ih
    · exact ih.tail ((h.reaches link mem (long link mem met)).resolve_left met)

end Moving

section Keeping

variable {street : Dict ℤ ℤ} {links : List (Map.RoadLink ℝ)} {graph mid out : StreetGraph ℝ}
  {image image' : ℤ → ℤ} {u v : ℤ}

/-- Every node can be reached from every other, and no two nodes share an id. -/
structure Connected (graph : StreetGraph ℝ) : Prop where
  distinct : (graph.nodes.map (·.nodeId)).Nodup
  joined : ∀ a ∈ graph.nodes, ∀ b ∈ graph.nodes, Joined graph.links a.nodeId b.nodeId

/-- What a step of the normalization does to the streets: roads are two-way and
even after it, and what was joined is joined, where the nodes went. -/
structure Keeps (image : ℤ → ℤ) (graph out : StreetGraph ℝ) : Prop where
  two_way : TwoWay out.linkToStreetId out.links
  even : EvenLengths out.links
  joined : ∀ u v, Joined graph.links u v → Joined out.links (image u) (image v)
  connected : Connected graph → Connected out
  lengths : ∃ lengths, physicalSegmentLengths out.links = .ok lengths

theorem add_length_ok {lengths : Dict ℤ ℝ} {link : Map.RoadLink ℝ} {roadId : ℤ}
    (named : link.physicalRoadId = some roadId)
    (agree : (lengths.get roadId).getD link.lengthM = link.lengthM) :
    addLength lengths link = .ok (lengths.setDefault roadId link.lengthM) := by
  unfold addLength
  rw [named]
  simp only [agree]
  rw [if_pos]
  have zero : Scalar.abs (link.lengthM - link.lengthM) = 0 := by simp [Scalar.abs]
  have small : (0 : ℝ) ≤ Scalar.ofInt 1 / Scalar.ofInt 1000000 := by simp [Scalar.ofInt]
  rw [zero, greater_real]
  exact small.trans (le_max_right _ _)

theorem physical_segment_lengths_ok (two_way : TwoWay street links) (even : EvenLengths links) :
    ∃ lengths, physicalSegmentLengths links = .ok lengths := by
  obtain ⟨lengths, run, -⟩ := fold_total (f := addLength) (l := links) (s := [])
    (I := fun past (lengths : Dict ℤ ℝ) => ∀ roadId length, lengths.get roadId = some length →
      ∃ link ∈ past, link.physicalRoadId = some roadId ∧ link.lengthM = length)
    (fun past link rest lengths split known => by
      have listed : link ∈ links := split ▸ List.mem_append_right _ List.mem_cons_self
      obtain ⟨roadId, -, named, -⟩ := two_way link listed
      refine ⟨_, add_length_ok named ?_, fun other length found => ?_⟩
      · cases found : lengths.get roadId with
        | none => rfl
        | some length =>
          obtain ⟨other, mem, named', rfl⟩ := known roadId length found
          exact even other (split ▸ List.mem_append_left _ mem) link listed
            (named'.trans named.symm)
      · have earlier : lengths.get other = some length →
            ∃ link' ∈ past ++ [link], link'.physicalRoadId = some other ∧
              link'.lengthM = length := by
          intro found
          obtain ⟨link', mem, rest⟩ := known other length found
          exact ⟨link', List.mem_append_left _ mem, rest⟩
        unfold Dict.setDefault at found
        split at found
        · exact earlier found
        · rw [Dict.get_set] at found
          split at found
          · rename_i here
            exact ⟨link, List.mem_append_right _ (List.mem_singleton_self _), here ▸ named,
              Option.some.inj found⟩
          · exact earlier found)
    (fun _ _ none => by cases none)
  unfold physicalSegmentLengths
  rw [run]
  exact ⟨_, rfl⟩

theorem Keeps.trans (first : Keeps image graph mid) (second : Keeps image' mid out) :
    Keeps (image' ∘ image) graph out where
  two_way := second.two_way
  even := second.even
  joined u v path := second.joined _ _ (first.joined u v path)
  connected whole := second.connected (first.connected whole)
  lengths := second.lengths

end Keeping

end Metroflow.City.Planar
