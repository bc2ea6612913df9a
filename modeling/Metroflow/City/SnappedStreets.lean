import Metroflow.City.TwoWayStreets

namespace Metroflow.City.Planar

open Metroflow.Lib Metroflow.Map

section Renumbering

variable {nodes : Renumbering ℝ} {past : List (Node ℝ)} {node : Node ℝ} {graph out : StreetGraph ℝ}
  {outputs : List (Node ℝ)} {i j image : ℤ}

theorem node_at_ok : nodeAt outputs i = .ok node ↔ outputs[i.toNat]? = some node := by
  unfold nodeAt
  split <;> simp_all

theorem move_links_total (each : ∀ link ∈ graph.links, ∃ src dst streetId a b,
      nodes.oldToNewNodeId.get link.srcNodeId = some src ∧
      nodes.oldToNewNodeId.get link.dstNodeId = some dst ∧ src ≠ dst ∧
      graph.linkToStreetId.get link.linkId = some streetId ∧
      nodeAt nodes.outputNodes src = .ok a ∧ nodeAt nodes.outputNodes dst = .ok b ∧
      a.point ≠ b.point) :
    ∃ out, moveLinks nodes graph = .ok out := by
  obtain ⟨s, looped, -⟩ := fold_total (f := moveLink nodes graph.linkToStreetId)
    (l := sortOn (fun link => link.linkId) graph.links) (s := {})
    (I := fun _ s => ∃ done kept, Emits (nodeAt nodes.outputNodes) true done kept s)
    (fun past link rest s split held => by
      obtain ⟨done, kept, emits⟩ := held
      have mem : link ∈ sortOn (fun link => link.linkId) graph.links :=
        split ▸ List.mem_append_right _ List.mem_cons_self
      obtain ⟨src, dst, streetId, a, b, at_src, at_dst, other, named, at_left, at_right, apart⟩ :=
        each link (mem_sort_on.mp mem)
      obtain ⟨s', run⟩ := Emits.add_total (p := ⟨link, streetId, src, dst⟩) emits at_left at_right
        other apart
      refine ⟨s', ?_, _, emits.add run⟩
      unfold moveLink
      simp only [entry_ok.mpr at_src, entry_ok.mpr at_dst, entry_ok.mpr named, ok_bind]
      rw [if_neg other]
      exact run)
    ⟨[], [], emits_nil⟩
  unfold moveLinks
  rw [looped]
  exact ⟨_, rfl⟩

/-- New nodes are numbered by their places, old ones went to one of them, and
nodes with ids of their own leave no new one without an old one. -/
structure Renumbered (nodes : Renumbering ℝ) (past : List (Node ℝ)) : Prop where
  ids : nodes.outputNodes.map (·.nodeId) = (List.range nodes.outputNodes.length).map Int.ofNat
  inside : ∀ nodeId image, nodes.oldToNewNodeId.get nodeId = some image →
    0 ≤ image ∧ image < nodes.outputNodes.length
  onto : (past.map (·.nodeId)).Nodup → ∀ i < nodes.outputNodes.length,
    ∃ old ∈ past, nodes.oldToNewNodeId.get old.nodeId = some (i : ℤ)

theorem renumbered_nil : Renumbered ({} : Renumbering ℝ) [] where
  ids := rfl
  inside _ _ none := by cases none
  onto _ _ none := by cases none

theorem Renumbered.send (h : Renumbered nodes past) (low : 0 ≤ image)
    (high : image < nodes.outputNodes.length) :
    Renumbered { nodes with oldToNewNodeId := nodes.oldToNewNodeId.set node.nodeId image }
      (past ++ [node]) where
  ids := h.ids
  inside nodeId image' sent := by
    rw [Dict.get_set] at sent
    split at sent
    · exact Option.some.inj sent ▸ ⟨low, high⟩
    · exact h.inside nodeId image' sent
  onto distinct i inside := by
    rw [List.map_append, List.nodup_append] at distinct
    obtain ⟨old, mem, sent⟩ := h.onto distinct.1 i inside
    refine ⟨old, List.mem_append_left _ mem, ?_⟩
    rw [Dict.get_set_of_ne]
    · exact sent
    · exact distinct.2.2 _ (List.mem_map_of_mem mem) _ (by simp)

theorem Renumbered.add {new : Node ℝ} (h : Renumbered nodes past)
    (number : new.nodeId = nodes.outputNodes.length) :
    Renumbered
      { outputNodes := nodes.outputNodes ++ [new]
        oldToNewNodeId := nodes.oldToNewNodeId.set node.nodeId nodes.outputNodes.length }
      (past ++ [node]) where
  ids := by
    rw [List.map_append, h.ids, List.length_append, List.length_singleton, List.range_succ,
      List.map_append, List.map_singleton, number]
    rfl
  inside nodeId image sent := by
    rw [Dict.get_set] at sent
    rw [List.length_append, List.length_singleton]
    split at sent
    · obtain rfl := Option.some.inj sent
      omega
    · have := h.inside nodeId image sent
      omega
  onto distinct i inside := by
    rw [List.map_append, List.nodup_append] at distinct
    rw [List.length_append, List.length_singleton] at inside
    by_cases last : i = nodes.outputNodes.length
    · refine ⟨node, List.mem_append_right _ (List.mem_singleton_self _), ?_⟩
      rw [Dict.get_set_self, last]
    · obtain ⟨old, mem, sent⟩ := h.onto distinct.1 i (by omega)
      refine ⟨old, List.mem_append_left _ mem, ?_⟩
      rw [Dict.get_set_of_ne]
      · exact sent
      · exact distinct.2.2 _ (List.mem_map_of_mem mem) _ (by simp)

theorem Moved.connected (h : Moved nodes graph out) (renumbered : Renumbered nodes past)
    (listed : ∀ node ∈ past, node ∈ graph.nodes)
    (distinct : (graph.nodes.map (·.nodeId)).Nodup → (past.map (·.nodeId)).Nodup)
    (joined : ∀ u v, Joined graph.links u v → Joined out.links (nodes.image u) (nodes.image v))
    (whole : Connected graph) : Connected out := by
  have origin : ∀ node ∈ out.nodes, ∃ old ∈ graph.nodes, nodes.image old.nodeId = node.nodeId := by
    intro node mem
    rw [h.nodes_eq] at mem
    have numbered : node.nodeId ∈ (List.range nodes.outputNodes.length).map Int.ofNat :=
      renumbered.ids ▸ List.mem_map_of_mem mem
    obtain ⟨i, inside, number⟩ := List.mem_map.mp numbered
    obtain ⟨old, old_mem, sent⟩ := renumbered.onto (distinct whole.distinct) i
      (List.mem_range.mp inside)
    refine ⟨old, listed old old_mem, ?_⟩
    rw [Renumbering.image, sent, ← number]
    rfl
  refine ⟨?_, fun a a_mem b b_mem => ?_⟩
  · rw [h.nodes_eq, renumbered.ids]
    exact List.nodup_range.map Int.ofNat_injective
  · obtain ⟨old, old_mem, here⟩ := origin a a_mem
    obtain ⟨old', old_mem', there⟩ := origin b b_mem
    rw [← here, ← there]
    exact joined _ _ (whole.joined old old_mem old' old_mem')

theorem Moved.keeps (h : Moved nodes graph out) (renumbered : Renumbered nodes past)
    (listed : ∀ node ∈ past, node ∈ graph.nodes)
    (distinct : (graph.nodes.map (·.nodeId)).Nodup → (past.map (·.nodeId)).Nodup)
    (two_way : TwoWay graph.linkToStreetId graph.links)
    (long : ∀ link ∈ graph.links,
      nodes.image link.srcNodeId ≠ nodes.image link.dstNodeId →
      ¬ Flat (nodeAt nodes.outputNodes) (nodes.image link.srcNodeId)
        (nodes.image link.dstNodeId)) :
    Keeps nodes.image graph out where
  two_way := h.two_way two_way
  even := h.even
  joined _ _ path := h.joined long path
  connected := h.connected renumbered listed distinct fun _ _ path => h.joined long path
  lengths := physical_segment_lengths_ok (h.two_way two_way) h.even

end Renumbering

section Snapping

variable {s : Snapping ℝ} {past : List (Node ℝ)} {node : Node ℝ} {graph out : StreetGraph ℝ}
  {decimalPlaces : ℕ} {i j : ℤ}

/-- The new nodes stand where their keys say, each at a place of its own. -/
structure Snapped (s : Snapping ℝ) (past : List (Node ℝ)) : Prop where
  renumbered : Renumbered s.toRenumbering past
  numbered : Dict.Numbered s.canonicalNodeIdByKey
  points : s.outputNodes.map Node.point = s.canonicalNodeIdByKey.map Prod.fst

theorem snapped_nil : Snapped ({} : Snapping ℝ) [] where
  renumbered := renumbered_nil
  numbered := Dict.Numbered.nil
  points := rfl

theorem Snapped.length (h : Snapped s past) :
    s.outputNodes.length = s.canonicalNodeIdByKey.length := by
  rw [← List.length_map Node.point, h.points, List.length_map]

theorem Snapped.snap_node (h : Snapped s past) :
    Snapped (snapNode decimalPlaces s node) (past ++ [node]) := by
  unfold snapNode
  simp only
  split
  · rename_i canonical known
    have bound := h.numbered.bound known
    exact ⟨h.renumbered.send bound.1 (h.length ▸ bound.2), h.numbered, h.points⟩
  · rename_i absent
    refine ⟨h.renumbered.add rfl, ?_, ?_⟩
    · have grown : Dict.Numbered (s.canonicalNodeIdByKey.setDefault
          (roundTo decimalPlaces node.x, roundTo decimalPlaces node.y)
          s.canonicalNodeIdByKey.length) := h.numbered.set_default
      unfold Dict.setDefault at grown
      rw [absent, ← h.length] at grown
      exact grown
    · rw [Dict.set_of_get_none absent, List.map_append, List.map_append, h.points]
      rfl

theorem snap_nodes_snapped (nodes : List (Node ℝ)) :
    Snapped (snapNodes decimalPlaces nodes) (sortOn (fun node => node.nodeId) nodes) := by
  unfold snapNodes
  induction sortOn (fun node => node.nodeId) nodes using List.reverseRecOn with
  | nil => exact snapped_nil
  | append_singleton past node ih =>
    rw [List.foldl_append]
    exact ih.snap_node

theorem Snapped.apart (h : Snapped s past) (low : 0 ≤ i) (low' : 0 ≤ j) (other : i ≠ j) :
    ¬ Flat (nodeAt s.outputNodes) i j := by
  rintro ⟨a, b, at_i, at_j, flat⟩
  rw [node_at_ok] at at_i at_j
  have same : a.point = b.point := by
    by_contra differ
    exact absurd (Scalar.dist_pos differ) (not_lt.mpr flat)
  have distinct : (s.outputNodes.map Node.point).Nodup := h.points ▸ h.numbered.distinct
  have here : (s.outputNodes.map Node.point)[i.toNat]? = some a.point := by
    rw [List.getElem?_map, at_i]
    rfl
  have there : (s.outputNodes.map Node.point)[j.toNat]? = some a.point := by
    rw [List.getElem?_map, at_j, same]
    rfl
  have index := (List.getElem?_inj (List.getElem?_eq_some_iff.mp here).1 distinct).mp
    (here.trans there.symm)
  omega

theorem snap_pass_keeps (two_way : TwoWay graph.linkToStreetId graph.links)
    (run : snapPass decimalPlaces graph = .ok out) :
    Keeps (snapNodes decimalPlaces graph.nodes).image graph out := by
  have moved := move_links_ok run
  have snapped : Snapped (snapNodes decimalPlaces graph.nodes)
      (sortOn (fun node => node.nodeId) graph.nodes) := snap_nodes_snapped graph.nodes
  refine moved.keeps snapped.renumbered (fun _ => mem_sort_on.mp)
    (sort_on_perm.map _).nodup_iff.mpr two_way fun link mem other => ?_
  have follows := moved.follows link mem
  exact snapped.apart (snapped.renumbered.inside _ _ follows.src).1
    (snapped.renumbered.inside _ _ follows.dst).1 other

theorem snap_keeps {crossings : Crossings ℝ} {remainingPasses : ℕ}
    (two_way : TwoWay graph.linkToStreetId graph.links)
    (clear : ∀ snapped, snapPass decimalPlaces graph = .ok snapped →
      crossings.count snapped.nodes snapped.links = .ok 0)
    (run : snapPlanarGraph crossings decimalPlaces remainingPasses graph = .ok out) :
    Keeps (snapNodes decimalPlaces graph.nodes).image graph out := by
  unfold snapPlanarGraph at run
  obtain ⟨snapped, pass, run⟩ := bind_ok.mp run
  rw [clear snapped pass, ok_bind, if_pos rfl] at run
  split at run
  · cases run
  · obtain rfl := pure_ok.mp run
    exact snap_pass_keeps two_way pass

end Snapping

end Metroflow.City.Planar
