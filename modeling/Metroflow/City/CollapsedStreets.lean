import Metroflow.City.SnappedStreets

namespace Metroflow.City.Planar

open Metroflow.Lib Metroflow.Map

variable {minimumLengthM : ℝ} {graph collapsed out : StreetGraph ℝ} {u v : ℤ}

def Short (minimumLengthM : ℝ) (nodes : List (Node ℝ)) (links : List (Map.RoadLink ℝ))
    (u v : ℤ) : Prop :=
  ∃ link ∈ links, link.srcNodeId = u ∧ link.dstNodeId = v ∧
    ∃ a b, (nodesById nodes).get u = some a ∧ (nodesById nodes).get v = some b ∧
      Scalar.dist a.point b.point < minimumLengthM

section Clusters

variable (minimumLengthM : ℝ) (graph : StreetGraph ℝ)

/-- Short links draw nodes together into a cluster. -/
def Together : ℤ → ℤ → Prop :=
  Relation.EqvGen (Short minimumLengthM graph.nodes graph.links)

open Classical in
/-- The nodes that are drawn together with a node. -/
noncomputable def cluster (nodeId : ℤ) : List (Node ℝ) :=
  graph.nodes.filter fun node => Together minimumLengthM graph nodeId node.nodeId

/-- The rounded mean of the places of some nodes. -/
noncomputable def centreOf (members : List (Node ℝ)) : PointM ℝ :=
  (roundTo 2 (meanOf (members.map (·.x))), roundTo 2 (meanOf (members.map (·.y))))

/-- Where the nodes of a cluster go. -/
noncomputable def centre (nodeId : ℤ) : PointM ℝ := centreOf (cluster minimumLengthM graph nodeId)

/-- No link joins two clusters whose nodes go to one place. -/
def ClustersApart : Prop :=
  ∀ link ∈ graph.links,
    centre minimumLengthM graph link.srcNodeId = centre minimumLengthM graph link.dstNodeId →
    Together minimumLengthM graph link.srcNodeId link.dstNodeId

/-- No two nodes are drawn together. -/
def Settled : Prop :=
  graph.nodes.Pairwise fun a b => ¬ Together minimumLengthM graph a.nodeId b.nodeId

end Clusters

section Grouping

variable {parent parent' root : ℤ → ℤ} {groups : Dict ℤ (List (Node ℝ))} {link : Map.RoadLink ℝ}

theorem entry_nodes_mem {a : Node ℝ} (found : (nodesById graph.nodes).get u = some a) :
    u ∈ graph.nodes.map (·.nodeId) := by
  have known : u ∈ (nodesById graph.nodes).map Prod.fst := Dict.mem_keys_iff.mpr ⟨a, found⟩
  unfold nodesById at known
  rw [Dict.mem_keys_update, List.map_map] at known
  exact known.resolve_left List.not_mem_nil

theorem join_short_ok {past : List (Map.RoadLink ℝ)} {pairs : List (ℤ × ℤ)}
    (classes : UnionFind.Classes (graph.nodes.map (·.nodeId)) pairs parent)
    (known : ∀ u v, (u, v) ∈ pairs ↔ Short minimumLengthM graph.nodes past u v)
    (run : joinShort minimumLengthM graph parent link = .ok parent') :
    (∃ pairs, UnionFind.Classes (graph.nodes.map (·.nodeId)) pairs parent' ∧
      ∀ u v, (u, v) ∈ pairs ↔ Short minimumLengthM graph.nodes (past ++ [link]) u v) ∧
    link.srcNodeId ∈ graph.nodes.map (·.nodeId) ∧ link.dstNodeId ∈ graph.nodes.map (·.nodeId) := by
  obtain ⟨a, at_src, run⟩ := bind_ok.mp run
  obtain ⟨b, at_dst, run⟩ := bind_ok.mp run
  rw [entry_ok] at at_src at_dst
  have split : ∀ u v, Short minimumLengthM graph.nodes (past ++ [link]) u v ↔
      Short minimumLengthM graph.nodes past u v ∨
      ((u, v) = (link.srcNodeId, link.dstNodeId) ∧
        Scalar.dist a.point b.point < minimumLengthM) := by
    intro u v
    constructor
    · rintro ⟨other, mem, rfl, rfl, a', b', at_u, at_v, near⟩
      rcases List.mem_append.mp mem with old | last
      · exact .inl ⟨other, old, rfl, rfl, a', b', at_u, at_v, near⟩
      · obtain rfl := List.mem_singleton.mp last
        rw [at_src] at at_u
        rw [at_dst] at at_v
        obtain rfl := Option.some.inj at_u
        obtain rfl := Option.some.inj at_v
        exact .inr ⟨rfl, near⟩
    · rintro (⟨other, mem, rest⟩ | ⟨same, near⟩)
      · exact ⟨other, List.mem_append_left _ mem, rest⟩
      · obtain ⟨rfl, rfl⟩ := Prod.mk.inj same
        exact ⟨link, List.mem_append_right _ (List.mem_singleton_self _), rfl, rfl, a, b, at_src,
          at_dst, near⟩
  refine ⟨?_, entry_nodes_mem at_src, entry_nodes_mem at_dst⟩
  split at run
  · rename_i near
    obtain rfl := pure_ok.mp run
    refine ⟨_, classes.union (List.length_map _).le (entry_nodes_mem at_src)
      (entry_nodes_mem at_dst), fun u v => ?_⟩
    rw [List.mem_append, List.mem_singleton, known, split, and_iff_left near]
  · rename_i far
    obtain rfl := pure_ok.mp run
    refine ⟨pairs, classes, fun u v => ?_⟩
    rw [known, split, or_iff_left]
    exact fun h => far h.2

theorem group_nodes_ok (run : groupNodes minimumLengthM graph = .ok groups) :
    ∃ root : ℤ → ℤ, (∀ u v, root u = root v ↔ Together minimumLengthM graph u v) ∧
      Dict.Groups groups (graph.nodes.map fun node => (root node.nodeId, node)) ∧
      ∀ link ∈ graph.links, link.srcNodeId ∈ graph.nodes.map (·.nodeId) ∧
        link.dstNodeId ∈ graph.nodes.map (·.nodeId) := by
  obtain ⟨parent, joined, run⟩ := bind_ok.mp run
  obtain ⟨⟨pairs, ⟨root, forest, classes⟩, known⟩, placed⟩ := fold_progress (I := fun past parent =>
      (∃ pairs, UnionFind.Classes (graph.nodes.map (·.nodeId)) pairs parent ∧
        ∀ u v, (u, v) ∈ pairs ↔ Short minimumLengthM graph.nodes past u v) ∧
      ∀ link ∈ past, link.srcNodeId ∈ graph.nodes.map (·.nodeId) ∧
        link.dstNodeId ∈ graph.nodes.map (·.nodeId))
    (fun past link rest parent parent' _ held step => by
      obtain ⟨⟨pairs, classes, known⟩, placed⟩ := held
      obtain ⟨grown, here⟩ := join_short_ok classes known step
      refine ⟨grown, fun other mem => ?_⟩
      rcases List.mem_append.mp mem with old | last
      · exact placed other old
      · exact List.mem_singleton.mp last ▸ here)
    ⟨⟨[], UnionFind.Classes.nil _, fun u v => by simp [Short]⟩, fun _ none => by cases none⟩ joined
  refine ⟨root, fun u v => (classes u v).trans ?_, ?_, placed⟩
  · have same : (fun a b => (a, b) ∈ pairs) = Short minimumLengthM graph.nodes graph.links :=
      funext₂ fun a b => propext (known a b)
    rw [same]
    rfl
  · obtain rfl := pure_ok.mp run
    have grouped : ∀ nodes : List (Node ℝ), UnionFind.Forest (graph.nodes.map (·.nodeId))
        (nodes.foldl (groupNode graph.nodes.length) (parent, [])).1 root ∧
        Dict.Groups (nodes.foldl (groupNode graph.nodes.length) (parent, [])).2
          (nodes.map fun node => (root node.nodeId, node)) := by
      intro nodes
      induction nodes using List.reverseRecOn with
      | nil => exact ⟨forest, Dict.Groups.nil⟩
      | append_singleton past node ih =>
        obtain ⟨kept, found⟩ := ih.1.find (List.length_map _).le node.nodeId
        rw [List.foldl_append, List.map_append]
        refine ⟨kept, ?_⟩
        change (Dict.appendAt _ (UnionFind.find _ _ _).2 node).Groups _
        rw [found]
        exact ih.2.append_at
    exact (grouped graph.nodes).2

end Grouping

section Merging

variable {root : ℤ → ℤ} {groups : Dict ℤ (List (Node ℝ))} {nodes : List (Node ℝ)}
  {s : Renumbering ℝ} {past : List (Node ℝ)} {node : Node ℝ} {r : ℤ} {i : ℕ}

theorem mean_of_perm {values values' : List ℝ} (h : values.Perm values') :
    meanOf values = meanOf values' := by
  unfold meanOf
  rw [← List.sum_eq_foldl, ← List.sum_eq_foldl, h.sum_eq, h.length_eq]

theorem centre_of_perm {members members' : List (Node ℝ)} (h : members.Perm members') :
    centreOf members = centreOf members' := by
  unfold centreOf
  rw [mean_of_perm (h.map _), mean_of_perm (h.map _)]

/-- The nodes under a root, in the order of their ids. -/
def members (nodes : List (Node ℝ)) (root : ℤ → ℤ) (r : ℤ) : List (Node ℝ) :=
  sortOn (fun node => node.nodeId) (nodes.filter fun node => root node.nodeId = r)

theorem mem_members : node ∈ members nodes root r ↔ node ∈ nodes ∧ root node.nodeId = r := by
  rw [members, mem_sort_on, List.mem_filter, decide_eq_true_eq]

theorem Renumbered.send_all {image : ℤ} {rest : List (Node ℝ)} (h : Renumbered s past)
    (low : 0 ≤ image) (high : image < s.outputNodes.length) :
    Renumbered { s with
      oldToNewNodeId := rest.foldl (fun d node => d.set node.nodeId image) s.oldToNewNodeId }
      (past ++ rest) := by
  induction rest generalizing s past with
  | nil =>
    rw [List.append_nil]
    exact h
  | cons node rest ih =>
    rw [← List.singleton_append, ← List.append_assoc]
    exact ih (h.send low high) high

theorem get_sent {image : ℤ} {rest : List (Node ℝ)} {d : Dict ℤ ℤ} {nodeId : ℤ} :
    (rest.foldl (fun d node => d.set node.nodeId image) d).get nodeId =
      if nodeId ∈ rest.map (·.nodeId) then some image else d.get nodeId := by
  induction rest generalizing d with
  | nil => simp
  | cons node rest ih =>
    rw [List.foldl_cons, ih, Dict.get_set]
    by_cases later : nodeId ∈ rest.map (·.nodeId)
    · simp [later]
    · by_cases here : nodeId = node.nodeId <;> simp [later, here]

/-- The groups of some roots have a new node each, at their centre. -/
structure Merged (nodes : List (Node ℝ)) (root : ℤ → ℤ) (done : List ℤ) (s : Renumbering ℝ) :
    Prop where
  renumbered : Renumbered s (done.flatMap (members nodes root))
  points : s.outputNodes.map Node.point = done.map fun r => centreOf (members nodes root r)
  sent : ∀ node ∈ nodes, ∀ i : ℕ, done[i]? = some (root node.nodeId) →
    s.oldToNewNodeId.get node.nodeId = some (i : ℤ)

theorem merged_nil : Merged nodes root [] {} where
  renumbered := renumbered_nil
  points := rfl
  sent _ _ _ none := by cases none

theorem Merged.merge_group {done : List ℤ} {group : List (Node ℝ)} (h : Merged nodes root done s)
    (same : sortOn (fun node => node.nodeId) group = members nodes root r)
    (some_member : members nodes root r ≠ []) (new : r ∉ done) :
    Merged nodes root (done ++ [r]) (mergeGroup s group) := by
  have length : s.outputNodes.length = done.length := by
    rw [← List.length_map Node.point, h.points, List.length_map]
  unfold mergeGroup
  simp only [same]
  split
  · rename_i empty
    exact absurd empty some_member
  · rename_i representative rest listed
    refine ⟨?_, ?_, ?_⟩
    · have split : (done ++ [r]).flatMap (members nodes root) =
          done.flatMap (members nodes root) ++ [representative] ++ rest := by
        rw [List.flatMap_append, List.flatMap_singleton, listed, List.append_assoc,
          List.singleton_append]
      rw [split, listed]
      exact (h.renumbered.add rfl).send_all (Int.natCast_nonneg _) (by simp)
    · rw [List.map_append, List.map_append, h.points, List.map_singleton, List.map_singleton]
      rfl
    · intro node mem i at_i
      rw [get_sent]
      split
      · rename_i inside
        obtain ⟨other, mem', same_id⟩ := List.mem_map.mp inside
        have here : root node.nodeId = r := same_id ▸ (mem_members.mp mem').2
        rw [here] at at_i
        rcases Nat.lt_or_ge i done.length with low | high
        · rw [List.getElem?_append_left low] at at_i
          exact absurd (List.mem_of_getElem? at_i) new
        · have inside : i < (done ++ [r]).length := (List.getElem?_eq_some_iff.mp at_i).1
          rw [List.length_append, List.length_singleton] at inside
          have last : i = done.length := by omega
          rw [length, last]
      · rename_i outside
        have elsewhere : root node.nodeId ≠ r := fun here =>
          outside (List.mem_map_of_mem (mem_members.mpr ⟨mem, here⟩))
        refine h.sent node mem i ?_
        rcases Nat.lt_or_ge i done.length with low | high
        · rwa [List.getElem?_append_left low] at at_i
        · have inside : i < (done ++ [r]).length := (List.getElem?_eq_some_iff.mp at_i).1
          rw [List.length_append, List.length_singleton] at inside
          rw [List.getElem?_append_right high, (by omega : i - done.length = 0)] at at_i
          exact absurd (Option.some.inj at_i).symm elsewhere

theorem merge_groups_ok (groups_ok : Dict.Groups groups (nodes.map fun node =>
      (root node.nodeId, node))) :
    Merged nodes root (sortOn id (groups.map Prod.fst)) (mergeGroups groups) := by
  have distinct : (sortOn id (groups.map Prod.fst)).Nodup :=
    sort_on_perm.nodup_iff.mpr groups_ok.distinct
  have own : ∀ r, Dict.valuesAt (nodes.map fun node => (root node.nodeId, node)) r =
      nodes.filter fun node => root node.nodeId = r := by
    intro r
    unfold Dict.valuesAt
    rw [List.filter_map, List.map_map]
    exact List.map_id _
  have same : ∀ r, sortOn (fun node => node.nodeId) ((groups.get r).getD []) =
      members nodes root r := by
    intro r
    rw [groups_ok.get, own, members]
  have used : ∀ r ∈ sortOn id (groups.map Prod.fst), members nodes root r ≠ [] := by
    intro r mem
    rw [mem_sort_on, groups_ok.keys, List.map_map, List.mem_map] at mem
    obtain ⟨node, listed, here⟩ := mem
    exact List.ne_nil_of_mem (mem_members.mpr ⟨listed, here⟩)
  unfold mergeGroups
  generalize sortOn id (groups.map Prod.fst) = roots at distinct used ⊢
  induction roots using List.reverseRecOn with
  | nil => exact merged_nil
  | append_singleton done r ih =>
    rw [List.nodup_append] at distinct
    rw [List.foldl_append]
    refine (ih distinct.1 fun r mem => used r (List.mem_append_left _ mem)).merge_group (same r)
      (used r (List.mem_append_right _ (List.mem_singleton_self r))) fun mem => ?_
    exact distinct.2.2 r mem r (List.mem_singleton_self r) rfl

theorem merged_at (groups_ok : Dict.Groups groups (graph.nodes.map fun node =>
      (root node.nodeId, node)))
    (classes : ∀ u v, root u = root v ↔ Together minimumLengthM graph u v)
    (listed : node ∈ graph.nodes) :
    ∃ (i : ℕ) (new : Node ℝ), (mergeGroups groups).image node.nodeId = i ∧
      (sortOn id (groups.map Prod.fst))[i]? = some (root node.nodeId) ∧
      (mergeGroups groups).outputNodes[i]? = some new ∧
      new.point = centre minimumLengthM graph node.nodeId := by
  have merged := merge_groups_ok groups_ok
  have known : root node.nodeId ∈ sortOn id (groups.map Prod.fst) := by
    rw [mem_sort_on, groups_ok.keys, List.map_map]
    exact List.mem_map.mpr ⟨node, listed, rfl⟩
  obtain ⟨i, at_i⟩ := List.mem_iff_getElem?.mp known
  have point : ((mergeGroups groups).outputNodes.map Node.point)[i]? =
      some (centreOf (members graph.nodes root (root node.nodeId))) := by
    rw [merged.points, List.getElem?_map, at_i]
    rfl
  rw [List.getElem?_map, Option.map_eq_some_iff] at point
  obtain ⟨new, at_new, place⟩ := point
  refine ⟨i, new, ?_, at_i, at_new, ?_⟩
  · rw [Renumbering.image, merged.sent node listed i at_i]
    rfl
  · rw [place, members, centre, cluster, centre_of_perm sort_on_perm]
    congr 1
    refine List.filter_congr fun other _ => ?_
    rw [decide_eq_decide, eq_comm, classes]

end Merging

section Passing

variable {groups : Dict ℤ (List (Node ℝ))}

noncomputable def passImage (minimumLengthM : ℝ) (graph : StreetGraph ℝ) (nodeId : ℤ) : ℤ :=
  match groupNodes minimumLengthM graph with
  | .ok groups => (mergeGroups groups).image nodeId
  | .error _ => nodeId

theorem collapse_pass_keeps (two_way : TwoWay graph.linkToStreetId graph.links)
    (apart : ClustersApart minimumLengthM graph)
    (run : collapsePass minimumLengthM graph = .ok (some collapsed)) :
    Keeps (passImage minimumLengthM graph) graph collapsed := by
  obtain ⟨groups, grouped, run⟩ := bind_ok.mp run
  split at run
  · cases run
  obtain ⟨moved, move, run⟩ := bind_ok.mp run
  split at run
  · cases run
  obtain rfl := Option.some.inj (pure_ok.mp run)
  have image : passImage minimumLengthM graph = (mergeGroups groups).image := by
    funext nodeId
    rw [passImage, grouped]
  rw [image]
  obtain ⟨root, classes, groups_ok, placed⟩ := group_nodes_ok grouped
  have merged := merge_groups_ok groups_ok
  have moved := move_links_ok move
  have roots : (sortOn id (groups.map Prod.fst)).Nodup :=
    sort_on_perm.nodup_iff.mpr groups_ok.distinct
  refine moved.keeps merged.renumbered (fun node mem => ?_) (fun distinct => ?_) two_way
    fun link mem other => ?_
  · obtain ⟨r, -, mem⟩ := List.mem_flatMap.mp mem
    exact (mem_members.mp mem).1
  · rw [List.map_flatMap, List.nodup_flatMap]
    refine ⟨fun r _ => ?_, roots.imp fun {r r'} other => ?_⟩
    · refine (sort_on_perm.map _).nodup_iff.mpr (distinct.sublist ?_)
      exact List.filter_sublist.map _
    · refine List.disjoint_left.mpr fun nodeId mem mem' => other ?_
      obtain ⟨a, a_mem, rfl⟩ := List.mem_map.mp mem
      obtain ⟨b, b_mem, same⟩ := List.mem_map.mp mem'
      rw [← (mem_members.mp a_mem).2, ← (mem_members.mp b_mem).2, same]
  · rintro ⟨new, new', at_src, at_dst, flat⟩
    obtain ⟨src_listed, dst_listed⟩ := placed link mem
    obtain ⟨a, a_mem, a_id⟩ := List.mem_map.mp src_listed
    obtain ⟨b, b_mem, b_id⟩ := List.mem_map.mp dst_listed
    obtain ⟨i, made, image_a, at_i, found, place⟩ := merged_at groups_ok classes a_mem
    obtain ⟨j, made', image_b, at_j, found', place'⟩ := merged_at groups_ok classes b_mem
    rw [a_id] at image_a at_i place
    rw [b_id] at image_b at_j place'
    rw [node_at_ok, image_a, Int.toNat_natCast, found] at at_src
    rw [node_at_ok, image_b, Int.toNat_natCast, found'] at at_dst
    obtain rfl := Option.some.inj at_src
    obtain rfl := Option.some.inj at_dst
    have met : made.point = made'.point := by
      by_contra differ
      exact absurd (Scalar.dist_pos differ) (not_lt.mpr flat)
    have together := apart link mem (place.symm.trans (met.trans place'))
    rw [(classes _ _).mpr together] at at_i
    have index := (List.getElem?_inj (List.getElem?_eq_some_iff.mp at_i).1 roots).mp
      (at_i.trans at_j.symm)
    rw [image_a, image_b, index] at other
    exact other rfl

theorem collapse_pass_none (run : collapsePass minimumLengthM graph = .ok none) :
    Settled minimumLengthM graph := by
  obtain ⟨groups, grouped, run⟩ := bind_ok.mp run
  obtain ⟨root, classes, groups_ok, -⟩ := group_nodes_ok grouped
  split at run
  · rename_i single
    refine List.pairwise_iff_forall_sublist.mpr fun {a b} pair together => ?_
    have same := (classes _ _).mpr together
    have known : root a.nodeId ∈ groups.map Prod.fst := by
      rw [groups_ok.keys, List.map_map]
      exact List.mem_map.mpr ⟨a, pair.subset (by simp), rfl⟩
    obtain ⟨group, listed, key⟩ := List.mem_map.mp known
    have alone := single group listed
    rw [groups_ok.listed group listed, key, Dict.valuesAt, List.length_map, List.filter_map,
      List.length_map] at alone
    have two := (pair.filter fun node => decide (root node.nodeId = root a.nodeId)).length_le
    rw [List.filter_eq_self.mpr (by simp [same])] at two
    simp only [Function.comp_def] at alone
    rw [alone] at two
    simp at two
  · obtain ⟨moved, -, run⟩ := bind_ok.mp run
    split at run
    · cases run
    · cases pure_ok.mp run

noncomputable def collapseImage (minimumLengthM : ℝ) : ℕ → StreetGraph ℝ → ℤ → ℤ
  | remainingPasses, graph, nodeId =>
    match collapsePass minimumLengthM graph with
    | .ok (some collapsed) =>
      let moved := passImage minimumLengthM graph nodeId
      match remainingPasses with
      | 0 => moved
      | remainingPasses + 1 =>
        if ∃ link ∈ collapsed.links, link.lengthM < minimumLengthM then
          collapseImage minimumLengthM remainingPasses collapsed moved
        else moved
    | _ => nodeId

/-- The graphs that the passes come to. -/
def Reached (minimumLengthM : ℝ) : StreetGraph ℝ → StreetGraph ℝ → Prop :=
  Relation.ReflTransGen fun graph collapsed =>
    collapsePass minimumLengthM graph = .ok (some collapsed)

theorem collapse_cases {crossings : Crossings ℝ} {remainingPasses : ℕ}
    (clear : ∀ after, collapsePass minimumLengthM graph = .ok (some after) →
      crossings.count after.nodes after.links = .ok 0)
    (run : collapseShortPlanarLinks minimumLengthM crossings remainingPasses graph = .ok out) :
    (collapsePass minimumLengthM graph = .ok none ∧ out = graph) ∨
    ∃ collapsed, collapsePass minimumLengthM graph = .ok (some collapsed) ∧
      ((¬ (∃ link ∈ collapsed.links, link.lengthM < minimumLengthM) ∧ out = collapsed) ∨
      (∃ link ∈ collapsed.links, link.lengthM < minimumLengthM) ∧
        ∃ rest, remainingPasses = rest + 1 ∧
          collapseShortPlanarLinks minimumLengthM crossings rest collapsed = .ok out) := by
  unfold collapseShortPlanarLinks at run
  obtain ⟨found, pass, run⟩ := bind_ok.mp run
  cases found with
  | none => exact .inl ⟨pass, (pure_ok.mp run).symm⟩
  | some collapsed =>
    refine .inr ⟨collapsed, pass, ?_⟩
    simp only [clear collapsed pass, ok_bind, ne_eq, not_true_eq_false, if_false] at run
    split at run
    · rename_i short
      refine .inr ⟨short, ?_⟩
      cases remainingPasses with
      | zero => cases run
      | succ rest => exact ⟨rest, rfl, run⟩
    · rename_i long
      exact .inl ⟨long, (pure_ok.mp run).symm⟩

theorem collapse_keeps {crossings : Crossings ℝ} {remainingPasses : ℕ}
    (two_way : TwoWay graph.linkToStreetId graph.links)
    (clear : ∀ before after, Reached minimumLengthM graph before →
      collapsePass minimumLengthM before = .ok (some after) →
      crossings.count after.nodes after.links = .ok 0)
    (apart : ∀ before, Reached minimumLengthM graph before → ClustersApart minimumLengthM before)
    (settled : Settled minimumLengthM graph → EvenLengths graph.links)
    (run : collapseShortPlanarLinks minimumLengthM crossings remainingPasses graph = .ok out) :
    Keeps (collapseImage minimumLengthM remainingPasses graph) graph out := by
  induction remainingPasses using Nat.strong_induction_on generalizing graph with
  | h remainingPasses ih =>
    rcases collapse_cases (fun after => clear graph after .refl) run with
      ⟨pass, rfl⟩ | ⟨collapsed, pass, ways⟩
    · have still : collapseImage minimumLengthM remainingPasses out = id := by
        funext nodeId
        unfold collapseImage
        rw [pass]
        rfl
      have even := settled (collapse_pass_none pass)
      rw [still]
      exact ⟨two_way, even, fun _ _ path => path, fun whole => whole,
        physical_segment_lengths_ok two_way even⟩
    · have first := collapse_pass_keeps two_way (apart graph .refl) pass
      rcases ways with ⟨long, rfl⟩ | ⟨short, rest, rfl, onward⟩
      · have last : collapseImage minimumLengthM remainingPasses graph =
            passImage minimumLengthM graph := by
          funext nodeId
          unfold collapseImage
          rw [pass]
          cases remainingPasses with
          | zero => rfl
          | succ rest => exact if_neg long
        rw [last]
        exact first
      · have next : collapseImage minimumLengthM (rest + 1) graph =
            collapseImage minimumLengthM rest collapsed ∘ passImage minimumLengthM graph := by
          funext nodeId
          unfold collapseImage
          rw [pass]
          exact if_pos short
        rw [next]
        refine first.trans (ih rest (Nat.lt_succ_self rest) first.two_way ?_ ?_ ?_ onward)
        · exact fun before after reached => clear before after (.head pass reached)
        · exact fun before reached => apart before (.head pass reached)
        · exact fun _ => first.even

end Passing

end Metroflow.City.Planar
