import Metroflow.City.Zones

namespace Metroflow.City

open Metroflow.Lib Metroflow.Map

section Types

variable {count nodeCount : ℕ} {population : ℤ}

theorem length_zone_types : (zoneTypesForCount count population).length = max 4 count := by
  unfold zoneTypesForCount zoneTypeSequence
  dsimp only
  rw [List.length_take, List.length_append, List.length_replicate]
  omega

theorem small_city_types (small : population < 100000) (low : 4 ≤ count) (high : count ≤ 12) :
    ∀ zoneType ∈ ZoneType.all, zoneType ∈ zoneTypesForCount count population := by
  unfold zoneTypesForCount
  rw [if_neg (not_le.mpr small)]
  interval_cases count <;> decide

theorem large_city_types (large : 100000 ≤ population) (low : 15 ≤ count) (high : count ≤ 24) :
    ∀ zoneType ∈ ZoneType.all, zoneType ∈ zoneTypesForCount count population := by
  unfold zoneTypesForCount
  rw [if_pos large]
  interval_cases count <;> decide +kernel

theorem no_business_district (large : 100000 ≤ population) (low : 4 ≤ count) (high : count ≤ 14) :
    ZoneType.cbdCommercial ∉ zoneTypesForCount count population := by
  unfold zoneTypesForCount
  rw [if_pos large]
  interval_cases count <;> decide +kernel

theorem target_zone_count_le (population : ℤ) (enough : 4 ≤ nodeCount) :
    4 ≤ targetZoneCount population nodeCount ∧ targetZoneCount population nodeCount ≤ nodeCount := by
  unfold targetZoneCount
  dsimp only
  omega

theorem all_types_iff (enough : 4 ≤ nodeCount) :
    (∀ zoneType ∈ ZoneType.all,
      zoneType ∈ zoneTypesForCount (targetZoneCount population nodeCount) population) ↔
      population < 100000 ∨ 15 ≤ nodeCount := by
  obtain ⟨low, within⟩ := target_zone_count_le population enough
  rcases lt_or_ge population 100000 with small | large
  · refine iff_of_true (small_city_types small low ?_) (.inl small)
    unfold targetZoneCount
    dsimp only
    rw [if_neg (not_le.mpr small)]
    split_ifs <;> omega
  · have target : targetZoneCount population nodeCount = min 24 nodeCount := by
      unfold targetZoneCount
      dsimp only
      rw [if_pos large]
      omega
    rcases Nat.lt_or_ge nodeCount 15 with few | many
    · refine iff_of_false (fun all => ?_) (by omega)
      exact no_business_district large low (by omega) (all _ (ZoneType.mem_all _))
    · exact iff_of_true (large_city_types large (by omega) (by omega)) (.inr many)

end Types

section Centers

variable {K : Type} {nodes selected : List (MapNode K)} {node : MapNode K}
  {requested count : ℕ}

structure Distinct (nodes selected : List (MapNode K)) : Prop where
  known : ∀ node ∈ selected, node ∈ nodes
  ids : (selected.map MapNode.nodeId).Nodup

theorem Distinct.append (h : Distinct nodes selected) (known : node ∈ nodes)
    (fresh : node.nodeId ∉ selected.map MapNode.nodeId) : Distinct nodes (selected ++ [node]) where
  known other listed := by
    rcases List.mem_append.mp listed with old | new
    · exact h.known other old
    · exact List.mem_singleton.mp new ▸ known
  ids := by
    rw [List.map_append, List.nodup_append']
    refine ⟨h.ids, List.nodup_singleton _, ?_⟩
    rw [List.map_singleton, List.disjoint_singleton]
    exact fresh

theorem Distinct.pick (h : Distinct nodes selected) (known : node ∈ nodes) :
    Distinct nodes (pick selected node) := by
  unfold City.pick
  split
  · exact h
  · rename_i fresh
    exact h.append known fresh

theorem length_pick_le : (pick selected node).length ≤ selected.length + 1 := by
  unfold pick
  split
  · omega
  · rw [List.length_append, List.length_singleton]

theorem Distinct.picks (h : Distinct nodes selected) {chosen : List (MapNode K)}
    (known : ∀ node ∈ chosen, node ∈ nodes) : Distinct nodes (chosen.foldl City.pick selected) ∧
      (chosen.foldl City.pick selected).length ≤ selected.length + chosen.length := by
  induction chosen generalizing selected with
  | nil => exact ⟨h, le_rfl⟩
  | cons node chosen ih =>
    obtain ⟨here, later⟩ := List.forall_mem_cons.mp known
    obtain ⟨distinct, length⟩ := ih (h.pick here) later
    refine ⟨distinct, ?_⟩
    have : (City.pick selected node).length ≤ selected.length + 1 := length_pick_le
    rw [List.foldl_cons, List.length_cons]
    omega

theorem Distinct.fill (h : Distinct nodes selected) (short : selected.length < requested)
    {rest : List (MapNode K)} (known : ∀ node ∈ rest, node ∈ nodes) :
    Distinct nodes (fill requested selected rest) ∧
      ((fill requested selected rest).length = requested ∨
        (fill requested selected rest).length < requested ∧
          ∀ node, node ∈ rest ∨ node.nodeId ∈ selected.map MapNode.nodeId →
            node.nodeId ∈ (fill requested selected rest).map MapNode.nodeId) := by
  induction rest generalizing selected with
  | nil => exact ⟨h, .inr ⟨short, fun node listed => listed.resolve_left (by simp)⟩⟩
  | cons node rest ih =>
    obtain ⟨here, later⟩ := List.forall_mem_cons.mp known
    unfold City.fill
    split
    · rename_i taken
      obtain ⟨distinct, ends⟩ := ih h short later
      refine ⟨distinct, ends.imp_right fun ⟨less, all⟩ => ⟨less, fun other listed => ?_⟩⟩
      refine all other ?_
      rw [List.mem_cons] at listed
      rcases listed with (rfl | later) | old
      · exact .inr taken
      · exact .inl later
      · exact .inr old
    · rename_i fresh
      have more := h.append here fresh
      split
      · rename_i enough
        rw [List.length_append, List.length_singleton] at enough
        refine ⟨more, .inl ?_⟩
        rw [List.length_append, List.length_singleton]
        omega
      · rename_i missing
        obtain ⟨distinct, ends⟩ := ih more (not_le.mp missing) later
        refine ⟨distinct, ends.imp_right fun ⟨less, all⟩ => ⟨less, fun other listed => ?_⟩⟩
        refine all other ?_
        rw [List.map_append, List.mem_append]
        rw [List.mem_cons] at listed
        rcases listed with (rfl | later) | old
        · exact .inr (.inr (List.mem_singleton_self _))
        · exact .inl later
        · exact .inr (.inl old)

theorem mem_rotated {rotation : ℕ} :
    node ∈ nodes.drop rotation ++ nodes.take rotation ↔ node ∈ nodes := by
  rw [List.mem_append, or_comm, ← List.mem_append, List.take_append_drop]

variable [Scalar K]

theorem choose_centers_spec (seed : ℤ) (distinct : (nodes.map MapNode.nodeId).Nodup)
    (enough : max 4 count ≤ nodes.length) : Distinct nodes (chooseZoneCenters nodes seed count) ∧
      (chooseZoneCenters nodes seed count).length = max 4 count := by
  unfold chooseZoneCenters
  dsimp only
  set ordered := nodes.mergeSort fun a b => !nodeBefore b a
  have perm : ordered.Perm nodes := List.mergeSort_perm _ _
  split
  · rename_i all
    refine ⟨⟨fun node => perm.mem_iff.mp, (perm.map _).nodup_iff.mpr distinct⟩, ?_⟩
    have := perm.length_eq
    omega
  rename_i more
  set strided := (List.range (max 4 count)).filterMap fun index : ℕ =>
    ordered[(max 0 (min ((ordered.length : ℤ) - 1) (Scalar.trunc ((Scalar.ofInt index +
      1 / Scalar.ofInt 2) * (Scalar.ofInt ordered.length / Scalar.ofInt (max 4 count : ℕ)) :
        K)))).toNat]?
  have few : strided.length ≤ max 4 count :=
    (List.length_filterMap_le _ _).trans (List.length_range).le
  have listed : ∀ node ∈ strided, node ∈ nodes := by
    intro node chosen
    obtain ⟨index, -, found⟩ := List.mem_filterMap.mp chosen
    exact perm.mem_iff.mp (List.mem_of_getElem? found)
  have none_yet : Distinct nodes [] := ⟨by simp, by simp⟩
  obtain ⟨picked, length⟩ := none_yet.picks listed
  rw [List.length_nil, zero_add] at length
  split
  · rename_i short
    have known : ∀ node ∈ ordered.drop (seed % ordered.length).toNat ++
        ordered.take (seed % ordered.length).toNat, node ∈ nodes :=
      fun node rotated => perm.mem_iff.mp (mem_rotated.mp rotated)
    obtain ⟨filled, ends⟩ := picked.fill short known
    rcases ends with exact_length | ⟨less, all⟩
    · rw [List.take_of_length_le exact_length.le]
      exact ⟨filled, exact_length⟩
    · exfalso
      have sub : nodes.map MapNode.nodeId ⊆ (fill (max 4 count) (strided.foldl pick [])
          (ordered.drop (seed % ordered.length).toNat ++
            ordered.take (seed % ordered.length).toNat)).map MapNode.nodeId := by
        intro id mem
        obtain ⟨node, here, rfl⟩ := List.mem_map.mp mem
        exact all node (.inl (mem_rotated.mpr (perm.mem_iff.mpr here)))
      have := (distinct.subperm sub).length_le
      rw [List.length_map, List.length_map] at this
      omega
  · rename_i long
    have exact_length := le_antisymm (length.trans few) (not_lt.mp long)
    rw [List.take_of_length_le exact_length.le]
    exact ⟨picked, exact_length⟩

end Centers

end Metroflow.City
