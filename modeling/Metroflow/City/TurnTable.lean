import Metroflow.City.TurnCompiler
import Metroflow.Routing.DynamicPotential

namespace Metroflow.City

open Metroflow.Lib Metroflow.Map Metroflow.Routing

namespace TurnAuthorityCatalog

variable {catalog : TurnAuthorityCatalog} {movements : List TurnMovement} {pair : ℤ × ℤ} {i : ℕ}
  {row : TurnMovement}

theorem build_ok (h : build movements = .ok catalog) :
    catalog.movements.Perm movements := by
  unfold build at h
  split at h
  · obtain rfl := Except.ok.inj h
    exact sort_on_perm
  · cases h

theorem pairs_nodup : (catalog.movements.map TurnMovement.pair).Nodup := by
  have distinct : ((catalog.movements.map TurnMovement.pair).map toLex).Nodup := by
    rw [List.map_map]
    exact keys_nodup_of_strict catalog.ordered
  exact distinct.of_map _

theorem movement_by_pair_eq :
    catalog.movementByPair = catalog.movements.map fun row => (row.pair, row) := by
  refine (Dict.update_fresh ?_ fun _ _ => Dict.get_nil).trans (List.nil_append _)
  rw [List.map_map]
  exact pairs_nodup

theorem numbered_pairs : (catalog.movements.zipIdx.map fun item => item.1.pair) =
    catalog.movements.map TurnMovement.pair := by
  have split : (fun item : TurnMovement × ℕ => item.1.pair) = TurnMovement.pair ∘ Prod.fst := rfl
  rw [split, ← List.map_map, List.zipIdx_map_fst]

theorem index_by_pair_eq :
    catalog.indexByPair = catalog.movements.zipIdx.map fun item => (item.1.pair, item.2) := by
  unfold indexByPair
  rw [movement_by_pair_eq, List.zipIdx_map, List.map_map]
  refine (Dict.update_fresh ?_ fun _ _ => Dict.get_nil).trans (List.nil_append _)
  rw [List.map_map]
  exact numbered_pairs ▸ pairs_nodup

theorem index_by_pair_iff : catalog.indexByPair.get pair = some i ↔
    ∃ row, catalog.movements[i]? = some row ∧ row.pair = pair := by
  have distinct : (catalog.indexByPair.map Prod.fst).Nodup := by
    rw [index_by_pair_eq, List.map_map]
    exact numbered_pairs ▸ pairs_nodup
  rw [Dict.get_eq_some_iff distinct, index_by_pair_eq, List.mem_map]
  constructor
  · rintro ⟨⟨row, index⟩, listed, same⟩
    obtain ⟨rfl, rfl⟩ := Prod.mk.inj same
    exact ⟨row, List.mk_mem_zipIdx_iff_getElem?.mp listed, rfl⟩
  · rintro ⟨row, found, rfl⟩
    exact ⟨(row, i), List.mk_mem_zipIdx_iff_getElem?.mpr found, rfl⟩

end TurnAuthorityCatalog

section Alignment

variable {links : List LinkLike} {nodeInterfaces : NodeInterfaceCatalog}
  {linkIds : CompiledNodeInterface → List ℤ} {i : CompiledNodeInterface} {linkId nodeId : ℤ}

theorem mem_declarations : nodeId ∈ declarations nodeInterfaces linkIds linkId ↔
    ∃ i ∈ nodeInterfaces.interfaces, linkId ∈ linkIds i ∧ i.nodeId = nodeId := by
  simp [declarations, eq_comm (a := nodeId)]

theorem listed_iff {endOf : LinkLike → ℤ}
    (known : ∀ i ∈ nodeInterfaces.interfaces, ∀ linkId ∈ linkIds i,
      linkId ∈ links.map LinkLike.linkId)
    (declared : ∀ link ∈ links, declarations nodeInterfaces linkIds link.linkId = [endOf link]) :
    (∀ i ∈ nodeInterfaces.interfaces, ∀ linkId, linkId ∈ linkIds i ↔
      ∃ link ∈ links, link.linkId = linkId ∧ endOf link = i.nodeId) ∧
    ∀ link ∈ links, ∃ i ∈ nodeInterfaces.interfaces, i.nodeId = endOf link := by
  have there : ∀ link ∈ links, ∃ i ∈ nodeInterfaces.interfaces,
      link.linkId ∈ linkIds i ∧ i.nodeId = endOf link := by
    intro link listed
    rw [← mem_declarations, declared link listed]
    exact List.mem_singleton_self _
  refine ⟨fun i mine linkId => ⟨fun listed => ?_, ?_⟩, fun link listed => ?_⟩
  · obtain ⟨link, exists_link, rfl⟩ := List.mem_map.mp (known i mine linkId listed)
    have here := mem_declarations.mpr ⟨i, mine, listed, rfl⟩
    rw [declared link exists_link, List.mem_singleton] at here
    exact ⟨link, exists_link, rfl, here.symm⟩
  · rintro ⟨link, exists_link, rfl, ends⟩
    obtain ⟨j, other, listed, ends'⟩ := there link exists_link
    have one := List.inj_on_of_nodup_map (keys_nodup_of_strict nodeInterfaces.node_ids) other mine
      (ends'.trans ends)
    exact one ▸ listed
  · obtain ⟨i, mine, -, ends⟩ := there link listed
    exact ⟨i, mine, ends⟩

structure Aligned (links : List LinkLike) (nodeInterfaces : NodeInterfaceCatalog) : Prop where
  incoming : ∀ i ∈ nodeInterfaces.interfaces, ∀ linkId, linkId ∈ i.incomingLinkIds ↔
    ∃ link ∈ links, link.linkId = linkId ∧ link.dstNodeId = i.nodeId
  outgoing : ∀ i ∈ nodeInterfaces.interfaces, ∀ linkId, linkId ∈ i.outgoingLinkIds ↔
    ∃ link ∈ links, link.linkId = linkId ∧ link.srcNodeId = i.nodeId
  reached : ∀ link ∈ links, ∃ i ∈ nodeInterfaces.interfaces, i.nodeId = link.dstNodeId

theorem alignment_ok (h : validateInterfaceAlignment links nodeInterfaces = .ok ⟨⟩) :
    Aligned links nodeInterfaces := by
  obtain ⟨_, known, declared⟩ := bind_ok.mp h
  rw [each_ok] at known declared
  have known_in : ∀ i ∈ nodeInterfaces.interfaces, ∀ linkId ∈ i.incomingLinkIds,
      linkId ∈ links.map LinkLike.linkId := by
    intro i mine linkId listed
    obtain ⟨_, checked, -⟩ := bind_ok.mp (known i mine)
    exact not_not.mp (raise_if_ok.mp (each_ok.mp checked linkId listed))
  have known_out : ∀ i ∈ nodeInterfaces.interfaces, ∀ linkId ∈ i.outgoingLinkIds,
      linkId ∈ links.map LinkLike.linkId := by
    intro i mine linkId listed
    obtain ⟨_, -, checked⟩ := bind_ok.mp (known i mine)
    exact not_not.mp (raise_if_ok.mp (each_ok.mp checked linkId listed))
  have ends : ∀ link ∈ links,
      declarations nodeInterfaces CompiledNodeInterface.incomingLinkIds link.linkId =
        [link.dstNodeId] ∧
      declarations nodeInterfaces CompiledNodeInterface.outgoingLinkIds link.linkId =
        [link.srcNodeId] := by
    intro link listed
    obtain ⟨_, incoming, outgoing⟩ := bind_ok.mp (declared link (mem_sort_on.mpr listed))
    exact ⟨not_not.mp (raise_if_ok.mp incoming), not_not.mp (raise_if_ok.mp outgoing)⟩
  obtain ⟨incoming, reached⟩ := listed_iff known_in fun link listed => (ends link listed).1
  obtain ⟨outgoing, -⟩ := listed_iff known_out fun link listed => (ends link listed).2
  exact ⟨incoming, outgoing, reached⟩

end Alignment

section Rows

variable {K : Type} [Scalar K] {links : List LinkLike} {nodeInterfaces : NodeInterfaceCatalog}
  {roadGeometry : RoadGeometryCatalog K} {tolerance : K} {a b link : LinkLike} {row : TurnMovement}

theorem link_by_id_ok (unique : (links.map LinkLike.linkId).Nodup) {linkId : ℤ} :
    linkById links linkId = .ok link ↔ link ∈ links ∧ link.linkId = linkId := by
  unfold linkById
  constructor
  · intro found
    split at found
    · rename_i other first
      obtain rfl := Except.ok.inj found
      exact ⟨List.mem_of_find?_eq_some first, by simpa using List.find?_some first⟩
    · cases found
  · rintro ⟨listed, rfl⟩
    split
    · rename_i other first
      have same : other.linkId = link.linkId := by simpa using List.find?_some first
      rw [List.inj_on_of_nodup_map unique (List.mem_of_find?_eq_some first) listed same]
    · rename_i missing
      exact absurd (List.find?_eq_none.mp missing link listed) (by simp)

theorem classify_turn_ok {incomingPoints outgoingPoints : List (PointM K)} {turnType : TurnType}
    (h : classifyTurn a b incomingPoints outgoingPoints tolerance = .ok turnType) :
    a.dstNodeId = b.srcNodeId ∧ (turnType = .uTurnForbidden ↔ b.dstNodeId = a.srcNodeId) := by
  unfold classifyTurn at h
  split at h
  · cases h
  rename_i adjacent
  refine ⟨not_not.mp adjacent, ?_⟩
  split at h
  · rename_i returns
    exact iff_of_true (Except.ok.inj h).symm returns.symm
  rename_i onward
  refine iff_of_false ?_ (Ne.symm onward)
  rintro rfl
  repeat' split at h
  any_goals cases h
  obtain ⟨_, -, h⟩ := bind_ok.mp h
  repeat' split at h
  all_goals cases h

theorem compile_movement_ok (h : compileMovement roadGeometry tolerance a b = .ok row) :
    row.pair = (a.linkId, b.linkId) ∧ a.dstNodeId = b.srcNodeId ∧
      (row.turnType = .uTurnForbidden ↔ b.dstNodeId = a.srcNodeId) := by
  obtain ⟨_, -, h⟩ := bind_ok.mp h
  obtain ⟨_, -, h⟩ := bind_ok.mp h
  obtain ⟨turnType, classified, h⟩ := bind_ok.mp h
  obtain rfl := pure_ok.mp h
  exact ⟨rfl, classify_turn_ok classified⟩

theorem compile_interface_ok (unique : (links.map LinkLike.linkId).Nodup)
    {i : CompiledNodeInterface} {rows : List (List TurnMovement)}
    (h : compileInterface links roadGeometry tolerance i = .ok rows) :
    (∀ row ∈ rows.flatten, ∃ a ∈ links, ∃ b ∈ links,
      compileMovement roadGeometry tolerance a b = .ok row) ∧
    ∀ a ∈ links, ∀ b ∈ links, a.linkId ∈ i.incomingLinkIds → b.linkId ∈ i.outgoingLinkIds →
      ∃ row ∈ rows.flatten, compileMovement roadGeometry tolerance a b = .ok row := by
  obtain ⟨groups, each⟩ := map_all_mem h
  constructor
  · intro row listed
    obtain ⟨group, built, listed⟩ := List.mem_flatten.mp listed
    obtain ⟨_, -, ran⟩ := (groups group).mp built
    obtain ⟨a, found, ran⟩ := bind_ok.mp ran
    obtain ⟨_, -, ran⟩ := ((map_all_mem ran).1 row).mp listed
    obtain ⟨b, found', ran⟩ := bind_ok.mp ran
    exact ⟨a, ((link_by_id_ok unique).mp found).1, b, ((link_by_id_ok unique).mp found').1, ran⟩
  · intro a mem_a b mem_b incoming outgoing
    obtain ⟨group, built, ran⟩ := each _ incoming
    obtain ⟨a', found, ran⟩ := bind_ok.mp ran
    obtain rfl := Except.ok.inj (((link_by_id_ok unique).mpr ⟨mem_a, rfl⟩).symm.trans found)
    obtain ⟨row, listed, ran⟩ := (map_all_mem ran).2 _ outgoing
    obtain ⟨b', found', ran⟩ := bind_ok.mp ran
    obtain rfl := Except.ok.inj (((link_by_id_ok unique).mpr ⟨mem_b, rfl⟩).symm.trans found')
    exact ⟨row, List.mem_flatten.mpr ⟨group, built, listed⟩, ran⟩

/-- The table has a row for two links exactly when one ends where the other starts. -/
structure Complete (links : List LinkLike) (catalog : TurnAuthorityCatalog) : Prop where
  unique : (links.map LinkLike.linkId).Nodup
  sound : ∀ row ∈ catalog.movements, ∃ a ∈ links, ∃ b ∈ links, row.pair = (a.linkId, b.linkId) ∧
    a.dstNodeId = b.srcNodeId ∧ (row.turnType = .uTurnForbidden ↔ b.dstNodeId = a.srcNodeId)
  total : ∀ a ∈ links, ∀ b ∈ links, a.dstNodeId = b.srcNodeId →
    ∃ row ∈ catalog.movements, row.pair = (a.linkId, b.linkId)

theorem compile_turn_authority_ok {catalog : TurnAuthorityCatalog}
    (h : compileTurnAuthority links roadGeometry nodeInterfaces tolerance = .ok catalog) :
    Complete links catalog := by
  obtain ⟨_, -, h⟩ := bind_ok.mp h
  obtain ⟨_, unique, h⟩ := bind_ok.mp h
  obtain ⟨_, aligned, h⟩ := bind_ok.mp h
  obtain ⟨_, -, h⟩ := bind_ok.mp h
  obtain ⟨tables, compiled, h⟩ := bind_ok.mp h
  replace unique := not_not.mp (raise_if_ok.mp unique)
  replace aligned := alignment_ok aligned
  have rows := TurnAuthorityCatalog.build_ok h
  obtain ⟨groups, each⟩ := map_all_mem compiled
  refine ⟨unique, fun row listed => ?_, fun a mem_a b mem_b adjacent => ?_⟩
  · obtain ⟨group, grouped, listed⟩ := List.mem_flatten.mp (rows.mem_iff.mp listed)
    obtain ⟨table, built, grouped⟩ := List.mem_flatten.mp grouped
    obtain ⟨i, -, ran⟩ := (groups table).mp built
    obtain ⟨a, mem_a, b, mem_b, ran⟩ := (compile_interface_ok unique ran).1 row
      (List.mem_flatten.mpr ⟨group, grouped, listed⟩)
    exact ⟨a, mem_a, b, mem_b, compile_movement_ok ran⟩
  · obtain ⟨i, mine, ends⟩ := aligned.reached a mem_a
    have incoming := (aligned.incoming i mine _).mpr ⟨a, mem_a, rfl, ends.symm⟩
    have outgoing := (aligned.outgoing i mine _).mpr ⟨b, mem_b, rfl, adjacent.symm.trans ends.symm⟩
    obtain ⟨table, built, ran⟩ := each i mine
    obtain ⟨row, listed, ran⟩ :=
      (compile_interface_ok unique ran).2 a mem_a b mem_b incoming outgoing
    obtain ⟨group, grouped, listed⟩ := List.mem_flatten.mp listed
    exact ⟨row, rows.mem_iff.mpr (List.mem_flatten.mpr
      ⟨group, List.mem_flatten.mpr ⟨table, built, grouped⟩, listed⟩), (compile_movement_ok ran).1⟩

end Rows

section Runtime

variable {p n m : ℕ} {net : RoadNetworkCSR p n m} {links : List LinkLike}
  {catalog : TurnAuthorityCatalog} {a b : Fin n} {t : Fin m}

/-- The network was built from these links and from the rows of this table. -/
structure Carries (net : RoadNetworkCSR p n m) (links : List LinkLike)
    (catalog : TurnAuthorityCatalog) : Prop where
  same_links : (List.ofFn fun l => ((net.links l).linkId, (net.links l).srcNodeId,
    (net.links l).dstNodeId)) = links.map fun link => (link.linkId, link.srcNodeId, link.dstNodeId)
  same_turns : List.ofFn net.turns = catalog.movements

theorem Carries.link (h : Carries net links catalog) (l : Fin n) :
    ∃ link ∈ links, link.linkId = (net.links l).linkId ∧
      link.srcNodeId = (net.links l).srcNodeId ∧ link.dstNodeId = (net.links l).dstNodeId := by
  have listed : ((net.links l).linkId, (net.links l).srcNodeId, (net.links l).dstNodeId) ∈
      links.map fun link => (link.linkId, link.srcNodeId, link.dstNodeId) := by
    rw [← h.same_links, List.mem_ofFn]
    exact ⟨l, rfl⟩
  obtain ⟨link, known, same⟩ := List.mem_map.mp listed
  simp only [Prod.mk.injEq] at same
  exact ⟨link, known, same⟩

theorem Carries.row (h : Carries net links catalog) (t : Fin m) :
    catalog.movements[t.val]? = some (net.turns t) := by
  rw [← h.same_turns, List.getElem?_ofFn, dif_pos t.isLt]

theorem Carries.joins_iff (h : Carries net links catalog) :
    net.turnFromLinkIndex t = a ∧ net.turnToLinkIndex t = b ↔
      catalog.indexByPair.get ((net.links a).linkId, (net.links b).linkId) = some t.val := by
  have ends : (net.turns t).pair = ((net.links (net.turnFromLinkIndex t)).linkId,
      (net.links (net.turnToLinkIndex t)).linkId) := by
    rw [net.from_link t, net.to_link t]
    rfl
  rw [TurnAuthorityCatalog.index_by_pair_iff, h.row t]
  constructor
  · rintro ⟨rfl, rfl⟩
    exact ⟨_, rfl, ends⟩
  · rintro ⟨row, found, same⟩
    obtain rfl := Option.some.inj found
    obtain ⟨from_same, to_same⟩ := Prod.mk.inj (ends.symm.trans same)
    exact ⟨net.link_ids_unique from_same, net.link_ids_unique to_same⟩

variable (complete : Complete links catalog)

include complete

theorem Complete.forbidden_iff {row : TurnMovement} {x y : LinkLike} (hx : x ∈ links)
    (hy : y ∈ links) (listed : row ∈ catalog.movements) (pair : row.pair = (x.linkId, y.linkId)) :
    x.dstNodeId = y.srcNodeId ∧ (row.turnType = .uTurnForbidden ↔ y.dstNodeId = x.srcNodeId) := by
  obtain ⟨x', hx', y', hy', pair', spec⟩ := complete.sound row listed
  obtain ⟨same_x, same_y⟩ := Prod.mk.inj (pair'.symm.trans pair)
  obtain rfl := List.inj_on_of_nodup_map complete.unique hx' hx same_x
  obtain rfl := List.inj_on_of_nodup_map complete.unique hy' hy same_y
  exact spec

theorem Complete.mem_pairs {pair : ℤ × ℤ} : pair ∈ catalog.movements.map TurnMovement.pair ↔
    ∃ x ∈ links, ∃ y ∈ links, x.dstNodeId = y.srcNodeId ∧ pair = (x.linkId, y.linkId) := by
  rw [List.mem_map]
  constructor
  · rintro ⟨row, listed, rfl⟩
    obtain ⟨x, hx, y, hy, pair, adjacent, -⟩ := complete.sound row listed
    exact ⟨x, hx, y, hy, adjacent, pair⟩
  · rintro ⟨x, hx, y, hy, adjacent, rfl⟩
    exact complete.total x hx y hy adjacent

theorem Complete.some_turn_iff (h : Carries net links catalog) :
    (∃ t, net.turnFromLinkIndex t = a ∧ net.turnToLinkIndex t = b) ↔
      (net.links a).dstNodeId = (net.links b).srcNodeId := by
  constructor
  · rintro ⟨t, rfl, rfl⟩
    exact net.turn_adjacent t
  · intro adjacent
    obtain ⟨x, hx, id_x, -, dst_x⟩ := h.link a
    obtain ⟨y, hy, id_y, src_y, -⟩ := h.link b
    obtain ⟨row, listed, pair⟩ := complete.total x hx y hy (by rw [dst_x, src_y, adjacent])
    rw [← h.same_turns, List.mem_ofFn] at listed
    obtain ⟨t, rfl⟩ := listed
    refine ⟨t, h.joins_iff.mpr ?_⟩
    rw [TurnAuthorityCatalog.index_by_pair_iff, ← id_x, ← id_y]
    exact ⟨_, h.row t, pair⟩

theorem Complete.turn_forbidden_iff (h : Carries net links catalog) :
    net.turnIsForbidden t = true ↔ (net.links (net.turnToLinkIndex t)).dstNodeId =
      (net.links (net.turnFromLinkIndex t)).srcNodeId := by
  obtain ⟨x, hx, id_x, src_x, -⟩ := h.link (net.turnFromLinkIndex t)
  obtain ⟨y, hy, id_y, -, dst_y⟩ := h.link (net.turnToLinkIndex t)
  have pair : (net.turns t).pair = (x.linkId, y.linkId) := by
    rw [id_x, id_y, net.from_link t, net.to_link t]
    rfl
  rw [RoadNetworkCSR.turnIsForbidden, decide_eq_true_eq, ← src_x, ← dst_y]
  exact (complete.forbidden_iff hx hy (List.mem_of_getElem? (h.row t)) pair).2

end Runtime

/-- A compiled table has one row for each two links that meet, forbidden exactly
when it turns back, and every lookup of the running network ranges over these rows. -/
theorem turn_table_complete {K : Type} [Scalar K] {links : List LinkLike}
    {roadGeometry : RoadGeometryCatalog K} {nodeInterfaces : NodeInterfaceCatalog} {tolerance : K}
    {catalog : TurnAuthorityCatalog}
    (accepted : compileTurnAuthority links roadGeometry nodeInterfaces tolerance = .ok catalog) :
    (catalog.movements.map TurnMovement.pair).Nodup ∧
    (∀ pair, pair ∈ catalog.movements.map TurnMovement.pair ↔
      ∃ a ∈ links, ∃ b ∈ links, a.dstNodeId = b.srcNodeId ∧ pair = (a.linkId, b.linkId)) ∧
    (∀ a ∈ links, ∀ b ∈ links, ∀ row ∈ catalog.movements, row.pair = (a.linkId, b.linkId) →
      (row.turnType = .uTurnForbidden ↔ b.dstNodeId = a.srcNodeId)) ∧
    (∀ pair i, catalog.indexByPair.get pair = some i ↔
      ∃ row, catalog.movements[i]? = some row ∧ row.pair = pair) ∧
    ∀ {p n m : ℕ} (net : RoadNetworkCSR p n m), Carries net links catalog → ∀ a b,
      (∀ t, net.turnFromLinkIndex t = a ∧ net.turnToLinkIndex t = b ↔
        catalog.indexByPair.get ((net.links a).linkId, (net.links b).linkId) = some t.val) ∧
      (∀ t, net.turnPairToIndex (net.links a).linkId (net.links b).linkId = some t ↔
        catalog.indexByPair.get ((net.links a).linkId, (net.links b).linkId) = some t.val ∧
          (net.links b).dstNodeId ≠ (net.links a).srcNodeId) ∧
      (b ∈ allSuccessors net a ↔ (net.links a).dstNodeId = (net.links b).srcNodeId) ∧
      (b ∈ allowedSuccessors net a ↔ (net.links a).dstNodeId = (net.links b).srcNodeId ∧
        (net.links b).dstNodeId ≠ (net.links a).srcNodeId) := by
  have complete := compile_turn_authority_ok accepted
  refine ⟨TurnAuthorityCatalog.pairs_nodup, fun pair => complete.mem_pairs,
    fun a ha b hb row listed pair => (complete.forbidden_iff ha hb listed pair).2,
    fun pair i => TurnAuthorityCatalog.index_by_pair_iff, fun net carries a b => ?_⟩
  have legal_iff : ∀ t, net.turnFromLinkIndex t = a ∧ net.turnToLinkIndex t = b →
      (net.turnIsForbidden t = false ↔ (net.links b).dstNodeId ≠ (net.links a).srcNodeId) := by
    rintro t ⟨rfl, rfl⟩
    rw [← Bool.not_eq_true, complete.turn_forbidden_iff carries]
  refine ⟨fun t => carries.joins_iff, fun t => ?_, ?_, ?_⟩
  · rw [← carries.joins_iff]
    constructor
    · intro found
      obtain ⟨legal, from_id, to_id⟩ := net.turn_pair_to_index_some found
      have joins : net.turnFromLinkIndex t = a ∧ net.turnToLinkIndex t = b :=
        ⟨net.link_ids_unique ((net.from_link t).trans from_id),
          net.link_ids_unique ((net.to_link t).trans to_id)⟩
      exact ⟨joins, (legal_iff t joins).mp legal⟩
    · rintro ⟨joins, onward⟩
      have found := net.turn_pair_to_index_of_legal ((legal_iff t joins).mpr onward)
      rw [← net.from_link t, ← net.to_link t, joins.1, joins.2] at found
      exact found
  · rw [allSuccessors, List.mem_filter, decide_eq_true_eq, complete.some_turn_iff carries]
    exact and_iff_right (List.mem_finRange b)
  · rw [allowedSuccessors, List.mem_filter, decide_eq_true_eq, ← complete.some_turn_iff carries,
      and_iff_right (List.mem_finRange b)]
    constructor
    · rintro ⟨t, joins, joins', legal⟩
      exact ⟨⟨t, joins, joins'⟩, (legal_iff t ⟨joins, joins'⟩).mp legal⟩
    · rintro ⟨⟨t, joins⟩, onward⟩
      exact ⟨t, joins.1, joins.2, (legal_iff t joins).mpr onward⟩

def twoWayLinks : List LinkLike :=
  [⟨0, 2, 1, .localRoad, none⟩, ⟨1, 1, 2, .localRoad, none⟩]

noncomputable def twoWayGeometry : RoadGeometryCatalog ℝ where
  centerlines := [⟨0, [(0, 0), (100, 0)], 0, Lib.zero_id, by decide, by simp [Scalar.isfinite], by simp⟩]
  assignments := [⟨0, 0, true, Lib.zero_ids⟩, ⟨1, 0, false, Lib.one_zero_ids⟩]
  geometry_ids := by simp
  link_ids := by simp
  resolves := by simp

def twoWayInterfaces : NodeInterfaceCatalog where
  interfaces := [⟨1, [0], [1], by decide, by decide, by decide⟩,
    ⟨2, [1], [0], by decide, by decide, by decide⟩]
  node_ids := by simp

def twoWayTable : TurnAuthorityCatalog where
  movements := [⟨0, 1, .uTurnForbidden, 1, Lib.one_nonneg⟩, ⟨1, 0, .uTurnForbidden, 1, Lib.one_nonneg⟩]
  ordered := by decide

theorem two_way_accepted :
    compileTurnAuthority twoWayLinks twoWayGeometry twoWayInterfaces 30 = .ok twoWayTable := by
  have sorted : sortOn LinkLike.linkId twoWayLinks = twoWayLinks := sort_on_eq_self (by decide)
  have aligned : validateInterfaceAlignment twoWayLinks twoWayInterfaces = .ok ⟨⟩ := by
    unfold validateInterfaceAlignment
    rw [sorted]
    rfl
  have tolerance : validatedTolerance (30 : ℝ) = .ok 30 := by
    simp [validatedTolerance, Scalar.isfinite, Scalar.ofInt]
    norm_num
  have rows : twoWayInterfaces.interfaces.mapM
      (compileInterface twoWayLinks twoWayGeometry (30 : ℝ)) =
      .ok (twoWayTable.movements.map fun row => [[row]]) := rfl
  have built : TurnAuthorityCatalog.build twoWayTable.movements = .ok twoWayTable := by
    unfold TurnAuthorityCatalog.build
    rw [dif_pos (by decide)]
    congr 2
    exact sort_on_eq_self (twoWayTable.ordered.imp le_of_lt)
  unfold compileTurnAuthority
  rw [tolerance, aligned, sorted]
  refine bind_ok.mpr ⟨_, rfl, bind_ok.mpr ⟨_, rfl, bind_ok.mpr ⟨_, rfl, bind_ok.mpr ⟨_, rfl, ?_⟩⟩⟩⟩
  exact bind_ok.mpr ⟨_, rows, built⟩

theorem two_way_table_complete : (twoWayTable.movements.map TurnMovement.pair).Nodup ∧
    (∀ pair, pair ∈ twoWayTable.movements.map TurnMovement.pair ↔
      ∃ a ∈ twoWayLinks, ∃ b ∈ twoWayLinks, a.dstNodeId = b.srcNodeId ∧
        pair = (a.linkId, b.linkId)) :=
  ⟨(turn_table_complete two_way_accepted).1, (turn_table_complete two_way_accepted).2.1⟩

end Metroflow.City
