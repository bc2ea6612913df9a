import Metroflow.City.ChainWalks

namespace Metroflow.City.Morphology

open Metroflow.Lib

section Property

/-- Consecutive streets between two nodes. -/
structure StreetChain where
  start : ℤ
  members : List ℕ
  stop : ℤ

/-- A chain between two nodes that are not interstitial, with interstitial ones inside. -/
structure StreetChain.Measured (edges : List Edge) (c : StreetChain) : Prop where
  way : Path edges c.start c.members c.stop
  start_junction : isInterstitial edges c.start = false
  stop_junction : isInterstitial edges c.stop = false

noncomputable def totalLength (edges : List Edge) (members : List ℕ) : ℝ :=
  (members.map (lengthOf edges)).sum

def IsSegment (points : Dict ℤ (PointM ℝ)) (edges : List Edge) (c : StreetChain)
    (segment : Segment) : Prop :=
  ∃ startPoint endPoint, points.get c.start = some startPoint ∧
    points.get c.stop = some endPoint ∧
    segment = (totalLength edges c.members, startPoint, endPoint,
      if c.start = c.stop then [] else [(startPoint, endPoint)])

/-- Nodes that streets join. -/
def Joined (edges : List Edge) : ℤ → ℤ → Prop :=
  Relation.ReflTransGen fun u v => ∃ k ∈ adjacency edges u, v = other edges k u

/-- The components of interstitial nodes alone. -/
def ringComponents (edges : List Edge) : Set (Set ℤ) :=
  {component | ∃ u, component = {v | Joined edges u v} ∧
    ∀ v ∈ component, isInterstitial edges v = true}

/-- What is measured and what is dropped make up the network. -/
structure Conserves (points : Dict ℤ (PointM ℝ)) (edges : List Edge)
    (result : List Segment × Dict ℤ ℕ × ℕ × ℝ) (chains : List StreetChain)
    (rings : List (List ℕ)) : Prop where
  once : ((chains.flatMap StreetChain.members) ++ rings.flatten).Perm (List.range edges.length)
  length : (result.1.map Prod.fst).sum + result.2.2.2 = (edges.map fun edge => edge.2.2).sum
  chained : ∀ c ∈ chains, c.Measured edges
  segments : List.Forall₂ (IsSegment points edges) chains result.1
  degrees : ∀ v, result.2.1.get v =
    if isInterstitial edges v = true ∨ compiledDegree edges v = 0 then none
    else some (compiledDegree edges v)
  dropped : result.2.2.2 = totalLength edges rings.flatten
  components : result.2.2.1 = (ringComponents edges).ncard

end Property

variable {points : Dict ℤ (PointM ℝ)} {edges : List Edge} {v : ℤ}

section Chains

/-- What the passes over the anchors keep. -/
structure Measuring (points : Dict ℤ (PointM ℝ)) (edges : List Edge) (past : List (ℤ × ℕ))
    (chains : List StreetChain) (s : Measured) : Prop where
  consumed : s.consumed.Perm (chains.flatMap StreetChain.members)
  distinct : s.consumed.Nodup
  chained : ∀ c ∈ chains, c.Measured edges
  ordered : ∀ c ∈ chains, c.start ≤ c.stop
  segments : List.Forall₂ (IsSegment points edges) chains s.segments
  degrees : ∀ v, isInterstitial edges v = false →
    (s.degrees.get v).getD 0 = s.consumed.countP fun k => k ∈ adjacency edges v
  keys : ∀ v n, s.degrees.get v = some n → isInterstitial edges v = false ∧ 0 < n
  even : ∀ u, isInterstitial edges u = true → EvenAt edges s.consumed u
  passed : ∀ start ∈ past, start.2 ∈ s.consumed

theorem mem_anchor_starts {start : ℤ × ℕ} : start ∈ anchorStarts edges ↔
    isInterstitial edges start.1 = false ∧ start.2 ∈ adjacency edges start.1 := by
  obtain ⟨anchor, startEdge⟩ := start
  unfold anchorStarts
  simp only [List.mem_flatMap, List.mem_map, mem_sort_on, List.mem_filter, List.mem_dedup,
    Prod.mk.injEq, decide_eq_true_eq]
  constructor
  · rintro ⟨_, ⟨-, junction⟩, _, adjacent, rfl, rfl⟩
    exact ⟨junction, adjacent⟩
  · rintro ⟨junction, adjacent⟩
    refine ⟨anchor, ⟨?_, junction⟩, startEdge, adjacent, rfl, rfl⟩
    obtain ⟨edge, found, ends⟩ := mem_adjacency.mp adjacent
    refine ⟨edge, List.mem_of_getElem? found, ?_⟩
    simpa [eq_comm] using ends

theorem anchor_starts_sorted (edges : List Edge) :
    (anchorStarts edges).Pairwise fun a b => a.1 ≤ b.1 := by
  unfold anchorStarts
  refine List.pairwise_flatMap.mpr ⟨fun anchor _ => ?_, ?_⟩
  · refine List.pairwise_map.mpr (List.pairwise_of_forall fun _ _ => le_rfl)
  · refine sort_on_sorted.imp fun {a b} less => ?_
    rintro _ in_a _ in_b
    obtain ⟨_, -, rfl⟩ := List.mem_map.mp in_a
    obtain ⟨_, -, rfl⟩ := List.mem_map.mp in_b
    exact less

theorem measuring_start : Measuring points edges [] [] ⟨[], [], []⟩ where
  consumed := .refl _
  distinct := List.nodup_nil
  chained _ none := absurd none List.not_mem_nil
  ordered _ none := absurd none List.not_mem_nil
  segments := .nil
  degrees _ _ := rfl
  keys _ _ none := by cases none
  even _ _ _ _ _ _ none := absurd none List.not_mem_nil
  passed _ none := absurd none List.not_mem_nil

theorem get_incremented (degrees : Dict ℤ ℕ) (nodeId : ℤ) :
    (incremented degrees nodeId).get v =
      if v = nodeId then some ((degrees.get nodeId).getD 0 + 1) else degrees.get v :=
  Dict.get_set

theorem Measuring.step {past : List (ℤ × ℕ)} {chains : List StreetChain} {s s' : Measured}
    {start : ℤ × ℕ} {rest : List (ℤ × ℕ)} (loopless : Loopless edges)
    (measuring : Measuring points edges past chains s)
    (split : anchorStarts edges = past ++ start :: rest)
    (step : measureFrom points edges s start = .ok s') :
    ∃ chains', Measuring points edges (past ++ [start]) chains' s' := by
  have listed : start ∈ anchorStarts edges :=
    split ▸ List.mem_append_right _ List.mem_cons_self
  obtain ⟨junction, adjacent⟩ := mem_anchor_starts.mp listed
  unfold measureFrom at step
  split at step
  · rename_i old
    obtain rfl := pure_ok.mp step
    refine ⟨chains, { measuring with passed := fun p earlier => ?_ }⟩
    rcases List.mem_append.mp earlier with earlier | last
    · exact measuring.passed p earlier
    · obtain rfl := List.mem_singleton.mp last
      exact old
  rename_i fresh
  obtain ⟨trail, junction', even⟩ := chain_spec loopless junction adjacent fresh measuring.even
  obtain ⟨startPoint, start_at, step⟩ := bind_ok.mp step
  obtain ⟨endPoint, end_at, step⟩ := bind_ok.mp step
  obtain rfl := pure_ok.mp step
  have known : ∀ {nodeId point}, pointOf points nodeId = .ok point →
      points.get nodeId = some point := by
    intro nodeId point found
    unfold pointOf at found
    split at found
    · rename_i here
      rw [here, Except.ok.inj found]
    · cases found
  set walk := chain edges s.consumed start.1 start.2
  refine ⟨chains ++ [⟨start.1, walk.members, walk.nextNodeId⟩],
    ?_, ?_, ?_, ?_, ?_, ?_, ?_, even, ?_⟩
  · dsimp only
    rw [trail.consumed_eq, List.flatMap_append, List.flatMap_singleton]
    exact (walk.members.reverse_perm.append measuring.consumed).trans List.perm_append_comm
  · dsimp only
    rw [trail.consumed_eq]
    refine List.nodup_append.mpr ⟨List.nodup_reverse.mpr trail.distinct, measuring.distinct, ?_⟩
    rintro k new l old rfl
    exact trail.fresh k (List.mem_reverse.mp new) old
  · intro c listed
    rcases List.mem_append.mp listed with earlier | last
    · exact measuring.chained c earlier
    · obtain rfl := List.mem_singleton.mp last
      exact ⟨trail.way, junction, junction'⟩
  · intro c listed
    rcases List.mem_append.mp listed with earlier | last
    · exact measuring.ordered c earlier
    obtain rfl := List.mem_singleton.mp last
    -- the streets of smaller anchors were consumed before
    by_contra smaller
    obtain ⟨k, arrives, taken⟩ := trail.way.arrives
    have passed : (walk.nextNodeId, k) ∈ past := by
      have there : (walk.nextNodeId, k) ∈ anchorStarts edges :=
        mem_anchor_starts.mpr ⟨junction', arrives⟩
      rw [split] at there
      refine (List.mem_append.mp there).resolve_right fun later => smaller ?_
      have sorted := anchor_starts_sorted edges
      rw [split] at sorted
      rcases List.mem_cons.mp later with same | later
      · exact (congrArg Prod.fst same).ge
      · exact (List.pairwise_cons.mp (List.pairwise_append.mp sorted).2.1).1 _ later
    exact trail.fresh k taken (measuring.passed _ passed)
  · refine List.rel_append measuring.segments (.cons ⟨startPoint, endPoint, known start_at,
      known end_at, ?_⟩ .nil)
    rw [trail.arc]
    rfl
  · intro v junction_v
    have old := measuring.degrees v junction_v
    have new := trail.way.incidences loopless trail.distinct junction_v
    dsimp only
    rw [trail.consumed_eq, List.countP_append, (walk.members.reverse_perm).countP_eq, new, ← old,
      get_incremented, get_incremented, get_incremented]
    split <;> split <;> grind
  · intro v n found
    dsimp only at found
    rw [get_incremented, get_incremented, get_incremented] at found
    split at found
    · rename_i same
      rw [same]
      exact ⟨junction', by cases found; omega⟩
    · split at found
      · rename_i same
        rw [same]
        exact ⟨junction, by cases found; omega⟩
      · exact measuring.keys v n found
  · intro p earlier
    rcases List.mem_append.mp earlier with earlier | last
    · exact trail.mem_consumed.mpr (.inr (measuring.passed p earlier))
    · obtain rfl := List.mem_singleton.mp last
      exact trail.mem_consumed.mpr (.inl (List.mem_of_mem_head? trail.head))

theorem measure_chains {s : Measured} (loopless : Loopless edges)
    (run : (anchorStarts edges).foldlM (measureFrom points edges) ⟨[], [], []⟩ = .ok s) :
    ∃ chains, Measuring points edges (anchorStarts edges) chains s := by
  refine fold_progress (I := fun past s => ∃ chains, Measuring points edges past chains s)
    (fun past start rest s s' split held step => ?_) ⟨[], ?_⟩ run
  · obtain ⟨chains, measuring⟩ := held
    exact measuring.step loopless split step
  · exact measuring_start

theorem measure_total (loopless : Loopless edges)
    (known : ∀ v k, isInterstitial edges v = false → k ∈ adjacency edges v →
      ∃ p, points.get v = some p) :
    ∃ s, (anchorStarts edges).foldlM (measureFrom points edges) ⟨[], [], []⟩ = .ok s := by
  have located : ∀ {k : ℕ} {u : ℤ}, isInterstitial edges u = false → k ∈ adjacency edges u →
      ∃ p, pointOf points u = .ok p := by
    intro k u junction adjacent
    obtain ⟨p, here⟩ := known u k junction adjacent
    exact ⟨p, by unfold pointOf; rw [here]⟩
  refine (fold_total (I := fun past s => ∃ chains, Measuring points edges past chains s)
    (fun past start rest s split held => ?_) ⟨[], ?_⟩).imp fun _ => And.left
  · obtain ⟨chains, measuring⟩ := held
    have listed : start ∈ anchorStarts edges :=
      split ▸ List.mem_append_right _ List.mem_cons_self
    obtain ⟨junction, adjacent⟩ := mem_anchor_starts.mp listed
    obtain ⟨s', step⟩ : ∃ s', measureFrom points edges s start = .ok s' := by
      unfold measureFrom
      split
      · exact ⟨_, rfl⟩
      · rename_i fresh
        obtain ⟨trail, junction', -⟩ :=
          chain_spec loopless junction adjacent fresh measuring.even
        obtain ⟨k, arrives, -⟩ := trail.way.arrives
        obtain ⟨p, start_at⟩ := located junction adjacent
        obtain ⟨q, end_at⟩ := located junction' arrives
        exact ⟨_, bind_ok.mpr ⟨p, start_at, bind_ok.mpr ⟨q, end_at, rfl⟩⟩⟩
    exact ⟨s', step, measuring.step loopless split step⟩
  · exact measuring_start

theorem measure_known (loopless : Loopless edges)
    (known : ∀ edge ∈ edges, (∃ p, points.get edge.1 = some p) ∧
      ∃ p, points.get edge.2.1 = some p) : ∃ result, measureEdges points edges = .ok result := by
  obtain ⟨measured, run⟩ := measure_total loopless fun v k _ adjacent => by
    obtain ⟨edge, found, ends⟩ := mem_adjacency.mp adjacent
    obtain ⟨left, right⟩ := known edge (List.mem_of_getElem? found)
    rcases ends with rfl | rfl
    · exact left
    · exact right
  exact ⟨_, bind_ok.mpr ⟨measured, run, rfl⟩⟩

end Chains

section Rings

variable {chained : List ℕ} {rings : List StreetChain} {u w : ℤ} {members : List ℕ}

theorem Joined.symm (loopless : Loopless edges) (joined : Joined edges u v) : Joined edges v u := by
  induction joined with
  | refl => exact .refl
  | tail _ step ih =>
    obtain ⟨k, adjacent, rfl⟩ := step
    exact .head ⟨k, other_adjacent adjacent, (other_other loopless adjacent).symm⟩ ih

theorem Path.joined {start : ℤ} (way : Path edges start members w) :
    Joined edges start w ∧ ∀ k ∈ members, k ∈ adjacency edges v → Joined edges start v := by
  have ends : ∀ {u k}, Joined edges start u → k ∈ adjacency edges u → k ∈ adjacency edges v →
      Joined edges start v := by
    intro u k joined adjacent adjacent'
    rcases adjacent_ends adjacent adjacent' with rfl | rfl
    · exact joined
    · exact joined.tail ⟨k, adjacent, rfl⟩
  induction way with
  | @first i adjacent =>
    refine ⟨.single ⟨i, adjacent, rfl⟩, fun k listed adjacent' => ?_⟩
    obtain rfl := List.mem_singleton.mp listed
    exact ends .refl adjacent adjacent'
  | @onward _ _ _ j _ _ adjacent _ ih =>
    refine ⟨ih.1.tail ⟨j, adjacent, rfl⟩, fun k listed adjacent' => ?_⟩
    rcases List.mem_append.mp listed with earlier | last
    · exact ih.2 k earlier adjacent'
    · obtain rfl := List.mem_singleton.mp last
      exact ends ih.1 adjacent adjacent'

/-- A ring: a closed way whose nodes have no other streets. -/
structure RingOf (edges : List Edge) (r : StreetChain) : Prop where
  way : Path edges r.start r.members r.stop
  first : ∃ k ∈ adjacency edges r.start, k ∈ r.members
  inner : ∀ k ∈ r.members, ∀ u, k ∈ adjacency edges u → isInterstitial edges u = true
  closed : ∀ k ∈ r.members, ∀ u, k ∈ adjacency edges u → ∀ j ∈ adjacency edges u, j ∈ r.members

theorem RingOf.reaches {r : StreetChain} (ring : RingOf edges r) (joined : Joined edges r.start v) :
    ∃ k ∈ r.members, k ∈ adjacency edges v := by
  induction joined with
  | refl =>
    obtain ⟨k, adjacent, taken⟩ := ring.first
    exact ⟨k, taken, adjacent⟩
  | tail _ step ih =>
    obtain ⟨k, taken, adjacent⟩ := ih
    obtain ⟨j, adjacent_j, rfl⟩ := step
    exact ⟨j, ring.closed k taken _ adjacent j adjacent_j, other_adjacent adjacent_j⟩

/-- What the passes over the streets that are left keep. -/
structure Dropping (edges : List Edge) (chained : List ℕ) (past : List (Edge × ℕ))
    (rings : List StreetChain) (s : Dropped) : Prop where
  consumed : s.consumed.Perm (rings.flatMap StreetChain.members ++ chained)
  distinct : s.consumed.Nodup
  ringed : ∀ r ∈ rings, RingOf edges r
  count : s.count = rings.length
  length : s.lengthM = totalLength edges (rings.flatMap StreetChain.members)
  even : ∀ u, isInterstitial edges u = true → EvenAt edges s.consumed u
  passed : ∀ entry ∈ past, entry.2 ∈ s.consumed

theorem Dropping.step {past : List (Edge × ℕ)} {s : Dropped} {entry : Edge × ℕ}
    (loopless : Loopless edges) (dropping : Dropping edges chained past rings s)
    (listed : edges[entry.2]? = some entry.1)
    (ends : ∀ k, k ∉ chained → ∀ u, k ∈ adjacency edges u → isInterstitial edges u = true) :
    ∃ rings', Dropping edges chained (past ++ [entry]) rings' (dropFrom edges s entry) := by
  unfold dropFrom
  split
  · rename_i old
    refine ⟨rings, { dropping with passed := fun e earlier => ?_ }⟩
    rcases List.mem_append.mp earlier with earlier | last
    · exact dropping.passed e earlier
    · obtain rfl := List.mem_singleton.mp last
      exact old
  rename_i fresh
  have adjacent : entry.2 ∈ adjacency edges entry.1.1 :=
    mem_adjacency.mpr ⟨entry.1, listed, .inl rfl⟩
  have unchained : ∀ {k}, k ∉ s.consumed → k ∉ chained := fun new old =>
    new (dropping.consumed.mem_iff.mpr (List.mem_append_right _ old))
  obtain ⟨trail, back, even⟩ := ring_spec loopless adjacent fresh
    (fun k new => ends k (unchained new)) dropping.even
  set walk := ring edges s.consumed entry.1.1 entry.2
  have inner : ∀ k ∈ walk.members, ∀ u, k ∈ adjacency edges u → isInterstitial edges u = true :=
    fun k taken => ends k (unchained (trail.fresh k taken))
  have ringed : RingOf edges ⟨entry.1.1, walk.members, walk.nextNodeId⟩ := by
    refine ⟨trail.way, ⟨entry.2, adjacent, List.mem_of_mem_head? trail.head⟩, inner, ?_⟩
    intro k taken u adjacent_k j adjacent_j
    have inner_u := inner k taken u adjacent_k
    have consumed_j := even u inner_u k adjacent_k j adjacent_j
      (trail.mem_consumed.mpr (.inl taken))
    refine (trail.mem_consumed.mp consumed_j).resolve_right fun old => ?_
    exact trail.fresh k taken (dropping.even u inner_u j adjacent_j k adjacent_k old)
  refine ⟨rings ++ [⟨entry.1.1, walk.members, walk.nextNodeId⟩], ?_, ?_, ?_, ?_, ?_, even, ?_⟩
  · dsimp only
    rw [trail.consumed_eq, List.flatMap_append, List.flatMap_singleton]
    refine (walk.members.reverse_perm.append dropping.consumed).trans ?_
    rw [← List.append_assoc]
    exact List.perm_append_comm.append_right _
  · dsimp only
    rw [trail.consumed_eq]
    refine List.nodup_append.mpr ⟨List.nodup_reverse.mpr trail.distinct, dropping.distinct, ?_⟩
    rintro k new l old rfl
    exact trail.fresh k (List.mem_reverse.mp new) old
  · intro r listed
    rcases List.mem_append.mp listed with earlier | last
    · exact dropping.ringed r earlier
    · obtain rfl := List.mem_singleton.mp last
      exact ringed
  · rw [List.length_append, List.length_singleton, dropping.count]
  · dsimp only
    rw [dropping.length, trail.arc, List.flatMap_append, List.flatMap_singleton]
    unfold totalLength
    rw [List.map_append, List.sum_append]
  · intro e earlier
    rcases List.mem_append.mp earlier with earlier | last
    · exact trail.mem_consumed.mpr (.inr (dropping.passed e earlier))
    · obtain rfl := List.mem_singleton.mp last
      exact trail.mem_consumed.mpr (.inl (List.mem_of_mem_head? trail.head))

theorem drop_rings (start : Dropped) (loopless : Loopless edges) (begins : start.count = 0)
    (none : start.lengthM = 0) (distinct : start.consumed.Nodup)
    (ends : ∀ k, k ∉ start.consumed → ∀ u, k ∈ adjacency edges u → isInterstitial edges u = true)
    (even : ∀ u, isInterstitial edges u = true → EvenAt edges start.consumed u) :
    ∃ rings, Dropping edges start.consumed edges.zipIdx rings
      (edges.zipIdx.foldl (dropFrom edges) start) := by
  suffices all : ∀ l : List (Edge × ℕ), (∀ entry ∈ l, edges[entry.2]? = some entry.1) →
      ∃ rings, Dropping edges start.consumed l rings (l.foldl (dropFrom edges) start) from
    all _ fun entry listed => List.mem_zipIdx_iff_getElem?.mp listed
  intro l
  induction l using List.reverseRecOn with
  | nil =>
    intro _
    exact ⟨[], .refl _, distinct, fun _ none => absurd none List.not_mem_nil, begins, none, even,
      fun _ none => absurd none List.not_mem_nil⟩
  | append_singleton l entry ih =>
    intro listed
    obtain ⟨rings, dropping⟩ := ih fun e earlier => listed e (List.mem_append_left _ earlier)
    rw [List.foldl_append]
    exact dropping.step loopless (listed entry (by simp)) ends

theorem ncard_rings (loopless : Loopless edges) (ringed : ∀ r ∈ rings, RingOf edges r)
    (distinct : (rings.flatMap StreetChain.members).Nodup)
    (rest : ∀ k u, k ∈ adjacency edges u → (∃ r ∈ rings, k ∈ r.members) ∨
      ∃ anchor, isInterstitial edges anchor = false ∧ Joined edges anchor u) :
    (ringComponents edges).ncard = rings.length := by
  classical
  have components : ringComponents edges =
      ((rings.map fun r => {v | Joined edges r.start v}).toFinset : Set (Set ℤ)) := by
    ext component
    rw [Finset.mem_coe, List.mem_toFinset, List.mem_map]
    constructor
    · rintro ⟨u, rfl, inner⟩
      obtain ⟨i, j, pair, -⟩ := (interstitial_iff loopless).mp (inner u .refl)
      have adjacent : i ∈ adjacency edges u := by rw [pair]; exact List.mem_cons_self
      rcases rest i u adjacent with ⟨r, listed, taken⟩ | ⟨anchor, junction, joined⟩
      · refine ⟨r, listed, ?_⟩
        have from_start := ((ringed r listed).way.joined (v := u)).2 i taken adjacent
        ext v
        exact ⟨fun joined => (from_start.symm loopless).trans joined, from_start.trans⟩
      · have impossible := inner anchor (joined.symm loopless)
        rw [junction] at impossible
        cases impossible
    · rintro ⟨r, listed, rfl⟩
      refine ⟨r.start, rfl, fun v joined => ?_⟩
      obtain ⟨k, taken, adjacent⟩ := (ringed r listed).reaches joined
      exact (ringed r listed).inner k taken v adjacent
  have apart : (rings.map fun r => {v | Joined edges r.start v}).Nodup := by
    refine List.pairwise_map.mpr ((List.nodup_flatMap.mp distinct).2.imp_of_mem ?_)
    intro r r' listed listed' disjoint same
    obtain ⟨k, adjacent, taken⟩ := (ringed r' listed').first
    have joined : Joined edges r.start r'.start :=
      (Set.ext_iff.mp same r'.start).mpr .refl
    obtain ⟨l, taken_l, adjacent_l⟩ := (ringed r listed).reaches joined
    exact disjoint ((ringed r listed).closed l taken_l _ adjacent_l k adjacent) taken
  rw [components, Set.ncard_coe_finset, List.toFinset_card_of_nodup apart, List.length_map]

end Rings

section Conserved

variable {result : List Segment × Dict ℤ ℕ × ℕ × ℝ}

theorem total_length_append (first second : List ℕ) :
    totalLength edges (first ++ second) = totalLength edges first + totalLength edges second := by
  unfold totalLength
  rw [List.map_append, List.sum_append]

theorem total_length_all :
    totalLength edges (List.range edges.length) = (edges.map fun edge => edge.2.2).sum := by
  unfold totalLength
  refine congrArg List.sum (List.ext_getElem (by simp) fun i inside _ => ?_)
  rw [List.length_map, List.length_range] at inside
  simp [lengthOf, inside]

theorem segments_length {chains : List StreetChain} {segments : List Segment}
    (measured : List.Forall₂ (IsSegment points edges) chains segments) :
    (segments.map Prod.fst).sum = totalLength edges (chains.flatMap StreetChain.members) := by
  induction measured with
  | nil => simp [totalLength]
  | cons segment _ ih =>
    obtain ⟨_, _, -, -, rfl⟩ := segment
    rw [List.map_cons, List.sum_cons, ih, List.flatMap_cons, total_length_append]

/-- A measurement uses every street once. -/
theorem measure_conserves (loopless : Loopless edges)
    (run : measureEdges points edges = .ok result) :
    ∃ chains rings, Conserves points edges result chains rings := by
  obtain ⟨measured, chain_run, run⟩ := bind_ok.mp run
  obtain rfl := pure_ok.mp run
  obtain ⟨chains, measuring⟩ := measure_chains loopless chain_run
  have ends : ∀ k, k ∉ measured.consumed → ∀ u, k ∈ adjacency edges u →
      isInterstitial edges u = true := by
    intro k left u adjacent
    by_contra junction
    rw [Bool.not_eq_true] at junction
    exact left (measuring.passed (u, k) (mem_anchor_starts.mpr ⟨junction, adjacent⟩))
  obtain ⟨rings, dropping⟩ := drop_rings ⟨measured.consumed, 0, 0⟩ loopless rfl rfl
    measuring.distinct ends measuring.even
  set dropped := edges.zipIdx.foldl (dropFrom edges) ⟨measured.consumed, 0, 0⟩
  have split : dropped.consumed.Perm (rings.flatMap StreetChain.members ++
      chains.flatMap StreetChain.members) :=
    dropping.consumed.trans (measuring.consumed.append_left _)
  have inside : ∀ k ∈ dropped.consumed, k < edges.length := by
    intro k taken
    rcases List.mem_append.mp (split.mem_iff.mp taken) with there | there
    · obtain ⟨r, listed, member⟩ := List.mem_flatMap.mp there
      exact (dropping.ringed r listed).way.lt k member
    · obtain ⟨c, listed, member⟩ := List.mem_flatMap.mp there
      exact (measuring.chained c listed).way.lt k member
  have all : dropped.consumed.Perm (List.range edges.length) := by
    refine (List.perm_ext_iff_of_nodup dropping.distinct List.nodup_range).mpr fun k => ?_
    rw [List.mem_range]
    refine ⟨inside k, fun below => ?_⟩
    exact dropping.passed (edges[k], k)
      (List.mem_zipIdx_iff_getElem?.mpr (List.getElem?_eq_getElem below))
  have once : ((chains.flatMap StreetChain.members) ++
      (rings.map StreetChain.members).flatten).Perm (List.range edges.length) := by
    rw [← List.flatMap_def]
    exact List.perm_append_comm.trans (split.symm.trans all)
  refine ⟨chains, rings.map StreetChain.members, once, ?_, measuring.chained, measuring.segments,
    fun v => ?_, ?_, ?_⟩
  · rw [segments_length measuring.segments, dropping.length, ← total_length_append,
      ← total_length_all, List.flatMap_def]
    unfold totalLength
    rw [← List.flatMap_def]
    exact (once.map _).sum_eq
  · dsimp only
    by_cases junction : isInterstitial edges v = false
    · have degree := measuring.degrees v junction
      have counted : (measured.consumed.countP fun k => k ∈ adjacency edges v) =
          compiledDegree edges v := by
        unfold compiledDegree
        rw [List.countP_eq_length_filter]
        refine (List.perm_ext_iff_of_nodup (measuring.distinct.filter _)
          (adjacency_nodup loopless v)).mpr (fun k => ?_) |>.length_eq
        rw [List.mem_filter, decide_eq_true_eq]
        exact and_iff_right_of_imp fun adjacent =>
          measuring.passed (v, k) (mem_anchor_starts.mpr ⟨junction, adjacent⟩)
      rw [counted] at degree
      cases found : measured.degrees.get v with
      | none =>
        rw [found] at degree
        rw [if_pos (.inr degree.symm)]
      | some n =>
        obtain ⟨-, positive⟩ := measuring.keys v n found
        rw [found] at degree
        obtain rfl : n = compiledDegree edges v := degree
        rw [if_neg (by simp [junction, positive.ne'])]
    · rw [if_pos (.inl (Bool.not_eq_false _ ▸ junction))]
      cases found : measured.degrees.get v with
      | none => rfl
      | some n => exact absurd (measuring.keys v n found).1 junction
  · dsimp only
    rw [dropping.length, List.flatMap_def]
  · dsimp only
    rw [dropping.count]
    refine (ncard_rings loopless dropping.ringed ?_ fun k u adjacent => ?_).symm
    · exact (List.nodup_append.mp (split.nodup_iff.mp dropping.distinct)).1
    · have taken := all.mem_iff.mpr (List.mem_range.mpr (adjacent_lt adjacent))
      rcases List.mem_append.mp (split.mem_iff.mp taken) with there | there
      · exact .inl (List.mem_flatMap.mp there)
      · obtain ⟨c, listed, member⟩ := List.mem_flatMap.mp there
        have chained := measuring.chained c listed
        exact .inr ⟨c.start, chained.start_junction, chained.way.joined.2 k member adjacent⟩

end Conserved

section Topology

variable {topology : CompiledTopology} {geometry : Map.RoadGeometryCatalog ℝ}

theorem get_of_listed {α β : Type} {items : List α} {key : α → ℤ} {value : α → β} {k : ℤ} {b : β}
    (found : (Dict.update [] (items.map fun a => (key a, value a))).get k = some b) :
    ∃ a ∈ items, key a = k ∧ value a = b := by
  suffices all : ∀ (items : List α) (d : Dict ℤ β),
      (Dict.update d (items.map fun a => (key a, value a))).get k = some b →
      d.get k = some b ∨ ∃ a ∈ items, key a = k ∧ value a = b from
    (all items [] found).resolve_left fun none => nomatch none
  intro items
  induction items with
  | nil => exact fun d found => .inl found
  | cons a items ih =>
    intro d found
    rcases ih _ found with before | ⟨a', listed, here⟩
    · rw [Dict.get_set] at before
      split at before
      · rename_i same
        exact .inr ⟨a, List.mem_cons_self, same.symm, Option.some.inj before⟩
      · exact .inl before
    · exact .inr ⟨a', List.mem_cons_of_mem _ listed, here⟩

theorem get_listed {α β : Type} {items : List α} (key : α → ℤ) (value : α → β) {a : α}
    (listed : a ∈ items) :
    ∃ b, (Dict.update [] (items.map fun a => (key a, value a))).get (key a) = some b :=
  Dict.mem_keys_iff.mp (Dict.mem_keys_update.mpr (.inr (List.mem_map.mpr
    ⟨(key a, value a), List.mem_map_of_mem listed, rfl⟩)))

theorem collected_ends {edges : List Edge} (run : undirectedEdges topology geometry = .ok edges) :
    ∀ edge ∈ edges, ∃ link ∈ topology.links, edge.1 = min link.srcNodeId link.dstNodeId ∧
      edge.2.1 = max link.srcNodeId link.dstNodeId := by
  obtain ⟨collected, passes, done⟩ := bind_ok.mp run
  obtain rfl := pure_ok.mp done
  refine fold_invariant (I := fun s : List (ℤ × ℤ × ℤ) × List Edge => ∀ edge ∈ s.2,
    ∃ link ∈ topology.links, edge.1 = min link.srcNodeId link.dstNodeId ∧
      edge.2.1 = max link.srcNodeId link.dstNodeId) (fun assignment _ s s' held step => ?_)
    (fun _ none => absurd none List.not_mem_nil) passes
  unfold collectEdge at step
  split at step
  · cases step
  rename_i link found
  obtain ⟨link', listed, -, rfl⟩ := get_of_listed found
  dsimp only at step
  split at step
  · obtain rfl := pure_ok.mp step
    exact held
  · obtain ⟨centerline, -, step⟩ := bind_ok.mp step
    obtain rfl := pure_ok.mp step
    intro edge taken
    rcases List.mem_append.mp taken with earlier | last
    · exact held edge earlier
    · obtain rfl := List.mem_singleton.mp last
      exact ⟨link', listed, rfl, rfl⟩

theorem collected_loopless {edges : List Edge}
    (no_loops : ∀ link ∈ topology.links, link.srcNodeId ≠ link.dstNodeId)
    (run : undirectedEdges topology geometry = .ok edges) : Loopless edges := by
  intro edge listed
  obtain ⟨link, known, left, right⟩ := collected_ends run edge listed
  have apart := no_loops link known
  rw [left, right]
  omega

theorem collected_total
    (linked : ∀ a ∈ geometry.assignments, ∃ link ∈ topology.links, link.linkId = a.linkId) :
    ∃ edges, undirectedEdges topology geometry = .ok edges := by
  obtain ⟨collected, run, -⟩ := fold_total (I := fun _ _ => True)
    (f := collectEdge geometry
      (Dict.update [] (topology.links.map fun link => (link.linkId, link))))
    (l := geometry.assignments) (s := ([], []))
    (fun past a rest s split _ => by
      have listed : a ∈ geometry.assignments :=
        split ▸ List.mem_append_right _ List.mem_cons_self
      obtain ⟨link, known, same⟩ := linked a listed
      obtain ⟨link', found⟩ := get_listed CompiledLink.linkId id known
      obtain ⟨centerline, drawn, geometry_id⟩ := geometry.resolves a listed
      obtain ⟨line, line_found⟩ : ∃ line, geometry.centerlines.find?
          (fun c => c.geometryId = a.geometryId) = some line :=
        Option.isSome_iff_exists.mp (List.find?_isSome.mpr ⟨centerline, drawn, by
          simpa using geometry_id⟩)
      unfold collectEdge
      rw [← same]
      rw [show (Dict.update [] (topology.links.map fun link => (link.linkId, link))).get
        link.linkId = some link' from found]
      dsimp only
      split
      · exact ⟨_, rfl, trivial⟩
      · unfold Map.RoadGeometryCatalog.centerline
        rw [line_found]
        exact ⟨_, rfl, trivial⟩) trivial
  exact ⟨_, bind_ok.mpr ⟨collected, run, rfl⟩⟩

/-- Chain contraction conserves the street network, and only missing records stop it. -/
theorem contraction_conserves (topology : CompiledTopology)
    (geometry : Map.RoadGeometryCatalog ℝ)
    (no_loops : ∀ link ∈ topology.links, link.srcNodeId ≠ link.dstNodeId) :
    (∀ result, simplifiedSegments topology geometry = .ok result →
      ∃ edges chains rings, undirectedEdges topology geometry = .ok edges ∧
        Conserves (pointByNodeId topology) edges result chains rings) ∧
    ((∀ a ∈ geometry.assignments, ∃ link ∈ topology.links, link.linkId = a.linkId) →
      (∀ link ∈ topology.links, (∃ node ∈ topology.nodes, node.nodeId = link.srcNodeId) ∧
        ∃ node ∈ topology.nodes, node.nodeId = link.dstNodeId) →
      ∃ result, simplifiedSegments topology geometry = .ok result) := by
  constructor
  · intro result run
    obtain ⟨edges, collected, run⟩ := bind_ok.mp run
    obtain ⟨chains, rings, conserves⟩ :=
      measure_conserves (collected_loopless no_loops collected) run
    exact ⟨edges, chains, rings, collected, conserves⟩
  · intro linked noded
    obtain ⟨edges, collected⟩ := collected_total linked
    have located : ∀ edge ∈ edges, (∃ p, (pointByNodeId topology).get edge.1 = some p) ∧
        ∃ p, (pointByNodeId topology).get edge.2.1 = some p := by
      intro edge listed
      obtain ⟨link, known, left, right⟩ := collected_ends collected edge listed
      obtain ⟨⟨src, src_known, src_id⟩, dst, dst_known, dst_id⟩ := noded link known
      have at_src := get_listed CompiledNode.nodeId
        (fun node => ((node.x, node.y) : PointM ℝ)) src_known
      have at_dst := get_listed CompiledNode.nodeId
        (fun node => ((node.x, node.y) : PointM ℝ)) dst_known
      rw [src_id] at at_src
      rw [dst_id] at at_dst
      rw [left, right]
      rcases le_total link.srcNodeId link.dstNodeId with less | less
      · rw [min_eq_left less, max_eq_right less]
        exact ⟨at_src, at_dst⟩
      · rw [min_eq_right less, max_eq_left less]
        exact ⟨at_dst, at_src⟩
    obtain ⟨result, run⟩ := measure_known (collected_loopless no_loops collected) located
    exact ⟨result, bind_ok.mpr ⟨edges, collected, run⟩⟩

def twoWayStreet : CompiledTopology where
  nodes := [⟨0, 0, 0⟩, ⟨1, 1, 0⟩]
  links := [⟨0, 0, 1⟩, ⟨1, 1, 0⟩]

def twoWayGeometry : Map.RoadGeometryCatalog ℝ where
  centerlines := [{
    geometryId := 0
    pointsM := [(0, 0), (1, 0)]
    layer := 0
    id_nonneg := Lib.zero_id
    two_points := le_rfl
    finite := fun _ _ => ⟨rfl, rfl⟩
    steps_move := List.isChain_pair.mpr (by simp) }]
  assignments := [⟨0, 0, false, by decide⟩, ⟨1, 0, true, by decide⟩]
  geometry_ids := List.pairwise_singleton _ _
  link_ids := by simp
  resolves a listed := by
    refine ⟨_, List.mem_singleton.mpr rfl, ?_⟩
    rcases List.mem_pair.mp listed with rfl | rfl <;> rfl

theorem two_way_conserves :
    (∀ result, simplifiedSegments twoWayStreet twoWayGeometry = .ok result →
      ∃ edges chains rings, undirectedEdges twoWayStreet twoWayGeometry = .ok edges ∧
        Conserves (pointByNodeId twoWayStreet) edges result chains rings) ∧
    ((∀ a ∈ twoWayGeometry.assignments, ∃ link ∈ twoWayStreet.links, link.linkId = a.linkId) →
      (∀ link ∈ twoWayStreet.links,
        (∃ node ∈ twoWayStreet.nodes, node.nodeId = link.srcNodeId) ∧
          ∃ node ∈ twoWayStreet.nodes, node.nodeId = link.dstNodeId) →
      ∃ result, simplifiedSegments twoWayStreet twoWayGeometry = .ok result) :=
  contraction_conserves twoWayStreet twoWayGeometry (by simp [twoWayStreet])

end Topology

end Metroflow.City.Morphology
