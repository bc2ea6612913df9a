import Metroflow.City.ImmutableCsr

namespace Metroflow.City.LinkCsr

open Metroflow.Lib Metroflow.City.Csr

section Model

variable (nodeCount : ℕ)

/-- `counts` after its loop. -/
def tally (nodeIndices : List ℤ) : List ℕ :=
  nodeIndices.foldl (fun counts nodeIndex =>
    counts.set nodeIndex.toNat (counts.getD nodeIndex.toNat 0 + 1)) (List.replicate nodeCount 0)

/-- `_build_link_csr` -/
def buildLinkCsr (nodeIndices : List ℤ) : List ℕ × List ℕ :=
  let counts := tally nodeCount nodeIndices
  let indptr := (List.range nodeCount).foldl (fun indptr i =>
    indptr.set (i + 1) (indptr.getD i 0 + counts.getD i 0)) (List.replicate (nodeCount + 1) 0)
  (indptr, (nodeIndices.zipIdx.foldl writeLink
    (indptr.dropLast, List.replicate nodeIndices.length 0)).2)

/-- `adjacency_arrays` of the scalable adapter, before its arrays are made. -/
def adjacencyArrays (endpointIndices : List ℤ) : List ℕ × List ℕ :=
  let buckets := endpointIndices.zipIdx.foldl (fun buckets link =>
    buckets.set link.1.toNat (buckets.getD link.1.toNat [] ++ [link.2]))
    (List.replicate nodeCount [])
  buckets.foldl (fun s bucket =>
    let indices := s.2 ++ bucket
    (s.1 ++ [indices.length], indices)) ([0], [])

/-- The two lists of an index as int32 arrays. -/
def asArrays {S : Type} (csr : List ℕ × List ℕ) : Except String (NdArray S × NdArray S) := do
  let indptr ← int32Array (csr.1.map Nat.cast)
  let indices ← int32Array (csr.2.map Nat.cast)
  return (indptr, indices)

end Model

section Rows

variable {nodeCount v k : ℕ} {ns done rest : List ℕ}

/-- The links of a node, in ascending order. -/
def bucket (ns : List ℕ) (v : ℕ) : List ℕ := (List.range ns.length).filter fun l => ns[l]? = some v

/-- How many links belong to the nodes before one. -/
def start (ns : List ℕ) (v : ℕ) : ℕ := ns.countP (· < v)

def Indexed (nodeCount : ℕ) (ns : List ℕ) (arrays : List ℕ × List ℕ) : Prop :=
  arrays = ((List.range (nodeCount + 1)).map (start ns), (List.range nodeCount).flatMap (bucket ns))

theorem bucket_snoc (w : ℕ) :
    bucket (ns ++ [w]) v = bucket ns v ++ if w = v then [ns.length] else [] := by
  unfold bucket
  rw [List.length_append, List.length_singleton, List.range_succ, List.filter_append]
  congr 1
  · refine List.filter_congr fun l inside => ?_
    rw [List.getElem?_append_left (List.mem_range.mp inside)]
  · rw [List.filter_singleton]
    simp

theorem length_bucket : (bucket ns v).length = ns.count v := by
  induction ns using List.reverseRecOn with
  | nil => rfl
  | append_singleton ns w ih =>
    rw [bucket_snoc, List.length_append, ih, List.count_append, List.count_singleton]
    by_cases same : w = v <;> simp [same]

theorem start_succ : start ns (v + 1) = start ns v + ns.count v := by
  induction ns with
  | nil => rfl
  | cons w ns ih =>
    unfold start at ih ⊢
    rw [List.countP_cons, List.countP_cons, List.count_cons, ih]
    simp only [decide_eq_true_eq, beq_iff_eq]
    split_ifs <;> omega

theorem start_mono {w : ℕ} (le : v ≤ w) : start ns v ≤ start ns w :=
  List.countP_mono_left fun a _ less => by
    rw [decide_eq_true_eq] at less ⊢
    omega

theorem start_all (inside : ∀ w ∈ ns, w < nodeCount) : start ns nodeCount = ns.length :=
  List.countP_eq_length.mpr fun w listed => decide_eq_true (inside w listed)

theorem slots_eq {β : Type} (d : β) (f : β → ℕ → β) (g : List ℕ → ℕ → β) (empty : ∀ v, g [] v = d)
    (snoc : ∀ ns w v, g (ns ++ [w]) v = if w = v then f (g ns v) ns.length else g ns v)
    (inside : ∀ w ∈ ns, w < nodeCount) :
    (ns.map ((↑) : ℕ → ℤ)).zipIdx.foldl (fun slots link =>
      slots.set link.1.toNat (f (slots.getD link.1.toNat d) link.2)) (List.replicate nodeCount d) =
      (List.range nodeCount).map (g ns) := by
  induction ns using List.reverseRecOn with
  | nil =>
    refine List.ext_getElem (by simp) fun i _ _ => ?_
    simp [empty]
  | append_singleton ns w ih =>
    obtain ⟨before, last⟩ := List.forall_mem_append.mp inside
    have here := last w (List.mem_singleton_self w)
    have read : ((List.range nodeCount).map (g ns)).getD w d = g ns w := by
      rw [List.getD_eq_getElem _ d (by simpa using here)]
      simp
    rw [List.map_append, List.map_singleton, zip_idx_snoc, List.foldl_append, ih before,
      List.foldl_cons, List.foldl_nil, Int.toNat_natCast, read, List.length_map]
    refine List.ext_getElem (by simp) fun i small _ => ?_
    rw [List.getElem_set]
    simp only [List.getElem_map, List.getElem_range, snoc]
    split
    · rename_i same
      rw [same]
    · rfl

theorem tally_eq (inside : ∀ w ∈ ns, w < nodeCount) :
    tally nodeCount (ns.map ((↑) : ℕ → ℤ)) = (List.range nodeCount).map fun v => ns.count v := by
  refine Eq.trans ?_ (slots_eq 0 (fun total _ => total + 1) (fun ns v => ns.count v)
    (fun _ => rfl) (fun ns w v => ?_) inside)
  · unfold tally
    conv_lhs => rw [← List.zipIdx_map_fst 0 (ns.map ((↑) : ℕ → ℤ)), List.foldl_map]
  · rw [List.count_append, List.count_singleton]
    by_cases same : w = v <;> simp [same]

/-- What the writing loop has done with the first links. -/
structure Written (nodeCount : ℕ) (ns done : List ℕ) (s : List ℕ × List ℕ) : Prop where
  nodes : s.1.length = nodeCount
  next : ∀ v < nodeCount, s.1.getD v 0 = start ns v + done.count v
  links : s.2.length = ns.length
  cells : ∀ v, ∀ k < done.count v, s.2[start ns v + k]? = (bucket done v)[k]?

theorem written (inside : ∀ w ∈ ns, w < nodeCount) {indptr : List ℕ}
    (starts : indptr = (List.range nodeCount).map (start ns)) (all : ns = done ++ rest) :
    Written nodeCount ns done ((done.map ((↑) : ℕ → ℤ)).zipIdx.foldl writeLink
      (indptr, List.replicate ns.length 0)) := by
  induction done using List.reverseRecOn generalizing rest with
  | nil =>
    refine ⟨by simp [starts], fun v small => ?_, by simp, by simp⟩
    rw [List.map_nil, List.zipIdx_nil, List.foldl_nil, starts,
      List.getD_eq_getElem _ 0 (by simpa using small)]
    simp
  | append_singleton done w ih =>
    rw [List.append_assoc] at all
    have before := ih all
    have here : w < nodeCount := inside w (by simp [all])
    rw [List.map_append, List.map_singleton, zip_idx_snoc, List.foldl_append, List.foldl_cons,
      List.foldl_nil, List.length_map]
    generalize (done.map ((↑) : ℕ → ℤ)).zipIdx.foldl writeLink
      (indptr, List.replicate ns.length 0) = s at before ⊢
    unfold writeLink
    dsimp only
    rw [Int.toNat_natCast, before.next w here]
    have more : done.count w < ns.count w := by simp [all]
    have room : start ns w + ns.count w ≤ ns.length :=
      start_succ ▸ (start_mono here).trans_eq (start_all inside)
    refine ⟨by simp [before.nodes], fun v small => ?_, by simp [before.links], fun v k small => ?_⟩
    · rw [List.getD_eq_getElem _ 0 (by simpa [before.nodes] using small), List.getElem_set]
      have old := before.next v small
      rw [List.getD_eq_getElem _ 0 (by simpa [before.nodes] using small)] at old
      rw [old, List.count_append, List.count_singleton]
      by_cases same : w = v
      · subst same
        simp [add_assoc]
      · simp [same]
    · rw [List.count_append, List.count_singleton] at small
      rw [bucket_snoc]
      by_cases same : w = v
      · subst same
        simp only [beq_self_eq_true, if_true] at small ⊢
        rcases Nat.lt_succ_iff_lt_or_eq.mp small with old | rfl
        · rw [List.getElem?_set_ne (by omega), before.cells w k old,
            List.getElem?_append_left (by rw [length_bucket]; exact old)]
        · rw [List.getElem?_set_self (by rw [before.links]; omega), ← @length_bucket w done,
            List.getElem?_concat_length]
      · have own : k < done.count v := by simpa [same] using small
        have apart : start ns w + done.count w ≠ start ns v + k := by
          have total : done.count v ≤ ns.count v := by simp [all]
          rcases Nat.lt_or_gt_of_ne same with less | more'
          · have later : start ns (w + 1) ≤ start ns v := start_mono (Nat.succ_le_of_lt less)
            rw [start_succ] at later
            omega
          · have later : start ns (v + 1) ≤ start ns w := start_mono (Nat.succ_le_of_lt more')
            rw [start_succ] at later
            omega
        rw [List.getElem?_set_ne apart, before.cells v k own, if_neg same, List.append_nil]

theorem Written.indices (inside : ∀ w ∈ ns, w < nodeCount) {s : List ℕ × List ℕ}
    (h : Written nodeCount ns ns s) : s.2 = (List.range nodeCount).flatMap (bucket ns) := by
  have rows : ∀ v, (s.2.drop (start ns v)).take (ns.count v) = bucket ns v := by
    intro v
    refine List.ext_getElem? fun k => ?_
    rw [List.getElem?_take, List.getElem?_drop]
    split
    · rename_i small
      exact h.cells v k small
    · rename_i large
      rw [List.getElem?_eq_none (by rw [length_bucket]; omega)]
  have upto : ∀ m, s.2.take (start ns m) = (List.range m).flatMap (bucket ns) := by
    intro m
    induction m with
    | zero => simp [start]
    | succ m ih =>
      rw [start_succ, List.take_add, ih, rows, List.range_succ, List.flatMap_append]
      simp
  rw [← upto, start_all inside, ← h.links, List.take_length]

theorem written_rows (inside : ∀ w ∈ ns, w < nodeCount) : ((ns.map ((↑) : ℕ → ℤ)).zipIdx.foldl
    writeLink (((List.range (nodeCount + 1)).map (start ns)).dropLast,
      List.replicate ns.length 0)).2 = (List.range nodeCount).flatMap (bucket ns) := by
  refine (written inside ?_ (List.append_nil ns).symm).indices inside
  rw [List.range_succ, List.map_append, List.map_singleton, List.dropLast_concat]

theorem length_rows (m : ℕ) : ((List.range m).flatMap (bucket ns)).length = start ns m := by
  induction m with
  | zero => simp [start]
  | succ m ih =>
    rw [List.range_succ, List.flatMap_append, List.length_append, ih, start_succ]
    simp [length_bucket]

theorem build_link_csr_indexed (inside : ∀ w ∈ ns, w < nodeCount) :
    Indexed nodeCount ns (buildLinkCsr nodeCount (ns.map ((↑) : ℕ → ℤ))) := by
  have offsets : ∀ m ≤ nodeCount, (List.range m).foldl (fun indptr i => indptr.set (i + 1)
      (indptr.getD i 0 + ((List.range nodeCount).map fun v => ns.count v).getD i 0))
      (List.replicate (nodeCount + 1) 0) =
      (List.range (nodeCount + 1)).map fun i => if i ≤ m then start ns i else 0 := by
    intro m small
    induction m with
    | zero =>
      refine List.ext_getElem (by simp) fun i _ _ => ?_
      rcases Nat.eq_zero_or_pos i with rfl | positive
      · simp [start]
      · simp [positive.ne']
    | succ m ih =>
      rw [List.range_succ, List.foldl_append, ih (by omega), List.foldl_cons, List.foldl_nil,
        List.getD_eq_getElem _ 0 (by simp; omega), List.getD_eq_getElem _ 0 (by simp; omega)]
      simp only [List.getElem_map, List.getElem_range, le_refl, if_true, ← start_succ]
      refine List.ext_getElem (by simp) fun i _ _ => ?_
      rw [List.getElem_set]
      simp only [List.getElem_map, List.getElem_range]
      split_ifs <;> first | rfl | omega | simp_all
  have starts : (List.range (nodeCount + 1)).map
      (fun i => if i ≤ nodeCount then start ns i else 0) =
      (List.range (nodeCount + 1)).map (start ns) :=
    List.map_congr_left fun i small => if_pos (Nat.lt_succ_iff.mp (List.mem_range.mp small))
  unfold buildLinkCsr Indexed
  simp only [tally_eq inside, offsets nodeCount le_rfl, starts, List.length_map]
  exact Prod.ext rfl (written_rows inside)

theorem adjacency_arrays_indexed (inside : ∀ w ∈ ns, w < nodeCount) :
    Indexed nodeCount ns (adjacencyArrays nodeCount (ns.map ((↑) : ℕ → ℤ))) := by
  have buckets := slots_eq [] (fun (links : List ℕ) link => links ++ [link]) bucket
    (fun v => rfl) (fun ns w v => by rw [bucket_snoc]; split <;> simp) inside
  have joined : ∀ m, ((List.range m).map (bucket ns)).foldl (fun s bucket =>
      (s.1 ++ [(s.2 ++ bucket).length], s.2 ++ bucket)) ([0], []) =
      ((List.range (m + 1)).map (start ns), (List.range m).flatMap (bucket ns)) := by
    intro m
    induction m with
    | zero => simp [start]
    | succ m ih =>
      rw [List.range_succ, List.map_append, List.foldl_append, ih, List.map_singleton,
        List.foldl_cons, List.foldl_nil, List.range_succ (n := m + 1), List.map_append,
        List.flatMap_append, List.map_singleton, List.flatMap_singleton, List.length_append,
        length_rows, length_bucket, start_succ]
  unfold adjacencyArrays Indexed
  rw [buckets]
  exact joined nodeCount

theorem link_csr_arrays_eq {S : Type} (inside : ∀ w ∈ ns, w < nodeCount) :
    linkCsrArrays nodeCount (ns.map ((↑) : ℕ → ℤ)) =
      (asArrays (buildLinkCsr nodeCount (ns.map ((↑) : ℕ → ℤ))) :
        Except String (NdArray S × NdArray S)) := by
  have offsets : ∀ m, ((List.range m).map fun v => ns.count v).foldl
      (fun indptr count => indptr ++ [indptr.getLastD 0 + count]) [0] =
      (List.range (m + 1)).map (start ns) := by
    intro m
    induction m with
    | zero => simp [start]
    | succ m ih =>
      rw [List.range_succ, List.map_append, List.foldl_append, ih, List.map_singleton,
        List.foldl_cons, List.foldl_nil, List.range_succ (n := m + 1), List.map_append,
        List.range_succ, List.map_append]
      simp [start_succ]
  have tallied := tally_eq inside
  unfold tally at tallied
  unfold linkCsrArrays
  simp only [tallied, offsets, List.length_map, written_rows inside]
  rw [build_link_csr_indexed inside]
  rfl

theorem Indexed.slice {arrays : List ℕ × List ℕ} (h : Indexed nodeCount ns arrays)
    (small : v < nodeCount) :
    (arrays.2.drop (arrays.1.getD v 0)).take (arrays.1.getD (v + 1) 0 - arrays.1.getD v 0) =
      bucket ns v := by
  obtain rfl := h
  obtain ⟨later, rfl⟩ := Nat.exists_eq_add_of_lt small
  have size : ∀ {k}, k < v + later + 2 →
      k < ((List.range (v + later + 1 + 1)).map (start ns)).length := by
    intro k small
    rwa [List.length_map, List.length_range]
  rw [List.getD_eq_getElem _ 0 (size (by omega)), List.getD_eq_getElem _ 0 (size (by omega))]
  simp only [List.getElem_map, List.getElem_range]
  rw [show v + later + 1 = v + (1 + later) by omega, List.range_add, List.flatMap_append,
    ← length_rows v, List.drop_left, start_succ, length_rows, Nat.add_sub_cancel_left,
    Nat.add_comm 1, List.range_succ_eq_map, List.map_cons, List.flatMap_cons, Nat.add_zero,
    ← length_bucket, List.take_left]

theorem mem_bucket {l : ℕ} : l ∈ bucket ns v ↔ ns[l]? = some v := by
  unfold bucket
  rw [List.mem_filter, List.mem_range, decide_eq_true_eq, and_iff_right_iff_imp]
  exact fun found => (List.getElem?_eq_some_iff.mp found).1

theorem rows_perm (inside : ∀ w ∈ ns, w < nodeCount) :
    ((List.range nodeCount).flatMap (bucket ns)).Perm (List.range ns.length) := by
  have distinct : ((List.range nodeCount).flatMap (bucket ns)).Nodup := by
    refine List.nodup_flatMap.mpr ⟨fun v _ => List.nodup_range.filter _, ?_⟩
    refine List.nodup_range.imp fun {v w} apart => List.disjoint_left.mpr fun l here there => ?_
    exact apart (Option.some.inj ((mem_bucket.mp here).symm.trans (mem_bucket.mp there)))
  refine (List.perm_ext_iff_of_nodup distinct List.nodup_range).mpr fun l => ?_
  rw [List.mem_flatMap, List.mem_range]
  constructor
  · rintro ⟨v, -, listed⟩
    exact (List.getElem?_eq_some_iff.mp (mem_bucket.mp listed)).1
  · intro small
    exact ⟨ns[l], List.mem_range.mpr (inside _ (List.getElem_mem small)),
      mem_bucket.mpr (List.getElem?_eq_getElem small)⟩

structure LinkIndex (nodeCount : ℕ) (ns : List ℕ) (csr : List ℕ × List ℕ) : Prop where
  offsets : csr.1 = (List.range (nodeCount + 1)).map (start ns)
  rows : ∀ v < nodeCount,
    ((csr.2.drop (csr.1.getD v 0)).take (csr.1.getD (v + 1) 0 - csr.1.getD v 0)) = bucket ns v
  listed : ∀ v l, l ∈ bucket ns v ↔ ns[l]? = some v
  ascending : ∀ v, (bucket ns v).Pairwise (· < ·)
  once : csr.2.Perm (List.range ns.length)

theorem build_link_csr_spec (inside : ∀ w ∈ ns, w < nodeCount) :
    LinkIndex nodeCount ns (buildLinkCsr nodeCount (ns.map ((↑) : ℕ → ℤ))) := by
  have indexed := build_link_csr_indexed inside
  refine ⟨congrArg Prod.fst indexed, fun v small => indexed.slice small, fun v l => mem_bucket,
    fun v => List.pairwise_lt_range.filter _, ?_⟩
  rw [indexed]
  exact rows_perm inside

end Rows

end Metroflow.City.LinkCsr
