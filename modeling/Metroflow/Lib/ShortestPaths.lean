import Metroflow.Lib.Heap

namespace Metroflow.Lib

variable {K ν : Type*}

/-- Tentative costs of the nodes, and the labels that wait to be settled. -/
structure Labels (K ν : Type*) where
  dist : ν → K
  heap : List (K × ν)

section Search

variable [Add K] [LinearOrder K] [DecidableEq ν]

def relax (cost : K) (s : Labels K ν) (arc : ν × K) : Labels K ν :=
  if cost + arc.2 < s.dist arc.1 then
    { dist := Function.update s.dist arc.1 (cost + arc.2)
      heap := (cost + arc.2, arc.1) :: s.heap }
  else s

/-- Pops the least label; one that is not stale is passed on along the arcs of its node. -/
def settleNext (le : K × ν → K × ν → Bool) (arcs : ν → List (ν × K)) (s : Labels K ν) :
    Option (Labels K ν) :=
  match popMin le s.heap with
  | none => none
  | some ((cost, node), rest) =>
    if s.dist node < cost then some { s with heap := rest }
    else some ((arcs node).foldl (relax cost) { s with heap := rest })

end Search

variable [AddCommMonoid K] {arcs : ν → List (ν × K)} {source : ν}

inductive CostPath (arcs : ν → List (ν × K)) (source : ν) : ν → K → Prop
  | start : CostPath arcs source source 0
  | step {u : ν} {c : K} {arc : ν × K} (path : CostPath arcs source u c) (out : arc ∈ arcs u) :
      CostPath arcs source arc.1 (c + arc.2)

variable [LinearOrder K] [DecidableEq ν]

section Relax

variable {cost : K} {s : Labels K ν} {arc : ν × K} {v : ν}

theorem relax_of_le (high : s.dist arc.1 ≤ cost + arc.2) : relax cost s arc = s :=
  if_neg (not_lt.mpr high)

theorem relax_of_lt (lower : cost + arc.2 < s.dist arc.1) :
    relax cost s arc = ⟨Function.update s.dist arc.1 (cost + arc.2),
      (cost + arc.2, arc.1) :: s.heap⟩ :=
  if_pos lower

theorem relax_le (cost : K) (s : Labels K ν) (arc : ν × K) (v : ν) :
    (relax cost s arc).dist v ≤ s.dist v := by
  unfold relax
  split
  · rename_i lower
    by_cases here : v = arc.1
    · subst here
      simpa using lower.le
    · simp [here]
  · exact le_rfl

theorem relax_arc (cost : K) (s : Labels K ν) (arc : ν × K) :
    (relax cost s arc).dist arc.1 ≤ cost + arc.2 := by
  unfold relax
  split
  · simp
  · rename_i low
    exact not_lt.mp low

theorem heap_subset_relax (cost : K) (s : Labels K ν) (arc : ν × K) :
    s.heap ⊆ (relax cost s arc).heap := by
  unfold relax
  split
  · exact List.subset_cons_self _ _
  · exact List.Subset.refl _

theorem relax_new (cost : K) (s : Labels K ν) (arc : ν × K) (v : ν) :
    (relax cost s arc).dist v = s.dist v ∨
    ((relax cost s arc).dist v, v) ∈ (relax cost s arc).heap := by
  unfold relax
  split
  · by_cases here : v = arc.1
    · subst here
      simp
    · simp [here]
  · exact .inl rfl

theorem relax_settled [IsOrderedAddMonoid K] (nonneg : 0 ≤ arc.2) (low : s.dist v ≤ cost) :
    (relax cost s arc).dist v = s.dist v := by
  unfold relax
  split
  · rename_i lower
    have apart : v ≠ arc.1 := by
      rintro rfl
      exact absurd (low.trans (le_add_of_nonneg_right nonneg)) (not_le.mpr lower)
    simp [apart]
  · rfl

end Relax

/-- The label of a node waits on the heap, or its arcs have been followed. -/
def Followed (arcs : ν → List (ν × K)) (s : Labels K ν) (u : ν) : Prop :=
  (s.dist u, u) ∈ s.heap ∨ ∀ arc ∈ arcs u, s.dist arc.1 ≤ s.dist u + arc.2

theorem Followed.relax {s : Labels K ν} {u : ν} (h : Followed arcs s u) (cost : K)
    (arc : ν × K) : Followed arcs (relax cost s arc) u := by
  rcases relax_new cost s arc u with same | new
  · rw [Followed, same]
    rcases h with waits | followed
    · exact .inl (heap_subset_relax cost s arc waits)
    · exact .inr fun out listed => (relax_le cost s arc _).trans (followed out listed)
  · exact .inl new

/-- Labels are costs of paths, and what the heap holds was a label once. The nodes of
`S` are settled at a cost up to `level`, from which the heap starts. -/
structure Settled (arcs : ν → List (ν × K)) (source : ν) (cap : K) (S : Finset ν) (level : K)
    (s : Labels K ν) : Prop where
  source_free : s.dist source ≤ 0
  below_cap : ∀ v, s.dist v ≤ cap
  attained : ∀ v, s.dist v = cap ∨ CostPath arcs source v (s.dist v)
  heap_path : ∀ e ∈ s.heap, CostPath arcs source e.2 e.1
  heap_above : ∀ e ∈ s.heap, s.dist e.2 ≤ e.1
  heap_nodup : s.heap.Nodup
  heap_from : ∀ e ∈ s.heap, level ≤ e.1
  settled_low : ∀ v ∈ S, s.dist v ≤ level
  settled_gone : ∀ v ∈ S, (s.dist v, v) ∉ s.heap

namespace Settled

variable {cap level : K} {S : Finset ν} {s : Labels K ν}

omit [DecidableEq ν] in
theorem pop {le : K × ν → K × ν → Bool} {cost : K} {u : ν} {rest : List (K × ν)}
    (h : Settled arcs source cap S level s) (popped : popMin le s.heap = some ((cost, u), rest))
    (least : ∀ e ∈ rest, cost ≤ e.1) :
    level ≤ cost ∧ Settled arcs source cap S cost { s with heap := rest } := by
  have waited : (cost, u) ∈ s.heap := (pop_min_mem popped).mpr (.inl rfl)
  have from_level : level ≤ cost := h.heap_from _ waited
  have old : ∀ e ∈ rest, e ∈ s.heap := fun e listed => (pop_min_mem popped).mpr (.inr listed)
  exact ⟨from_level, h.source_free, h.below_cap, h.attained,
    fun e listed => h.heap_path e (old e listed), fun e listed => h.heap_above e (old e listed),
    (List.nodup_cons.mp ((pop_min_perm popped).nodup_iff.mp h.heap_nodup)).2, least,
    fun v settled => (h.settled_low v settled).trans from_level,
    fun v settled waits => h.settled_gone v settled (old _ waits)⟩

theorem settle (h : Settled arcs source cap S level s) {u : ν} {rest : List (K × ν)}
    {le : K × ν → K × ν → Bool} {cost : K}
    (popped : popMin le s.heap = some ((cost, u), rest)) (least : ∀ e ∈ rest, cost ≤ e.1)
    (fresh : cost ≤ s.dist u) :
    u ∉ S ∧ s.dist u = cost ∧ CostPath arcs source u cost ∧
      Settled arcs source cap (insert u S) cost { s with heap := rest } := by
  have waited : (cost, u) ∈ s.heap := (pop_min_mem popped).mpr (.inl rfl)
  have same : s.dist u = cost := le_antisymm (h.heap_above _ waited) fresh
  have gone : (cost, u) ∉ rest :=
    (List.nodup_cons.mp ((pop_min_perm popped).nodup_iff.mp h.heap_nodup)).1
  obtain ⟨_, next⟩ := h.pop popped least
  refine ⟨fun settled => h.settled_gone u settled (same ▸ waited), same, h.heap_path _ waited,
    { next with settled_low := ?_, settled_gone := ?_ }⟩
  · exact Finset.forall_mem_insert .. |>.mpr ⟨same.le, next.settled_low⟩
  · exact Finset.forall_mem_insert .. |>.mpr ⟨by rw [same]; exact gone, next.settled_gone⟩

variable [IsOrderedAddMonoid K]

theorem relax (h : Settled arcs source cap S level s) {u : ν} {arc : ν × K}
    (path : CostPath arcs source u level) (out : arc ∈ arcs u) (nonneg : 0 ≤ arc.2) :
    Settled arcs source cap S level (relax level s arc) := by
  have kept : ∀ v ∈ S, (Lib.relax level s arc).dist v = s.dist v :=
    fun v settled => relax_settled nonneg (h.settled_low v settled)
  rcases le_or_gt (s.dist arc.1) (level + arc.2) with high | lower
  · rw [relax_of_le high]
    exact h
  · have source_free := (relax_le level s arc source).trans h.source_free
    have below_cap := fun v => (relax_le level s arc v).trans (h.below_cap v)
    rw [relax_of_lt lower] at kept source_free below_cap ⊢
    refine ⟨source_free, below_cap, fun v => ?_, fun e waits => ?_, fun e waits => ?_, ?_,
      fun e waits => ?_, fun v settled => (kept v settled).trans_le (h.settled_low v settled),
      fun v settled waits => ?_⟩
    · dsimp only
      by_cases here : v = arc.1
      · subst here
        rw [Function.update_self]
        exact .inr (path.step out)
      · rw [Function.update_of_ne here]
        exact h.attained v
    · rcases List.mem_cons.mp waits with rfl | old
      · exact path.step out
      · exact h.heap_path e old
    · dsimp only
      rcases List.mem_cons.mp waits with rfl | old
      · rw [Function.update_self]
      · refine le_trans ?_ (h.heap_above e old)
        by_cases here : e.2 = arc.1
        · rw [here, Function.update_self]
          exact lower.le
        · rw [Function.update_of_ne here]
    · exact List.nodup_cons.mpr ⟨fun old => absurd (h.heap_above _ old) (not_le.mpr lower),
        h.heap_nodup⟩
    · rcases List.mem_cons.mp waits with rfl | old
      · exact le_add_of_nonneg_right nonneg
      · exact h.heap_from e old
    · rw [kept v settled] at waits
      rcases List.mem_cons.mp waits with new | old
      · obtain ⟨cost, rfl⟩ := Prod.mk.inj new
        exact absurd cost (ne_of_gt lower)
      · exact h.settled_gone v settled old

theorem relax_all (h : Settled arcs source cap S level s) {u : ν}
    (path : CostPath arcs source u level) {out : List (ν × K)} (listed : out ⊆ arcs u)
    (nonneg : ∀ arc ∈ out, 0 ≤ arc.2) :
    Settled arcs source cap S level (out.foldl (Lib.relax level) s) := by
  induction out generalizing s with
  | nil => exact h
  | cons arc out ih =>
    obtain ⟨here, later⟩ := List.cons_subset.mp listed
    obtain ⟨first, rest⟩ := List.forall_mem_cons.mp nonneg
    exact ih (h.relax path here first) later rest

end Settled

theorem relax_all_le (cost : K) (s : Labels K ν) (out : List (ν × K)) (v : ν) :
    (out.foldl (relax cost) s).dist v ≤ s.dist v := by
  induction out generalizing s with
  | nil => exact le_rfl
  | cons arc out ih => exact (ih (relax cost s arc)).trans (relax_le cost s arc v)

theorem relax_all_settled [IsOrderedAddMonoid K] {cost : K} {out : List (ν × K)}
    (nonneg : ∀ arc ∈ out, 0 ≤ arc.2) {s : Labels K ν} {v : ν} (low : s.dist v ≤ cost) :
    (out.foldl (relax cost) s).dist v = s.dist v := by
  induction out generalizing s with
  | nil => rfl
  | cons arc out ih =>
    obtain ⟨first, rest⟩ := List.forall_mem_cons.mp nonneg
    have kept : (relax cost s arc).dist v = s.dist v := relax_settled first low
    exact (ih rest (kept.trans_le low)).trans kept

theorem relax_all_arc (cost : K) (s : Labels K ν) (out : List (ν × K)) :
    ∀ arc ∈ out, (out.foldl (relax cost) s).dist arc.1 ≤ cost + arc.2 := by
  induction out generalizing s with
  | nil => simp
  | cons arc out ih =>
    refine List.forall_mem_cons.mpr ⟨?_, ih (relax cost s arc)⟩
    exact (relax_all_le cost (relax cost s arc) out arc.1).trans (relax_arc cost s arc)

theorem relax_all_followed (cost : K) (out : List (ν × K)) {s : Labels K ν} {u : ν}
    (h : Followed arcs s u) : Followed arcs (out.foldl (relax cost) s) u := by
  induction out generalizing s with
  | nil => exact h
  | cons arc out ih => exact ih (h.relax cost arc)

theorem relax_all_length (cost : K) (s : Labels K ν) (out : List (ν × K)) :
    (out.foldl (relax cost) s).heap.length ≤ s.heap.length + out.length := by
  induction out generalizing s with
  | nil => exact le_rfl
  | cons arc out ih =>
    have one : (relax cost s arc).heap.length ≤ s.heap.length + 1 := by
      unfold relax
      split
      · exact le_rfl
      · exact Nat.le_succ _
    have := ih (relax cost s arc)
    simp only [List.foldl_cons, List.length_cons]
    omega

/-- What holds between the passes of a search. -/
def Searching (arcs : ν → List (ν × K)) (source : ν) (cap : K) (S : Finset ν)
    (s : Labels K ν) : Prop :=
  (∃ level, Settled arcs source cap S level s) ∧ ∀ u, Followed arcs s u

/-- The labels before the first pass. -/
def startLabels (source : ν) (cap : K) : Labels K ν where
  dist v := if v = source then 0 else cap
  heap := [(0, source)]

theorem Searching.start [IsOrderedAddMonoid K] {cap : K} (nonneg : ∀ u, ∀ arc ∈ arcs u, 0 ≤ arc.2) (cap_nonneg : 0 ≤ cap) :
    Searching arcs source cap ∅ (startLabels source cap) := by
  have below : ∀ v, (startLabels source cap).dist v ≤ cap := by
    intro v
    unfold startLabels
    dsimp only
    split
    · exact cap_nonneg
    · exact le_rfl
  refine ⟨⟨0, ⟨by simp [startLabels], below, fun v => ?_, ?_, ?_, by simp [startLabels],
    by simp [startLabels], by simp, by simp⟩⟩, fun u => ?_⟩
  · by_cases here : v = source
    · subst here
      exact .inr (by simpa [startLabels] using CostPath.start)
    · exact .inl (by simp [startLabels, here])
  · simpa [startLabels] using CostPath.start
  · simp [startLabels]
  · by_cases here : u = source
    · subst here
      exact .inl (by simp [startLabels])
    · refine .inr fun arc listed => (below arc.1).trans ?_
      have label : (startLabels source cap).dist u = cap := by simp [startLabels, here]
      rw [label]
      exact le_add_of_nonneg_right (nonneg u arc listed)

section Run

variable [IsOrderedAddMonoid K] [Fintype ν] {le : K × ν → K × ν → Bool} {cap : K}

/-- The heap entries and the arcs that no settled node has followed. -/
def unfinished (arcs : ν → List (ν × K)) (S : Finset ν) (s : Labels K ν) : ℕ :=
  s.heap.length + ∑ u ∈ Sᶜ, (arcs u).length

theorem Searching.pass {S : Finset ν} {s s' : Labels K ν}
    (nonneg : ∀ u, ∀ arc ∈ arcs u, 0 ≤ arc.2) (total : ∀ a b, le a b ∨ le b a)
    (trans : ∀ a b c, le a b → le b c → le a c) (lower : ∀ a b, le a b → a.1 ≤ b.1)
    (h : Searching arcs source cap S s) (step : settleNext le arcs s = some s') :
    ∃ S', Searching arcs source cap S' s' ∧ unfinished arcs S' s' < unfinished arcs S s := by
  obtain ⟨⟨level, settled⟩, followed⟩ := h
  unfold settleNext at step
  split at step
  · cases step
  · rename_i cost u rest popped
    have least : ∀ e ∈ rest, cost ≤ e.1 :=
      fun e listed => lower _ _ (pop_min_least total trans popped e listed)
    have shorter := pop_min_length popped
    -- an entry other than the popped one still waits
    have waits : ∀ v, (s.dist v, v) ≠ (cost, u) → Followed arcs { s with heap := rest } v := by
      intro v other
      refine (followed v).imp (fun listed => ?_) id
      exact ((pop_min_mem popped).mp listed).resolve_left other
    split at step
    · rename_i stale
      obtain rfl := Option.some.inj step
      refine ⟨S, ⟨⟨cost, (settled.pop popped least).2⟩, fun v => waits v ?_⟩, ?_⟩
      · intro same
        obtain ⟨label, rfl⟩ := Prod.mk.inj same
        exact stale.ne label
      · simp only [unfinished, shorter]
        omega
    · rename_i fresh
      obtain ⟨new, same, path, next⟩ := settled.settle popped least (not_lt.mp fresh)
      obtain rfl := Option.some.inj step
      have kept := next.relax_all path (List.Subset.refl _) (nonneg u)
      refine ⟨insert u S, ⟨⟨cost, kept⟩, fun v => ?_⟩, ?_⟩
      · by_cases here : v = u
        · subst here
          have label : ((arcs v).foldl (relax cost) { s with heap := rest }).dist v = cost :=
            (relax_all_settled (nonneg v) (show (⟨s.dist, rest⟩ : Labels K ν).dist v ≤ cost from
              same.le)).trans same
          exact .inr fun arc listed => by rw [label]; exact relax_all_arc cost _ _ arc listed
        · exact relax_all_followed cost _ (waits v fun equal => here (Prod.mk.inj equal).2)
      · have opened : ∑ v ∈ Sᶜ, (arcs v).length =
            (arcs u).length + ∑ v ∈ (insert u S)ᶜ, (arcs v).length := by
          rw [Finset.compl_insert]
          exact (Finset.add_sum_erase _ _ (Finset.mem_compl.mpr new)).symm
        have pushed := relax_all_length cost { s with heap := rest } (arcs u)
        simp only [unfinished, opened, shorter] at pushed ⊢
        omega

theorem Searching.run {S : Finset ν} {s : Labels K ν} {fuel : ℕ}
    (nonneg : ∀ u, ∀ arc ∈ arcs u, 0 ≤ arc.2) (total : ∀ a b, le a b ∨ le b a)
    (trans : ∀ a b c, le a b → le b c → le a c) (lower : ∀ a b, le a b → a.1 ≤ b.1)
    (h : Searching arcs source cap S s) (enough : unfinished arcs S s ≤ fuel) :
    (loop (settleNext le arcs) fuel s).heap = [] ∧
      ∃ S', Searching arcs source cap S' (loop (settleNext le arcs) fuel s) := by
  induction fuel generalizing s S with
  | zero =>
    have empty : s.heap.length = 0 := by
      unfold unfinished at enough
      omega
    exact ⟨List.length_eq_zero_iff.mp empty, S, h⟩
  | succ fuel ih =>
    unfold loop
    split
    · rename_i stopped
      refine ⟨?_, S, h⟩
      unfold settleNext at stopped
      split at stopped
      · rename_i none
        exact pop_min_none.mp none
      · split at stopped <;> cases stopped
    · rename_i s' step
      obtain ⟨S', h', less⟩ := h.pass nonneg total trans lower step
      exact ih h' (by omega)

theorem labels_least (source : ν) (nonneg : ∀ u, ∀ arc ∈ arcs u, 0 ≤ arc.2) (cap_nonneg : 0 ≤ cap)
    (total : ∀ a b, le a b ∨ le b a) (trans : ∀ a b c, le a b → le b c → le a c)
    (lower : ∀ a b, le a b → a.1 ≤ b.1) {fuel : ℕ} (enough : 1 + ∑ u, (arcs u).length ≤ fuel) :
    let s := loop (settleNext le arcs) fuel (startLabels source cap)
    s.heap = [] ∧ ∀ v, s.dist v ≤ cap ∧ (s.dist v = cap ∨ CostPath arcs source v (s.dist v)) ∧
      ∀ c, CostPath arcs source v c → s.dist v ≤ c := by
  intro s
  have measure : unfinished arcs ∅ (startLabels source cap) ≤ fuel := by
    simpa [unfinished, startLabels] using enough
  obtain ⟨empty, S, ⟨level, settled⟩, followed⟩ :=
    (Searching.start nonneg cap_nonneg).run nonneg total trans lower measure
  refine ⟨empty, fun v => ⟨settled.below_cap v, settled.attained v, fun c path => ?_⟩⟩
  induction path with
  | start => exact settled.source_free
  | @step u c arc path out ih =>
    rcases followed u with waits | done
    · rw [empty] at waits
      cases waits
    · exact (done arc out).trans (by gcongr)

end Run

end Metroflow.Lib
