import Metroflow.Lib.Keyed

namespace Metroflow.Lib.Flood

/-- A search from one vertex: all that was ever seen, and of this search what still waits and what
is expanded. -/
structure Search (V : Type) where
  visited : Finset V
  queue : List V
  component : List V

section Search

variable {V : Type} [DecidableEq V]

def visit (s : Search V) (neighbor : V) : Search V :=
  if neighbor ∈ s.visited then s
  else { s with visited := insert neighbor s.visited, queue := s.queue ++ [neighbor] }

def flood (neighbors : V → List V) : ℕ → Search V → Search V
  | 0, s => s
  | fuel + 1, s =>
    match s.queue with
    | [] => s
    | current :: queue =>
      flood neighbors fuel ((neighbors current).foldl visit
        { s with queue := queue, component := s.component ++ [current] })

def Joined (neighbors : V → List V) : V → V → Prop :=
  Relation.ReflTransGen fun u v => v ∈ neighbors u

variable {neighbors : V → List V} {start u v : V} {old : Finset V} {s : Search V}
  {queue component vertices : List V}

omit [DecidableEq V] in
theorem Joined.symm (both : ∀ u v, v ∈ neighbors u → u ∈ neighbors v)
    (h : Joined neighbors u v) : Joined neighbors v u := by
  induction h with
  | refl => exact .refl
  | tail _ edge ih => exact .head (both _ _ edge) ih

/-- The search has seen vertices joined to its start, each once and none of them before. -/
structure Seen (neighbors : V → List V) (start : V) (old : Finset V) (s : Search V) : Prop where
  visited : ∀ v, v ∈ s.visited ↔ v ∈ old ∨ v ∈ s.component ++ s.queue
  distinct : (s.component ++ s.queue).Nodup
  new : ∀ v ∈ s.component ++ s.queue, v ∉ old
  joined : ∀ v ∈ s.component ++ s.queue, Joined neighbors start v

theorem Seen.visit (h : Seen neighbors start old s) (from_start : Joined neighbors start v) :
    Seen neighbors start old (Flood.visit s v) ∧ v ∈ (Flood.visit s v).visited ∧
      (Flood.visit s v).component = s.component ∧ s.visited ⊆ (Flood.visit s v).visited := by
  unfold Flood.visit
  by_cases known : v ∈ s.visited
  · rw [if_pos known]
    exact ⟨h, known, rfl, subset_rfl⟩
  · rw [if_neg known]
    obtain ⟨not_old, apart⟩ := not_or.mp (mt (h.visited v).mpr known)
    refine ⟨⟨fun w => ?_, ?_, ?_, ?_⟩, Finset.mem_insert_self _ _, rfl, Finset.subset_insert _ _⟩
    · change w ∈ insert v s.visited ↔ w ∈ old ∨ w ∈ s.component ++ (s.queue ++ [v])
      rw [Finset.mem_insert, h.visited, ← List.append_assoc, List.mem_append (t := [v]),
        List.mem_singleton]
      tauto
    · change (s.component ++ (s.queue ++ [v])).Nodup
      rw [← List.append_assoc, List.nodup_append_comm]
      exact List.nodup_cons.mpr ⟨apart, h.distinct⟩
    · intro w listed
      change w ∈ s.component ++ (s.queue ++ [v]) at listed
      rw [← List.append_assoc, List.mem_append, List.mem_singleton] at listed
      rcases listed with before | rfl
      · exact h.new w before
      · exact not_old
    · intro w listed
      change w ∈ s.component ++ (s.queue ++ [v]) at listed
      rw [← List.append_assoc, List.mem_append, List.mem_singleton] at listed
      rcases listed with before | rfl
      · exact h.joined w before
      · exact from_start

theorem Seen.visit_all (h : Seen neighbors start old s) (vs : List V)
    (from_start : ∀ v ∈ vs, Joined neighbors start v) :
    Seen neighbors start old (vs.foldl Flood.visit s) ∧
      (∀ v ∈ vs, v ∈ (vs.foldl Flood.visit s).visited) ∧
      (vs.foldl Flood.visit s).component = s.component ∧
      s.visited ⊆ (vs.foldl Flood.visit s).visited := by
  induction vs generalizing s with
  | nil => exact ⟨h, by simp, rfl, subset_rfl⟩
  | cons v vs ih =>
    obtain ⟨first, later⟩ := List.forall_mem_cons.mp from_start
    obtain ⟨seen, here, same, more⟩ := h.visit first
    obtain ⟨seen', rest, same', more'⟩ := ih seen later
    exact ⟨seen', List.forall_mem_cons.mpr ⟨more' here, rest⟩, same'.trans same,
      more.trans more'⟩

/-- Between two expansions: also, what is expanded has all its neighbors among what is seen. -/
structure Floods (neighbors : V → List V) (start : V) (old : Finset V) (s : Search V) : Prop
    extends Seen neighbors start old s where
  root : start ∈ s.component ++ s.queue
  covered : ∀ v ∈ s.component, ∀ w ∈ neighbors v, w ∈ s.visited

theorem Floods.init (neighbors : V → List V) (fresh : start ∉ old) :
    Floods neighbors start old ⟨insert start old, [start], []⟩ where
  visited v := by simp [or_comm]
  distinct := by simp
  new := by simpa using fresh
  joined v listed := by
    obtain rfl := List.mem_singleton.mp listed
    exact .refl
  root := by simp
  covered := by simp

theorem Floods.expand (h : Floods neighbors start old s) (next : s.queue = u :: queue) :
    Floods neighbors start old ((neighbors u).foldl Flood.visit
      { s with queue := queue, component := s.component ++ [u] }) ∧
      ((neighbors u).foldl Flood.visit
        { s with queue := queue, component := s.component ++ [u] }).component =
          s.component ++ [u] := by
  have same : s.component ++ [u] ++ queue = s.component ++ s.queue := by
    rw [next, List.append_assoc, List.singleton_append]
  have moved : Seen neighbors start old
      { s with queue := queue, component := s.component ++ [u] } :=
    ⟨fun v => by rw [h.visited, same], by rw [same]; exact h.distinct,
      by rw [same]; exact h.new, by rw [same]; exact h.joined⟩
  have here : Joined neighbors start u := h.joined u (by rw [next]; simp)
  obtain ⟨seen, neighbors_seen, component, more⟩ :=
    moved.visit_all (neighbors u) fun v edge => here.tail edge
  refine ⟨⟨seen, ?_, ?_⟩, component⟩
  · have root := h.root
    rw [← same] at root
    exact ((seen.visited _).mp (more ((moved.visited _).mpr (.inr root)))).resolve_left
      (h.new _ h.root)
  · intro v listed w edge
    rw [component, List.mem_append, List.mem_singleton] at listed
    rcases listed with before | rfl
    · exact more (h.covered v before w edge)
    · exact neighbors_seen w edge

omit [DecidableEq V] in
theorem Floods.finish (h : Floods neighbors start old s) (none : s.queue = [])
    (both : ∀ u v, v ∈ neighbors u → u ∈ neighbors v)
    (apart : ∀ u ∈ old, ∀ v ∈ neighbors u, v ∈ old) :
    s.component.Nodup ∧ (∀ v, v ∈ s.component ↔ Joined neighbors start v) ∧
      ∀ v, v ∈ s.visited ↔ v ∈ old ∨ v ∈ s.component := by
  obtain ⟨⟨visited, distinct, new, joined⟩, root, covered⟩ := h
  rw [none, List.append_nil] at visited distinct root joined new
  refine ⟨distinct, fun v => ⟨joined v, fun reached => ?_⟩, visited⟩
  induction reached with
  | refl => exact root
  | @tail u v _ edge ih =>
    refine ((visited v).mp (covered u ih v edge)).resolve_left fun seen => ?_
    exact new u ih (apart v seen u (both u v edge))

theorem flood_spec (fuel : ℕ) (h : Floods neighbors start old s)
    (both : ∀ u v, v ∈ neighbors u → u ∈ neighbors v)
    (apart : ∀ u ∈ old, ∀ v ∈ neighbors u, v ∈ old)
    (inside : ∀ v, Joined neighbors start v → v ∈ vertices)
    (enough : vertices.length ≤ s.component.length + fuel) :
    (flood neighbors fuel s).component.Nodup ∧
      (∀ v, v ∈ (flood neighbors fuel s).component ↔ Joined neighbors start v) ∧
      ∀ v, v ∈ (flood neighbors fuel s).visited ↔
        v ∈ old ∨ v ∈ (flood neighbors fuel s).component := by
  induction fuel generalizing s with
  | zero =>
    have within : (s.component ++ s.queue).length ≤ vertices.length :=
      (List.subperm_of_subset h.distinct fun v listed => inside v (h.joined v listed)).length_le
    rw [List.length_append] at within
    exact h.finish (List.eq_nil_of_length_eq_zero (by omega)) both apart
  | succ fuel ih =>
    unfold flood
    split
    · rename_i none
      exact h.finish none both apart
    · rename_i current queue next
      obtain ⟨expanded, component⟩ := h.expand next
      refine ih expanded ?_
      rw [component, List.length_append, List.length_singleton]
      omega

end Search

section Components

variable {V : Type} [LinearOrder V] {neighbors : V → List V} {ids past : List V} {components : List (List V)} {visited : Finset V}

/-- Starts a search where no earlier one came by. -/
def addComponent (neighbors : V → List V) (fuel : ℕ) (s : Finset V × List (List V)) (start : V) :
    Finset V × List (List V) :=
  if start ∈ s.1 then s
  else
    let search := flood neighbors fuel ⟨insert start s.1, [start], []⟩
    (search.visited, s.2 ++ [sortOn id search.component])

/-- The components found from the given starts, each in order. -/
def componentsFrom (neighbors : V → List V) (fuel : ℕ) (starts : List V) : List (List V) :=
  (starts.foldl (addComponent neighbors fuel) (∅, [])).2

/-- Lists that are each all the vertices joined to any of their own, no two of them alike. -/
structure Classes (neighbors : V → List V) (components : List (List V)) : Prop where
  distinct : components.flatten.Nodup
  nonempty : ∀ c ∈ components, c ≠ []
  classes : ∀ c ∈ components, ∀ u ∈ c, ∀ v, v ∈ c ↔ Joined neighbors u v

/-- After some starts: all that was seen is in a component, the starts among it. -/
structure Progress (neighbors : V → List V) (past : List V) (s : Finset V × List (List V)) : Prop
    extends Classes neighbors s.2 where
  visited : ∀ v, v ∈ s.1 ↔ v ∈ s.2.flatten
  passed : ∀ v ∈ past, v ∈ s.1
  reached : ∀ v ∈ s.1, ∃ start ∈ past, Joined neighbors start v
  sorted : ∀ c ∈ s.2, c.Pairwise (· < ·)

theorem Progress.add {s : Finset V × List (List V)} {start : V} {vertices : List V} {fuel : ℕ}
    (h : Progress neighbors past s) (both : ∀ u v, v ∈ neighbors u → u ∈ neighbors v)
    (inside : ∀ v, Joined neighbors start v → v ∈ vertices) (enough : vertices.length ≤ fuel) :
    Progress neighbors (past ++ [start]) (addComponent neighbors fuel s start) := by
  unfold addComponent
  by_cases known : start ∈ s.1
  · rw [if_pos known]
    refine ⟨h.toClasses, h.visited, fun v listed => ?_, fun v seen => ?_, h.sorted⟩
    · rcases List.mem_append.mp listed with before | here
      · exact h.passed v before
      · exact List.mem_singleton.mp here ▸ known
    · obtain ⟨first, listed, joined⟩ := h.reached v seen
      exact ⟨first, List.mem_append_left _ listed, joined⟩
  · rw [if_neg known]
    have apart : ∀ u ∈ s.1, ∀ v ∈ neighbors u, v ∈ s.1 := by
      intro u seen v edge
      obtain ⟨c, listed, mem⟩ := List.mem_flatten.mp ((h.visited u).mp seen)
      exact (h.visited v).mpr (List.mem_flatten.mpr
        ⟨c, listed, (h.classes c listed u mem v).mpr (.single edge)⟩)
    obtain ⟨distinct, joined, visited⟩ := flood_spec fuel (Floods.init neighbors known) both apart
      inside (by simpa using enough)
    generalize flood neighbors fuel ⟨insert start s.1, [start], []⟩ = search at *
    have new : ∀ v ∈ search.component, v ∉ s.2.flatten := by
      intro v listed seen
      obtain ⟨c, known_c, mem⟩ := List.mem_flatten.mp seen
      have back := ((joined v).mp listed).symm both
      exact known ((h.visited start).mpr (List.mem_flatten.mpr
        ⟨c, known_c, (h.classes c known_c v mem start).mpr back⟩))
    have strict : (sortOn id search.component).Pairwise (· < ·) :=
      sort_on_strict ((List.map_id search.component).symm ▸ distinct)
    refine ⟨⟨?_, ?_, ?_⟩, fun v => ?_, fun v listed => ?_, fun v seen => ?_, ?_⟩
    · rw [List.flatten_append, List.flatten_singleton]
      refine List.Nodup.append h.distinct (sort_on_perm.nodup_iff.mpr distinct) ?_
      intro v old mine
      exact new v (mem_sort_on.mp mine) old
    · intro c listed
      rcases List.mem_append.mp listed with old | mine
      · exact h.nonempty c old
      · rw [List.mem_singleton.mp mine]
        exact List.ne_nil_of_mem (mem_sort_on.mpr ((joined start).mpr .refl))
    · intro c listed u mem v
      rcases List.mem_append.mp listed with old | mine
      · exact h.classes c old u mem v
      · rw [List.mem_singleton.mp mine] at mem ⊢
        have to_u := (joined u).mp (mem_sort_on.mp mem)
        rw [mem_sort_on, joined]
        exact ⟨fun reached => (to_u.symm both).trans reached, fun reached => to_u.trans reached⟩
    · rw [visited, h.visited, List.flatten_append, List.flatten_singleton, List.mem_append,
        mem_sort_on]
    · rw [visited]
      rcases List.mem_append.mp listed with before | here
      · exact .inl (h.passed v before)
      · exact .inr ((joined v).mpr (List.mem_singleton.mp here ▸ .refl))
    · rcases (visited v).mp seen with old | mine
      · obtain ⟨first, listed, reached⟩ := h.reached v old
        exact ⟨first, List.mem_append_left _ listed, reached⟩
      · exact ⟨start, by simp, (joined v).mp mine⟩
    · intro c listed
      rcases List.mem_append.mp listed with old | mine
      · exact h.sorted c old
      · exact List.mem_singleton.mp mine ▸ strict

theorem components_from_spec {vertices : List V} {fuel : ℕ} (starts : List V)
    (both : ∀ u v, v ∈ neighbors u → u ∈ neighbors v)
    (inside : ∀ start ∈ starts, ∀ v, Joined neighbors start v → v ∈ vertices)
    (enough : vertices.length ≤ fuel) :
    Classes neighbors (componentsFrom neighbors fuel starts) ∧
      (∀ c ∈ componentsFrom neighbors fuel starts, c.Pairwise (· < ·)) ∧
      (∀ start ∈ starts, start ∈ (componentsFrom neighbors fuel starts).flatten) ∧
      ∀ v ∈ (componentsFrom neighbors fuel starts).flatten,
        ∃ start ∈ starts, Joined neighbors start v := by
  suffices progress : Progress neighbors starts
      (starts.foldl (addComponent neighbors fuel) (∅, [])) from
    ⟨progress.toClasses, progress.sorted,
      fun start listed => (progress.visited start).mp (progress.passed start listed),
      fun v listed => progress.reached v ((progress.visited v).mpr listed)⟩
  induction starts using List.reverseRecOn with
  | nil => exact ⟨⟨List.nodup_nil, by simp, by simp⟩, by simp, by simp, by simp, by simp⟩
  | append_singleton starts start ih =>
    rw [List.foldl_append, List.foldl_cons, List.foldl_nil]
    refine (ih fun start listed => inside start (List.mem_append_left _ listed)).add both ?_ enough
    exact inside start (by simp)

end Components

end Metroflow.Lib.Flood
