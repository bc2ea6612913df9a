import Metroflow.Lib.Loops

namespace Metroflow.Lib.UnionFind

open Relation (EqvGen)

variable {α : Type*} [LinearOrder α]

/-- One step towards the root, which halves the path behind it. -/
def climb (s : (α → α) × α) : Option ((α → α) × α) :=
  if s.1 s.2 = s.2 then none
  else some (Function.update s.1 s.2 (s.1 (s.1 s.2)), s.1 (s.1 s.2))

/-- The parents after a search and the root that was found. -/
def find (fuel : ℕ) (parent : α → α) (x : α) : (α → α) × α := loop climb fuel (parent, x)

/-- Joins the classes of two members; the higher root is put under the lower. -/
def union (fuel : ℕ) (parent : α → α) (left right : α) : α → α :=
  let leftFound := find fuel parent left
  let rightFound := find fuel leftFound.1 right
  if leftFound.2 = rightFound.2 then rightFound.1
  else Function.update rightFound.1 (max leftFound.2 rightFound.2) (min leftFound.2 rightFound.2)

structure Forest (members : List α) (parent root : α → α) : Prop where
  down : ∀ x, parent x ≤ x
  moved : ∀ x, parent x ≠ x → x ∈ members
  along : ∀ x, root (parent x) = root x
  fixed : ∀ x, parent x = x → root x = x
  top : ∀ x, parent (root x) = root x
  inside : ∀ x ∈ members, root x ∈ members

variable {members : List α} {parent root : α → α} {fuel : ℕ} {x y left right : α}

theorem Forest.id (members : List α) : Forest members id id where
  down _ := le_rfl
  moved _ other := absurd rfl other
  along _ := rfl
  fixed _ _ := rfl
  top _ := rfl
  inside _ mem := mem

theorem Forest.root_root (h : Forest members parent root) (x : α) : root (root x) = root x :=
  h.fixed _ (h.top x)

theorem Forest.halve (h : Forest members parent root) (low : parent x ≠ x) :
    Forest members (Function.update parent x (parent (parent x))) root where
  down y := by
    rw [Function.update_apply]
    split
    · rename_i here
      rw [here]
      exact (h.down _).trans (h.down x)
    · exact h.down y
  moved y other := by
    rw [Function.update_apply] at other
    split at other
    · rename_i here
      exact here ▸ h.moved x low
    · exact h.moved y other
  along y := by
    rw [Function.update_apply]
    split
    · rename_i here
      rw [h.along, h.along, here]
    · exact h.along y
  fixed y same := by
    rw [Function.update_apply] at same
    split at same
    · rename_i here
      -- going down twice and coming back means not having moved
      subst here
      exact absurd (le_antisymm (h.down y) (same.ge.trans (h.down _))) low
    · exact h.fixed y same
  top y := by
    rw [Function.update_of_ne]
    · exact h.top y
    · rintro rfl
      exact low (h.top y)
  inside := h.inside

theorem count_lt_of_moved (down : y < x) (mem : x ∈ members) :
    members.countP (· ≤ y) < members.countP (· ≤ x) := by
  obtain ⟨before, after, rfl⟩ := List.append_of_mem mem
  have rest : ∀ l : List α, l.countP (· ≤ y) ≤ l.countP (· ≤ x) := fun l =>
    List.countP_mono_left fun z _ le => by
      rw [decide_eq_true_eq] at le ⊢
      exact le.trans down.le
  have here := rest before
  have there := rest after
  rw [List.countP_append, List.countP_append, List.countP_cons_of_neg (by simpa using down),
    List.countP_cons_of_pos (by simp)]
  omega

theorem climb_some {s s' : (α → α) × α} (step : climb s = some s') : s.1 s.2 ≠ s.2 ∧
    s' = (Function.update s.1 s.2 (s.1 (s.1 s.2)), s.1 (s.1 s.2)) := by
  unfold climb at step
  split at step
  · cases step
  · rename_i low
    exact ⟨low, (Option.some.inj step).symm⟩

theorem find_keeps {I : (α → α) → Prop} (size : α → ℕ)
    (halve : ∀ {parent y}, I parent → parent y ≠ y →
      I (Function.update parent y (parent (parent y))) ∧ root (parent (parent y)) = root y ∧
        size (parent (parent y)) < size y)
    (fixed : ∀ {parent y}, I parent → parent y = y → root y = y) (h : I parent)
    (enough : size x ≤ fuel) : I (find fuel parent x).1 ∧ (find fuel parent x).2 = root x ∧
      climb (find fuel parent x) = none := by
  have kept : ∀ s s' : (α → α) × α, I s.1 ∧ root s.2 = root x → climb s = some s' →
      I s'.1 ∧ root s'.2 = root x := by
    rintro s s' ⟨good, same⟩ step
    obtain ⟨low, rfl⟩ := climb_some step
    obtain ⟨good', same', -⟩ := halve good low
    exact ⟨good', same'.trans same⟩
  obtain ⟨good, same⟩ := loop_invariant kept fuel (s := (parent, x)) ⟨h, rfl⟩
  have halted : climb (find fuel parent x) = none := by
    refine loop_halts kept (fun s => size s.2) (fun s s' good step => ?_) ⟨h, rfl⟩ enough
    obtain ⟨low, rfl⟩ := climb_some step
    exact (halve good.1 low).2.2
  refine ⟨good, ?_, halted⟩
  unfold climb at halted
  split at halted
  · rename_i still
    exact (fixed good still).symm.trans same
  · cases halted

theorem Forest.find (h : Forest members parent root) (enough : members.length ≤ fuel) (x : α) :
    Forest members (find fuel parent x).1 root ∧ (find fuel parent x).2 = root x := by
  obtain ⟨forest, found, -⟩ := find_keeps (I := fun parent => Forest members parent root)
    (fun y => members.countP (· ≤ y)) (fun {parent y} forest low => ⟨forest.halve low,
      by rw [forest.along, forest.along], count_lt_of_moved
        ((forest.down _).trans_lt (lt_of_le_of_ne (forest.down y) low)) (forest.moved y low)⟩)
    (fun forest still => forest.fixed _ still) h (List.countP_le_length.trans enough)
  exact ⟨forest, found⟩

theorem Forest.link (h : Forest members parent root) {lower upper : α} (less : lower < upper)
    (low : root lower = lower) (high : root upper = upper) (mem : upper ∈ members)
    (mem' : lower ∈ members) :
    Forest members (Function.update parent upper lower)
      (fun x => if root x = upper then lower else root x) where
  down y := by
    rw [Function.update_apply]
    split
    · rename_i here
      exact here ▸ less.le
    · exact h.down y
  moved y other := by
    rw [Function.update_apply] at other
    split at other
    · rename_i here
      exact here ▸ mem
    · exact h.moved y other
  along y := by
    rw [Function.update_apply]
    by_cases here : y = upper
    · rw [if_pos here, here, high, if_pos rfl, low, if_neg less.ne]
    · rw [if_neg here, h.along]
  fixed y same := by
    rw [Function.update_apply] at same
    split at same
    · rename_i here
      exact absurd (same.trans here) less.ne
    · rename_i elsewhere
      rw [h.fixed y same, if_neg elsewhere]
  top y := by
    have still : ∀ z, root z = z → parent z = z := fun z same => same ▸ h.top z
    by_cases here : root y = upper
    · rw [if_pos here, Function.update_of_ne less.ne]
      exact still lower low
    · rw [if_neg here, Function.update_of_ne here]
      exact h.top y
  inside y known := by
    split
    · exact mem'
    · exact h.inside y known

/-- The parents know the classes that the pairs joined so far make. -/
def Classes (members : List α) (pairs : List (α × α)) (parent : α → α) : Prop :=
  ∃ root, Forest members parent root ∧
    ∀ x y, root x = root y ↔ EqvGen (fun a b => (a, b) ∈ pairs) x y

omit [LinearOrder α] in
theorem eqv_gen_of_agree {R : α → α → Prop} {f : α → α} (agree : ∀ a b, R a b → f a = f b)
    (h : EqvGen R x y) : f x = f y := by
  induction h with
  | rel a b related => exact agree a b related
  | refl a => rfl
  | symm a b _ ih => exact ih.symm
  | trans a b c _ _ first second => exact first.trans second

theorem classes_link {R R' : α → α → Prop}
    (classes : ∀ x y, root x = root y ↔ EqvGen R x y) (more : ∀ x y, R x y → R' x y)
    (joins : EqvGen R' left right)
    (only : ∀ x y, R' x y → R x y ∨ x = left ∧ y = right ∨ x = right ∧ y = left) (x y : α) :
    (if root x = root right then root left else root x) =
        (if root y = root right then root left else root y) ↔ EqvGen R' x y := by
  have grown : ∀ {a b}, root a = root b → EqvGen R' a b :=
    fun same => ((classes _ _).mp same).mono more
  constructor
  · intro same
    split at same <;> split at same
    · rename_i first second
      exact grown (first.trans second.symm)
    · rename_i first _
      exact (grown first).trans _ _ _ ((joins.symm _ _).trans _ _ _ (grown same))
    · rename_i second
      exact (grown same).trans _ _ _ (joins.trans _ _ _ ((grown second).symm _ _))
    · exact grown same
  · refine eqv_gen_of_agree (f := fun z => if root z = root right then root left else root z) ?_
    intro a b related
    rcases only a b related with old | ⟨rfl, rfl⟩ | ⟨rfl, rfl⟩
    · simp only [(classes a b).mpr (.rel _ _ old)]
    · simp
    · simp

theorem Classes.nil (members : List α) : Classes members [] id :=
  ⟨id, Forest.id members, fun x y => ⟨fun same => by
    obtain rfl : x = y := same
    exact .refl x, fun joined => eqv_gen_of_agree (fun _ _ none => by cases none) joined⟩⟩

theorem Classes.union {pairs : List (α × α)} (h : Classes members pairs parent)
    (enough : members.length ≤ fuel) (left_mem : left ∈ members) (right_mem : right ∈ members) :
    Classes members (pairs ++ [(left, right)]) (union fuel parent left right) := by
  obtain ⟨root, forest, classes⟩ := h
  obtain ⟨forest, found⟩ := forest.find enough left
  obtain ⟨forest, found'⟩ := forest.find enough right
  have grown : ∀ {a b}, EqvGen (fun a b => (a, b) ∈ pairs) a b →
      EqvGen (fun a b => (a, b) ∈ pairs ++ [(left, right)]) a b :=
    fun joined => joined.mono fun _ _ mem => List.mem_append_left _ mem
  have joins : EqvGen (fun a b => (a, b) ∈ pairs ++ [(left, right)]) left right :=
    .rel _ _ (List.mem_append_right _ (List.mem_singleton_self _))
  unfold UnionFind.union
  simp only [found, found']
  split
  · rename_i same
    refine ⟨root, forest, fun x y => ⟨fun equal => grown ((classes x y).mp equal), ?_⟩⟩
    refine eqv_gen_of_agree fun a b mem => ?_
    rcases List.mem_append.mp mem with old | new
    · exact (classes a b).mpr (.rel _ _ old)
    · obtain ⟨rfl, rfl⟩ := Prod.mk.inj (List.mem_singleton.mp new)
      exact same
  · rename_i apart
    rcases le_total (root left) (root right) with less | less
    · rw [min_eq_left less, max_eq_right less]
      exact ⟨_, forest.link (lt_of_le_of_ne less apart) (forest.root_root left)
        (forest.root_root right) (forest.inside right right_mem) (forest.inside left left_mem),
        classes_link classes (fun _ _ old => List.mem_append_left _ old) joins fun a b mem =>
          (List.mem_append.mp mem).imp_right fun new =>
            .inl (Prod.mk.inj (List.mem_singleton.mp new))⟩
    · rw [min_eq_right less, max_eq_left less]
      exact ⟨_, forest.link (lt_of_le_of_ne less (Ne.symm apart)) (forest.root_root right)
        (forest.root_root left) (forest.inside left left_mem) (forest.inside right right_mem),
        classes_link classes (fun _ _ old => List.mem_append_left _ old) (joins.symm _ _)
          fun a b mem => (List.mem_append.mp mem).imp_right fun new =>
            .inr (Prod.mk.inj (List.mem_singleton.mp new))⟩

end Metroflow.Lib.UnionFind
