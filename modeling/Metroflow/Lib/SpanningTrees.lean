import Metroflow.Lib.Common

namespace Metroflow.Lib.SpanningTrees

open Relation (EqvGen)

variable {E V K : Type*} (ends : E → V × V)

/-- Two nodes that the edges of a list join. -/
def Joined (es : List E) : V → V → Prop := EqvGen fun a b => ∃ e ∈ es, ends e = (a, b)

/-- As many edges as a tree on the first `n` numbers has, which join all of them. -/
structure SpanningTree (ends : E → ℕ × ℕ) (n : ℕ) (tree : List E) : Prop where
  inside : ∀ e ∈ tree, (ends e).1 < n ∧ (ends e).2 < n
  size : tree.length = n - 1
  joins : ∀ u < n, ∀ v < n, Joined ends tree u v

variable {ends} {es es' tree rest : List E} {e f : E} {u v : V}

theorem joined_ends (listed : e ∈ es) : Joined ends es (ends e).1 (ends e).2 :=
  .rel _ _ ⟨e, listed, rfl⟩

theorem Joined.same_side {C : V → Prop} (h : Joined ends es u v)
    (stays : ∀ e ∈ es, C (ends e).1 ↔ C (ends e).2) : C u ↔ C v := by
  induction h with
  | rel a b related =>
    obtain ⟨e, listed, at_ends⟩ := related
    simpa [at_ends] using stays e listed
  | refl a => rfl
  | symm a b _ ih => exact ih.symm
  | trans a b c _ _ first second => exact first.trans second

theorem Joined.of_edges (h : Joined ends es u v)
    (joins : ∀ e ∈ es, Joined ends es' (ends e).1 (ends e).2) : Joined ends es' u v :=
  (h.same_side fun e listed => ⟨fun there => there.trans _ _ _ (joins e listed),
    fun there => there.trans _ _ _ ((joins e listed).symm _ _)⟩).mp (.refl u)

theorem Joined.mono (h : Joined ends es u v) (more : ∀ e ∈ es, e ∈ es') : Joined ends es' u v :=
  h.of_edges fun e listed => joined_ends (more e listed)

theorem Joined.through (h : Joined ends (es ++ [f]) u v) : Joined ends es u v ∨
    Joined ends es u (ends f).1 ∧ Joined ends es (ends f).2 v ∨
    Joined ends es u (ends f).2 ∧ Joined ends es (ends f).1 v := by
  refine (h.same_side (C := fun z => Joined ends es u z ∨ Joined ends es u (ends f).1 ∧
    Joined ends es (ends f).2 z ∨ Joined ends es u (ends f).2 ∧ Joined ends es (ends f).1 z)
    fun e listed => ?_).mp (.inl (.refl u))
  rcases List.mem_append.mp listed with old | new
  · have along : ∀ {z}, Joined ends es z (ends e).1 ↔ Joined ends es z (ends e).2 :=
      ⟨fun there => there.trans _ _ _ (joined_ends old),
        fun there => there.trans _ _ _ ((joined_ends old).symm _ _)⟩
    rw [along, along, along]
  · obtain rfl := List.mem_singleton.mp new
    constructor
    · rintro (here | ⟨here, -⟩ | ⟨here, -⟩)
      · exact .inr (.inl ⟨here, .refl _⟩)
      · exact .inr (.inl ⟨here, .refl _⟩)
      · exact .inl here
    · rintro (here | ⟨here, -⟩ | ⟨here, -⟩)
      · exact .inr (.inr ⟨here, .refl _⟩)
      · exact .inl here
      · exact .inr (.inr ⟨here, .refl _⟩)

theorem first_to_join (apart : ¬Joined ends es u v) (joined : Joined ends (es ++ rest) u v) :
    ∃ before f after, rest = before ++ f :: after ∧ ¬Joined ends (es ++ before) u v ∧
      Joined ends (es ++ before ++ [f]) u v := by
  induction rest generalizing es with
  | nil => exact absurd (List.append_nil es ▸ joined) apart
  | cons f rest ih =>
    by_cases now : Joined ends (es ++ [f]) u v
    · exact ⟨[], f, rest, rfl, by rwa [List.append_nil], by rwa [List.append_nil]⟩
    · obtain ⟨before, g, after, rfl, still, then_joined⟩ := ih now (by simpa using joined)
      exact ⟨f :: before, g, after, rfl, by simpa using still, by simpa using then_joined⟩

theorem exchange {C : V → Prop} (inside : C (ends e).1) (outside : ¬C (ends e).2)
    (stays : ∀ f ∈ es, C (ends f).1 ↔ C (ends f).2)
    (joined : Joined ends (es ++ rest) (ends e).1 (ends e).2) :
    ∃ f rest', rest.Perm (f :: rest') ∧ ¬(C (ends f).1 ↔ C (ends f).2) ∧
      ∀ u v, Joined ends (es ++ rest) u v → Joined ends (es ++ [e] ++ rest') u v := by
  classical
  -- the edges that stay on their side come first, so that the first to join crosses the cut
  obtain ⟨near, far, parted, kept, cross⟩ : ∃ near far, (near ++ far).Perm rest ∧
      (∀ f ∈ near, C (ends f).1 ↔ C (ends f).2) ∧ ∀ f ∈ far, ¬(C (ends f).1 ↔ C (ends f).2) :=
    ⟨_, _, List.filter_append_perm (fun f => C (ends f).1 ↔ C (ends f).2) rest,
      fun f listed => of_decide_eq_true (List.mem_filter.mp listed).2,
      fun f listed => by simpa using (List.mem_filter.mp listed).2⟩
  have apart : ¬Joined ends (es ++ near) (ends e).1 (ends e).2 := fun joined =>
    outside ((joined.same_side (List.forall_mem_append.mpr ⟨stays, kept⟩)).mp inside)
  have whole : Joined ends (es ++ near ++ far) (ends e).1 (ends e).2 := by
    refine joined.mono fun f listed => ?_
    rw [List.append_assoc, List.mem_append, parted.mem_iff]
    exact List.mem_append.mp listed
  obtain ⟨before, f, after, rfl, short, joins⟩ := first_to_join apart whole
  have perm : rest.Perm (f :: (near ++ before ++ after)) := by
    refine parted.symm.trans ?_
    rw [← List.append_assoc]
    exact List.perm_middle
  refine ⟨f, _, perm, cross f (by simp), fun u v old => old.of_edges fun g listed => ?_⟩
  have lift : ∀ {x y}, Joined ends (es ++ near ++ before) x y →
      Joined ends (es ++ [e] ++ (near ++ before ++ after)) x y := fun h => h.mono fun g listed => by
    simp only [List.mem_append] at listed ⊢
    tauto
  have taken : Joined ends (es ++ [e] ++ (near ++ before ++ after)) (ends e).1 (ends e).2 :=
    joined_ends (by simp)
  rw [List.mem_append, perm.mem_iff, List.mem_cons] at listed
  rcases listed with old | rfl | other
  · exact joined_ends (by simp [old])
  · rcases joins.through with none | ⟨first, second⟩ | ⟨first, second⟩
    · exact absurd none short
    · exact ((lift first).symm _ _).trans _ _ _ (taken.trans _ _ _ ((lift second).symm _ _))
    · exact (lift second).trans _ _ _ ((taken.symm _ _).trans _ _ _ (lift first))
  · exact joined_ends (List.mem_append_right _ other)

variable (ends) (weight : E → K) (allowed : E → Prop)

/-- Edges each of which is a least one over a cut that the edges before it respect. -/
inductive Chosen [LE K] : List E → Prop where
  | nil : Chosen []
  | snoc {es : List E} {e : E} (before : Chosen es) (C : V → Prop) (inside : C (ends e).1)
      (outside : ¬C (ends e).2) (stays : ∀ f ∈ es, C (ends f).1 ↔ C (ends f).2)
      (least : ∀ f, allowed f → ¬(C (ends f).1 ↔ C (ends f).2) → weight e ≤ weight f) :
      Chosen (es ++ [e])

variable {ends weight allowed} [AddCommMonoid K] [PartialOrder K] [IsOrderedAddMonoid K]

theorem Chosen.exchanged (h : Chosen ends weight allowed es) (fits : ∀ f ∈ tree, allowed f)
    (joins : ∀ e ∈ es, Joined ends tree (ends e).1 (ends e).2) :
    ∃ rest, es.length + rest.length = tree.length ∧ (∀ f ∈ rest, allowed f) ∧
      (es.map weight).sum + (rest.map weight).sum ≤ (tree.map weight).sum ∧
      ∀ u v, Joined ends tree u v → Joined ends (es ++ rest) u v := by
  induction h with
  | nil => exact ⟨tree, by simp, fits, by simp, fun _ _ => id⟩
  | snoc before C inside outside stays least ih =>
    rename_i es e
    obtain ⟨earlier, last⟩ := List.forall_mem_append.mp joins
    obtain ⟨rest, size, allows, total, spans⟩ := ih earlier
    obtain ⟨f, rest', perm, crosses, kept⟩ :=
      exchange inside outside stays (spans _ _ (last e (List.mem_singleton_self e)))
    have cheaper := least f (allows f (perm.mem_iff.mpr List.mem_cons_self)) crosses
    refine ⟨rest', ?_, fun g listed => allows g (perm.mem_iff.mpr (List.mem_cons_of_mem f listed)),
      ?_, fun u v old => kept u v (spans u v old)⟩
    · rw [← size, perm.length_eq]
      simp only [List.length_append, List.length_cons, List.length_nil]
      omega
    · calc ((es ++ [e]).map weight).sum + (rest'.map weight).sum
          = (es.map weight).sum + (weight e + (rest'.map weight).sum) := by simp [add_assoc]
        _ ≤ (es.map weight).sum + (weight f + (rest'.map weight).sum) := by gcongr
        _ = (es.map weight).sum + (rest.map weight).sum := by simp [(perm.map weight).sum_eq]
        _ ≤ (tree.map weight).sum := total

theorem Chosen.least (h : Chosen ends weight allowed es) (fits : ∀ f ∈ tree, allowed f)
    (joins : ∀ e ∈ es, Joined ends tree (ends e).1 (ends e).2) (size : es.length = tree.length) :
    (es.map weight).sum ≤ (tree.map weight).sum := by
  obtain ⟨rest, sizes, -, total, -⟩ := h.exchanged fits joins
  obtain rfl := List.eq_nil_of_length_eq_zero (show rest.length = 0 by omega)
  simpa using total

/-- A spanning tree of allowed edges that weighs no more than any other. -/
structure ShortestTree (ends : E → ℕ × ℕ) (weight : E → K) (allowed : E → Prop) (n : ℕ)
    (tree : List E) : Prop where
  fits : ∀ e ∈ tree, allowed e
  spans : SpanningTree ends n tree
  least : ∀ other, (∀ e ∈ other, allowed e) → SpanningTree ends n other →
    (tree.map weight).sum ≤ (other.map weight).sum

theorem Chosen.shortest {ends : E → ℕ × ℕ} {n : ℕ} (h : Chosen ends weight allowed tree)
    (fits : ∀ e ∈ tree, allowed e) (spans : SpanningTree ends n tree) :
    ShortestTree ends weight allowed n tree := by
  refine ⟨fits, spans, fun other listed others => ?_⟩
  refine h.least listed (fun e taken => ?_) (spans.size.trans others.size.symm)
  obtain ⟨left, right⟩ := spans.inside e taken
  exact others.joins _ left _ right

end Metroflow.Lib.SpanningTrees
