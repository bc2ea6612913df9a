import Metroflow.Lib.Common

namespace Metroflow.Lib

variable {α κ : Type*} [LinearOrder κ] {key : α → κ} {l l' : List α} {a : α}

/-- A list in the order of a key, equal keys in the order they came. -/
def sortOn (key : α → κ) (l : List α) : List α :=
  l.mergeSort fun a b => decide (key a ≤ key b)

theorem sort_on_perm : (sortOn key l).Perm l := List.mergeSort_perm _ _

@[simp]
theorem mem_sort_on : a ∈ sortOn key l ↔ a ∈ l := sort_on_perm.mem_iff

@[simp]
theorem length_sort_on : (sortOn key l).length = l.length := sort_on_perm.length_eq

theorem trans_decide (key : α → κ) (a b c : α) (ab : decide (key a ≤ key b) = true)
    (bc : decide (key b ≤ key c) = true) : decide (key a ≤ key c) = true := by
  rw [decide_eq_true_eq] at ab bc ⊢
  exact ab.trans bc

theorem total_decide (key : α → κ) (a b : α) :
    (decide (key a ≤ key b) || decide (key b ≤ key a)) = true := by
  rw [Bool.or_eq_true, decide_eq_true_eq, decide_eq_true_eq]
  exact le_total (key a) (key b)

theorem sort_on_sorted : (sortOn key l).Pairwise fun a b => key a ≤ key b := by
  have sorted : (sortOn key l).Pairwise fun a b => decide (key a ≤ key b) = true :=
    List.pairwise_mergeSort (trans_decide key) (total_decide key) l
  exact sorted.imp fun h => of_decide_eq_true h

theorem sort_on_eq_self (sorted : l.Pairwise fun a b => key a ≤ key b) : sortOn key l = l :=
  List.mergeSort_of_pairwise (sorted.imp fun h => decide_eq_true h)

theorem sort_on_insertion (key : α → κ) (l : List α) :
    sortOn key l = l.insertionSort fun a b => key a ≤ key b := by
  induction l with
  | nil => exact List.mergeSort_nil
  | cons a l ih =>
    obtain ⟨before, after, sorted, rest, above⟩ :=
      List.mergeSort_cons (trans_decide key) (total_decide key) a l
    have sorted_all : (sortOn key (a :: l)).Pairwise fun a b => key a ≤ key b := sort_on_sorted
    unfold sortOn at sorted_all ih ⊢
    rw [List.insertionSort_cons, ← ih, rest]
    rw [sorted] at sorted_all ⊢
    clear ih sorted rest
    induction before with
    | nil =>
      rw [List.nil_append, List.nil_append] at *
      cases after with
      | nil => rfl
      | cons b after =>
        have first := (List.pairwise_cons.mp sorted_all).1 b List.mem_cons_self
        exact (List.orderedInsert_cons_of_le (r := fun a b => key a ≤ key b) _ first).symm
    | cons b before ih =>
      have lower := above b List.mem_cons_self
      rw [Bool.not_eq_true', decide_eq_false_iff_not] at lower
      have later := ih (fun c mem => above c (List.mem_cons_of_mem b mem))
        (List.pairwise_cons.mp sorted_all).2
      rw [List.cons_append, List.cons_append, later]
      exact (List.orderedInsert_of_not_le (r := fun a b => key a ≤ key b) _ lower).symm

theorem sort_on_head (head : (sortOn key l).head? = some a) : a ∈ l ∧ ∀ b ∈ l, key a ≤ key b := by
  have sorted : (sortOn key l).Pairwise fun a b => key a ≤ key b := sort_on_sorted
  have members : ∀ b, b ∈ sortOn key l ↔ b ∈ l := fun b => mem_sort_on
  cases order : sortOn key l with
  | nil =>
    rw [order] at head
    cases head
  | cons c rest =>
    rw [order] at head sorted members
    obtain rfl := Option.some.inj head
    refine ⟨(members c).mp List.mem_cons_self, fun b listed => ?_⟩
    rcases List.mem_cons.mp ((members b).mpr listed) with rfl | later
    · exact le_refl _
    · exact (List.pairwise_cons.mp sorted).1 b later

theorem sort_on_head_none : (sortOn key l).head? = none ↔ l = [] := by
  rw [List.head?_eq_none_iff, ← List.length_eq_zero_iff, length_sort_on, List.length_eq_zero_iff]

theorem exists_least (key : α → κ) {p : α → Prop} (found : ∃ a ∈ l, p a) :
    ∃ a ∈ l, p a ∧ ∀ b ∈ l, p b → key a ≤ key b := by
  classical
  obtain ⟨a, listed, here⟩ := found
  cases head : (sortOn key (l.filter fun a => p a)).head? with
  | none =>
    rw [sort_on_head_none, List.filter_eq_nil_iff] at head
    exact absurd (decide_eq_true here) (head a listed)
  | some c =>
    obtain ⟨kept, least⟩ := sort_on_head head
    rw [List.mem_filter, decide_eq_true_eq] at kept
    exact ⟨c, kept.1, kept.2, fun b listed' there =>
      least b (List.mem_filter.mpr ⟨listed', decide_eq_true there⟩)⟩

theorem sort_on_strict (distinct : (l.map key).Nodup) :
    (sortOn key l).Pairwise fun a b => key a < key b := by
  have apart : (sortOn key l).Pairwise fun a b => key a ≠ key b :=
    List.pairwise_map.mp ((sort_on_perm.map key).nodup_iff.mpr distinct)
  exact (sort_on_sorted.and apart).imp fun h => lt_of_le_of_ne h.1 h.2

theorem keys_nodup_of_strict (h : l.Pairwise fun a b => key a < key b) : (l.map key).Nodup :=
  List.pairwise_map.mpr (h.imp ne_of_lt)

theorem eq_of_perm_of_strict (h : l.Perm l') (strict : l.Pairwise fun a b => key a < key b)
    (strict' : l'.Pairwise fun a b => key a < key b) : l = l' :=
  h.eq_of_pairwise (fun _ _ _ _ ab ba => absurd ab ba.asymm) strict strict'

theorem sort_on_eq_of_perm (h : l.Perm l') (distinct : (l.map key).Nodup) :
    sortOn key l = sortOn key l' :=
  eq_of_perm_of_strict (sort_on_perm.trans (h.trans sort_on_perm.symm)) (sort_on_strict distinct)
    (sort_on_strict ((h.map key).nodup_iff.mp distinct))

theorem step_of_pairwise {R : α → α → Prop} (h : l.Pairwise R) :
    ∀ step ∈ l.zip l.tail, R step.1 step.2 := by
  induction h with
  | nil => simp
  | @cons a l first rest ih =>
    cases l with
    | nil => simp
    | cons b l =>
      intro step listed
      rcases List.mem_cons.mp listed with rfl | later
      · exact first b List.mem_cons_self
      · exact ih step later

end Metroflow.Lib
