import Metroflow.Lib.Common

namespace Metroflow.Lib

variable {α κ : Type*} [DecidableEq κ]

section Ranks

variable [LinearOrder α] [Fintype α]

/-- How many earlier clients want the same. -/
def earlier (want : α → Option κ) (a : α) : ℕ :=
  (Finset.univ.filter fun b => b < a ∧ want b = want a).card

/-- A client is served if the earlier ones leave a unit of what it wants. -/
def served (want : α → Option κ) (budget : κ → ℤ) (a : α) : Bool :=
  (want a).any fun k => (earlier want a : ℤ) < budget k

variable {want : α → Option κ} {budget : κ → ℤ} {a b : α} {k : κ}

theorem served_iff (wants : want a = some k) :
    served want budget a = true ↔ (earlier want a : ℤ) < budget k := by
  rw [served, wants, Option.any_some, decide_eq_true_iff]

theorem not_served (idle : want a = none) : served want budget a = false := by
  rw [served, idle, Option.any_none]

theorem earlier_lt (before : a < b) (same : want a = want b) : earlier want a < earlier want b := by
  refine Finset.card_lt_card (Finset.ssubset_iff_of_subset ?_ |>.mpr ⟨a, ?_, ?_⟩)
  · intro c there
    obtain ⟨-, less, alike⟩ := Finset.mem_filter.mp there
    exact Finset.mem_filter.mpr ⟨Finset.mem_univ c, less.trans before, alike.trans same⟩
  · exact Finset.mem_filter.mpr ⟨Finset.mem_univ a, before, same⟩
  · exact fun there => lt_irrefl a (Finset.mem_filter.mp there).2.1

theorem served_first (before : a < b) (same : want a = want b)
    (later : served want budget b = true) : served want budget a = true := by
  cases wants : want b with
  | none => cases (not_served wants).symm.trans later
  | some k =>
    rw [served_iff wants] at later
    rw [served_iff (same.trans wants)]
    exact lt_trans (Int.ofNat_lt.mpr (earlier_lt before same)) later

theorem served_bound (want : α → Option κ) (budget : κ → ℤ) (k : κ) :
    (Finset.univ.filter fun a => want a = some k ∧ served want budget a = true).card ≤
      (budget k).toNat := by
  rw [← Finset.card_range (budget k).toNat]
  refine Finset.card_le_card_of_injOn (earlier want) ?_ ?_
  · intro a there
    obtain ⟨-, wants, here⟩ := Finset.mem_filter.mp there
    rw [served_iff wants] at here
    rw [Finset.coe_range, Set.mem_Iio]
    omega
  · intro a there b there' same
    obtain ⟨-, wants, -⟩ := Finset.mem_filter.mp there
    obtain ⟨-, wants', -⟩ := Finset.mem_filter.mp there'
    rcases lt_trichotomy a b with before | equal | after
    · exact absurd same (earlier_lt before (wants.trans wants'.symm)).ne
    · exact equal
    · exact absurd same (earlier_lt after (wants'.trans wants.symm)).ne'

end Ranks

section Loop

variable {want : α → Option κ} {budget left : κ → ℤ} {a : α} {k : κ} {past : List α}

/-- What a loop over the clients has left of its budgets. -/
def Left (want : α → Option κ) (budget : κ → ℤ) (past : List α) (left : κ → ℤ) : Prop :=
  ∀ k, left k = max 0 (budget k - past.countP fun a => want a = some k)

theorem Left.start : Left want budget [] fun k => max 0 (budget k) := by
  intro k
  rw [List.countP_nil, Int.ofNat_zero, Int.sub_zero]

theorem Left.pass (h : Left want budget past left) (idle : want a = none) :
    Left want budget (past ++ [a]) left := by
  intro k
  rw [h k, List.countP_append, List.countP_singleton, if_neg (by rw [idle]; simp), Nat.add_zero]

theorem Left.turned_away (h : Left want budget past left) (wants : want a = some k)
    (out : left k ≤ 0) : Left want budget (past ++ [a]) left := by
  intro j
  have here := h j
  rw [List.countP_append, List.countP_singleton, wants]
  by_cases same : j = k
  · subst same
    rw [if_pos (by simp)]
    push_cast
    omega
  · rw [if_neg (by simpa using Ne.symm same), Nat.add_zero, here]

theorem Left.take (h : Left want budget past left) (wants : want a = some k) (some : 0 < left k) :
    Left want budget (past ++ [a]) (Function.update left k (left k - 1)) := by
  intro j
  have here := h j
  rw [List.countP_append, List.countP_singleton, wants]
  by_cases same : j = k
  · subst same
    rw [if_pos (by simp), Function.update_self]
    push_cast
    omega
  · rw [if_neg (by simpa using Ne.symm same), Nat.add_zero, Function.update_of_ne same, here]

end Loop

section Order

variable [LinearOrder α] [Fintype α] {want : α → Option κ} {budget left : κ → ℤ} {a : α} {k : κ}
  {l past rest : List α}

variable (sorted : l.Pairwise (· < ·)) (complete : ∀ a, want a ≠ none → a ∈ l)
  (split : l = past ++ a :: rest)

include sorted complete split

theorem earlier_past (wants : want a ≠ none) :
    earlier want a = past.countP fun b => want b = want a := by
  subst split
  obtain ⟨first, here, across⟩ := List.pairwise_append.mp sorted
  have distinct : (past.filter fun b => want b = want a).Nodup :=
    (first.imp ne_of_lt).filter _
  rw [List.countP_eq_length_filter, ← List.toFinset_card_of_nodup distinct, earlier]
  congr 1
  ext b
  rw [Finset.mem_filter, List.mem_toFinset, List.mem_filter, decide_eq_true_iff]
  constructor
  · rintro ⟨-, less, same⟩
    rcases List.mem_append.mp (complete b (same ▸ wants)) with before | after
    · exact ⟨before, same⟩
    · rcases List.mem_cons.mp after with equal | later
      · exact absurd less (equal ▸ lt_irrefl a)
      · exact absurd less (List.rel_of_pairwise_cons here later).asymm
  · exact fun ⟨before, same⟩ => ⟨Finset.mem_univ b, across b before a List.mem_cons_self, same⟩

theorem Left.served_iff (h : Left want budget past left) (wants : want a = some k) :
    served want budget a = true ↔ 0 < left k := by
  have count := earlier_past sorted complete split (by rw [wants]; exact Option.some_ne_none k)
  rw [wants] at count
  rw [Metroflow.Lib.served_iff wants, count, h k]
  omega

end Order

end Metroflow.Lib
