import Metroflow.Lib.Loops

namespace Metroflow.Lib

variable {ε α β : Type} {f : β → α → Except ε β} {start : β} {add : β → α → β}
  {fits : α → Prop} {clash : α → α → Prop} {rows rows' : List α} {s : β}

/-- A loop that takes rows in one by one, each checked by itself and against those before it. -/
structure Intake (f : β → α → Except ε β) (start : β) (add : β → α → β) (fits : α → Prop)
    (clash : α → α → Prop) : Prop where
  step : ∀ (past : List α) (row : α) (s : β), f (past.foldl add start) row = .ok s ↔
    fits row ∧ (∀ other ∈ past, ¬clash other row) ∧ s = add (past.foldl add start) row

theorem Intake.run (h : Intake f start add fits clash) : rows.foldlM f start = .ok s ↔
    (∀ row ∈ rows, fits row) ∧ rows.Pairwise (fun a b => ¬clash a b) ∧
      s = rows.foldl add start := by
  suffices general : ∀ (rows past : List α), rows.foldlM f (past.foldl add start) = .ok s ↔
      (∀ row ∈ rows, fits row) ∧ (∀ other ∈ past, ∀ row ∈ rows, ¬clash other row) ∧
        rows.Pairwise (fun a b => ¬clash a b) ∧ s = (past ++ rows).foldl add start by
    rw [← List.foldl_nil (f := add) (b := start), general]
    simp
  intro rows
  induction rows with
  | nil =>
    intro past
    rw [fold_nil, List.append_nil]
    simp [eq_comm]
  | cons row rows ih =>
    intro past
    have grown : (past ++ [row]).foldl add start = add (past.foldl add start) row := by
      rw [List.foldl_append, List.foldl_cons, List.foldl_nil]
    rw [fold_cons, List.append_cons, List.forall_mem_cons, List.pairwise_cons]
    constructor
    · rintro ⟨m, first, later⟩
      obtain ⟨fits_row, apart, rfl⟩ := (h.step past row m).mp first
      rw [← grown] at later
      obtain ⟨fits_rows, cross, pairs, rfl⟩ := (ih (past ++ [row])).mp later
      refine ⟨⟨fits_row, fits_rows⟩, fun other listed => ?_, ⟨fun other listed => ?_, pairs⟩, rfl⟩
      · rw [List.forall_mem_cons]
        exact ⟨apart other listed, cross other (List.mem_append_left _ listed)⟩
      · exact cross row (by simp) other listed
    · rintro ⟨⟨fits_row, fits_rows⟩, cross, ⟨first, pairs⟩, rfl⟩
      refine ⟨_, (h.step past row _).mpr ⟨fits_row, fun other listed =>
        cross other listed row List.mem_cons_self, rfl⟩, ?_⟩
      rw [← grown]
      refine (ih (past ++ [row])).mpr ⟨fits_rows, fun other listed => ?_, pairs, rfl⟩
      rcases List.mem_append.mp listed with before | here
      · exact fun later mem => cross other before later (List.mem_cons_of_mem _ mem)
      · rw [List.mem_singleton.mp here]
        exact first

end Metroflow.Lib
