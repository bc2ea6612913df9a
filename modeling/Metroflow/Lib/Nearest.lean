import Metroflow.Lib.Common

namespace Metroflow.Lib

variable {α β K : Type*} [LinearOrder K] (candidate : β → Prop) [DecidablePred candidate]
  (value : β → α) (cost : β → K)

/-- Takes a candidate that costs at most as much as the best so far. -/
def nearer (best : Option α × K) (x : β) : Option α × K :=
  if candidate x ∧ cost x ≤ best.2 then (some (value x), cost x) else best

theorem nearest_spec (items : List β) (best : Option α × K) :
    let last := items.foldl (nearer candidate value cost) best
    last.2 ≤ best.2 ∧ (∀ x ∈ items, candidate x → last.2 ≤ cost x) ∧
      (last = best ∧ (∀ x ∈ items, candidate x → best.2 < cost x) ∨
        ∃ x ∈ items, candidate x ∧ cost x ≤ best.2 ∧ last = (some (value x), cost x)) := by
  induction items generalizing best with
  | nil => exact ⟨le_rfl, by simp, .inl ⟨rfl, by simp⟩⟩
  | cons x items ih =>
    obtain ⟨shrinks, least, ends⟩ := ih (nearer candidate value cost best x)
    simp only [List.foldl_cons, List.forall_mem_cons, List.exists_mem_cons_iff]
    by_cases taken : candidate x ∧ cost x ≤ best.2
    · have step : nearer candidate value cost best x = (some (value x), cost x) := if_pos taken
      rw [step] at shrinks least ends ⊢
      refine ⟨shrinks.trans taken.2, ⟨fun _ => shrinks, least⟩, .inr ?_⟩
      rcases ends with ⟨same, -⟩ | ⟨y, listed, there, cheaper, last⟩
      · exact .inl ⟨taken.1, taken.2, same⟩
      · exact .inr ⟨y, listed, there, cheaper.trans taken.2, last⟩
    · have step : nearer candidate value cost best x = best := if_neg taken
      have dearer : candidate x → best.2 < cost x := fun here =>
        not_le.mp fun le => taken ⟨here, le⟩
      rw [step] at shrinks least ends ⊢
      refine ⟨shrinks, ⟨fun here => shrinks.trans (dearer here).le, least⟩, ?_⟩
      exact ends.imp (fun ⟨same, all⟩ => ⟨same, dearer, all⟩) .inr

variable {candidate value cost} {items : List β}

theorem nearest_some_iff {limit : K} :
    (∃ a, (items.foldl (nearer candidate value cost) (none, limit)).1 = some a) ↔
      ∃ x ∈ items, candidate x ∧ cost x ≤ limit := by
  obtain ⟨-, -, ends⟩ := nearest_spec candidate value cost items (none, limit)
  constructor
  · rintro ⟨a, found⟩
    rcases ends with ⟨same, -⟩ | ⟨x, listed, here, cheap, -⟩
    · rw [same] at found
      cases found
    · exact ⟨x, listed, here, cheap⟩
  · rintro ⟨x, listed, here, cheap⟩
    rcases ends with ⟨-, dear⟩ | ⟨y, -, -, -, last⟩
    · exact absurd cheap (not_le.mpr (dear x listed here))
    · exact ⟨value y, congrArg Prod.fst last⟩

theorem nearest_least {limit : K} {a : α}
    (found : (items.foldl (nearer candidate value cost) (none, limit)).1 = some a) :
    ∃ x ∈ items, candidate x ∧ cost x ≤ limit ∧ value x = a ∧
      ∀ y ∈ items, candidate y → cost x ≤ cost y := by
  obtain ⟨-, least, ends⟩ := nearest_spec candidate value cost items (none, limit)
  rcases ends with ⟨same, -⟩ | ⟨x, listed, here, cheap, last⟩
  · rw [same] at found
    cases found
  · rw [last] at found least
    exact ⟨x, listed, here, cheap, Option.some.inj found, least⟩

end Metroflow.Lib
