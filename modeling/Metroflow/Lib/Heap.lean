import Metroflow.Lib.Loops

namespace Metroflow.Lib

variable {α : Type*}

/-- A priority queue's pop: the first least entry and the entries that stay. -/
def popMin (le : α → α → Bool) : List α → Option (α × List α)
  | [] => none
  | a :: rest =>
    match popMin le rest with
    | none => some (a, [])
    | some (b, others) => if le a b then some (a, rest) else some (b, a :: others)

variable {le : α → α → Bool} {heap rest : List α} {top : α}

@[simp]
theorem pop_min_none : popMin le heap = none ↔ heap = [] := by
  cases heap with
  | nil => simp [popMin]
  | cons a heap =>
    unfold popMin
    split
    · simp
    · split <;> simp

theorem pop_min_perm (h : popMin le heap = some (top, rest)) : heap.Perm (top :: rest) := by
  induction heap generalizing top rest with
  | nil => simp [popMin] at h
  | cons a heap ih =>
    unfold popMin at h
    split at h
    · rename_i empty
      obtain ⟨rfl, rfl⟩ : a = top ∧ [] = rest := by simpa using h
      rw [pop_min_none.mp empty]
    · rename_i b others found
      split at h
      · obtain ⟨rfl, rfl⟩ : a = top ∧ heap = rest := by simpa using h
        exact List.Perm.refl _
      · obtain ⟨rfl, rfl⟩ : b = top ∧ a :: others = rest := by simpa using h
        exact ((ih found).cons a).trans (List.Perm.swap b a others)

theorem pop_min_mem (h : popMin le heap = some (top, rest)) {a : α} :
    a ∈ heap ↔ a = top ∨ a ∈ rest := by
  rw [(pop_min_perm h).mem_iff, List.mem_cons]

theorem pop_min_length (h : popMin le heap = some (top, rest)) :
    heap.length = rest.length + 1 := by
  rw [(pop_min_perm h).length_eq, List.length_cons]

theorem pop_min_map {β : Type*} {le' : β → β → Bool} (f : α → β)
    (same : ∀ a b, le' (f a) (f b) = le a b) :
    popMin le' (heap.map f) = (popMin le heap).map (Prod.map f (List.map f)) := by
  induction heap with
  | nil => rfl
  | cons a heap ih =>
    rw [List.map_cons, popMin, popMin, ih]
    cases popMin le heap with
    | none => rfl
    | some popped =>
      obtain ⟨b, others⟩ := popped
      simp only [Option.map_some, Prod.map, same]
      split <;> simp

theorem pop_min_least (total : ∀ a b, le a b ∨ le b a)
    (trans : ∀ a b c, le a b → le b c → le a c)
    (h : popMin le heap = some (top, rest)) : ∀ a ∈ rest, le top a := by
  induction heap generalizing top rest with
  | nil => simp [popMin] at h
  | cons a heap ih =>
    unfold popMin at h
    split at h
    · obtain ⟨rfl, rfl⟩ : a = top ∧ [] = rest := by simpa using h
      simp
    · rename_i b others found
      split at h
      · rename_i first
        obtain ⟨rfl, rfl⟩ : a = top ∧ heap = rest := by simpa using h
        intro c hc
        rcases (pop_min_mem found).mp hc with rfl | stays
        · exact first
        · exact trans a b c first (ih found c stays)
      · rename_i later
        obtain ⟨rfl, rfl⟩ : b = top ∧ a :: others = rest := by simpa using h
        intro c hc
        rcases List.mem_cons.mp hc with rfl | stays
        · exact (total c b).resolve_left later
        · exact ih found c stays

end Metroflow.Lib
