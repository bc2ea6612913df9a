import Metroflow.Lib.Dict

namespace Metroflow.Lib

section Memo

variable {ν κ α : Type} [DecidableEq κ] (bound : Option ℕ) (key : ν → κ) (compute : ν → α)

/-- Reads the stored value, or stores the computed one and drops the oldest beyond the bound. -/
def remember (cache : Dict κ α) (x : ν) : α × Dict κ α :=
  match cache.get (key x) with
  | some cached => (cached, cache)
  | none =>
    let cache := cache.set (key x) (compute x)
    (compute x, cache.drop (cache.length - bound.getD cache.length))

/-- What a sequence of reads returns. -/
def rememberAll : Dict κ α → List ν → List α
  | _, [] => []
  | cache, x :: rest =>
    let read := remember bound key compute cache x
    read.1 :: rememberAll read.2 rest

/-- Every stored value was computed from something with its key. -/
def Remembers (cache : Dict κ α) : Prop := ∀ item ∈ cache, ∃ x, key x = item.1 ∧ compute x = item.2

variable {bound key compute} {cache : Dict κ α}

theorem get_listed {k : κ} {value : α} (found : cache.get k = some value) : (k, value) ∈ cache := by
  induction cache with
  | nil => cases found
  | cons item rest ih =>
    rw [Dict.get_cons] at found
    split at found
    · rename_i same
      rw [same, ← Option.some.inj found]
      exact List.mem_cons_self
    · exact List.mem_cons_of_mem _ (ih found)

omit [DecidableEq κ] in
theorem Remembers.nil : Remembers key compute ([] : Dict κ α) := by
  simp [Remembers]

theorem Remembers.remember (h : Remembers key compute cache)
    (determined : ∀ x y, key x = key y → compute x = compute y) (x : ν) :
    (remember bound key compute cache x).1 = compute x ∧
      Remembers key compute (remember bound key compute cache x).2 := by
  unfold Lib.remember
  split
  · rename_i cached found
    obtain ⟨y, same, made⟩ := h _ (get_listed found)
    exact ⟨made.symm.trans (determined y x same), h⟩
  · rename_i new
    refine ⟨rfl, fun item kept => ?_⟩
    have listed := List.mem_of_mem_drop kept
    rw [Dict.set_of_get_none new, List.mem_append, List.mem_singleton] at listed
    rcases listed with old | rfl
    · exact h item old
    · exact ⟨x, rfl, rfl⟩

theorem Remembers.remember_all (h : Remembers key compute cache)
    (determined : ∀ x y, key x = key y → compute x = compute y) (xs : List ν) :
    rememberAll bound key compute cache xs = xs.map compute := by
  induction xs generalizing cache with
  | nil => rfl
  | cons x rest ih =>
    obtain ⟨read, after⟩ := h.remember determined x
    rw [rememberAll, List.map_cons, ih after, read]

end Memo

end Metroflow.Lib
