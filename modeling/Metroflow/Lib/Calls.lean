import Metroflow.Lib.Common

namespace Metroflow.Lib

/-- A call on a mutable state that may raise; what it changed before stays changed. -/
def Call (ε σ α : Type) : Type := σ → Except ε α × σ

namespace Call

variable {ε σ α β : Type}

instance : Monad (Call ε σ) where
  pure a s := (.ok a, s)
  bind x f s :=
    match x s with
    | (.ok a, s') => f a s'
    | (.error e, s') => (.error e, s')

/-- Reads the state, and raises where the reading does. -/
def query (f : σ → Except ε α) : Call ε σ α := fun s => (f s, s)

def change (f : σ → σ) : Call ε σ Unit := fun s => (.ok (), f s)

/-- The call for what it does to the state. -/
def drop (x : Call ε σ α) : Call ε σ Unit := do
  let _ ← x
  return ()

variable {x : Call ε σ α} {f : α → Call ε σ β} {s s' : σ} {a : α} {b : β} {e : ε}

theorem bind_returns : (x >>= f) s = (.ok b, s') ↔
    ∃ a mid, x s = (.ok a, mid) ∧ f a mid = (.ok b, s') := by
  change (match x s with
    | (.ok a, s') => f a s'
    | (.error e, s') => (.error e, s')) = _ ↔ _
  rcases x s with ⟨_ | a, mid⟩
  · refine ⟨fun h => ?_, fun ⟨_, _, h, _⟩ => ?_⟩
    · cases h
    · cases h
  · refine ⟨fun h => ⟨a, mid, rfl, h⟩, fun ⟨_, _, h, there⟩ => ?_⟩
    cases h
    exact there

theorem bind_raises : (x >>= f) s = (.error e, s') ↔
    x s = (.error e, s') ∨ ∃ a mid, x s = (.ok a, mid) ∧ f a mid = (.error e, s') := by
  change (match x s with
    | (.ok a, s') => f a s'
    | (.error e, s') => (.error e, s')) = _ ↔ _
  rcases x s with ⟨_ | a, mid⟩
  · refine ⟨fun h => ?_, fun h => ?_⟩
    · cases h
      exact .inl rfl
    · rcases h with h | ⟨_, _, h, _⟩
      · cases h
        rfl
      · cases h
  · refine ⟨fun h => .inr ⟨a, mid, rfl, h⟩, fun h => ?_⟩
    rcases h with h | ⟨_, _, h, there⟩
    · cases h
    · cases h
      exact there

theorem pure_returns {a' : α} : (pure a : Call ε σ α) s = (.ok a', s') ↔ a = a' ∧ s = s' := by
  change ((.ok a, s) : Except ε α × σ) = _ ↔ _
  rw [Prod.mk.injEq, Except.ok.injEq]

theorem query_returns {q : σ → Except ε α} :
    query q s = (.ok a, s') ↔ q s = .ok a ∧ s = s' := by
  unfold query
  rw [Prod.mk.injEq]

theorem change_returns {g : σ → σ} {u : Unit} :
    (change g : Call ε σ Unit) s = (.ok u, s') ↔ g s = s' := by
  unfold change
  rw [Prod.mk.injEq]
  exact and_iff_right rfl

theorem drop_returns {u : Unit} (h : drop x s = (.ok u, s')) : ∃ a, x s = (.ok a, s') := by
  obtain ⟨a, mid, returned, h⟩ := bind_returns.mp h
  obtain ⟨-, rfl⟩ := pure_returns.mp h
  exact ⟨a, returned⟩

theorem drop_state : (drop x s).2 = (x s).2 := by
  change (match x s with
    | (.ok _, s') => ((.ok (), s') : Except ε Unit × σ)
    | (.error e, s') => (.error e, s')).2 = _
  rcases x s with ⟨_ | a, mid⟩ <;> rfl

/-- The call never raises. -/
def Safe (x : Call ε σ α) : Prop := ∀ s, ∃ a s', x s = (.ok a, s')

/-- A call that raises leaves the state as it was. -/
def Clean (x : Call ε σ α) : Prop := ∀ s e s', x s = (.error e, s') → s' = s

theorem Safe.pure : Safe (pure a : Call ε σ α) := fun s => ⟨a, s, rfl⟩

theorem Safe.change {g : σ → σ} : Safe (change g : Call ε σ Unit) := fun s => ⟨(), g s, rfl⟩

theorem Safe.bind (first : Safe x) (then_ : ∀ a, Safe (f a)) : Safe (x >>= f) := by
  intro s
  obtain ⟨a, mid, here⟩ := first s
  obtain ⟨b, s', there⟩ := then_ a mid
  exact ⟨b, s', bind_returns.mpr ⟨a, mid, here, there⟩⟩

theorem Safe.clean (h : Safe x) : Clean x := by
  intro s e s' raised
  obtain ⟨a, s'', returned⟩ := h s
  cases raised.symm.trans returned

theorem Clean.query {q : σ → Except ε α} : Clean (query q) := by
  intro s e s' raised
  exact (Prod.mk.inj raised).2.symm

theorem Clean.query_bind {q : σ → Except ε α} (then_ : ∀ a, Clean (f a)) :
    Clean (Call.query q >>= f) := by
  intro s e s' raised
  rcases bind_raises.mp raised with here | ⟨a, mid, read, there⟩
  · exact Clean.query s e s' here
  · obtain ⟨-, rfl⟩ := query_returns.mp read
    exact then_ a s e s' there

theorem Clean.bind_safe (first : Clean x) (then_ : ∀ a, Safe (f a)) : Clean (x >>= f) := by
  intro s e s' raised
  rcases bind_raises.mp raised with here | ⟨a, mid, -, there⟩
  · exact first s e s' here
  · obtain ⟨_, _, returned⟩ := then_ a mid
    cases there.symm.trans returned

theorem Clean.drop (h : Clean x) : Clean (drop x) := h.bind_safe fun _ => .pure

theorem Clean.of_drop (h : Clean (Call.drop x)) : Clean x := fun s e s' raised =>
  h s e s' (bind_raises.mpr (.inl raised))

/-- Started in `P` the call ends in `Q` where it returns, and in `R` where it raises. -/
def Meets (P : σ → Prop) (x : Call ε σ α) (Q : α → σ → Prop) (R : σ → Prop) : Prop :=
  ∀ s, P s → (∀ a s', x s = (.ok a, s') → Q a s') ∧ ∀ e s', x s = (.error e, s') → R s'

section Meets

variable {P P' : σ → Prop} {Q : α → σ → Prop} {Q' : β → σ → Prop} {R : σ → Prop}

theorem Meets.pure (here : ∀ s, P s → Q a s) : Meets P (pure a : Call ε σ α) Q R := by
  intro s start
  refine ⟨fun a' s' returned => ?_, fun e s' raised => ?_⟩
  · obtain ⟨rfl, rfl⟩ := pure_returns.mp returned
    exact here s start
  · cases (Prod.mk.inj raised).1

theorem Meets.change {g : σ → σ} {Q : Unit → σ → Prop} (here : ∀ s, P s → Q () (g s)) :
    Meets P (change g : Call ε σ Unit) Q R := by
  intro s start
  refine ⟨fun a' s' returned => ?_, fun e s' raised => ?_⟩
  · obtain rfl := change_returns.mp returned
    exact here s start
  · cases (Prod.mk.inj raised).1

theorem Meets.query {q : σ → Except ε α} (here : ∀ s a, P s → q s = .ok a → Q a s)
    (raised : ∀ s e, P s → q s = .error e → R s) : Meets P (query q) Q R := by
  intro s start
  refine ⟨fun a' s' returned => ?_, fun e s' stopped => ?_⟩
  · obtain ⟨found, rfl⟩ := query_returns.mp returned
    exact here s a' start found
  · obtain ⟨found, rfl⟩ := Prod.mk.inj stopped
    exact raised s e start found

theorem Meets.bind (first : Meets P x Q R) (then_ : ∀ a, Meets (Q a) (f a) Q' R) :
    Meets P (x >>= f) Q' R := by
  intro s start
  refine ⟨fun b s' returned => ?_, fun e s' raised => ?_⟩
  · obtain ⟨a, mid, here, there⟩ := bind_returns.mp returned
    exact (then_ a mid ((first s start).1 a mid here)).1 b s' there
  · rcases bind_raises.mp raised with here | ⟨a, mid, here, there⟩
    · exact (first s start).2 e s' here
    · exact (then_ a mid ((first s start).1 a mid here)).2 e s' there

theorem Meets.keeps (h : Meets P x (fun _ => P) P) (here : P s) : P (x s).2 := by
  obtain ⟨returned, raised⟩ := h s here
  rcases there : x s with ⟨_ | a, s'⟩
  · exact raised _ s' there
  · exact returned a s' there

theorem Meets.drop (h : Meets P x (fun _ => P') P') : Meets P (drop x) (fun _ => P') P' :=
  h.bind fun _ => .pure fun _ => id

end Meets

end Call

end Metroflow.Lib
