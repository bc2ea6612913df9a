import Metroflow.Lib.Loops

namespace Metroflow.Lib

/-- A computation that may fail and that takes readings from a clock. -/
abbrev Clocked (R ε : Type) := StateT (Stream' R) (Except ε)

variable {R ε α β γ δ : Type}

def reading : Clocked R ε R := fun readings => .ok (readings.head, readings.tail)

section Indistinct

/-- Two outcomes that an observer cannot tell apart: the same error, or two
values that it takes for one another. -/
inductive Outcome (V : α → β → Prop) : Except ε α → Except ε β → Prop
  | ok {a b} : V a b → Outcome V (.ok a) (.ok b)
  | error (e) : Outcome V (.error e) (.error e)

theorem Outcome.refl {V : α → α → Prop} (same : ∀ a, V a a) (x : Except ε α) : Outcome V x x := by
  cases x with
  | error e => exact .error e
  | ok a => exact .ok (same a)

theorem Outcome.of_eq {x y : Except ε α} (h : x = y) : Outcome Eq x y :=
  h ▸ .refl (fun _ => rfl) x

theorem Outcome.eq {x y : Except ε α} (h : Outcome Eq x y) : x = y := by
  cases h with
  | ok same => rw [same]
  | error e => rfl

theorem Outcome.mono {V W : α → β → Prop} (imp : ∀ a b, V a b → W a b) {x : Except ε α}
    {y : Except ε β} (h : Outcome V x y) : Outcome W x y := by
  cases h with
  | ok seen => exact .ok (imp _ _ seen)
  | error e => exact .error e

theorem Outcome.bind {V : α → β → Prop} {W : γ → δ → Prop} {x : Except ε α} {y : Except ε β}
    {f : α → Except ε γ} {g : β → Except ε δ} (first : Outcome V x y)
    (rest : ∀ a b, V a b → Outcome W (f a) (g b)) : Outcome W (x >>= f) (y >>= g) := by
  cases first with
  | ok seen => exact rest _ _ seen
  | error e => exact .error e

theorem Outcome.map {V : α → β → Prop} {W : γ → δ → Prop} {x : Except ε α} {y : Except ε β}
    {f : α → γ} {g : β → δ} (h : Outcome V x y) (kept : ∀ a b, V a b → W (f a) (g b)) :
    Outcome W (x.map f) (y.map g) := by
  cases h with
  | ok seen => exact .ok (kept _ _ seen)
  | error e => exact .error e

/-- What two computations show does not depend on the readings that each gets. -/
def Indistinct (V : α → β → Prop) (x : Clocked R ε α) (y : Clocked R ε β) : Prop :=
  ∀ readings readings', Outcome (fun a b => V a.1 b.1) (x readings) (y readings')

namespace Indistinct

variable {V V' : α → β → Prop} {W : γ → δ → Prop}

theorem pure {a : α} {b : β} (seen : V a b) :
    Indistinct V (Pure.pure a : Clocked R ε α) (Pure.pure b : Clocked R ε β) :=
  fun _ _ => .ok seen

theorem bind {x : Clocked R ε α} {y : Clocked R ε β} {f : α → Clocked R ε γ}
    {g : β → Clocked R ε δ} (first : Indistinct V x y)
    (rest : ∀ a b, V a b → Indistinct W (f a) (g b)) : Indistinct W (x >>= f) (y >>= g) :=
  fun readings readings' => (first readings readings').bind fun a b seen => rest _ _ seen a.2 b.2

theorem lift {x : Except ε α} {y : Except ε β} (same : Outcome V x y) :
    Indistinct V (liftM x : Clocked R ε α) (liftM y : Clocked R ε β) :=
  fun _ _ => same.bind fun _ _ seen => .ok seen

theorem reading : Indistinct (fun _ _ => True) (reading : Clocked R ε R) reading :=
  fun _ _ => .ok trivial

theorem mono (imp : ∀ a b, V a b → V' a b) {x : Clocked R ε α} {y : Clocked R ε β}
    (h : Indistinct V x y) : Indistinct V' x y :=
  fun readings readings' => (h readings readings').mono fun _ _ seen => imp _ _ seen

theorem fold {σ τ : Type} {V : σ → τ → Prop} {f : σ → α → Clocked R ε σ}
    {g : τ → α → Clocked R ε τ} {l : List α}
    (step : ∀ a ∈ l, ∀ s t, V s t → Indistinct V (f s a) (g t a)) {s : σ} {t : τ} (init : V s t) :
    Indistinct V (l.foldlM f s) (l.foldlM g t) := by
  induction l generalizing s t with
  | nil => exact pure init
  | cons a l ih =>
    rw [List.foldlM_cons, List.foldlM_cons]
    refine bind (step a List.mem_cons_self s t init) fun s t seen => ?_
    exact ih (fun b listed => step b (List.mem_cons_of_mem a listed)) seen

end Indistinct

end Indistinct

end Metroflow.Lib
