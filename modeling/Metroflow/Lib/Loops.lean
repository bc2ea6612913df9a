import Metroflow.Lib.Common

namespace Metroflow.Lib

universe u v w

section Outcomes

variable {ε : Type u} {α β : Type v}

/-- Fails with `e` when the condition holds. -/
def raiseIf (c : Prop) [Decidable c] (e : ε) : Except ε Unit :=
  if c then .error e else .ok ()

@[simp]
theorem raise_if_ok {c : Prop} [Decidable c] {e : ε} {u : Unit} :
    raiseIf c e = .ok u ↔ ¬ c := by
  unfold raiseIf
  split <;> simp_all

@[simp]
theorem raise_if_error {c : Prop} [Decidable c] {e e' : ε} :
    raiseIf c e = .error e' ↔ c ∧ e = e' := by
  unfold raiseIf
  split <;> simp_all

theorem bind_ok {x : Except ε α} {f : α → Except ε β} {b : β} :
    (x >>= f) = .ok b ↔ ∃ a, x = .ok a ∧ f a = .ok b := by
  cases x with
  | error e => simp [Bind.bind, Except.bind]
  | ok a => simp [Bind.bind, Except.bind]

theorem ok_bind {a : α} {f : α → Except ε β} : ((Except.ok a : Except ε α) >>= f) = f a := rfl

theorem bind_error {x : Except ε α} {f : α → Except ε β} {e : ε} :
    (x >>= f) = .error e ↔ x = .error e ∨ ∃ a, x = .ok a ∧ f a = .error e := by
  cases x with
  | error e => simp [Bind.bind, Except.bind]
  | ok a => simp [Bind.bind, Except.bind]

@[simp]
theorem pure_ok {a b : α} : (pure a : Except ε α) = .ok b ↔ a = b := by
  simp [Pure.pure, Except.pure]

@[simp]
theorem pure_ne_error {a : α} {e : ε} : (pure a : Except ε α) = .error e ↔ False := by
  simp [Pure.pure, Except.pure]

theorem map_ok {f : α → β} {x : Except ε α} {b : β} :
    x.map f = .ok b ↔ ∃ a, x = .ok a ∧ f a = b := by
  cases x <;> simp [Except.map]

theorem map_error_ok {ε' : Type u} {f : ε → ε'} {x : Except ε α} {a : α} :
    x.mapError f = .ok a ↔ x = .ok a := by
  cases x <;> simp [Except.mapError]

theorem map_error_error {ε' : Type u} {f : ε → ε'} {x : Except ε α} {e' : ε'} :
    x.mapError f = .error e' ↔ ∃ e, x = .error e ∧ f e = e' := by
  cases x <;> simp [Except.mapError]

theorem ok_of_is_ok {x : Except ε α} (h : x.isOk = true) : ∃ a, x = .ok a := by
  cases x with
  | error e => simp [Except.isOk, Except.toBool] at h
  | ok a => exact ⟨a, rfl⟩

end Outcomes

section Folds

variable {ε : Type u} {α : Type w} {β : Type v} {f : β → α → Except ε β}

theorem fold_nil {s s' : β} : [].foldlM f s = .ok s' ↔ s = s' := by
  simp

theorem fold_cons {a : α} {l : List α} {s s' : β} :
    (a :: l).foldlM f s = .ok s' ↔ ∃ m, f s a = .ok m ∧ l.foldlM f m = .ok s' := by
  rw [List.foldlM_cons, bind_ok]

theorem fold_append {l₁ l₂ : List α} {s s' : β} :
    (l₁ ++ l₂).foldlM f s = .ok s' ↔
      ∃ m, l₁.foldlM f s = .ok m ∧ l₂.foldlM f m = .ok s' := by
  rw [List.foldlM_append, bind_ok]

theorem fold_invariant {I : β → Prop} {l : List α} {s s' : β}
    (step : ∀ a ∈ l, ∀ s s', I s → f s a = .ok s' → I s') (init : I s)
    (run : l.foldlM f s = .ok s') : I s' := by
  induction l generalizing s with
  | nil =>
    obtain rfl := fold_nil.mp run
    exact init
  | cons a l ih =>
    obtain ⟨m, first, rest⟩ := fold_cons.mp run
    exact ih (fun b hb => step b (List.mem_cons_of_mem a hb))
      (step a List.mem_cons_self s m init first) rest

theorem fold_progress {I : List α → β → Prop} {l : List α} {s s' : β}
    (step : ∀ past a rest s s', l = past ++ a :: rest → I past s → f s a = .ok s' →
      I (past ++ [a]) s')
    (init : I [] s) (run : l.foldlM f s = .ok s') : I l s' := by
  suffices general : ∀ (todo past : List α) (t : β), l = past ++ todo → I past t →
      todo.foldlM f t = .ok s' → I l s' from general l [] s rfl init run
  intro todo
  induction todo with
  | nil =>
    intro past t split held finish
    obtain rfl := fold_nil.mp finish
    rw [split, List.append_nil]
    exact held
  | cons a rest ih =>
    intro past t split held finish
    obtain ⟨m, first, tail⟩ := fold_cons.mp finish
    exact ih (past ++ [a]) m (by simp [split]) (step past a rest t m split held first) tail

theorem fold_total {I : List α → β → Prop} {l : List α} {s : β}
    (step : ∀ past a rest s, l = past ++ a :: rest → I past s →
      ∃ s', f s a = .ok s' ∧ I (past ++ [a]) s')
    (init : I [] s) : ∃ s', l.foldlM f s = .ok s' ∧ I l s' := by
  suffices general : ∀ (todo past : List α) (t : β), l = past ++ todo → I past t →
      ∃ s', todo.foldlM f t = .ok s' ∧ I l s' from general l [] s rfl init
  intro todo
  induction todo with
  | nil =>
    intro past t split held
    refine ⟨t, by simp, ?_⟩
    rw [split, List.append_nil]
    exact held
  | cons a rest ih =>
    intro past t split held
    obtain ⟨m, first, kept⟩ := step past a rest t split held
    obtain ⟨s', finish, result⟩ := ih (past ++ [a]) m (by simp [split]) kept
    exact ⟨s', fold_cons.mpr ⟨m, first, finish⟩, result⟩

theorem fold_error {I : β → Prop} {l : List α} {s : β} {e : ε}
    (step : ∀ a ∈ l, ∀ s s', I s → f s a = .ok s' → I s') (init : I s)
    (run : l.foldlM f s = .error e) : ∃ a ∈ l, ∃ s, I s ∧ f s a = .error e := by
  induction l generalizing s with
  | nil => simp at run
  | cons a l ih =>
    rw [List.foldlM_cons, bind_error] at run
    rcases run with failed | ⟨m, first, rest⟩
    · exact ⟨a, List.mem_cons_self, s, init, failed⟩
    · obtain ⟨b, listed, t, held, failed⟩ := ih (fun b hb => step b (List.mem_cons_of_mem a hb))
        (step a List.mem_cons_self s m init first) rest
      exact ⟨b, List.mem_cons_of_mem a listed, t, held, failed⟩

end Folds

section Maps

variable {ε : Type u} {α : Type w} {β : Type v} {f : α → Except ε β}

theorem map_all_ok {l : List α} {l' : List β} :
    l.mapM f = .ok l' ↔ List.Forall₂ (fun a b => f a = .ok b) l l' := by
  induction l generalizing l' with
  | nil =>
    rw [List.mapM_nil, pure_ok, List.forall₂_nil_left_iff]
    exact eq_comm
  | cons a l ih =>
    rw [List.mapM_cons, bind_ok, List.forall₂_cons_left_iff]
    refine exists_congr fun b => ?_
    rw [bind_ok]
    constructor
    · rintro ⟨here, rest, later, built⟩
      exact ⟨rest, here, ih.mp later, (pure_ok.mp built).symm⟩
    · rintro ⟨rest, here, later, rfl⟩
      exact ⟨here, rest, ih.mpr later, rfl⟩

theorem map_all_mem {l : List α} {l' : List β} (run : l.mapM f = .ok l') :
    (∀ b, b ∈ l' ↔ ∃ a ∈ l, f a = .ok b) ∧ ∀ a ∈ l, ∃ b ∈ l', f a = .ok b := by
  have entries := map_all_ok.mp run
  clear run
  induction entries with
  | nil => simp
  | @cons a b l l' here _ ih =>
    obtain ⟨results, each⟩ := ih
    constructor
    · intro c
      rw [List.mem_cons, results c, List.exists_mem_cons_iff, here, Except.ok.injEq]
      exact or_congr_left eq_comm
    · rw [List.forall_mem_cons]
      refine ⟨⟨b, List.mem_cons_self, here⟩, fun c listed => ?_⟩
      obtain ⟨d, built, ran⟩ := each c listed
      exact ⟨d, List.mem_cons_of_mem b built, ran⟩

theorem paired_left {R : α → β → Prop} {l : List α} {l' : List β} {a : α} (h : List.Forall₂ R l l')
    (mem : a ∈ l) : ∃ b ∈ l', R a b := by
  induction h with
  | nil => cases mem
  | cons here _ ih =>
    rcases List.mem_cons.mp mem with rfl | later
    · exact ⟨_, List.mem_cons_self, here⟩
    · obtain ⟨b, listed, related⟩ := ih later
      exact ⟨b, List.mem_cons_of_mem _ listed, related⟩

theorem paired_right {R : α → β → Prop} {l : List α} {l' : List β} {b : β} (h : List.Forall₂ R l l')
    (mem : b ∈ l') : ∃ a ∈ l, R a b :=
  paired_left h.flip mem

theorem paired_at {R : α → β → Prop} {l : List α} {l' : List β} {i : ℕ} {a : α}
    (h : List.Forall₂ R l l') (found : l[i]? = some a) : ∃ b, l'[i]? = some b ∧ R a b := by
  induction h generalizing i with
  | nil => cases found
  | @cons _ b _ _ here _ ih =>
    cases i with
    | zero =>
      obtain rfl := Option.some.inj found
      exact ⟨b, rfl, here⟩
    | succ i => exact ih found

theorem paired_map_eq {γ : Type*} {R : α → β → Prop} {l : List α} {l' : List β} {f : α → γ}
    {g : β → γ} (h : List.Forall₂ R l l') (same : ∀ a b, R a b → f a = g b) :
    l.map f = l'.map g := by
  induction h with
  | nil => rfl
  | cons here _ ih => rw [List.map_cons, List.map_cons, same _ _ here, ih]

theorem map_all_exists {l : List α} (each : ∀ a ∈ l, ∃ b, f a = .ok b) :
    ∃ l', l.mapM f = .ok l' := by
  induction l with
  | nil => exact ⟨[], rfl⟩
  | cons a l ih =>
    obtain ⟨⟨b, here⟩, later⟩ := List.forall_mem_cons.mp each
    obtain ⟨l', rest⟩ := ih later
    refine ⟨b :: l', ?_⟩
    rw [List.mapM_cons]
    exact bind_ok.mpr ⟨b, here, bind_ok.mpr ⟨l', rest, rfl⟩⟩

theorem map_all_total {l : List α} {g : α → β} (each : ∀ a ∈ l, f a = .ok (g a)) :
    l.mapM f = .ok (l.map g) := by
  rw [map_all_ok, List.forall₂_map_right_iff, List.forall₂_same]
  exact each

theorem each_ok {check : α → Except ε PUnit} {l : List α} :
    l.forM check = .ok ⟨⟩ ↔ ∀ a ∈ l, check a = .ok ⟨⟩ := by
  induction l with
  | nil => simp [Pure.pure, Except.pure]
  | cons a l ih =>
    rw [List.forall_mem_cons, ← ih]
    constructor
    · intro passed
      obtain ⟨_, here, later⟩ := bind_ok.mp passed
      exact ⟨here, later⟩
    · rintro ⟨here, later⟩
      exact bind_ok.mpr ⟨_, here, later⟩

end Maps

section Tests

variable {ε : Type u} {α : Type}

/-- The entries that pass a test which may fail. -/
def keepAll (f : α → Except ε Bool) : List α → Except ε (List α)
  | [] => .ok []
  | a :: l => do
    let kept ← f a
    let rest ← keepAll f l
    return if kept then a :: rest else rest

theorem keep_all_ok {f : α → Except ε Bool} {l l' : List α} (run : keepAll f l = .ok l') :
    (∀ a ∈ l, ∃ b, f a = .ok b) ∧ ∀ a, a ∈ l' ↔ a ∈ l ∧ f a = .ok true := by
  induction l generalizing l' with
  | nil =>
    obtain rfl : l' = [] := (Except.ok.inj run).symm
    simp
  | cons a l ih =>
    obtain ⟨kept, here, run⟩ := bind_ok.mp run
    obtain ⟨rest, later, built⟩ := bind_ok.mp run
    obtain rfl := pure_ok.mp built
    obtain ⟨each, members⟩ := ih later
    refine ⟨List.forall_mem_cons.mpr ⟨⟨kept, here⟩, each⟩, fun b => ?_⟩
    cases kept with
    | true =>
      rw [if_pos rfl, List.mem_cons, members b, List.mem_cons]
      constructor
      · rintro (rfl | ⟨listed, passed⟩)
        · exact ⟨.inl rfl, here⟩
        · exact ⟨.inr listed, passed⟩
      · rintro ⟨rfl | listed, passed⟩
        · exact .inl rfl
        · exact .inr ⟨listed, passed⟩
    | false =>
      rw [if_neg Bool.false_ne_true, members b, List.mem_cons]
      refine ⟨fun ⟨listed, passed⟩ => ⟨.inr listed, passed⟩, ?_⟩
      rintro ⟨rfl | listed, passed⟩
      · rw [here] at passed
        cases passed
      · exact ⟨listed, passed⟩

theorem keep_all_total {f : α → Except ε Bool} {l : List α} (each : ∀ a ∈ l, ∃ b, f a = .ok b) :
    ∃ l', keepAll f l = .ok l' := by
  induction l with
  | nil => exact ⟨[], rfl⟩
  | cons a l ih =>
    obtain ⟨⟨kept, here⟩, later⟩ := List.forall_mem_cons.mp each
    obtain ⟨rest, built⟩ := ih later
    exact ⟨_, bind_ok.mpr ⟨kept, here, bind_ok.mpr ⟨rest, built, rfl⟩⟩⟩

theorem keep_all_error {f : α → Except ε Bool} {l : List α} {e : ε} (run : keepAll f l = .error e) :
    ∃ a ∈ l, f a = .error e := by
  induction l with
  | nil => cases run
  | cons a l ih =>
    rcases bind_error.mp run with failed | ⟨kept, -, run⟩
    · exact ⟨a, List.mem_cons_self, failed⟩
    · rcases bind_error.mp run with failed | ⟨rest, -, built⟩
      · obtain ⟨b, listed, failed⟩ := ih failed
        exact ⟨b, List.mem_cons_of_mem a listed, failed⟩
      · cases built

end Tests

section Indexed

variable {α : Type u} {l : List α} {a : α} {i : ℕ} {entry : α × ℕ}

theorem zip_idx_snoc : (l ++ [a]).zipIdx = l.zipIdx ++ [(a, l.length)] := by
  rw [List.zipIdx_append, Nat.zero_add]
  rfl

theorem zip_idx_numbers (l : List α) :
    l.zipIdx.map (fun entry => (entry.2 : ℤ)) = (List.range l.length).map Int.ofNat := by
  have split : (fun entry : α × ℕ => (entry.2 : ℤ)) = Int.ofNat ∘ Prod.snd := rfl
  rw [split, ← List.map_map, List.zipIdx_map_snd, List.range_eq_range']

theorem zip_idx_at (found : l[i]? = some a) : l.zipIdx[i]? = some (a, i) := by
  rw [List.getElem?_zipIdx, found, Nat.zero_add]
  rfl

theorem of_zip_idx_at (found : l.zipIdx[i]? = some entry) : l[i]? = some entry.1 ∧ entry.2 = i := by
  rw [List.getElem?_zipIdx, Option.map_eq_some_iff] at found
  obtain ⟨a, here, rfl⟩ := found
  exact ⟨here, Nat.zero_add i⟩

theorem fold_positions {σ : Type*} {I : List α → σ → Prop} {f : σ → ℕ → σ} {s : σ}
    (step : ∀ past a rest s, l = past ++ a :: rest → I past s → I (past ++ [a]) (f s past.length))
    (init : I [] s) : I l ((List.range l.length).foldl f s) := by
  suffices reached : ∀ k, k ≤ l.length → I (l.take k) ((List.range k).foldl f s) by
    simpa using reached l.length le_rfl
  intro k
  induction k with
  | zero => exact fun _ => init
  | succ k ih =>
    intro inside
    have split : l = l.take k ++ l[k] :: l.drop (k + 1) := by
      rw [List.getElem_cons_drop, List.take_append_drop]
    have length : (l.take k).length = k := List.length_take_of_le (by omega)
    have taken := step (l.take k) l[k] (l.drop (k + 1)) _ split (ih (by omega))
    rw [length] at taken
    rwa [List.range_succ, List.foldl_append, List.take_succ_eq_append_getElem inside]

end Indexed

section Fuel

variable {σ : Type*}

/-- Repeats a step until it stops or the fuel is spent. -/
def loop (step : σ → Option σ) : ℕ → σ → σ
  | 0, s => s
  | fuel + 1, s =>
    match step s with
    | none => s
    | some s' => loop step fuel s'

variable {step : σ → Option σ}

theorem loop_invariant {I : σ → Prop} (kept : ∀ s s', I s → step s = some s' → I s')
    (fuel : ℕ) {s : σ} (init : I s) : I (loop step fuel s) := by
  induction fuel generalizing s with
  | zero => exact init
  | succ fuel ih =>
    unfold loop
    split
    · exact init
    · rename_i s' h
      exact ih (kept s s' init h)

theorem loop_halts {I : σ → Prop} (kept : ∀ s s', I s → step s = some s' → I s') (size : σ → ℕ)
    (shrinks : ∀ s s', I s → step s = some s' → size s' < size s) {fuel : ℕ} {s : σ} (init : I s)
    (enough : size s ≤ fuel) : step (loop step fuel s) = none := by
  induction fuel generalizing s with
  | zero =>
    cases h : step s with
    | none => exact h
    | some s' =>
      have := shrinks s s' init h
      omega
  | succ fuel ih =>
    unfold loop
    split
    · assumption
    · rename_i s' h
      have := shrinks s s' init h
      exact ih (kept s s' init h) (by omega)

end Fuel

section Runs

variable {σ : Type v} {ι : Type w} {ε : Type u}

/-- One step of a run: the state before, the input and the state after. -/
structure Taken (σ : Type v) (ι : Type w) where
  before : σ
  input : ι
  after : σ

/-- The runs of a system that may refuse an input, with the steps they took. -/
inductive Trace (step : σ → ι → Except ε σ) : σ → List (Taken σ ι) → σ → Prop
  | done (s : σ) : Trace step s [] s
  | next {s m s' : σ} {input : ι} {rest : List (Taken σ ι)} (first : step s input = .ok m)
      (tail : Trace step m rest s') : Trace step s (⟨s, input, m⟩ :: rest) s'

variable {step : σ → ι → Except ε σ} {s s' : σ} {steps past rest : List (Taken σ ι)}

theorem trace_of_fold {inputs : List ι} (run : inputs.foldlM step s = .ok s') :
    ∃ steps, Trace step s steps s' ∧ steps.map Taken.input = inputs := by
  induction inputs generalizing s with
  | nil =>
    obtain rfl := fold_nil.mp run
    exact ⟨[], .done s, rfl⟩
  | cons input inputs ih =>
    obtain ⟨m, first, tail⟩ := fold_cons.mp run
    obtain ⟨steps, trace, same⟩ := ih tail
    exact ⟨⟨s, input, m⟩ :: steps, .next first trace, by simp [same]⟩

theorem trace_append :
    Trace step s (past ++ rest) s' ↔ ∃ m, Trace step s past m ∧ Trace step m rest s' := by
  induction past generalizing s with
  | nil =>
    constructor
    · intro h
      exact ⟨s, .done s, h⟩
    · rintro ⟨m, empty, tail⟩
      cases empty
      exact tail
  | cons taken past ih =>
    constructor
    · rintro (_ | ⟨first, tail⟩)
      obtain ⟨m, mid, last⟩ := ih.mp tail
      exact ⟨m, .next first mid, last⟩
    · rintro ⟨m, (_ | ⟨first, mid⟩), last⟩
      exact .next first (ih.mpr ⟨m, mid, last⟩)

theorem Trace.invariant {I : σ → Prop} (h : Trace step s steps s') (init : I s)
    (kept : ∀ s input s', I s → step s input = .ok s' → I s') : I s' := by
  induction h with
  | done s => exact init
  | next first tail ih => exact ih (kept _ _ _ init first)

theorem Trace.forall_steps {I : σ → Prop} {P : Taken σ ι → Prop} (h : Trace step s steps s')
    (init : I s) (kept : ∀ s input s', I s → step s input = .ok s' → I s')
    (each : ∀ s input s', I s → step s input = .ok s' → P ⟨s, input, s'⟩) :
    ∀ taken ∈ steps, P taken := by
  induction h with
  | done s => simp
  | next first tail ih =>
    intro taken found
    rcases List.mem_cons.mp found with rfl | later
    · exact each _ _ _ init first
    · exact ih (kept _ _ _ init first) taken later

theorem Trace.telescope {K : Type*} [AddCommMonoid K] [PartialOrder K] [IsOrderedAddMonoid K]
    {I : σ → Prop} (potential : σ → K) (gain cost : Taken σ ι → K) (h : Trace step s steps s')
    (init : I s) (kept : ∀ s input s', I s → step s input = .ok s' → I s')
    (each : ∀ s input s', I s → step s input = .ok s' →
      gain ⟨s, input, s'⟩ + potential s' ≤ potential s + cost ⟨s, input, s'⟩) :
    (steps.map gain).sum + potential s' ≤ potential s + (steps.map cost).sum := by
  induction h with
  | done s => simp
  | @next s m s' input rest first tail ih =>
    simp only [List.map_cons, List.sum_cons]
    calc gain ⟨s, input, m⟩ + (rest.map gain).sum + potential s'
        = gain ⟨s, input, m⟩ + ((rest.map gain).sum + potential s') := add_assoc _ _ _
      _ ≤ gain ⟨s, input, m⟩ + (potential m + (rest.map cost).sum) :=
          add_le_add (le_refl _) (ih (kept s input m init first))
      _ = gain ⟨s, input, m⟩ + potential m + (rest.map cost).sum := (add_assoc _ _ _).symm
      _ ≤ potential s + cost ⟨s, input, m⟩ + (rest.map cost).sum :=
          add_le_add (each s input m init first) (le_refl _)
      _ = potential s + (cost ⟨s, input, m⟩ + (rest.map cost).sum) := add_assoc _ _ _

end Runs

end Metroflow.Lib
