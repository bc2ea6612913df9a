import Metroflow.Lib.Common

namespace Metroflow.Lib

variable {α β : Type*} {a b : α} {l l' rest piece : List α} {pieces : List (List α)} {mark : α → Bool}

def walkSteps (l : List α) : List (α × α) := l.zip l.tail

/-- Each piece starts with the last entry of the one before. -/
def Linked (pieces : List (List α)) : Prop := pieces.IsChain fun l l' => l.getLast? = l'.head?

/-- Linked pieces put together again. -/
def glue : List (List α) → List α
  | [] => []
  | first :: others => first.take 1 ++ (first :: others).flatMap List.tail

theorem glue_cons {first : List α} {others : List (List α)} :
    glue (first :: others) = first.take 1 ++ (first :: others).flatMap List.tail := rfl

/-- Cuts a walk at its marked entries; a cut entry ends one piece and starts the next. -/
def cutFrom (mark : α → Bool) (current : List α) : List α → List (List α)
  | [] => if 2 ≤ current.length then [current] else []
  | a :: rest =>
    if mark a = true ∧ 2 ≤ (current ++ [a]).length then
      (current ++ [a]) :: cutFrom mark [a] rest
    else cutFrom mark (current ++ [a]) rest

/-- What a cut makes of a walk that starts at `a`. -/
structure CutOf (mark : α → Bool) (a : α) (l : List α) (pieces : List (List α)) : Prop where
  joined : pieces.flatMap List.tail = l
  starts : ∀ first ∈ pieces.head?, first.head? = some a
  linked : Linked pieces
  long : ∀ piece ∈ pieces, 2 ≤ piece.length
  inner : ∀ piece ∈ pieces, ∀ b ∈ piece.tail.dropLast, mark b = false
  heads : ∀ piece ∈ pieces, ∀ b, piece.head? = some b → mark b = true ∨ b = a
  lasts : ∀ piece ∈ pieces, ∀ b, piece.getLast? = some b →
    mark b = true ∨ l.getLast? = some b

theorem cut_from_spec {cs : List α} (unmarked : ∀ b ∈ cs, mark b = false) :
    CutOf mark a (cs ++ rest) (cutFrom mark (a :: cs) rest) := by
  induction rest generalizing a cs with
  | nil =>
    unfold cutFrom
    cases cs with
    | nil => constructor <;> simp [Linked]
    | cons c cs =>
      rw [if_pos (by simp)]
      constructor
      · simp
      · simp
      · exact List.isChain_singleton _
      · simp
      · intro piece listed b inside
        rw [List.mem_singleton.mp listed] at inside
        exact unmarked b (List.mem_of_mem_dropLast inside)
      · intro piece listed b starts
        rw [List.mem_singleton.mp listed] at starts
        exact .inr (Option.some.inj starts).symm
      · intro piece listed b ends
        rw [List.mem_singleton.mp listed, List.getLast?_cons_cons] at ends
        rw [List.append_nil]
        exact .inr ends
  | cons c rest ih =>
    unfold cutFrom
    by_cases marked : mark c = true
    · rw [if_pos ⟨marked, by simp⟩]
      have later : CutOf mark c ([] ++ rest) (cutFrom mark [c] rest) := ih (by simp)
      refine ⟨?_, ?_, ?_, ?_, ?_, ?_, ?_⟩
      · rw [List.flatMap_cons, later.joined]
        simp
      · simp
      · refine List.isChain_cons.mpr ⟨fun next follows => ?_, later.linked⟩
        rw [later.starts next follows, List.getLast?_concat]
      · rw [List.forall_mem_cons]
        exact ⟨by simp, later.long⟩
      · rw [List.forall_mem_cons]
        refine ⟨fun b inside => unmarked b ?_, later.inner⟩
        simpa using inside
      · rw [List.forall_mem_cons]
        refine ⟨fun b starts => .inr (Option.some.inj starts).symm, fun piece listed b starts => ?_⟩
        rcases later.heads piece listed b starts with here | rfl
        · exact .inl here
        · exact .inl marked
      · rw [List.forall_mem_cons]
        refine ⟨fun b ends => .inl ?_, fun piece listed b ends => ?_⟩
        · rw [List.getLast?_concat] at ends
          exact Option.some.inj ends ▸ marked
        · refine (later.lasts piece listed b ends).imp_right fun last => ?_
          rw [List.nil_append] at last
          rw [List.getLast?_append, List.getLast?_cons, last]
          rfl
    · rw [if_neg fun both => marked both.1]
      have next : ∀ b ∈ cs ++ [c], mark b = false := by
        intro b listed
        rcases List.mem_append.mp listed with old | new
        · exact unmarked b old
        · exact List.mem_singleton.mp new ▸ Bool.eq_false_iff.mpr marked
      have later := ih (a := a) next
      rw [List.append_assoc, List.singleton_append] at later
      exact later

theorem cut_spec : CutOf mark a rest (cutFrom mark [a] rest) := by
  have spec : CutOf mark a ([] ++ rest) (cutFrom mark [a] rest) := cut_from_spec (by simp)
  exact spec

theorem CutOf.glued (h : CutOf mark a l pieces) (moves : l ≠ []) : glue pieces = a :: l := by
  cases pieces with
  | nil => exact absurd h.joined.symm moves
  | cons first others =>
    have starts := h.starts first rfl
    rw [glue_cons, h.joined]
    cases first with
    | nil => cases starts
    | cons b _ =>
      obtain rfl := Option.some.inj starts
      rfl

theorem walk_steps_cons : walkSteps (a :: b :: l) = (a, b) :: walkSteps (b :: l) := rfl

theorem walk_steps_append (nonempty : l ≠ []) :
    walkSteps (l ++ rest) = walkSteps l ++ walkSteps (l.getLast nonempty :: rest) := by
  induction l with
  | nil => exact absurd rfl nonempty
  | cons a l ih =>
    cases l with
    | nil => rfl
    | cons b l =>
      have := ih (List.cons_ne_nil b l)
      unfold walkSteps at this ⊢
      simpa using this

theorem walk_steps_glue (linked : Linked pieces) (filled : ∀ piece ∈ pieces, piece ≠ []) :
    walkSteps (glue pieces) = pieces.flatMap walkSteps := by
  induction pieces with
  | nil => rfl
  | cons first others ih =>
    obtain ⟨here, later⟩ := List.forall_mem_cons.mp filled
    have whole : glue (first :: others) = first ++ others.flatMap List.tail := by
      rw [glue_cons, List.flatMap_cons, ← List.append_assoc]
      cases first with
      | nil => exact absurd rfl here
      | cons a l => rfl
    rw [whole, walk_steps_append here, List.flatMap_cons, ← ih linked.tail later]
    congr 1
    cases others with
    | nil => rfl
    | cons next others =>
      have joint := (List.isChain_cons.mp linked).1 next rfl
      rw [List.getLast?_eq_getLast_of_ne_nil here] at joint
      rw [glue_cons]
      cases next with
      | nil => cases joint
      | cons a l =>
        obtain rfl := Option.some.inj joint
        rfl

theorem walk_steps_map (f : α → β) : walkSteps (l.map f) = (walkSteps l).map (Prod.map f f) := by
  unfold walkSteps
  rw [← List.map_tail, List.zip_map]

theorem walk_steps_reverse : walkSteps l.reverse = ((walkSteps l).map Prod.swap).reverse := by
  induction l with
  | nil => rfl
  | cons a l ih =>
    cases l with
    | nil => rfl
    | cons b l =>
      have nonempty : (b :: l).reverse ≠ [] := by simp
      have forward : walkSteps (a :: b :: l) = (a, b) :: walkSteps (b :: l) := rfl
      rw [List.reverse_cons, walk_steps_append nonempty, List.getLast_reverse, ih, forward,
        List.map_cons, List.reverse_cons]
      rfl

theorem chain_iff_steps {R : α → α → Prop} :
    l.IsChain R ↔ ∀ step ∈ walkSteps l, R step.1 step.2 := by
  induction l with
  | nil => simp [walkSteps]
  | cons a l ih =>
    cases l with
    | nil => simp [walkSteps]
    | cons b l =>
      rw [List.isChain_cons_cons, ih, walk_steps_cons, List.forall_mem_cons]

theorem glue_cons_cons {first next : List α} {others : List (List α)}
    (linked : Linked (first :: next :: others)) (filled : first ≠ []) :
    glue (first :: next :: others) = first.dropLast ++ glue (next :: others) := by
  have joint := (List.isChain_cons.mp linked).1 next rfl
  rw [List.getLast?_eq_getLast_of_ne_nil filled] at joint
  cases next with
  | nil => cases joint
  | cons b next =>
    obtain same := Option.some.inj joint
    cases first with
    | nil => exact absurd rfl filled
    | cons a first =>
      rw [glue_cons, glue_cons, List.flatMap_cons, List.take_one, List.take_one, ← same,
        ← List.append_assoc, ← List.append_assoc]
      congr 1
      exact (List.dropLast_append_getLast filled).symm

theorem mem_of_mem_glue (mem : a ∈ glue pieces) : ∃ piece ∈ pieces, a ∈ piece := by
  cases pieces with
  | nil => cases mem
  | cons first others =>
    rw [glue_cons, List.mem_append, List.mem_flatMap] at mem
    rcases mem with start | ⟨piece, listed, later⟩
    · exact ⟨first, List.mem_cons_self, List.mem_of_mem_take start⟩
    · exact ⟨piece, listed, List.mem_of_mem_tail later⟩

theorem mem_ends_or_inner (mem : a ∈ l) :
    l.head? = some a ∨ l.getLast? = some a ∨ a ∈ l.tail.dropLast := by
  cases l with
  | nil => cases mem
  | cons b l =>
    rcases List.mem_cons.mp mem with rfl | later
    · exact .inl rfl
    · right
      have filled := List.ne_nil_of_mem later
      rw [List.getLast?_cons_of_ne_nil filled, List.tail_cons]
      rw [← List.dropLast_append_getLast filled, List.mem_append, List.mem_singleton] at later
      rcases later with inner | last
      · exact .inr inner
      · exact .inl (last ▸ List.getLast?_eq_getLast_of_ne_nil filled)

theorem get_of_prefix {i : ℕ} (grown : l <+: l') (found : l[i]? = some a) : l'[i]? = some a := by
  obtain ⟨more, rfl⟩ := grown
  rw [List.getElem?_append_left (List.getElem?_eq_some_iff.mp found).1, found]

theorem piece_of_glue (linked : Linked pieces) (filled : ∀ piece ∈ pieces, piece ≠ [])
    (listed : piece ∈ pieces) : piece <:+: glue pieces := by
  induction pieces with
  | nil => cases listed
  | cons first others ih =>
    obtain ⟨here, later⟩ := List.forall_mem_cons.mp filled
    rcases List.mem_cons.mp listed with rfl | deeper
    · refine List.IsPrefix.isInfix ⟨others.flatMap List.tail, ?_⟩
      rw [glue_cons, List.flatMap_cons, ← List.append_assoc]
      cases piece with
      | nil => exact absurd rfl here
      | cons a l => rfl
    · cases others with
      | nil => cases deeper
      | cons next others =>
        rw [glue_cons_cons linked here]
        exact (ih linked.tail later deeper).trans (List.suffix_append _ _).isInfix

end Metroflow.Lib
