import Metroflow.Lib.Bytes

namespace Metroflow.Replay

open Metroflow.Lib

/-- The fields of a double. -/
structure PyFloat where
  sign : Bool
  exponent : ℕ
  fraction : ℕ
  exponent_lt : exponent < 2048 := by decide
  fraction_lt : fraction < 2 ^ 52 := by decide
  deriving DecidableEq

namespace PyFloat

def isNan (x : PyFloat) : Bool := x.exponent = 2047 && x.fraction ≠ 0

/-- The text of the size of a float in hexadecimal, without its sign. -/
def hexSize (x : PyFloat) : List Char :=
  let digits := lastDigits 16 Nat.digitChar 13 x.fraction
  if x.exponent = 2047 then ['i', 'n', 'f']
  else if x.exponent = 0 then
    if x.fraction = 0 then ['0', 'x', '0', '.', '0', 'p', '+', '0']
    else ['0', 'x', '0', '.'] ++ digits ++ ['p', '-', '1', '0', '2', '2']
  else ['0', 'x', '1', '.'] ++ digits ++
    if 1023 ≤ x.exponent then ['p', '+'] ++ Nat.toDigits 10 (x.exponent - 1023)
    else ['p', '-'] ++ Nat.toDigits 10 (1023 - x.exponent)

def hex (x : PyFloat) : List Char :=
  if x.isNan then ['n', 'a', 'n'] else if x.sign then '-' :: x.hexSize else x.hexSize

def Same (x y : PyFloat) : Prop := x = y ∨ x.isNan = true ∧ y.isNan = true

theorem hex_digit_inj (i j : ℕ) (i_lt : i < 16) (j_lt : j < 16)
    (h : Nat.digitChar i = Nat.digitChar j) : i = j := by
  have apart : ∀ i j : Fin 16, Nat.digitChar i = Nat.digitChar j → i = j := by decide
  exact congrArg Fin.val (apart ⟨i, i_lt⟩ ⟨j, j_lt⟩ h)

variable {x y : PyFloat}

theorem fraction_inj {r s : List Char} (h : lastDigits 16 Nat.digitChar 13 x.fraction ++ r =
    lastDigits 16 Nat.digitChar 13 y.fraction ++ s) : x.fraction = y.fraction ∧ r = s := by
  obtain ⟨digits, rest⟩ := List.append_inj h (by rw [last_digits_length, last_digits_length])
  have width : 16 ^ 13 = 2 ^ 52 := by decide
  exact ⟨last_digits_inj hex_digit_inj (width ▸ x.fraction_lt) (width ▸ y.fraction_lt) digits, rest⟩

theorem exponent_inj {e f : ℕ} (h : (if 1023 ≤ e then ['p', '+'] ++ Nat.toDigits 10 (e - 1023)
      else ['p', '-'] ++ Nat.toDigits 10 (1023 - e)) =
    if 1023 ≤ f then ['p', '+'] ++ Nat.toDigits 10 (f - 1023)
      else ['p', '-'] ++ Nat.toDigits 10 (1023 - f)) : e = f := by
  split at h <;> split at h
  · have := digits_inj (List.append_cancel_left h)
    omega
  · simp at h
  · simp at h
  · have := digits_inj (List.append_cancel_left h)
    omega

theorem hex_size_inj (x_num : x.isNan = false) (y_num : y.isNan = false)
    (h : x.hexSize = y.hexSize) : x.exponent = y.exponent ∧ x.fraction = y.fraction := by
  have infinite : ∀ {z : PyFloat}, z.isNan = false → z.exponent = 2047 → z.fraction = 0 := by
    intro z num top
    simpa [isNan, top] using num
  unfold hexSize at h
  dsimp only at h
  by_cases x_top : x.exponent = 2047 <;> by_cases y_top : y.exponent = 2047
  · exact ⟨x_top.trans y_top.symm, (infinite x_num x_top).trans (infinite y_num y_top).symm⟩
  · rw [if_pos x_top, if_neg y_top] at h
    split at h
    · split at h <;> simp at h
    · simp at h
  · rw [if_neg x_top, if_pos y_top] at h
    split at h
    · split at h <;> simp at h
    · simp at h
  · rw [if_neg x_top, if_neg y_top] at h
    by_cases x_low : x.exponent = 0 <;> by_cases y_low : y.exponent = 0
    · rw [if_pos x_low, if_pos y_low] at h
      refine ⟨x_low.trans y_low.symm, ?_⟩
      by_cases x_zero : x.fraction = 0 <;> by_cases y_zero : y.fraction = 0
      · exact x_zero.trans y_zero.symm
      · rw [if_pos x_zero, if_neg y_zero] at h
        have := congrArg List.length h
        simp [last_digits_length] at this
      · rw [if_neg x_zero, if_pos y_zero] at h
        have := congrArg List.length h
        simp [last_digits_length] at this
      · rw [if_neg x_zero, if_neg y_zero, List.append_assoc, List.append_assoc] at h
        exact (fraction_inj (List.append_cancel_left h)).1
    · rw [if_pos x_low, if_neg y_low] at h
      by_cases x_zero : x.fraction = 0 <;> simp [x_zero] at h
    · rw [if_neg x_low, if_pos y_low] at h
      by_cases y_zero : y.fraction = 0 <;> simp [y_zero] at h
    · rw [if_neg x_low, if_neg y_low, List.append_assoc, List.append_assoc] at h
      obtain ⟨fraction, exponent⟩ := fraction_inj (List.append_cancel_left h)
      exact ⟨exponent_inj exponent, fraction⟩

theorem hex_size_head (x : PyFloat) : ∃ c r, x.hexSize = c :: r ∧ c ≠ '-' ∧ c ≠ 'n' := by
  unfold hexSize
  dsimp only
  split
  · exact ⟨'i', ['n', 'f'], rfl, by decide, by decide⟩
  · split
    · split
      · exact ⟨'0', _, rfl, by decide, by decide⟩
      · exact ⟨'0', _, rfl, by decide, by decide⟩
    · exact ⟨'0', _, rfl, by decide, by decide⟩

theorem hex_inj : x.hex = y.hex ↔ x.Same y := by
  obtain ⟨c, r, x_size, c_sign, c_nan⟩ := hex_size_head x
  obtain ⟨d, s, y_size, d_sign, d_nan⟩ := hex_size_head y
  constructor
  · intro h
    unfold hex at h
    by_cases x_nan : x.isNan <;> by_cases y_nan : y.isNan
    · exact .inr ⟨x_nan, y_nan⟩
    · rw [if_pos x_nan, if_neg y_nan] at h
      split at h
      · simp at h
      · rw [y_size] at h
        exact absurd (List.cons.inj h).1.symm d_nan
    · rw [if_neg x_nan, if_pos y_nan] at h
      split at h
      · simp at h
      · rw [x_size] at h
        exact absurd (List.cons.inj h).1 c_nan
    · left
      rw [if_neg x_nan, if_neg y_nan] at h
      rw [Bool.not_eq_true] at x_nan y_nan
      have whole : x.sign = y.sign → x.hexSize = y.hexSize → x = y := by
        intro sign size
        obtain ⟨exponent, fraction⟩ := hex_size_inj x_nan y_nan size
        cases x
        cases y
        congr
      by_cases x_neg : x.sign <;> by_cases y_neg : y.sign
      · rw [if_pos x_neg, if_pos y_neg] at h
        exact whole (x_neg.trans y_neg.symm) (List.cons.inj h).2
      · rw [if_pos x_neg, if_neg y_neg, y_size] at h
        exact absurd (List.cons.inj h).1.symm d_sign
      · rw [if_neg x_neg, if_pos y_neg, x_size] at h
        exact absurd (List.cons.inj h).1 c_sign
      · rw [if_neg x_neg, if_neg y_neg] at h
        rw [Bool.not_eq_true] at x_neg y_neg
        exact whole (x_neg.trans y_neg.symm) h
  · rintro (rfl | ⟨x_nan, y_nan⟩)
    · rfl
    · unfold hex
      rw [if_pos x_nan, if_pos y_nan]

end PyFloat

section Texts

def intChars : ℤ → List Char
  | .ofNat n => Nat.toDigits 10 n
  | .negSucc n => '-' :: Nat.toDigits 10 (n + 1)

theorem int_chars_inj : ∀ {i j : ℤ}, intChars i = intChars j → i = j
  | .ofNat n, .ofNat m, h => congrArg Int.ofNat (digits_inj h)
  | .negSucc n, .negSucc m, h => by
    have := digits_inj (List.cons.inj h).2
    rw [Nat.succ.inj this]
  | .ofNat n, .negSucc m, h => by
    have digit := digit_of_mem (c := '-') (h ▸ List.mem_cons_self : '-' ∈ intChars (.ofNat n))
    exact absurd digit (by decide)
  | .negSucc n, .ofNat m, h => by
    have digit := digit_of_mem (c := '-') (h ▸ List.mem_cons_self : '-' ∈ intChars (.ofNat m))
    exact absurd digit (by decide)

/-- The rest of the text of a shape, after its first number. -/
def laterChars : List ℕ → List Char
  | [] => [')']
  | n :: rest => [',', ' '] ++ Nat.toDigits 10 n ++ laterChars rest

def shapeChars : List ℕ → List Char
  | [] => ['(', ')']
  | [n] => '(' :: (Nat.toDigits 10 n ++ [',', ')'])
  | n :: rest => '(' :: (Nat.toDigits 10 n ++ laterChars rest)

theorem later_chars_stop (l : List ℕ) : ∀ c ∈ (laterChars l).head?, c.isDigit = false := by
  cases l <;> simp [laterChars]

theorem later_chars_inj : ∀ {l l' : List ℕ}, laterChars l = laterChars l' → l = l'
  | [], [], _ => rfl
  | [], _ :: _, h => by simp [laterChars] at h
  | _ :: _, [], h => by simp [laterChars] at h
  | n :: l, m :: l', h => by
    unfold laterChars at h
    rw [List.append_assoc, List.append_assoc] at h
    obtain ⟨rfl, rest⟩ := digits_append_inj (later_chars_stop l) (later_chars_stop l')
      (List.append_cancel_left h)
    rw [later_chars_inj rest]

theorem shape_chars_inj {l l' : List ℕ} (h : shapeChars l = shapeChars l') : l = l' := by
  have stop : ∀ c ∈ ([',', ')'] : List Char).head?, c.isDigit = false := by simp
  have digits : ∀ {n : ℕ} {r : List Char}, ')' :: [] ≠ Nat.toDigits 10 n ++ r := by
    intro n r same
    cases text : Nat.toDigits 10 n with
    | nil => exact Nat.toDigits_ne_nil text
    | cons c rest =>
      have listed : c ∈ Nat.toDigits 10 n := by
        rw [text]
        exact List.mem_cons_self
      have digit := digit_of_mem listed
      rw [text] at same
      rw [← (List.cons.inj same).1] at digit
      exact absurd digit (by decide)
  match l, l', h with
  | [], [], _ => rfl
  | [], [_], h => exact absurd (List.cons.inj h).2 digits
  | [], _ :: _ :: _, h => exact absurd (List.cons.inj h).2 digits
  | [_], [], h => exact absurd (List.cons.inj h).2.symm digits
  | _ :: _ :: _, [], h => exact absurd (List.cons.inj h).2.symm digits
  | [n], [m], h =>
    obtain ⟨rfl, -⟩ := digits_append_inj stop stop (List.cons.inj h).2
    rfl
  | [n], m :: k :: r, h =>
    obtain ⟨-, rest⟩ := digits_append_inj stop (later_chars_stop (k :: r)) (List.cons.inj h).2
    simp [laterChars] at rest
  | n :: k :: r, [m], h =>
    obtain ⟨-, rest⟩ := digits_append_inj (later_chars_stop (k :: r)) stop (List.cons.inj h).2
    simp [laterChars] at rest
  | n :: k :: r, m :: j :: s, h =>
    obtain ⟨rfl, rest⟩ :=
      digits_append_inj (later_chars_stop (k :: r)) (later_chars_stop (j :: s)) (List.cons.inj h).2
    rw [later_chars_inj rest]

end Texts

end Metroflow.Replay
