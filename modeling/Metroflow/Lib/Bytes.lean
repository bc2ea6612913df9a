import Metroflow.Lib.Common

namespace Metroflow.Lib

abbrev Bytes := List UInt8

section Lengths

variable {k n m : ℕ} {a b x y : Bytes}

/-- The last digits of a number in a base, the most significant one first. -/
def lastDigits {α : Type*} (base : ℕ) (digit : ℕ → α) : ℕ → ℕ → List α
  | 0, _ => []
  | k + 1, n => lastDigits base digit k (n / base) ++ [digit (n % base)]

section Digits

variable {α : Type*} {base : ℕ} {digit : ℕ → α}

theorem last_digits_length (k n : ℕ) : (lastDigits base digit k n).length = k := by
  induction k generalizing n with
  | zero => rfl
  | succ k ih => rw [lastDigits, List.length_append, ih, List.length_singleton]

theorem last_digits_inj (apart : ∀ i j, i < base → j < base → digit i = digit j → i = j)
    (n_lt : n < base ^ k) (m_lt : m < base ^ k)
    (h : lastDigits base digit k n = lastDigits base digit k m) : n = m := by
  induction k generalizing n m with
  | zero =>
    rw [pow_zero] at n_lt m_lt
    omega
  | succ k ih =>
    rw [pow_succ, Nat.mul_comm] at n_lt m_lt
    have base_pos : 0 < base := by
      by_contra none
      rw [Nat.eq_zero_of_not_pos none, Nat.zero_mul] at n_lt
      exact absurd n_lt (Nat.not_lt_zero n)
    unfold lastDigits at h
    obtain ⟨high, low⟩ :=
      List.append_inj h (by rw [last_digits_length, last_digits_length])
    have high := ih (Nat.div_lt_of_lt_mul n_lt) (Nat.div_lt_of_lt_mul m_lt) high
    have low := apart _ _ (Nat.mod_lt n base_pos) (Nat.mod_lt m base_pos) (List.cons.inj low).1
    rw [← Nat.div_add_mod n base, high, low, Nat.div_add_mod]

end Digits

/-- A number in a fixed count of bytes, the most significant one first. -/
def toBytes (k n : ℕ) : Bytes := lastDigits 256 UInt8.ofNat k n

theorem to_bytes_length (k n : ℕ) : (toBytes k n).length = k := last_digits_length k n

theorem to_bytes_inj (n_lt : n < 256 ^ k) (m_lt : m < 256 ^ k) (h : toBytes k n = toBytes k m) :
    n = m := by
  refine last_digits_inj (fun i j i_lt j_lt same => ?_) n_lt m_lt h
  have := congrArg UInt8.toNat same
  rw [UInt8.toNat_ofNat', UInt8.toNat_ofNat'] at this
  omega

/-- A byte string with its length in front, in eight bytes. -/
def sized (a : Bytes) : Bytes := toBytes 8 a.length ++ a

theorem sized_append_inj (a_fits : a.length < 256 ^ 8) (b_fits : b.length < 256 ^ 8)
    (h : sized a ++ x = sized b ++ y) : a = b ∧ x = y := by
  unfold sized at h
  rw [List.append_assoc, List.append_assoc] at h
  obtain ⟨lengths, rest⟩ := List.append_inj h (by rw [to_bytes_length, to_bytes_length])
  exact List.append_inj rest (to_bytes_inj a_fits b_fits lengths)

theorem blocks_inj : ∀ {l l' : List Bytes}, (∀ b ∈ l, b.length = k) → (∀ b ∈ l', b.length = k) →
    l.length = l'.length → l.flatten = l'.flatten → l = l'
  | [], [], _, _, _, _ => rfl
  | b :: l, b' :: l', sizes, sizes', count, h => by
    rw [List.flatten_cons, List.flatten_cons] at h
    have size := sizes b List.mem_cons_self
    have size' := sizes' b' List.mem_cons_self
    obtain ⟨rfl, rest⟩ := List.append_inj h (size.trans size'.symm)
    have tails := blocks_inj (fun c listed => sizes c (List.mem_cons_of_mem b listed))
      (fun c listed => sizes' c (List.mem_cons_of_mem b listed)) (Nat.succ.inj count) rest
    rw [tails]

end Lengths

section Texts

def utf8 (text : String) : Bytes := text.toByteArray.data.toList

theorem utf8_inj {s t : String} (h : utf8 s = utf8 t) : s = t := by
  rw [← String.toByteArray_inj]
  exact ByteArray.ext (Array.toList_inj.mp h)

variable {n m : ℕ}

theorem digits_inj (h : Nat.toDigits 10 n = Nat.toDigits 10 m) : n = m := by
  have := congrArg (Nat.ofDigitChars 10 · 0) h
  simpa only [Nat.ofDigitChars_ten_toDigits] using this

theorem digit_of_mem {c : Char} (h : c ∈ Nat.toDigits 10 n) : c.isDigit :=
  Nat.isDigit_of_mem_toDigits (by decide) (by decide) h

theorem run_append_inj {α : Type*} {P : α → Bool} : ∀ {l l' r r' : List α},
    (∀ c ∈ l, P c = true) → (∀ c ∈ l', P c = true) → (∀ c ∈ r.head?, P c = false) →
    (∀ c ∈ r'.head?, P c = false) → l ++ r = l' ++ r' → l = l' ∧ r = r'
  | [], [], _, _, _, _, _, _, h => ⟨rfl, h⟩
  | c :: l, [], r, r', run, _, _, stop', h => by
    have here := stop' c (by rw [← List.nil_append r', ← h]; rfl)
    rw [run c List.mem_cons_self] at here
    cases here
  | [], c :: l', r, r', _, run', stop, _, h => by
    have here := stop c (by rw [← List.nil_append r, h]; rfl)
    rw [run' c List.mem_cons_self] at here
    cases here
  | c :: l, c' :: l', r, r', run, run', stop, stop', h => by
    obtain ⟨rfl, rest⟩ := List.cons.inj h
    obtain ⟨rfl, rfl⟩ := run_append_inj (fun d listed => run d (List.mem_cons_of_mem c listed))
      (fun d listed => run' d (List.mem_cons_of_mem c listed)) stop stop' rest
    exact ⟨rfl, rfl⟩

theorem digits_append_inj {r r' : List Char} (stop : ∀ c ∈ r.head?, c.isDigit = false)
    (stop' : ∀ c ∈ r'.head?, c.isDigit = false)
    (h : Nat.toDigits 10 n ++ r = Nat.toDigits 10 m ++ r') : n = m ∧ r = r' := by
  obtain ⟨digits, rest⟩ := run_append_inj (P := Char.isDigit) (fun c => digit_of_mem)
    (fun c => digit_of_mem) stop stop' h
  exact ⟨digits_inj digits, rest⟩

end Texts

end Metroflow.Lib
