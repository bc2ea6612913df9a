import Metroflow.Lib.Bytes

namespace Metroflow.Lib.Sha256

/-- Words are numbers below this. -/
def wordBound : ℕ := 2 ^ 32

def rotate (x n : ℕ) : ℕ := (x >>> n ||| x <<< (32 - n)) % wordBound

/-- The number that bytes write, the most significant one first. -/
def ofBytes (bytes : Bytes) : ℕ := bytes.foldl (fun n byte => 256 * n + byte.toNat) 0

def roundConstants : List ℕ := [
  0x428a2f98, 0x71374491, 0xb5c0fbcf, 0xe9b5dba5, 0x3956c25b, 0x59f111f1, 0x923f82a4, 0xab1c5ed5,
  0xd807aa98, 0x12835b01, 0x243185be, 0x550c7dc3, 0x72be5d74, 0x80deb1fe, 0x9bdc06a7, 0xc19bf174,
  0xe49b69c1, 0xefbe4786, 0x0fc19dc6, 0x240ca1cc, 0x2de92c6f, 0x4a7484aa, 0x5cb0a9dc, 0x76f988da,
  0x983e5152, 0xa831c66d, 0xb00327c8, 0xbf597fc7, 0xc6e00bf3, 0xd5a79147, 0x06ca6351, 0x14292967,
  0x27b70a85, 0x2e1b2138, 0x4d2c6dfc, 0x53380d13, 0x650a7354, 0x766a0abb, 0x81c2c92e, 0x92722c85,
  0xa2bfe8a1, 0xa81a664b, 0xc24b8b70, 0xc76c51a3, 0xd192e819, 0xd6990624, 0xf40e3585, 0x106aa070,
  0x19a4c116, 0x1e376c08, 0x2748774c, 0x34b0bcb5, 0x391c0cb3, 0x4ed8aa4a, 0x5b9cca4f, 0x682e6ff3,
  0x748f82ee, 0x78a5636f, 0x84c87814, 0x8cc70208, 0x90befffa, 0xa4506ceb, 0xbef9a3f7, 0xc67178f2]

/-- The eight words that the rounds pass on. -/
structure Working where
  a : ℕ
  b : ℕ
  c : ℕ
  d : ℕ
  e : ℕ
  f : ℕ
  g : ℕ
  h : ℕ

def start : Working :=
  ⟨0x6a09e667, 0xbb67ae85, 0x3c6ef372, 0xa54ff53a, 0x510e527f, 0x9b05688c, 0x1f83d9ab, 0x5be0cd19⟩

def round (s : Working) (wordAndConstant : ℕ × ℕ) : Working :=
  let choice := (s.e &&& s.f) ^^^ ((wordBound - 1 - s.e) &&& s.g)
  let majority := (s.a &&& s.b) ^^^ (s.a &&& s.c) ^^^ (s.b &&& s.c)
  let first := s.h + (rotate s.e 6 ^^^ rotate s.e 11 ^^^ rotate s.e 25) + choice +
    wordAndConstant.2 + wordAndConstant.1
  let second := (rotate s.a 2 ^^^ rotate s.a 13 ^^^ rotate s.a 22) + majority
  ⟨(first + second) % wordBound, s.a, s.b, s.c, (s.d + first) % wordBound, s.e, s.f, s.g⟩

/-- The words of the schedule, the latest one first. -/
def extend : ℕ → List ℕ → List ℕ
  | 0, words => words
  | k + 1, words =>
    let early := words.getD 14 0
    let late := words.getD 1 0
    extend k ((words.getD 15 0 + (rotate early 7 ^^^ rotate early 18 ^^^ early >>> 3) +
      words.getD 6 0 + (rotate late 17 ^^^ rotate late 19 ^^^ late >>> 10)) % wordBound :: words)

/-- The first `k` pieces of a length, one after the other. -/
def pieces (size : ℕ) : ℕ → Bytes → List Bytes
  | 0, _ => []
  | k + 1, bytes => bytes.take size :: pieces size k (bytes.drop size)

def compress (s : Working) (block : Bytes) : Working :=
  let words := (extend 48 ((pieces 4 16 block).map ofBytes).reverse).reverse
  let t := (words.zip roundConstants).foldl round s
  ⟨(s.a + t.a) % wordBound, (s.b + t.b) % wordBound, (s.c + t.c) % wordBound,
    (s.d + t.d) % wordBound, (s.e + t.e) % wordBound, (s.f + t.f) % wordBound,
    (s.g + t.g) % wordBound, (s.h + t.h) % wordBound⟩

/-- The message with its end mark and its length in bits, in whole blocks. -/
def pad (message : Bytes) : Bytes :=
  message ++ 0x80 :: List.replicate ((119 - message.length % 64) % 64) 0 ++
    toBytes 8 (8 * message.length)

end Sha256

open Sha256 in
def sha256 (message : Bytes) : Bytes :=
  let padded := pad message
  let s := (pieces 64 (padded.length / 64) padded).foldl compress start
  [s.a, s.b, s.c, s.d, s.e, s.f, s.g, s.h].flatMap (toBytes 4)

example : Sha256.ofBytes (sha256 (utf8 "abc")) =
    0xba7816bf8f01cfea414140de5dae2223b00361a396177a9cb410ff61f20015ad := by decide +kernel

namespace Sha256

theorem of_bytes_lt (bytes : Bytes) : ofBytes bytes < 256 ^ bytes.length := by
  unfold ofBytes
  induction bytes using List.reverseRecOn with
  | nil => exact Nat.one_pos
  | append_singleton bytes byte ih =>
    rw [List.foldl_append, List.foldl_cons, List.foldl_nil, List.length_append,
      List.length_singleton, pow_succ]
    have small := byte.toNat_lt
    omega

end Sha256

/-- The first bytes of a text's digest as a number. -/
def digestNumber (count : ℕ) (payload : String) : ℕ :=
  Sha256.ofBytes ((sha256 (utf8 payload)).take count)

theorem digest_number_lt (count : ℕ) (payload : String) :
    digestNumber count payload < 256 ^ count :=
  (Sha256.of_bytes_lt _).trans_le (Nat.pow_le_pow_right (by decide) (List.length_take_le _ _))

section Hexdigest

def hexDigits : List Char :=
  ['0', '1', '2', '3', '4', '5', '6', '7', '8', '9', 'a', 'b', 'c', 'd', 'e', 'f']

/-- Bytes written in lowercase hexadecimal digits. -/
def hexdigest (bytes : Bytes) : String :=
  String.ofList (bytes.flatMap fun byte => lastDigits 16 (hexDigits.getD · '0') 2 byte.toNat)

theorem sha256_length (message : Bytes) : (sha256 message).length = 32 := by
  unfold sha256
  simp only [List.flatMap_cons, List.flatMap_nil, List.length_append, to_bytes_length,
    List.length_nil]

theorem hexdigest_length (bytes : Bytes) : (hexdigest bytes).length = 2 * bytes.length := by
  unfold hexdigest
  rw [String.length_ofList]
  induction bytes with
  | nil => rfl
  | cons byte bytes ih =>
    rw [List.flatMap_cons, List.length_append, ih, last_digits_length, List.length_cons]
    omega

theorem hexdigest_digits {bytes : Bytes} {c : Char} (listed : c ∈ (hexdigest bytes).toList) :
    c ∈ hexDigits := by
  unfold hexdigest at listed
  rw [String.toList_ofList, List.mem_flatMap] at listed
  obtain ⟨byte, -, digit⟩ := listed
  have low : ∀ n, hexDigits.getD (n % 16) '0' ∈ hexDigits := by
    intro n
    have small : n % 16 < hexDigits.length := Nat.mod_lt n (by decide)
    rw [List.getD_eq_getElem?_getD, List.getElem?_eq_getElem small, Option.getD_some]
    exact List.getElem_mem small
  simp only [lastDigits, List.nil_append, List.mem_append, List.mem_singleton] at digit
  rcases digit with rfl | rfl
  · exact low _
  · exact low _

end Hexdigest

/-- The JSON values without mappings and fractions. -/
inductive Json where
  | null
  | bool (value : Bool)
  | int (value : ℤ)
  | str (value : String)
  | list (items : List Json)

namespace Json

/-- Four hexadecimal digits after `\u`. -/
def unicodeEscape (code : ℕ) : List Char :=
  ['\\', 'u'] ++ lastDigits 16 (hexDigits.getD · '0') 4 code

/-- A character as text that is ASCII only, in a surrogate pair where it does not fit 16 bits. -/
def escapeChar (c : Char) : List Char :=
  if c = '"' then ['\\', '"']
  else if c = '\\' then ['\\', '\\']
  else if c = '\n' then ['\\', 'n']
  else if c = '\r' then ['\\', 'r']
  else if c = '\t' then ['\\', 't']
  else if c.toNat = 12 then ['\\', 'f']
  else if c.toNat = 8 then ['\\', 'b']
  else if 32 ≤ c.toNat ∧ c.toNat < 127 then [c]
  else if c.toNat < 65536 then unicodeEscape c.toNat
  else
    let code := c.toNat - 65536
    unicodeEscape (55296 + code / 1024) ++ unicodeEscape (56320 + code % 1024)

mutual

def text : Json → List Char
  | null => "null".toList
  | bool value => (if value then "true" else "false").toList
  | int value => (toString value).toList
  | str value => '"' :: value.toList.flatMap escapeChar ++ ['"']
  | list [] => "[]".toList
  | list (item :: items) => '[' :: text item ++ textRest items

def textRest : List Json → List Char
  | [] => [']']
  | item :: items => ',' :: text item ++ textRest items

end

def dumps (value : Json) : String := String.ofList value.text

example : dumps (.list [.str "a\"\n\u00e9", .int (-3), .null, .list [], .bool true]) =
    "[\"a\\\"\\n\\u00e9\",-3,null,[],true]" := by decide +kernel

end Json

end Metroflow.Lib
