import Metroflow.City.ChannelApportionment
import Metroflow.Lib.Sha256

namespace Metroflow.City.Payload

open Metroflow.Lib

/-- What is asked of Python's floats. -/
class PyFloat (F : Type) where
  isfinite : F → Bool
  /-- `value < 0.0` -/
  belowZero : F → Bool
  /-- `value <= 0.0` -/
  atMostZero : F → Bool
  /-- `value.hex()` -/
  hex : F → String

/-- The values that are written into payloads, and any others. -/
inductive PyValue (F : Type) where
  | none
  | bool (value : Bool)
  | int (value : ℤ)
  | str (value : String)
  | float (value : F)
  | fraction (value : ℚ)
  /-- a member of an enumeration, by its value -/
  | enum (value : String)
  | tuple (items : List (PyValue F))
  | other (typeName : String)

variable {F : Type} [PyFloat F]

mutual

def canonicalPayload : PyValue F → Except String Json
  | .enum value => return .str value
  | .fraction value => return .list [.str "fraction", .int value.num, .int value.den]
  | .float value => do
    raiseIf (¬PyFloat.isfinite value) "canonical floats must be finite"
    return .list [.str "float_hex", .str (PyFloat.hex value)]
  | .none => return .null
  | .bool value => return .bool value
  | .int value => return .int value
  | .str value => return .str value
  | .tuple items => do
    let items ← canonicalItems items
    return .list items
  | .other typeName => .error s!"unsupported canonical payload type: {typeName}"

def canonicalItems : List (PyValue F) → Except String (List Json)
  | [] => return []
  | item :: items => do
    let item ← canonicalPayload item
    let items ← canonicalItems items
    return item :: items

end

def sha256Payload (payload : PyValue F) : Except String String := do
  let canonical ← canonicalPayload payload
  return hexdigest (sha256 (utf8 canonical.dumps))

/-- How Python's strings read lowercase hexadecimal digits. -/
structure ReadsHex (text : PyText) : Prop where
  lower : ∀ value, (∀ c ∈ value.toList, c ∈ hexDigits) → text.lower value = value
  int16 : ∀ value, value ≠ "" → (∀ c ∈ value.toList, c ∈ hexDigits) → text.int16 value ≠ none

theorem sha256_payload_digest {text : PyText} (reads : ReadsHex text) {payload : PyValue F}
    {fingerprint : String} (run : sha256Payload payload = .ok fingerprint) (name : String) :
    digestText text fingerprint name = .ok fingerprint := by
  unfold sha256Payload at run
  obtain ⟨canonical, -, run⟩ := bind_ok.mp run
  obtain rfl := pure_ok.mp run
  have length : (hexdigest (sha256 (utf8 canonical.dumps))).length = 64 := by
    rw [hexdigest_length, sha256_length]
  have digits : ∀ c ∈ (hexdigest (sha256 (utf8 canonical.dumps))).toList, c ∈ hexDigits :=
    fun c => hexdigest_digits
  refine digest_text_ok name length (reads.lower _ digits).symm ?_
  refine reads.int16 _ (fun empty => ?_) digits
  rw [empty] at length
  cases length

theorem plain_reads_hex : ReadsHex plainText where
  lower value digits := by
    have all : hexDigits.all (fun c => c.toLower = c) = true := by decide
    have kept : ∀ c ∈ hexDigits, c.toLower = c := fun c listed =>
      of_decide_eq_true (List.all_eq_true.mp all c listed)
    change String.ofList (value.toList.map Char.toLower) = value
    rw [List.map_congr_left fun c listed => kept c (digits c listed), List.map_id',
      String.ofList_toList]
  int16 value _ digits := by
    have all : hexDigits.all (fun c => (hexDigit c).isSome) = true := by decide
    have known : ∀ c ∈ hexDigits, (hexDigit c).isSome := List.all_eq_true.mp all
    suffices general : ∀ (l : List Char) (n : ℤ), (∀ c ∈ l, c ∈ hexDigits) →
        (l.foldlM (fun n c => (hexDigit c).map (16 * n + ·)) n) ≠ none from
      general value.toList 0 digits
    intro l
    induction l with
    | nil => exact fun n _ => Option.some_ne_none n
    | cons c l ih =>
      intro n digits
      obtain ⟨here, later⟩ := List.forall_mem_cons.mp digits
      obtain ⟨digit, read⟩ := Option.isSome_iff_exists.mp (known c here)
      rw [List.foldlM_cons, read]
      exact ih _ later

end Metroflow.City.Payload
