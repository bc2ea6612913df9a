import Metroflow.Lib.Clocked
import Metroflow.Lib.Dict
import Metroflow.Replay.Digest
import Metroflow.Sim.Config

namespace Metroflow.Timing

open Metroflow.Lib Metroflow.Replay Metroflow.Sim

section Errors

/-- The errors of a step that also keeps statistics, metrics and telemetry. -/
inductive StepError where
  | sim (e : SimError)
  | notANumber
  | negativeTelemetry (field : String)
  | invariants (message : String)
  deriving DecidableEq

/-- A part of the step without statistics. -/
def pureStep {α : Type} (x : Except SimError α) : Except StepError α := x.mapError .sim

end Errors

section Scalars

/-- A value of the metrics or of the route statistics; the `other` ones are no number. -/
inductive Scalar (O : Type) where
  | bool (b : Bool)
  | int (i : ℤ)
  | float (x : ℚ)
  | str (s : String)
  | other (o : O)
  deriving DecidableEq

/-- How texts are read as numbers, and what `str` writes of a value. -/
structure Texts (O : Type) where
  readInt : String → Option ℤ
  readFloat : String → Option ℚ
  str : Scalar O → String

variable {O : Type} (py : Texts O)

def orNotANumber {α : Type} : Option α → Except StepError α
  | none => .error .notANumber
  | some a => .ok a

/-- Python's `int`: a float loses its fraction. -/
def Scalar.toInt : Scalar O → Except StepError ℤ
  | .bool b => .ok b.toNat
  | .int i => .ok i
  | .float x => .ok (x.num.tdiv x.den)
  | .str s => orNotANumber (py.readInt s)
  | .other _ => .error .notANumber

def Scalar.toFloat : Scalar O → Except StepError ℚ
  | .bool b => .ok b.toNat
  | .int i => .ok i
  | .float x => .ok x
  | .str s => orNotANumber (py.readFloat s)
  | .other _ => .error .notANumber

/-- Statistics or metrics, by their names. -/
abbrev Stats (O : Type) := Dict String (Scalar O)

namespace Stats

variable (stats : Stats O) (key : String)

def intAt : Except StepError ℤ :=
  match stats.get key with
  | none => .ok 0
  | some value => value.toInt py

def floatAt : Except StepError ℚ :=
  match stats.get key with
  | none => .ok 0
  | some value => value.toFloat py

def textAt (default : String) : String :=
  match stats.get key with
  | none => default
  | some (.str s) => s
  | some value => py.str value

/-- Adds to a count that starts at zero. -/
def count (by_ : ℕ) : Except StepError (Stats O) := do
  let total ← stats.intAt py key
  return stats.set key (.int (total + by_))

/-- Adds seconds, never a negative number of them. -/
def addSeconds (seconds : ℚ) : Except StepError (Stats O) := do
  let total ← stats.floatAt py key
  return stats.set key (.float (total + max seconds 0))

end Stats

end Scalars

section Counters

abbrev Counters := Dict String ℤ

def Counters.at (counters : Counters) (key : String) : ℤ := (counters.get key).getD 0

/-- The counters with those of `more` added to their own. -/
def Counters.plus (counters more : Counters) : Counters :=
  counters.update (more.map fun item => (item.1, counters.at item.1 + item.2))

end Counters

section Clock

/-- What the clock shows at one moment: `perf_counter_ns` and `perf_counter`. -/
structure Reading where
  ns : ℤ
  seconds : ℚ

/-- A part of the step that reads the clock. -/
abbrev Timed := Clocked Reading StepError

variable {α : Type}

def timedNs (x : Timed α) : Timed (α × ℤ) := do
  let start ← reading
  let a ← x
  let stop ← reading
  return (a, max 0 (stop.ns - start.ns))

def timedSeconds (x : Timed α) : Timed (α × ℚ) := do
  let start ← reading
  let a ← x
  let stop ← reading
  return (a, max (stop.seconds - start.seconds) 0)

end Clock

section Similar

/-- A key that neither the state fingerprint nor the cache fingerprint covers. -/
def Hidden (key : String) : Prop := isReplayAuthoritativeKey key = false

/-- The keys of times of one tick. -/
def EndsWallNs (key : String) : Prop := "_wall_ns".toList.isSuffixOf key.toList = true

instance (key : String) : Decidable (Hidden key) := inferInstanceAs (Decidable (_ = _))

instance (key : String) : Decidable (EndsWallNs key) := inferInstanceAs (Decidable (_ = _))

theorem hidden_spelled (code : List Char) : Hidden (String.ofList code) ↔
    (["_seconds_total", "_wall_ns", "_wall_ns_total"].any fun suffix =>
      suffix.toList.isSuffixOf code) = true := by
  unfold Hidden isReplayAuthoritativeKey
  rw [String.toList_ofList, Bool.not_eq_false']

theorem ends_wall_ns_spelled (code : List Char) : EndsWallNs (String.ofList code) ↔
    "_wall_ns".toList.isSuffixOf code = true := by
  unfold EndsWallNs
  rw [String.toList_ofList (l := code)]

theorem hidden_of_spelled {name : String} {code : List Char} (spelled : name = String.ofList code)
    (ends : (["_seconds_total", "_wall_ns", "_wall_ns_total"].any fun suffix =>
      suffix.toList.isSuffixOf code) = true) : Hidden name :=
  spelled ▸ (hidden_spelled code).mpr ends

theorem shown_of_spelled {name : String} {code : List Char} (spelled : name = String.ofList code)
    (passes : (["_seconds_total", "_wall_ns", "_wall_ns_total"].any fun suffix =>
      suffix.toList.isSuffixOf code) ≠ true) : ¬Hidden name :=
  spelled ▸ mt (hidden_spelled code).mp passes

theorem passing_of_spelled {name : String} {code : List Char} (spelled : name = String.ofList code)
    (passes : "_wall_ns".toList.isSuffixOf code ≠ true) : ¬EndsWallNs name :=
  spelled ▸ mt (ends_wall_ns_spelled code).mp passes

theorem spelled_all {P : String → Prop} {names : List String} {codes : List (List Char)}
    (spelled : List.Forall₂ (fun name code => name = String.ofList code) names codes)
    (all : ∀ code ∈ codes, P (String.ofList code)) : ∀ name ∈ names, P name := by
  induction spelled with
  | nil => simp
  | @cons name code names codes first _ ih =>
    obtain ⟨here, later⟩ := List.forall_mem_cons.mp all
    exact List.forall_mem_cons.mpr ⟨first ▸ here, ih later⟩

/-- A number that may depend on the clock only under a hidden key. -/
def SimilarInt (key : String) (i j : ℤ) : Prop :=
  i = j ∨ Hidden key ∧ (EndsWallNs key → 0 ≤ i ∧ 0 ≤ j)

/-- The same for a counter of a tick, whose times are never negative. -/
def SimilarCount (key : String) (i j : ℤ) : Prop :=
  (i = j ∨ Hidden key) ∧ (EndsWallNs key → 0 ≤ i ∧ 0 ≤ j)

instance (key : String) (i j : ℤ) : Decidable (SimilarCount key i j) :=
  inferInstanceAs (Decidable (_ ∧ _))

inductive Similar {O : Type} (key : String) : Scalar O → Scalar O → Prop
  | same (value) : Similar key value value
  | ints {i j} : SimilarInt key i j → Similar key (.int i) (.int j)
  | floats {x y} : Hidden key → ¬ EndsWallNs key → Similar key (.float x) (.float y)

/-- A float that may depend on the clock only under a hidden key. -/
def SimilarFloat (key : String) (x y : ℚ) : Prop := x = y ∨ Hidden key

variable {O : Type} {key : String}

theorem wall_ns_hidden (h : EndsWallNs key) : Hidden key := by
  unfold Hidden isReplayAuthoritativeKey
  rw [Bool.not_eq_false', List.any_eq_true]
  exact ⟨"_wall_ns", by simp, h⟩

theorem SimilarCount.similar_int {i j : ℤ} (h : SimilarCount key i j) : SimilarInt key i j :=
  h.1.imp_right fun hidden => ⟨hidden, h.2⟩

theorem Similar.eq {v w : Scalar O} (h : Similar key v w) (seen : ¬ Hidden key) : v = w := by
  cases h with
  | same => rfl
  | ints similar => rw [similar.resolve_right fun hidden => seen hidden.1]
  | floats hidden _ => exact absurd hidden seen

theorem Similar.to_int (py : Texts O) {v w : Scalar O} (h : Similar key v w) :
    Outcome (SimilarInt key) (v.toInt py) (w.toInt py) := by
  cases h with
  | same => exact .refl (fun _ => .inl rfl) _
  | ints similar => exact .ok similar
  | floats hidden passing => exact .ok (.inr ⟨hidden, fun wall => absurd wall passing⟩)

theorem Similar.to_float (py : Texts O) {v w : Scalar O} (h : Similar key v w) :
    Outcome (SimilarFloat key) (v.toFloat py) (w.toFloat py) := by
  cases h with
  | same => exact .refl (fun _ => .inl rfl) _
  | ints similar => exact .ok (similar.imp (congrArg _) And.left)
  | floats hidden _ => exact .ok (.inr hidden)

/-- Statistics that differ at most where the clock was written down. -/
abbrev StatsAlike (stats stats' : Stats O) : Prop := Dict.Alike Similar stats stats'

abbrev CountersAlike (counters counters' : Counters) : Prop :=
  Dict.Alike SimilarCount counters counters'

variable {py : Texts O} {stats stats' : Stats O} {counters counters' more more' : Counters}

theorem StatsAlike.int_at (h : StatsAlike stats stats') (key : String) :
    Outcome (SimilarInt key) (stats.intAt py key) (stats'.intAt py key) := by
  unfold Stats.intAt
  rcases h.get key with ⟨none, none'⟩ | ⟨_, _, found, found', similar⟩
  · rw [none, none']
    exact .ok (.inl rfl)
  · rw [found, found']
    exact similar.to_int py

theorem StatsAlike.float_at (h : StatsAlike stats stats') (key : String) :
    Outcome (SimilarFloat key) (stats.floatAt py key) (stats'.floatAt py key) := by
  unfold Stats.floatAt
  rcases h.get key with ⟨none, none'⟩ | ⟨_, _, found, found', similar⟩
  · rw [none, none']
    exact .ok (.inl rfl)
  · rw [found, found']
    exact similar.to_float py

theorem StatsAlike.get_seen (h : StatsAlike stats stats') (seen : ¬ Hidden key) :
    stats.get key = stats'.get key := by
  rcases h.get key with ⟨none, none'⟩ | ⟨_, _, found, found', similar⟩
  · rw [none, none']
  · rw [found, found', similar.eq seen]

theorem StatsAlike.int_seen (h : StatsAlike stats stats') (seen : ¬ Hidden key) :
    stats.intAt py key = stats'.intAt py key := by
  unfold Stats.intAt
  rw [h.get_seen seen]

theorem StatsAlike.text_seen (h : StatsAlike stats stats') (seen : ¬ Hidden key)
    (default : String) : stats.textAt py key default = stats'.textAt py key default := by
  unfold Stats.textAt
  rw [h.get_seen seen]

theorem StatsAlike.count (h : StatsAlike stats stats') (seen : ¬ Hidden key) (by_ : ℕ) :
    Outcome StatsAlike (stats.count py key by_) (stats'.count py key by_) := by
  unfold Stats.count
  rw [h.int_seen seen]
  refine (Outcome.refl (fun _ => rfl) _).bind fun total _ same => ?_
  subst same
  exact .ok (h.set (.same _))

theorem StatsAlike.add_seconds (h : StatsAlike stats stats') (hidden : Hidden key)
    (passing : ¬ EndsWallNs key) (seconds seconds' : ℚ) :
    Outcome StatsAlike (stats.addSeconds py key seconds) (stats'.addSeconds py key seconds') :=
  (h.float_at key).bind fun _ _ _ => .ok (h.set (.floats hidden passing))

theorem SimilarCount.refl_zero (key : String) : SimilarCount key 0 0 :=
  ⟨.inl rfl, fun _ => ⟨le_refl 0, le_refl 0⟩⟩

theorem SimilarCount.seen (seen : ¬ Hidden key) (i : ℤ) : SimilarCount key i i :=
  ⟨.inl rfl, fun wall => absurd (wall_ns_hidden wall) seen⟩

theorem SimilarCount.hidden (hidden : Hidden key) {i j : ℤ} (pos : 0 ≤ i) (pos' : 0 ≤ j) :
    SimilarCount key i j :=
  ⟨.inr hidden, fun _ => ⟨pos, pos'⟩⟩

theorem SimilarCount.add {i j i' j' : ℤ} (h : SimilarCount key i j) (h' : SimilarCount key i' j') :
    SimilarCount key (i + i') (j + j') := by
  refine ⟨?_, fun wall => ?_⟩
  · rcases h.1 with rfl | hidden
    · exact h'.1.imp_left (congrArg _)
    · exact .inr hidden
  · exact ⟨add_nonneg (h.2 wall).1 (h'.2 wall).1, add_nonneg (h.2 wall).2 (h'.2 wall).2⟩

theorem counters_seen {counters : Counters} (seen : ∀ key ∈ counters.map Prod.fst, ¬ Hidden key) :
    CountersAlike counters counters :=
  List.forall₂_same.mpr fun item listed =>
    ⟨rfl, .seen (seen item.1 (List.mem_map_of_mem listed)) item.2⟩

theorem CountersAlike.at (h : CountersAlike counters counters') (key : String) :
    SimilarCount key (counters.at key) (counters'.at key) := by
  unfold Counters.at
  rcases h.get key with ⟨none, none'⟩ | ⟨_, _, found, found', similar⟩
  · rw [none, none']
    exact .refl_zero key
  · rw [found, found']
    exact similar

theorem CountersAlike.plus (h : CountersAlike counters counters')
    (h' : CountersAlike more more') :
    CountersAlike (counters.plus more) (counters'.plus more') := by
  refine h.update (List.forall₂_map_left_iff.mpr (List.forall₂_map_right_iff.mpr ?_))
  refine List.Forall₂.imp (fun item item' same => ⟨same.1, ?_⟩) h'
  have own := h.at item.1
  rw [← same.1]
  exact own.add same.2

end Similar

section Clock

variable {α β : Type} {V : α → β → Prop} {x : Timed α} {y : Timed β}

theorem timed_ns_indistinct (h : Indistinct V x y) :
    Indistinct (fun a b => V a.1 b.1 ∧ 0 ≤ a.2 ∧ 0 ≤ b.2) (timedNs x) (timedNs y) := by
  refine Indistinct.reading.bind fun _ _ _ => h.bind fun a b seen => ?_
  exact Indistinct.reading.bind fun _ _ _ => .pure ⟨seen, le_max_left _ _, le_max_left _ _⟩

theorem timed_seconds_indistinct (h : Indistinct V x y) :
    Indistinct (fun a b => V a.1 b.1) (timedSeconds x) (timedSeconds y) := by
  refine Indistinct.reading.bind fun _ _ _ => h.bind fun a b seen => ?_
  exact Indistinct.reading.bind fun _ _ _ => .pure seen

end Clock

end Metroflow.Timing
