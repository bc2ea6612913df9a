import Metroflow.Map.OsmTags

namespace Metroflow.Map.Osm

open Metroflow.Lib

section Contract

/-- A count of one direction that exceeds the declared total. -/
def Contradictory (total forward backward : Option ℤ) : Prop :=
  ∃ t ∈ total, (∃ f ∈ forward, t < f) ∨ ∃ b ∈ backward, t < b

/-- The strict and the lenient reading of lane counts, as they are documented: the lenient one
extends the strict one, notes what it interprets, and neither takes contradictory counts. -/
structure LaneContract (oneway : Oneway) (total forward backward : Option ℤ)
    (strict lenient : Except String Lanes) : Prop where
  extension : ∀ lanes, strict = .ok lanes → lenient = .ok lanes ∧ lanes.interpretations = []
  interpreted : ∀ lanes, lenient = .ok lanes → (∀ other, strict ≠ .ok other) →
    lanes.interpretations.length = 1
  allowed : ∀ lanes, strict = .ok lanes ∨ lenient = .ok lanes → lanes.Allowed oneway
  within : ∀ lanes, strict = .ok lanes ∨ lenient = .ok lanes → ∀ t ∈ total,
    lanes.interpretations = [.singleTrackTwoWay] ∨ lanes.forward + lanes.backward ≤ t
  rejected : Contradictory total forward backward →
    ∀ lanes, strict ≠ .ok lanes ∧ lenient ≠ .ok lanes

/-- Contradictory counts that the lenient reading takes: on a two-way road of one lane in all,
and on a one-way road with lanes against its direction. -/
def TakesContradiction (oneway : Oneway) (total forward backward : Option ℤ) : Prop :=
  Contradictory total forward backward ∧
    match oneway with
    | .forward => backward ≠ none
    | .reverse => forward ≠ none
    | .both => ∃ t ∈ total, t < 2

end Contract

section Readings

variable {total directional opposite forward backward : Option ℤ}

def lanesOf (oneway : Oneway) (lenient : Bool) (total forward backward : Option ℤ) :
    Except String Lanes :=
  match oneway with
  | .forward => onewayLanes lenient total forward backward
  | .reverse => onewayLanes lenient total backward forward
  | .both => twoWayLanes lenient total forward backward

theorem oneway_contraflow (total directional : Option ℤ) (o : ℤ) :
    (∀ lanes, onewayLanes false total directional (some o) ≠ .ok lanes) ∧
    onewayLanes true total directional (some o) =
      .ok ⟨(directional.or (total.map fun t => max 1 (t - o))).getD 1, 0,
        [.onewayContraflowIgnored]⟩ := by
  unfold onewayLanes
  constructor
  · intro lanes
    simp
  · cases total <;> cases directional <;> simp

theorem oneway_plain (lenient : Bool) : onewayLanes lenient total directional none =
    if ∃ t ∈ total, ∃ d ∈ directional, t ≠ d then
      .error "oneway directional lane count must equal total lanes"
    else .ok ⟨(directional.or total).getD 1, 0, []⟩ := by
  unfold onewayLanes
  cases total <;> cases directional <;> simp

theorem oneway_contract {oneway : Oneway} (one : oneway ≠ .both)
    (total_pos : ∀ n, total = some n → 1 ≤ n)
    (directional_pos : ∀ n, directional = some n → 1 ≤ n)
    (opposite_pos : ∀ n, opposite = some n → 1 ≤ n) :
    LaneContract oneway total directional opposite (onewayLanes false total directional opposite)
      (onewayLanes true total directional opposite) ↔
    ¬(Contradictory total directional opposite ∧ opposite ≠ none) := by
  have allowed : ∀ lanes, onewayLanes false total directional opposite = .ok lanes ∨
      onewayLanes true total directional opposite = .ok lanes → lanes.Allowed oneway := by
    intro lanes read
    have bounds : 1 ≤ lanes.forward ∧ lanes.backward = 0 := by
      rcases read with read | read
      · exact oneway_lanes_ok read total_pos directional_pos
      · exact oneway_lanes_ok read total_pos directional_pos
    unfold Lanes.Allowed
    rw [if_neg one]
    exact bounds
  cases opposite with
  | none =>
    have agree : ∀ lenient lanes, onewayLanes lenient total directional none = .ok lanes →
        (¬∃ t ∈ total, ∃ d ∈ directional, t ≠ d) ∧
          lanes = ⟨(directional.or total).getD 1, 0, []⟩ := by
      intro lenient lanes read
      rw [oneway_plain] at read
      split at read
      · cases read
      · rename_i same
        exact ⟨same, (Except.ok.inj read).symm⟩
    refine iff_of_true ⟨fun lanes read => ?_, fun lanes read refused => ?_, allowed,
      fun lanes read t declared => .inr ?_, fun exceeds lanes => ?_⟩ fun taken => taken.2 rfl
    · rw [oneway_plain] at read ⊢
      exact ⟨read, by rw [(agree false lanes (by rw [oneway_plain]; exact read)).2]⟩
    · rw [oneway_plain] at read
      exact absurd ((oneway_plain false).trans read) (refused lanes)
    · obtain ⟨same, rfl⟩ := read.elim (agree false lanes) (agree true lanes)
      cases directional with
      | none =>
        obtain rfl := Option.mem_def.mp declared
        simp
      | some d =>
        have equal : t = d := by
          by_contra differ
          exact same ⟨t, declared, d, rfl, differ⟩
        simp [equal]
    · obtain ⟨t, declared, ⟨d, counted, exceeds⟩ | ⟨_, none, -⟩⟩ := exceeds
      · have differ : ∃ t ∈ total, ∃ d ∈ directional, t ≠ d := ⟨t, declared, d, counted, exceeds.ne⟩
        exact ⟨fun read => (agree _ _ read).1 differ, fun read => (agree _ _ read).1 differ⟩
      · cases none
  | some o =>
    obtain ⟨refused, taken⟩ := oneway_contraflow total directional o
    rw [and_iff_left (Option.some_ne_none o)]
    constructor
    · exact fun contract exceeds => (contract.rejected exceeds _).2 taken
    · intro fits
      refine ⟨fun lanes read => absurd read (refused lanes), fun lanes read _ => ?_, allowed,
        fun lanes read t declared => .inr ?_, fun exceeds => absurd exceeds fits⟩
      · rw [taken] at read
        obtain rfl := Except.ok.inj read
        rfl
      · obtain rfl := Except.ok.inj (taken.symm.trans (read.resolve_left (refused lanes)))
        obtain rfl := Option.mem_def.mp declared
        have o_pos := opposite_pos o rfl
        have t_pos := total_pos t rfl
        cases directional with
        | none => simp; omega
        | some d =>
          have fit : ¬t < d := fun exceeds => fits ⟨t, rfl, .inl ⟨d, rfl, exceeds⟩⟩
          simpa using fit

theorem two_way_contract (total_pos : ∀ n, total = some n → 1 ≤ n)
    (forward_pos : ∀ n, forward = some n → 1 ≤ n)
    (backward_pos : ∀ n, backward = some n → 1 ≤ n) :
    LaneContract .both total forward backward (twoWayLanes false total forward backward)
      (twoWayLanes true total forward backward) ↔
    ¬(Contradictory total forward backward ∧ ∃ t ∈ total, t < 2) := by
  have allowed : ∀ lanes, twoWayLanes false total forward backward = .ok lanes ∨
      twoWayLanes true total forward backward = .ok lanes → lanes.Allowed .both := by
    rintro lanes (read | read)
    · exact two_way_lanes_ok read forward_pos backward_pos
    · exact two_way_lanes_ok read forward_pos backward_pos
  cases total with
  | none =>
    have never : ¬Contradictory none forward backward := fun exceeds => by
      obtain ⟨t, none, -⟩ := exceeds
      cases none
    refine iff_of_true ⟨?_, ?_, allowed, fun _ _ _ none => (nomatch none),
      fun exceeds => absurd exceeds never⟩ fun exceeds => never exceeds.1
    · cases forward <;> cases backward <;> simp [twoWayLanes]
    · cases forward <;> cases backward <;> simp [twoWayLanes]
  | some t =>
    by_cases single : t < 2
    · -- one lane in all
      have refused : ∀ lanes, twoWayLanes false (some t) forward backward ≠ .ok lanes := by
        intro lanes
        unfold twoWayLanes
        dsimp only
        rw [if_pos single]
        simp
      have shared : twoWayLanes true (some t) forward backward =
          .ok ⟨1, 1, [.singleTrackTwoWay]⟩ := by
        unfold twoWayLanes
        dsimp only
        rw [if_pos single]
        rfl
      rw [and_iff_left ⟨t, rfl, single⟩]
      constructor
      · exact fun contract exceeds => (contract.rejected exceeds _).2 shared
      · intro fits
        refine ⟨fun lanes read => absurd read (refused lanes), fun lanes read _ => ?_, allowed,
          fun lanes read _ _ => .inl ?_, fun exceeds => absurd exceeds fits⟩
        · rw [shared] at read
          obtain rfl := Except.ok.inj read
          rfl
        · obtain rfl := Except.ok.inj (shared.symm.trans (read.resolve_left (refused lanes)))
          rfl
    · -- the readings agree
      have agree : twoWayLanes true (some t) forward backward =
          twoWayLanes false (some t) forward backward := by
        unfold twoWayLanes
        dsimp only
        rw [if_neg single, if_neg single]
      have read : ∀ lanes, twoWayLanes false (some t) forward backward = .ok lanes →
          lanes.interpretations = [] ∧ lanes.forward + lanes.backward ≤ t ∧
            ¬Contradictory (some t) forward backward := by
        intro lanes
        unfold twoWayLanes Contradictory
        dsimp only
        rw [if_neg single]
        rcases forward with _ | f <;> rcases backward with _ | b <;> dsimp only
        · intro read
          obtain rfl := Except.ok.inj read
          exact ⟨rfl, by dsimp only; omega, by simp⟩
        · have b_pos := backward_pos b rfl
          split
          · exact fun read => nomatch read
          · intro read
            obtain rfl := Except.ok.inj read
            exact ⟨rfl, by dsimp only; omega, by simp; omega⟩
        · have f_pos := forward_pos f rfl
          split
          · exact fun read => nomatch read
          · intro read
            obtain rfl := Except.ok.inj read
            exact ⟨rfl, by dsimp only; omega, by simp; omega⟩
        · have f_pos := forward_pos f rfl
          have b_pos := backward_pos b rfl
          split
          · exact fun read => nomatch read
          · intro read
            obtain rfl := Except.ok.inj read
            exact ⟨rfl, by dsimp only; omega, by simp; omega⟩
      rw [agree] at allowed ⊢
      refine iff_of_true ⟨fun lanes taken => ⟨taken, (read lanes taken).1⟩,
        fun lanes taken refused => absurd taken (refused lanes), allowed,
        fun lanes taken u declared => .inr ?_, fun exceeds lanes => ?_⟩ ?_
      · obtain rfl := Option.some.inj (Option.mem_def.mp declared)
        exact (read lanes (taken.elim id id)).2.1
      · have refuse : twoWayLanes false (some t) forward backward ≠ .ok lanes := fun taken =>
          (read lanes taken).2.2 exceeds
        exact ⟨refuse, refuse⟩
      · rintro ⟨-, u, declared, small⟩
        obtain rfl := Option.some.inj (Option.mem_def.mp declared)
        exact single small

theorem contradictory_comm : Contradictory total forward backward ↔
    Contradictory total backward forward := by
  unfold Contradictory
  simp only [or_comm]

theorem LaneContract.swap {oneway : Oneway} {strict lenient : Except String Lanes} :
    LaneContract oneway total forward backward strict lenient →
      LaneContract oneway total backward forward strict lenient
  | ⟨extension, interpreted, allowed, within, rejected⟩ =>
    ⟨extension, interpreted, allowed, within, fun exceeds => rejected <|
      contradictory_comm.mp exceeds⟩

theorem lanes_contract (oneway : Oneway) (total_pos : ∀ n, total = some n → 1 ≤ n)
    (forward_pos : ∀ n, forward = some n → 1 ≤ n)
    (backward_pos : ∀ n, backward = some n → 1 ≤ n) :
    LaneContract oneway total forward backward (lanesOf oneway false total forward backward)
      (lanesOf oneway true total forward backward) ↔
    ¬TakesContradiction oneway total forward backward := by
  unfold TakesContradiction lanesOf
  cases oneway with
  | forward => exact oneway_contract (by decide) total_pos forward_pos backward_pos
  | reverse =>
    rw [contradictory_comm]
    exact ⟨fun contract => (oneway_contract (by decide) total_pos backward_pos forward_pos).mp
      contract.swap, fun fits => ((oneway_contract (by decide) total_pos backward_pos
        forward_pos).mpr fits).swap⟩
  | both => exact two_way_contract total_pos forward_pos backward_pos

end Readings

section Tags

variable {tags : Tags} {oneway : Oneway}

def ReadAsDocumented (tags : Tags) (oneway : Oneway) : Prop :=
  ∀ total forward backward, parsePresentPositiveInt tags "lanes" = .ok total →
    parsePresentPositiveInt tags "lanes:forward" = .ok forward →
    parsePresentPositiveInt tags "lanes:backward" = .ok backward →
    LaneContract oneway total forward backward (parseDirectionalLanes tags oneway "strict")
      (parseDirectionalLanes tags oneway "osm_wiki")

/-- Lane tags are read as documented exactly when the lenient reading takes no contradiction. -/
theorem lane_tags_documented_iff (tags : Tags) (oneway : Oneway) :
    ReadAsDocumented tags oneway ↔ ∀ total forward backward,
      parsePresentPositiveInt tags "lanes" = .ok total →
      parsePresentPositiveInt tags "lanes:forward" = .ok forward →
      parsePresentPositiveInt tags "lanes:backward" = .ok backward →
      ¬TakesContradiction oneway total forward backward := by
  refine forall_congr' fun total => forall_congr' fun forward => forall_congr' fun backward =>
    forall_congr' fun read_total => forall_congr' fun read_forward => forall_congr' fun
      read_backward => ?_
  have parsed : ∀ policy, parseDirectionalLanes tags oneway policy =
      lanesOf oneway (policy == "osm_wiki") total forward backward := by
    intro policy
    unfold parseDirectionalLanes
    rw [read_total, read_forward, read_backward]
    rfl
  rw [parsed, parsed]
  exact lanes_contract oneway (present_positive read_total) (present_positive read_forward)
    (present_positive read_backward)

theorem read_printed (n : ℤ) : readInt (toString n) = some n := by
  unfold readInt
  rw [show toString n = n.repr from rfl, Int.toInt?_repr]
  exact if_pos rfl

/-- A road of one lane in all with three lanes forward is taken by the lenient reading. -/
theorem contradiction_taken :
    ¬ReadAsDocumented [("lanes", "1"), ("lanes:forward", "3")] .both := by
  intro documented
  have one : readInt (strip "1") = some 1 := by
    rw [show strip "1" = toString (1 : ℤ) by decide +kernel, read_printed]
  have three : readInt (strip "3") = some 3 := by
    rw [show strip "3" = toString (3 : ℤ) by decide +kernel, read_printed]
  have total : parsePresentPositiveInt [("lanes", "1"), ("lanes:forward", "3")] "lanes" =
      .ok (some 1) := by
    unfold parsePresentPositiveInt
    rw [show Dict.get [("lanes", "1"), ("lanes:forward", "3")] "lanes" = some "1" from rfl]
    dsimp only
    rw [one]
    rfl
  have forward : parsePresentPositiveInt [("lanes", "1"), ("lanes:forward", "3")]
      "lanes:forward" = .ok (some 3) := by
    unfold parsePresentPositiveInt
    rw [show Dict.get [("lanes", "1"), ("lanes:forward", "3")] "lanes:forward" = some "3" from rfl]
    dsimp only
    rw [three]
    rfl
  have taken : parseDirectionalLanes [("lanes", "1"), ("lanes:forward", "3")] .both "osm_wiki" =
      .ok ⟨1, 1, [.singleTrackTwoWay]⟩ := by
    unfold parseDirectionalLanes
    rw [total, forward]
    rfl
  have contract := documented (some 1) (some 3) none total forward rfl
  exact (contract.rejected ⟨1, rfl, .inl ⟨3, rfl, by decide⟩⟩ _).2 taken

end Tags

end Metroflow.Map.Osm
