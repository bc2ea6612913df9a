import Metroflow.Lib.Dict
import Metroflow.Lib.Loops
import Metroflow.Map.RoadLinks

namespace Metroflow.Map.Osm

open Metroflow.Lib

variable {K : Type} [Scalar K]

abbrev Tags := Dict String String

section Text

def strip (text : String) : String :=
  String.ofList (((text.toList.dropWhile Char.isWhitespace).reverse.dropWhile
    Char.isWhitespace).reverse)

def dropSuffix (text suffix : String) : Option String :=
  if suffix.toList <:+ text.toList then
    some (String.ofList (text.toList.take (text.toList.length - suffix.toList.length)))
  else none

/-- A whole number in the one way it is printed. -/
def readInt (text : String) : Option ℤ :=
  match text.toInt? with
  | some value => if toString value = text then some value else none
  | none => none

end Text

def highwayClass (highway : String) : Option RoadClass :=
  if highway ∈ ["motorway", "trunk"] then some .expressway
  else if highway = "primary" then some .arterial
  else if highway ∈ ["secondary", "tertiary"] then some .collector
  else if highway ∈ ["residential", "unclassified", "living_street", "service", "road"] then
    some .localRoad
  else if highway ∈ ["motorway_link", "trunk_link", "primary_link", "secondary_link",
      "tertiary_link"] then some .ramp
  else none

def defaultSpeedMps (roadClass : RoadClass) : K :=
  let kmh : ℤ := match roadClass with
    | .localRoad => 40
    | .collector => 50
    | .arterial => 60
    | .expressway => 100
    | .ramp => 60
    | .bridge => 0
  Scalar.ofInt kmh / (Scalar.ofInt 36 / Scalar.ofInt 10)

inductive Oneway where
  | forward
  | reverse
  | both
  deriving DecidableEq, Repr

def parseOneway (tags : Tags) : Except String Oneway :=
  match tags.get "oneway" with
  | none =>
    if tags.get "junction" = some "roundabout" ∨
        tags.get "highway" ∈ [some "motorway", some "motorway_link"] then .ok .forward
    else .ok .both
  | some value =>
    let normalized := (strip value).toLower
    if normalized ∈ ["yes", "true", "1"] then .ok .forward
    else if normalized ∈ ["-1", "reverse"] then .ok .reverse
    else if normalized ∈ ["no", "false", "0"] then .ok .both
    else .error s!"unsupported oneway value '{value}'"

def parsePresentPositiveInt (tags : Tags) (key : String) : Except String (Option ℤ) :=
  match tags.get key with
  | none => .ok none
  | some raw =>
    match readInt (strip raw) with
    | some value =>
      if value < 1 then .error s!"{key} must be a positive integer, got '{raw}'"
      else .ok (some value)
    | none => .error s!"{key} must be a positive integer, got '{raw}'"

/-- How a lane pattern that a strict reader refuses was read. -/
inductive LaneInterpretation where
  | singleTrackTwoWay
  | onewayContraflowIgnored
  | partialDirectional
  deriving DecidableEq, Repr

/-- Forward and backward lanes of a way. -/
structure Lanes where
  forward : ℤ
  backward : ℤ
  interpretations : List LaneInterpretation := []
  deriving DecidableEq, Repr

/-- The lanes of a one-way road, all in its direction. -/
def onewayLanes (lenient : Bool) (total directional opposite : Option ℤ) : Except String Lanes := do
  if opposite ≠ none ∧ lenient = false then
    .error "oneway road declares lanes in the opposing direction"
  else
    let interpretations := if opposite = none then [] else [LaneInterpretation.onewayContraflowIgnored]
    let directional := match opposite, directional, total with
      | some opposite, none, some total => some (max 1 (total - opposite))
      | _, directional, _ => directional
    let laneCount := (directional.or total).getD 1
    match total, directional with
    | some total, some directional =>
      if total ≠ directional ∧ ¬ (lenient = true ∧ opposite ≠ none) then
        .error "oneway directional lane count must equal total lanes"
      else .ok ⟨laneCount, 0, interpretations⟩
    | _, _ => .ok ⟨laneCount, 0, interpretations⟩

def twoWayLanes (lenient : Bool) (total forward backward : Option ℤ) : Except String Lanes :=
  match total with
  | none =>
    match forward, backward with
    | none, none => .ok { forward := 1, backward := 1 }
    | some forward, some backward => .ok { forward, backward }
    | _, _ =>
      if lenient then .ok ⟨forward.getD 1, backward.getD 1, [.partialDirectional]⟩
      else .error "bidirectional lane tags require both directions or total lanes"
  | some total =>
    if total < 2 then
      if lenient then .ok ⟨1, 1, [.singleTrackTwoWay]⟩
      else .error "bidirectional total lanes must be >= 2"
    else
      match forward, backward with
      | some forward, some backward =>
        if forward + backward ≠ total then
          .error "directional lane counts must sum to total lanes"
        else .ok { forward, backward }
      | some forward, none =>
        if total - forward < 1 then .error "lanes:forward leaves no backward traffic lane"
        else .ok { forward, backward := total - forward }
      | none, some backward =>
        if total - backward < 1 then .error "lanes:backward leaves no forward traffic lane"
        else .ok { forward := total - backward, backward }
      | none, none => .ok { forward := max 1 ((total + 1) / 2), backward := max 1 (total / 2) }

def parseDirectionalLanes (tags : Tags) (oneway : Oneway) (policy : String) :
    Except String Lanes := do
  let lenient := policy == "osm_wiki"
  let total ← parsePresentPositiveInt tags "lanes"
  let forward ← parsePresentPositiveInt tags "lanes:forward"
  let backward ← parsePresentPositiveInt tags "lanes:backward"
  match oneway with
  | .forward => onewayLanes lenient total forward backward
  | .reverse => onewayLanes lenient total backward forward
  | .both => twoWayLanes lenient total forward backward

/-- The number of a speed, and the unit it is in. -/
def speedParts (normalized : String) : String × K :=
  let kmh := 1 / (Scalar.ofInt 36 / Scalar.ofInt 10)
  match dropSuffix normalized "mph", dropSuffix normalized "km/h" with
  | some number, _ => (strip number, Scalar.ofInt 44704 / Scalar.ofInt 100000)
  | none, some number => (strip number, kmh)
  | none, none => (normalized, kmh)

/-- Speed in metres per second; `readFloat` reads a number from a text. -/
def parseSpeedMps (readFloat : String → Option K) (tags : Tags) (roadClass : RoadClass) :
    Except String K :=
  match tags.get "maxspeed" with
  | none => .ok (defaultSpeedMps roadClass)
  | some raw =>
    let parts := speedParts (strip raw).toLower
    match readFloat parts.1 with
    | none => .error s!"maxspeed must be numeric, got '{raw}'"
    | some numeric =>
      let speed := numeric * parts.2
      if Scalar.isfinite speed = false ∨ speed ≤ 0 then
        .error "maxspeed must resolve to a finite positive speed"
      else .ok speed

def parseLayer (tags : Tags) : Except String ℤ :=
  match tags.get "layer" with
  | some raw =>
    match readInt (strip raw) with
    | some layer => .ok layer
    | none => .error s!"layer must be an integer, got '{raw}'"
  | none =>
    let tagged (key : String) : Bool :=
      (strip ((tags.get key).getD "")).toLower ∈ ["yes", "true", "1"]
    if tagged "bridge" then .ok 1 else if tagged "tunnel" then .ok (-1) else .ok 0

/-- What the compiler reads from the tags of a way. -/
structure WayAttributes (K : Type) where
  roadClass : RoadClass
  oneway : Oneway
  lanes : Lanes
  speedMps : K
  layer : ℤ

def readAttributes (readFloat : String → Option K) (policy : String) (tags : Tags) :
    Except String (WayAttributes K) := do
  match highwayClass ((tags.get "highway").getD "") with
  | none => .error "highway"
  | some roadClass => do
    let oneway ← parseOneway tags
    let lanes ← parseDirectionalLanes tags oneway policy
    let speedMps ← parseSpeedMps readFloat tags roadClass
    let layer ← parseLayer tags
    return { roadClass, oneway, lanes, speedMps, layer }

section Checks

variable {tags : Tags} {oneway : Oneway} {policy : String} {lanes : Lanes} {total forward backward
  directional opposite : Option ℤ} {lenient : Bool} {key : String}

theorem present_positive {count : Option ℤ} (h : parsePresentPositiveInt tags key = .ok count) :
    ∀ n, count = some n → 1 ≤ n := by
  unfold parsePresentPositiveInt at h
  rintro n rfl
  split at h
  · cases h
  split at h
  · split at h
    · cases h
    · obtain rfl := Option.some.inj (Except.ok.inj h)
      omega
  · cases h

theorem oneway_lanes_ok (h : onewayLanes lenient total directional opposite = .ok lanes)
    (total_pos : ∀ n, total = some n → 1 ≤ n) (directional_pos : ∀ n, directional = some n → 1 ≤ n) :
    1 ≤ lanes.forward ∧ lanes.backward = 0 := by
  have counted : ∀ d t : Option ℤ, (∀ n, d = some n → 1 ≤ n) → (∀ n, t = some n → 1 ≤ n) →
      1 ≤ (d.or t).getD 1 := by
    intro d t d_pos t_pos
    cases d with
    | some n => exact d_pos n rfl
    | none =>
      cases t with
      | some n => exact t_pos n rfl
      | none => exact le_rfl
  unfold onewayLanes at h
  split at h
  · cases h
  dsimp only at h
  have positive : ∀ n, (match opposite, directional, total with
      | some opposite, none, some total => some (max 1 (total - opposite))
      | _, directional, _ => directional) = some n → 1 ≤ n := by
    intro n same
    split at same
    · obtain rfl := Option.some.inj same
      exact le_max_left _ _
    · exact directional_pos n same
  split at h
  · split at h
    · cases h
    · obtain rfl := Except.ok.inj h
      exact ⟨counted _ _ positive total_pos, rfl⟩
  · obtain rfl := Except.ok.inj h
    exact ⟨counted _ _ positive total_pos, rfl⟩

theorem two_way_lanes_ok (h : twoWayLanes lenient total forward backward = .ok lanes)
    (forward_pos : ∀ n, forward = some n → 1 ≤ n) (backward_pos : ∀ n, backward = some n → 1 ≤ n) :
    1 ≤ lanes.forward ∧ 1 ≤ lanes.backward := by
  unfold twoWayLanes at h
  split at h
  · split at h
    · obtain rfl := Except.ok.inj h
      exact ⟨le_rfl, le_rfl⟩
    · obtain rfl := Except.ok.inj h
      exact ⟨forward_pos _ rfl, backward_pos _ rfl⟩
    · split at h
      · obtain rfl := Except.ok.inj h
        cases forward <;> cases backward <;>
          simp_all
      · cases h
  split at h
  · split at h
    · obtain rfl := Except.ok.inj h
      exact ⟨le_rfl, le_rfl⟩
    · cases h
  split at h
  · split at h
    · cases h
    · obtain rfl := Except.ok.inj h
      exact ⟨forward_pos _ rfl, backward_pos _ rfl⟩
  · split at h
    · cases h
    · obtain rfl := Except.ok.inj h
      exact ⟨forward_pos _ rfl, by dsimp only; omega⟩
  · split at h
    · cases h
    · obtain rfl := Except.ok.inj h
      exact ⟨by dsimp only; omega, backward_pos _ rfl⟩
  · obtain rfl := Except.ok.inj h
    exact ⟨le_max_left _ _, le_max_left _ _⟩

/-- The lanes of a way lie in its allowed directions, at least one in each. -/
def Lanes.Allowed (lanes : Lanes) (oneway : Oneway) : Prop :=
  1 ≤ lanes.forward ∧ if oneway = .both then 1 ≤ lanes.backward else lanes.backward = 0

theorem lanes_allowed (h : parseDirectionalLanes tags oneway policy = .ok lanes) :
    lanes.Allowed oneway := by
  obtain ⟨total, read_total, h⟩ := bind_ok.mp h
  obtain ⟨forward, read_forward, h⟩ := bind_ok.mp h
  obtain ⟨backward, read_backward, h⟩ := bind_ok.mp h
  cases oneway with
  | forward =>
    exact oneway_lanes_ok h (present_positive read_total) (present_positive read_forward)
  | reverse =>
    exact oneway_lanes_ok h (present_positive read_total) (present_positive read_backward)
  | both => exact two_way_lanes_ok h (present_positive read_forward) (present_positive read_backward)

theorem highway_not_bridge {highway : String} : highwayClass highway ≠ some .bridge := by
  unfold highwayClass
  split_ifs <;> decide

end Checks

section Reals

variable {tags : Tags} {readFloat : String → Option ℝ} {policy : String}

theorem default_speed_pos {roadClass : RoadClass} (drivable : roadClass ≠ .bridge) :
    (0 : ℝ) < defaultSpeedMps roadClass := by
  have positive : ∀ n : ℤ, 0 < n → (0 : ℝ) < (n : ℝ) / ((36 : ℤ) / (10 : ℤ)) := fun n n_pos =>
    div_pos (Int.cast_pos.mpr n_pos) (by norm_num)
  cases roadClass with
  | bridge => exact absurd rfl drivable
  | localRoad | collector | arterial | expressway | ramp => exact positive _ (by decide)

theorem speed_pos {roadClass : RoadClass} {speed : ℝ} (drivable : roadClass ≠ .bridge)
    (h : parseSpeedMps readFloat tags roadClass = .ok speed) : 0 < speed := by
  unfold parseSpeedMps at h
  split at h
  · obtain rfl := Except.ok.inj h
    exact default_speed_pos drivable
  dsimp only at h
  split at h
  · cases h
  split at h
  · cases h
  · rename_i accepted
    obtain rfl := Except.ok.inj h
    exact not_le.mp fun slow => accepted (.inr slow)

theorem attributes_ok {attributes : WayAttributes ℝ}
    (h : readAttributes readFloat policy tags = .ok attributes) :
    attributes.roadClass ≠ .bridge ∧ attributes.lanes.Allowed attributes.oneway ∧
      0 < attributes.speedMps := by
  unfold readAttributes at h
  split at h
  · cases h
  rename_i roadClass drivable
  have drivable : roadClass ≠ .bridge := fun same => highway_not_bridge (same ▸ drivable)
  obtain ⟨oneway, -, h⟩ := bind_ok.mp h
  obtain ⟨lanes, allowed, h⟩ := bind_ok.mp h
  obtain ⟨speed, fast, h⟩ := bind_ok.mp h
  obtain ⟨layer, -, h⟩ := bind_ok.mp h
  obtain rfl := pure_ok.mp h
  exact ⟨drivable, lanes_allowed allowed, speed_pos drivable fast⟩

end Reals

end Metroflow.Map.Osm
