import Metroflow.Sim.Step
import Metroflow.Timing.Values

namespace Metroflow.Timing

open Metroflow.Lib Metroflow.City Metroflow.Flow Metroflow.Routing Metroflow.Sim

variable {p n m cap : ℕ} {O : Type}

section Containers

inductive DayType where
  | weekday
  | weekend
  deriving DecidableEq, Repr

inductive TimeBand where
  | morning
  | lunch
  | evening
  | night
  deriving DecidableEq, Repr

inductive InvariantSeverity where
  | error
  | warning
  deriving DecidableEq, Repr

structure InvariantViolation (O : Type) where
  code : String
  message : String
  severity : InvariantSeverity := .error
  checkName : Option String := none
  details : List (String × O) := []

structure InvariantCounters where
  totalChecksRun : ℕ := 0
  totalViolations : ℕ := 0
  conservationViolations : ℕ := 0
  negativeQueueViolations : ℕ := 0
  capacityFlagViolations : ℕ := 0
  activeAgentPoolViolations : ℕ := 0
  otherViolations : ℕ := 0
  deriving DecidableEq, Repr

/-- Per-tick invariant validation report. -/
structure InvariantReport (O : Type) where
  tickIndex : ℕ := 0
  checksRun : List String := []
  checksSkipped : List String := []
  violations : List (InvariantViolation O) := []
  counters : InvariantCounters := {}

/-- What a snapshot shows of one link. -/
structure LinkSample where
  linkId : ℤ
  queueVehicles : ℚ
  effectiveCapacity : ℚ
  congestionRatio : ℚ
  travelTimeCost : ℚ
  slowdownRatio : ℚ
  capacityFlag : Bool
  deriving DecidableEq, Repr

/-- A snapshot for the user interface, before it is packed. -/
structure UiSnapshotSource (O : Type) where
  networkGeometryVersion : String
  sampledLinkCongestion : List LinkSample
  activeEvents : List TrafficEvent
  dayType : DayType
  timeBand : TimeBand
  simTick : ℕ
  summaryMetrics : Stats O

/-- The state of a run with everything that a step writes down: the core that
the next step computes with, and what is kept for observers. -/
structure RuntimeState (p n m cap : ℕ) (O : Type) where
  core : SimulationState p n m cap
  dayType : DayType := .weekday
  timeBand : TimeBand := .morning
  routeStats : Stats O := []
  cacheGeneration : ℕ := 0
  lastSignature : String := ""
  metricsState : Stats O := []
  invariantState : Option (InvariantReport O) := none
  lastUiSnapshotSource : Option (UiSnapshotSource O) := none

/-- Per-tick control input, with what only changes the clock and the snapshots. -/
structure RuntimeControl extends SimulationControl where
  setDayType : Option DayType := none
  setTimeBand : Option TimeBand := none
  uiForceSnapshot : Bool := false
  deriving DecidableEq

end Containers

section Fingerprint

/-- What cached potentials depend on besides their destination. -/
structure CacheSignature where
  geometryVersion : String
  nodeCount : ℕ
  linkCount : ℕ
  flowGeneration : ℤ
  incidentGeneration : ℤ
  deriving DecidableEq, Repr

/-- What the cache fingerprint covers. -/
structure CachePayload (O : Type) where
  candidateSets : List (Sigma fun _ : ℤ × ℤ => RouteCandidateSet)
  stats : List (String × Scalar O)
  state : CacheSignature

/-- What a step runs with: the city, how texts are read, the invariant checks of
a state and four of its metrics, the JSON writer and the hash. -/
structure Runtime (p n m cap : ℕ) (O : Type) where
  world : World p n m
  py : Texts O
  validateInvariants : SimulationState p n m cap → List (Option (Scalar O)) →
    Except StepError (InvariantReport O)
  dumps : CachePayload O → String
  sha256 : Bytes → Bytes

def hexDigest (digest : Bytes) : String :=
  String.ofList (digest.flatMap fun byte =>
    [Nat.digitChar (byte.toNat / 16), Nat.digitChar (byte.toNat % 16)])

def isReplayStableCacheStat (key : String) : Bool :=
  !(["_seconds_total", "_wall_ns", "_wall_ns_total"].any fun suffix =>
    suffix.toList.isSuffixOf key.toList)

def Scalar.isPlain : Scalar O → Bool
  | .other _ => false
  | _ => true

/-- The statistics that the cache fingerprint covers, by their names. -/
def stableCacheStats (stats : Stats O) : List (String × Scalar O) :=
  (stats.filter fun item => isReplayStableCacheStat item.1 && item.2.isPlain).insertionSort
    fun a b => a.1 ≤ b.1

def stateCacheSignature (w : World p n m) (link : LinkState n) : CacheSignature where
  geometryVersion := w.geometryVersion
  nodeCount := p
  linkCount := n
  flowGeneration := link.metadata.runtimeFlowGeneration
  incidentGeneration := link.metadata.runtimeIncidentGeneration

def runtimeRouteCacheFingerprint (rt : Runtime p n m cap O)
    (candidateSets : AList fun _ : ℤ × ℤ => RouteCandidateSet) (stats : Stats O)
    (link : LinkState n) : String :=
  hexDigest (rt.sha256 (utf8 (rt.dumps {
    candidateSets := candidateSets.entries.insertionSort fun a b =>
      a.1.1 < b.1.1 ∨ a.1.1 = b.1.1 ∧ a.1.2 ≤ b.1.2
    stats := stableCacheStats stats
    state := stateCacheSignature rt.world link })))

end Fingerprint

section Alike

structure UiSnapshotSource.Alike (u u' : UiSnapshotSource O) : Prop where
  geometry : u.networkGeometryVersion = u'.networkGeometryVersion
  links : u.sampledLinkCongestion = u'.sampledLinkCongestion
  events : u.activeEvents = u'.activeEvents
  day_type : u.dayType = u'.dayType
  time_band : u.timeBand = u'.timeBand
  tick : u.simTick = u'.simTick
  summary : StatsAlike u.summaryMetrics u'.summaryMetrics

/-- Two states that differ at most in what the clock has left in them. -/
structure RuntimeState.Alike (s s' : RuntimeState p n m cap O) : Prop where
  core : s.core = s'.core
  day_type : s.dayType = s'.dayType
  time_band : s.timeBand = s'.timeBand
  stats : StatsAlike s.routeStats s'.routeStats
  generation : s.cacheGeneration = s'.cacheGeneration
  signature : s.lastSignature = s'.lastSignature
  metrics : StatsAlike s.metricsState s'.metricsState
  invariants : s.invariantState = s'.invariantState
  snapshot : Option.Rel UiSnapshotSource.Alike s.lastUiSnapshotSource s'.lastUiSnapshotSource

theorem StatsAlike.refl (stats : Stats O) : StatsAlike stats stats := Dict.Alike.refl (fun _ => .same) stats

theorem RuntimeState.Alike.refl (s : RuntimeState p n m cap O) : s.Alike s where
  core := rfl
  day_type := rfl
  time_band := rfl
  stats := .refl _
  generation := rfl
  signature := rfl
  metrics := .refl _
  invariants := rfl
  snapshot := by
    cases s.lastUiSnapshotSource with
    | none => exact .none
    | some u => exact .some ⟨rfl, rfl, rfl, rfl, rfl, rfl, .refl _⟩

theorem StatsAlike.stable {stats stats' : Stats O} (h : StatsAlike stats stats') :
    stableCacheStats stats = stableCacheStats stats' := by
  have kept : ∀ stats : Stats O, (stats.filter fun item =>
      isReplayStableCacheStat item.1 && item.2.isPlain) =
      (stats.filter fun item => isReplayStableCacheStat item.1).filter fun item => item.2.isPlain := by
    intro stats
    rw [List.filter_filter]
    exact List.filter_congr fun item _ => Bool.and_comm _ _
  unfold stableCacheStats
  rw [kept, kept, h.seen]
  intro key a b stable similar
  refine similar.eq fun hidden => ?_
  exact absurd (stable.symm.trans hidden) (by simp)

theorem StatsAlike.fingerprint (rt : Runtime p n m cap O) {stats stats' : Stats O}
    (h : StatsAlike stats stats') (candidateSets : AList fun _ : ℤ × ℤ => RouteCandidateSet)
    (link : LinkState n) : runtimeRouteCacheFingerprint rt candidateSets stats link =
      runtimeRouteCacheFingerprint rt candidateSets stats' link := by
  unfold runtimeRouteCacheFingerprint
  rw [h.stable]

end Alike

end Metroflow.Timing
