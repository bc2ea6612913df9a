import Metroflow.Timing.State

namespace Metroflow.Timing

open Metroflow.Lib Metroflow.City Metroflow.Flow Metroflow.Routing Metroflow.Replay Metroflow.Sim

variable {p n m cap : ℕ} {O D : Type}

section Values

/-- How the containers that no clock reaches are written as values, and the
parts of the state that no step changes. -/
structure Encoding (n m cap : ℕ) (P O D : Type) where
  config : RuntimeValue D
  staticInputFingerprint : String
  clockState : ℕ → DayType → TimeBand → RuntimeValue D
  demandState : DemandState → RuntimeValue D
  activeAgentPool : ActiveAgentPool cap → RuntimeValue D
  flowLinkState : LinkState n → RuntimeValue D
  flowNodeState : NodeState n m → RuntimeValue D
  eventState : TrafficEventSchedulerState → RuntimeValue D
  candidateSets : (AList fun _ : ℤ × ℤ => RouteCandidateSet) → RuntimeValue D
  potentialCache : P → RuntimeValue D
  invariantState : InvariantReport O → RuntimeValue D
  sampledLinkCongestion : List LinkSample → RuntimeValue D
  activeEvents : List TrafficEvent → RuntimeValue D
  snapshotClock : DayType → TimeBand → ℕ → RuntimeValue D
  dynamicMetadata : DynamicMetadata → RuntimeValue D
  float : ℚ → PyFloat
  other : O → RuntimeValue D
  routingBaselineState : RuntimeValue D
  adaptiveLearningState : RuntimeValue D
  policyBlendState : RuntimeValue D
  uiState : RuntimeValue D
  fallbackState : RuntimeValue D
  stateMetadata : RuntimeValue D

variable {P : Type} (enc : Encoding n m cap P O D)

def text (s : String) : RuntimeValue D := .leaf (.str false s)

def Scalar.value : Scalar O → RuntimeValue D
  | .bool b => .leaf (.bool b)
  | .int i => .leaf (.int i)
  | .float x => .leaf (.float false (enc.float x))
  | .str s => text s
  | .other o => enc.other o

def statsValue (stats : Stats O) : RuntimeValue D :=
  .mapping (stats.map fun item => (text item.1, item.2.value enc))

def UiSnapshotSource.value (u : UiSnapshotSource O) : RuntimeValue D :=
  .mapping [
    (text "network_geometry_version", text u.networkGeometryVersion),
    (text "sampled_link_congestion", enc.sampledLinkCongestion u.sampledLinkCongestion),
    (text "active_events", enc.activeEvents u.activeEvents),
    (text "clock_state", enc.snapshotClock u.dayType u.timeBand u.simTick),
    (text "summary_metrics", statsValue enc u.summaryMetrics)]

def orNone {α : Type} (value : α → RuntimeValue D) : Option α → RuntimeValue D
  | none => .leaf .none
  | some a => value a

variable (enc : Encoding n m cap (PotentialCache RuntimeCacheKey p n) O D)
  (s : RuntimeState p n m cap O)

def routeCandidateStateValue : RuntimeValue D :=
  .dataclass "metroflow.sim.routing_runtime.SimulationRouteCacheState" [
    ("candidate_sets", enc.candidateSets s.core.routes.candidateSets),
    ("potential_cache", enc.potentialCache s.core.routes.potentialCache),
    ("stats", statsValue enc s.routeStats),
    ("cache_generation", .leaf (.int s.cacheGeneration)),
    ("last_signature", text s.lastSignature)]

/-- The dynamic references, in the order of their fields. -/
def dynamicValue : RuntimeValue D :=
  .dataclass "metroflow.sim.state.SimulationDynamicRefs" [
    ("clock_state", enc.clockState s.core.tickIndex s.dayType s.timeBand),
    ("demand_state", enc.demandState s.core.demand),
    ("active_agent_pool", enc.activeAgentPool s.core.pool),
    ("flow_link_state", enc.flowLinkState s.core.flow.linkState),
    ("flow_node_state", enc.flowNodeState s.core.flow.nodeState),
    ("event_state", enc.eventState s.core.events),
    ("routing_baseline_state", enc.routingBaselineState),
    ("route_candidate_state", routeCandidateStateValue enc s),
    ("adaptive_learning_state", enc.adaptiveLearningState),
    ("policy_blend_state", enc.policyBlendState),
    ("metrics_state", statsValue enc s.metricsState),
    ("invariant_state", orNone enc.invariantState s.invariantState),
    ("ui_state", enc.uiState),
    ("last_ui_snapshot_source", orNone (fun u => u.value enc) s.lastUiSnapshotSource),
    ("fallback_state", enc.fallbackState),
    ("metadata", enc.dynamicMetadata s.core.metadata)]

def stateValue (configFingerprint : String) : RuntimeValue D :=
  .mapping [
    (text "config_fingerprint", text configFingerprint),
    (text "static_input_fingerprint", text enc.staticInputFingerprint),
    (text "dynamic", dynamicValue enc s),
    (text "metadata", enc.stateMetadata)]

/-- The fingerprint of the whole runtime state; none where a length does not fit. -/
def runtimeStateFingerprint (sha : Bytes → Bytes) (np : DTypes D) : Option String := do
  let config ← runtimeValueDigest sha np enc.config
  let digest ← runtimeValueDigest sha np (stateValue enc s (hexDigest config))
  return hexDigest digest

end Values

section Digests

variable (sha : Bytes → Bytes) (np : DTypes D)

structure DigestedAlike (v v' : RuntimeValue D) : Prop where
  input : hashInput sha np v = hashInput sha np v'
  lengths : (parts v).flatMap (lengths np) = (parts v').flatMap (lengths np)

variable {sha : Bytes → Bytes} {np : DTypes D}

theorem DigestedAlike.refl (v : RuntimeValue D) : DigestedAlike sha np v v := ⟨rfl, rfl⟩

theorem DigestedAlike.digest {v v' : RuntimeValue D} (h : DigestedAlike sha np v v') :
    runtimeValueDigest sha np v = runtimeValueDigest sha np v' := by
  have fits : ∀ v : RuntimeValue D, (∀ part ∈ parts v, ∀ length ∈ Replay.lengths np part,
      length < 256 ^ 8) ↔ ∀ length ∈ (parts v).flatMap (Replay.lengths np), length < 256 ^ 8 := by
    intro v
    simp only [List.mem_flatMap]
    exact ⟨fun all length ⟨part, listed, found⟩ => all part listed length found,
      fun all part listed length found => all length ⟨part, listed, found⟩⟩
  unfold runtimeValueDigest
  simp only [fits, h.lengths, h.input]

theorem digested_mapping {i i' : List (RuntimeValue D × RuntimeValue D)}
    (h : List.Forall₂ (fun item item' => item.1 = item'.1 ∧
      (keyKept item.1 = true → DigestedAlike sha np item.2 item'.2)) i i') :
    DigestedAlike sha np (.mapping i) (.mapping i') := by
  have same : itemDigests sha np i = itemDigests sha np i' ∧
      (itemParts i).flatMap (Replay.lengths np) = (itemParts i').flatMap (Replay.lengths np) ∧
      (keptItems i).length = (keptItems i').length := by
    induction h with
    | nil => exact ⟨rfl, rfl, rfl⟩
    | @cons item item' rest rest' first _ ih =>
      obtain ⟨key, value⟩ := item
      obtain ⟨key', value'⟩ := item'
      obtain ⟨keys, values⟩ := first
      obtain rfl : key = key' := keys
      obtain ⟨digests, lengths, count⟩ := ih
      unfold itemDigests itemParts
      by_cases kept : keyKept key = true
      · have value := values kept
        rw [if_pos kept, if_pos kept, if_pos kept, if_pos kept]
        refine ⟨by rw [value.input, digests], ?_, ?_⟩
        · rw [List.flatMap_append, List.flatMap_append, List.flatMap_append, List.flatMap_append,
            value.lengths, lengths]
        · simp [keptItems, kept, show (List.filter (fun item => keyKept item.1) rest).length =
            (List.filter (fun item => keyKept item.1) rest').length from count]
      · rw [if_neg kept, if_neg kept, if_neg kept, if_neg kept]
        refine ⟨digests, lengths, ?_⟩
        simpa [keptItems, kept] using count
  obtain ⟨digests, lengths, count⟩ := same
  constructor
  · unfold hashInput
    rw [digests]
  · unfold parts
    rw [List.flatMap_cons, List.flatMap_cons, lengths]
    simp only [Replay.lengths, count]

theorem digested_dataclass {c : String} {f f' : List (String × RuntimeValue D)}
    (h : List.Forall₂ (fun field field' => field.1 = field'.1 ∧
      (isReplayAuthoritativeKey field.1 = true → DigestedAlike sha np field.2 field'.2)) f f') :
    DigestedAlike sha np (.dataclass c f) (.dataclass c f') := by
  have same : fieldBytes sha np f = fieldBytes sha np f' ∧
      (fieldParts f).flatMap (Replay.lengths np) = (fieldParts f').flatMap (Replay.lengths np) ∧
      (keptFields f).map Prod.fst = (keptFields f').map Prod.fst := by
    induction h with
    | nil => exact ⟨rfl, rfl, rfl⟩
    | @cons field field' rest rest' first _ ih =>
      obtain ⟨name, value⟩ := field
      obtain ⟨name', value'⟩ := field'
      obtain ⟨names, values⟩ := first
      obtain rfl : name = name' := names
      obtain ⟨bytes, lengths, kept_names⟩ := ih
      unfold fieldBytes fieldParts
      by_cases kept : isReplayAuthoritativeKey name = true
      · have value := values kept
        rw [if_pos kept, if_pos kept, if_pos kept, if_pos kept]
        refine ⟨by rw [value.input, bytes], ?_, ?_⟩
        · rw [List.flatMap_append, List.flatMap_append, value.lengths, lengths]
        · simpa [keptFields, kept] using kept_names
      · rw [if_neg kept, if_neg kept, if_neg kept, if_neg kept]
        refine ⟨bytes, lengths, ?_⟩
        simpa [keptFields, kept] using kept_names
  obtain ⟨bytes, lengths, names⟩ := same
  have count : (keptFields f).length = (keptFields f').length := by
    rw [← List.length_map (f := Prod.fst), names, List.length_map]
  have widths : (keptFields f).map (fun field => (utf8 field.1).length) =
      (keptFields f').map fun field => (utf8 field.1).length := by
    have mapped := congrArg (List.map fun name => (utf8 name).length) names
    rwa [List.map_map, List.map_map] at mapped
  constructor
  · unfold hashInput
    rw [bytes, count]
  · unfold parts
    rw [List.flatMap_cons, List.flatMap_cons, lengths]
    simp only [Replay.lengths, count, widths]

end Digests

section Alike

variable {sha : Bytes → Bytes} {np : DTypes D} {P : Type}

theorem StatsAlike.digested {enc : Encoding n m cap P O D} {stats stats' : Stats O}
    (h : StatsAlike stats stats') :
    DigestedAlike sha np (statsValue enc stats) (statsValue enc stats') := by
  refine digested_mapping (List.forall₂_map_left_iff.mpr (List.forall₂_map_right_iff.mpr ?_))
  refine List.Forall₂.imp (fun item item' same => ⟨by rw [same.1], fun kept => ?_⟩) h
  have seen : ¬ Hidden item.1 := fun hidden => by
    have kept : isReplayAuthoritativeKey item.1 = true := kept
    exact absurd (kept.symm.trans hidden) (by simp)
  rw [same.2.eq seen]
  exact .refl _

theorem UiSnapshotSource.Alike.digested {enc : Encoding n m cap P O D} {u u' : UiSnapshotSource O}
    (h : u.Alike u') : DigestedAlike sha np (u.value enc) (u'.value enc) := by
  unfold UiSnapshotSource.value
  rw [h.geometry, h.links, h.events, h.day_type, h.time_band, h.tick]
  refine digested_mapping ?_
  exact .cons ⟨rfl, fun _ => .refl _⟩ (.cons ⟨rfl, fun _ => .refl _⟩ (.cons ⟨rfl, fun _ => .refl _⟩
    (.cons ⟨rfl, fun _ => .refl _⟩ (.cons ⟨rfl, fun _ => h.summary.digested⟩ .nil))))

variable {enc : Encoding n m cap (PotentialCache RuntimeCacheKey p n) O D}
  {s s' : RuntimeState p n m cap O}

theorem route_state_digested (h : s.Alike s') :
    DigestedAlike sha np (routeCandidateStateValue enc s) (routeCandidateStateValue enc s') := by
  unfold routeCandidateStateValue
  rw [h.core, h.generation, h.signature]
  refine digested_dataclass ?_
  exact .cons ⟨rfl, fun _ => .refl _⟩ (.cons ⟨rfl, fun _ => .refl _⟩
    (.cons ⟨rfl, fun _ => h.stats.digested⟩ (.cons ⟨rfl, fun _ => .refl _⟩
      (.cons ⟨rfl, fun _ => .refl _⟩ .nil))))

theorem or_none_digested {α : Type} {R : α → α → Prop} {value : α → RuntimeValue D}
    {a b : Option α} (h : Option.Rel R a b)
    (kept : ∀ x y, R x y → DigestedAlike sha np (value x) (value y)) :
    DigestedAlike sha np (orNone value a) (orNone value b) := by
  cases h with
  | none => exact .refl _
  | some related => exact kept _ _ related

theorem dynamic_digested (h : s.Alike s') :
    DigestedAlike sha np (dynamicValue enc s) (dynamicValue enc s') := by
  have snapshot : DigestedAlike sha np (orNone (fun u => u.value enc) s.lastUiSnapshotSource)
      (orNone (fun u => u.value enc) s'.lastUiSnapshotSource) :=
    or_none_digested h.snapshot fun _ _ alike => alike.digested
  unfold dynamicValue
  rw [h.core, h.day_type, h.time_band, h.invariants]
  refine digested_dataclass ?_
  have unchanged {name : String} {value : RuntimeValue D} {P : Prop} :
      (name, value).1 = (name, value).1 ∧ (P → DigestedAlike sha np value value) :=
    ⟨rfl, fun _ => .refl _⟩
  refine .cons unchanged (.cons unchanged (.cons unchanged (.cons unchanged (.cons unchanged
    (.cons unchanged (.cons unchanged (.cons ⟨rfl, fun _ => route_state_digested h⟩ ?_)))))))
  refine .cons unchanged (.cons unchanged (.cons ⟨rfl, fun _ => h.metrics.digested⟩ ?_))
  exact .cons unchanged (.cons unchanged (.cons ⟨rfl, fun _ => snapshot⟩ (.cons unchanged
    (.cons unchanged .nil))))

theorem state_digested (h : s.Alike s') (config : String) :
    DigestedAlike sha np (stateValue enc s config) (stateValue enc s' config) := by
  refine digested_mapping ?_
  exact .cons ⟨rfl, fun _ => .refl _⟩ (.cons ⟨rfl, fun _ => .refl _⟩
    (.cons ⟨rfl, fun _ => dynamic_digested h⟩ (.cons ⟨rfl, fun _ => .refl _⟩ .nil)))

theorem state_fingerprint_alike (h : s.Alike s') :
    runtimeStateFingerprint enc s sha np = runtimeStateFingerprint enc s' sha np := by
  unfold runtimeStateFingerprint
  refine congrArg _ (funext fun config => ?_)
  rw [(state_digested h (hexDigest config)).digest]

end Alike

end Metroflow.Timing
