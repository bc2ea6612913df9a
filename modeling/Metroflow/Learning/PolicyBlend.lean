import Metroflow.Lib.Common

namespace Metroflow.Learning

inductive PolicyBlendFallbackReason where
  | instability
  | noSignal
  | invalidOutput
  | incidentMode
  deriving DecidableEq

/-- Bounds of the mix of baseline and adaptive routing. -/
structure LearningMixBounds where
  lambdaMin : ℚ
  lambdaMax : ℚ
  min_range : 0 ≤ lambdaMin ∧ lambdaMin ≤ 1
  max_range : 0 ≤ lambdaMax ∧ lambdaMax ≤ 1
  ordered : lambdaMin ≤ lambdaMax

/-- State of score blending and of the fallback; its mix is a ratio. -/
structure PolicyBlendState where
  lambdaMix : ℚ
  fallbackTriggered : Bool
  fallbackReason : Option PolicyBlendFallbackReason
  baselineOnlyMode : Bool
  in_range : 0 ≤ lambdaMix ∧ lambdaMix ≤ 1

def clip (x : ℚ) : ℚ := min 1 (max 0 x)

theorem clip_range (x : ℚ) : 0 ≤ clip x ∧ clip x ≤ 1 :=
  ⟨le_min zero_le_one (le_max_left 0 x), min_le_left 1 _⟩

def computePolicyMixLambda (targetLambda : ℚ) (bounds : LearningMixBounds)
    (learningEnabled : Bool) : ℚ :=
  if learningEnabled = false then 0
  else clip (min bounds.lambdaMax (max bounds.lambdaMin targetLambda))

theorem compute_range (targetLambda : ℚ) (bounds : LearningMixBounds) (learningEnabled : Bool) :
    0 ≤ computePolicyMixLambda targetLambda bounds learningEnabled ∧
      computePolicyMixLambda targetLambda bounds learningEnabled ≤ 1 := by
  unfold computePolicyMixLambda
  split
  · exact ⟨le_rfl, zero_le_one⟩
  · exact clip_range _

/-- The arguments of one tick's call. -/
structure BlendCall where
  targetLambda : Option ℚ := none
  bounds : Option LearningMixBounds := none
  learningEnabled : Bool := true
  incidentMode : Bool := false
  adaptiveSignalAvailable : Bool := true
  adaptiveOutputValid : Bool := true

namespace PolicyBlendState

def mixed (lambdaMix : ℚ) (in_range : 0 ≤ lambdaMix ∧ lambdaMix ≤ 1) (baselineOnlyMode : Bool) :
    PolicyBlendState :=
  ⟨lambdaMix, false, none, baselineOnlyMode, in_range⟩

def withLambda (lambdaMix : ℚ) : PolicyBlendState :=
  mixed (clip lambdaMix) (clip_range lambdaMix) (decide (clip lambdaMix ≤ 0))

def fallbackToBaseline (state : PolicyBlendState) (reason : PolicyBlendFallbackReason)
    (lambdaMix : Option ℚ) : PolicyBlendState :=
  match lambdaMix with
  | none => ⟨state.lambdaMix, true, some reason, true, state.in_range⟩
  | some lambdaMix => ⟨clip lambdaMix, true, some reason, true, clip_range lambdaMix⟩

/-- The part of a call that a target decides. -/
def retargeted (state : PolicyBlendState) (call : BlendCall) : PolicyBlendState :=
  match call.targetLambda, call.bounds with
  | none, _ => state
  | some target, none => withLambda target
  | some target, some bounds =>
    let lambdaMix := computePolicyMixLambda target bounds call.learningEnabled
    mixed lambdaMix (compute_range target bounds call.learningEnabled)
      (if lambdaMix ≤ 0 then true
        else if call.learningEnabled then false
        else !call.learningEnabled)

/-- `apply_policy_blend_control` -/
def applyPolicyBlendControl (state : PolicyBlendState) (call : BlendCall) : PolicyBlendState :=
  let next := state.retargeted call
  if call.learningEnabled = false then next.fallbackToBaseline .noSignal (some 0)
  else if call.incidentMode then next.fallbackToBaseline .incidentMode none
  else if call.adaptiveSignalAvailable = false then next.fallbackToBaseline .noSignal none
  else if call.adaptiveOutputValid = false then next.fallbackToBaseline .invalidOutput none
  else { next with fallbackTriggered := false, fallbackReason := none }

/-- The states of a run of ticks. -/
def run (state : PolicyBlendState) (calls : List BlendCall) : PolicyBlendState :=
  calls.foldl applyPolicyBlendControl state

end PolicyBlendState

section Property

/-- The fallback condition of a tick, the first that holds. -/
def BlendCall.condition (call : BlendCall) : Option PolicyBlendFallbackReason :=
  if call.learningEnabled = false then some .noSignal
  else if call.incidentMode then some .incidentMode
  else if call.adaptiveSignalAvailable = false then some .noSignal
  else if call.adaptiveOutputValid = false then some .invalidOutput
  else none

/-- A state that tells about its own tick alone. -/
structure OfTick (call : BlendCall) (state : PolicyBlendState) : Prop where
  mode : state.baselineOnlyMode = true ↔ call.condition ≠ none ∨ state.lambdaMix ≤ 0
  triggered : state.fallbackTriggered = call.condition.isSome
  reason : state.fallbackReason = call.condition

/-- A tick without target and fallback keeps the mode that an earlier fallback forced. -/
def Stale (state : PolicyBlendState) (call : BlendCall) : Prop :=
  call.targetLambda = none ∧ call.condition = none ∧
    state.baselineOnlyMode = true ∧ 0 < state.lambdaMix

end Property

section Runs

open PolicyBlendState

variable {state : PolicyBlendState} {call : BlendCall}

/-- Adaptive routing is off where the mix is. -/
def Guarded (state : PolicyBlendState) : Prop :=
  state.lambdaMix ≤ 0 → state.baselineOnlyMode = true

theorem apply_eq (state : PolicyBlendState) (call : BlendCall) :
    (∃ reason, call.condition = some reason ∧ ∃ lambdaMix,
      (applyPolicyBlendControl state call) =
        (state.retargeted call).fallbackToBaseline reason lambdaMix) ∨
    call.condition = none ∧ call.learningEnabled = true ∧ applyPolicyBlendControl state call =
      { state.retargeted call with fallbackTriggered := false, fallbackReason := none } := by
  unfold applyPolicyBlendControl BlendCall.condition
  dsimp only
  split
  · exact .inl ⟨_, rfl, _, rfl⟩
  rename_i learning
  split
  · exact .inl ⟨_, rfl, _, rfl⟩
  split
  · exact .inl ⟨_, rfl, _, rfl⟩
  split
  · exact .inl ⟨_, rfl, _, rfl⟩
  · exact .inr ⟨rfl, eq_true_of_ne_false learning, rfl⟩

theorem fallback_of_tick (state : PolicyBlendState) (reason : PolicyBlendFallbackReason) (lambdaMix : Option ℚ) :
    (state.fallbackToBaseline reason lambdaMix).baselineOnlyMode = true ∧
      (state.fallbackToBaseline reason lambdaMix).fallbackTriggered = true ∧
      (state.fallbackToBaseline reason lambdaMix).fallbackReason = some reason := by
  cases lambdaMix <;> exact ⟨rfl, rfl, rfl⟩

theorem retargeted_mode (state : PolicyBlendState) {target : ℚ} (given : call.targetLambda = some target)
    (learning : call.learningEnabled = true) :
    (state.retargeted call).baselineOnlyMode = true ↔ (state.retargeted call).lambdaMix ≤ 0 := by
  unfold retargeted
  rw [given]
  cases call.bounds with
  | none => exact decide_eq_true_iff
  | some bounds =>
    dsimp only [mixed]
    split
    · rename_i off
      exact iff_of_true rfl off
    · rename_i on
      rw [learning] at on ⊢
      exact iff_of_false Bool.false_ne_true on

theorem retargeted_none (missing : call.targetLambda = none) : state.retargeted call = state := by
  unfold retargeted
  rw [missing]

theorem apply_of_tick (guarded : Guarded state) :
    Guarded (applyPolicyBlendControl state call) ∧
      (OfTick call (applyPolicyBlendControl state call) ↔ ¬Stale state call) := by
  rcases apply_eq state call with ⟨reason, holds, lambdaMix, same⟩ | ⟨calm, learning, same⟩
  · obtain ⟨mode, triggered, told⟩ :=
      fallback_of_tick (state.retargeted call) reason lambdaMix
    rw [same]
    refine ⟨fun _ => mode, iff_of_true ⟨?_, ?_, ?_⟩ ?_⟩
    · exact iff_of_true mode (.inl (by rw [holds]; exact Option.some_ne_none reason))
    · rw [triggered, holds]
      rfl
    · rw [told, holds]
    · rintro ⟨-, calm, -⟩
      rw [holds] at calm
      cases calm
  · rw [same]
    cases given : call.targetLambda with
    | some target =>
      have mode := retargeted_mode state given learning
      refine ⟨mode.mpr, iff_of_true ⟨?_, ?_, ?_⟩ ?_⟩
      · exact mode.trans (or_iff_right fun holds => holds calm).symm
      · rw [calm]
        rfl
      · rw [calm]
      · rintro ⟨missing, -⟩
        rw [given] at missing
        cases missing
    | none =>
      rw [retargeted_none given]
      refine ⟨guarded, ⟨fun ofTick => ?_, fun fresh => ⟨?_, ?_, ?_⟩⟩⟩
      · rintro ⟨-, -, baseline, mixes⟩
        exact absurd ((ofTick.mode.mp baseline).resolve_left fun holds => holds calm)
          (not_le.mpr mixes)
      · constructor
        · intro baseline
          exact .inr (not_lt.mp fun mixes => fresh ⟨given, calm, baseline, mixes⟩)
        · exact fun off => guarded (off.resolve_left fun holds => holds calm)
      · rw [calm]
        rfl
      · rw [calm]

theorem run_snoc (calls : List BlendCall) :
    state.run (calls ++ [call]) = applyPolicyBlendControl (state.run calls) call := by
  unfold run
  rw [List.foldl_append]
  rfl

theorem run_guarded (guarded : Guarded state) (calls : List BlendCall) :
    Guarded (state.run calls) := by
  induction calls using List.reverseRecOn with
  | nil => exact guarded
  | append_singleton calls call ih =>
    rw [run_snoc]
    exact (apply_of_tick ih).1

/-- In every run the states tell about their own ticks exactly when no tick is stale. -/
theorem fallback_lasts_its_tick_iff (calls : List BlendCall)
    (start : state.baselineOnlyMode = true ↔ state.lambdaMix ≤ 0) :
    (∀ before call, before ++ [call] <+: calls →
      OfTick call (state.run (before ++ [call]))) ↔
    ∀ before call, before ++ [call] <+: calls → ¬Stale (state.run before) call := by
  have step : ∀ before call, OfTick call (state.run (before ++ [call])) ↔
      ¬Stale (state.run before) call := by
    intro before call
    rw [run_snoc]
    exact (apply_of_tick (run_guarded start.mpr before)).2
  exact ⟨fun told before call run => (step before call).mp (told before call run),
    fun fresh before call run => (step before call).mpr (fresh before call run)⟩

/-- Half of the routing is adaptive. -/
def halfMixed : PolicyBlendState := ⟨1 / 2, false, none, false, by norm_num⟩

theorem half_mixed_lasts_iff :
    (∀ before call, before ++ [call] <+: [{ incidentMode := true }, {}] →
      OfTick call (halfMixed.run (before ++ [call]))) ↔
    ∀ before call, before ++ [call] <+: [{ incidentMode := true }, {}] →
      ¬Stale (halfMixed.run before) call :=
  fallback_lasts_its_tick_iff _ (by decide +kernel)

/-- After an incident the next tick is without adaptive routing and reports no fallback. -/
theorem incident_outlasts_its_tick :
    (halfMixed.run [{ incidentMode := true }, {}]).baselineOnlyMode = true ∧
      (halfMixed.run [{ incidentMode := true }, {}]).fallbackTriggered = false ∧
      (halfMixed.run [{ incidentMode := true }, {}]).lambdaMix = 1 / 2 ∧
      ¬OfTick {} (halfMixed.run [{ incidentMode := true }, {}]) := by
  refine ⟨rfl, rfl, rfl, fun told => ?_⟩
  have off : (1 / 2 : ℚ) ≤ 0 := (told.mode.mp rfl).resolve_left fun holds => holds rfl
  exact absurd off (by norm_num)

end Runs

end Metroflow.Learning
