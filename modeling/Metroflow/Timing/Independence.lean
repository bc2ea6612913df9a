import Metroflow.Timing.Fingerprint
import Metroflow.Timing.Step

namespace Metroflow.Timing

open Metroflow.Lib Metroflow.City Metroflow.Flow Metroflow.Routing Metroflow.Replay Metroflow.Sim

variable {p n m cap : ℕ} {O D : Type}

abbrev PRNGKeyArray := BitVec 32 × BitVec 32

def advanceRngKeyHost (rngKey : PRNGKeyArray) : PRNGKeyArray := (rngKey.1, rngKey.2 + 1)

/-- What a replay compares after a tick. -/
structure TickRecord (O : Type) where
  stateFingerprint : Option String
  cacheFingerprint : String
  telemetry : Stats O
  rngKey : PRNGKeyArray

variable (rt : Runtime p n m cap O) (enc : Encoding n m cap (PotentialCache RuntimeCacheKey p n) O D)
  (np : DTypes D)

def recordTick (out : StepOutput p n m cap O) (rngKey : PRNGKeyArray) : TickRecord O where
  stateFingerprint := runtimeStateFingerprint enc out.state rt.sha256 np
  cacheFingerprint := runtimeRouteCacheFingerprint rt out.state.core.routes.candidateSets
    out.state.routeStats out.state.core.flow.linkState
  telemetry := out.telemetry.asReplayDict
  rngKey := rngKey

/-- Repeated simulation steps, with what each of them leaves for a replay. -/
def runRollout : List RuntimeControl → RuntimeState p n m cap O → PRNGKeyArray →
    Timed (List (TickRecord O))
  | [], _, _ => return []
  | control :: controls, s, rngKey => do
    let out ← simulationStep rt s control
    let rngKey := advanceRngKeyHost rngKey
    let records ← runRollout controls out.state rngKey
    return recordTick rt enc np out rngKey :: records

variable {rt enc np}

theorem record_tick_alike {out out' : StepOutput p n m cap O} (h : out.Alike out')
    (rngKey : PRNGKeyArray) : recordTick rt enc np out rngKey = recordTick rt enc np out' rngKey := by
  unfold recordTick
  rw [state_fingerprint_alike h.state, h.telemetry, h.state.core, h.state.stats.fingerprint]

theorem rollout_indistinct (controls : List RuntimeControl) {s s' : RuntimeState p n m cap O}
    (h : s.Alike s') (rngKey : PRNGKeyArray) :
    Indistinct Eq (runRollout rt enc np controls s rngKey)
      (runRollout rt enc np controls s' rngKey) := by
  induction controls generalizing s s' rngKey with
  | nil => exact .pure rfl
  | cons control controls ih =>
    unfold runRollout
    refine Indistinct.bind (step_indistinct h control) fun out out' alike => ?_
    refine Indistinct.bind (ih alike.state _) fun records _ same => ?_
    subst same
    exact .pure (congrArg (· :: records) (record_tick_alike alike _))

/-- Replay does not depend on the clock: at every tick of a run the state fingerprint, the
cache fingerprint and the replay telemetry are the same under any readings, and so is the
error of a run that fails. -/
theorem replay_ignores_clock (rt : Runtime p n m cap O)
    (enc : Encoding n m cap (PotentialCache RuntimeCacheKey p n) O D) (np : DTypes D)
    (controls : List RuntimeControl) (s : RuntimeState p n m cap O) (rngKey : PRNGKeyArray)
    (readings readings' : Stream' Reading) :
    (runRollout rt enc np controls s rngKey readings).map Prod.fst =
      (runRollout rt enc np controls s rngKey readings').map Prod.fst :=
  ((rollout_indistinct controls (.refl s) rngKey readings readings').map fun _ _ same => same).eq

end Metroflow.Timing
