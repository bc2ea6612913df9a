import Metroflow.Routing.Backend

namespace Metroflow.Routing

open Metroflow.Lib

/-- Behavior diversity profile for routing and reroute logic. -/
@[ext]
structure RouteChoiceProfile where
  behaviorProfileId : ℤ
  delaySensitivity : ℚ
  rerouteWillingness : ℚ
  persistenceBias : ℚ
  explorationBias : ℚ
  willingness_unit : 0 ≤ rerouteWillingness ∧ rerouteWillingness ≤ 1

instance : DecidableEq RouteChoiceProfile := fun _ _ => decidable_of_iff _ RouteChoiceProfile.ext_iff.symm

/-- The profile of an agent whose own is not listed. -/
def defaultRouteChoiceProfile (behaviorProfileId : ℤ) : RouteChoiceProfile where
  behaviorProfileId := behaviorProfileId
  delaySensitivity := 5 / 4
  rerouteWillingness := 13 / 20
  persistenceBias := 1 / 2
  explorationBias := 1 / 10
  willingness_unit := by norm_num

inductive RerouteDecisionReason where
  | reroute
  | invalidCosts
  | insufficientImprovement
  | persistence
  deriving DecidableEq, Repr

structure RerouteDecision where
  shouldReroute : Bool
  reason : RerouteDecisionReason
  improvementRatio : ℚ
  triggerScore : ℚ
  nextRerouteCooldownTicks : ℕ
  deriving DecidableEq, Repr

def minImprovementRatio : ℚ := 1 / 20

def cooldownAfterRerouteTicks : ℕ := 3

def squashPositive (x : ℚ) : ℚ := if 0 < x then x / (1 + x) else 0

def clipUnit (x : ℚ) : ℚ := min 1 (max 0 x)

def computeRerouteTriggerScoreCore (profile : RouteChoiceProfile) (improvementRatio : ℚ) : ℚ :=
  45 / 100 * clipUnit profile.rerouteWillingness +
    35 / 100 * min 1 (max 0 improvementRatio *
      (3 / 4 + 3 / 4 * squashPositive profile.delaySensitivity)) +
    20 / 100 * clipUnit profile.explorationBias

def persistenceResistance (profile : RouteChoiceProfile) : ℚ :=
  40 / 100 + 15 / 100 * squashPositive |profile.persistenceBias|

def computeRerouteDecisionCore (rust : RustExtension) (profile : RouteChoiceProfile)
    (improvementRatio : ℚ) (backend : RoutingBackend) :
    Except RoutingError ((Bool × ℚ) × Computed) :=
  let score := computeRerouteTriggerScoreCore profile improvementRatio
  let decision := (decide (persistenceResistance profile ≤ score ∧ 0 < profile.rerouteWillingness),
    score)
  dispatch backend rust.rerouteBackendAvailable (rust.call .rerouteDecision (.ok decision))
    (.ok decision)

/-- Whether an affected traveler reroutes or persists; a cost of none is infinite.
The caller has let the cooldown run out and reports an incident. -/
def decideRerouteVsPersist (rust : RustExtension) (profile : RouteChoiceProfile)
    (currentRemainingCost candidateRemainingCost : Option ℚ) (backend : RoutingBackend) :
    Except RoutingError RerouteDecision :=
  match currentRemainingCost, candidateRemainingCost with
  | some current, some candidate =>
    if current ≤ 0 ∨ candidate ≤ 0 then .ok ⟨false, .invalidCosts, 0, 0, 0⟩
    else
      let improvement := max 0 ((current - candidate) / max current (1 / 1000000))
      if improvement < minImprovementRatio then
        .ok ⟨false, .insufficientImprovement, improvement, 0, 0⟩
      else do
        let ((should, score), _) ← computeRerouteDecisionCore rust profile improvement backend
        let reroutes := should && decide (persistenceResistance profile ≤ score) &&
          decide (0 < profile.rerouteWillingness)
        return ⟨reroutes, if reroutes then .reroute else .persistence, improvement, score,
          if reroutes then cooldownAfterRerouteTicks else 0⟩
  | _, _ => .ok ⟨false, .invalidCosts, 0, 0, 0⟩

end Metroflow.Routing
