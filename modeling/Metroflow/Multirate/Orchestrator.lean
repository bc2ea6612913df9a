import Metroflow.Multirate.Edges

namespace Metroflow.Multirate

open Metroflow.Lib

/-- How many steps lie between two ticks of each rate. -/
structure TickSchedule where
  fastEvery : ℤ := 1
  mediumEvery : ℤ := 10
  slowEvery : ℤ := 100
  deriving DecidableEq, Repr

structure SchedulerDecision where
  runFast : Bool
  runMedium : Bool
  runSlow : Bool
  deriving DecidableEq, Repr

def shouldRun (stepIdx every : ℤ) : Except StepError Bool := do
  raiseValue (stepIdx < 0) "step_idx must be non-negative."
  raiseValue (every ≤ 0) "Cadence must be positive."
  return decide (stepIdx % every = 0)

def schedulerDecision (stepIdx : ℤ) (schedule : TickSchedule) : Except StepError SchedulerDecision := do
  raiseValue (¬ (schedule.fastEvery ≤ schedule.mediumEvery ∧
    schedule.mediumEvery ≤ schedule.slowEvery))
    "Invalid multirate ordering: fast <= medium <= slow must hold."
  let runFast ← shouldRun stepIdx schedule.fastEvery
  let runMedium ← shouldRun stepIdx schedule.mediumEvery
  let runSlow ← shouldRun stepIdx schedule.slowEvery
  return ⟨runFast, runMedium, runSlow⟩

section Accessibility

structure AccessibilitySnapshot where
  computedAtStep : ℤ
  graphVersion : ℤ
  landuseVersion : ℤ
  zonalCosts : List (List ℚ) := []
  deriving DecidableEq, Repr

/-- The travel times between zones per opportunity at their end. -/
def computeAccessibilitySnapshot (stepIdx graphVersion landuseVersion : ℤ)
    (zonalTravelTimes : List (List ℚ)) (zoneOpportunities : List ℚ) :
    Except StepError AccessibilitySnapshot := do
  let zoneCount := zoneOpportunities.length
  raiseValue (zonalTravelTimes.length ≠ zoneCount)
    "zonal_travel_times dimension must match zone_opportunities length."
  raiseValue (∃ row ∈ zonalTravelTimes, row.length ≠ zoneCount)
    "zonal_travel_times rows must match zone_opportunities length."
  raiseValue (∃ row ∈ zonalTravelTimes, ∃ travelTime ∈ row, travelTime < 0)
    "zonal_travel_times must be non-negative."
  raiseValue (∃ opportunity ∈ zoneOpportunities, opportunity < 0)
    "zone_opportunities must be non-negative."
  return {
    computedAtStep := stepIdx
    graphVersion := graphVersion
    landuseVersion := landuseVersion
    zonalCosts := zonalTravelTimes.map fun row =>
      row.zipWith (fun travelTime opportunity => travelTime / max opportunity 1)
        zoneOpportunities }

/-- The world with a snapshot; one without zones leaves nothing to lag. -/
def updateAccessibilityCache (world : WorldState) (snapshot : AccessibilitySnapshot) : WorldState :=
  { world with
    accessibility := {
      version := world.accessibility.version + 1
      laggedSnapshotStep := if snapshot.zonalCosts = [] then -1 else snapshot.computedAtStep
      graphVersion := snapshot.graphVersion
      landuseVersion := snapshot.landuseVersion
      zonalCosts := snapshot.zonalCosts } }

end Accessibility

section LandUse

structure ZoneDevelopmentDelta where
  housingDelta : List ℚ
  jobsDelta : List ℚ
  deriving DecidableEq, Repr

def reduceZonalCostsToLaggedAccessibility (zonalCosts : List (List ℚ)) :
    Except StepError (List ℚ) := do
  raiseValue (∃ row ∈ zonalCosts, row.length ≠ zonalCosts.length)
    "zonal_costs rows must match zonal_costs dimension."
  raiseValue (∃ row ∈ zonalCosts, ∃ cost ∈ row, cost < 0) "zonal_costs must be non-negative."
  return zonalCosts.map fun row => 1 / max (row.sum / (row.length : ℚ)) (1 / 1000000)

/-- The growth of the zones under the accessibility of an earlier step. -/
def applyLaggedLanduseFeedback (laggedAccessibility currentHousing currentJobs : List ℚ) :
    Except StepError ZoneDevelopmentDelta := do
  raiseValue (laggedAccessibility.length ≠ currentHousing.length ∨
    laggedAccessibility.length ≠ currentJobs.length)
    "lagged_accessibility, current_housing, and current_jobs must align."
  raiseValue (∃ value ∈ currentHousing, value < 0) "current_housing must be non-negative."
  raiseValue (∃ value ∈ currentJobs, value < 0) "current_jobs must be non-negative."
  let delta := laggedAccessibility.map fun accessibility => 1 / 100 * max accessibility 0
  return ⟨delta, delta⟩

/-- The capacities after a change, none below zero. -/
def applyLanduseDelta (current delta : List ℚ) : List ℚ :=
  current.zipWith (fun capacity change => max (capacity + change) 0) delta

end LandUse

structure StepInput extends FastTickInput where
  zonalTravelTimes : Option (List (List ℚ)) := none
  zoneOpportunities : Option (List ℚ) := none
  deriving DecidableEq

section Step

variable (ext : EdgeExtensions) (world : WorldState)

def validateMediumInputs (input : StepInput) : Except StepError Unit :=
  match input.zonalTravelTimes, input.zoneOpportunities with
  | some zonalTravelTimes, some zoneOpportunities => do
    let zoneCount := world.landuse.zoneLabels.length
    raiseValue (zoneOpportunities.length ≠ zoneCount)
      "zone_opportunities length must match landuse.zone_labels length."
    raiseValue (zonalTravelTimes.length ≠ zoneCount)
      "zonal_travel_times dimension must match landuse.zone_labels length."
    raiseValue (∃ row ∈ zonalTravelTimes, row.length ≠ zoneCount)
      "zonal_travel_times rows must match landuse.zone_labels length."
  | _, _ =>
    .error (.value "zonal_travel_times and zone_opportunities are required for medium cadence.")

def validateSlowSnapshot : Except StepError Unit := do
  let zoneCount := world.landuse.zoneLabels.length
  raiseValue (world.accessibility.zonalCosts = [])
    "A pre-call lagged accessibility snapshot is required for slow cadence."
  raiseValue (world.accessibility.zonalCosts.length ≠ zoneCount)
    "Lagged accessibility payload dimension must match landuse.zone_labels length."
  raiseValue (∃ row ∈ world.accessibility.zonalCosts, row.length ≠ zoneCount)
    "Lagged accessibility rows must match landuse.zone_labels length."
  raiseValue (world.traffic.step ≤ world.accessibility.laggedSnapshotStep)
    "Lagged accessibility snapshot must predate the current traffic.step."
  raiseValue (world.accessibility.graphVersion ≠ world.graph.version)
    "Lagged accessibility graph_version must match the pre-call world."
  raiseValue (world.accessibility.landuseVersion ≠ world.landuse.version)
    "Lagged accessibility landuse_version must match the pre-call world."

def checkDue (due : Bool) (check : Except StepError Unit) : Except StepError Unit :=
  if due then check else .ok ()

def updateDue (due : Bool) (update : Except StepError WorldState) : Except StepError WorldState :=
  if due then update else .ok world

/-- What is due at the world's step, when the entry checks of a step accept it. -/
def enterStep (schedule : TickSchedule) (input : StepInput) : Except StepError SchedulerDecision := do
  let decision ← schedulerDecision world.traffic.step schedule
  raiseValue (decision.runMedium = true ∧ decision.runFast = false)
    "Illegal schedule: medium cadence requires fast cadence."
  raiseValue (decision.runMedium = true ∧ decision.runSlow = true)
    "Illegal same-step medium and slow overlap is forbidden."
  checkDue decision.runMedium (validateMediumInputs world input)
  checkDue decision.runSlow (validateSlowSnapshot world)
  return decision

def mediumUpdate (input : StepInput) : Except StepError WorldState := do
  let snapshot ← computeAccessibilitySnapshot world.traffic.step world.graph.version
    world.landuse.version (input.zonalTravelTimes.getD []) (input.zoneOpportunities.getD [])
  return updateAccessibilityCache world snapshot

/-- The land use grows by the accessibility from before the call, which is then dropped. -/
def slowUpdate (preCall : AccessibilityState) : Except StepError WorldState := do
  let laggedAccessibility ← reduceZonalCostsToLaggedAccessibility preCall.zonalCosts
  let delta ← applyLaggedLanduseFeedback laggedAccessibility world.landuse.housingCapacity
    world.landuse.jobsCapacity
  return { world with
    landuse := { world.landuse with
      version := world.landuse.version + 1
      housingCapacity := applyLanduseDelta world.landuse.housingCapacity delta.housingDelta
      jobsCapacity := applyLanduseDelta world.landuse.jobsCapacity delta.jobsDelta }
    accessibility := {
      version := world.accessibility.version + 1
      laggedSnapshotStep := -1
      graphVersion := preCall.graphVersion
      landuseVersion := preCall.landuseVersion
      zonalCosts := [] } }

/-- The updates that are due, one after the other. -/
def updateWorld (decision : SchedulerDecision) (input : StepInput) : Except StepError WorldState := do
  let measured ← updateDue world decision.runMedium (mediumUpdate world input)
  let evolved ← updateDue measured decision.runFast
    (evolveEdgesFastTick ext measured input.toFastTickInput)
  updateDue evolved decision.runSlow (slowUpdate evolved world.accessibility)

/-- One call: the contract, the entry checks, the updates that are due, the contract again. -/
def stepWorld (schedule : TickSchedule) (input : StepInput) : Except StepError WorldState := do
  validateStateContract world
  let decision ← enterStep world schedule input
  if decision.runFast || decision.runMedium || decision.runSlow then do
    let nextWorld ← updateWorld ext world decision input
    validateStateContract nextWorld
    return nextWorld
  else return world

end Step

end Metroflow.Multirate
