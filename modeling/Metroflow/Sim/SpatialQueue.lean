import Metroflow.City.Graph
import Metroflow.Sim.ActiveAgents

namespace Metroflow.Sim

open Metroflow.Lib Metroflow.City

variable {p n m cap : ℕ} (net : RoadNetworkCSR p n m)

/-- Finite storage vehicles from physical lane length. -/
def computeLinkStorageCapacity (jamSpacingM : ℚ) (l : Fin n) : ℤ :=
  max 1 ⌊(net.links l).lengthM * (net.links l).lanes / jamSpacingM⌋

theorem storage_capacity_pos (jamSpacingM : ℚ) (l : Fin n) :
    1 ≤ computeLinkStorageCapacity net jamSpacingM l :=
  le_max_left _ _

/-- The slot of an agent one tick further along its physical link. -/
def progressed (tickSeconds : ℚ) (slot : ActiveAgentSlot) : ActiveAgentSlot :=
  match net.linkIdToIndex slot.currentLinkId with
  | none => slot
  | some l =>
    { slot with
      progress01 := min 1 (slot.progress01 +
        (net.links l).freeFlowSpeedMps * tickSeconds / (net.links l).lengthM) }

/-- Advances the alive agents through their current physical links. -/
def advanceAgentLinkProgress (pool : ActiveAgentPool cap) (tickSeconds : ℚ)
    (skipSlotIds : Finset (Fin cap)) : Except SimError (ActiveAgentPool cap) := do
  raiseIf (n = 0) .noIndexedLinks
  match (List.finRange cap).find? fun i => pool.alive i && decide (i ∉ skipSlotIds) &&
      (net.linkIdToIndex (pool.slots i).currentLinkId).isNone with
  | some i => .error (.missingPhysicalLink i (pool.slots i).currentLinkId)
  | none =>
    return { pool with
      slots := fun i =>
        if pool.alive i = true ∧ i ∉ skipSlotIds then progressed net tickSeconds (pool.slots i)
        else pool.slots i }

section Progressed

variable {net} {tickSeconds : ℚ} {slot : ActiveAgentSlot}

theorem progressed_eq : ∃ progress, progressed net tickSeconds slot =
    { slot with progress01 := progress } := by
  unfold progressed
  split
  · exact ⟨slot.progress01, rfl⟩
  · exact ⟨_, rfl⟩

theorem progressed_unit (tick : 0 < tickSeconds) (h : 0 ≤ slot.progress01 ∧ slot.progress01 ≤ 1) :
    0 ≤ (progressed net tickSeconds slot).progress01 ∧
      (progressed net tickSeconds slot).progress01 ≤ 1 := by
  unfold progressed
  split
  · exact h
  · rename_i l _
    have step : 0 ≤ (net.links l).freeFlowSpeedMps * tickSeconds / (net.links l).lengthM := by
      have := (net.links l).speed_pos
      have := (net.links l).length_pos
      positivity
    exact ⟨le_min zero_le_one (by linarith), min_le_left _ _⟩

end Progressed

end Metroflow.Sim
