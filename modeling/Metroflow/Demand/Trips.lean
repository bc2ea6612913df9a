import Metroflow.Lib.Common

namespace Metroflow.Demand

inductive TripRequestStatus where
  | queued
  | activated
  | canceled
  deriving DecidableEq, Repr

/-- Planned trip request emitted from citizen schedules before activation. -/
@[ext]
structure TripRequest where
  tripRequestId : ℤ
  citizenId : ℤ
  originPoiId : ℤ
  destPoiId : ℤ
  plannedDepartTick : ℕ
  status : TripRequestStatus := .queued
  pois_differ : originPoiId ≠ destPoiId

instance : DecidableEq TripRequest := fun _ _ => decidable_of_iff _ TripRequest.ext_iff.symm

namespace TripRequest

def activated (trip : TripRequest) : TripRequest := { trip with status := .activated }

end TripRequest

/-- The scan over the requests: `sorted` says that the departures so far never
went down, and then the first future queued request ends the scan. -/
def activateFrom (currentTick : ℕ) : Bool → ℕ → List TripRequest → List TripRequest
  | _, _, [] => []
  | sorted, last, trip :: rest =>
    if trip.status = .queued ∧ trip.plannedDepartTick ≤ currentTick then
      trip.activated :: activateFrom currentTick (sorted && decide (last ≤ trip.plannedDepartTick))
        trip.plannedDepartTick rest
    else if (sorted = true ∧ last ≤ trip.plannedDepartTick) ∧ trip.status = .queued ∧
        currentTick < trip.plannedDepartTick then
      trip :: rest
    else
      trip :: activateFrom currentTick (sorted && decide (last ≤ trip.plannedDepartTick))
        trip.plannedDepartTick rest

/-- The trip requests with due queued requests transitioned to activated. -/
def activateTripRequests (tripRequests : List TripRequest) (currentTick : ℕ) : List TripRequest :=
  activateFrom currentTick true 0 tripRequests

/-- What activation may do to a request: nothing, or activate a queued one. -/
def Activated (trip trip' : TripRequest) : Prop :=
  trip' = trip ∨ trip.status = .queued ∧ trip' = trip.activated

theorem activate_from_spec (currentTick : ℕ) (sorted : Bool) (last : ℕ)
    (trips : List TripRequest) :
    List.Forall₂ Activated trips (activateFrom currentTick sorted last trips) := by
  induction trips generalizing sorted last with
  | nil => exact .nil
  | cons trip rest ih =>
    unfold activateFrom
    split
    · rename_i due
      exact .cons (.inr ⟨due.1, rfl⟩) (ih _ _)
    · split
      · exact List.forall₂_same.mpr fun _ _ => .inl rfl
      · exact .cons (.inl rfl) (ih _ _)

theorem activate_trip_requests_spec (trips : List TripRequest) (currentTick : ℕ) :
    List.Forall₂ Activated trips (activateTripRequests trips currentTick) :=
  activate_from_spec currentTick true 0 trips

section Complete

variable {currentTick last : ℕ} {sorted : Bool} {trip : TripRequest} {trips rest : List TripRequest}

/-- What the documentation promises of one request. -/
def activateIfDue (currentTick : ℕ) (trip : TripRequest) : TripRequest :=
  if trip.status = .queued ∧ trip.plannedDepartTick ≤ currentTick then trip.activated else trip

theorem activate_if_due_fixed : activateIfDue currentTick trip = trip ↔
    (trip.status = .queued → currentTick < trip.plannedDepartTick) := by
  unfold activateIfDue
  split
  · rename_i due
    constructor
    · intro same
      have : TripRequestStatus.activated = trip.status := congrArg TripRequest.status same
      rw [due.1] at this
      cases this
    · exact fun future => absurd due.2 (Nat.not_le.mpr (future due.1))
  · rename_i kept
    exact ⟨fun _ queued => Nat.not_le.mp fun due => kept ⟨queued, due⟩, fun _ => rfl⟩

/-- Where the departures went up to a queued request that is not yet due, none due is queued
behind it. -/
def NoneDueBehind (currentTick : ℕ) (sorted : Bool) (last : ℕ) (trips : List TripRequest) : Prop :=
  ∀ before trip after, trips = before ++ trip :: after → sorted = true →
    (last :: (before ++ [trip]).map TripRequest.plannedDepartTick).IsChain (· ≤ ·) →
    trip.status = .queued → currentTick < trip.plannedDepartTick →
    ∀ later ∈ after, later.status = .queued → currentTick < later.plannedDepartTick

theorem none_due_behind_cons (passes : ¬ ((sorted = true ∧ last ≤ trip.plannedDepartTick) ∧
      trip.status = .queued ∧ currentTick < trip.plannedDepartTick)) :
    NoneDueBehind currentTick sorted last (trip :: rest) ↔
      NoneDueBehind currentTick (sorted && decide (last ≤ trip.plannedDepartTick))
        trip.plannedDepartTick rest := by
  constructor
  · intro none_due before stop after split in_order rising
    obtain ⟨sorted, next⟩ := Bool.and_eq_true_iff.mp in_order
    refine none_due (trip :: before) stop after (by rw [split, List.cons_append]) sorted ?_
    exact List.isChain_cons_cons.mpr ⟨of_decide_eq_true next, rising⟩
  · intro none_due before stop after split in_order rising queued future
    cases before with
    | nil =>
      obtain ⟨rfl, rfl⟩ := List.cons.inj split
      exact absurd ⟨⟨in_order, (List.isChain_cons_cons.mp rising).1⟩, queued, future⟩ passes
    | cons first before =>
      obtain ⟨rfl, rfl⟩ := List.cons.inj split
      obtain ⟨next, rising⟩ := List.isChain_cons_cons.mp rising
      exact none_due before stop after rfl
        (Bool.and_eq_true_iff.mpr ⟨in_order, decide_eq_true next⟩) rising queued future

theorem activate_from_complete_iff :
    activateFrom currentTick sorted last trips = trips.map (activateIfDue currentTick) ↔
      NoneDueBehind currentTick sorted last trips := by
  induction trips generalizing sorted last with
  | nil =>
    refine ⟨fun _ before stop after split => ?_, fun _ => rfl⟩
    exact absurd split.symm (by simp)
  | cons trip rest ih =>
    unfold activateFrom
    rw [List.map_cons]
    split
    · rename_i due
      rw [activateIfDue, if_pos due, List.cons.injEq, and_iff_right rfl, ih,
        none_due_behind_cons fun stop => absurd due.2 (Nat.not_le.mpr stop.2.2)]
    · rename_i kept
      have same : activateIfDue currentTick trip = trip := if_neg kept
      split
      · rename_i stop
        have rising : (last :: ([] ++ [trip]).map TripRequest.plannedDepartTick).IsChain (· ≤ ·) :=
          List.isChain_cons_cons.mpr ⟨stop.1.2, .singleton _⟩
        have fixed_iff : rest = rest.map (activateIfDue currentTick) ↔
            ∀ trip ∈ rest, activateIfDue currentTick trip = trip := by
          have kept := List.map_inj_left (l := rest) (f := activateIfDue currentTick) (g := id)
          rw [List.map_id] at kept
          exact eq_comm.trans kept
        rw [same, List.cons.injEq, and_iff_right rfl, fixed_iff]
        constructor
        · intro each before other after split _ _ _ _ later listed
          refine activate_if_due_fixed.mp (each later ?_)
          cases before with
          | nil => exact (List.cons.inj split).2 ▸ listed
          | cons first before =>
            rw [(List.cons.inj split).2]
            exact List.mem_append_right _ (List.mem_cons_of_mem _ listed)
        · intro none_due
          have := none_due [] trip rest rfl stop.1.1 rising stop.2.1 stop.2.2
          exact fun later listed => activate_if_due_fixed.mpr (this later listed)
      · rename_i passes
        rw [same, List.cons.injEq, and_iff_right rfl, ih, none_due_behind_cons passes]

/-- Every due request is activated unless one is queued behind the place where the scan of
rising departures meets a request that is not due. -/
theorem activation_complete_iff : activateTripRequests trips currentTick =
      trips.map (activateIfDue currentTick) ↔
    ∀ before trip after, trips = before ++ trip :: after →
      ((before ++ [trip]).map TripRequest.plannedDepartTick).IsChain (· ≤ ·) →
      trip.status = .queued → currentTick < trip.plannedDepartTick →
      ∀ later ∈ after, later.status = .queued → currentTick < later.plannedDepartTick := by
  have from_start : ∀ l : List ℕ, (0 :: l).IsChain (· ≤ ·) ↔ l.IsChain (· ≤ ·) := by
    intro l
    cases l with
    | nil => simp
    | cons a l => rw [List.isChain_cons_cons, and_iff_right (Nat.zero_le a)]
  unfold activateTripRequests
  rw [activate_from_complete_iff]
  unfold NoneDueBehind
  simp only [from_start, true_implies]

/-- A trip of the morning that stands behind a later one. -/
def lateTrip : TripRequest := ⟨1, 1, 1, 2, 10, .queued, by decide⟩

def earlyTrip : TripRequest := ⟨2, 2, 1, 2, 1, .queued, by decide⟩

theorem due_trip_left : activateTripRequests [lateTrip, earlyTrip] 5 ≠
    [lateTrip, earlyTrip].map (activateIfDue 5) := by
  decide

end Complete

end Metroflow.Demand
