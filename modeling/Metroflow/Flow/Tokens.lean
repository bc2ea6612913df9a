import Metroflow.Flow.Metadata

namespace Metroflow.Flow

variable {n m : ℕ}

/-- The slack under which an accrued residual counts as a whole token. -/
def residualEpsilon : ℚ := 1 / 1000000000

/-- What one discrete tick allocates from: the flow states, the fractional
flows, the storage bound and the credits it inherits. -/
structure TokenTick (n m : ℕ) where
  queueNow : Fin n → ℚ
  effectiveCapacity : Fin n → ℚ
  fromIdx : Fin m → Fin n
  toIdx : Fin m → Fin n
  turnDemand : Fin m → ℚ
  fractionalTurnFlow : Fin m → ℚ
  fractionalTurnSupply : Fin m → ℚ
  storageCapacity : Option (Fin n → ℚ)
  prior : PriorCredits n m
  sinkDemand : Fin n → ℤ

/-- The tokens of one side of a link: those its capacity mints on top of the
residual, and the unused one of the tick before. -/
structure TokenMint where
  active : Bool
  residual : ℚ
  capacity : ℚ
  carry : ℚ

namespace TokenMint

variable (k : TokenMint)

def accrued : ℚ := if k.active then k.residual + k.capacity else 0

def minted : ℤ := ⌊k.accrued + residualEpsilon⌋

def nextCredit : ℚ := k.accrued - k.minted

def carryEnabled : Bool := k.active && decide (0 < k.capacity)

def tokens : ℤ := k.minted + if k.carryEnabled then rint k.carry else 0

/-- The unused token that the next tick may add; never more than one. -/
def nextCarry (remaining : ℤ) : ℚ := if k.carryEnabled then (min remaining 1 : ℤ) else 0

end TokenMint

namespace TokenTick

variable (k : TokenTick n m)

def receivingSpace : Option (Fin n → ℚ) :=
  k.storageCapacity.map fun storage l => max (storage l - k.queueNow l) 0

def eligibleTurnDemand (t : Fin m) : Bool :=
  decide (0 < k.turnDemand t) && decide (0 < k.fractionalTurnFlow t)

def hasTurnDemand (l : Fin n) : Bool :=
  decide (∃ t, k.fromIdx t = l ∧ k.eligibleTurnDemand t = true)

def hasReceivingDemand (l : Fin n) : Bool :=
  decide (∃ t, k.toIdx t = l ∧ k.eligibleTurnDemand t = true)

def hasSendingDemand (l : Fin n) : Bool := k.hasTurnDemand l || decide (0 < k.sinkDemand l)

def serviceMint (l : Fin n) : TokenMint where
  active := k.hasSendingDemand l
  residual := k.prior.serviceCredit l
  capacity := k.effectiveCapacity l
  carry := k.prior.carry.service l

def receivingMint (l : Fin n) : TokenMint where
  active := k.hasReceivingDemand l
  residual := k.prior.receivingCredit l
  capacity := k.effectiveCapacity l
  carry := k.prior.carry.receiving l

def serviceTokens (l : Fin n) : ℤ := (k.serviceMint l).tokens

/-- Receiving tokens never exceed the free space of a link with storage. -/
def receivingTokens (l : Fin n) : ℤ :=
  match k.receivingSpace with
  | none => (k.receivingMint l).tokens
  | some space => min (k.receivingMint l).tokens ⌊space l + vehicleTolerance⌋

def internalDemandBySource : Fin n → ℚ :=
  segmentSum (fun t => if k.eligibleTurnDemand t then k.turnDemand t else 0) k.fromIdx

def fractionalInternalBySource : Fin n → ℚ := segmentSum k.fractionalTurnFlow k.fromIdx

def totalServiceDemand (l : Fin n) : ℚ := k.internalDemandBySource l + k.sinkDemand l

def desiredInternalCredit (l : Fin n) : ℚ :=
  if 0 < k.totalServiceDemand l then
    k.effectiveCapacity l * k.internalDemandBySource l / k.totalServiceDemand l
  else 0

def internalCreditBudget (l : Fin n) : ℚ :=
  min (k.desiredInternalCredit l) (k.fractionalInternalBySource l)

def sinkCreditBudget (l : Fin n) : ℚ :=
  min (k.sinkDemand l) (max (k.effectiveCapacity l - k.internalCreditBudget l) 0)

def turnCreditIncrement (t : Fin m) : ℚ :=
  if 0 < k.fractionalInternalBySource (k.fromIdx t) then
    k.fractionalTurnFlow t * k.internalCreditBudget (k.fromIdx t) /
      k.fractionalInternalBySource (k.fromIdx t)
  else 0

def turnAccrued (t : Fin m) : ℚ :=
  if 0 < k.turnDemand t then k.prior.turnCredit t + k.turnCreditIncrement t else 0

def sinkAccrued (l : Fin n) : ℚ :=
  if 0 < k.sinkDemand l then k.prior.sinkCredit l + k.sinkCreditBudget l else 0

def vehiclesNow (l : Fin n) : ℤ := ⌊k.queueNow l + vehicleTolerance⌋

def wholeTurnDemand (t : Fin m) : ℤ := ⌊k.turnDemand t + vehicleTolerance⌋

/-- The inputs that the call's own checks leave. -/
structure Valid : Prop where
  queue_nonneg : ∀ l, 0 ≤ k.queueNow l
  capacity_nonneg : ∀ l, 0 ≤ k.effectiveCapacity l
  demand_nonneg : ∀ t, 0 ≤ k.turnDemand t
  flow_nonneg : ∀ t, 0 ≤ k.fractionalTurnFlow t
  supply_nonneg : ∀ t, 0 ≤ k.fractionalTurnSupply t
  sink_nonneg : ∀ l, 0 ≤ k.sinkDemand l
  prior : k.prior.Valid
  stored : ∀ storage, k.storageCapacity = some storage → ∀ l,
    1 ≤ storage l ∧ k.queueNow l ≤ storage l + vehicleTolerance

end TokenTick

/-- A mint whose residual and carry passed the checks of the reader. -/
structure TokenMint.Valid (k : TokenMint) : Prop where
  residual_nonneg : 0 ≤ k.residual
  residual_below : k.residual < 1
  capacity_nonneg : 0 ≤ k.capacity
  carry_whole : rint k.carry = 0 ∨ rint k.carry = 1

namespace TokenMint.Valid

variable {k : TokenMint}

theorem accrued_nonneg (h : k.Valid) : 0 ≤ k.accrued := by
  unfold accrued
  split
  · exact add_nonneg h.residual_nonneg h.capacity_nonneg
  · exact le_refl 0

theorem minted_nonneg (h : k.Valid) : 0 ≤ k.minted := by
  apply Int.floor_nonneg.mpr
  have : (0 : ℚ) ≤ residualEpsilon := by norm_num [residualEpsilon]
  exact add_nonneg h.accrued_nonneg this

theorem tokens_nonneg (h : k.Valid) : 0 ≤ k.tokens := by
  unfold tokens
  have := h.minted_nonneg
  rcases h.carry_whole with none | one
  · simp only [none, ite_self]
    omega
  · split <;> omega

end TokenMint.Valid

theorem TokenMint.next_credit_bounds (k : TokenMint) :
    -residualEpsilon ≤ k.nextCredit ∧ k.nextCredit < 1 - residualEpsilon := by
  have low := Int.floor_le (k.accrued + residualEpsilon)
  have high := Int.lt_floor_add_one (k.accrued + residualEpsilon)
  unfold nextCredit minted
  constructor <;> linarith

namespace TokenTick.Valid

variable {k : TokenTick n m}

theorem service_mint (h : k.Valid) (l : Fin n) : (k.serviceMint l).Valid :=
  ⟨h.prior.service_nonneg l, h.prior.service_below l, h.capacity_nonneg l, h.prior.service_carry l⟩

theorem receiving_mint (h : k.Valid) (l : Fin n) : (k.receivingMint l).Valid :=
  ⟨h.prior.receiving_nonneg l, h.prior.receiving_below l, h.capacity_nonneg l,
    h.prior.receiving_carry l⟩

theorem service_tokens_nonneg (h : k.Valid) (l : Fin n) : 0 ≤ k.serviceTokens l :=
  (h.service_mint l).tokens_nonneg

theorem receiving_tokens_nonneg (h : k.Valid) (l : Fin n) : 0 ≤ k.receivingTokens l := by
  unfold receivingTokens
  split
  · exact (h.receiving_mint l).tokens_nonneg
  · rename_i space found
    refine le_min (h.receiving_mint l).tokens_nonneg (Int.floor_nonneg.mpr ?_)
    obtain ⟨storage, _, rfl⟩ := Option.map_eq_some_iff.mp found
    have : (0 : ℚ) ≤ vehicleTolerance := by norm_num [vehicleTolerance]
    exact add_nonneg (le_max_right _ _) this

theorem vehicles_nonneg (h : k.Valid) (l : Fin n) : 0 ≤ k.vehiclesNow l := by
  apply Int.floor_nonneg.mpr
  have : (0 : ℚ) ≤ vehicleTolerance := by norm_num [vehicleTolerance]
  exact add_nonneg (h.queue_nonneg l) this

theorem whole_demand_nonneg (h : k.Valid) (t : Fin m) : 0 ≤ k.wholeTurnDemand t := by
  apply Int.floor_nonneg.mpr
  have : (0 : ℚ) ≤ vehicleTolerance := by norm_num [vehicleTolerance]
  exact add_nonneg (h.demand_nonneg t) this

end TokenTick.Valid

theorem TokenTick.receiving_tokens_le_minted (k : TokenTick n m) (l : Fin n) :
    k.receivingTokens l ≤ (k.receivingMint l).tokens := by
  unfold receivingTokens
  split
  · exact le_refl _
  · exact min_le_left _ _

theorem TokenTick.receiving_tokens_le_space {k : TokenTick n m} {space : Fin n → ℚ}
    (h : k.receivingSpace = some space) (l : Fin n) :
    k.receivingTokens l ≤ ⌊space l + vehicleTolerance⌋ := by
  simp only [receivingTokens, h]
  exact min_le_right _ _

end Metroflow.Flow
