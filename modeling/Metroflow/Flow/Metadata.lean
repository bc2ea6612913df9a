import Metroflow.Flow.Baseline

namespace Metroflow.Flow

open Metroflow.Lib

/-- Rounds to the nearest integer, halves to the even one. -/
def rint (x : ℚ) : ℤ :=
  if x - ⌊x⌋ < 1 / 2 then ⌊x⌋
  else if 1 / 2 < x - ⌊x⌋ then ⌊x⌋ + 1
  else if ⌊x⌋ % 2 = 0 then ⌊x⌋
  else ⌊x⌋ + 1

@[simp]
theorem rint_int (z : ℤ) : rint z = z := by
  unfold rint
  rw [if_pos (by simp)]
  exact Int.floor_intCast z

/-- The bound a metadata vector is checked against. -/
inductive UpperBound where
  | unbounded
  | belowOne
  | atMostOne
  deriving DecidableEq

structure VectorRule where
  allowNegative : Bool := false
  required : Bool := false
  upper : UpperBound := .unbounded

section Vectors

variable {size : ℕ}

def checkUpperBound (upper : UpperBound) (key : MetaKey) (values : Fin size → ℚ) :
    Except FlowError Unit :=
  match upper with
  | .unbounded => .ok ()
  | .belowOne => raiseIf (∃ i, 1 ≤ values i) (.notBelowOne key)
  | .atMostOne => raiseIf (∃ i, 1 + vehicleTolerance < values i) (.aboveOne key)

/-- Reads a metadata vector back; a missing key stands for zeros unless it is required. -/
def metadataVector (raw : Option (MetaArray MetaNum)) (key : MetaKey) (size : ℕ)
    (rule : VectorRule) : Except FlowError (Fin size → ℚ) :=
  match raw with
  | none => if rule.required then .error (.required key) else .ok fun _ => 0
  | some stored =>
    match stored.broadcast size with
    | none => .error (.shape key size)
    | some entries => do
      raiseIf (∃ i, (entries i).isFinite = false) (.notFinite key)
      raiseIf (rule.allowNegative = false ∧ ∃ i, (entries i).value < 0) (.negative key)
      checkUpperBound rule.upper key fun i => (entries i).value
      return fun i => (entries i).value

structure VectorRule.Admits (rule : VectorRule) (values : Fin size → ℚ) : Prop where
  nonneg : rule.allowNegative = false → ∀ i, 0 ≤ values i
  below : rule.upper = .belowOne → ∀ i, values i < 1
  atMost : rule.upper = .atMostOne → ∀ i, values i ≤ 1 + vehicleTolerance

theorem check_upper_bound_ok {upper : UpperBound} {key : MetaKey} {values : Fin size → ℚ}
    {u : Unit} : checkUpperBound upper key values = .ok u ↔
      (upper = .belowOne → ∀ i, values i < 1) ∧
      (upper = .atMostOne → ∀ i, values i ≤ 1 + vehicleTolerance) := by
  cases upper <;> simp [checkUpperBound]

theorem metadata_vector_admits {raw : Option (MetaArray MetaNum)} {key : MetaKey}
    {rule : VectorRule} {values : Fin size → ℚ}
    (h : metadataVector raw key size rule = .ok values) : rule.Admits values := by
  unfold metadataVector at h
  split at h
  · split at h
    · simp at h
    · obtain rfl := Except.ok.inj h
      refine ⟨fun _ _ => le_refl 0, fun _ _ => zero_lt_one, fun _ _ => ?_⟩
      norm_num [vehicleTolerance]
  · split at h
    · simp at h
    · rename_i entries _
      obtain ⟨_, _, h⟩ := bind_ok.mp h
      obtain ⟨_, sign, h⟩ := bind_ok.mp h
      obtain ⟨_, bound, h⟩ := bind_ok.mp h
      obtain rfl := pure_ok.mp h
      obtain ⟨below, atMost⟩ := check_upper_bound_ok.mp bound
      refine ⟨fun negative i => ?_, below, atMost⟩
      have each : ¬ ∃ i, (entries i).value < 0 := fun found => raise_if_ok.mp sign ⟨negative, found⟩
      exact not_lt.mp fun lt => each ⟨i, lt⟩

theorem metadata_vector_of_vector {key : MetaKey} {rule : VectorRule} {values : Fin size → ℚ}
    (h : rule.Admits values) :
    metadataVector (some (MetaArray.ofVector values)) key size rule = .ok values := by
  simp only [metadataVector, MetaArray.broadcast_of_vector]
  refine bind_ok.mpr ⟨(), raise_if_ok.mpr (by simp), bind_ok.mpr ⟨(), raise_if_ok.mpr ?_, ?_⟩⟩
  · rintro ⟨negative, i, lt⟩
    exact absurd (h.nonneg negative i) (not_le.mpr lt)
  · exact bind_ok.mpr ⟨(), check_upper_bound_ok.mpr ⟨h.below, h.atMost⟩, rfl⟩

/-- Refuses token vectors that are not whole vehicles. -/
def requireWholeTokens (key : MetaKey) (values : Fin size → ℚ) : Except FlowError Unit :=
  raiseIf (∃ i, vehicleTolerance < |values i - rint (values i)|) (.fractionalTokens key)

theorem require_whole_tokens_ok {key : MetaKey} {values : Fin size → ℚ} {u : Unit} :
    requireWholeTokens key values = .ok u ↔ ∀ i, |values i - rint (values i)| ≤ vehicleTolerance := by
  simp [requireWholeTokens]

theorem whole_tokens_of_int {key : MetaKey} (values : Fin size → ℤ) :
    requireWholeTokens key (fun i => (values i : ℚ)) = .ok () := by
  rw [require_whole_tokens_ok]
  intro i
  simp [vehicleTolerance]

end Vectors

/-- The tokens that the previous tick left over on each link. -/
structure TokenCarry (n : ℕ) where
  service : Fin n → ℚ
  receiving : Fin n → ℚ

/-- The credits and residuals that the previous tick carried over. -/
structure PriorCredits (n m : ℕ) where
  turnCredit : Fin m → ℚ
  serviceCredit : Fin n → ℚ
  receivingCredit : Fin n → ℚ
  sinkCredit : Fin n → ℚ
  carry : TokenCarry n

variable {n m : ℕ}

/-- Reads the token vectors of a prior discrete tick; only the carries are kept. -/
def readTokenCarry (link : LinkMetadata) (node : NodeMetadata) :
    Except FlowError (TokenCarry n) := do
  let authorityVersion := link.runtimeTokenAuthorityVersion.getD 1
  let serviceCarry ← metadataVector link.runtimeLinkServiceTokenCarry .serviceTokenCarry n
    { required := decide (2 ≤ authorityVersion), upper := .atMostOne }
  let receivingCarry ← metadataVector link.runtimeLinkReceivingTokenCarry .receivingTokenCarry n
    { required := decide (2 ≤ authorityVersion), upper := .atMostOne }
  let serviceTokens ← metadataVector link.runtimeLinkServiceTokens .serviceTokens n
    { required := true }
  let receivingTokens ← metadataVector link.runtimeLinkReceivingTokens .receivingTokens n
    { required := true }
  let linkSinkFlow ← metadataVector link.runtimeSinkFlowVehicles .sinkFlowVehicles n
    { required := true }
  let nodeSinkFlow ← metadataVector node.runtimeSinkFlowByLinkIndex .sinkFlowByLinkIndex n
    { required := true }
  requireWholeTokens .serviceTokenCarry serviceCarry
  requireWholeTokens .receivingTokenCarry receivingCarry
  requireWholeTokens .serviceTokens serviceTokens
  requireWholeTokens .receivingTokens receivingTokens
  requireWholeTokens .sinkFlowVehicles linkSinkFlow
  requireWholeTokens .sinkFlowByLinkIndex nodeSinkFlow
  raiseIf (linkSinkFlow ≠ nodeSinkFlow) .sinkFlowMismatch
  return ⟨serviceCarry, receivingCarry⟩

/-- Without a prior discrete tick nothing is carried. -/
def readPriorCarry (link : LinkMetadata) (node : NodeMetadata) :
    Except FlowError (TokenCarry n) :=
  if link.runtimeDiscreteAgentAuthority then readTokenCarry link node
  else .ok ⟨fun _ => 0, fun _ => 0⟩

def readPriorCredits (link : LinkMetadata) (node : NodeMetadata) :
    Except FlowError (PriorCredits n m) := do
  let prior := link.runtimeDiscreteAgentAuthority
  let turnCredit ← metadataVector node.runtimeTurnFlowResidual .turnFlowResidual m
    { allowNegative := true, required := prior }
  let serviceCredit ← metadataVector link.runtimeLinkServiceResidual .serviceResidual n
    { required := prior, upper := .belowOne }
  let receivingCredit ← metadataVector link.runtimeLinkReceivingResidual .receivingResidual n
    { required := prior, upper := .belowOne }
  let sinkCredit ← metadataVector node.runtimeSinkFlowResidual .sinkFlowResidual n
    { allowNegative := true, required := prior }
  let carry ← readPriorCarry link node
  return ⟨turnCredit, serviceCredit, receivingCredit, sinkCredit, carry⟩

def readSinkDemand (node : NodeMetadata) : Except FlowError (Fin n → ℤ) := do
  let values ← metadataVector node.runtimeSinkDemandByLinkIndex .sinkDemandByLinkIndex n {}
  return fun l => ⌊max (values l) 0 + vehicleTolerance⌋

/-- What a carried token vector looks like to the allocator: none or one vehicle. -/
def WholeCarry (carry : Fin n → ℚ) : Prop := ∀ l, rint (carry l) = 0 ∨ rint (carry l) = 1

/-- The credits a successful read can return. -/
structure PriorCredits.Valid (p : PriorCredits n m) : Prop where
  service_nonneg : ∀ l, 0 ≤ p.serviceCredit l
  service_below : ∀ l, p.serviceCredit l < 1
  receiving_nonneg : ∀ l, 0 ≤ p.receivingCredit l
  receiving_below : ∀ l, p.receivingCredit l < 1
  service_carry : WholeCarry p.carry.service
  receiving_carry : WholeCarry p.carry.receiving

theorem whole_carry_of_checks {key : MetaKey} {rule : VectorRule} {carry : Fin n → ℚ} {u : Unit}
    (admitted : rule.Admits carry) (sign : rule.allowNegative = false)
    (bound : rule.upper = .atMostOne) (whole : requireWholeTokens key carry = .ok u) :
    WholeCarry carry := by
  intro l
  have low := admitted.nonneg sign l
  have high := admitted.atMost bound l
  have near := abs_le.mp (require_whole_tokens_ok.mp whole l)
  have tolerance : vehicleTolerance = 1 / 1000000 := rfl
  have above : (-1 : ℚ) < rint (carry l) := by linarith
  have below : (rint (carry l) : ℚ) < 2 := by linarith
  have above' : -1 < rint (carry l) := by exact_mod_cast above
  have below' : rint (carry l) < 2 := by exact_mod_cast below
  omega

theorem read_token_carry_whole {link : LinkMetadata} {node : NodeMetadata} {carry : TokenCarry n}
    (h : readTokenCarry link node = .ok carry) :
    WholeCarry carry.service ∧ WholeCarry carry.receiving := by
  obtain ⟨service, hs, h⟩ := bind_ok.mp h
  obtain ⟨receiving, hr, h⟩ := bind_ok.mp h
  obtain ⟨_, _, h⟩ := bind_ok.mp h
  obtain ⟨_, _, h⟩ := bind_ok.mp h
  obtain ⟨_, _, h⟩ := bind_ok.mp h
  obtain ⟨_, _, h⟩ := bind_ok.mp h
  obtain ⟨_, ws, h⟩ := bind_ok.mp h
  obtain ⟨_, wr, h⟩ := bind_ok.mp h
  obtain ⟨_, _, h⟩ := bind_ok.mp h
  obtain ⟨_, _, h⟩ := bind_ok.mp h
  obtain ⟨_, _, h⟩ := bind_ok.mp h
  obtain ⟨_, _, h⟩ := bind_ok.mp h
  obtain ⟨_, _, h⟩ := bind_ok.mp h
  obtain rfl := pure_ok.mp h
  exact ⟨whole_carry_of_checks (metadata_vector_admits hs) rfl rfl ws,
    whole_carry_of_checks (metadata_vector_admits hr) rfl rfl wr⟩

theorem whole_carry_zero : WholeCarry fun _ : Fin n => 0 := by
  intro l
  left
  exact_mod_cast rint_int 0

theorem read_prior_carry_whole {link : LinkMetadata} {node : NodeMetadata} {carry : TokenCarry n}
    (h : readPriorCarry link node = .ok carry) :
    WholeCarry carry.service ∧ WholeCarry carry.receiving := by
  unfold readPriorCarry at h
  split at h
  · exact read_token_carry_whole h
  · obtain rfl := Except.ok.inj h
    exact ⟨whole_carry_zero, whole_carry_zero⟩

theorem read_prior_credits_valid {link : LinkMetadata} {node : NodeMetadata}
    {prior : PriorCredits n m} (h : readPriorCredits link node = .ok prior) : prior.Valid := by
  obtain ⟨_, _, h⟩ := bind_ok.mp h
  obtain ⟨_, hs, h⟩ := bind_ok.mp h
  obtain ⟨_, hr, h⟩ := bind_ok.mp h
  obtain ⟨_, _, h⟩ := bind_ok.mp h
  obtain ⟨carry, hc, h⟩ := bind_ok.mp h
  obtain rfl := pure_ok.mp h
  have service := metadata_vector_admits hs
  have receiving := metadata_vector_admits hr
  have whole := read_prior_carry_whole hc
  exact ⟨service.nonneg rfl, service.below rfl, receiving.nonneg rfl, receiving.below rfl,
    whole.1, whole.2⟩

theorem read_sink_demand_nonneg {node : NodeMetadata} {demand : Fin n → ℤ}
    (h : readSinkDemand node = .ok demand) (l : Fin n) : 0 ≤ demand l := by
  obtain ⟨values, _, h⟩ := bind_ok.mp h
  obtain rfl := pure_ok.mp h
  apply Int.floor_nonneg.mpr
  have : (0 : ℚ) ≤ vehicleTolerance := by norm_num [vehicleTolerance]
  exact add_nonneg (le_max_right _ _) this

end Metroflow.Flow
