import Metroflow.Lib.Loops

namespace Metroflow.Learning

open Metroflow.Lib

/-- A number stored with 32 bits. -/
def int32 (n : ℤ) : ℤ := n.bmod (2 ^ 32)

variable {K : Type}

/-- Per-OD bandit state: its arrays have one place for every arm. -/
structure ODBanditState (K : Type) where
  armCount : ℕ
  pullCount : List ℤ
  estimatedReward : List K
  explorationBonus : List K
  lastUpdateTick : ℤ
  pulls_length : pullCount.length = armCount
  pulls_range : ∀ n ∈ pullCount, 0 ≤ n ∧ n < 2 ^ 31
  rewards_length : estimatedReward.length = armCount
  bonus_length : explorationBonus.length = armCount
  deriving DecidableEq

def createOdUcbState (K : Type) [Field K] (armCount : ℕ) : ODBanditState K where
  armCount := armCount
  pullCount := List.replicate armCount 0
  estimatedReward := List.replicate armCount 0
  explorationBonus := List.replicate armCount 0
  lastUpdateTick := 0
  pulls_length := List.length_replicate
  pulls_range n listed := by
    obtain rfl := (List.mem_replicate.mp listed).2
    decide
  rewards_length := List.length_replicate
  bonus_length := List.length_replicate

section Argmax

variable [LinearOrder K] {arm : ℕ}

/-- `np.argmax`: the first place of the largest value. -/
def argmax : List K → Option ℕ
  | [] => none
  | a :: rest =>
    match argmax rest with
    | none => some 0
    | some i => if rest.getD i a ≤ a then some 0 else some (i + 1)

theorem argmax_none {scores : List K} : argmax scores = none ↔ scores = [] := by
  cases scores with
  | nil => exact iff_of_true rfl rfl
  | cons score scores =>
    unfold argmax
    refine iff_of_false ?_ (List.cons_ne_nil _ _)
    split
    · exact Option.some_ne_none _
    · split <;> exact Option.some_ne_none _

theorem argmax_first {scores : List K} (first : argmax scores = some arm) :
    ∃ best, scores[arm]? = some best ∧ ∀ i score, scores[i]? = some score →
      score ≤ best ∧ (score = best → arm ≤ i) := by
  induction scores generalizing arm with
  | nil => cases first
  | cons head scores ih =>
    unfold argmax at first
    split at first
    · rename_i none
      obtain rfl := argmax_none.mp none
      obtain rfl := Option.some.inj first
      refine ⟨head, rfl, fun i score at_i => ?_⟩
      cases i with
      | zero => exact ⟨(Option.some.inj at_i).ge, fun _ => le_rfl⟩
      | succ i => cases at_i
    · rename_i place found
      obtain ⟨best, at_place, least⟩ := ih found
      have value : scores.getD place head = best := by
        rw [List.getD_eq_getElem?_getD, at_place]
        rfl
      rw [value] at first
      split at first
      · rename_i leads
        obtain rfl := Option.some.inj first
        refine ⟨head, rfl, fun i score at_i => ?_⟩
        cases i with
        | zero => exact ⟨(Option.some.inj at_i).ge, fun _ => le_rfl⟩
        | succ i => exact ⟨((least i score at_i).1).trans leads, fun _ => Nat.zero_le _⟩
      · rename_i follows
        obtain rfl := Option.some.inj first
        refine ⟨best, at_place, fun i score at_i => ?_⟩
        cases i with
        | zero =>
          obtain rfl := Option.some.inj at_i
          exact ⟨(not_le.mp follows).le, fun same => absurd same.ge follows⟩
        | succ i =>
          exact ⟨(least i score at_i).1,
            fun same => Nat.succ_le_succ ((least i score at_i).2 same)⟩

end Argmax

section Given

variable {rounds : List (ℕ × K)} {armCount arm other : ℕ} {reward : K}

def given (rounds : List (ℕ × K)) (arm : ℕ) : List K :=
  (rounds.filter fun round => round.1 = arm).map Prod.snd

theorem given_snoc : given (rounds ++ [(arm, reward)]) other =
    if other = arm then given rounds arm ++ [reward] else given rounds other := by
  unfold given
  rw [List.filter_append, List.map_append]
  by_cases same : other = arm
  · subst same
    simp
  · rw [if_neg same]
    simp [Ne.symm same]

variable [Field K]

def mean (rewards : List K) : K := rewards.sum / rewards.length

theorem sum_given (inside : ∀ round ∈ rounds, round.1 < armCount) :
    ((List.range armCount).map fun i => ((given rounds i).length : K)).sum = rounds.length := by
  induction rounds using List.reverseRecOn with
  | nil => simp [given]
  | append_singleton rounds round ih =>
    obtain ⟨arm, reward⟩ := round
    have here : arm < armCount := inside (arm, reward) (by simp)
    have rest := ih fun round listed => inside round (List.mem_append_left _ listed)
    have spread : ((List.range armCount).map fun i =>
        ((given (rounds ++ [(arm, reward)]) i).length : K)) =
        (List.range armCount).map fun i =>
          ((given rounds i).length : K) + if i = arm then 1 else 0 := by
      refine List.map_congr_left fun i _ => ?_
      rw [given_snoc]
      split
      · rename_i same
        rw [same, List.length_append]
        simp
      · rw [add_zero]
    rw [spread, List.sum_map_add, rest, List.length_append]
    have once : ((List.range armCount).map fun i => if i = arm then (1 : K) else 0).sum = 1 := by
      rw [List.sum_map_ite_eq, List.count_eq_one_of_mem List.nodup_range (List.mem_range.mpr here)]
      simp
    rw [once, List.length_singleton, Nat.cast_add, Nat.cast_one]

end Given

variable [Field K] [LinearOrder K]

section Core

variable (log sqrt : K → K)

def computeUcbScoresCore (estimatedReward : List K) (pullCount : List ℤ)
    (explorationScale : K) : List K :=
  let pulls : List K := pullCount.map fun n : ℤ => (n : K)
  let totalPulls := max 1 pulls.sum
  List.zipWith (fun est pulled =>
    if pulled ≤ 0 then 10 ^ 9
    else est + explorationScale * sqrt (log (totalPulls + 1) / max 1 pulled)) estimatedReward pulls

def selectUcbArmCore (estimatedReward : List K) (pullCount : List ℤ) (explorationScale : K) :
    Except String ℕ :=
  match argmax (computeUcbScoresCore log sqrt estimatedReward pullCount explorationScale) with
  | none => .error "attempt to get argmax of an empty sequence"
  | some arm => .ok arm

def updateOdUcbArraysCore (pullCount : List ℤ) (estimatedReward : List K) (armIndex : ℕ)
    (reward : K) : Except String (List ℤ × List K × List K) :=
  match pullCount[armIndex]?, estimatedReward[armIndex]? with
  | some pulled, some prevMean =>
    let nextPulls := pullCount.set armIndex (int32 (pulled + 1))
    let n : K := (int32 (pulled + 1) : K)
    let nextRewards := estimatedReward.set armIndex (prevMean + (reward - prevMean) / max 1 n)
    let scores := computeUcbScoresCore log sqrt nextRewards nextPulls 1
    let nextBonus := List.zipWith (fun pulled bonus => if pulled ≤ 0 then 10 ^ 9 else bonus)
      nextPulls (List.zipWith (· - ·) scores nextRewards)
    .ok (nextPulls, nextRewards, nextBonus)
  | _, _ => .error "index is out of bounds"

end Core

section Host

variable (log sqrt : K → K)

/-- `_compute_ucb_scores_host` -/
def computeUcbScoresHost (estimatedReward : List K) (pullCount : List ℤ)
    (explorationScale : K) : List K :=
  let pulls : List K := pullCount.map fun n : ℤ => (n : K)
  let totalPulls := max 1 pulls.sum
  let safePulls := pulls.map fun pulled => max 1 pulled
  let bonus := safePulls.map fun safe => explorationScale * sqrt (log (totalPulls + 1) / safe)
  let scores := List.zipWith (· + ·) estimatedReward bonus
  List.zipWith (fun score pulled => if pulled ≤ 0 then 10 ^ 9 else score) scores pulls

def selectUcbArm (state : ODBanditState K) (explorationScale : K) : Option ℕ :=
  if state.armCount = 0 then none
  else argmax (computeUcbScoresHost log sqrt state.estimatedReward state.pullCount explorationScale)

theorem int32_range (n : ℤ) (nonneg : 0 ≤ int32 n) : 0 ≤ int32 n ∧ int32 n < 2 ^ 31 :=
  ⟨nonneg, Int.bmod_lt (by decide)⟩

theorem length_scores_host (estimatedReward : List K) (pullCount : List ℤ) (scale : K) :
    (computeUcbScoresHost log sqrt estimatedReward pullCount scale).length =
      min estimatedReward.length pullCount.length := by
  simp [computeUcbScoresHost]

def updateOdUcbState (state : ODBanditState K) (armIndex : Option ℤ) (reward : K)
    (currentTick : Option ℤ) : Except String (ODBanditState K) :=
  let idx := armIndex.getD (-1)
  if inside : 0 ≤ idx ∧ idx < state.armCount then
    have at_pulls : idx.toNat < state.pullCount.length := by rw [state.pulls_length]; omega
    have at_rewards : idx.toNat < state.estimatedReward.length := by
      rw [state.rewards_length]; omega
    let pulled := int32 (state.pullCount[idx.toNat] + 1)
    let nextPulls := state.pullCount.set idx.toNat pulled
    let prevMean := state.estimatedReward[idx.toNat]
    let nextRewards := state.estimatedReward.set idx.toNat
      (prevMean + (reward - prevMean) / max 1 (pulled : K))
    let scores := computeUcbScoresHost log sqrt nextRewards nextPulls 1
    let nextBonuses := List.zipWith (fun pulled bonus => if pulled ≤ 0 then 10 ^ 9 else bonus)
      nextPulls (List.zipWith (· - ·) scores nextRewards)
    if nonneg : 0 ≤ pulled then
      .ok { armCount := state.armCount, pullCount := nextPulls, estimatedReward := nextRewards,
            explorationBonus := nextBonuses
            lastUpdateTick := currentTick.getD state.lastUpdateTick
            pulls_length := by rw [List.length_set, state.pulls_length]
            pulls_range := fun n listed => (List.mem_or_eq_of_mem_set listed).elim
              (state.pulls_range n) fun same => same ▸ int32_range _ nonneg
            rewards_length := by rw [List.length_set, state.rewards_length]
            bonus_length := by
              simp [nextBonuses, scores, nextPulls, nextRewards, length_scores_host,
                state.pulls_length, state.rewards_length] }
    else .error "pull_count values must be >= 0"
  else .error "arm_index out of range"

end Host

section Runs

variable (log sqrt : K → K)

/-- A run: its state and the rounds that led to it, an arm and its reward each. -/
structure Played (K : Type) where
  state : ODBanditState K
  rounds : List (ℕ × K)
  deriving DecidableEq

/-- One round: an arm is selected and updated with its reward. -/
def playRound (scale : K) (played : Played K) (reward : K) : Except String (Played K) :=
  match selectUcbArm log sqrt played.state scale with
  | none => .error "arm_index out of range"
  | some arm => do
    let next ← updateOdUcbState log sqrt played.state (some arm) reward none
    pure ⟨next, played.rounds ++ [(arm, reward)]⟩

def play (armCount : ℕ) (scale : K) (rewards : List K) : Except String (Played K) :=
  rewards.foldlM (playRound log sqrt scale) ⟨createOdUcbState K armCount, []⟩

/-- The same run over the arrays alone. -/
structure PlayedCore (K : Type) where
  pullCount : List ℤ
  estimatedReward : List K
  explorationBonus : List K
  rounds : List (ℕ × K)

def playRoundCore (scale : K) (played : PlayedCore K) (reward : K) :
    Except String (PlayedCore K) := do
  let arm ← selectUcbArmCore log sqrt played.estimatedReward played.pullCount scale
  let (pulls, rewards, bonus) ←
    updateOdUcbArraysCore log sqrt played.pullCount played.estimatedReward arm reward
  pure ⟨pulls, rewards, bonus, played.rounds ++ [(arm, reward)]⟩

def playCore (armCount : ℕ) (scale : K) (rewards : List K) : Except String (PlayedCore K) :=
  rewards.foldlM (playRoundCore log sqrt scale)
    ⟨List.replicate armCount 0, List.replicate armCount 0, List.replicate armCount 0, []⟩

end Runs

section Property

/-- What the documentation says about a run. -/
structure Documented (log sqrt : K → K) (armCount : ℕ) (scale : K) (rewards : List K)
    (played : Played K) : Prop where
  counted : played.state.pullCount =
    (List.range armCount).map fun arm => ((given played.rounds arm).length : ℤ)
  averaged : played.state.estimatedReward =
    (List.range armCount).map fun arm => mean (given played.rounds arm)
  explored : ∀ before arm reward after, played.rounds = before ++ (arm, reward) :: after →
    given before arm ≠ [] → ∀ other < armCount, given before other ≠ []
  core : playCore log sqrt armCount scale rewards = .ok ⟨played.state.pullCount,
    played.state.estimatedReward, played.state.explorationBonus, played.rounds⟩

def upperBound (log sqrt : K → K) (scale : K) (rounds : List (ℕ × K)) (arm : ℕ) : K :=
  mean (given rounds arm) +
    scale * sqrt (log (rounds.length + 1) / (given rounds arm).length)

/-- An arm that was pulled has a score that is preferred to those of the arms that were not. -/
def Outscored (log sqrt : K → K) (armCount : ℕ) (scale : K) (rounds : List (ℕ × K)) : Prop :=
  (∃ fresh < armCount, given rounds fresh = []) ∧
    ∃ arm < armCount, given rounds arm ≠ [] ∧
      (10 ^ 9 < upperBound log sqrt scale rounds arm ∨
        10 ^ 9 = upperBound log sqrt scale rounds arm ∧
          ∀ fresh < armCount, given rounds fresh = [] → arm < fresh)

end Property

section Rounds

variable {log sqrt : K → K} {armCount arm other : ℕ} {scale reward : K} {rewards : List K}
  {rounds : List (ℕ × K)}

theorem scores_host_core (estimatedReward : List K) (pullCount : List ℤ) (scale : K) :
    computeUcbScoresHost log sqrt estimatedReward pullCount scale =
      computeUcbScoresCore log sqrt estimatedReward pullCount scale := by
  unfold computeUcbScoresHost computeUcbScoresCore
  dsimp only
  generalize max 1 (pullCount.map fun n : ℤ => (n : K)).sum = totalPulls
  generalize (pullCount.map fun n : ℤ => (n : K)) = pulls
  induction estimatedReward generalizing pulls with
  | nil => rfl
  | cons est estimatedReward ih =>
    cases pulls with
    | nil => rfl
    | cons pulled pulls =>
      simp only [List.map_cons, List.zipWith_cons_cons]
      rw [← ih pulls, List.map_map]

theorem mean_snoc [IsStrictOrderedRing K] (rewards : List K) (reward : K) :
    mean (rewards ++ [reward]) =
      mean rewards + (reward - mean rewards) / max 1 ((rewards.length : K) + 1) := by
  have count : (0 : K) ≤ rewards.length := Nat.cast_nonneg _
  have more : (rewards.length : K) + 1 ≠ 0 := by positivity
  rw [max_eq_right (by linarith)]
  unfold mean
  rw [List.sum_append, List.length_append, List.sum_singleton, List.length_singleton]
  push_cast
  by_cases none : (rewards.length : K) = 0
  · have empty : rewards = [] := List.length_eq_zero_iff.mp (Nat.cast_eq_zero.mp none)
    rw [empty]
    simp
  · field_simp
    ring

theorem set_range {α : Type} (f : ℕ → α) (value : α) :
    ((List.range armCount).map f).set arm value =
      (List.range armCount).map fun i => if i = arm then value else f i := by
  refine List.ext_getElem (by simp) fun i _ _ => ?_
  rw [List.getElem_set]
  simp only [List.getElem_map, List.getElem_range, eq_comm (a := arm)]

theorem int32_next {n : ℤ} (range : 0 ≤ n ∧ n < 2 ^ 31) (nonneg : 0 ≤ int32 (n + 1)) :
    int32 (n + 1) = n + 1 := by
  unfold int32 at nonneg ⊢
  rw [Int.bmod_def] at nonneg ⊢
  split at nonneg <;> omega

theorem update_ok {state next : ODBanditState K} {tick : Option ℤ}
    (updated : updateOdUcbState log sqrt state (some (arm : ℤ)) reward tick = .ok next) :
    ∃ pulled prevMean, state.pullCount[arm]? = some pulled ∧
      state.estimatedReward[arm]? = some prevMean ∧ next.armCount = state.armCount ∧
      next.pullCount = state.pullCount.set arm (pulled + 1) ∧
      next.estimatedReward = state.estimatedReward.set arm
        (prevMean + (reward - prevMean) / max 1 ((pulled + 1 : ℤ) : K)) ∧
      updateOdUcbArraysCore log sqrt state.pullCount state.estimatedReward arm reward =
        .ok (next.pullCount, next.estimatedReward, next.explorationBonus) := by
  unfold updateOdUcbState at updated
  dsimp only at updated
  split at updated
  swap
  · cases updated
  rename_i inside
  split at updated
  swap
  · cases updated
  rename_i nonneg
  simp only [Option.getD_some, Int.toNat_natCast] at inside nonneg updated
  have at_pulls : arm < state.pullCount.length := by rw [state.pulls_length]; omega
  have at_rewards : arm < state.estimatedReward.length := by rw [state.rewards_length]; omega
  have exact_next := int32_next (state.pulls_range _ (List.getElem_mem at_pulls)) nonneg
  obtain rfl := Except.ok.inj updated
  refine ⟨state.pullCount[arm], state.estimatedReward[arm], List.getElem?_eq_getElem at_pulls,
    List.getElem?_eq_getElem at_rewards, rfl, ?_, ?_, ?_⟩
  · dsimp only
    rw [exact_next]
  · dsimp only
    rw [exact_next]
  · unfold updateOdUcbArraysCore
    rw [List.getElem?_eq_getElem at_pulls, List.getElem?_eq_getElem at_rewards]
    dsimp only
    rw [scores_host_core]

def scoreAfter (log sqrt : K → K) (scale : K) (rounds : List (ℕ × K)) (arm : ℕ) : K :=
  if given rounds arm = [] then 10 ^ 9 else upperBound log sqrt scale rounds arm

/-- An arm of the largest score, the first of them. -/
def Leads (log sqrt : K → K) (armCount : ℕ) (scale : K) (rounds : List (ℕ × K)) (arm : ℕ) : Prop :=
  arm < armCount ∧ ∀ other < armCount,
    scoreAfter log sqrt scale rounds other ≤ scoreAfter log sqrt scale rounds arm ∧
    (scoreAfter log sqrt scale rounds other = scoreAfter log sqrt scale rounds arm → arm ≤ other)

theorem Leads.explores (leads : Leads log sqrt armCount scale rounds arm) :
    (given rounds arm ≠ [] → ∀ other < armCount, given rounds other ≠ []) ↔
      ¬Outscored log sqrt armCount scale rounds := by
  obtain ⟨inside, first⟩ := leads
  have fresh_score : ∀ {fresh}, given rounds fresh = [] →
      scoreAfter log sqrt scale rounds fresh = 10 ^ 9 := fun none => if_pos none
  have pulled_score : ∀ {pulled}, given rounds pulled ≠ [] →
      scoreAfter log sqrt scale rounds pulled = upperBound log sqrt scale rounds pulled :=
    fun some => if_neg some
  constructor
  · rintro explores ⟨⟨fresh, fresh_inside, none⟩, pulled, pulled_inside, some, preferred⟩
    have arm_fresh : given rounds arm = [] := by
      by_contra again
      exact explores again fresh fresh_inside none
    obtain ⟨most, earliest⟩ := first pulled pulled_inside
    rw [fresh_score arm_fresh, pulled_score some] at most earliest
    rcases preferred with more | ⟨same, before⟩
    · exact absurd most (not_le.mpr more)
    · exact absurd (earliest same.symm) (not_le.mpr (before arm inside arm_fresh))
  · intro kept some fresh fresh_inside none
    refine kept ⟨⟨fresh, fresh_inside, none⟩, arm, inside, some, ?_⟩
    have most := (first fresh fresh_inside).1
    rw [fresh_score none, pulled_score some] at most
    refine most.lt_or_eq.imp id fun same => ⟨same, fun other other_inside other_none => ?_⟩
    have earliest := (first other other_inside).2
    rw [fresh_score other_none, pulled_score some] at earliest
    refine lt_of_le_of_ne (earliest same) fun equal => some ?_
    rw [equal, other_none]

end Rounds

section Invariant

variable {log sqrt : K → K} {armCount arm : ℕ} {scale reward : K}
  {rewards : List K} {played next : Played K}

/-- What every run keeps. -/
structure Follows (log sqrt : K → K) (armCount : ℕ) (scale : K) (rewards : List K)
    (played : Played K) : Prop where
  arms : played.state.armCount = armCount
  inside : ∀ round ∈ played.rounds, round.1 < armCount
  counted : played.state.pullCount =
    (List.range armCount).map fun arm => ((given played.rounds arm).length : ℤ)
  averaged : played.state.estimatedReward =
    (List.range armCount).map fun arm => mean (given played.rounds arm)
  core : playCore log sqrt armCount scale rewards = .ok ⟨played.state.pullCount,
    played.state.estimatedReward, played.state.explorationBonus, played.rounds⟩

theorem follows_start : Follows log sqrt armCount scale []
    ⟨createOdUcbState K armCount, []⟩ where
  arms := rfl
  inside := fun _ none => absurd none List.not_mem_nil
  counted := by simp [createOdUcbState, given]
  averaged := by simp [createOdUcbState, given, mean]
  core := rfl

variable [IsStrictOrderedRing K]

theorem Follows.scores (follows : Follows log sqrt armCount scale rewards played) :
    computeUcbScoresCore log sqrt played.state.estimatedReward played.state.pullCount scale =
      (List.range armCount).map (scoreAfter log sqrt scale played.rounds) := by
  unfold computeUcbScoresCore
  rw [follows.counted, follows.averaged, List.map_map]
  dsimp only
  rw [List.zipWith_map, List.zipWith_self]
  refine List.map_congr_left fun arm _ => ?_
  have total : ((List.range armCount).map
      ((fun n : ℤ => (n : K)) ∘ fun arm => ((given played.rounds arm).length : ℤ))).sum =
      played.rounds.length := by
    rw [← sum_given follows.inside]
    simp [Function.comp_def]
  rw [total]
  unfold scoreAfter upperBound
  simp only [Function.comp_apply, Int.cast_natCast]
  by_cases none : given played.rounds arm = []
  · rw [if_pos none, none, List.length_nil, Nat.cast_zero, if_pos le_rfl]
  · have pulled : (1 : K) ≤ (given played.rounds arm).length :=
      Nat.one_le_cast.mpr (List.length_pos_iff.mpr none)
    have played_once : (1 : K) ≤ played.rounds.length := by
      refine pulled.trans (Nat.cast_le.mpr ?_)
      unfold given
      rw [List.length_map]
      exact List.length_filter_le _ _
    rw [if_neg none, if_neg (not_le.mpr (zero_lt_one.trans_le pulled)), max_eq_right pulled,
      max_eq_right played_once]

theorem Follows.leads (follows : Follows log sqrt armCount scale rewards played)
    (selected : selectUcbArm log sqrt played.state scale = some arm) :
    Leads log sqrt armCount scale played.rounds arm ∧
      selectUcbArmCore log sqrt played.state.estimatedReward played.state.pullCount scale =
        .ok arm := by
  unfold selectUcbArm at selected
  split at selected
  · cases selected
  rw [scores_host_core] at selected
  refine ⟨?_, by unfold selectUcbArmCore; rw [selected]⟩
  rw [follows.scores] at selected
  obtain ⟨best, at_arm, first⟩ := argmax_first selected
  have scored : ∀ other < armCount, ((List.range armCount).map
      (scoreAfter log sqrt scale played.rounds))[other]? =
        some (scoreAfter log sqrt scale played.rounds other) := by
    intro other inside
    rw [List.getElem?_map, List.getElem?_range inside]
    rfl
  have inside : arm < armCount := by
    simpa using (List.getElem?_eq_some_iff.mp at_arm).1
  obtain rfl := Option.some.inj ((scored arm inside).symm.trans at_arm)
  exact ⟨inside, fun other other_inside => first other _ (scored other other_inside)⟩

theorem Follows.round (follows : Follows log sqrt armCount scale rewards played)
    (round : playRound log sqrt scale played reward = .ok next) :
    ∃ arm, Leads log sqrt armCount scale played.rounds arm ∧
      next.rounds = played.rounds ++ [(arm, reward)] ∧
      Follows log sqrt armCount scale (rewards ++ [reward]) next := by
  unfold playRound at round
  split at round
  · cases round
  rename_i arm selected
  obtain ⟨leads, selected_core⟩ := follows.leads selected
  obtain ⟨state, updated, done⟩ := bind_ok.mp round
  obtain rfl := pure_ok.mp done
  obtain ⟨pulled, prevMean, at_pulls, at_rewards, arms, pulls, averages, core⟩ := update_ok updated
  have here : ∀ {α : Type} (f : ℕ → α), ((List.range armCount).map f)[arm]? = some (f arm) := by
    intro α f
    rw [List.getElem?_map, List.getElem?_range leads.1]
    rfl
  rw [follows.counted, here] at at_pulls
  rw [follows.averaged, here] at at_rewards
  obtain rfl := Option.some.inj at_pulls
  obtain rfl := Option.some.inj at_rewards
  refine ⟨arm, leads, rfl, arms.trans follows.arms, ?_, ?_, ?_, ?_⟩
  · intro entry listed
    rcases List.mem_append.mp listed with earlier | last
    · exact follows.inside entry earlier
    · obtain rfl := List.mem_singleton.mp last
      exact leads.1
  · dsimp only
    rw [pulls, follows.counted, set_range]
    refine List.map_congr_left fun other _ => ?_
    rw [given_snoc]
    split
    · rw [List.length_append, List.length_singleton, Nat.cast_add, Nat.cast_one]
    · rfl
  · dsimp only
    rw [averages, follows.averaged, set_range]
    refine List.map_congr_left fun other _ => ?_
    rw [given_snoc]
    split
    · rw [mean_snoc]
      push_cast
      rfl
    · rfl
  · unfold playCore
    refine fold_append.mpr ⟨_, follows.core, fold_cons.mpr ⟨_, ?_, fold_nil.mpr rfl⟩⟩
    unfold playRoundCore
    dsimp only
    rw [selected_core, ok_bind, core]
    rfl

theorem play_follows (run : play log sqrt armCount scale rewards = .ok played) :
    Follows log sqrt armCount scale rewards played ∧ ∀ before arm reward after,
      played.rounds = before ++ (arm, reward) :: after →
        Leads log sqrt armCount scale before arm := by
  induction rewards using List.reverseRecOn generalizing played with
  | nil =>
    obtain rfl := fold_nil.mp run
    exact ⟨follows_start, fun before arm reward after split => by simp at split⟩
  | append_singleton rewards reward ih =>
    obtain ⟨earlier, earlier_run, last⟩ := fold_append.mp run
    obtain ⟨later, round, done⟩ := fold_cons.mp last
    obtain rfl := fold_nil.mp done
    obtain ⟨follows, led⟩ := ih earlier_run
    obtain ⟨arm, leads, rounds, follows'⟩ := follows.round round
    refine ⟨follows', fun before other given after split => ?_⟩
    rw [rounds] at split
    rcases List.eq_nil_or_concat after with rfl | ⟨rest, last, rfl⟩
    · obtain ⟨rfl, same⟩ := List.append_inj' split rfl
      obtain ⟨rfl, rfl⟩ : arm = other ∧ reward = given := by simpa using same
      exact leads
    · rw [List.concat_eq_append, ← List.cons_append, ← List.append_assoc] at split
      exact led before other given rest (List.append_inj' split rfl).1

/-- A run is as documented exactly when the preference for unpulled arms is never outscored. -/
theorem bandit_documented_iff (run : play log sqrt armCount scale rewards = .ok played) :
    Documented log sqrt armCount scale rewards played ↔
      ∀ before round after, played.rounds = before ++ round :: after →
        ¬Outscored log sqrt armCount scale before := by
  obtain ⟨follows, led⟩ := play_follows run
  constructor
  · rintro documented before ⟨arm, reward⟩ after split
    exact (led before arm reward after split).explores.mp
      (documented.explored before arm reward after split)
  · intro kept
    refine ⟨follows.counted, follows.averaged, fun before arm reward after split => ?_,
      follows.core⟩
    exact (led before arm reward after split).explores.mpr (kept before _ after split)

end Invariant

section Runs

/-- The logarithm and the root are any nonnegative functions here. -/
def size (x : ℚ) : ℚ := |x|

theorem two_arms_documented_iff :
    ∃ played, play size size 2 1 [2, 3, 4] = .ok played ∧
      (Documented size size 2 1 [2, 3, 4] played ↔
        ∀ before round after, played.rounds = before ++ round :: after →
          ¬Outscored size size 2 1 before) := by
  obtain ⟨played, run⟩ :=
    ok_of_is_ok (show (play size size 2 1 [2, 3, 4]).isOk = true by decide +kernel)
  exact ⟨played, run, bandit_documented_iff run⟩

/-- A reward above the preference for unpulled arms is followed before the other arm is pulled. -/
theorem large_reward_outscores :
    ∃ played, play size size 2 1 [2 * 10 ^ 9, 3] = .ok played ∧
      played.rounds = [(0, 2 * 10 ^ 9), (0, 3)] ∧
      ¬Documented size size 2 1 [2 * 10 ^ 9, 3] played := by
  have rounds : (play size size 2 1 [2 * 10 ^ 9, 3]).map (fun played => played.rounds) =
      .ok [(0, 2 * 10 ^ 9), (0, 3)] := by decide +kernel
  obtain ⟨played, run, same⟩ := map_ok.mp rounds
  refine ⟨played, run, same, fun documented => ?_⟩
  have pulled : given [((0 : ℕ), (2 * 10 ^ 9 : ℚ))] 0 ≠ [] := List.cons_ne_nil _ _
  exact documented.explored [(0, 2 * 10 ^ 9)] 0 3 [] same pulled 1 (by decide) rfl

end Runs

end Metroflow.Learning
