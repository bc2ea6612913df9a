import Metroflow.Flow.Events
import Metroflow.Lib.Dict
import Metroflow.Lib.Keyed

namespace Metroflow.Flow

open Metroflow.Lib Metroflow.City

abbrev BridgeGroups := Dict ℤ (List ℤ)

def crossingGroups (crossings : List BridgeCrossing) : BridgeGroups :=
  crossings.foldl (fun out crossing => out.set crossing.bridgeGroupId crossing.linkIds) []

/-- The groups as the links carry them, where no crossing is recorded. -/
def linkGroups (links : List RoadLink) : BridgeGroups :=
  links.foldl (fun groups link =>
    match link.bridgeGroupId with
    | none => groups
    | some groupId => groups.appendAt groupId link.linkId) []

section Network

variable {p n m : ℕ} (net : RoadNetworkCSR p n m)

def bridgeGroupToLinkIds : BridgeGroups :=
  let out := crossingGroups net.bridgeCrossings
  if out ≠ [] then out else linkGroups ((List.finRange n).map net.links)

def resolveTargetsIn (groups : BridgeGroups) (scope : TargetScope) : List ℤ :=
  match scope.linkIds with
  | some linkIds => linkIds
  | none =>
    match scope.bridgeGroupId with
    | some groupId => (groups.get groupId).getD []
    | none => []

/-- Bookkeeping of the planning loop. -/
structure EffectPlanning (n : ℕ) where
  perIndexMinMultiplier : Dict (Fin n) ℚ := []
  affectedLinkIds : Finset ℤ := ∅
  appliedEventIds : List ℕ := []
  ignoredEventIds : List ℕ := []

def EffectPlanning.ignore (plan : EffectPlanning n) (event : TrafficEvent) : EffectPlanning n :=
  { plan with ignoredEventIds := plan.ignoredEventIds ++ [event.eventId] }

def planTarget (event : TrafficEvent) (factor : ℚ) (acc : EffectPlanning n × Bool) (linkId : ℤ) :
    EffectPlanning n × Bool :=
  match net.linkIdToIndex linkId with
  | none => acc
  | some idx =>
    if event.effectModel = .closure ∧ (net.links idx).isBlockable = false then acc
    else
      let old := (acc.1.perIndexMinMultiplier.get idx).getD 1
      ({ acc.1 with
          perIndexMinMultiplier := acc.1.perIndexMinMultiplier.set idx (min old factor)
          affectedLinkIds := insert linkId acc.1.affectedLinkIds }, true)

def planEvent (groups : BridgeGroups) (plan : EffectPlanning n) (event : TrafficEvent) :
    EffectPlanning n :=
  if event.status ≠ .active then plan.ignore event
  else
    let targetLinkIds := resolveTargetsIn groups event.targetScope
    if targetLinkIds = [] then plan.ignore event
    else
      match eventCapacityMultiplier event with
      | none => plan.ignore event
      | some factor =>
        let (plan, resolvedAny) := targetLinkIds.foldl (planTarget net event factor) (plan, false)
        if resolvedAny then { plan with appliedEventIds := plan.appliedEventIds ++ [event.eventId] }
        else plan.ignore event

structure LinkEventEffectPlan (n : ℕ) where
  updates : List (Fin n × ℚ)
  appliedEventIds : List ℕ
  ignoredEventIds : List ℕ
  affectedLinkIds : List ℤ

def planEventEffectApplications (groups : BridgeGroups) (activeEvents : List TrafficEvent) :
    LinkEventEffectPlan n :=
  let plan := activeEvents.foldl (planEvent net groups) {}
  { updates := sortOn Prod.fst plan.perIndexMinMultiplier
    appliedEventIds := plan.appliedEventIds
    ignoredEventIds := plan.ignoredEventIds
    affectedLinkIds := plan.affectedLinkIds.sort }

def applyEventMultiplierUpdatesCore (base : Fin n → ℚ) (updates : List (Fin n × ℚ)) : Fin n → ℚ :=
  updates.foldl (fun out update =>
    Function.update out update.1 (min (base update.1) update.2)) base

/-- What the call returns: the multipliers and the three lists of ids. -/
structure EventEffects (n : ℕ) where
  multiplier : Fin n → ℚ
  appliedEventIds : List ℕ := []
  ignoredEventIds : List ℕ := []
  affectedLinkIds : List ℤ := []

def eventEffectsWith (groups : BridgeGroups) (activeEvents : List TrafficEvent) : EventEffects n :=
  if n = 0 then { multiplier := fun _ => 1 }
  else
    let plan := planEventEffectApplications net groups activeEvents
    { multiplier := applyEventMultiplierUpdatesCore (fun _ => 1) plan.updates
      appliedEventIds := plan.appliedEventIds
      ignoredEventIds := plan.ignoredEventIds
      affectedLinkIds := plan.affectedLinkIds }

/-- The effects under the network's own bridge groups. -/
def computeEventEffects (activeEvents : List TrafficEvent) : EventEffects n :=
  eventEffectsWith net (bridgeGroupToLinkIds net) activeEvents

/-- Of the targeted links those that exist and that the event can act on. -/
def targetedLinks (groups : BridgeGroups) (event : TrafficEvent) : List (Fin n) :=
  (resolveTargetsIn groups event.targetScope).filterMap fun linkId =>
    (net.linkIdToIndex linkId).filter fun l =>
      decide (event.effectModel ≠ .closure) || (net.links l).isBlockable

/-- An event acts on some link. -/
def applies (groups : BridgeGroups) (event : TrafficEvent) : Bool :=
  event.status = .active && (eventCapacityMultiplier event).isSome &&
    !(targetedLinks net groups event).isEmpty

/-- An event acts on a link: it is active with a known effect, names the link and may close it. -/
def ActsOn (groups : BridgeGroups) (event : TrafficEvent) (factor : ℚ) (l : Fin n) : Prop :=
  event.status = .active ∧ eventCapacityMultiplier event = some factor ∧
    l ∈ targetedLinks net groups event

variable {net} {groups : BridgeGroups} {event : TrafficEvent} {factor : ℚ} {l : Fin n}

/-- Lowers the multiplier kept for a link. -/
def lower (factor : ℚ) (d : Dict (Fin n) ℚ) (l : Fin n) : Dict (Fin n) ℚ :=
  d.set l (min ((d.get l).getD 1) factor)

theorem plan_targets (event : TrafficEvent) (factor : ℚ) (targets : List ℤ)
    (plan : EffectPlanning n) (resolved : Bool) :
    targets.foldl (planTarget net event factor) (plan, resolved) =
      let touched := targets.filterMap fun linkId => (net.linkIdToIndex linkId).filter fun l =>
        decide (event.effectModel ≠ .closure) || (net.links l).isBlockable
      ({ plan with
          perIndexMinMultiplier := touched.foldl (lower factor) plan.perIndexMinMultiplier
          affectedLinkIds := (touched.map fun l => (net.links l).linkId).foldl
            (fun ids linkId => insert linkId ids) plan.affectedLinkIds },
        resolved || !touched.isEmpty) := by
  induction targets generalizing plan resolved with
  | nil => simp
  | cons linkId targets ih =>
    rw [List.foldl_cons, List.filterMap_cons]
    cases known : net.linkIdToIndex linkId with
    | none =>
      have skipped : planTarget net event factor (plan, resolved) linkId = (plan, resolved) := by
        rw [planTarget, known]
      rw [skipped, ih]
      rfl
    | some l =>
      by_cases refused : event.effectModel = .closure ∧ (net.links l).isBlockable = false
      · have skipped : planTarget net event factor (plan, resolved) linkId = (plan, resolved) := by
          rw [planTarget, known]
          exact if_pos refused
        rw [skipped, ih, Option.filter_some, if_neg (by simp [refused.1, refused.2])]
      · have accepted : (decide (event.effectModel ≠ .closure) || (net.links l).isBlockable) =
            true := by
          by_cases closure : event.effectModel = .closure
          · simpa [closure] using refused
          · simp [closure]
        have taken : planTarget net event factor (plan, resolved) linkId =
            ({ plan with
                perIndexMinMultiplier := lower factor plan.perIndexMinMultiplier l
                affectedLinkIds := insert linkId plan.affectedLinkIds }, true) := by
          rw [planTarget, known]
          exact if_neg refused
        have own : (net.links l).linkId = linkId := net.link_id_to_index_some.mp known
        rw [taken, ih, Option.filter_some, if_pos accepted]
        simp [own]

theorem lower_all_get (touched : List (Fin n)) (d : Dict (Fin n) ℚ) :
    ((touched.foldl (lower factor) d).get l).getD 1 =
      if l ∈ touched then min ((d.get l).getD 1) factor else (d.get l).getD 1 := by
  induction touched generalizing d with
  | nil => simp
  | cons first touched ih =>
    rw [List.foldl_cons, ih, lower, Dict.get_set]
    by_cases here : l = first
    · simp [here]
    · simp [here]

theorem lower_all_nodup {d : Dict (Fin n) ℚ} (distinct : (d.map Prod.fst).Nodup)
    (touched : List (Fin n)) : ((touched.foldl (lower factor) d).map Prod.fst).Nodup := by
  induction touched generalizing d with
  | nil => exact distinct
  | cons first touched ih => exact ih (Dict.nodup_keys_set distinct)

theorem applies_iff :
    applies net groups event = true ↔ ∃ factor l, ActsOn net groups event factor l := by
  unfold applies ActsOn
  rw [Bool.and_eq_true, Bool.and_eq_true, decide_eq_true_iff, Option.isSome_iff_exists,
    Bool.not_eq_true', List.isEmpty_eq_false_iff_exists_mem]
  constructor
  · rintro ⟨⟨active, factor, known⟩, l, touched⟩
    exact ⟨factor, l, active, known, touched⟩
  · rintro ⟨factor, l, active, known, touched⟩
    exact ⟨⟨active, factor, known⟩, l, touched⟩

theorem plan_event_ignored (plan : EffectPlanning n) (idle : applies net groups event = false) :
    planEvent net groups plan event = plan.ignore event := by
  unfold planEvent
  split
  · rfl
  · rename_i active
    simp only
    split
    · rfl
    · split
      · rfl
      · rename_i factor known
        have untouched : targetedLinks net groups event = [] := by
          by_contra touched
          obtain ⟨l, touched⟩ := List.exists_mem_of_ne_nil _ touched
          rw [applies_iff.mpr ⟨factor, l, not_not.mp active, known, touched⟩] at idle
          cases idle
        unfold targetedLinks at untouched
        rw [plan_targets]
        simp only [untouched]
        rfl

theorem plan_event_applied (plan : EffectPlanning n) (acts : applies net groups event = true)
    (known : eventCapacityMultiplier event = some factor) :
    planEvent net groups plan event =
      { plan with
        perIndexMinMultiplier :=
          (targetedLinks net groups event).foldl (lower factor) plan.perIndexMinMultiplier
        affectedLinkIds :=
          ((targetedLinks net groups event).map fun l => (net.links l).linkId).foldl
            (fun ids linkId => insert linkId ids) plan.affectedLinkIds
        appliedEventIds := plan.appliedEventIds ++ [event.eventId] } := by
  obtain ⟨_, l, active, -, touched⟩ := applies_iff.mp acts
  have some_touched : (targetedLinks net groups event).isEmpty = false :=
    List.isEmpty_eq_false_iff_exists_mem.mpr ⟨l, touched⟩
  have targets : resolveTargetsIn groups event.targetScope ≠ [] := by
    rintro none
    rw [targetedLinks, none] at touched
    cases touched
  unfold planEvent
  rw [if_neg (not_not.mpr active)]
  simp only [if_neg targets, known]
  rw [plan_targets]
  unfold targetedLinks at some_touched ⊢
  simp only [some_touched, Bool.not_false, Bool.or_true, if_true]

theorem mem_insert_all {ids : Finset ℤ} {links : List ℤ} {linkId : ℤ} :
    linkId ∈ links.foldl (fun ids linkId => insert linkId ids) ids ↔
      linkId ∈ ids ∨ linkId ∈ links := by
  induction links generalizing ids with
  | nil => simp
  | cons first links ih =>
    rw [List.foldl_cons, ih, Finset.mem_insert, List.mem_cons]
    tauto

def actingFactors (net : RoadNetworkCSR p n m) (groups : BridgeGroups) (events : List TrafficEvent)
    (l : Fin n) : Set ℚ :=
  insert 1 {factor | ∃ event ∈ events, ActsOn net groups event factor l}

/-- What the planning loop knows after some events. -/
structure Planned (net : RoadNetworkCSR p n m) (groups : BridgeGroups) (events : List TrafficEvent)
    (plan : EffectPlanning n) : Prop where
  distinct : (plan.perIndexMinMultiplier.map Prod.fst).Nodup
  least : ∀ l, IsLeast (actingFactors net groups events l)
    ((plan.perIndexMinMultiplier.get l).getD 1)
  affected : ∀ linkId, linkId ∈ plan.affectedLinkIds ↔
    ∃ event ∈ events, ∃ factor l, ActsOn net groups event factor l ∧ (net.links l).linkId = linkId
  applied : plan.appliedEventIds =
    (events.filter (applies net groups)).map TrafficEvent.eventId
  ignored : plan.ignoredEventIds =
    (events.filter fun event => !applies net groups event).map TrafficEvent.eventId

theorem acting_factors_append (events : List TrafficEvent) (l : Fin n) :
    actingFactors net groups (events ++ [event]) l =
      actingFactors net groups events l ∪ {factor | ActsOn net groups event factor l} := by
  ext factor
  simp only [actingFactors, Set.mem_insert_iff, Set.mem_ofPred_eq, Set.mem_union, List.mem_append,
    List.mem_singleton, or_and_right, exists_or, exists_eq_left, or_assoc]

theorem Planned.step {events : List TrafficEvent} {plan : EffectPlanning n}
    (h : Planned net groups events plan) (event : TrafficEvent) :
    Planned net groups (events ++ [event]) (planEvent net groups plan event) := by
  cases acts : applies net groups event with
  | false =>
    have idle : ∀ factor l, ¬ActsOn net groups event factor l := by
      intro factor l on
      rw [applies_iff.mpr ⟨factor, l, on⟩] at acts
      cases acts
    rw [plan_event_ignored plan acts]
    refine ⟨h.distinct, fun l => ?_, fun linkId => ?_, ?_, ?_⟩
    · rw [acting_factors_append]
      simpa only [EffectPlanning.ignore, idle, Set.ofPred_false, Set.union_empty] using h.least l
    · refine (h.affected linkId).trans ?_
      simp [or_and_right, exists_or, idle]
    · simpa [acts, EffectPlanning.ignore] using h.applied
    · simpa [acts, EffectPlanning.ignore] using h.ignored
  | true =>
    obtain ⟨factor, _, active, known, _⟩ := applies_iff.mp acts
    have on : ∀ other l, ActsOn net groups event other l ↔
        other = factor ∧ l ∈ targetedLinks net groups event := by
      intro other l
      refine ⟨fun on => ⟨Option.some.inj (on.2.1.symm.trans known), on.2.2⟩, ?_⟩
      rintro ⟨rfl, touched⟩
      exact ⟨active, known, touched⟩
    rw [plan_event_applied plan acts known]
    refine ⟨lower_all_nodup h.distinct _, fun l => ?_, fun linkId => ?_, ?_, ?_⟩
    · rw [acting_factors_append, lower_all_get]
      split
      · rename_i touched
        simpa only [on, touched, and_true, Set.ofPred_eq_eq_singleton] using
          (h.least l).union isLeast_singleton
      · rename_i untouched
        simpa only [on, untouched, and_false, Set.ofPred_false, Set.union_empty] using h.least l
    · rw [mem_insert_all, h.affected]
      simp [or_and_right, exists_or, on]
    · simpa [acts] using h.applied
    · simpa [acts] using h.ignored

theorem planned (events : List TrafficEvent) :
    Planned net groups events (events.foldl (planEvent net groups) {}) := by
  induction events using List.reverseRecOn with
  | nil =>
    refine ⟨List.nodup_nil, fun l => ?_, fun linkId => ?_, rfl, rfl⟩
    · simp [actingFactors]
    · simp
  | append_singleton events event ih =>
    rw [List.foldl_append]
    exact ih.step event

theorem updates_get {base out : Fin n → ℚ} {updates : Dict (Fin n) ℚ}
    (distinct : (updates.map Prod.fst).Nodup) (l : Fin n) :
    updates.foldl (fun out update =>
        Function.update out update.1 (min (base update.1) update.2)) out l =
      (updates.get l).elim (out l) (min (base l)) := by
  induction updates generalizing out with
  | nil => rfl
  | cons update updates ih =>
    obtain ⟨apart, distinct⟩ := List.nodup_cons.mp distinct
    rw [List.foldl_cons, ih distinct, Function.update_apply, Dict.get_cons]
    split
    · rename_i here
      subst here
      have last : Dict.get updates update.1 = none := by
        by_contra known
        exact apart (Dict.mem_keys_iff.mpr (Option.ne_none_iff_exists'.mp known))
      rw [last]
      rfl
    · rfl

theorem updates_core_get (base : Fin n → ℚ) {updates : Dict (Fin n) ℚ}
    (distinct : (updates.map Prod.fst).Nodup) (l : Fin n) :
    applyEventMultiplierUpdatesCore base updates l =
      (updates.get l).elim (base l) (min (base l)) :=
  updates_get distinct l

theorem plan_multiplier (events : List TrafficEvent) (l : Fin n) :
    applyEventMultiplierUpdatesCore (fun _ => 1)
        (planEventEffectApplications net groups events).updates l =
      (((events.foldl (planEvent net groups) {}).perIndexMinMultiplier).get l).getD 1 := by
  have plan : Planned net groups events (events.foldl (planEvent net groups) {}) := planned events
  have sorted : (planEventEffectApplications net groups events).updates.Perm
      (events.foldl (planEvent net groups) {}).perIndexMinMultiplier := sort_on_perm
  have distinct : ((planEventEffectApplications net groups events).updates.map Prod.fst).Nodup :=
    (sorted.map Prod.fst).nodup_iff.mpr plan.distinct
  have same : Dict.get (planEventEffectApplications net groups events).updates l =
      (events.foldl (planEvent net groups) {}).perIndexMinMultiplier.get l := by
    ext value
    rw [Dict.get_eq_some_iff plan.distinct, ← sorted.mem_iff]
    exact Dict.get_eq_some_iff distinct
  rw [updates_core_get _ distinct, same]
  cases kept : (events.foldl (planEvent net groups) {}).perIndexMinMultiplier.get l with
  | none => rfl
  | some value =>
    refine min_eq_right ?_
    have least := (plan.least l).2 (Set.mem_insert 1 _)
    rwa [kept] at least

/-- What the effects of a collection of events are, whatever their order. -/
structure EffectsOf (net : RoadNetworkCSR p n m) (groups : BridgeGroups)
    (events : List TrafficEvent) (effects : EventEffects n) : Prop where
  least : ∀ l, IsLeast (actingFactors net groups events l) (effects.multiplier l)
  unit : ∀ l, 0 ≤ effects.multiplier l ∧ effects.multiplier l ≤ 1
  closed : ∀ l, (net.links l).isBlockable = false → effects.multiplier l = 0 →
    ∃ event ∈ events, ActsOn net groups event 0 l ∧
      event.effectModel = .capacityReduction ∧ event.severity = 1
  affected : ∀ linkId, linkId ∈ effects.affectedLinkIds ↔
    ∃ event ∈ events, ∃ factor l, ActsOn net groups event factor l ∧ (net.links l).linkId = linkId
  applied : effects.appliedEventIds =
    (events.filter (applies net groups)).map TrafficEvent.eventId
  ignored : effects.ignoredEventIds =
    (events.filter fun event => !applies net groups event).map TrafficEvent.eventId
  reported : (effects.appliedEventIds ++ effects.ignoredEventIds).Perm
    (events.map TrafficEvent.eventId)

theorem acting_factors_unit {events : List TrafficEvent}
    (acting : factor ∈ actingFactors net groups events l) : 0 ≤ factor ∧ factor ≤ 1 := by
  obtain rfl | ⟨event, -, on⟩ := acting
  · exact ⟨zero_le_one, le_rfl⟩
  · exact event_capacity_multiplier_unit on.2.1

theorem ActsOn.reduces (h : ActsOn net groups event 0 l)
    (open_link : (net.links l).isBlockable = false) :
    event.effectModel = .capacityReduction ∧ event.severity = 1 := by
  obtain ⟨-, known, touched⟩ := h
  obtain ⟨linkId, -, found⟩ := List.mem_filterMap.mp touched
  have allowed := (Option.filter_eq_some_iff.mp found).2
  cases model : event.effectModel with
  | closure => simp [model, open_link] at allowed
  | capacityReduction =>
    simp only [eventCapacityMultiplier, model, Option.some.injEq] at known
    refine ⟨rfl, le_antisymm event.severity_unit.2 ?_⟩
    have low := (le_max_right 0 (min 1 (1 - event.severity))).trans_eq known
    rcases min_le_iff.mp low with one | whole
    · exact absurd one (by norm_num)
    · exact sub_nonpos.mp whole
  | unsupported name => simp [eventCapacityMultiplier, model] at known

theorem effects_of (some_link : 0 < n) (events : List TrafficEvent) :
    EffectsOf net groups events (eventEffectsWith net groups events) := by
  have plan : Planned net groups events (events.foldl (planEvent net groups) {}) := planned events
  unfold eventEffectsWith
  rw [if_neg some_link.ne']
  have least : ∀ l, IsLeast (actingFactors net groups events l)
      (applyEventMultiplierUpdatesCore (fun _ => 1)
        (planEventEffectApplications net groups events).updates l) := by
    intro l
    rw [plan_multiplier]
    exact plan.least l
  refine ⟨least, fun l => acting_factors_unit (least l).1, fun l open_link zero => ?_,
    fun linkId => ?_, plan.applied, plan.ignored, ?_⟩
  · have acting := (least l).1
    rw [show applyEventMultiplierUpdatesCore _ _ l = 0 from zero] at acting
    obtain none | ⟨event, listed, on⟩ := acting
    · exact absurd none (by norm_num)
    · exact ⟨event, listed, on, on.reduces open_link⟩
  · exact (Finset.mem_sort _).trans (plan.affected linkId)
  · change ((events.foldl (planEvent net groups) {}).appliedEventIds ++
      (events.foldl (planEvent net groups) {}).ignoredEventIds).Perm _
    rw [plan.applied, plan.ignored, ← List.map_append]
    exact (List.filter_append_perm _ events).map _

theorem effects_of_same_events {events events' : List TrafficEvent}
    (same : ∀ event, event ∈ events' ↔ event ∈ events) :
    (eventEffectsWith net groups events').multiplier =
        (eventEffectsWith net groups events).multiplier ∧
      (eventEffectsWith net groups events').affectedLinkIds =
        (eventEffectsWith net groups events).affectedLinkIds := by
  by_cases some_link : 0 < n
  · have factors : ∀ l, actingFactors net groups events' l = actingFactors net groups events l := by
      intro l
      simp only [actingFactors, same]
    have effects : EffectsOf net groups events (eventEffectsWith net groups events) :=
      effects_of some_link events
    have effects' : EffectsOf net groups events' (eventEffectsWith net groups events') :=
      effects_of some_link events'
    constructor
    · funext l
      exact (factors l ▸ effects'.least l).unique (effects.least l)
    · have affected : (events'.foldl (planEvent net groups) {}).affectedLinkIds =
          (events.foldl (planEvent net groups) {}).affectedLinkIds := by
        ext linkId
        rw [(planned events').affected, (planned events).affected]
        simp only [same]
      unfold eventEffectsWith
      rw [if_neg some_link.ne', if_neg some_link.ne']
      exact congrArg Finset.sort affected
  · unfold eventEffectsWith
    rw [if_pos (by omega), if_pos (by omega)]
    exact ⟨rfl, rfl⟩

end Network

/-- The multipliers and the affected links are those of the set of events. -/
theorem event_effects_order_independent {p n m : ℕ} (net : RoadNetworkCSR p n m)
    (some_link : 0 < n) (events : List TrafficEvent) :
    EffectsOf net (bridgeGroupToLinkIds net) events (computeEventEffects net events) ∧
      ∀ events', (∀ event, event ∈ events' ↔ event ∈ events) →
        (computeEventEffects net events').multiplier = (computeEventEffects net events).multiplier ∧
          (computeEventEffects net events').affectedLinkIds =
            (computeEventEffects net events).affectedLinkIds :=
  ⟨effects_of some_link events, fun _ same => effects_of_same_events same⟩

/-- One road that no closure blocks. -/
def openRoad : RoadNetworkCSR 2 1 0 where
  nodes := ![⟨1⟩, ⟨2⟩]
  links := ![
    { linkId := 10, srcNodeId := 1, dstNodeId := 2, lengthM := 100, freeFlowSpeedMps := 10,
      capacityVehPerTick := 1, isBlockable := false, ends_differ := by norm_num,
      length_pos := by norm_num, speed_pos := by norm_num, capacity_nonneg := by norm_num,
      lanes_pos := le_refl 1 }]
  turns := Fin.elim0
  linkSrcNodeIndex := ![0]
  linkDstNodeIndex := ![1]
  turnFromLinkIndex := Fin.elim0
  turnToLinkIndex := Fin.elim0
  node_ids_unique := by decide
  link_ids_unique := by decide
  src_node := by decide
  dst_node := by decide
  from_link := by decide
  to_link := by decide
  turn_adjacent := by decide
  legal_pairs_unique := by decide
  crossing_links := by simp

def noRoads : RoadNetworkCSR 0 0 0 where
  nodes := Fin.elim0
  links := Fin.elim0
  turns := Fin.elim0
  linkSrcNodeIndex := Fin.elim0
  linkDstNodeIndex := Fin.elim0
  turnFromLinkIndex := Fin.elim0
  turnToLinkIndex := Fin.elim0
  node_ids_unique := by decide
  link_ids_unique := by decide
  src_node := by decide
  dst_node := by decide
  from_link := by decide
  to_link := by decide
  turn_adjacent := by decide
  legal_pairs_unique := by decide
  crossing_links := by simp

def roadEvent (eventId : ℕ) (effectModel : EffectModel) : TrafficEvent :=
  { eventId := eventId, startTick := 0, endTick := 5, targetScope := { linkIds := some [10] },
    severity := 1, effectModel := effectModel, status := .active,
    start_before_end := by decide, severity_unit := ⟨zero_le_one, le_rfl⟩ }

/-- A closure and an unknown effect on a road that no closure blocks. -/
theorem event_effects_order_independent_open_road :
    EffectsOf openRoad (bridgeGroupToLinkIds openRoad)
        [roadEvent 3 .closure, roadEvent 4 (.unsupported "detour")]
        (computeEventEffects openRoad
          [roadEvent 3 .closure, roadEvent 4 (.unsupported "detour")]) ∧
      (computeEventEffects openRoad
        [roadEvent 3 .closure, roadEvent 4 (.unsupported "detour")]).ignoredEventIds = [3, 4] :=
  ⟨(event_effects_order_independent openRoad (by decide) _).1, by decide⟩

/-- A reduction by the whole capacity shuts a road that no closure blocks, and a network
without links reports no event. -/
theorem full_reduction_shuts_open_road :
    (openRoad.links 0).isBlockable = false ∧
      (computeEventEffects openRoad [roadEvent 3 .capacityReduction]).multiplier 0 = 0 ∧
      (computeEventEffects noRoads [roadEvent 3 .closure]).appliedEventIds = [] ∧
      (computeEventEffects noRoads [roadEvent 3 .closure]).ignoredEventIds = [] := by
  decide +kernel

end Metroflow.Flow
