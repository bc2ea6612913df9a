import Metroflow.Lib.Dict
import Metroflow.Lib.ExactScalar
import Metroflow.Lib.Extended
import Metroflow.Lib.Loops
import Metroflow.Lib.Tables

namespace Metroflow.Routing

open Metroflow.Lib Extended

section Metadata

variable {K : Type} [Field K] [LinearOrder K] {n : ℕ}

/-- The links of a network as the metadata of candidates reads them. -/
structure MeteredLinks (K : Type) [Field K] [LinearOrder K] (n : ℕ) where
  linkId : Fin n → ℤ
  lengthM : Fin n → Extended K
  ids_unique : Function.Injective linkId
  length_pos : ∀ l, ¬ lengthM l < .finite 0 ∧ lengthM l ≠ .finite 0

namespace MeteredLinks

variable (net : MeteredLinks K n)

def linkIds : List ℤ := List.ofFn net.linkId

def linkIndex (linkId : ℤ) : Except ℤ (Fin n) :=
  match indexOf net.linkId linkId with
  | some l => .ok l
  | none => .error linkId

end MeteredLinks

def sumOf (values : List (Extended K)) : Extended K := values.foldl (· + ·) (.finite 0)

/-- How often each link occurs in the candidate paths. -/
def usageCount (candidatePaths : List (List ℤ)) : Dict ℤ ℕ :=
  candidatePaths.flatten.foldl
    (fun usage linkId => usage.set linkId ((usage.get linkId).getD 0 + 1)) []

/-- What the links of a path add to its factor: their share of it, by how many use them. -/
def pathShares (usage : Dict ℤ ℕ) (total : Extended K) (missing : ℕ)
    (entries : List (ℤ × Extended K)) : Extended K :=
  entries.foldl (fun factor entry => factor + entry.2 / total *
    (.finite (1 / ((max ((usage.get entry.1).getD missing) 1 : ℕ) : K)))) (.finite 0)

namespace Host

variable (net : MeteredLinks K n)

def candidatePathCosts (linkTravelTimeCost : Fin n → Extended K) (candidatePaths : List (List ℤ)) :
    Except ℤ (List (Extended K)) :=
  candidatePaths.mapM fun path => do
    let indices ← path.mapM net.linkIndex
    return sumOf (indices.map linkTravelTimeCost)

def candidatePathSizeFactors (candidatePaths : List (List ℤ)) : Except ℤ (List (Extended K)) :=
  candidatePaths.mapM fun path => do
    let indices ← path.mapM net.linkIndex
    let lengths := indices.map fun l => pyMax (.finite (1 / 1000000)) (net.lengthM l)
    let totalLength := sumOf lengths
    let factor := pathShares (usageCount candidatePaths) totalLength 0 (path.zip lengths)
    if totalLength < .finite 0 ∨ totalLength = .finite 0 then return .finite 1
    else return pyMax factor (.finite (1 / 1000000000000))

end Host

namespace Rust

def validateNonNegative (name : String) (values : List (Extended K)) : Except String Unit :=
  raiseIf (∃ value ∈ values, value < .finite 0) (name ++ " must be non-negative")

def lengthMismatch (name : String) (values : List (Extended K)) (linkCount : ℕ) : String :=
  name ++ " length must match link_ids length: got " ++ toString values.length ++ ", expected " ++
    toString linkCount

def unknownLink : String := "candidate_paths contains unknown link id"

/-- The index of each link id; an id that comes again is refused. -/
def indexLinks (linkIds : List ℤ) : Except String (Dict ℤ ℕ) :=
  linkIds.zipIdx.foldlM (fun byId entry =>
    if (byId.get entry.1).isSome then .error "link_ids must be unique"
    else .ok (byId.set entry.1 entry.2)) []

def countUsage (linkIndexById : Dict ℤ ℕ) (candidatePaths : List (List ℤ)) :
    Except String (Dict ℤ ℕ) :=
  candidatePaths.flatten.foldlM (fun usage linkId =>
    if (linkIndexById.get linkId).isNone then .error unknownLink
    else .ok (usage.set linkId ((usage.get linkId).getD 0 + 1))) []

def linkIndex (linkIndexById : Dict ℤ ℕ) (linkId : ℤ) : Except String ℕ :=
  match linkIndexById.get linkId with
  | some i => .ok i
  | none => .error unknownLink

def pathMetadata (linkIndexById usageCount : Dict ℤ ℕ) (linkLengthM linkTravelTimeCost :
    List (Extended K)) (path : List ℤ) : Except String (Extended K × Extended K) := do
  let indices ← path.mapM (linkIndex linkIndexById)
  let cost := sumOf (indices.map fun i => linkTravelTimeCost.getD i .nan)
  let lengths := indices.map fun i => maxNum (linkLengthM.getD i .nan) (.finite (1 / 1000000))
  let totalLength := sumOf lengths
  let factor := pathShares usageCount totalLength 1 (path.zip lengths)
  if totalLength < .finite 0 ∨ totalLength = .finite 0 then return (cost, .finite 1)
  else return (cost, maxNum factor (.finite (1 / 1000000000000)))

def computeRouteCandidateMetadataImpl (linkIds : List ℤ) (linkLengthM linkTravelTimeCost :
    List (Extended K)) (candidatePaths : List (List ℤ)) :
    Except String (List (Extended K) × List (Extended K)) := do
  let linkCount := linkIds.length
  raiseIf (linkLengthM.length ≠ linkCount) (lengthMismatch "link_length_m" linkLengthM linkCount)
  raiseIf (linkTravelTimeCost.length ≠ linkCount)
    (lengthMismatch "link_travel_time_cost" linkTravelTimeCost linkCount)
  validateNonNegative "link_length_m" linkLengthM
  validateNonNegative "link_travel_time_cost" linkTravelTimeCost
  let linkIndexById ← indexLinks linkIds
  let usageCount ← countUsage linkIndexById candidatePaths
  let metadata ← candidatePaths.mapM
    (pathMetadata linkIndexById usageCount linkLengthM linkTravelTimeCost)
  return (metadata.map Prod.fst, metadata.map Prod.snd)

end Rust

end Metadata

section Choice

variable {K : Type} [Field K] [LinearOrder K]

/-- What the choice between candidate routes reads. -/
structure RouteChoice (K : Type) where
  candidateIds : List ℤ
  candidatePaths : List (List ℤ)
  costs : List (Extended K)
  pathSizes : List (Extended K)
  pathSizeGamma : Extended K

namespace RouteChoice

variable (log : K → K) (choice : RouteChoice K)

/-- The size factor as it is used: where it is not a positive number, a tiny one. -/
def usableSize (pathSizeFactor : Extended K) : K :=
  match pathSizeFactor with
  | .finite x => if 0 < x then x else 1 / 1000000000000
  | _ => 1 / 1000000000000

def viableIndices : List ℕ :=
  (List.range choice.candidatePaths.length).filter fun i => choice.candidatePaths.getD i [] ≠ []

def candidateId (i : ℕ) : ℤ := choice.candidateIds.getD i i

def path (i : ℕ) : List ℤ := choice.candidatePaths.getD i []

end RouteChoice

namespace Host

variable (log : K → K) (choice : RouteChoice K)

def candidatePathUtility (cost pathSizeFactor pathSizeGamma : Extended K) : Extended K :=
  if ¬ cost.isFinite then .negInf
  else -cost +
    pyMax (.finite 0) pathSizeGamma * .finite (log (RouteChoice.usableSize pathSizeFactor))

def utility (i : ℕ) : Extended K :=
  candidatePathUtility log (choice.costs.getD i .nan) (choice.pathSizes.getD i (.finite 1))
    choice.pathSizeGamma

/-- The key of one candidate is greater: the utility, then the id and the links, both negated. -/
def keyGreater (i best : ℕ) : Bool :=
  if Equals (utility log choice i) (utility log choice best) then
    if -choice.candidateId i = -choice.candidateId best then
      decide ((choice.path best).map Neg.neg < (choice.path i).map Neg.neg)
    else decide (-choice.candidateId best < -choice.candidateId i)
  else decide (utility log choice best < utility log choice i)

def selectCandidateRouteIndex (viableIndices : List ℕ) : Except String (ℕ × Extended K) :=
  match viableIndices with
  | [] => .error "no viable candidate"
  | first :: others =>
    if choice.candidatePaths.length ≤ choice.costs.length then
      let selected :=
        others.foldl (fun best i => if keyGreater log choice i best then i else best) first
      .ok (selected, utility log choice selected)
    else .ok (first, .finite 0)

end Host

namespace Rust

variable (log : K → K) (choice : RouteChoice K)

def routeCandidateUtility (cost pathSizeFactor pathSizeGamma : Extended K) : Extended K :=
  if ¬ cost.isFinite then .negInf
  else -cost +
    maxNum pathSizeGamma (.finite 0) * .finite (log (RouteChoice.usableSize pathSizeFactor))

def routePathTiebreakGreater : List ℤ → List ℤ → Bool
  | candidateLink :: candidate, bestLink :: best =>
    if candidateLink ≠ bestLink then decide (candidateLink < bestLink)
    else routePathTiebreakGreater candidate best
  | candidate, best => decide (best.length < candidate.length)

def routeSelectionTiebreakGreater (candidateIndex bestIndex : ℕ) : Bool :=
  let candidateId := choice.candidateIds.getD candidateIndex candidateIndex
  let bestId := choice.candidateIds.getD bestIndex bestIndex
  if candidateId ≠ bestId then decide (candidateId < bestId)
  else routePathTiebreakGreater (choice.candidatePaths.getD candidateIndex [])
    (choice.candidatePaths.getD bestIndex [])

def utilityAt (i : ℕ) : Extended K :=
  routeCandidateUtility log (choice.costs.getD i .nan) (choice.pathSizes.getD i (.finite 1))
    choice.pathSizeGamma

def scanStep (best : ℕ × Extended K) (candidateIndex : ℕ) : ℕ × Extended K :=
  let utility := utilityAt log choice candidateIndex
  if best.2 < utility ∨ Equals utility best.2 ∧
      routeSelectionTiebreakGreater choice candidateIndex best.1 = true then
    (candidateIndex, utility)
  else best

def selectRouteCandidateIndexImpl : Except String (ℤ × Extended K) := do
  raiseIf (∃ candidateId ∈ choice.candidateIds, candidateId < 0)
    "candidate_ids must be non-negative"
  raiseIf (∃ path ∈ choice.candidatePaths, ∃ linkId ∈ path, linkId < 0)
    "candidate_paths must contain non-negative link ids"
  match choice.viableIndices with
  | [] => return (-1, .finite 0)
  | first :: others =>
    if choice.costs.length < choice.candidatePaths.length then return (first, .finite 0)
    else
      let (bestIndex, bestUtility) :=
        others.foldl (scanStep log choice) (first, utilityAt log choice first)
      return (bestIndex, bestUtility)

end Rust

end Choice

section Agreement

variable {K : Type} [Field K] [LinearOrder K] {n : ℕ} {net : MeteredLinks K n}
  {cost : Fin n → Extended K} {paths : List (List ℤ)} {path : List ℤ}
  {linkId : ℤ} {i : ℕ}

omit [Field K] [LinearOrder K] in
theorem get_of_fn (f : Fin n → Extended K) (l : Fin n) : (List.ofFn f).getD l .nan = f l := by
  simp [List.getD]

theorem link_ids_nodup (net : MeteredLinks K n) : net.linkIds.Nodup :=
  List.nodup_ofFn.mpr net.ids_unique

theorem index_links (net : MeteredLinks K n) :
    Rust.indexLinks net.linkIds = .ok net.linkIds.zipIdx := by
  obtain ⟨byId, run, same⟩ := fold_total (I := fun past byId => byId = past)
    (f := fun (byId : Dict ℤ ℕ) entry => if (byId.get entry.1).isSome then
      .error "link_ids must be unique" else .ok (byId.set entry.1 entry.2))
    (l := net.linkIds.zipIdx) (s := []) (fun past entry rest byId split same => by
      have distinct := link_ids_nodup net
      rw [← List.zipIdx_map_fst 0 net.linkIds, split, List.map_append, List.map_cons] at distinct
      have fresh : byId.get entry.1 = none := by
        by_contra known
        obtain ⟨i, found⟩ := Option.ne_none_iff_exists'.mp known
        have listed := Dict.mem_keys_iff.mpr ⟨i, found⟩
        rw [same] at listed
        exact (List.nodup_append.mp distinct).2.2 _ listed _ List.mem_cons_self rfl
      refine ⟨_, if_neg (by rw [fresh]; exact Bool.false_ne_true), ?_⟩
      rw [Dict.set_of_get_none fresh, same]) rfl
  exact same ▸ run

theorem index_known : (Dict.get net.linkIds.zipIdx linkId = some i) ↔
    ∃ l, net.linkId l = linkId ∧ l.val = i := by
  have keys : net.linkIds.zipIdx.map Prod.fst = net.linkIds := List.zipIdx_map_fst 0 _
  rw [Dict.get_eq_some_iff (keys.symm ▸ link_ids_nodup net), List.mem_zipIdx_iff_getElem?]
  unfold MeteredLinks.linkIds
  rw [List.getElem?_ofFn]
  constructor
  · intro found
    split at found
    · rename_i inside
      exact ⟨⟨i, inside⟩, Option.some.inj found, rfl⟩
    · cases found
  · rintro ⟨l, rfl, rfl⟩
    rw [dif_pos l.isLt]

def MeteredLinks.indices (net : MeteredLinks K n) (path : List ℤ) : List (Fin n) :=
  path.filterMap (indexOf net.linkId)

theorem path_indices (known : ∀ linkId ∈ path, ∃ l, net.linkId l = linkId) :
    path.mapM net.linkIndex = .ok (net.indices path) ∧
      path.mapM (Rust.linkIndex net.linkIds.zipIdx) = .ok ((net.indices path).map Fin.val) := by
  induction path with
  | nil => exact ⟨rfl, rfl⟩
  | cons linkId path ih =>
    obtain ⟨⟨l, rfl⟩, later⟩ := List.forall_mem_cons.mp known
    obtain ⟨run, run'⟩ := ih later
    have here : net.linkIndex (net.linkId l) = .ok l := by
      rw [MeteredLinks.linkIndex, index_of_key net.ids_unique]
    have here' : Rust.linkIndex net.linkIds.zipIdx (net.linkId l) = .ok l.val := by
      rw [Rust.linkIndex, index_known.mpr ⟨l, rfl, rfl⟩]
    have first : net.indices (net.linkId l :: path) = l :: net.indices path :=
      List.filterMap_cons_some (index_of_key net.ids_unique l)
    rw [first]
    constructor
    · rw [List.mapM_cons, here, ok_bind, run]
      rfl
    · rw [List.mapM_cons, here', ok_bind, run']
      rfl

theorem indices_listed {l : Fin n} (there : l ∈ net.indices path) : net.linkId l ∈ path := by
  obtain ⟨linkId, listed, found⟩ := List.mem_filterMap.mp there
  exact key_of_index_of found ▸ listed

theorem count_usage (known : ∀ path ∈ paths, ∀ linkId ∈ path, ∃ l, net.linkId l = linkId) :
    Rust.countUsage net.linkIds.zipIdx paths = .ok (usageCount paths) := by
  have each : ∀ linkId ∈ paths.flatten, ∃ l, net.linkId l = linkId := by
    intro linkId listed
    obtain ⟨path, there, listed⟩ := List.mem_flatten.mp listed
    exact known path there linkId listed
  unfold Rust.countUsage usageCount
  generalize ([] : Dict ℤ ℕ) = usage
  generalize paths.flatten = links at each ⊢
  induction links generalizing usage with
  | nil => rfl
  | cons linkId rest ih =>
    obtain ⟨⟨l, here⟩, later⟩ := List.forall_mem_cons.mp each
    have found : Dict.get net.linkIds.zipIdx linkId = some l.val := index_known.mpr ⟨l, here, rfl⟩
    rw [List.foldlM_cons, found, Option.isNone_some, if_neg Bool.false_ne_true, ok_bind,
      List.foldl_cons]
    exact ih _ later

theorem usage_known (listed : linkId ∈ paths.flatten) :
    ∃ k, (usageCount paths).get linkId = some k := by
  unfold usageCount
  generalize paths.flatten = links at listed ⊢
  induction links using List.reverseRecOn with
  | nil => cases listed
  | append_singleton before last ih =>
    rw [List.foldl_append, List.foldl_cons, List.foldl_nil, Dict.get_set]
    split
    · exact ⟨_, rfl⟩
    · rename_i apart
      exact ih ((List.mem_append.mp listed).resolve_right fun here =>
        apart (List.mem_singleton.mp here))

omit [LinearOrder K] in
theorem sum_finite {values : List (Extended K)}
    (finite : ∀ value ∈ values, ∃ x, value = .finite x) :
    ∃ x, sumOf values = .finite x := by
  unfold sumOf
  generalize (0 : K) = start
  induction values generalizing start with
  | nil => exact ⟨start, rfl⟩
  | cons value values ih =>
    obtain ⟨⟨x, rfl⟩, later⟩ := List.forall_mem_cons.mp finite
    exact ih later (start + x)

theorem shares_finite {usage : Dict ℤ ℕ} {total : K} {missing : ℕ}
    {entries : List (ℤ × Extended K)} (finite : ∀ entry ∈ entries, ∃ x, entry.2 = .finite x) :
    ∃ x, pathShares usage (.finite total) missing entries = .finite x := by
  unfold pathShares
  generalize (0 : K) = start
  induction entries generalizing start with
  | nil => exact ⟨start, rfl⟩
  | cons entry entries ih =>
    obtain ⟨⟨x, here⟩, later⟩ := List.forall_mem_cons.mp finite
    rw [List.foldl_cons, here, finite_div_finite, finite_mul_finite, finite_add_finite]
    exact ih later _

theorem shares_of_known {total : Extended K} {entries : List (ℤ × Extended K)}
    (known : ∀ entry ∈ entries, ∃ k, (usageCount paths).get entry.1 = some k)
    (missing missing' : ℕ) :
    pathShares (usageCount paths) total missing entries =
      pathShares (usageCount paths) total missing' entries := by
  unfold pathShares
  generalize (Extended.finite (0 : K)) = start
  induction entries generalizing start with
  | nil => rfl
  | cons entry entries ih =>
    obtain ⟨⟨k, here⟩, later⟩ := List.forall_mem_cons.mp known
    rw [List.foldl_cons, List.foldl_cons, here]
    exact ih later _

theorem length_finite {l : Fin n} (bounded : net.lengthM l ≠ .posInf) :
    ∃ x, pyMax (.finite (1 / 1000000)) (net.lengthM l) = .finite x := by
  have pos := (net.length_pos l).1
  unfold pyMax
  split
  · cases found : net.lengthM l with
    | finite x => exact ⟨x, rfl⟩
    | posInf => exact absurd found bounded
    | negInf => exact absurd (found ▸ trivial) pos
    | nan =>
      rename_i less
      rw [found] at less
      exact absurd less id
  · exact ⟨_, rfl⟩

namespace MeteredLinks

variable (net : MeteredLinks K n)

/-- The lengths of the links of a path, each of them at least a millionth. -/
def lengths (path : List ℤ) : List (Extended K) :=
  (net.indices path).map fun l => pyMax (.finite (1 / 1000000)) (net.lengthM l)

/-- The factor of a path that has a length, before it is kept from zero. -/
def shares (paths : List (List ℤ)) (path : List ℤ) : Extended K :=
  pathShares (usageCount paths) (sumOf (net.lengths path)) 0 (path.zip (net.lengths path))

def sizeFactor (larger : Extended K → Extended K → Extended K) (paths : List (List ℤ))
    (path : List ℤ) : Extended K :=
  if sumOf (net.lengths path) < .finite 0 ∨ sumOf (net.lengths path) = .finite 0 then .finite 1
  else larger (net.shares paths path) (.finite (1 / 1000000000000))

end MeteredLinks

theorem size_factor_agrees
    (bounded : ∀ l, net.linkId l ∈ path → net.lengthM l ≠ .posInf) :
    net.sizeFactor pyMax paths path = net.sizeFactor maxNum paths path := by
  have lengths : ∀ value ∈ net.lengths path, ∃ x, value = .finite x :=
    List.forall_mem_map.mpr fun l there => length_finite (bounded l (indices_listed there))
  obtain ⟨total, sum⟩ := sum_finite lengths
  have finite : ∃ x, net.shares paths path = .finite x := by
    unfold MeteredLinks.shares
    rw [sum]
    exact shares_finite fun entry there => lengths entry.2 (List.of_mem_zip there).2
  obtain ⟨x, shares⟩ := finite
  unfold MeteredLinks.sizeFactor
  rw [shares, py_max_eq (by nofun)]

theorem host_metadata (cost : Fin n → Extended K)
    (known : ∀ path ∈ paths, ∀ linkId ∈ path, ∃ l, net.linkId l = linkId) :
    Host.candidatePathCosts net cost paths =
        .ok (paths.map fun path => sumOf ((net.indices path).map cost)) ∧
      Host.candidatePathSizeFactors net paths = .ok (paths.map (net.sizeFactor pyMax paths)) := by
  constructor
  · refine map_all_total fun path there => ?_
    rw [(path_indices (known path there)).1]
    rfl
  · refine map_all_total fun path there => ?_
    rw [(path_indices (known path there)).1, ok_bind]
    unfold MeteredLinks.sizeFactor
    dsimp only
    split
    · rw [if_pos ‹_›]
      rfl
    · rw [if_neg ‹_›]
      rfl

theorem rust_path_metadata (known : ∀ linkId ∈ path, ∃ l, net.linkId l = linkId)
    (listed : ∀ linkId ∈ path, linkId ∈ paths.flatten) :
    Rust.pathMetadata net.linkIds.zipIdx (usageCount paths) (List.ofFn net.lengthM)
      (List.ofFn cost) path =
      .ok (sumOf ((net.indices path).map cost), net.sizeFactor maxNum paths path) := by
  have lengths : ((net.indices path).map Fin.val).map
      (fun i => maxNum ((List.ofFn net.lengthM).getD i .nan) (.finite (1 / 1000000))) =
      net.lengths path := by
    rw [List.map_map]
    exact List.map_congr_left fun l _ => by rw [Function.comp_apply, get_of_fn, py_max_swap]
  have costs : ((net.indices path).map Fin.val).map (fun i => (List.ofFn cost).getD i .nan) =
      (net.indices path).map cost := by
    rw [List.map_map]
    exact List.map_congr_left fun l _ => get_of_fn cost l
  have counted : pathShares (usageCount paths) (sumOf (net.lengths path)) 1
      (path.zip (net.lengths path)) = net.shares paths path :=
    shares_of_known (fun entry there => usage_known (listed _ (List.of_mem_zip there).1)) 1 0
  unfold Rust.pathMetadata
  rw [(path_indices known).2, ok_bind]
  dsimp only
  rw [lengths, costs, counted]
  unfold MeteredLinks.sizeFactor
  split <;> rfl

theorem rust_metadata (known : ∀ path ∈ paths, ∀ linkId ∈ path, ∃ l, net.linkId l = linkId)
    (cost_nonneg : ∀ l, ¬ cost l < .finite 0) :
    Rust.computeRouteCandidateMetadataImpl net.linkIds (List.ofFn net.lengthM) (List.ofFn cost)
      paths = .ok (paths.map fun path => sumOf ((net.indices path).map cost),
        paths.map (net.sizeFactor maxNum paths)) := by
  have sized {f : Fin n → Extended K} : ¬ (List.ofFn f).length ≠ net.linkIds.length := by
    simp [MeteredLinks.linkIds]
  have signed {f : Fin n → Extended K} (nonneg : ∀ l, ¬ f l < .finite 0) :
      ¬ ∃ value ∈ List.ofFn f, value < .finite 0 := by
    rintro ⟨value, there, less⟩
    obtain ⟨l, rfl⟩ := List.mem_ofFn.mp there
    exact nonneg l less
  have each : paths.mapM (Rust.pathMetadata net.linkIds.zipIdx (usageCount paths)
      (List.ofFn net.lengthM) (List.ofFn cost)) =
      .ok (paths.map fun path =>
        (sumOf ((net.indices path).map cost), net.sizeFactor maxNum paths path)) :=
    map_all_total fun path there => rust_path_metadata (known path there)
      fun linkId listed => List.mem_flatten.mpr ⟨path, there, listed⟩
  unfold Rust.computeRouteCandidateMetadataImpl Rust.validateNonNegative raiseIf
  dsimp only
  rw [if_neg sized, if_neg sized, if_neg (signed fun l => (net.length_pos l).1),
    if_neg (signed cost_nonneg), ok_bind, ok_bind, ok_bind, ok_bind, index_links, ok_bind,
    count_usage known, ok_bind, each, ok_bind, List.map_map, List.map_map]
  rfl

/-- The two forms give the same costs, and the same factor for every path without an endless
link. -/
def MetadataAgrees (net : MeteredLinks K n) (cost : Fin n → Extended K) (paths : List (List ℤ)) :
    Prop :=
  ∃ costs factors factors', Host.candidatePathCosts net cost paths = .ok costs ∧
    Host.candidatePathSizeFactors net paths = .ok factors ∧
    Rust.computeRouteCandidateMetadataImpl net.linkIds (List.ofFn net.lengthM) (List.ofFn cost)
      paths = .ok (costs, factors') ∧
    factors.length = paths.length ∧ factors'.length = paths.length ∧
    ∀ (i : ℕ) (path : List ℤ), paths[i]? = some path →
      (∀ l, net.linkId l ∈ path → net.lengthM l ≠ .posInf) → factors[i]? = factors'[i]?

theorem metadata_agrees (cost_nonneg : ∀ l, ¬ cost l < .finite 0)
    (known : ∀ path ∈ paths, ∀ linkId ∈ path, ∃ l, net.linkId l = linkId) :
    MetadataAgrees net cost paths := by
  obtain ⟨costs, factors⟩ := host_metadata cost known
  refine ⟨_, _, _, costs, factors, rust_metadata known cost_nonneg, List.length_map _,
    List.length_map _, fun i path found bounded => ?_⟩
  rw [List.getElem?_map, List.getElem?_map, found, Option.map_some, Option.map_some,
    size_factor_agrees bounded]

end Agreement

section Selection

variable {K : Type} [Field K] [LinearOrder K] {log : K → K} {choice : RouteChoice K} {i j k : ℕ}

theorem utility_agrees (i : ℕ) : Rust.utilityAt log choice i = Host.utility log choice i := by
  unfold Rust.utilityAt Rust.routeCandidateUtility Host.utility Host.candidatePathUtility
  rw [py_max_swap]

theorem path_tiebreak (candidate best : List ℤ) :
    Rust.routePathTiebreakGreater candidate best = true ↔
      best.map Neg.neg < candidate.map Neg.neg := by
  induction candidate generalizing best with
  | nil =>
    cases best with
    | nil => simp [Rust.routePathTiebreakGreater]
    | cons bestLink best => simp [Rust.routePathTiebreakGreater]
  | cons candidateLink candidate ih =>
    cases best with
    | nil => simp [Rust.routePathTiebreakGreater]
    | cons bestLink best =>
      rw [Rust.routePathTiebreakGreater, List.map_cons, List.map_cons, List.cons_lt_cons_iff]
      by_cases same : candidateLink = bestLink
      · subst same
        rw [if_neg (not_not.mpr rfl), ih]
        simp
      · rw [if_pos same, decide_eq_true_iff, neg_lt_neg_iff, neg_inj]
        exact ⟨Or.inl, fun h => h.resolve_right fun h => same h.1.symm⟩

/-- One candidate comes before another with the same utility: the smaller id, then the links. -/
def TiebreakGreater (choice : RouteChoice K) (i j : ℕ) : Prop :=
  choice.candidateId i < choice.candidateId j ∨
    choice.candidateId i = choice.candidateId j ∧
      (choice.path j).map Neg.neg < (choice.path i).map Neg.neg

omit [Field K] [LinearOrder K] in
theorem selection_tiebreak :
    Rust.routeSelectionTiebreakGreater choice i j = true ↔ TiebreakGreater choice i j := by
  unfold Rust.routeSelectionTiebreakGreater TiebreakGreater RouteChoice.candidateId RouteChoice.path
  dsimp only
  split
  · rename_i apart
    rw [decide_eq_true_iff]
    exact ⟨Or.inl, fun h => h.resolve_right fun h => apart h.1⟩
  · rename_i same
    rw [not_not] at same
    rw [path_tiebreak, same]
    simp

theorem key_greater_iff : Host.keyGreater log choice i j = true ↔
    Host.utility log choice j < Host.utility log choice i ∨
      Equals (Host.utility log choice i) (Host.utility log choice j) ∧
        TiebreakGreater choice i j := by
  unfold Host.keyGreater TiebreakGreater
  split
  · rename_i same
    rw [same.1, or_iff_right less_irrefl, and_iff_right (same.1 ▸ same)]
    split
    · rename_i equal
      rw [neg_inj] at equal
      rw [decide_eq_true_iff, equal]
      simp
    · rename_i apart
      rw [neg_inj] at apart
      rw [decide_eq_true_iff, neg_lt_neg_iff]
      exact ⟨Or.inl, fun h => h.resolve_right fun h => apart h.1⟩
  · rename_i apart
    rw [decide_eq_true_iff]
    exact ⟨Or.inl, fun h => h.resolve_right fun h => apart h.1⟩

theorem key_greater_irrefl (i : ℕ) : Host.keyGreater log choice i i = false := by
  rw [← Bool.not_eq_true, key_greater_iff]
  rintro (less | ⟨-, less | ⟨-, less⟩⟩)
  · exact less_irrefl less
  · exact lt_irrefl _ less
  · exact lt_irrefl _ less

theorem key_greater_trans (i j k : ℕ) (h : Host.keyGreater log choice i j = true)
    (h' : Host.keyGreater log choice j k = true) : Host.keyGreater log choice i k = true := by
  rw [key_greater_iff] at h h' ⊢
  rcases h with less | ⟨same, first⟩
  · rcases h' with less' | ⟨same', -⟩
    · exact Or.inl (less_trans less' less)
    · exact Or.inl (same'.1 ▸ less)
  · rcases h' with less' | ⟨same', second⟩
    · exact Or.inl (same.1 ▸ less')
    · refine Or.inr ⟨⟨same.1.trans same'.1, same.2⟩, ?_⟩
      rcases first with less | ⟨equal, less⟩
      · exact Or.inl (second.elim less.trans fun h => h.1 ▸ less)
      · rcases second with less' | ⟨equal', less'⟩
        · exact Or.inl (equal ▸ less')
        · exact Or.inr ⟨equal.trans equal', less'.trans less⟩

theorem scan_step (i best : ℕ) :
    Rust.scanStep log choice (best, Host.utility log choice best) i =
      if Host.keyGreater log choice i best then (i, Host.utility log choice i)
      else (best, Host.utility log choice best) := by
  unfold Rust.scanStep
  dsimp only
  rw [utility_agrees]
  exact if_congr (by rw [key_greater_iff, selection_tiebreak]) rfl rfl

theorem scan_agrees (first : ℕ) (others : List ℕ) :
    others.foldl (Rust.scanStep log choice) (first, Rust.utilityAt log choice first) =
      let best := others.foldl
        (fun best i => if Host.keyGreater log choice i best then i else best) first
      (best, Host.utility log choice best) := by
  rw [utility_agrees]
  induction others generalizing first with
  | nil => rfl
  | cons i others ih =>
    rw [List.foldl_cons, scan_step, List.foldl_cons]
    split
    · exact ih i
    · exact ih first

/-- The choice that both forms make of the viable candidates. -/
structure Chosen (log : K → K) (choice : RouteChoice K) (index : ℕ) (utility : Extended K) :
    Prop where
  viable : index ∈ choice.viableIndices
  /-- With a cost for every candidate no viable candidate has a greater key. -/
  greatest : choice.candidatePaths.length ≤ choice.costs.length →
    utility = Host.utility log choice index ∧
      ∀ other ∈ choice.viableIndices, Host.keyGreater log choice other index = false
  /-- With fewer costs it is the first viable candidate, at no utility. -/
  first : choice.costs.length < choice.candidatePaths.length →
    choice.viableIndices.head? = some index ∧ utility = .finite 0

theorem selection_agrees (ids_nonneg : ∀ candidateId ∈ choice.candidateIds, 0 ≤ candidateId)
    (links_nonneg : ∀ path ∈ choice.candidatePaths, ∀ linkId ∈ path, 0 ≤ linkId)
    (viable : choice.viableIndices ≠ []) :
    ∃ index utility, Host.selectCandidateRouteIndex log choice choice.viableIndices =
        .ok (index, utility) ∧
      Rust.selectRouteCandidateIndexImpl log choice = .ok ((index : ℤ), utility) ∧
      Chosen log choice index utility := by
  have ids : ¬ ∃ candidateId ∈ choice.candidateIds, candidateId < 0 :=
    fun ⟨_, there, below⟩ => below.not_ge (ids_nonneg _ there)
  have links : ¬ ∃ path ∈ choice.candidatePaths, ∃ linkId ∈ path, linkId < 0 :=
    fun ⟨_, there, _, listed, below⟩ => below.not_ge (links_nonneg _ there _ listed)
  obtain ⟨first, others, split⟩ := List.exists_cons_of_ne_nil viable
  unfold Rust.selectRouteCandidateIndexImpl Host.selectCandidateRouteIndex raiseIf
  rw [if_neg ids, if_neg links, ok_bind, ok_bind, split]
  dsimp only
  by_cases covered : choice.candidatePaths.length ≤ choice.costs.length
  · rw [if_pos covered, if_neg covered.not_gt, scan_agrees]
    obtain ⟨listed, greatest⟩ := @scan_maximal ℕ (Host.keyGreater log choice)
      key_greater_irrefl key_greater_trans first others
    refine ⟨_, _, rfl, rfl, split ▸ listed, fun _ => ⟨rfl, split ▸ greatest⟩, fun short => ?_⟩
    exact absurd covered short.not_ge
  · rw [if_neg covered, if_pos (not_le.mp covered)]
    refine ⟨_, _, rfl, rfl, split ▸ List.mem_cons_self, fun h => absurd h covered, fun _ => ?_⟩
    rw [split]
    exact ⟨rfl, rfl⟩

end Selection

section Backends

variable {K : Type} [Field K] [LinearOrder K] {n : ℕ}

/-- Both forms score the candidates of a network alike and choose the same one of them. -/
theorem candidate_backends_agree (net : MeteredLinks K n) (log : K → K) :
    (∀ cost paths, (∀ l, ¬ cost l < .finite 0) →
      (∀ path ∈ paths, ∀ linkId ∈ path, ∃ l, net.linkId l = linkId) →
      MetadataAgrees net cost paths) ∧
    ∀ choice : RouteChoice K, (∀ candidateId ∈ choice.candidateIds, 0 ≤ candidateId) →
      (∀ path ∈ choice.candidatePaths, ∀ linkId ∈ path, 0 ≤ linkId) →
      choice.viableIndices ≠ [] →
      ∃ index utility, Host.selectCandidateRouteIndex log choice choice.viableIndices =
          .ok (index, utility) ∧
        Rust.selectRouteCandidateIndexImpl log choice = .ok ((index : ℤ), utility) ∧
        Chosen log choice index utility :=
  ⟨fun _ _ cost_nonneg known => metadata_agrees cost_nonneg known,
    fun _ ids_nonneg links_nonneg viable => selection_agrees ids_nonneg links_nonneg viable⟩

def singleLink (length : Extended ℚ) (pos : ¬ length < .finite 0 ∧ length ≠ .finite 0) :
    MeteredLinks ℚ 1 where
  linkId := fun _ => 7
  lengthM := fun _ => length
  ids_unique := fun l l' _ => Subsingleton.elim l l'
  length_pos := fun _ => pos

def twoCandidates : RouteChoice ℚ where
  candidateIds := [4, 3]
  candidatePaths := [[7], [7]]
  costs := [.finite 2, .finite 2]
  pathSizes := []
  pathSizeGamma := .nan

theorem candidate_backends_agree_two :
    MetadataAgrees (singleLink (.finite 5) (by decide)) (fun _ => .finite 2) [[7], [], [7, 7]] ∧
      ∃ index utility,
        Host.selectCandidateRouteIndex id twoCandidates twoCandidates.viableIndices =
          .ok (index, utility) ∧
        Rust.selectRouteCandidateIndexImpl id twoCandidates = .ok ((index : ℤ), utility) ∧
        Chosen id twoCandidates index utility := by
  have agrees := candidate_backends_agree (singleLink (.finite 5) (by decide)) id
  refine ⟨agrees.1 _ _ (fun _ => by decide) ?_, agrees.2 _ ?_ ?_ (by decide)⟩
  · intro path there linkId listed
    refine ⟨0, ?_⟩
    change 7 = linkId
    simp only [List.mem_cons, List.not_mem_nil, or_false] at there
    rcases there with rfl | rfl | rfl <;> simp_all
  · decide
  · decide

def threeCandidates : RouteChoice ℚ where
  candidateIds := [0, 1, 2]
  candidatePaths := [[1], [2], [3]]
  costs := [.finite 5, .finite 1]
  pathSizes := []
  pathSizeGamma := .finite 0

/-- The factor of an endless link is no number in one form and tiny in the other; and with a
cost missing the first candidate is taken although another has the greater key. -/
theorem endless_link_and_missing_cost :
    Host.candidatePathSizeFactors (singleLink .posInf (by decide)) [[7]] = .ok [.nan] ∧
      Rust.computeRouteCandidateMetadataImpl [7] [.posInf] [Extended.finite (2 : ℚ)] [[7]] =
        .ok ([.finite 2], [.finite (1 / 1000000000000)]) ∧
      Host.selectCandidateRouteIndex id threeCandidates threeCandidates.viableIndices =
        .ok (0, .finite 0) ∧
      Host.keyGreater id threeCandidates 1 0 = true := by
  refine ⟨?_, ?_, ?_, ?_⟩
  · decide +kernel
  · decide +kernel
  · decide +kernel
  · decide +kernel

end Backends

end Metroflow.Routing
