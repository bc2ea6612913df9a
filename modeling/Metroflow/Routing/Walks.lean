import Metroflow.Routing.Candidates

namespace Metroflow.Routing

open Metroflow.Lib Metroflow.City Metroflow.Flow

variable {p n m : ℕ} (net : RoadNetworkCSR p n m)

def linkIds (ls : List (Fin n)) : List ℤ := ls.map fun l => (net.links l).linkId

inductive Walk (incoming : Option (Fin n)) (origin : Fin p) : List (Fin n) → Fin p → Prop
  | start : Walk incoming origin [] origin
  | extend {ls : List (Fin n)} {node : Fin p} {l : Fin n} (walk : Walk incoming origin ls node)
      (leaves : net.linkSrcNodeIndex l = node)
      (follows : ∀ a, ls.getLast?.or incoming = some a → Follows net a l)
      (away : net.linkDstNodeIndex l ≠ origin) :
      Walk incoming origin (ls ++ [l]) (net.linkDstNodeIndex l)

variable {net}
variable {incoming : Option (Fin n)} {origin node : Fin p} {ls : List (Fin n)}

theorem Walk.end_node (h : Walk net incoming origin ls node) (l : Fin n)
    (last : ls.getLast? = some l) : node = net.linkDstNodeIndex l := by
  cases h with
  | start => cases last
  | extend walk leaves follows away =>
    rw [List.getLast?_concat] at last
    rw [Option.some.inj last]

theorem Walk.chain (h : Walk net incoming origin ls node) : ls.IsChain (Follows net) := by
  induction h with
  | start => exact List.isChain_nil
  | extend walk leaves follows away ih =>
    refine List.isChain_append.mpr ⟨ih, List.isChain_singleton _, ?_⟩
    intro a last b head
    obtain rfl : _ = b := by simpa using head
    exact follows a (by simp [Option.mem_def.mp last])

theorem Walk.first_two (h : Walk net incoming origin ls node) (two : 2 ≤ ls.length) :
    ∃ a b rest, ls = a :: b :: rest ∧ net.linkSrcNodeIndex a = origin ∧
      net.linkDstNodeIndex a = net.linkSrcNodeIndex b ∧ net.linkDstNodeIndex b ≠ origin := by
  induction h with
  | start => simp at two
  | @extend ls node l walk leaves follows away ih =>
    match ls, walk, ih with
    | [], _, _ => simp at two
    | [a], walk, _ =>
      refine ⟨a, l, [], rfl, ?_, ?_, away⟩
      · generalize same : [a] = single at walk
        cases walk with
        | start => cases same
        | @extend ls node b first leaves _ _ =>
          obtain ⟨rfl, rfl⟩ : ls = [] ∧ a = b := by
            have := congrArg List.length same
            cases ls <;> simp_all
          generalize same' : ([] : List (Fin n)) = empty at first
          cases first with
          | start => exact leaves
          | extend => simp at same'
      · rw [leaves]
        exact (walk.end_node a rfl).symm
    | a :: b :: rest, _, ih =>
      obtain ⟨a', b', rest', same, facts⟩ := ih (by simp)
      obtain ⟨rfl, rfl, rfl⟩ : a = a' ∧ b = b' ∧ rest = rest' := by simpa using same
      exact ⟨a, b, rest ++ [l], by simp, facts⟩

/-- A nonempty walk that ends where it was to go. -/
def Reaches (net : RoadNetworkCSR p n m) (incoming : Option (Fin n)) (origin : Fin p)
    (destination : Fin p → Bool) (path : List ℤ) : Prop :=
  ∃ ls node, ls ≠ [] ∧ Walk net incoming origin ls node ∧ path = linkIds net ls ∧
    destination node = true

section Search

variable {ι : Type} (means : ι → Option (Fin n) → Prop)

/-- What the two searches need of the way they choose a next link: it leaves the
node and may follow the link the route came by. -/
def Legal (net : RoadNetworkCSR p n m) (chosen : Fin p → ι → Fin n → Prop) : Prop :=
  ∀ node last prev l, means last prev → chosen node last l →
    net.linkSrcNodeIndex l = node ∧ ∀ a, prev = some a → Follows net a l

theorem greedy_walk_reaches {next : Fin p → ι → Option (Fin n)} {enter : Fin n → ι}
    {arrived : Fin n → Bool} (legal : Legal means net fun node last l => next node last = some l)
    (entered : ∀ l, means (enter l) (some l))
    (away : ∀ l, arrived l = true → net.linkDstNodeIndex l ≠ origin) (hops : ℕ) {last : ι}
    {visited : List (Fin p)} (walk : Walk net incoming origin ls node)
    (known : means last (ls.getLast?.or incoming)) (seen : origin ∈ visited)
    {path : List ℤ} (found : path =
      greedyWalk net next enter arrived hops node last visited (linkIds net ls))
    (some_path : path ≠ []) :
    ∃ ls l, Walk net incoming origin (ls ++ [l]) (net.linkDstNodeIndex l) ∧
      path = linkIds net (ls ++ [l]) ∧ arrived l = true := by
  induction hops generalizing ls node last visited with
  | zero => exact absurd found some_path
  | succ hops ih =>
    unfold greedyWalk at found
    split at found
    · exact absurd found some_path
    · rename_i l chosen
      obtain ⟨leaves, follows⟩ := legal node last _ l known chosen
      split at found
      · rename_i arrives
        exact ⟨ls, l, walk.extend leaves follows (away l arrives), by simp [found, linkIds],
          arrives⟩
      · split at found
        · exact absurd found some_path
        · rename_i fresh
          have elsewhere : net.linkDstNodeIndex l ≠ origin := fun same => fresh (same ▸ seen)
          have known' : means (enter l) ((ls ++ [l]).getLast?.or incoming) := by
            simpa using entered l
          refine ih (walk.extend leaves follows elsewhere) known'
            (List.mem_cons_of_mem (net.linkDstNodeIndex l) seen) ?_
          simpa [linkIds] using found

variable (potential : DynamicPotentialState p n) (incoming origin)

variable {potential incoming origin} {destination : Fin p → Bool} {enter : Fin n → ι}
  {score : Fin p → ι → Except RoutingError (List (ℚ × Fin n))} {maxHops : ℕ}

theorem ranked_search_keeps {R : RankedEntry p ι → Prop} {Q : List ℤ → Prop}
    (grows : ∀ entry links, R entry → score entry.node entry.lastLink = .ok links →
      ∀ scored ∈ links, net.linkDstNodeIndex scored.2 ∉ entry.visited → ∀ estimated cost serial,
        R ⟨estimated, cost, serial, entry.path ++ [(net.links scored.2).linkId],
          net.linkDstNodeIndex scored.2, enter scored.2,
          entry.visited ++ [net.linkDstNodeIndex scored.2]⟩)
    (ends : ∀ entry, R entry → destination entry.node = true → entry.path ≠ [] → Q entry.path)
    {maxCandidates expansions : ℕ} {s : RankedSearch p ι} {paths : List (List ℤ)}
    (routes : ∀ entry ∈ s.heap, R entry) (reached : ∀ path ∈ s.paths, Q path)
    (run : rankedSearch net potential score enter destination maxHops maxCandidates expansions s =
      .ok paths) : ∀ path ∈ paths, Q path := by
  have pushed : ∀ entry links (s : RankedSearch p ι), R entry →
      score entry.node entry.lastLink = .ok links → ∀ rest ⊆ links, (∀ e ∈ s.heap, R e) →
      let s' := rest.foldl (pushContinuation net potential enter destination entry) s
      (∀ e ∈ s'.heap, R e) ∧ s'.paths = s.paths := by
    intro entry links s route scores rest within routes
    induction rest generalizing s with
    | nil => exact ⟨routes, rfl⟩
    | cons scored rest ih =>
      obtain ⟨listed, within⟩ := List.cons_subset.mp within
      have step : (∀ e ∈ (pushContinuation net potential enter destination entry s scored).heap,
          R e) ∧ (pushContinuation net potential enter destination entry s scored).paths =
            s.paths := by
        unfold pushContinuation
        simp only
        split
        · exact ⟨routes, rfl⟩
        · rename_i fresh
          split
          · exact ⟨routes, rfl⟩
          · split
            · exact ⟨routes, rfl⟩
            · exact ⟨List.forall_mem_cons.mpr
                ⟨grows entry links route scores scored listed fresh _ _ _, routes⟩, rfl⟩
      obtain ⟨routes', same⟩ := ih _ within step.1
      exact ⟨routes', same.trans step.2⟩
  induction expansions generalizing s with
  | zero => exact Except.ok.inj run ▸ reached
  | succ expansions ih =>
    unfold rankedSearch at run
    split at run
    · exact Except.ok.inj run ▸ reached
    · split at run
      · exact Except.ok.inj run ▸ reached
      · rename_i entry rest popped
        obtain ⟨s', expanded, run⟩ := bind_ok.mp run
        have listed : ∀ e, e = entry ∨ e ∈ rest → R e :=
          fun e he => routes e ((pop_min_mem popped).mpr he)
        have others : ∀ e ∈ rest, R e := fun e he => listed e (.inr he)
        unfold expandEntry at expanded
        split at expanded
        · rename_i arrived
          split at expanded
          · obtain rfl := Except.ok.inj expanded
            exact ih (s := { s with heap := rest }) others reached run
          · obtain rfl := Except.ok.inj expanded
            refine ih others (List.forall_mem_append.mpr ⟨reached, ?_⟩) run
            exact List.forall_mem_singleton.mpr
              (ends entry (listed entry (.inl rfl)) arrived.1 arrived.2)
        · split at expanded
          · obtain rfl := Except.ok.inj expanded
            exact ih (s := { s with heap := rest }) others reached run
          · obtain ⟨links, scores, expanded⟩ := bind_ok.mp expanded
            obtain rfl := pure_ok.mp expanded
            obtain ⟨routes', same⟩ := pushed entry links { s with heap := rest }
              (listed entry (.inl rfl)) scores links (List.Subset.refl links) others
            exact ih routes' (fun path kept => reached path (same ▸ kept)) run

theorem ranked_search_reaches {maxCandidates expansions : ℕ} {last : ι} {paths : List (List ℤ)}
    (legal : ∀ node last links, score node last = .ok links → ∀ scored ∈ links, ∀ prev,
      means last prev → net.linkSrcNodeIndex scored.2 = node ∧
        ∀ a, prev = some a → Follows net a scored.2)
    (entered : ∀ l, means (enter l) (some l)) (known : means last incoming)
    (run : rankedSearch net potential score enter destination maxHops maxCandidates expansions
      (rankedStart origin last) = .ok paths) :
    ∀ path ∈ paths, Reaches net incoming origin destination path := by
  refine ranked_search_keeps (R := fun entry => ∃ ls, Walk net incoming origin ls entry.node ∧
    entry.path = linkIds net ls ∧ means entry.lastLink (ls.getLast?.or incoming) ∧
      origin ∈ entry.visited) ?_ ?_ (List.forall_mem_singleton.mpr
    ⟨[], .start, rfl, known, List.mem_cons_self⟩) (fun path none => by cases none) run
  · rintro entry links ⟨ls, walk, path, known, seen⟩ scores scored listed fresh - - -
    obtain ⟨leaves, follows⟩ := legal _ _ links scores scored listed _ known
    refine ⟨ls ++ [scored.2], walk.extend leaves follows fun same => fresh (same ▸ seen), ?_, ?_,
      List.mem_append_left _ seen⟩
    · simp [path, linkIds]
    · simpa using entered scored.2
  · rintro entry ⟨ls, walk, path, -, -⟩ arrived some_path
    refine ⟨ls, entry.node, ?_, walk, path, arrived⟩
    rintro rfl
    exact some_path path

end Search

end Metroflow.Routing
