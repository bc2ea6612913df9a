import Metroflow.Lib.ExactScalar
import Metroflow.Lib.Loops

namespace Metroflow.Routing

open Metroflow.Lib

inductive RoutingBackend where
  | baseline
  | rustCpu
  | auto
  deriving DecidableEq, Repr

inductive RoutingError where
  | unknownNode (nodeId : ℤ)
  | rustUnavailable
  | rustHopLimit
  | rustMaxCandidates
  | rustNegativeNodeCost
  | rustNegativeLinkCost
  | rustNegativeLinkId
  | notViable
  | maxCandidates
  | negativeLinkId
  deriving DecidableEq, Repr

namespace RoutingError

def message : RoutingError → String
  | .unknownNode nodeId => toString nodeId
  | .rustUnavailable =>
    "Rust CPU routing backend unavailable. Build it with: .venv/bin/python -m maturin develop " ++
      "--manifest-path crates/metroflow-rust/Cargo.toml"
  | .rustHopLimit => "Rust CPU routing backend failed: max_hops must be >= 1"
  | .rustMaxCandidates => "Rust CPU routing backend failed: max_candidates must be >= 1"
  | .rustNegativeNodeCost =>
    "Rust CPU routing backend failed: node_cost_to_go must be non-negative"
  | .rustNegativeLinkCost =>
    "Rust CPU routing backend failed: link_travel_time_cost must be non-negative"
  | .rustNegativeLinkId =>
    "Rust CPU routing backend failed: candidate_paths must contain non-negative link ids"
  | .notViable => "Rust CPU routing backend failed: selected candidate index is not viable"
  | .maxCandidates => "max_candidates must be >= 1"
  | .negativeLinkId => "candidate_paths must contain non-negative link ids"

/-- The errors that the automatic backend answers by running on the host. -/
def isRuntimeError : RoutingError → Bool
  | .rustUnavailable | .rustHopLimit | .rustMaxCandidates | .rustNegativeNodeCost
  | .rustNegativeLinkCost | .rustNegativeLinkId | .notViable => true
  | _ => false

end RoutingError

/-- The functions of the compiled routing module. -/
inductive RustExport where
  | dynamicPotential
  | multiDestination
  | greedyCandidate
  | nextLinkCosts
  | rankedCandidates
  | rankedBatch
  | candidateMetadata
  | selectIndex
  | rerouteDecision
  deriving DecidableEq, Repr

/-- Which functions the installed compiled module has; none when it is missing. -/
structure RustExtension where
  exports : RustExport → Bool

namespace RustExtension

/-- No compiled module. -/
def missing : RustExtension := ⟨fun _ => false⟩

def routingBackendAvailable (rust : RustExtension) : Bool :=
  rust.exports .dynamicPotential && rust.exports .multiDestination &&
    rust.exports .greedyCandidate && rust.exports .nextLinkCosts &&
    rust.exports .rankedCandidates && rust.exports .rankedBatch &&
    rust.exports .candidateMetadata && rust.exports .selectIndex

def rerouteBackendAvailable (rust : RustExtension) : Bool := rust.exports .rerouteDecision

/-- A call of a compiled function, which fails when the module lacks it. -/
def call {α : Type} (rust : RustExtension) (name : RustExport) (result : Except RoutingError α) :
    Except RoutingError α :=
  if rust.exports name then result else .error .rustUnavailable

end RustExtension

/-- Who computed a result, and why not the compiled module. -/
inductive Computed where
  | host
  | rust
  | hostUnavailable
  | hostFailed
  deriving DecidableEq, Repr

/-- The choice between the host and the compiled form of one function: the
automatic backend goes to the host when the module is missing or fails. -/
def dispatch {α : Type} (backend : RoutingBackend) (available : Bool)
    (compiled host : Except RoutingError α) : Except RoutingError (α × Computed) :=
  match backend with
  | .baseline => host.map (·, .host)
  | .rustCpu => compiled.map (·, .rust)
  | .auto =>
    if available then
      match compiled with
      | .ok result => .ok (result, .rust)
      | .error e => if e.isRuntimeError then host.map (·, .hostFailed) else .error e
    else host.map (·, .hostUnavailable)

section Dispatch

variable {α : Type} {rust : RustExtension} {name : RustExport} {backend : RoutingBackend}
  {available : Bool} {compiled host : Except RoutingError α} {a : α} {by_ : Computed}

theorem RustExtension.call_ok (h : rust.call name compiled = .ok a) : compiled = .ok a := by
  unfold RustExtension.call at h
  split at h
  · exact h
  · cases h

theorem dispatch_ok (h : dispatch backend available compiled host = .ok (a, by_)) :
    compiled = .ok a ∨ host = .ok a := by
  have paired : ∀ {x : Except RoutingError α} {c : Computed}, x.map (·, c) = .ok (a, by_) →
      x = .ok a := by
    intro x c h
    obtain ⟨_, found, same⟩ := map_ok.mp h
    obtain ⟨rfl, _⟩ := Prod.mk.inj same
    exact found
  unfold dispatch at h
  split at h
  · exact .inr (paired h)
  · exact .inl (paired h)
  · split at h
    · split at h
      · rename_i result
        obtain ⟨rfl, _⟩ := Prod.mk.inj (Except.ok.inj h)
        exact .inl rfl
      · split at h
        · exact .inr (paired h)
        · cases h
    · exact .inr (paired h)

@[simp]
theorem dispatch_baseline :
    dispatch .baseline available compiled host = host.map (·, .host) := rfl

@[simp]
theorem dispatch_rust : dispatch .rustCpu available compiled host = compiled.map (·, .rust) := rfl

@[simp]
theorem map_computed {x : Except RoutingError α} {c : Computed} :
    (x.map (·, c)).map Prod.fst = x := by
  cases x <;> rfl

@[simp]
theorem computed_bind {x : Except RoutingError α} {c : Computed} :
    (do
      let (a, _) ← x.map (·, c)
      return a) = x := by
  cases x <;> rfl

end Dispatch

end Metroflow.Routing
