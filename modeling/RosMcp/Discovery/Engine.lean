import RosMcp.Capabilities.Ontology
import RosMcp.Capabilities.Registry
import RosMcp.Discovery.Snapshot
import RosMcp.Lib.PyFloat

/-!
# The discovery engine and its coordinator (`discovery/engine.py`, `capabilities/coordinator.py`)

A poll replaces the snapshot and, when its content is not that of the old one, calls the callbacks in their order; that
of the coordinator infers the entries and updates the registry, which counts the updates that change something.  Two
comparisons skip work here.  Neither loses anything: inference reads only what the first compares
(`infer_contentEqual`), and no exception of a callback comes between the snapshot and the entries.  After every series
of calls the registry holds what inference makes of the snapshot, and its version is the number of polls that changed
it (`registry_eq_infer`).
-/

namespace RosMcp

variable {N : Type}

/-- `_content_equal` -/
def contentEqual (a b : GraphSnapshot) : Bool :=
  a.nodes = b.nodes ∧ a.topics = b.topics ∧ a.services = b.services ∧ a.actions = b.actions ∧ a.tfFrames = b.tfFrames

/-- The snapshot of an engine that has just been constructed. -/
def emptySnapshot : GraphSnapshot := ⟨0, [], [], [], [], []⟩

/-- What a callback does; `interrupted` is an exception that is not an `Exception`. -/
inductive CallbackOutcome
  | returned
  | raised (exc : PyException)
  | interrupted

/-- What `_callbacks` of the engine holds: `_on_snapshot_changed` of the coordinator, or another callback. -/
inductive SnapshotCallback
  | coordinator
  | other (callback : Nat)

/-- What the other callbacks of the engine and those of the registry do in one call. -/
structure CallbackOutcomes where
  snapshotChanged : Nat → CallbackOutcome
  changed : Nat → CallbackOutcome

/-- The fields of the engine and of the registry that change; `changedCallbacks` is `_callbacks` of the registry. -/
structure DiscoveryState (N : Type) where
  latest : GraphSnapshot
  callbacks : List SnapshotCallback
  registry : CapabilityRegistry N
  changedCallbacks : List Nat

/-- The engine and the registry after the constructor of the coordinator. -/
def DiscoveryState.initial : DiscoveryState N := ⟨emptySnapshot, [.coordinator], .initial, []⟩

/-- What `collect_graph_snapshot` makes of the graph, and what `await` gives `refresh_once`. -/
inductive WalkOutcome
  | found (graph : RosGraph)
  | raised (exc : PyException)
  | cancelled

/-- How `refresh_once` ends. -/
inductive RefreshResult
  | returned (snapshot : GraphSnapshot)
  | raised (exc : PyException)
  | interrupted

/-- The loop over the callbacks in `InMemoryCapabilityRegistry.update`. -/
def notifyChanged (outcome : Nat → CallbackOutcome) : List Nat → CallbackOutcome
  | [] => .returned
  | callback :: callbacks =>
    match outcome callback with
    | .returned => notifyChanged outcome callbacks
    | stopped => stopped

section Poll

variable [DecidableEq N] (overrides : CapabilityConfig) (safety : SafetyConfig N)

/-- `_on_snapshot_changed` of the coordinator, with `update` of the registry: the entries are set before the callbacks
are called. -/
def onSnapshotChanged (s : DiscoveryState N) (snapshot : GraphSnapshot) (outcomes : CallbackOutcomes) :
    DiscoveryState N × CallbackOutcome :=
  let entries := infer snapshot overrides safety
  let changed := entries ≠ s.registry.entries
  ({ s with registry := s.registry.update entries },
    if changed then notifyChanged outcomes.changed s.changedCallbacks else .returned)

/-- `callback(new_snapshot)` -/
def callSnapshotCallback (snapshot : GraphSnapshot) (outcomes : CallbackOutcomes) (s : DiscoveryState N) :
    SnapshotCallback → DiscoveryState N × CallbackOutcome
  | .coordinator => onSnapshotChanged overrides safety s snapshot outcomes
  | .other callback => (s, outcomes.snapshotChanged callback)

/-- The loop over the callbacks in `refresh_once`: it goes on after an `Exception`. -/
def notifySnapshotChanged (snapshot : GraphSnapshot) (outcomes : CallbackOutcomes) :
    List SnapshotCallback → DiscoveryState N → DiscoveryState N × RefreshResult
  | [], s => (s, .returned snapshot)
  | callback :: callbacks, s =>
    let (s', outcome) := callSnapshotCallback overrides safety snapshot outcomes s callback
    match outcome with
    | .interrupted => (s', .interrupted)
    | .returned | .raised _ => notifySnapshotChanged snapshot outcomes callbacks s'

/-- `refresh_once` -/
def refreshOnce (s : DiscoveryState N) (walk : WalkOutcome) (outcomes : CallbackOutcomes) :
    DiscoveryState N × RefreshResult :=
  let prevVersion := s.latest.snapshotVersion
  match walk with
  | .raised exc => (s, .raised exc)
  | .cancelled => (s, .interrupted)
  | .found graph =>
    let newSnapshot := collectGraphSnapshot graph prevVersion
    let changed := ¬ contentEqual s.latest newSnapshot
    let s := { s with latest := newSnapshot }
    if changed then notifySnapshotChanged overrides safety newSnapshot outcomes s.callbacks s
    else (s, .returned newSnapshot)

/-- The calls: `refresh_once`, and the registration of callbacks, which is in order before the poll when a callback
makes it. -/
inductive DiscoveryCall
  | refreshOnce (walk : WalkOutcome) (outcomes : CallbackOutcomes)
  | onSnapshotChanged (callback : Nat)
  | onChanged (callback : Nat)

def DiscoveryState.call (s : DiscoveryState N) : DiscoveryCall → DiscoveryState N
  | .refreshOnce walk outcomes => (refreshOnce overrides safety s walk outcomes).1
  | .onSnapshotChanged callback => { s with callbacks := s.callbacks ++ [.other callback] }
  | .onChanged callback => { s with changedCallbacks := s.changedCallbacks ++ [callback] }

/-- The state after a series of calls that do not overlap. -/
def afterCalls (calls : List DiscoveryCall) : DiscoveryState N :=
  calls.foldl (DiscoveryState.call overrides safety) .initial

/-! ### The specification -/

/-- What inference makes of the snapshot of each poll, from a snapshot on. -/
def inferredTuples : GraphSnapshot → List DiscoveryCall → List (List (CapabilityEntry N))
  | _, [] => []
  | latest, .refreshOnce (.found graph) _ :: calls =>
    infer (collectGraphSnapshot graph latest.snapshotVersion) overrides safety ::
      inferredTuples (collectGraphSnapshot graph latest.snapshotVersion) calls
  | latest, _ :: calls => inferredTuples latest calls

/-- How many of the tuples differ from the one before. -/
def changesFrom (previous : List (CapabilityEntry N)) : List (List (CapabilityEntry N)) → Nat
  | [] => 0
  | entries :: rest => (if entries ≠ previous then 1 else 0) + changesFrom entries rest

end Poll

/-! ### Inference and the comparison of contents -/

section Infer

variable {overrides : CapabilityConfig} {safety : SafetyConfig N}

/-- Inference reads nothing but what is compared. -/
private theorem infer_contentEqual {a b : GraphSnapshot} (h : contentEqual a b = true) :
    infer a overrides safety = infer b overrides safety := by
  obtain ⟨versionA, nodesA, topicsA, servicesA, actionsA, framesA⟩ := a
  obtain ⟨versionB, nodesB, topicsB, servicesB, actionsB, framesB⟩ := b
  simp only [contentEqual, decide_eq_true_eq] at h
  obtain ⟨rfl, rfl, rfl, rfl, rfl⟩ := h
  rfl

/-- Nothing is inferred from an empty graph. -/
theorem infer_emptySnapshot : infer emptySnapshot overrides safety = [] := by
  have hmotion : inferDifferentialDriveMotion emptySnapshot overrides safety = none := by
    unfold inferDifferentialDriveMotion
    dsimp only
    split
    · rfl
    · rfl
  have hnavigation : inferAutonomousNavigation emptySnapshot overrides safety = none := by
    unfold inferAutonomousNavigation
    dsimp only
    split
    · rfl
    · rfl
  unfold infer
  rw [hmotion, hnavigation]
  rfl

end Infer

/-! ### One call -/

section Call

variable [DecidableEq N] {overrides : CapabilityConfig} {safety : SafetyConfig N} {s : DiscoveryState N}

/-- The registry holds what inference makes of the snapshot, and the coordinator is told first of the next one. -/
structure InStep (overrides : CapabilityConfig) (safety : SafetyConfig N) (s : DiscoveryState N) : Prop where
  entries : s.registry.entries = infer s.latest overrides safety
  coordinator : ∃ others, s.callbacks = .coordinator :: others

omit [DecidableEq N] in
theorem inStep_initial : InStep overrides safety (DiscoveryState.initial (N := N)) where
  entries := infer_emptySnapshot.symm
  coordinator := ⟨[], rfl⟩

/-- An update with the entries that are held changes nothing. -/
private theorem CapabilityRegistry.update_self {registry : CapabilityRegistry N} {entries : List (CapabilityEntry N)}
    (h : registry.entries = entries) : registry.update entries = registry := by
  unfold CapabilityRegistry.update
  rw [if_neg (not_not.2 h.symm)]

/-- Once the registry holds the entries of the snapshot, no callback changes the state. -/
theorem notifySnapshotChanged_eq {snapshot : GraphSnapshot} {outcomes : CallbackOutcomes}
    (h : s.registry.entries = infer snapshot overrides safety) (callbacks : List SnapshotCallback) :
    (notifySnapshotChanged overrides safety snapshot outcomes callbacks s).1 = s := by
  induction callbacks with
  | nil => rfl
  | cons callback callbacks ih =>
    have hcall : (callSnapshotCallback overrides safety snapshot outcomes s callback).1 = s := by
      cases callback with
      | coordinator =>
        simp only [callSnapshotCallback, onSnapshotChanged]
        rw [CapabilityRegistry.update_self h]
      | other => rfl
    unfold notifySnapshotChanged
    dsimp only
    rw [hcall]
    split
    · rfl
    · exact ih
    · exact ih

/-- The registry after a poll, whatever the callbacks do. -/
theorem call_refreshOnce_found (h : InStep overrides safety s) (graph : RosGraph) (outcomes : CallbackOutcomes) :
    s.call overrides safety (.refreshOnce (.found graph) outcomes) =
      { s with
        latest := collectGraphSnapshot graph s.latest.snapshotVersion
        registry := s.registry.update
          (infer (collectGraphSnapshot graph s.latest.snapshotVersion) overrides safety) } := by
  generalize hsnapshot : collectGraphSnapshot graph s.latest.snapshotVersion = snapshot
  simp only [DiscoveryState.call, refreshOnce, hsnapshot]
  split
  · obtain ⟨others, hothers⟩ := h.coordinator
    rw [hothers]
    unfold notifySnapshotChanged
    dsimp only [callSnapshotCallback, onSnapshotChanged]
    -- the others find the entries in place
    split
    · rw [← hothers]
    · rw [notifySnapshotChanged_eq (by simp), ← hothers]
    · rw [notifySnapshotChanged_eq (by simp), ← hothers]
  · next hequal =>
    have hentries : s.registry.entries = infer snapshot overrides safety := by
      rw [h.entries]
      exact infer_contentEqual (not_not.1 hequal)
    rw [CapabilityRegistry.update_self hentries]

theorem InStep.call (h : InStep overrides safety s) (call : DiscoveryCall) :
    InStep overrides safety (s.call overrides safety call) := by
  cases call with
  | refreshOnce walk outcomes =>
    cases walk with
    | found graph =>
      rw [call_refreshOnce_found h]
      exact ⟨by simp, h.coordinator⟩
    | raised | cancelled => exact h
  | onSnapshotChanged callback =>
    obtain ⟨others, hothers⟩ := h.coordinator
    exact ⟨h.entries, others ++ [.other callback], by simp [DiscoveryState.call, hothers]⟩
  | onChanged => exact ⟨h.entries, h.coordinator⟩

/-! ### Every series of calls -/

/-- The version counts the changes of the inferred tuple. -/
private theorem InStep.calls (h : InStep overrides safety s) (calls : List DiscoveryCall) :
    InStep overrides safety (calls.foldl (DiscoveryState.call overrides safety) s) ∧
      (calls.foldl (DiscoveryState.call overrides safety) s).registry.version =
        s.registry.version +
          changesFrom (infer s.latest overrides safety) (inferredTuples overrides safety s.latest calls) := by
  induction calls generalizing s with
  | nil => exact ⟨h, by simp [inferredTuples, changesFrom]⟩
  | cons call calls ih =>
    rw [List.foldl_cons]
    obtain ⟨hstep, hversion⟩ := ih (h.call call)
    refine ⟨hstep, ?_⟩
    rw [hversion]
    cases call with
    | refreshOnce walk outcomes =>
      cases walk with
      | found graph =>
        rw [call_refreshOnce_found h]
        simp only [inferredTuples, changesFrom, CapabilityRegistry.update_version, h.entries]
        omega
      | raised | cancelled => rfl
    | onSnapshotChanged | onChanged => rfl

end Call

/-- After every series of calls the registry is what inference makes of the latest snapshot, a poll that fails has
changed nothing, and the version counts the polls whose tuple differs from the one before. -/
theorem registry_eq_infer [DecidableEq N] (overrides : CapabilityConfig) (safety : SafetyConfig N)
    (calls : List DiscoveryCall) :
    (afterCalls overrides safety calls).registry.entries =
        infer (afterCalls overrides safety calls).latest overrides safety ∧
      (∀ walk outcomes, (∀ graph, walk ≠ .found graph) →
        afterCalls overrides safety (calls ++ [.refreshOnce walk outcomes]) = afterCalls overrides safety calls) ∧
      (afterCalls overrides safety calls).registry.version =
        changesFrom [] (inferredTuples overrides safety emptySnapshot calls) := by
  obtain ⟨hstep, hversion⟩ := (@inStep_initial N overrides safety).calls calls
  refine ⟨hstep.entries, ?_, ?_⟩
  · intro walk outcomes hwalk
    unfold afterCalls
    rw [List.foldl_append, List.foldl_cons, List.foldl_nil]
    cases walk with
    | found graph => exact absurd rfl (hwalk graph)
    | raised | cancelled => rfl
  · have hempty : infer (DiscoveryState.initial (N := N)).latest overrides safety = [] := infer_emptySnapshot
    rw [hempty] at hversion
    unfold afterCalls
    rw [hversion]
    exact Nat.zero_add _

end RosMcp
