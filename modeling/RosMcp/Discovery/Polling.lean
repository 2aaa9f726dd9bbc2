import RosMcp.Discovery.Engine
import RosMcp.Lib.Run

/-!
# The life cycle of the discovery engine (`discovery/engine.py`)

`start` awaits one poll and creates the poll task, which sleeps and polls until `stop` cancels it and awaits its end.  A
poll reads the version before it awaits the walk over the graph, and stores the snapshot after it, so polls can overlap.

However the calls and the tasks interleave, the registry holds what inference makes of the snapshot that was stored
last, and its version counts the changes of the stored tuples (`polling_registry`).  The versions of the snapshots are
another matter: they repeat when polls overlap.  Where a caller awaits its calls one after another, and polls or starts
only while `_poll_task` is `None`, the versions are 1, 2, 3 and so on, at most one task is alive, and the engine that
has been stopped stays as it is (`polling_versions`).
-/

namespace RosMcp

variable {N : Type}

abbrev PollTaskId := Nat

abbrev LifecycleCallId := Nat

/-- Where `_poll_loop` is. -/
inductive LoopPhase
  | created
  | sleeping
  /-- It awaits the walk of a poll that has read this version. -/
  | refreshing (prevVersion : Nat)
  | ended

/-- A poll task, and whether `cancel` has reached it. -/
structure PollTask where
  phase : LoopPhase
  cancelled : Bool

/-- Where a call of `refresh_once`, `start` or `stop` is. -/
inductive LifecycleCall
  /-- It awaits the walk of a poll that has read this version; `starts` tells `start` from `refresh_once`. -/
  | refreshing (prevVersion : Nat) (starts : Bool)
  | stopping (task : PollTaskId)
  | ended
  deriving DecidableEq

/-- The engine with its coordinator, `_poll_task`, the poll tasks, and the calls. -/
structure Polling (N : Type) where
  discovery : DiscoveryState N
  pollTask : Option PollTaskId
  tasks : PollTaskId → Option PollTask
  nextTask : PollTaskId
  calls : LifecycleCallId → Option LifecycleCall
  nextCall : LifecycleCallId

inductive PollingAction
  | onSnapshotChanged (callback : Nat)
  | onChanged (callback : Nat)
  | refreshOnce
  | start
  | stop
  /-- A call of `refresh_once` or `start` goes on after the walk. -/
  | callResumes (call : LifecycleCallId) (walk : WalkOutcome) (outcomes : CallbackOutcomes)
  /-- `stop` goes on after the end of the task; `raised` is an exception of the task that is no `CancelledError`. -/
  | stopResumes (call : LifecycleCallId) (raised : Bool)
  | taskResumes (task : PollTaskId)
  /-- A poll task goes on after the walk. -/
  | taskWalked (task : PollTaskId) (walk : WalkOutcome) (outcomes : CallbackOutcomes)

/-- `Task.cancel` -/
def PollTask.cancel : PollTask → PollTask
  | ⟨.ended, cancelled⟩ => ⟨.ended, cancelled⟩
  | ⟨phase, _⟩ => ⟨phase, true⟩

namespace Polling

/-- An engine that has just been constructed, with its coordinator. -/
def initial : Polling N := ⟨.initial, none, fun _ => none, 0, fun _ => none, 0⟩

/-- A call begins, and is suspended. -/
def addCall (s : Polling N) (call : LifecycleCall) : Polling N :=
  { s with calls := Function.update s.calls s.nextCall (some call), nextCall := s.nextCall + 1 }

def endCall (s : Polling N) (call : LifecycleCallId) : Polling N :=
  { s with calls := Function.update s.calls call (some .ended) }

def setPhase (s : Polling N) (task : PollTaskId) (phase : LoopPhase) : Polling N :=
  { s with tasks := Function.update s.tasks task (some ⟨phase, false⟩) }

/-- `if self._poll_task is None: self._poll_task = asyncio.create_task(...)` -/
def createTask (s : Polling N) : Polling N :=
  if s.pollTask.isNone then
    { s with
      pollTask := some s.nextTask
      tasks := Function.update s.tasks s.nextTask (some ⟨.created, false⟩)
      nextTask := s.nextTask + 1 }
  else s

section Source

variable [DecidableEq N] (overrides : CapabilityConfig) (safety : SafetyConfig N)

/-- What `refresh_once` does after the walk; `prevVersion` was read before it. -/
def finishRefresh (s : DiscoveryState N) (prevVersion : Nat) (walk : WalkOutcome) (outcomes : CallbackOutcomes) :
    DiscoveryState N × RefreshResult :=
  match walk with
  | .raised exc => (s, .raised exc)
  | .cancelled => (s, .interrupted)
  | .found graph =>
    let newSnapshot := collectGraphSnapshot graph prevVersion
    let changed := ¬ contentEqual s.latest newSnapshot
    let s := { s with latest := newSnapshot }
    if changed then notifySnapshotChanged overrides safety newSnapshot outcomes s.callbacks s
    else (s, .returned newSnapshot)

def step (s : Polling N) : PollingAction → Option (Polling N)
  | .onSnapshotChanged callback =>
    some { s with discovery := s.discovery.call overrides safety (.onSnapshotChanged callback) }
  | .onChanged callback => some { s with discovery := s.discovery.call overrides safety (.onChanged callback) }
  | .refreshOnce => some (s.addCall (.refreshing s.discovery.latest.snapshotVersion false))
  | .start => some (s.addCall (.refreshing s.discovery.latest.snapshotVersion true))
  | .stop =>
    match s.pollTask with
    | none => some s
    | some task =>
      let s := { s with tasks := Function.update s.tasks task ((s.tasks task).map PollTask.cancel) }
      some (s.addCall (.stopping task))
  | .callResumes call walk outcomes =>
    match s.calls call with
    | some (.refreshing prevVersion starts) =>
      let (discovery, result) := finishRefresh overrides safety s.discovery prevVersion walk outcomes
      let s := { s with discovery }.endCall call
      match result with
      | .returned _ => some (if starts then s.createTask else s)
      | .raised _ | .interrupted => some s
    | _ => none
  | .stopResumes call raised =>
    match s.calls call with
    | some (.stopping task) =>
      match s.tasks task with
      | some ⟨.ended, cancelled⟩ =>
        -- `except asyncio.CancelledError`
        if raised then if cancelled then none else some (s.endCall call)
        else some ({ s with pollTask := none }.endCall call)
      | _ => none
    | _ => none
  | .taskResumes task =>
    match s.tasks task with
    | none | some ⟨.ended, _⟩ | some ⟨.refreshing _, false⟩ => none
    -- `CancelledError` is no `Exception`
    | some ⟨_, true⟩ => some { s with tasks := Function.update s.tasks task (some ⟨.ended, true⟩) }
    | some ⟨.created, false⟩ => some (s.setPhase task .sleeping)
    | some ⟨.sleeping, false⟩ => some (s.setPhase task (.refreshing s.discovery.latest.snapshotVersion))
  | .taskWalked task walk outcomes =>
    match s.tasks task with
    | some ⟨.refreshing prevVersion, false⟩ =>
      let (discovery, result) := finishRefresh overrides safety s.discovery prevVersion walk outcomes
      match result with
      | .interrupted => some ({ s with discovery }.setPhase task .ended)
      -- `except Exception`
      | .returned _ | .raised _ => some ({ s with discovery }.setPhase task .sleeping)
    | _ => none

end Source

/-- The snapshot that a poll stores after the walk. -/
def walkSnapshot (prevVersion : Nat) : WalkOutcome → List GraphSnapshot
  | .found graph => [collectGraphSnapshot graph prevVersion]
  | .raised _ | .cancelled => []

/-- The snapshot that a step stores. -/
def stored (s : Polling N) : PollingAction → List GraphSnapshot
  | .callResumes call walk _ =>
    match s.calls call with
    | some (.refreshing prevVersion _) => walkSnapshot prevVersion walk
    | _ => []
  | .taskWalked task walk _ =>
    match s.tasks task with
    | some ⟨.refreshing prevVersion, false⟩ => walkSnapshot prevVersion walk
    | _ => []
  | _ => []

/-! ### What is promised -/

/-- A call of `refresh_once`, `start` or `stop` that has not returned. -/
def InFlight (s : Polling N) (call : LifecycleCallId) : Prop := ∃ x, s.calls call = some x ∧ x ≠ .ended

def Alive (s : Polling N) (task : PollTaskId) : Prop := ∃ x, s.tasks task = some x ∧ x.phase ≠ .ended

/-- The calls are awaited one after another, and none polls while `_poll_task` is set. -/
def Awaited (s : Polling N) : PollingAction → Prop
  | .refreshOnce | .start => s.pollTask = none ∧ ∀ call, ¬ s.InFlight call
  | .stop => ∀ call, ¬ s.InFlight call
  | _ => True

/-! ### The steps -/

section Steps

variable [DecidableEq N] {overrides : CapabilityConfig} {safety : SafetyConfig N} {s t : Polling N} {a : PollingAction}

/-- The state after a poll, whatever the callbacks do. -/
private theorem finishRefresh_found {d : DiscoveryState N} (h : InStep overrides safety d) (prevVersion : Nat)
    (graph : RosGraph) (outcomes : CallbackOutcomes) :
    (finishRefresh overrides safety d prevVersion (.found graph) outcomes).1 =
      { d with
        latest := collectGraphSnapshot graph prevVersion
        registry := d.registry.update (infer (collectGraphSnapshot graph prevVersion) overrides safety) } := by
  -- nothing but the version is read of the old snapshot
  let d' : DiscoveryState N := { d with latest := { d.latest with snapshotVersion := prevVersion } }
  have hd' : InStep overrides safety d' := ⟨h.entries, h.coordinator⟩
  exact call_refreshOnce_found hd' graph outcomes

/-- What one step does. -/
inductive Transition (overrides : CapabilityConfig) (safety : SafetyConfig N) (s : Polling N) :
    PollingAction → Polling N → Prop
  | snapshotCallback (callback : Nat) :
    Transition overrides safety s (.onSnapshotChanged callback)
      { s with discovery := s.discovery.call overrides safety (.onSnapshotChanged callback) }
  | changedCallback (callback : Nat) :
    Transition overrides safety s (.onChanged callback)
      { s with discovery := s.discovery.call overrides safety (.onChanged callback) }
  | called {a : PollingAction} (starts : Bool) (ha : a = .refreshOnce ∨ a = .start) :
    Transition overrides safety s a (s.addCall (.refreshing s.discovery.latest.snapshotVersion starts))
  | idle (h : s.pollTask = none) : Transition overrides safety s .stop s
  | stopping {task : PollTaskId} (h : s.pollTask = some task) :
    Transition overrides safety s .stop
      ({ s with tasks := Function.update s.tasks task ((s.tasks task).map PollTask.cancel) }.addCall (.stopping task))
  | callWalked {call : LifecycleCallId} {prevVersion : Nat} {starts : Bool} (walk : WalkOutcome)
    (outcomes : CallbackOutcomes) (h : s.calls call = some (.refreshing prevVersion starts)) (creates : Bool) :
    Transition overrides safety s (.callResumes call walk outcomes)
      (let discovery := (finishRefresh overrides safety s.discovery prevVersion walk outcomes).1
       if creates then ({ s with discovery }.endCall call).createTask else { s with discovery }.endCall call)
  | stopReturned {call : LifecycleCallId} {task : PollTaskId} {cancelled : Bool}
    (h : s.calls call = some (.stopping task)) (hended : s.tasks task = some ⟨.ended, cancelled⟩) :
    Transition overrides safety s (.stopResumes call false) ({ s with pollTask := none }.endCall call)
  | stopRaised {call : LifecycleCallId} {task : PollTaskId} (h : s.calls call = some (.stopping task))
    (hended : s.tasks task = some ⟨.ended, false⟩) :
    Transition overrides safety s (.stopResumes call true) (s.endCall call)
  | taskCancelled {task : PollTaskId} {phase : LoopPhase} (h : s.tasks task = some ⟨phase, true⟩)
    (halive : phase ≠ .ended) :
    Transition overrides safety s (.taskResumes task)
      { s with tasks := Function.update s.tasks task (some ⟨.ended, true⟩) }
  | taskSleeps {task : PollTaskId} (h : s.tasks task = some ⟨.created, false⟩) :
    Transition overrides safety s (.taskResumes task) (s.setPhase task .sleeping)
  | taskPolls {task : PollTaskId} (h : s.tasks task = some ⟨.sleeping, false⟩) :
    Transition overrides safety s (.taskResumes task)
      (s.setPhase task (.refreshing s.discovery.latest.snapshotVersion))
  | taskWalked {task : PollTaskId} {prevVersion : Nat} (walk : WalkOutcome) (outcomes : CallbackOutcomes)
    (h : s.tasks task = some ⟨.refreshing prevVersion, false⟩) {phase : LoopPhase}
    (hphase : phase = .ended ∨ phase = .sleeping) :
    Transition overrides safety s (.taskWalked task walk outcomes)
      (let discovery := (finishRefresh overrides safety s.discovery prevVersion walk outcomes).1
       { s with discovery }.setPhase task phase)

private theorem step_transition (h : step overrides safety s a = some t) : Transition overrides safety s a t := by
  cases a with
  | onSnapshotChanged callback =>
    obtain rfl := Option.some.inj h
    exact .snapshotCallback callback
  | onChanged callback =>
    obtain rfl := Option.some.inj h
    exact .changedCallback callback
  | refreshOnce =>
    obtain rfl := Option.some.inj h
    exact .called false (Or.inl rfl)
  | start =>
    obtain rfl := Option.some.inj h
    exact .called true (Or.inr rfl)
  | stop =>
    simp only [step] at h
    split at h
    · next hnone =>
      obtain rfl := Option.some.inj h
      exact .idle hnone
    · next task hsome =>
      obtain rfl := Option.some.inj h
      exact .stopping hsome
  | callResumes call walk outcomes =>
    simp only [step] at h
    split at h
    · next prevVersion starts hcall =>
      split at h
      · obtain rfl := Option.some.inj h
        exact .callWalked walk outcomes hcall starts
      · obtain rfl := Option.some.inj h
        exact .callWalked walk outcomes hcall false
      · obtain rfl := Option.some.inj h
        exact .callWalked walk outcomes hcall false
    · cases h
  | stopResumes call raised =>
    simp only [step] at h
    split at h
    · next task hcall =>
      split at h
      · next cancelled htask =>
        cases raised with
        | true =>
          cases cancelled with
          | true => cases h
          | false =>
            obtain rfl := Option.some.inj h
            exact .stopRaised hcall htask
        | false =>
          obtain rfl := Option.some.inj h
          exact .stopReturned hcall htask
      · cases h
    · cases h
  | taskResumes task =>
    simp only [step] at h
    cases htask : s.tasks task with
    | none =>
      rw [htask] at h
      cases h
    | some x =>
      obtain ⟨phase, cancelled⟩ := x
      rw [htask] at h
      cases cancelled with
      | true =>
        cases phase with
        | ended => cases h
        | created | sleeping | refreshing =>
          obtain rfl := Option.some.inj h
          exact .taskCancelled htask (by simp)
      | false =>
        cases phase with
        | ended | refreshing => cases h
        | created =>
          obtain rfl := Option.some.inj h
          exact .taskSleeps htask
        | sleeping =>
          obtain rfl := Option.some.inj h
          exact .taskPolls htask
  | taskWalked task walk outcomes =>
    simp only [step] at h
    split at h
    · next prevVersion htask =>
      split at h
      · obtain rfl := Option.some.inj h
        exact .taskWalked walk outcomes htask (Or.inl rfl)
      · obtain rfl := Option.some.inj h
        exact .taskWalked walk outcomes htask (Or.inr rfl)
      · obtain rfl := Option.some.inj h
        exact .taskWalked walk outcomes htask (Or.inr rfl)
    · cases h

omit [DecidableEq N] in
@[simp] theorem createTask_discovery (s : Polling N) : s.createTask.discovery = s.discovery := by
  unfold createTask
  split <;> rfl

/-- A poll stores at most one snapshot, and brings the registry in step with it. -/
private theorem finishRefresh_stores {d : DiscoveryState N} (h : InStep overrides safety d) (prevVersion : Nat)
    (walk : WalkOutcome) (outcomes : CallbackOutcomes) {d' : DiscoveryState N}
    (hd' : d' = (finishRefresh overrides safety d prevVersion walk outcomes).1) :
    InStep overrides safety d' ∧
      (walkSnapshot prevVersion walk = [] ∧ d'.latest = d.latest ∧ d'.registry = d.registry ∨
        ∃ snapshot, walkSnapshot prevVersion walk = [snapshot] ∧ d'.latest = snapshot ∧
          d'.registry = d.registry.update (infer snapshot overrides safety)) := by
  subst hd'
  cases walk with
  | found graph =>
    rw [finishRefresh_found h]
    exact ⟨⟨by simp, h.coordinator⟩, Or.inr ⟨_, rfl, rfl, rfl⟩⟩
  | raised | cancelled => exact ⟨h, Or.inl ⟨rfl, rfl, rfl⟩⟩

/-- So does every step that ends one. -/
private theorem step_stored (hin : InStep overrides safety s.discovery) (h : step overrides safety s a = some t) :
    InStep overrides safety t.discovery ∧
      (s.stored a = [] ∧ t.discovery.latest = s.discovery.latest ∧ t.discovery.registry = s.discovery.registry ∨
        ∃ snapshot, s.stored a = [snapshot] ∧ t.discovery.latest = snapshot ∧
          t.discovery.registry = s.discovery.registry.update (infer snapshot overrides safety)) := by
  cases step_transition h with
  | snapshotCallback callback => exact ⟨hin.call (.onSnapshotChanged callback), Or.inl ⟨rfl, rfl, rfl⟩⟩
  | changedCallback callback => exact ⟨hin.call (.onChanged callback), Or.inl ⟨rfl, rfl, rfl⟩⟩
  | called starts ha => exact ⟨hin, Or.inl ⟨by rcases ha with rfl | rfl <;> rfl, rfl, rfl⟩⟩
  | idle | stopping | stopReturned | stopRaised | taskCancelled | taskSleeps | taskPolls =>
    exact ⟨hin, Or.inl ⟨rfl, rfl, rfl⟩⟩
  | @callWalked call prevVersion starts walk outcomes hcall creates =>
    have hstored : s.stored (.callResumes call walk outcomes) = walkSnapshot prevVersion walk := by simp [stored, hcall]
    rw [hstored]
    refine finishRefresh_stores hin prevVersion walk outcomes ?_
    cases creates <;> simp [endCall]
  | @taskWalked task prevVersion walk outcomes htask =>
    have hstored : s.stored (.taskWalked task walk outcomes) = walkSnapshot prevVersion walk := by simp [stored, htask]
    rw [hstored]
    exact finishRefresh_stores hin prevVersion walk outcomes rfl

end Steps

/-! ### The registry -/

section Registry

variable [DecidableEq N] {overrides : CapabilityConfig} {safety : SafetyConfig N} {s : Polling N}
  {as : List PollingAction}

private theorem changesFrom_concat (previous : List (CapabilityEntry N))
    (tuples : List (List (CapabilityEntry N))) (entries : List (CapabilityEntry N)) :
    changesFrom previous (tuples ++ [entries]) =
      changesFrom previous tuples + if entries ≠ (tuples.getLast?.getD previous) then 1 else 0 := by
  induction tuples generalizing previous with
  | nil =>
    show _ + 0 = 0 + _
    rw [Nat.add_comm]
    rfl
  | cons tuple tuples ih =>
    have hlast : (tuple :: tuples).getLast?.getD previous = tuples.getLast?.getD tuple := by
      cases tuples with
      | nil => rfl
      | cons next rest => simp [List.getLast?_cons]
    rw [List.cons_append, changesFrom, changesFrom, ih, hlast]
    omega

/-- However polls overlap, the registry is what inference makes of the snapshot that was stored last, and its version
counts the stored snapshots whose tuple differs from the one before. -/
theorem polling_registry (h : StepSystem.run (step overrides safety) (initial (N := N)) as = some s) :
    s.discovery.registry.entries = infer s.discovery.latest overrides safety ∧
      s.discovery.latest =
        (StepSystem.outputs (step overrides safety) stored (initial (N := N)) as).getLast?.getD emptySnapshot ∧
      s.discovery.registry.version =
        changesFrom [] ((StepSystem.outputs (step overrides safety) stored (initial (N := N)) as).map
          fun snapshot => infer snapshot overrides safety) := by
  suffices hall : InStep overrides safety s.discovery ∧
      s.discovery.latest =
        (StepSystem.outputs (step overrides safety) stored (initial (N := N)) as).getLast?.getD emptySnapshot ∧
      s.discovery.registry.version =
        changesFrom [] ((StepSystem.outputs (step overrides safety) stored (initial (N := N)) as).map
          fun snapshot => infer snapshot overrides safety) from ⟨hall.1.entries, hall.2⟩
  refine StepSystem.outputs_invariant (P := fun s snapshots => InStep overrides safety s.discovery ∧
    s.discovery.latest = snapshots.getLast?.getD emptySnapshot ∧
    s.discovery.registry.version = changesFrom [] (snapshots.map fun snapshot => infer snapshot overrides safety))
    ?_ ⟨inStep_initial, rfl, rfl⟩ h
  rintro s a t snapshots ⟨hin, hlatest, hversion⟩ hstep
  obtain ⟨hin', ⟨hnone, hlatest', hregistry'⟩ | ⟨snapshot, hone, hlatest', hregistry'⟩⟩ := step_stored hin hstep
  · rw [hnone, List.append_nil, hlatest', hregistry']
    exact ⟨hin', hlatest, hversion⟩
  · rw [hone, hlatest', hregistry', List.map_append]
    refine ⟨hin', by simp, ?_⟩
    have hentries : s.discovery.registry.entries =
        ((snapshots.map fun snapshot => infer snapshot overrides safety).getLast?.getD []) := by
      rw [hin.entries, hlatest, List.getLast?_map]
      cases snapshots.getLast? with
      | none => exact infer_emptySnapshot
      | some last => rfl
    rw [List.map_singleton, changesFrom_concat, CapabilityRegistry.update_version, hversion, hentries]

end Registry

/-! ### Calls that are awaited -/

section Awaited

variable [DecidableEq N] {overrides : CapabilityConfig} {safety : SafetyConfig N} {s t : Polling N} {a : PollingAction}
  {as : List PollingAction}

/-- Nothing polls but the task in `_poll_task`, or else the last call; and what polls has read the version of the
snapshot that is held. -/
structure OneLoop (s : Polling N) : Prop where
  alive : ∀ task, s.Alive task → s.pollTask = some task
  inFlight : ∀ call, s.InFlight call → call + 1 = s.nextCall
  stopping : ∀ call task, s.calls call = some (.stopping task) → s.pollTask = some task
  calling : ∀ call prevVersion starts, s.calls call = some (.refreshing prevVersion starts) →
    s.pollTask = none ∧ prevVersion = s.discovery.latest.snapshotVersion
  polling : ∀ task prevVersion cancelled, s.tasks task = some ⟨.refreshing prevVersion, cancelled⟩ →
    prevVersion = s.discovery.latest.snapshotVersion

omit [DecidableEq N] in
private theorem oneLoop_initial : OneLoop (initial (N := N)) where
  alive task h := by
    obtain ⟨x, hx, -⟩ := h
    cases hx
  inFlight call h := by
    obtain ⟨x, hx, -⟩ := h
    cases hx
  stopping call task h := by cases h
  calling call prevVersion starts h := by cases h
  polling task prevVersion cancelled h := by cases h

section Updates

omit [DecidableEq N]

private theorem OneLoop.addCall (h : OneLoop s) (hnone : ∀ call, ¬ s.InFlight call) {x : LifecycleCall}
    (hstopping : ∀ task, x = .stopping task → s.pollTask = some task)
    (hcalling : ∀ prevVersion starts, x = .refreshing prevVersion starts →
      s.pollTask = none ∧ prevVersion = s.discovery.latest.snapshotVersion) : OneLoop (s.addCall x) := by
  have hnew : ∀ call, (s.addCall x).InFlight call → call = s.nextCall := by
    intro call hcall
    by_contra hne
    obtain ⟨y, hy, hyended⟩ := hcall
    exact hnone call ⟨y, by simpa [Polling.addCall, hne] using hy, hyended⟩
  refine ⟨h.alive, fun call hcall => congrArg (· + 1) (hnew call hcall), ?_, ?_, h.polling⟩
  · intro call task hcall
    obtain rfl := hnew call ⟨_, hcall, by simp⟩
    exact hstopping task (by simpa [Polling.addCall] using hcall)
  · intro call prevVersion starts hcall
    obtain rfl := hnew call ⟨_, hcall, by simp⟩
    exact hcalling prevVersion starts (by simpa [Polling.addCall] using hcall)

private theorem calls_of_endCall {call c : LifecycleCallId} {x : LifecycleCall} (hx : (s.endCall call).calls c = some x)
    (hended : x ≠ .ended) : c ≠ call ∧ s.calls c = some x := by
  by_cases hc : c = call
  · subst hc
    exact absurd (by simpa [Polling.endCall] using hx.symm) hended
  · exact ⟨hc, by simpa [Polling.endCall, hc] using hx⟩

private theorem OneLoop.endCall (h : OneLoop s) (call : LifecycleCallId) : OneLoop (s.endCall call) := by
  refine ⟨h.alive, ?_, fun c task hc => h.stopping c task (calls_of_endCall hc (by simp)).2,
    fun c prevVersion starts hc => h.calling c prevVersion starts (calls_of_endCall hc (by simp)).2, h.polling⟩
  rintro c ⟨x, hx, hxended⟩
  exact h.inFlight c ⟨x, (calls_of_endCall hx hxended).2, hxended⟩

/-- The call that ends was the only one. -/
private theorem OneLoop.no_calls (h : OneLoop s) {call : LifecycleCallId} (hcall : s.InFlight call)
    (c : LifecycleCallId) :
    ¬ (s.endCall call).InFlight c := by
  rintro ⟨x, hx, hxended⟩
  obtain ⟨hne, hold⟩ := calls_of_endCall hx hxended
  exact hne (Nat.add_right_cancel ((h.inFlight c ⟨x, hold, hxended⟩).trans (h.inFlight call hcall).symm))

private theorem OneLoop.setTask (h : OneLoop s) (task : PollTaskId) {x : Option PollTask}
    (halive : ∀ y, x = some y → y.phase ≠ .ended → s.pollTask = some task)
    (hpolling : ∀ prevVersion cancelled, x = some ⟨.refreshing prevVersion, cancelled⟩ →
      prevVersion = s.discovery.latest.snapshotVersion) :
    OneLoop { s with tasks := Function.update s.tasks task x } := by
  refine ⟨?_, h.inFlight, h.stopping, h.calling, ?_⟩
  · rintro other ⟨y, hy, hyended⟩
    by_cases hother : other = task
    · subst hother
      exact halive y (by simpa using hy) hyended
    · exact h.alive other ⟨y, by simpa [hother] using hy, hyended⟩
  · intro other prevVersion cancelled hother
    by_cases hsame : other = task
    · subst hsame
      exact hpolling prevVersion cancelled (by simpa using hother)
    · exact h.polling other prevVersion cancelled (by simpa [hsame] using hother)

/-- A poll that was the only one in flight ends. -/
private theorem OneLoop.store (h : OneLoop s) (d : DiscoveryState N)
    (hcalls : ∀ call prevVersion starts, s.calls call ≠ some (.refreshing prevVersion starts))
    (htasks : ∀ task prevVersion cancelled, s.tasks task ≠ some ⟨.refreshing prevVersion, cancelled⟩) :
    OneLoop { s with discovery := d } where
  alive := h.alive
  inFlight := h.inFlight
  stopping := h.stopping
  calling call prevVersion starts hcall := absurd hcall (hcalls call prevVersion starts)
  polling task prevVersion cancelled htask := absurd htask (htasks task prevVersion cancelled)

private theorem OneLoop.createTask (h : OneLoop s)
    (hcalls : ∀ call prevVersion starts, s.calls call ≠ some (.refreshing prevVersion starts)) :
    OneLoop s.createTask := by
  unfold Polling.createTask
  split
  · next hnone =>
    have hnone : s.pollTask = none := by simpa using hnone
    refine ⟨?_, h.inFlight, ?_, fun call prevVersion starts hcall => absurd hcall (hcalls call prevVersion starts), ?_⟩
    · rintro task ⟨y, hy, hyended⟩
      by_cases htask : task = s.nextTask
      · rw [htask]
      · have hold := h.alive task ⟨y, by simpa [htask] using hy, hyended⟩
        rw [hnone] at hold
        cases hold
    · intro call task hcall
      have hold := h.stopping call task hcall
      rw [hnone] at hold
      cases hold
    · intro task prevVersion cancelled hpolls
      by_cases htask : task = s.nextTask
      · subst htask
        simp at hpolls
      · exact h.polling task prevVersion cancelled (by simpa [htask] using hpolls)
  · exact h

/-- While a call polls, no task does. -/
private theorem OneLoop.tasks_of_calling (h : OneLoop s) (hnone : s.pollTask = none) (task : PollTaskId)
    (prevVersion : Nat)
    (cancelled : Bool) : s.tasks task ≠ some ⟨.refreshing prevVersion, cancelled⟩ := by
  intro htask
  have halive := h.alive task ⟨_, htask, by simp⟩
  rw [hnone] at halive
  cases halive

end Updates

private theorem OneLoop.step (h : OneLoop s) (hG : s.Awaited a)
    (hstep : step overrides safety s a = some t) : OneLoop t := by
  cases step_transition hstep with
  | snapshotCallback callback => exact ⟨h.alive, h.inFlight, h.stopping, h.calling, h.polling⟩
  | changedCallback callback => exact ⟨h.alive, h.inFlight, h.stopping, h.calling, h.polling⟩
  | called starts ha =>
    obtain ⟨hnone, hcalls⟩ : s.pollTask = none ∧ ∀ call, ¬ s.InFlight call := by rcases ha with rfl | rfl <;> exact hG
    refine h.addCall hcalls (fun task htask => by cases htask) ?_
    rintro prevVersion starts ⟨⟩
    exact ⟨hnone, rfl⟩
  | idle hnone => exact h
  | @stopping task htask =>
    have hcancel : OneLoop { s with tasks := Function.update s.tasks task ((s.tasks task).map PollTask.cancel) } := by
      refine h.setTask task (fun _ _ _ => htask) ?_
      intro prevVersion cancelled hx
      obtain ⟨⟨phase, old⟩, hold, hx⟩ := Option.map_eq_some_iff.1 hx
      cases phase with
      | refreshing version =>
        obtain ⟨rfl, -⟩ : version = prevVersion ∧ _ := by simpa [PollTask.cancel] using hx
        exact h.polling task version old hold
      | created | sleeping | ended => simp [PollTask.cancel] at hx
    refine hcancel.addCall hG ?_ (fun prevVersion starts hx => by cases hx)
    rintro _ ⟨⟩
    exact htask
  | @callWalked call prevVersion starts walk outcomes hcall creates =>
    obtain ⟨hnone, -⟩ := h.calling call prevVersion starts hcall
    have hcalls : ∀ c version b, (s.endCall call).calls c ≠ some (.refreshing version b) :=
      fun c version b hc => h.no_calls ⟨_, hcall, by simp⟩ c ⟨_, hc, by simp⟩
    have hstored := (h.endCall call).store (finishRefresh overrides safety s.discovery prevVersion walk outcomes).1
      hcalls fun task version cancelled => (h.tasks_of_calling hnone task version cancelled)
    cases creates with
    | true => exact hstored.createTask hcalls
    | false => exact hstored
  | @stopReturned call task cancelled hcall hended =>
    have hdead : ∀ other, ¬ s.Alive other := by
      rintro other ⟨x, hx, hxended⟩
      obtain rfl : other = task :=
        Option.some.inj ((h.alive other ⟨x, hx, hxended⟩).symm.trans (h.stopping call task hcall))
      obtain rfl := Option.some.inj (hended.symm.trans hx)
      exact hxended rfl
    have hcalls := h.no_calls ⟨_, hcall, by simp⟩
    exact ⟨fun other halive => absurd halive (hdead other), (h.endCall call).inFlight,
      fun c other hc => absurd ⟨_, hc, by simp⟩ (hcalls c),
      fun c version starts hc => absurd ⟨_, hc, by simp⟩ (hcalls c), h.polling⟩
  | stopRaised hcall hended => exact h.endCall _
  | @taskCancelled task phase htask halive =>
    exact h.setTask task (fun y hy hyended => absurd (by obtain rfl := Option.some.inj hy; rfl) hyended)
      (fun version cancelled hx => by cases hx)
  | @taskSleeps task htask =>
    exact h.setTask task (fun y hy hyended => h.alive task ⟨_, htask, by simp⟩)
      (fun version cancelled hx => by cases hx)
  | @taskPolls task htask =>
    refine h.setTask task (fun y hy hyended => h.alive task ⟨_, htask, by simp⟩) ?_
    rintro version cancelled ⟨⟩
    rfl
  | @taskWalked task prevVersion walk outcomes htask phase hphase =>
    have halive := h.alive task ⟨_, htask, by simp⟩
    have hphase' : ∀ version, phase ≠ .refreshing version := by rcases hphase with rfl | rfl <;> simp
    have hset : OneLoop (s.setPhase task phase) :=
      h.setTask task (fun _ _ _ => halive) fun version cancelled hx =>
        absurd (congrArg PollTask.phase (Option.some.inj hx)) (hphase' version)
    refine hset.store _ ?_ ?_
    · intro call version starts hcall
      obtain ⟨hnone, -⟩ := h.calling call version starts hcall
      rw [halive] at hnone
      cases hnone
    · intro other version cancelled hother
      by_cases hsame : other = task
      · subst hsame
        have hsame : (⟨phase, false⟩ : PollTask) = ⟨.refreshing version, cancelled⟩ := by
          simpa [Polling.setPhase] using hother
        exact hphase' version (congrArg PollTask.phase hsame)
      · have hother : s.tasks other = some ⟨.refreshing version, cancelled⟩ := by
          simpa [Polling.setPhase, hsame] using hother
        have halive' := h.alive other ⟨_, hother, by simp⟩
        rw [halive] at halive'
        exact hsame (Option.some.inj halive').symm

/-- Nothing polls, and nothing is going to without another call. -/
structure Quiet (s : Polling N) : Prop where
  pollTask : s.pollTask = none
  tasks : ∀ task, ¬ s.Alive task
  calls : ∀ call, ¬ s.InFlight call

private theorem Quiet.step (h : Quiet s) (ha : a ≠ .refreshOnce ∧ a ≠ .start)
    (hstep : step overrides safety s a = some t) :
    Quiet t ∧ t.discovery.latest = s.discovery.latest ∧ t.discovery.registry = s.discovery.registry := by
  cases step_transition hstep with
  | snapshotCallback | changedCallback => exact ⟨⟨h.pollTask, h.tasks, h.calls⟩, rfl, rfl⟩
  | called starts hpolls => exact absurd hpolls (not_or.2 ha)
  | idle => exact ⟨h, rfl, rfl⟩
  | stopping hsome =>
    rw [h.pollTask] at hsome
    cases hsome
  | callWalked _ _ hcall | stopReturned hcall | stopRaised hcall => exact absurd ⟨_, hcall, by simp⟩ (h.calls _)
  | taskCancelled htask halive => exact absurd ⟨_, htask, halive⟩ (h.tasks _)
  | taskSleeps htask | taskPolls htask | taskWalked _ _ htask => exact absurd ⟨_, htask, by simp⟩ (h.tasks _)

private theorem Quiet.run {bs : List PollingAction} (h : Quiet s) (hbs : ∀ b ∈ bs, b ≠ .refreshOnce ∧ b ≠ .start)
    (hrun : StepSystem.run (Polling.step overrides safety) s bs = some t) :
    t.discovery.latest = s.discovery.latest ∧ t.discovery.registry = s.discovery.registry := by
  have hkept : Quiet t ∧ t.discovery.latest = s.discovery.latest ∧ t.discovery.registry = s.discovery.registry := by
    refine StepSystem.run_invariant_along (G := fun _ b => b ≠ .refreshOnce ∧ b ≠ .start)
      (P := fun t => Quiet t ∧ t.discovery.latest = s.discovery.latest ∧ t.discovery.registry = s.discovery.registry)
      ?_ ⟨h, rfl, rfl⟩ (.of_forall fun _ => hbs) hrun
    rintro u b v ⟨hquiet, hlatest, hregistry⟩ hb hstep
    obtain ⟨hquiet', hlatest', hregistry'⟩ := hquiet.step hb hstep
    exact ⟨hquiet', hlatest'.trans hlatest, hregistry'.trans hregistry⟩
  exact hkept.2

omit [DecidableEq N] in
/-- A snapshot has the version after the one that is held. -/
private theorem OneLoop.stored_version (h : OneLoop s) {snapshot : GraphSnapshot} (hstored : s.stored a = [snapshot]) :
    snapshot.snapshotVersion = s.discovery.latest.snapshotVersion + 1 := by
  have hwalk : ∀ version walk, walkSnapshot version walk = [snapshot] → snapshot.snapshotVersion = version + 1 := by
    intro version walk hsnapshot
    cases walk with
    | found graph =>
      obtain rfl := List.singleton_inj.1 hsnapshot
      rfl
    | raised | cancelled => cases hsnapshot
  unfold stored at hstored
  split at hstored
  · split at hstored
    · next hcall => rw [hwalk _ _ hstored, (h.calling _ _ _ hcall).2]
    · cases hstored
  · split at hstored
    · next htask => rw [hwalk _ _ hstored, h.polling _ _ _ htask]
    · cases hstored
  · cases hstored

/-- With calls that are awaited one after another, and none that polls while `_poll_task` is set, the snapshots are
counted without gaps and repetitions, at most one poll task is alive, and the engine that was stopped changes no more
before the next call. -/
theorem polling_versions (h : StepSystem.run (step overrides safety) (initial (N := N)) as = some s)
    (hawaited : StepSystem.Along (step overrides safety) Awaited (initial (N := N)) as) :
    (StepSystem.outputs (step overrides safety) stored (initial (N := N)) as).map GraphSnapshot.snapshotVersion =
        List.range' 1 (StepSystem.outputs (step overrides safety) stored (initial (N := N)) as).length ∧
      (∀ task task', s.Alive task → s.Alive task' → task = task') ∧
      (s.pollTask = none → (∀ call, ¬ s.InFlight call) → ∀ bs t, (∀ b ∈ bs, b ≠ .refreshOnce ∧ b ≠ .start) →
        StepSystem.run (step overrides safety) s bs = some t →
        t.discovery.latest = s.discovery.latest ∧ t.discovery.registry = s.discovery.registry) := by
  have hcounted : OneLoop s ∧ InStep overrides safety s.discovery ∧
      s.discovery.latest.snapshotVersion =
        (StepSystem.outputs (step overrides safety) stored (initial (N := N)) as).length ∧
      (StepSystem.outputs (step overrides safety) stored (initial (N := N)) as).map GraphSnapshot.snapshotVersion =
        List.range' 1 (StepSystem.outputs (step overrides safety) stored (initial (N := N)) as).length := by
    refine StepSystem.outputs_invariant_along (P := fun s snapshots => OneLoop s ∧ InStep overrides safety s.discovery ∧
      s.discovery.latest.snapshotVersion = snapshots.length ∧
      snapshots.map GraphSnapshot.snapshotVersion = List.range' 1 snapshots.length)
      ?_ ⟨oneLoop_initial, inStep_initial, rfl, rfl⟩ hawaited h
    rintro s a t snapshots ⟨hone, hin, hlength, hversions⟩ hG hstep
    obtain ⟨hin', ⟨hnone, hlatest, -⟩ | ⟨snapshot, hstored, hlatest, -⟩⟩ := step_stored hin hstep
    · rw [hnone, List.append_nil, hlatest]
      exact ⟨hone.step hG hstep, hin', hlength, hversions⟩
    · have hversion := hone.stored_version hstored
      rw [hlength] at hversion
      rw [hstored, hlatest, List.map_append, List.length_append, List.length_singleton, List.range'_1_concat, hversions]
      exact ⟨hone.step hG hstep, hin', hversion, by rw [List.map_singleton, hversion, Nat.add_comm]⟩
  obtain ⟨hone, -, -, hversions⟩ := hcounted
  refine ⟨hversions, ?_, ?_⟩
  · intro task task' htask htask'
    exact Option.some.inj ((hone.alive task htask).symm.trans (hone.alive task' htask'))
  · intro hnone hcalls bs t hbs hrun
    refine Quiet.run ⟨hnone, fun task halive => ?_, hcalls⟩ hbs hrun
    rw [hone.alive task halive] at hnone
    cases hnone

end Awaited

/-! ### A robot with a scanner -/

section Sample

/-- A node that publishes a scan. -/
def scannerGraph : RosGraph where
  nodes := [⟨"scanner", "/", [("/scan", ["sensor_msgs/msg/LaserScan"])], [], [], [], none⟩]
  actions := some []
  publishersInfo _ := none
  frames := none

def silent : CallbackOutcomes := ⟨fun _ => .returned, fun _ => .returned⟩

/-- The engine is started, and its task polls while `refresh_once` is called. -/
def overlapping : List PollingAction :=
  [.start, .callResumes 0 (.found scannerGraph) silent, .taskResumes 0, .taskResumes 0, .refreshOnce,
    .taskWalked 0 (.found scannerGraph) silent, .callResumes 1 (.found scannerGraph) silent]

/-- The engine is started, and polls twice, the first time in vain. -/
def started : List PollingAction :=
  [.start, .callResumes 0 (.found scannerGraph) silent, .taskResumes 0, .taskResumes 0,
    .taskWalked 0 (.raised ⟨.runtimeError, "rcl"⟩) silent, .taskResumes 0, .taskWalked 0 (.found scannerGraph) silent]

/-- The engine is stopped while its task sleeps. -/
def stopped : List PollingAction := [.stop, .taskResumes 0, .stopResumes 1 false]

/-- Both polls that overlap store version 2. -/
theorem polling_overlapping :
    ∃ s, StepSystem.run (step .defaults (.defaults id)) (initial (N := ℚ)) overlapping = some s ∧
      (StepSystem.outputs (step .defaults (.defaults id)) stored (initial (N := ℚ)) overlapping).map
        GraphSnapshot.snapshotVersion = [1, 2, 2] ∧
      s.discovery.registry.entries = infer s.discovery.latest .defaults (.defaults id) := by
  obtain ⟨s, hs⟩ := Option.isSome_iff_exists.1 (show (StepSystem.run (step .defaults (.defaults id)) (initial (N := ℚ))
    overlapping).isSome by decide +kernel)
  exact ⟨s, hs, by decide +kernel, (polling_registry hs).1⟩

private theorem awaited_started_stopped :
    StepSystem.Along (step .defaults (.defaults id)) Awaited (initial (N := ℚ)) (started ++ stopped) := by
  have hstart : StepSystem.Along (step .defaults (.defaults id)) Awaited (initial (N := ℚ)) started := by
    refine .cons ⟨rfl, fun call hcall => ?_⟩ rfl (.of_forall fun s a ha => ?_)
    · obtain ⟨x, hx, -⟩ := hcall
      cases hx
    · fin_cases ha <;> trivial
  refine hstart.append fun s hs => ?_
  have hone : OneLoop s :=
    StepSystem.run_invariant_along (fun _ _ _ h hG hstep => h.step hG hstep) oneLoop_initial hstart hs
  -- the one call has returned
  have hcalls : (StepSystem.run (step .defaults (.defaults id)) (initial (N := ℚ)) started).map
      (fun s => (s.nextCall, s.calls 0)) = some (1, some .ended) := by decide +kernel
  rw [hs] at hcalls
  obtain ⟨hnext, hended⟩ := Prod.mk.inj (Option.some.inj hcalls)
  obtain ⟨t, ht⟩ : ∃ t, step .defaults (.defaults id) s .stop = some t := by
    unfold step
    dsimp only
    split <;> exact ⟨_, rfl⟩
  refine .cons (fun call hcall => ?_) ht (.of_forall fun s a ha => ?_)
  · obtain rfl : call = 0 := by simpa [hnext] using hone.inFlight call hcall
    obtain ⟨x, hx, hxended⟩ := hcall
    exact hxended (Option.some.inj (hx.symm.trans hended))
  · fin_cases ha <;> trivial

/-- Two snapshots are stored before the engine is stopped. -/
theorem polling_stopped :
    ∃ s, StepSystem.run (step .defaults (.defaults id)) (initial (N := ℚ)) (started ++ stopped) = some s ∧
      (StepSystem.outputs (step .defaults (.defaults id)) stored (initial (N := ℚ)) (started ++ stopped)).map
        GraphSnapshot.snapshotVersion = [1, 2] ∧
      ∀ task task', s.Alive task → s.Alive task' → task = task' := by
  obtain ⟨s, hs⟩ := Option.isSome_iff_exists.1 (show (StepSystem.run (step .defaults (.defaults id)) (initial (N := ℚ))
    (started ++ stopped)).isSome by decide +kernel)
  obtain ⟨hversions, hone, -⟩ := polling_versions hs awaited_started_stopped
  have hlength : (StepSystem.outputs (step .defaults (.defaults id)) stored (initial (N := ℚ))
    (started ++ stopped)).length = 2 := by decide +kernel
  rw [hlength] at hversions
  exact ⟨s, hs, hversions, hone⟩

end Sample

end Polling

end RosMcp
