import RosMcp.Execution.Dedup

/-!
# What one step of an execution assigns and returns

`Proceeds w c p reply states p'` lists the transitions of an execution of the command object `c` once more: the await
`p` is answered by `reply`, the step assigns `states` to `execution_state` one after the other, and the execution goes
on to `p'`.  A result that the manager builds itself agrees with the last of these states (`Envelope`); the results of
a read handler and of a backend are passed on, with the state that `finalState` reads off their status.

`resume_advances` says which transition a step of `resume` is for the assignments, as `resume_moves` does for the
tables.
-/

namespace RosMcp

variable {N : Type}

/-! ### Results and final states -/

/-- The result of a command agrees with its final state. -/
structure Envelope (command : SemanticCommand N) (final : ExecutionState) (r : ToolResult N) : Prop where
  resultType : r.fields.resultType = command.expectedResultType
  commandId : r.commandId = command.commandId
  robotId : r.robotId = command.robotId
  error_eq_none_iff : r.error = none ↔ r.status = .succeeded
  succeeded_iff : r.status = .succeeded ↔ final = .succeeded
  awaitingApproval_iff : r.status = .awaitingApproval ↔ final = .awaitingApproval
  failed_iff : r.status = .failed ↔ final = .safetyRejected ∨ final = .capabilityUnavailable ∨ final = .failed

/-- The final states of a failed command. -/
def ExecutionState.Failing (final : ExecutionState) : Prop :=
  final = .safetyRejected ∨ final = .capabilityUnavailable ∨ final = .failed

/-- A completed result agrees with the state that `finalState` gives it. -/
theorem ToolResult.Completed.envelope {command : SemanticCommand N} {r : ToolResult N}
    (h : r.Completed command.expectedResultType command.commandId command.robotId) :
    Envelope command (finalState r) r := by
  have herror := h.error_eq_none_iff
  obtain ⟨htype, hcommand, hrobot, houtcome⟩ := h
  unfold finalState
  rcases houtcome with ⟨hstatus, -⟩ | ⟨hstatus, -⟩
  · refine ⟨htype, hcommand, hrobot, herror, ?_, ?_, ?_⟩ <;> simp [hstatus]
  · refine ⟨htype, hcommand, hrobot, herror, ?_, ?_, ?_⟩ <;> simp [hstatus]

/-- An error result agrees with every state of a failed command. -/
private theorem buildErrorResult_envelope [IntCast N] (command : SemanticCommand N) {final : ExecutionState}
    (hfinal : final.Failing) (d : N) (error : ToolError N) :
    Envelope command final
      (buildErrorResult command.expectedResultType command.commandId command.robotId d error) := by
  have htype := buildResultWithDefaults_resultType command.expectedResultType .failed command.commandId
    command.robotId d (some error)
  refine ⟨htype, rfl, rfl, ?_, ?_, ?_, ?_⟩
  all_goals
    rcases hfinal with rfl | rfl | rfl <;> simp [buildErrorResult, buildResultWithDefaults]

private theorem awaitingApproval_envelope [IntCast N] [Sub N] (w : Wiring N) (x : Execution N) (now : N)
    (reason : Message N) :
    Envelope (w.command x.command) .awaitingApproval (awaitingApproval w x now reason) := by
  refine ⟨buildResultWithDefaults_resultType _ _ _ _ _ _, rfl, rfl, ?_, ?_, ?_, ?_⟩
  all_goals simp [awaitingApproval, buildResultWithDefaults]

/-! ### The assignments of a step -/

/-- From `s` to `s'` the states `states` have been assigned to the command object `c`, in this order. -/
structure Assigns (s s' : State N) (c : CommandRef) (states : List ExecutionState) : Prop where
  assigned : s'.assigned = s.assigned ++ states.map (Prod.mk c)
  executionState : s'.executionState = states.foldl (fun f st => Function.update f c st) s.executionState

/-- The awaits of a STOP after its ALLOW. -/
def Point.Stopping : Point N → Prop
  | .stopMotion _ | .stopNavigation _ _ => True
  | _ => False

theorem Point.Stopping.live {p : Point N} (h : p.Stopping) : p.Live ∧ p ≠ .backend := by
  cases p with
  | stopMotion | stopNavigation => exact ⟨trivial, by simp⟩
  | _ => cases h

/-- The transitions of an execution, with the reply that each answers and the states that each assigns. -/
inductive Proceeds (w : Wiring N) (c : CommandRef) :
    Point N → Reply N → List ExecutionState → Point N → Prop
  | read (hclass : (w.command c).commandClass = .read) : Proceeds w c .created .start [.executing] .handler
  | begin (hclass : (w.command c).commandClass ≠ .read) : Proceeds w c .created .start [.safetyCheck] .pose
  | posed (q : Option (Pose2D N)) : Proceeds w c .pose (.pose (.ok q)) [] (.check q)
  | dispatched (q : Option (Pose2D N)) (outcome : SafetyOutcome N) (b : Backend) (call : BackendCall)
      (hop : Dispatches (w.command c).operation call) :
      Proceeds w c (.check q) (.check (.ok outcome) (.ok (some b))) [.planning, .executing] .backend
  | stopping (q : Option (Pose2D N)) (outcome : SafetyOutcome N) (selected : Except PyException (Option Backend))
      (p : Point N) (hop : (w.command c).operation = .stop) (hp : p.Stopping) :
      Proceeds w c (.check q) (.check (.ok outcome) selected) [.planning] p
  | stopped (cancelledId : Option String) (finalPose : Option (Pose2D N)) :
      Proceeds w c (.stopMotion cancelledId) (.stop (.result finalPose)) []
        (.stopNavigation cancelledId finalPose)
  | stopFinished (p : Point N) (reply : Reply N) (states : List ExecutionState) (r : ToolResult N) (hlive : p.Live)
      (hop : p.Stopping ∨ (w.command c).operation = .stop) (hstates : states = [] ∨ states = [.planning])
      (hr : r.Completed .stop (w.command c).commandId (w.command c).robotId) (hstatus : r.status = .succeeded) :
      Proceeds w c p reply (states ++ [.succeeded]) (.done (.returned r))
  | handled (r : ToolResult N) :
      Proceeds w c .handler (.handler (.ok r)) [finalState r] (.done (.returned r))
  | released (r : ToolResult N) :
      Proceeds w c .backend (.backend (.returned r)) [finalState r] (.done (.returned r))
  | refused (p : Point N) (reply : Reply N) (states : List ExecutionState) (final : ExecutionState)
      (r : ToolResult N) (hlive : p.Live) (hstates : ∀ st ∈ states, st.terminal = false)
      (hfinal : final ≠ .succeeded) (hr : Envelope (w.command c) final r) :
      Proceeds w c p reply (states ++ [final]) (.done (.returned r))
  | deniedBare (q : Option (Pose2D N)) (outcome : SafetyOutcome N) (selected : Except PyException (Option Backend))
      (r : ToolResult N) (hdecision : outcome.decision = .deny) (herror : outcome.error = none)
      (hr : Envelope (w.command c) .failed r) :
      Proceeds w c (.check q) (.check (.ok outcome) selected) [.safetyRejected, .failed] (.done (.returned r))
  | cancelled (p : Point N) (hlive : p.Live) : Proceeds w c p .cancelled [] (.done .cancelled)

/-- `s'` is `s` after a transition of the execution `e` from `x` to `x'`, as far as the states and the results go. -/
structure Advances (w : Wiring N) (s s' : State N) (e : ExecId) (x x' : Execution N) (reply : Reply N)
    (states : List ExecutionState) : Prop where
  execs : s'.execs e = some x'
  command_eq : x'.command = x.command
  assigns : Assigns s s' x.command states
  proceeds : Proceeds w x.command x.point reply states x'.point

namespace Assigns

variable {s s₁ : State N} {c : CommandRef} {states : List ExecutionState}

theorem refl : Assigns s s c [] := by
  constructor
  case assigned => rw [List.map_nil, List.append_nil]
  case executionState => rfl

theorem set (h : Assigns s s₁ c states) (st : ExecutionState) :
    Assigns s (s₁.setExecutionState c st) c (states ++ [st]) := by
  constructor
  case assigned =>
    rw [State.setExecutionState, h.assigned, List.map_append, List.append_assoc]
    rfl
  case executionState =>
    rw [State.setExecutionState, h.executionState, List.foldl_append]
    rfl

theorem emit (h : Assigns s s₁ c states) (events : List (Event N)) : Assigns s (s₁.emit events) c states :=
  ⟨h.assigned, h.executionState⟩

private theorem register (h : Assigns s s₁ c states) (e : ExecId) (c' : CommandRef) (command : SemanticCommand N)
    (token : Token N) : Assigns s (s₁.register e c' command token) c states :=
  ⟨h.assigned, h.executionState⟩

private theorem release (h : Assigns s s₁ c states) (c' : CommandRef) (command : SemanticCommand N) :
    Assigns s (s₁.release c' command) c states :=
  ⟨h.assigned, h.executionState⟩

private theorem cancelToken (h : Assigns s s₁ c states) (token : Option ExecId) :
    Assigns s (s₁.cancelToken token) c states := by
  cases token with
  | none => exact h
  | some t => exact ⟨h.assigned, h.executionState⟩

/-- The execution is suspended at its next await. -/
private theorem suspend {w : Wiring N} {e : ExecId} {x y : Execution N} {reply : Reply N} {p : Point N}
    (h : Assigns s s₁ x.command states) (hy : y.command = x.command)
    (hm : Proceeds w x.command x.point reply states p) :
    Advances w s (s₁.suspend e y p) e x { y with point := p } reply states := by
  constructor
  case execs => exact Function.update_self _ _ _
  case command_eq => exact hy
  case assigns => exact ⟨h.assigned, h.executionState⟩
  case proceeds => exact hm

end Assigns

/-! ### Inversion -/

section Inversion

variable [IntCast N] [Add N] [Sub N] {w : Wiring N} {s s₁ s' : State N} {e : ExecId} {x y : Execution N} {now : N}
  {states : List ExecutionState} {reply : Reply N}

omit [Add N] in
/-- The exception branch of `_execute` ends with FAILED. -/
private theorem Assigns.unhandled (h : Assigns s s₁ x.command states) (hlive : x.point.Live)
    (hstates : ∀ st ∈ states, st.terminal = false) (exc : PyException) :
    ∃ x' states', Advances w s (unhandled w s₁ e x now exc) e x x' reply states' :=
  ⟨_, _, (h.set .failed).suspend rfl (.refused _ _ states .failed _ hlive hstates (by simp)
    (buildErrorResult_envelope _ (Or.inr (Or.inr rfl)) _ _))⟩

omit [Add N] in
private theorem execute_advances (hp : x.point = .created) :
    ∃ x' states, Advances w s (execute w s e x now) e x x' .start states := by
  unfold execute
  dsimp only
  by_cases hclass : (w.command x.command).commandClass = .read
  · rw [if_pos hclass]
    unfold executeRead
    dsimp only
    split
    · exact ⟨_, _, (Assigns.refl.set .executing).suspend rfl (by rw [hp]; exact .read hclass)⟩
    · refine ⟨_, _, ((Assigns.refl.set .executing).set .failed).suspend rfl ?_⟩
      rw [hp]
      exact .refused _ _ [.executing] .failed _ live_created (by simp [ExecutionState.terminal]) (by simp)
        (buildErrorResult_envelope _ (Or.inr (Or.inr rfl)) _ _)
  · rw [if_neg hclass]
    exact ⟨_, _, (Assigns.refl.set .safetyCheck).suspend rfl (by rw [hp]; exact .begin hclass)⟩

/-- `dispatch`, after the states up to PLANNING. -/
private theorem dispatch_advances {q : Option (Pose2D N)} {outcome : SafetyOutcome N} {b : Backend}
    (h : Assigns s s₁ x.command [.planning]) (hp : x.point = .check q) :
    ∃ x' states, Advances w s (dispatch w s₁ e x now) e x x' (.check (.ok outcome) (.ok (some b))) states := by
  have hlive : x.point.Live := by
    rw [hp]
    exact live_check q
  have hstates : ∀ st ∈ [ExecutionState.planning, .executing], st.terminal = false := by
    simp [ExecutionState.terminal]
  have hset := (h.register e x.command (w.command x.command) ⟨now + (w.command x.command).timeoutS, false⟩).set
    .executing
  have hback := hset.release x.command (w.command x.command)
  unfold dispatch
  dsimp only
  split
  · next hop =>
    split
    · refine ⟨_, _, (hset.emit _).suspend rfl ?_⟩
      rw [hp]
      exact .dispatched q outcome b .move (by rw [hop]; exact .move)
    · exact hback.unhandled hlive hstates (noBackend "move")
  · next hop =>
    split
    · refine ⟨_, _, (hset.emit _).suspend rfl ?_⟩
      rw [hp]
      exact .dispatched q outcome b .navigate (by rw [hop]; exact .navigate)
    · exact hback.unhandled hlive hstates (noBackend "navigate")
  · exact ⟨_, _, (hback.set .failed).suspend rfl (.refused _ _ _ .failed _ hlive hstates (by simp)
      (buildErrorResult_envelope _ (Or.inr (Or.inr rfl)) _ _))⟩

omit [IntCast N] [Add N] in
private theorem stopNavigation_advances {cancelledId : Option String} {finalPose : Option (Pose2D N)}
    (h : Assigns s s₁ x.command states) (hlive : x.point.Live)
    (hop : x.point.Stopping ∨ (w.command x.command).operation = .stop)
    (hstates : states = [] ∨ states = [.planning])
    (hm : Proceeds w x.command x.point reply states (.stopNavigation cancelledId finalPose)) :
    ∃ x' states', Advances w s (stopNavigation w s₁ e x now cancelledId finalPose) e x x' reply states' := by
  unfold stopNavigation
  split
  · exact ⟨_, _, (h.emit _).suspend rfl hm⟩
  · exact ⟨_, _, (h.set .succeeded).suspend rfl
      (.stopFinished _ _ _ _ hlive hop hstates ⟨rfl, rfl, rfl, Or.inl ⟨rfl, rfl⟩⟩ rfl)⟩

omit [IntCast N] [Add N] in
private theorem handleStop_advances {q : Option (Pose2D N)} {outcome : SafetyOutcome N}
    {selected : Except PyException (Option Backend)} (h : Assigns s s₁ x.command [.planning])
    (hp : x.point = .check q) (hop : (w.command x.command).operation = .stop) :
    ∃ x' states, Advances w s (handleStop w s₁ e x now) e x x' (.check (.ok outcome) selected) states := by
  have hlook := (h.cancelToken (stopToken w s₁ (w.command x.command))).emit
    [.looked e (s₁.activeCommands (w.command x.command).robotId) (stopToken w s₁ (w.command x.command))]
  have hm (p : Point N) (hstop : p.Stopping) :
      Proceeds w x.command x.point (.check (.ok outcome) selected) [.planning] p := by
    rw [hp]
    exact .stopping q outcome selected p hop hstop
  unfold handleStop
  dsimp only
  split
  · exact ⟨_, _, (hlook.emit _).suspend rfl (hm _ trivial)⟩
  · exact stopNavigation_advances hlook (by rw [hp]; exact live_check q) (Or.inr hop) (Or.inr rfl) (hm _ trivial)

private theorem executeChecked_advances {q : Option (Pose2D N)} {outcome : SafetyOutcome N}
    {selected : Except PyException (Option Backend)} (hp : x.point = .check q) :
    ∃ x' states, Advances w s (executeChecked w s e x now q outcome selected) e x x' (.check (.ok outcome) selected)
      states := by
  have hlive : x.point.Live := by
    rw [hp]
    exact live_check q
  have hplanning : ∀ st ∈ [ExecutionState.planning], st.terminal = false := by simp [ExecutionState.terminal]
  have hc : Assigns s (s.emit [.checked e x.command q outcome.decision]) x.command [] := Assigns.refl.emit _
  unfold executeChecked
  dsimp only
  split
  · next hd =>
    have hset := hc.set .safetyRejected
    split
    · exact ⟨_, _, hset.suspend rfl (.refused _ _ [] .safetyRejected _ hlive (by simp) (by simp)
        (buildErrorResult_envelope _ (Or.inl rfl) _ _))⟩
    · next herror =>
      refine ⟨_, _, (hset.set .failed).suspend rfl ?_⟩
      rw [hp]
      exact .deniedBare q outcome selected _ hd herror (buildErrorResult_envelope _ (Or.inr (Or.inr rfl)) _ _)
  · exact ⟨_, _, (hc.set .awaitingApproval).suspend rfl (.refused _ _ [] .awaitingApproval _ hlive (by simp) (by simp)
      (awaitingApproval_envelope w x now _))⟩
  · have hset := hc.set .planning
    by_cases hop : (w.command x.command).operation = .stop
    · rw [if_pos hop]
      exact handleStop_advances hset hp hop
    · rw [if_neg hop]
      split
      · next exc =>
        exact hset.unhandled hlive hplanning exc
      · exact ⟨_, _, ((hset.emit _).set .capabilityUnavailable).suspend rfl
          (.refused _ _ [.planning] .capabilityUnavailable _ hlive hplanning (by simp)
            (buildErrorResult_envelope _ (Or.inr (Or.inl rfl)) _ _))⟩
      · exact dispatch_advances (hset.emit _) hp

/-- Every step of `resume` advances the execution by one of the transitions. -/
theorem resume_advances (h : resume w s e now reply = some s') (hx : s.execs e = some x) :
    ∃ x' states, Advances w s s' e x x' reply states := by
  have hrelease := (Assigns.refl (s := s) (c := x.command)).release x.command (w.command x.command)
  cases resume_goes_of h hx with
  | started hp => exact execute_advances hp
  | handled r hp => exact ⟨_, _, (Assigns.refl.set _).suspend rfl (by rw [hp]; exact .handled r)⟩
  | posed q hp => exact ⟨_, _, (Assigns.refl.emit _).suspend rfl (by rw [hp]; exact .posed q)⟩
  | checked q outcome selected hp => exact executeChecked_advances hp
  | returned r hp => exact ⟨_, _, (hrelease.set _).suspend rfl (by rw [hp]; exact .released r)⟩
  | backendRaised exc hp => exact hrelease.unhandled (by rw [hp]; trivial) (by simp) exc
  | timedOut hp =>
    exact ⟨_, _, (hrelease.set .failed).suspend rfl (.refused _ _ [] .failed _ (by rw [hp]; trivial) (by simp) (by simp)
      (buildErrorResult_envelope _ (Or.inr (Or.inr rfl)) _ _))⟩
  | backendCancelled hp => exact ⟨_, _, hrelease.suspend rfl (.cancelled _ (by rw [hp]; trivial))⟩
  | stopped cid fp hp =>
    exact stopNavigation_advances (Assigns.refl.emit _) (by rw [hp]; trivial) (Or.inl (by rw [hp]; trivial))
      (Or.inl rfl) (by rw [hp]; exact .stopped cid fp)
  | cancelledAll cid fp hp =>
    have hstop : x.point.Stopping := by rw [hp]; trivial
    exact ⟨_, _, (Assigns.refl.set .succeeded).suspend rfl
      (.stopFinished _ _ [] _ hstop.live.1 (Or.inl hstop) (Or.inl rfl) ⟨rfl, rfl, rfl, Or.inl ⟨rfl, rfl⟩⟩ rfl)⟩
  | raised hraises hlive hb => exact Assigns.refl.unhandled hlive (by simp) _
  | cancelled hlive hb => exact ⟨_, _, Assigns.refl.suspend rfl (.cancelled _ hlive)⟩

end Inversion

/-! ### The steps of the system -/

/-- The states that have been assigned to the command object `c`. -/
def statesOf (s : State N) (c : CommandRef) : List ExecutionState :=
  (s.assigned.filter fun a => decide (a.1 = c)).map Prod.snd

section Steps

variable [IntCast N] [Add N] [Sub N] {w : Wiring N} {s s' : State N}

omit [IntCast N] [Add N] [Sub N] in
theorem Assigns.statesOf_self {c : CommandRef} {states : List ExecutionState} (h : Assigns s s' c states) :
    statesOf s' c = statesOf s c ++ states := by
  have hnew : (states.map (Prod.mk c)).filter (fun a => decide (a.1 = c)) = states.map (Prod.mk c) := by
    rw [List.filter_eq_self]
    intro a ha
    obtain ⟨st, -, rfl⟩ := List.mem_map.1 ha
    exact decide_eq_true rfl
  rw [statesOf, h.assigned, List.filter_append, List.map_append, hnew, List.map_map]
  congr 1
  exact List.map_id states

omit [IntCast N] [Add N] [Sub N] in
theorem Assigns.statesOf_of_ne {c c' : CommandRef} {states : List ExecutionState} (h : Assigns s s' c states)
    (hne : c' ≠ c) : statesOf s' c' = statesOf s c' := by
  have hnone : (states.map (Prod.mk c)).filter (fun a => decide (a.1 = c')) = [] := by
    rw [List.filter_eq_nil_iff]
    intro a ha heq
    obtain ⟨st, -, rfl⟩ := List.mem_map.1 ha
    exact hne (of_decide_eq_true heq).symm
  rw [statesOf, h.assigned, List.filter_append, hnone, List.append_nil]
  rfl

/-- A step leaves an execution at its await, starts it, or advances it. -/
theorem step_exec_cases {a : Action N} (hi : InFlight w s) (h : step w s a = some s') {e : ExecId}
    {x' : Execution N} (hx' : s'.execs e = some x') :
    (∃ x, s.execs e = some x ∧ x'.command = x.command ∧ x'.point = x.point) ∨
      (a = .submit x'.command ∧ s.execs e = none ∧ x'.point = .created) ∨
      ∃ now reply x states, a = .resume e now reply ∧ s.execs e = some x ∧
        Advances w s s' e x x' reply states := by
  rcases step_split hi h with ⟨hne, hb⟩ | ⟨e', now, reply, y, y', events, eff, rfl, hr, -⟩
  · rcases hb.new e x' hx' with hold | ⟨-, hnone, hcreated⟩
    · exact Or.inl hold
    · refine Or.inr (Or.inl ⟨?_, hnone, hcreated⟩)
      rcases step_cases h with ⟨c, rfl, rfl⟩ | ⟨i, rfl, hw⟩ | ⟨i, rfl, hw⟩ | ⟨id, rfl, rfl⟩ |
        ⟨e', now, reply, y, y', events, eff, rfl, -, -⟩
      · rw [(submit_execs hnone hx').1]
      · obtain ⟨b, z, o, -, -, -, -, rfl⟩ := wake_eq_some hw
        rw [hnone] at hx'
        cases hx'
      · obtain ⟨b, z, -, -, hz, ⟨-, rfl⟩ | ⟨-, rfl⟩⟩ := cancelTask_eq_some hw
        · rw [hnone] at hx'
          cases hx'
        · rcases update_eq_some.1 hx' with ⟨rfl, -⟩ | ⟨-, hx'⟩
          · rw [hnone] at hz
            cases hz
          · rw [hnone] at hx'
            cases hx'
      · rw [cancel, cancelToken_execs, hnone] at hx'
        cases hx'
      · exact absurd rfl (hne e' now reply)
  · rcases hr.exec_cases hx' with ⟨rfl, rfl⟩ | ⟨-, hx⟩
    · obtain ⟨z, states, hz⟩ := resume_advances h hr.execs_eq
      obtain rfl : z = x' := Option.some.inj (hz.execs.symm.trans hx')
      exact Or.inr (Or.inr ⟨now, reply, y, states, rfl, hr.execs_eq, hz⟩)
    · exact Or.inl ⟨x', hx, rfl, rfl⟩

/-- Only the steps of an execution assign states. -/
theorem step_assigned {a : Action N} (h : step w s a = some s') :
    (s'.assigned = s.assigned ∧ s'.executionState = s.executionState) ∨
      ∃ e now reply x x' states, a = .resume e now reply ∧ s.execs e = some x ∧
        Advances w s s' e x x' reply states := by
  rcases step_cases h with ⟨c, rfl, rfl⟩ | ⟨i, rfl, hw⟩ | ⟨i, rfl, hw⟩ | ⟨id, rfl, rfl⟩ |
    ⟨e, now, reply, x, x', events, eff, rfl, hr, -⟩
  · left
    unfold submit
    dsimp only
    split <;> exact ⟨rfl, rfl⟩
  · obtain ⟨b, x, o, -, -, -, -, rfl⟩ := wake_eq_some hw
    exact Or.inl ⟨rfl, rfl⟩
  · obtain ⟨b, x, -, -, -, ⟨-, rfl⟩ | ⟨-, rfl⟩⟩ := cancelTask_eq_some hw <;> exact Or.inl ⟨rfl, rfl⟩
  · left
    unfold cancel
    cases s.tokens id <;> exact ⟨rfl, rfl⟩
  · obtain ⟨z, states, hz⟩ := resume_advances h hr.execs_eq
    exact Or.inr ⟨e, now, reply, x, z, states, rfl, hr.execs_eq, hz⟩

/-- Every execution runs a command that has been submitted. -/
theorem execs_submitted {as : List (Action N)} (hi : InFlight w s) (h : StepSystem.run (step w) s as = some s')
    {e : ExecId} {x' : Execution N} (hx' : s'.execs e = some x') :
    (∃ x, s.execs e = some x ∧ x'.command = x.command) ∨ .submit x'.command ∈ as := by
  induction as generalizing s with
  | nil =>
    obtain rfl := Option.some.inj h
    exact Or.inl ⟨x', hx', rfl⟩
  | cons a as ih =>
    obtain ⟨s₁, h₁, h₂⟩ := StepSystem.run_cons.1 h
    rcases ih (hi.step h₁) h₂ with ⟨x₁, hx₁, hc⟩ | hmem
    · rcases step_exec_cases hi h₁ hx₁ with ⟨x, hx, hcx, -⟩ | ⟨rfl, -, -⟩ | ⟨now, reply, x, states, -, hx, hadv⟩
      · exact Or.inl ⟨x, hx, by rw [hc, hcx]⟩
      · exact Or.inr (by rw [hc]; exact List.mem_cons_self)
      · exact Or.inl ⟨x, hx, by rw [hc, hadv.command_eq]⟩
    · exact Or.inr (List.mem_cons_of_mem _ hmem)

/-- A call of `submit` for the only command under its id returns what an execution of that command has ended with. -/
theorem submit_returned {as : List (Action N)} (h : StepSystem.run (step w) State.initial as = some s) {i : SubmitId}
    {b : Submit N} {r : ToolResult N} (hb : s.submits i = some b) (hended : b.ended = some (.returned r))
    (honly : ∀ c', .submit c' ∈ as → (w.command c').commandId = (w.command b.command).commandId → c' = b.command) :
    ∃ x, s.execs b.execution = some x ∧ x.command = b.command ∧ x.point = .done (.returned r) := by
  obtain ⟨x, o, hx, hp, ho⟩ := delivered_run h i b _ hb hended
  obtain ⟨y, hy, hid, -⟩ := (consistent_run h).1.awaited i b hb
  obtain rfl : y = x := Option.some.inj (hy.symm.trans hx)
  have hor : o = .returned r := by
    split at ho
    · cases ho
    · exact ho.symm
  refine ⟨y, hx, ?_, by rw [hp, hor]⟩
  rcases execs_submitted InFlight.initial h hx with ⟨y₀, hy₀, -⟩ | hmem
  · cases hy₀
  · exact honly y.command hmem hid

/-- A command that has been assigned a state has an execution. -/
def Owned (s : State N) : Prop := ∀ c, statesOf s c ≠ [] → ∃ e x, s.execs e = some x ∧ x.command = c

private theorem Owned.step {a : Action N} (h : Owned s) (hs : Consistent w s)
    (ha : step w s a = some s') : Owned s' := by
  intro c hne
  have hold (hne : statesOf s c ≠ []) : ∃ e x, s'.execs e = some x ∧ x.command = c := by
    obtain ⟨e, x, hx, hc⟩ := h c hne
    obtain ⟨x', hx', hcx, -⟩ := (step_later hs.1 hs.2 ha).execs e x hx
    exact ⟨e, x', hx', by rw [hcx, hc]⟩
  rcases step_assigned ha with ⟨hassigned, -⟩ | ⟨e, now, reply, x, x', states, -, -, hadv⟩
  · rw [statesOf, hassigned] at hne
    exact hold hne
  · by_cases hc : c = x.command
    · exact ⟨e, x', hadv.execs, by rw [hadv.command_eq, hc]⟩
    · rw [hadv.assigns.statesOf_of_ne hc] at hne
      exact hold hne

/-- Nothing is assigned to a command that has not been submitted. -/
theorem statesOf_unsubmitted {as : List (Action N)} {c : CommandRef}
    (h : StepSystem.run (step w) State.initial as = some s) (hnew : .submit c ∉ as) : statesOf s c = [] := by
  have howned : Consistent w s ∧ Owned s :=
    StepSystem.run_invariant (P := fun s => Consistent w s ∧ Owned s)
      (fun _ _ _ hs ha => ⟨hs.1.step ha, hs.2.step hs.1 ha⟩) ⟨consistent_initial, fun _ hne => absurd rfl hne⟩ h
  by_contra hne
  obtain ⟨e, x, hx, rfl⟩ := howned.2 c hne
  rcases execs_submitted InFlight.initial h hx with ⟨y, hy, -⟩ | hmem
  · cases hy
  · exact hnew hmem

/-- The state of a command is the one that was assigned last. -/
def Recorded (s : State N) : Prop := ∀ c, s.executionState c = (statesOf s c).getLast?.getD .received

omit [IntCast N] [Add N] [Sub N] in
private theorem foldl_update_of_ne {c c' : CommandRef} (hne : c' ≠ c) (states : List ExecutionState)
    (f : CommandRef → ExecutionState) :
    states.foldl (fun f st => Function.update f c st) f c' = f c' := by
  induction states generalizing f with
  | nil => rfl
  | cons st states ih => rw [List.foldl_cons, ih, Function.update_of_ne hne]

omit [IntCast N] [Add N] [Sub N] in
private theorem foldl_update_self (c : CommandRef) (states : List ExecutionState)
    (f : CommandRef → ExecutionState) :
    states.foldl (fun f st => Function.update f c st) f c = states.getLast?.getD (f c) := by
  induction states generalizing f with
  | nil => rfl
  | cons st states ih =>
    rw [List.foldl_cons, ih, Function.update_self, List.getLast?_cons]
    rfl

omit [IntCast N] [Add N] [Sub N] in
theorem Assigns.executionState_self {c : CommandRef} {states : List ExecutionState} (h : Assigns s s' c states) :
    s'.executionState c = states.getLast?.getD (s.executionState c) := by
  rw [h.executionState, foldl_update_self]

omit [IntCast N] [Add N] [Sub N] in
theorem Assigns.executionState_of_ne {c c' : CommandRef} {states : List ExecutionState} (h : Assigns s s' c states)
    (hne : c' ≠ c) : s'.executionState c' = s.executionState c' := by
  rw [h.executionState, foldl_update_of_ne hne]

theorem Recorded.step {a : Action N} (h : Recorded s) (ha : step w s a = some s') : Recorded s' := by
  intro c
  rcases step_assigned ha with ⟨hassigned, hstate⟩ | ⟨e, now, reply, x, x', states, -, -, hadv⟩
  · rw [hstate, h c, statesOf, statesOf, hassigned]
  · by_cases hc : c = x.command
    · subst hc
      rw [hadv.assigns.executionState_self, hadv.assigns.statesOf_self, h x.command, List.getLast?_append]
      cases states.getLast? <;> rfl
    · rw [hadv.assigns.executionState_of_ne hc, hadv.assigns.statesOf_of_ne hc, h c]

theorem recorded_run {as : List (Action N)} (h : StepSystem.run (step w) State.initial as = some s) : Recorded s :=
  StepSystem.run_invariant (fun _ _ _ hs ha => hs.step ha) (fun _ => rfl) h

end Steps

end RosMcp
