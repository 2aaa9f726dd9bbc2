import Mathlib.Logic.Function.Basic
import RosMcp.Lib.PyFloat
import RosMcp.Lib.Run
import RosMcp.Contracts.Results
import RosMcp.Execution.Planner

/-!
# The execution manager (`execution/manager.py`)

`DefaultExecutionManager` as a step function over the states of its tasks.  A call of `submit` either joins the
execution that is in flight under the same id or starts one; an execution runs between its awaits (`Point`), and a
`Reply` is what an await gives back: the result or the exception of the collaborator, the backstop of
`asyncio.wait_for`, or a `CancelledError`.  The collaborators are the environment, so a reply is arbitrary.
Everything between two awaits is one step, which is what a single-threaded event loop guarantees.

A `SemanticCommand` is identified by a `CommandRef`, since the source compares commands by `is`; the token of an
execution is identified by the execution.  `log` records what the collaborators were asked and answered, and `assigned`
the assignments to `execution_state` in their order; no step reads them.
-/

namespace RosMcp

/-- The identity of a `SemanticCommand` object. -/
abbrev CommandRef := Nat
abbrev ExecId := Nat
abbrev SubmitId := Nat

/-! ### State -/

/-- The methods of the backends. -/
inductive BackendCall
  | move | navigate | stop | cancelAll
  deriving DecidableEq, Repr

/-- How a task ended. -/
inductive Outcome (N : Type)
  | returned (result : ToolResult N)
  | cancelled

/-- The await at which an execution is suspended; `created` is a task that has not run yet. -/
inductive Point (N : Type)
  | created
  | handler
  | pose
  | check (currentPose : Option (Pose2D N))
  | backend
  | stopMotion (cancelledId : Option String)
  | stopNavigation (cancelledId : Option String) (finalPose : Option (Pose2D N))
  | done (outcome : Outcome N)

/-- A task of `_execute`; `cancelRequested` is set by `Task.cancel`. -/
structure Execution (N : Type) where
  command : CommandRef
  start : N
  point : Point N
  cancelRequested : Bool

/-- A `SimpleCancellationToken`. -/
structure Token (N : Type) where
  deadlineMonotonic : N
  cancelled : Bool

/-- A call of `submit`; the owner is the call that created the execution. -/
structure Submit (N : Type) where
  command : CommandRef
  execution : ExecId
  owner : Bool
  cancelRequested : Bool
  ended : Option (Outcome N)

/-- What an execution exchanged with its collaborators. -/
inductive Event (N : Type)
  | poseReturned (e : ExecId) (currentPose : Option (Pose2D N))
  | checked (e : ExecId) (command : CommandRef) (currentPose : Option (Pose2D N)) (decision : SafetyDecision)
  | selected (e : ExecId) (backend : Option Backend)
  | looked (e : ExecId) (active : Option CommandRef) (token : Option ExecId)
  | called (e : ExecId) (command : CommandRef) (call : BackendCall)
  | stopReturned (e : ExecId)

/-- The execution that an event belongs to. -/
def Event.execution {N : Type} : Event N → ExecId
  | poseReturned e _ | checked e _ _ _ | selected e _ | looked e _ _ | called e _ _ | stopReturned e => e

/-- What `__init__` is given, together with the command objects. -/
structure Wiring (N : Type) where
  command : CommandRef → SemanticCommand N
  readHandlers : Operation → Bool
  motionBackend : Bool
  navigationBackend : Bool

structure State (N : Type) where
  inFlight : String → Option ExecId
  tokens : String → Option ExecId
  tokenObject : ExecId → Option (Token N)
  activeCommands : String → Option CommandRef
  executionState : CommandRef → ExecutionState
  execs : ExecId → Option (Execution N)
  nextExec : ExecId
  submits : SubmitId → Option (Submit N)
  nextSubmit : SubmitId
  log : List (Event N)
  assigned : List (CommandRef × ExecutionState)

/-- A manager that has just been constructed. -/
def State.initial {N : Type} : State N where
  inFlight _ := none
  tokens _ := none
  tokenObject _ := none
  activeCommands _ := none
  executionState _ := .received
  execs _ := none
  nextExec := 0
  submits _ := none
  nextSubmit := 0
  log := []
  assigned := []

/-- `active_command` -/
def State.activeCommand {N : Type} (s : State N) (robotId : String) : Option CommandRef := s.activeCommands robotId

/-! ### Replies of the collaborators -/

/-- The end of a backend's `move` or `navigate`; `timedOut` is `asyncio.TimeoutError`, raised by the backstop or by the
backend. -/
inductive BackendReply (N : Type)
  | returned (result : ToolResult N)
  | raised (exc : PyException)
  | timedOut

/-- The value of `motion_backend.stop()`: a result with a `final_pose`, or an object without that attribute. -/
inductive StopReply (N : Type)
  | result (finalPose : Option (Pose2D N))
  | foreign
  | raised (exc : PyException)

/-- What an await gives back; `cancelled` is `CancelledError`, raised by the collaborator or by the cancellation of the
task. -/
inductive Reply (N : Type)
  | start
  | handler (reply : Except PyException (ToolResult N))
  | pose (reply : Except PyException (Option (Pose2D N)))
  | check (reply : Except PyException (SafetyOutcome N)) (selected : Except PyException (Option Backend))
  | backend (reply : BackendReply N)
  | stop (reply : StopReply N)
  | cancelAll (reply : Except PyException Unit)
  | cancelled

/-! ### The primitive updates -/

section Updates

variable {N : Type}

/-- `command.execution_state = st` -/
def State.setExecutionState (s : State N) (c : CommandRef) (st : ExecutionState) : State N :=
  { s with
    executionState := Function.update s.executionState c st
    assigned := s.assigned ++ [(c, st)] }

def State.suspend (s : State N) (e : ExecId) (x : Execution N) (p : Point N) : State N :=
  { s with execs := Function.update s.execs e (some { x with point := p }) }

def State.emit (s : State N) (events : List (Event N)) : State N := { s with log := s.log ++ events }

/-- `token.cancel()` -/
def State.cancelToken (s : State N) (token : Option ExecId) : State N :=
  match token with
  | none => s
  | some t =>
    { s with tokenObject := Function.update s.tokenObject t ((s.tokenObject t).map ({ · with cancelled := true })) }

/-- The assignments to `_tokens` and `_active_commands` before the `try`. -/
def State.register (s : State N) (e : ExecId) (c : CommandRef) (command : SemanticCommand N) (token : Token N) :
    State N :=
  { s with
    tokenObject := Function.update s.tokenObject e (some token)
    tokens := Function.update s.tokens command.commandId (some e)
    activeCommands := Function.update s.activeCommands command.robotId (some c) }

/-- The `finally` of `_execute_motion`. -/
def State.release (s : State N) (c : CommandRef) (command : SemanticCommand N) : State N :=
  { s with
    tokens := Function.update s.tokens command.commandId none
    activeCommands :=
      if s.activeCommands command.robotId = some c then Function.update s.activeCommands command.robotId none
      else s.activeCommands }

/-- The end of an execution that sets the final state and returns a result. -/
def State.finish (s : State N) (e : ExecId) (x : Execution N) (st : ExecutionState) (result : ToolResult N) :
    State N :=
  (s.setExecutionState x.command st).suspend e x (.done (.returned result))

end Updates

/-! ### The manager -/

section Manager

variable {N : Type} [IntCast N] [Add N] [Sub N] (w : Wiring N)

/-- `_error` -/
def errorResult (x : Execution N) (now : N) (code : ErrorCode) (message : Message N) : ToolResult N :=
  let command := w.command x.command
  buildErrorResult command.expectedResultType command.commandId command.robotId (now - x.start) { code, message }

/-- `_awaiting_approval` -/
def awaitingApproval (x : Execution N) (now : N) (reason : Message N) : ToolResult N :=
  let command := w.command x.command
  buildResultWithDefaults command.expectedResultType .awaitingApproval command.commandId command.robotId
    (now - x.start)
    (some { code := .permissionDenied, message := reason, details := [("awaiting_approval", .flag true)] })

/-- `SUCCEEDED if result.status == "succeeded" else FAILED` -/
def finalState (result : ToolResult N) : ExecutionState :=
  if result.status = .succeeded then .succeeded else .failed

/-- The `except Exception` of `_execute`. -/
def unhandled (s : State N) (e : ExecId) (x : Execution N) (now : N) (exc : PyException) : State N :=
  s.finish e x .failed (errorResult w x now .internalError [.text "internal error: ", .text exc.message])

/-- `_execute_read` up to the handler. -/
def executeRead (s : State N) (e : ExecId) (x : Execution N) (now : N) : State N :=
  let s := s.setExecutionState x.command .executing
  let operation := (w.command x.command).operation
  if w.readHandlers operation then s.suspend e x .handler
  else
    s.finish e x .failed
      (errorResult w x now .internalError [.text "no handler registered for ", .text operation.value])

/-- `_execute` up to its first await. -/
def execute (s : State N) (e : ExecId) (x : Execution N) (now : N) : State N :=
  let x := { x with start := now }
  if (w.command x.command).commandClass = .read then executeRead w s e x now
  else (s.setExecutionState x.command .safetyCheck).suspend e x .pose

/-- `_execute_motion` after the result of the backend. -/
def finishMotion (s : State N) (e : ExecId) (x : Execution N) (result : ToolResult N) : State N :=
  let s := s.release x.command (w.command x.command)
  s.finish e x (finalState result) result

/-- An exception that leaves the `try` of `_execute_motion`. -/
def raiseMotion (s : State N) (e : ExecId) (x : Execution N) (now : N) (exc : PyException) : State N :=
  unhandled w (s.release x.command (w.command x.command)) e x now exc

/-- `self._motion_backend.move`, or `self._navigation_backend.navigate`, on `None`. -/
def noBackend (method : String) : PyException :=
  ⟨.attributeError, "'NoneType' object has no attribute '" ++ method ++ "'"⟩

/-- `_execute_motion` from the creation of the token to the backend call. -/
def dispatch (s : State N) (e : ExecId) (x : Execution N) (now : N) : State N :=
  let command := w.command x.command
  let s := s.register e x.command command ⟨now + command.timeoutS, false⟩
  let s := s.setExecutionState x.command .executing
  match command.operation with
  | .move =>
    if w.motionBackend then (s.emit [.called e x.command .move]).suspend e x .backend
    else raiseMotion w s e x now (noBackend "move")
  | .navigate =>
    if w.navigationBackend then (s.emit [.called e x.command .navigate]).suspend e x .backend
    else raiseMotion w s e x now (noBackend "navigate")
  | operation =>
    finishMotion w s e x
      (errorResult w x now .internalError [.text "unsupported motion operation ", .text operation.value])

/-- The end of `_handle_stop`. -/
def finishStop (s : State N) (e : ExecId) (x : Execution N) (now : N) (cancelledId : Option String)
    (finalPose : Option (Pose2D N)) : State N :=
  let command := w.command x.command
  s.finish e x .succeeded
    { status := .succeeded
      commandId := command.commandId
      robotId := command.robotId
      durationSec := now - x.start
      error := none
      fields := .stop cancelledId finalPose }

/-- `_handle_stop` from the navigation backend on. -/
def stopNavigation (s : State N) (e : ExecId) (x : Execution N) (now : N) (cancelledId : Option String)
    (finalPose : Option (Pose2D N)) : State N :=
  if w.navigationBackend then
    (s.emit [.called e x.command .cancelAll]).suspend e x (.stopNavigation cancelledId finalPose)
  else finishStop w s e x now cancelledId finalPose

/-- The active command of the STOP's robot, unless it has the STOP's own id. -/
def stopTarget (s : State N) (command : SemanticCommand N) : Option CommandRef :=
  (s.activeCommands command.robotId).filter fun c => decide ((w.command c).commandId ≠ command.commandId)

/-- The token that a STOP cancels: the one registered under the id of the active command. -/
def stopToken (s : State N) (command : SemanticCommand N) : Option ExecId :=
  (stopTarget w s command).bind fun c => s.tokens (w.command c).commandId

/-- `_handle_stop` up to the motion backend. -/
def handleStop (s : State N) (e : ExecId) (x : Execution N) (now : N) : State N :=
  let command := w.command x.command
  let cancelledId := (stopTarget w s command).map fun c => (w.command c).commandId
  let token := stopToken w s command
  let s := (s.cancelToken token).emit [.looked e (s.activeCommands command.robotId) token]
  if w.motionBackend then (s.emit [.called e x.command .stop]).suspend e x (.stopMotion cancelledId)
  else stopNavigation w s e x now cancelledId none

/-- `_execute_motion` from the outcome of the safety check to the next await. -/
def executeChecked (s : State N) (e : ExecId) (x : Execution N) (now : N) (currentPose : Option (Pose2D N))
    (outcome : SafetyOutcome N) (selected : Except PyException (Option Backend)) : State N :=
  let command := w.command x.command
  let s := s.emit [.checked e x.command currentPose outcome.decision]
  match outcome.decision with
  | .deny =>
    let s := s.setExecutionState x.command .safetyRejected
    match outcome.error with
    | some error =>
      s.suspend e x (.done (.returned (buildErrorResult command.expectedResultType command.commandId
        command.robotId (now - x.start) error)))
    | none => unhandled w s e x now ⟨.assertionError, ""⟩
  | .requireApproval =>
    s.finish e x .awaitingApproval (awaitingApproval w x now (outcome.approvalReason.getD []))
  | .allow =>
    let s := s.setExecutionState x.command .planning
    if command.operation = .stop then handleStop w s e x now
    else
      match selected with
      | .error exc => unhandled w s e x now exc
      | .ok none =>
        (s.emit [.selected e none]).finish e x .capabilityUnavailable
          (errorResult w x now .capabilityUnavailable
            [.text "no backend is currently available for ", .text command.operation.value])
      | .ok (some b) => dispatch w (s.emit [.selected e (some b)]) e x now

/-- An execution goes on with the reply to its await; `now` is what `time.monotonic()` returns in this step. -/
def resume (s : State N) (e : ExecId) (now : N) (reply : Reply N) : Option (State N) :=
  (s.execs e).bind fun x =>
    match x.point, reply with
    | .created, .start => some (execute w s e x now)
    | .handler, .handler (.ok result) => some (s.finish e x (finalState result) result)
    | .handler, .handler (.error exc) => some (unhandled w s e x now exc)
    | .pose, .pose (.ok currentPose) => some ((s.emit [.poseReturned e currentPose]).suspend e x (.check currentPose))
    | .pose, .pose (.error exc) => some (unhandled w s e x now exc)
    | .check currentPose, .check (.ok outcome) selected =>
      some (executeChecked w s e x now currentPose outcome selected)
    | .check _, .check (.error exc) _ => some (unhandled w s e x now exc)
    | .backend, .backend (.returned result) => some (finishMotion w s e x result)
    | .backend, .backend (.raised exc) => some (raiseMotion w s e x now exc)
    | .backend, .backend .timedOut =>
      some (finishMotion w s e x (errorResult w x now .actionTimeout
        [.text "command exceeded its timeout (execution-manager backstop)"]))
    | .stopMotion cancelledId, .stop (.result finalPose) =>
      some (stopNavigation w (s.emit [.stopReturned e]) e x now cancelledId finalPose)
    | .stopMotion _, .stop .foreign =>
      some (unhandled w s e x now ⟨.attributeError, "object has no attribute 'final_pose'"⟩)
    | .stopMotion _, .stop (.raised exc) => some (unhandled w s e x now exc)
    | .stopNavigation cancelledId finalPose, .cancelAll (.ok ()) =>
      some (finishStop w s e x now cancelledId finalPose)
    | .stopNavigation _ _, .cancelAll (.error exc) => some (unhandled w s e x now exc)
    | .done _, _ => none
    -- `CancelledError` is no `Exception`: it leaves `_execute`, through the `finally` when it is inside the `try`
    | .created, .cancelled => if x.cancelRequested then some (s.suspend e x (.done .cancelled)) else none
    | .backend, .cancelled => some ((s.release x.command (w.command x.command)).suspend e x (.done .cancelled))
    | _, .cancelled => some (s.suspend e x (.done .cancelled))
    | _, _ => none

/-! ### The steps of the system -/

inductive Action (N : Type)
  | submit (c : CommandRef)
  | wake (i : SubmitId)
  | cancelTask (i : SubmitId)
  | cancel (commandId : String)
  | resume (e : ExecId) (now : N) (reply : Reply N)

/-- `submit` up to its await. -/
def submit (s : State N) (c : CommandRef) : State N :=
  let commandId := (w.command c).commandId
  match s.inFlight commandId with
  | some e =>
    { s with
      submits := Function.update s.submits s.nextSubmit (some ⟨c, e, false, false, none⟩)
      nextSubmit := s.nextSubmit + 1 }
  | none =>
    { s with
      inFlight := Function.update s.inFlight commandId (some s.nextExec)
      execs := Function.update s.execs s.nextExec (some ⟨c, ((0 : ℤ) : N), .created, false⟩)
      nextExec := s.nextExec + 1
      submits := Function.update s.submits s.nextSubmit (some ⟨c, s.nextExec, true, false, none⟩)
      nextSubmit := s.nextSubmit + 1 }

/-- `submit` after its await, which ends with the execution; a cancellation that reaches the task between the end of
the execution and this step wins. -/
def wake (s : State N) (i : SubmitId) : Option (State N) :=
  (s.submits i).bind fun b =>
    match b.ended, (s.execs b.execution).map Execution.point with
    | none, some (.done outcome) =>
      let outcome := if b.cancelRequested then .cancelled else outcome
      some { s with
        submits := Function.update s.submits i (some { b with ended := some outcome })
        inFlight :=
          if b.owner then Function.update s.inFlight (w.command b.command).commandId none else s.inFlight }
    | _, _ => none

/-- `Task.cancel` of the task that called `submit`: it cancels the execution that the task awaits, unless that has
ended. -/
def cancelTask (s : State N) (i : SubmitId) : Option (State N) :=
  (s.submits i).bind fun b =>
    match b.ended, s.execs b.execution with
    | none, some x =>
      match x.point with
      | .done _ => some { s with submits := Function.update s.submits i (some { b with cancelRequested := true }) }
      | _ => some { s with execs := Function.update s.execs b.execution (some { x with cancelRequested := true }) }
    | _, _ => none

/-- `cancel` -/
def cancel (s : State N) (commandId : String) : State N := s.cancelToken (s.tokens commandId)

def step (s : State N) : Action N → Option (State N)
  | .submit c => some (submit w s c)
  | .wake i => wake w s i
  | .cancelTask i => cancelTask s i
  | .cancel commandId => some (cancel s commandId)
  | .resume e now reply => resume w s e now reply

end Manager

end RosMcp
