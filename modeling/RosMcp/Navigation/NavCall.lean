import RosMcp.RobotState
import RosMcp.Contracts.Results

/-!
# One call of `navigate` (`adapters/navigation/nav2_plugin.py`)

A call of `Nav2NavigationPlugin.navigate` is a coroutine.  `NavCall.resume` runs it from one await to the next and says
what it hands to the ROS thread and what it does to the shared slot `_active_goal_handle` (`NavTurn`); `Turns` lists
what a turn can do.  `_bridge_rclpy_future` awaits a bridged call and then the future of `rclpy`, with nothing in
between; the two awaits are one point, left with the reply or with the exception of either (`BoundedWait` counts them
both).

The events also run the two other tasks of a call: its result task, and the caller that cancels its token.
-/

namespace RosMcp

/-! ### Data -/

/-- The values of `outcome` with which the loop is left early. -/
inductive EarlyExit
  | cancelled | timeout
  deriving DecidableEq, Repr

/-- How a call ended. -/
inductive NavOutcome (N : Type)
  | returned (result : ToolResult N)
  | raised (exc : PyException)
  | cancelled

/-- The await at which a call is suspended. -/
inductive NavPoint (N : Type)
  | ensuringClient
  | waitingForServer
  | localizing
  | sending
  | sleeping
  | cancelling (outcome : EarlyExit)
  | awaitingResult (outcome : EarlyExit)
  | resolvingFinalPose (outcome : Option EarlyExit)
  | ended (o : NavOutcome N)

/-- `result_task`; a status is the terminal status of the result response. -/
inductive ResultTask
  | absent
  | scheduled
  | queued
  | pending
  | replied (r : Except PyException ℤ)
  | done (r : Except PyException ℤ)
  | cancelled

/-- `result_task.done()` -/
def ResultTask.isDone : ResultTask → Bool
  | .done _ | .cancelled => true
  | _ => false

/-- `feedback_state`: the feedback message that was received last; the pose is `(x, y, qz, qw)`. -/
structure Feedback (N : Type) where
  distanceRemaining : N
  numberOfRecoveries : ℤ
  currentPose : N × N × N × N

/-- A call of `navigate` with its token; `reply` is what the future that it awaits was completed with. -/
structure NavCall (N : Type) where
  command : SemanticCommand N
  tokenCancelled : Bool
  tokenDeadline : N
  startMonotonic : N
  feedback : Option (Feedback N)
  point : NavPoint N
  reply : Option (Except PyException Bool)
  resultTask : ResultTask

/-- What a call hands to the ROS thread. -/
inductive NavJob
  | createClient | waitForServer | sendGoal | getResult | cancelGoal
  deriving DecidableEq, Repr

/-- What a call does to `_active_goal_handle`. -/
inductive SlotWrite
  | keep | own | clear
  deriving DecidableEq, Repr

/-- What a call does up to its next await; `client` says that it stores the action client. -/
structure NavTurn (N : Type) where
  call : NavCall N
  job : Option NavJob := none
  slot : SlotWrite := .keep
  client : Bool := false

/-- What resumes a call, or one of the tasks that belong to it. -/
inductive NavEvent (N : Type)
  | clientCreated
  | serverWaited (localization : Bool)
  | localized (r : Except PyException (TransformResult N)) (goalMessage : Except PyException Unit)
  | goalAnswered
  | slept
  | cancelAnswered
  | resultAwaited
  | resultWaitExpired
  | finalPoseRead (r : Except PyException (TransformResult N)) (stamp : N)
  | taskCancelled
  | tokenCancelled
  | resultTaskStarted
  | resultTaskEnded

/-! ### Results -/

/-- `GoalStatus.STATUS_SUCCEEDED` -/
def statusSucceeded : ℤ := 4

/-- `GoalStatus.STATUS_CANCELED` -/
def statusCanceled : ℤ := 5

/-- `GoalStatus.STATUS_ABORTED` -/
def statusAborted : ℤ := 6

/-- The statuses in which a goal has come to an end. -/
def isTerminalStatus (status : ℤ) : Bool :=
  status == statusSucceeded || status == statusCanceled || status == statusAborted

/-- The name of a transform error in a message. -/
def TransformError.value : Option TransformError → String
  | some .frameUnknown => "frame_unknown"
  | some .notConnected => "not_connected"
  | some .extrapolation => "extrapolation"
  | some .timeout => "timeout"
  | none => "None"

section Call

variable {N : Type} [IntCast N] [Add N] [Sub N] [Mul N] [PyMath N] [LE N] [DecidableLE N]

/-- `duration` -/
def NavCall.duration (call : NavCall N) (now : N) : N := now - call.startMonotonic

/-- `fail` -/
def NavCall.fail (call : NavCall N) (now : N) (error : ToolError N) (failReason : Option FailReason)
    (finalPose : Option (Pose2D N)) (distanceRemainingM : Option N) : NavOutcome N :=
  .returned
    { status := .failed
      commandId := call.command.commandId
      robotId := call.command.robotId
      durationSec := call.duration now
      error := some error
      fields := .navigate finalPose distanceRemainingM failReason }

/-- The call has ended. -/
def NavCall.endWith (call : NavCall N) (o : NavOutcome N) : NavTurn N := { call := { call with point := .ended o } }

/-- The call awaits the reply to a job of the ROS thread. -/
def NavCall.submit (call : NavCall N) (point : NavPoint N) (job : NavJob) : NavTurn N :=
  { call := { call with point, reply := none }, job := some job }

/-- `feedback_state.get("distance_remaining_m")` -/
def NavCall.distanceRemaining (call : NavCall N) : Option N := call.feedback.map Feedback.distanceRemaining

/-- `_resolve_final_pose` after the lookup. -/
def NavCall.finalPose (call : NavCall N) (r : TransformResult N) (stamp : N) :
    Except PyException (Option (Pose2D N)) :=
  if r.ok then
    match r.x, r.y, r.yaw with
    | some x, some y, some yaw => .ok (some ⟨x, y, yaw, "map", stamp⟩)
    | _, _, _ => .error ⟨.assertionError, ""⟩
  else
    match call.feedback with
    | none => .ok none
    | some feedback =>
      let (x, y, qz, qw) := feedback.currentPose
      .ok (some ⟨x, y, quaternionToYaw ⟨((0 : ℤ) : N), ((0 : ℤ) : N), qz, qw⟩, "map", stamp⟩)

/-- `navigate` after the final pose was resolved. -/
def NavCall.conclude (call : NavCall N) (now : N) (outcome : Option EarlyExit) (finalPose : Option (Pose2D N)) :
    NavOutcome N :=
  match outcome with
  | some .cancelled =>
    call.fail now { code := .cancelled, message := [.text "navigation cancelled"] } (some .cancelled) finalPose
      call.distanceRemaining
  | some .timeout =>
    call.fail now { code := .actionTimeout, message := [.text "navigation exceeded its timeout"] } (some .cancelled)
      finalPose call.distanceRemaining
  | none =>
    match call.resultTask with
    | .done (.error exc) => .raised exc
    | .cancelled => .cancelled
    | .done (.ok status) =>
      if status = statusSucceeded then
        .returned
          { status := .succeeded
            commandId := call.command.commandId
            robotId := call.command.robotId
            durationSec := call.duration now
            error := none
            fields := .navigate finalPose (some ((0 : ℤ) : N)) none }
      else if status = statusCanceled then
        call.fail now { code := .cancelled, message := [.text "navigation was canceled"] } (some .cancelled)
          finalPose call.distanceRemaining
      else
        let failReason :=
          match call.feedback with
          | some feedback => if 0 < feedback.numberOfRecoveries then .controllerFailure else .plannerFailure
          | none => FailReason.plannerFailure
        call.fail now
          { code := .navigationFailed
            message := [.text "Nav2 goal ended with status ", .repr (.int status)] }
          (some failReason) finalPose call.distanceRemaining
    | _ =>
      call.fail now { code := .internalError, message := [.text "navigation result future never completed"] } none
        finalPose call.distanceRemaining

/-! ### The coroutine -/

/-- `_ensure_action_client` with a client that exists, and the wait for the server. -/
def NavCall.waitForServer (call : NavCall N) : NavTurn N := call.submit .waitingForServer .waitForServer

/-- `navigate` up to its first await. -/
def NavCall.begin (command : SemanticCommand N) (tokenDeadline now : N) (knownFrames : List String)
    (client : Bool) : NavTurn N :=
  let call : NavCall N := ⟨command, false, tokenDeadline, now, none, .ensuringClient, none, .absent⟩
  match command.target with
  | .navigate _ =>
    if command.goalFrame ∉ knownFrames then
      call.endWith (call.fail now
        { code := .invalidFrame
          message := [.text "unknown frame '", .text command.goalFrame, .text "'"]
          details := [("known_frames", .texts (knownFrames.mergeSort fun a b => decide (a ≤ b)))] }
        none none none)
    else if client then call.waitForServer
    else call.submit .ensuringClient .createClient
  | _ => call.endWith (.raised ⟨.assertionError, ""⟩)

/-- What the head of the loop finds: the token is looked at first, then the two deadlines. -/
def NavCall.earlyExit (call : NavCall N) (now : N) : Option EarlyExit :=
  if call.tokenCancelled then some .cancelled
  else if call.tokenDeadline ≤ now ∨ call.startMonotonic + call.command.timeoutS ≤ now then some .timeout
  else none

/-- The loop is left: the slot is cleared and the final pose is looked up. -/
def NavCall.leaveLoop (call : NavCall N) (outcome : Option EarlyExit) : NavTurn N :=
  { call := { call with point := .resolvingFinalPose outcome }, slot := .clear }

/-- `while not result_task.done()` -/
def NavCall.loopHead (call : NavCall N) (now : N) : NavTurn N :=
  if call.resultTask.isDone then call.leaveLoop none
  else
    match call.earlyExit now with
    | some outcome => call.submit (.cancelling outcome) .cancelGoal
    | none => { call := { call with point := .sleeping } }

/-- `wait_for(result_task)` with a result task that is done. -/
def NavCall.resultReady (call : NavCall N) (outcome : EarlyExit) : Option (NavTurn N) :=
  match call.resultTask with
  | .done (.ok _) => some (call.leaveLoop (some outcome))
  | .done (.error exc) => some (call.endWith (.raised exc))
  | .cancelled => some (call.endWith .cancelled)
  | _ => none

/-- The error of a server that does not answer and of a robot that is not localized. -/
def capabilityError (message : String) : ToolError N := { code := .capabilityUnavailable, message := [.text message] }

/-- One turn of the call: from the await at which it is suspended to the next one. -/
def NavCall.resume (baseFrame : String) (call : NavCall N) (now : N) : NavEvent N → Option (NavTurn N)
  | .clientCreated =>
    match call.point, call.reply with
    | .ensuringClient, some (.ok _) => some { call.waitForServer with client := true }
    | .ensuringClient, some (.error exc) => some (call.endWith (.raised exc))
    | _, _ => none
  | .serverWaited localization =>
    match call.point, call.reply with
    | .waitingForServer, some (.ok ready) =>
      if !ready then
        some (call.endWith (call.fail now (capabilityError "Nav2 action server is not responding") none none none))
      else if !localization then
        some (call.endWith
          (call.fail now (capabilityError "robot is not localized (no localization capability)") none none none))
      else some { call := { call with point := .localizing, reply := none } }
    | .waitingForServer, some (.error exc) => some (call.endWith (.raised exc))
    | _, _ => none
  | .localized r goalMessage =>
    match call.point, r with
    | .localizing, .error exc => some (call.endWith (.raised exc))
    | .localizing, .ok result =>
      if !result.ok then
        some (call.endWith (call.fail now
          { code := .capabilityUnavailable
            message := [.text "map->", .text baseFrame, .text " transform unavailable (",
              .text (TransformError.value result.error), .text ")"] } none none none))
      else
        match goalMessage with
        | .error exc => some (call.endWith (.raised exc))
        | .ok () => some (call.submit .sending .sendGoal)
    | _, _ => none
  | .goalAnswered =>
    match call.point, call.reply with
    | .sending, some (.ok accepted) =>
      if !accepted then
        some (call.endWith (call.fail now
          { code := .navigationFailed, message := [.text "Nav2 rejected the navigation goal"] } (some .goalRejected)
          none none))
      else some { ({ call with resultTask := .scheduled } : NavCall N).loopHead now with slot := .own }
    | .sending, some (.error exc) => some (call.endWith (.raised exc))
    | _, _ => none
  | .slept =>
    match call.point with
    | .sleeping => some (call.loopHead now)
    | _ => none
  | .cancelAnswered =>
    match call.point, call.reply with
    -- an exception of the cancellation is logged
    | .cancelling outcome, some _ =>
      if call.resultTask.isDone then call.resultReady outcome
      else some { call := { call with point := .awaitingResult outcome, reply := none } }
    | _, _ => none
  | .resultAwaited =>
    match call.point with
    | .awaitingResult outcome => call.resultReady outcome
    | _ => none
  | .resultWaitExpired =>
    match call.point with
    | .awaitingResult outcome =>
      if call.resultTask.isDone then none
      else some (({ call with resultTask := .cancelled } : NavCall N).leaveLoop (some outcome))
    | _ => none
  | .finalPoseRead r stamp =>
    match call.point, r with
    | .resolvingFinalPose _, .error exc => some (call.endWith (.raised exc))
    | .resolvingFinalPose outcome, .ok result =>
      match call.finalPose result stamp with
      | .error exc => some (call.endWith (.raised exc))
      | .ok finalPose => some (call.endWith (call.conclude now outcome finalPose))
    | _, _ => none
  | .taskCancelled =>
    match call.point with
    | .ended _ => none
    -- `wait_for` passes the cancellation on to the result task; up to Python 3.11 it swallows a cancellation that
    -- comes when that task is done and returns its result, as at `resultAwaited`
    | .awaitingResult _ => some (({ call with resultTask := .cancelled } : NavCall N).endWith .cancelled)
    | _ => some (call.endWith .cancelled)
  | .tokenCancelled => some { call := { call with tokenCancelled := true } }
  | .resultTaskStarted =>
    match call.resultTask with
    | .scheduled => some { call := { call with resultTask := .queued }, job := some .getResult }
    | _ => none
  | .resultTaskEnded =>
    match call.resultTask with
    | .replied r => some { call := { call with resultTask := .done r } }
    | _ => none

/-! ### What a turn can do -/

/-- The points up to the hand-over of the goal. -/
def NavPoint.beforeGoal : NavPoint N → Bool
  | .ensuringClient | .waitingForServer | .localizing => true
  | _ => false

/-- The points of the loop, where the handle of the goal is in the slot. -/
def NavPoint.inLoop : NavPoint N → Bool
  | .sleeping | .cancelling _ | .awaitingResult _ => true
  | _ => false

def NavPoint.isEnded : NavPoint N → Bool
  | .ended _ => true
  | _ => false

omit [IntCast N] [Add N] [Sub N] [Mul N] [PyMath N] [LE N] [DecidableLE N] in
theorem NavPoint.isEnded_of_inLoop {point : NavPoint N} (h : point.inLoop = true) : point.isEnded = false := by
  cases point <;> first | rfl | cases h

/-- The points from the request of the cancellation on. -/
def NavPoint.afterCancel : NavPoint N → Bool
  | .cancelling _ | .awaitingResult _ | .resolvingFinalPose _ | .ended _ => true
  | _ => false

/-- The job whose reply a call awaits. -/
def NavPoint.awaits : NavPoint N → Option NavJob
  | .ensuringClient => some .createClient
  | .waitingForServer => some .waitForServer
  | .sending => some .sendGoal
  | .cancelling _ => some .cancelGoal
  | _ => none

/-- The reply that the call awaits is there. -/
def NavCall.Replied (call : NavCall N) : Prop := call.point.awaits = none ∨ call.reply ≠ none

/-- What the turns of a call can do, each with the await that it leaves. -/
inductive NavCall.Turns (call : NavCall N) : NavTurn N → Prop
  | waits {b : Bool} (hpoint : call.point = .ensuringClient) (hreply : call.reply = some (.ok b)) :
      call.Turns { call.waitForServer with client := true }
  | localizes (hpoint : call.point = .waitingForServer) (hreply : call.reply = some (.ok true)) :
      call.Turns { call := { call with point := .localizing, reply := none } }
  | sends (hpoint : call.point = .localizing) : call.Turns (call.submit .sending .sendGoal)
  | accepted (hpoint : call.point = .sending) (hreply : call.reply = some (.ok true)) :
      call.Turns { call := { call with resultTask := .scheduled, point := .sleeping }, slot := .own }
  | acceptedLate (outcome : EarlyExit) (hpoint : call.point = .sending) (hreply : call.reply = some (.ok true)) :
      call.Turns { ({ call with resultTask := .scheduled } : NavCall N).submit (.cancelling outcome) .cancelGoal with
        slot := .own }
  | sleeps (hpoint : call.point = .sleeping) : call.Turns { call := { call with point := .sleeping } }
  | cancels (outcome : EarlyExit) (hpoint : call.point = .sleeping) :
      call.Turns (call.submit (.cancelling outcome) .cancelGoal)
  | awaits (outcome : EarlyExit) (hpoint : call.point = .cancelling outcome) (hreplied : call.Replied) :
      call.Turns { call := { call with point := .awaitingResult outcome, reply := none } }
  | leaves (outcome : Option EarlyExit) (hpoint : call.point.inLoop = true) (hreplied : call.Replied) :
      call.Turns (call.leaveLoop outcome)
  | expires (outcome : EarlyExit) (hpoint : call.point = .awaitingResult outcome) :
      call.Turns (({ call with resultTask := .cancelled } : NavCall N).leaveLoop (some outcome))
  | ends (o : NavOutcome N) (hpoint : call.point.isEnded = false) : call.Turns (call.endWith o)
  | cancelled (outcome : EarlyExit) (hpoint : call.point = .awaitingResult outcome) :
      call.Turns (({ call with resultTask := .cancelled } : NavCall N).endWith .cancelled)
  | tokenCancelled : call.Turns { call := { call with tokenCancelled := true } }
  | resultTaskStarted (htask : call.resultTask = .scheduled) :
      call.Turns { call := { call with resultTask := .queued }, job := some .getResult }
  | resultTaskEnded (r : Except PyException ℤ) (htask : call.resultTask = .replied r) :
      call.Turns { call := { call with resultTask := .done r } }

omit [IntCast N] [Sub N] [Mul N] [PyMath N] in
/-- The head of the loop leaves it, asks for the cancellation, or sleeps. -/
theorem NavCall.loopHead_cases (call : NavCall N) (now : N) :
    call.resultTask.isDone = true ∧ call.loopHead now = call.leaveLoop none ∨
      (∃ outcome, call.loopHead now = call.submit (.cancelling outcome) .cancelGoal) ∨
      call.loopHead now = { call := { call with point := .sleeping } } := by
  unfold NavCall.loopHead
  by_cases hdone : call.resultTask.isDone = true
  · rw [if_pos hdone]
    exact .inl ⟨hdone, rfl⟩
  · rw [if_neg hdone]
    cases call.earlyExit now with
    | some outcome => exact .inr (.inl ⟨outcome, rfl⟩)
    | none => exact .inr (.inr rfl)

omit [IntCast N] [Add N] [Sub N] [Mul N] [PyMath N] [LE N] [DecidableLE N] in
private theorem NavCall.resultReady_turns {call : NavCall N} {outcome : EarlyExit} {t : NavTurn N}
    (hpoint : call.point.inLoop = true) (hreplied : call.Replied) (h : call.resultReady outcome = some t) :
    call.Turns t := by
  have hlive : call.point.isEnded = false := NavPoint.isEnded_of_inLoop hpoint
  unfold NavCall.resultReady at h
  split at h
  · cases h
    exact .leaves _ hpoint hreplied
  · cases h
    exact .ends _ hlive
  · cases h
    exact .ends _ hlive
  · cases h

/-! #### One lemma for each await -/

section Turns

-- the equations of the definition are made once, here, for all the lemmas that unfold it
attribute [local simp] NavCall.resume

variable {baseFrame : String} {call : NavCall N} {now : N} {t : NavTurn N}

private theorem NavCall.clientCreated_turns (h : call.resume baseFrame now .clientCreated = some t) : call.Turns t := by
  simp only [NavCall.resume] at h
  split at h
  · next hpoint hreply =>
    cases h
    exact .waits hpoint hreply
  · next hpoint hreply =>
    cases h
    exact .ends _ (by rw [hpoint]; rfl)
  · cases h

private theorem NavCall.serverWaited_turns {localization : Bool}
    (h : call.resume baseFrame now (.serverWaited localization) = some t) : call.Turns t := by
  simp only [NavCall.resume] at h
  split at h
  · next ready hpoint hreply =>
    cases ready with
    | false =>
      cases h
      exact .ends _ (by rw [hpoint]; rfl)
    | true =>
      cases localization with
      | false =>
        cases h
        exact .ends _ (by rw [hpoint]; rfl)
      | true =>
        cases h
        exact .localizes hpoint hreply
  · next hpoint hreply =>
    cases h
    exact .ends _ (by rw [hpoint]; rfl)
  · cases h

private theorem NavCall.localized_turns {r : Except PyException (TransformResult N)}
    {goalMessage : Except PyException Unit} (h : call.resume baseFrame now (.localized r goalMessage) = some t) :
    call.Turns t := by
  simp only [NavCall.resume] at h
  split at h
  · next hpoint =>
    cases h
    exact .ends _ (by rw [hpoint]; rfl)
  · next hpoint =>
    split at h
    · cases h
      exact .ends _ (by rw [hpoint]; rfl)
    split at h
    · cases h
      exact .ends _ (by rw [hpoint]; rfl)
    · cases h
      exact .sends hpoint
  · cases h

private theorem NavCall.goalAnswered_turns (h : call.resume baseFrame now .goalAnswered = some t) : call.Turns t := by
  simp only [NavCall.resume] at h
  split at h
  · next accepted hpoint hreply =>
    cases accepted with
    | false =>
      cases h
      exact .ends _ (by rw [hpoint]; rfl)
    | true =>
      cases h
      rcases NavCall.loopHead_cases ({ call with resultTask := .scheduled } : NavCall N) now with
        ⟨hdone, -⟩ | ⟨outcome, hl⟩ | hl
      · cases hdone
      · rw [hl]
        exact .acceptedLate outcome hpoint hreply
      · rw [hl]
        exact .accepted hpoint hreply
  · next hpoint hreply =>
    cases h
    exact .ends _ (by rw [hpoint]; rfl)
  · cases h

private theorem NavCall.slept_turns (h : call.resume baseFrame now .slept = some t) : call.Turns t := by
  simp only [NavCall.resume] at h
  split at h
  · next hpoint =>
    cases h
    rcases call.loopHead_cases now with ⟨-, hl⟩ | ⟨outcome, hl⟩ | hl
    · rw [hl]
      exact .leaves _ (by rw [hpoint]; rfl) (.inl (by rw [hpoint]; rfl))
    · rw [hl]
      exact .cancels outcome hpoint
    · rw [hl]
      exact .sleeps hpoint
  · cases h

private theorem NavCall.cancelAnswered_turns
    (h : call.resume baseFrame now .cancelAnswered = some t) : call.Turns t := by
  simp only [NavCall.resume] at h
  split at h
  · next outcome reply hpoint hreply =>
    have hreplied : call.Replied := .inr (by rw [hreply]; exact Option.some_ne_none _)
    split at h
    · exact NavCall.resultReady_turns (by rw [hpoint]; rfl) hreplied h
    · cases h
      exact .awaits outcome hpoint hreplied
  · cases h

private theorem NavCall.resultAwaited_turns (h : call.resume baseFrame now .resultAwaited = some t) : call.Turns t := by
  simp only [NavCall.resume] at h
  split at h
  · next outcome hpoint =>
    exact NavCall.resultReady_turns (by rw [hpoint]; rfl) (.inl (by rw [hpoint]; rfl)) h
  · cases h

private theorem NavCall.resultWaitExpired_turns
    (h : call.resume baseFrame now .resultWaitExpired = some t) : call.Turns t := by
  simp only [NavCall.resume] at h
  split at h
  · next outcome hpoint =>
    split at h
    · cases h
    · cases h
      exact .expires outcome hpoint
  · cases h

private theorem NavCall.finalPoseRead_turns {r : Except PyException (TransformResult N)} {stamp : N}
    (h : call.resume baseFrame now (.finalPoseRead r stamp) = some t) : call.Turns t := by
  simp only [NavCall.resume] at h
  split at h
  · next outcome hpoint =>
    cases h
    exact .ends _ (by rw [hpoint]; rfl)
  · next outcome result hpoint =>
    split at h
    · cases h
      exact .ends _ (by rw [hpoint]; rfl)
    · cases h
      exact .ends _ (by rw [hpoint]; rfl)
  · cases h

private theorem NavCall.taskCancelled_turns (h : call.resume baseFrame now .taskCancelled = some t) : call.Turns t := by
  simp only [NavCall.resume] at h
  split at h
  · cases h
  · next outcome hpoint =>
    cases h
    exact .cancelled outcome hpoint
  · next hlive _ =>
    cases h
    refine .ends _ ?_
    cases hp : call.point <;> first | rfl | exact absurd hp (hlive _)

private theorem NavCall.resultTaskStarted_turns
    (h : call.resume baseFrame now .resultTaskStarted = some t) : call.Turns t := by
  simp only [NavCall.resume] at h
  split at h
  · next htask =>
    cases h
    exact .resultTaskStarted htask
  · cases h

private theorem NavCall.resultTaskEnded_turns
    (h : call.resume baseFrame now .resultTaskEnded = some t) : call.Turns t := by
  simp only [NavCall.resume] at h
  split at h
  · next r htask =>
    cases h
    exact .resultTaskEnded r htask
  · cases h

theorem NavCall.resume_turns {e : NavEvent N} (h : call.resume baseFrame now e = some t) : call.Turns t := by
  cases e with
  | clientCreated => exact NavCall.clientCreated_turns h
  | serverWaited => exact NavCall.serverWaited_turns h
  | localized => exact NavCall.localized_turns h
  | goalAnswered => exact NavCall.goalAnswered_turns h
  | slept => exact NavCall.slept_turns h
  | cancelAnswered => exact NavCall.cancelAnswered_turns h
  | resultAwaited => exact NavCall.resultAwaited_turns h
  | resultWaitExpired => exact NavCall.resultWaitExpired_turns h
  | finalPoseRead => exact NavCall.finalPoseRead_turns h
  | taskCancelled => exact NavCall.taskCancelled_turns h
  | tokenCancelled =>
    cases h
    exact .tokenCancelled
  | resultTaskStarted => exact NavCall.resultTaskStarted_turns h
  | resultTaskEnded => exact NavCall.resultTaskEnded_turns h

end Turns

end Call

end RosMcp
