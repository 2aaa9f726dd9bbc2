import RosMcp.Lib.Run
import RosMcp.Navigation.NavCall

/-!
# The navigation plugin and the action server (`adapters/navigation/nav2_plugin.py`)

`Nav2` is the plugin with all of its calls: overlapping calls of `navigate` with their result tasks, calls of
`cancel_all`, the items on the work queue of the ROS thread, and the action server, which accepts, rejects and ends
goals as it likes.  Every call submits at most one goal, so a goal is identified by its call.  `cancelRequests` records
the requests that `cancel_goal_async` has issued; only the responses to these requests read it.
-/

namespace RosMcp

/-- The identity of a call of `navigate`, and of its goal. -/
abbrev NavId := Nat

/-- The identity of a call of `cancel_all`. -/
abbrev CancelId := Nat

/-- A call of `cancel_all`. -/
inductive CancelCall
  | waiting (reply : Option (Except PyException Unit))
  | returned
  | cancelled

/-- An item on the work queue of the ROS thread: a job of a call, or the request of a call of `cancel_all`. -/
inductive RosItem
  | job (c : NavId) (job : NavJob)
  | cancelActive (k : CancelId)
  deriving DecidableEq, Repr

/-- The state of a goal at the action server. -/
inductive GoalState
  | unsent
  | sent
  | rejected
  | accepted
  | ended (status : ℤ)
  deriving DecidableEq, Repr

/-- Who issued a cancel request. -/
inductive Canceller
  | navigate (c : NavId)
  | cancelAll (k : CancelId)
  deriving DecidableEq, Repr

structure Nav2 (N : Type) where
  baseFrame : String
  now : N
  actionClient : Bool
  activeGoalHandle : Option NavId
  calls : NavId → Option (NavCall N)
  cancels : CancelId → Option CancelCall
  workQueue : List RosItem
  goals : NavId → GoalState
  cancelRequests : List (Canceller × NavId)

/-- A plugin that has just been constructed, at the time `now`. -/
def Nav2.initial (baseFrame : String) (now : N) : Nav2 N where
  baseFrame := baseFrame
  now := now
  actionClient := false
  activeGoalHandle := none
  calls _ := none
  cancels _ := none
  workQueue := []
  goals _ := .unsent
  cancelRequests := []

/-- A step of the event loop, of the ROS thread (`runItem`, with what the item returns or raises), of the action server
(`decide`, `finish`), or the completion of a future of `rclpy` (the `…Response` steps). -/
inductive Nav2Action (N : Type)
  | tick (now : N)
  | navigate (c : NavId) (command : SemanticCommand N) (tokenDeadline : N) (knownFrames : List String)
  | resume (c : NavId) (e : NavEvent N)
  | cancelAll (k : CancelId)
  | cancelAllResumed (k : CancelId)
  | cancelAllCancelled (k : CancelId)
  | runItem (outcome : Except PyException Bool)
  | decide (c : NavId) (accepted : Bool)
  | finish (c : NavId) (status : ℤ)
  | goalResponse (c : NavId) (r : Except PyException Unit)
  | cancelResponse (c : NavId) (r : Except PyException Unit)
  | resultResponse (c : NavId) (r : Except PyException ℤ)
  | cancelAllResponse (k : CancelId) (r : Except PyException Unit)
  | feedback (c : NavId) (f : Feedback N)

/-- The slot after a turn of the call `c`. -/
def SlotWrite.apply (c : NavId) (slot : Option NavId) : SlotWrite → Option NavId
  | .keep => slot
  | .own => some c
  | .clear => none

/-- The result task after its item was run. -/
def ResultTask.requested (outcome : Except PyException Bool) : ResultTask → ResultTask
  | .queued =>
    match outcome with
    | .ok _ => .pending
    | .error exc => .replied (.error exc)
  | task => task

section Plugin

variable {N : Type} [IntCast N] [Add N] [Sub N] [Mul N] [PyMath N] [LE N] [DecidableLE N]

namespace Nav2

/-- The call `c` takes a turn. -/
def turn (s : Nav2 N) (c : NavId) (t : NavTurn N) : Nav2 N :=
  { s with
    actionClient := s.actionClient || t.client
    activeGoalHandle := SlotWrite.apply c s.activeGoalHandle t.slot
    calls := Function.update s.calls c (some t.call)
    workQueue := s.workQueue ++ (t.job.map (RosItem.job c)).toList }

/-- The call `c` is changed by what arrives from the ROS thread. -/
def modifyCall (s : Nav2 N) (c : NavId) (f : NavCall N → NavCall N) : Nav2 N :=
  { s with calls := Function.update s.calls c ((s.calls c).map f) }

/-- The future that the call `c` awaits is completed. -/
def answer (s : Nav2 N) (c : NavId) (r : Except PyException Bool) : Nav2 N :=
  s.modifyCall c fun call => { call with reply := some r }

/-- The future that the call `k` of `cancel_all` awaits is completed. -/
def answerCancel (s : Nav2 N) (k : CancelId) (r : Except PyException Unit) : Nav2 N :=
  { s with cancels := Function.update s.cancels k ((s.cancels k).map fun
    | .waiting _ => .waiting (some r)
    | call => call) }

/-- `cancel_goal_async` of the handle of the goal `c`. -/
def requestCancel (s : Nav2 N) (who : Canceller) (c : NavId) : Nav2 N :=
  { s with cancelRequests := s.cancelRequests ++ [(who, c)] }

/-- `None.cancel_goal_async()` -/
def noneHandleError : PyException :=
  ⟨.attributeError, "'NoneType' object has no attribute 'cancel_goal_async'"⟩

/-- The ROS thread runs an item; `outcome` is what the call of `rclpy` in it returns or raises. -/
def execute (s : Nav2 N) (outcome : Except PyException Bool) : RosItem → Nav2 N
  | .job c .createClient | .job c .waitForServer => s.answer c outcome
  | .job c .sendGoal =>
    match outcome with
    | .ok _ => { s with goals := Function.update s.goals c .sent }
    | .error exc => s.answer c (.error exc)
  | .job c .getResult =>
    s.modifyCall c fun call => { call with resultTask := ResultTask.requested outcome call.resultTask }
  | .job c .cancelGoal =>
    match outcome with
    | .ok _ => s.requestCancel (.navigate c) c
    | .error exc => s.answer c (.error exc)
  | .cancelActive k =>
    -- the handle is read again, on the ROS thread
    match s.activeGoalHandle, outcome with
    | none, _ => s.answerCancel k (.error noneHandleError)
    | some c, .ok _ => s.requestCancel (.cancelAll k) c
    | some _, .error exc => s.answerCancel k (.error exc)

/-- The first part of `cancel_all`, up to its await. -/
def beginCancelAll (s : Nav2 N) (k : CancelId) : Nav2 N :=
  match s.activeGoalHandle with
  | none => { s with cancels := Function.update s.cancels k (some .returned) }
  | some _ =>
    { s with
      cancels := Function.update s.cancels k (some (.waiting none))
      workQueue := s.workQueue ++ [.cancelActive k] }

/-- The response to the goal of `c` says what the server has decided. -/
def goalReply (s : Nav2 N) (c : NavId) : Option Bool :=
  match s.goals c with
  | .unsent | .sent => none
  | .rejected => some false
  | .accepted | .ended _ => some true

/-- A result response with a terminal status reports the end of the goal; one with another status, which the server
gives for a goal that it does not know, may come at any time. -/
def reportable (s : Nav2 N) (c : NavId) : Except PyException ℤ → Bool
  | .ok status => !isTerminalStatus status || s.goals c == .ended status
  | .error _ => true

def step (s : Nav2 N) : Nav2Action N → Option (Nav2 N)
  | .tick now => if s.now ≤ now then some { s with now } else none
  | .navigate c command tokenDeadline knownFrames =>
    match s.calls c with
    | none => some (s.turn c (NavCall.begin command tokenDeadline s.now knownFrames s.actionClient))
    | some _ => none
  | .resume c e =>
    match s.calls c with
    | none => none
    | some call => (call.resume s.baseFrame s.now e).map (s.turn c)
  | .cancelAll k =>
    match s.cancels k with
    | none => some (s.beginCancelAll k)
    | some _ => none
  | .cancelAllResumed k =>
    match s.cancels k with
    -- an exception of the cancellation is logged
    | some (.waiting (some _)) => some { s with cancels := Function.update s.cancels k (some .returned) }
    | _ => none
  | .cancelAllCancelled k =>
    match s.cancels k with
    | some (.waiting _) => some { s with cancels := Function.update s.cancels k (some .cancelled) }
    | _ => none
  | .runItem outcome =>
    match s.workQueue with
    | [] => none
    | item :: rest => some ({ s with workQueue := rest }.execute outcome item)
  | .decide c accepted =>
    if s.goals c = .sent then
      some { s with goals := Function.update s.goals c (if accepted then .accepted else .rejected) }
    else none
  | .finish c status =>
    if s.goals c = .accepted ∧ isTerminalStatus status = true then
      some { s with goals := Function.update s.goals c (.ended status) }
    else none
  | .goalResponse c r =>
    match s.calls c with
    | none => none
    | some call =>
      match call.point, call.reply, r with
      | .sending, none, .error exc => if s.goals c = .unsent then none else some (s.answer c (.error exc))
      | .sending, none, .ok () => (s.goalReply c).map fun accepted => s.answer c (.ok accepted)
      | _, _, _ => none
  | .cancelResponse c r =>
    match s.calls c with
    | none => none
    | some call =>
      match call.point, call.reply with
      | .cancelling _, none =>
        if (.navigate c, c) ∈ s.cancelRequests then some (s.answer c (r.map fun _ => true)) else none
      | _, _ => none
  | .resultResponse c r =>
    match s.calls c with
    | none => none
    | some call =>
      match call.resultTask with
      | .pending =>
        if s.reportable c r then some (s.modifyCall c fun call => { call with resultTask := .replied r })
        else none
      | _ => none
  | .cancelAllResponse k r =>
    if s.cancelRequests.any (fun request => request.1 == .cancelAll k) then some (s.answerCancel k r) else none
  | .feedback c f =>
    if s.goals c = .unsent then none else some (s.modifyCall c fun call => { call with feedback := some f })

end Nav2

end Plugin

end RosMcp
