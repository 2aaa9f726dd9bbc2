import RosMcp.Lib.Run
import RosMcp.Motion.CmdVel
import RosMcp.Navigation.NavCall

/-!
# What the shipped backends return

`MoveReturns` lists the `return` statements of `CmdVelMotionPlugin.move`, with the numbers that they report left open,
so that it can be read over Python floats: an odometry or a scan may hold `nan` and infinities.  The coroutine of
`Motion/CmdVel`, which computes in real arithmetic, returns nothing else (`moveReturns_run`).  `NavigateReturns` is
what a turn of a call of `navigate` ends with.

Either way the result is completed: it has the class, the command id and the robot id of the command, and an error
exactly when it has failed.
-/

namespace RosMcp

/-! ### `move` -/

section Move

variable {N : Type}

/-- `fail` of `move` -/
def moveFailure (command : SemanticCommand N) (elapsed : N) (error : ToolError N) (distanceTraveled : N)
    (finalPose : Option (Pose2D N)) (stopReason : StopReason) : ToolResult N where
  status := .failed
  commandId := command.commandId
  robotId := command.robotId
  durationSec := elapsed
  error := some error
  fields := .motion distanceTraveled finalPose (some stopReason)

/-- The results that `move` returns. -/
inductive MoveReturns [IntCast N] (command : SemanticCommand N) : ToolResult N → Prop
  | noOdometry (elapsed : N) :
      MoveReturns command (moveFailure command elapsed
        { code := .sensorStale, message := [.text "no fresh odometry available for closed-loop motion"] }
        ((0 : ℤ) : N) none .safetyStop)
  | cancelled (elapsed distanceTraveled : N) (lastPose : Pose2D N) :
      MoveReturns command (moveFailure command elapsed { code := .cancelled, message := [.text "move cancelled"] }
        distanceTraveled (some lastPose) .cancelled)
  | timedOut (elapsed distanceTraveled : N) (lastPose : Pose2D N) :
      MoveReturns command (moveFailure command elapsed
        { code := .actionTimeout, message := [.text "move timed out before reaching target"] }
        distanceTraveled (some lastPose) .timeout)
  | stale (elapsed distanceTraveled : N) (lastPose : Pose2D N) :
      MoveReturns command (moveFailure command elapsed
        { code := .sensorStale, message := [.text "odometry became stale during motion"] }
        distanceTraveled (some lastPose) .safetyStop)
  | obstacle (elapsed distanceTraveled : N) (lastPose : Pose2D N) (obstacleRange obstacleStopDistanceM : N)
      (sector : Sector) :
      MoveReturns command (moveFailure command elapsed
        { code := .safetyRejected
          message := [.text "obstacle detected ", .fixed2 obstacleRange, .text "m away, within the ",
            .num obstacleStopDistanceM, .text "m stop distance"]
          details := [("obstacle_range_m", .num obstacleRange), ("sector", .text sector.value)] }
        distanceTraveled (some lastPose) .safetyStop)
  | reached (elapsed distanceTraveled : N) (finalPose : Pose2D N) :
      MoveReturns command
        { status := .succeeded
          commandId := command.commandId
          robotId := command.robotId
          durationSec := elapsed
          error := none
          fields := .motion distanceTraveled (some finalPose) (some .targetReached) }

/-- What `move` returns is a completed result of its class. -/
theorem MoveReturns.completed [IntCast N] {command : SemanticCommand N} {r : ToolResult N}
    (h : MoveReturns command r) : r.Completed .motion command.commandId command.robotId := by
  cases h with
  | reached => exact ⟨rfl, rfl, rfl, Or.inl ⟨rfl, rfl⟩⟩
  | _ => exact ⟨rfl, rfl, rfl, Or.inr ⟨rfl, _, rfl⟩⟩

end Move

/-! ### The coroutine of `move` -/

section Coroutine

variable {p : CmdVelMotionPlugin} {command : SemanticCommand ℝ} {l : Locals} {e : Exit} {m m' : MoveCall}

/-- The result of an exit is one of those that `move` returns. -/
def Exit.Returns (command : SemanticCommand ℝ) (e : Exit) : Prop :=
  ∀ elapsed, MoveReturns command (e.result command elapsed)

/-- A call that is about to return, or has returned, does so with one of the results of `move`. -/
def MovePoint.Returns (command : SemanticCommand ℝ) : MovePoint → Prop
  | .creatingPublisher _ (.finish e) | .publishing _ (.finish e) => e.Returns command
  | .ended (.returned r) => MoveReturns command r
  | _ => True

private theorem Exit.noOdometry_returns : Exit.noOdometry.Returns command := by
  intro elapsed
  have h : MoveReturns command _ := .noOdometry elapsed
  rw [Int.cast_zero] at h
  exact h

private theorem Exit.reached_returns (l : Locals) : (Exit.reached l).Returns command :=
  fun elapsed => .reached elapsed _ _

/-- An iteration leaves the loop with one of the exits. -/
private theorem iterate_returns {o : Observation} (h : iterate p l o = .exit e) : e.Returns command := by
  have hiterated := iterate_iterated p l o
  rw [h] at hiterated
  cases hiterated with
  | cancelled => exact fun elapsed => .cancelled elapsed _ _
  | timedOut => exact fun elapsed => .timedOut elapsed _ _
  | stale => exact fun elapsed => .stale elapsed _ _
  | reached => exact Exit.reached_returns _
  | obstacle => exact fun elapsed => .obstacle elapsed _ _ _ _ _

private theorem publishTwist_returns (m : MoveCall) (ready : Bool) {h : Handed} {next : Next}
    (hnext : ∀ e, next = .finish e → e.Returns command) : (m.publishTwist ready h next).point.Returns command := by
  unfold MoveCall.publishTwist
  cases next with
  | loop l => split <;> trivial
  | finish e => split <;> exact hnext e rfl

private theorem iterateCall_returns (m : MoveCall) (l : Locals) (o : Observation) (ready : Bool) :
    (m.iterate p l o ready).point.Returns command := by
  unfold MoveCall.iterate
  split
  · trivial
  · next e he =>
    refine publishTwist_returns m ready ?_
    intro e' he'
    obtain rfl := Next.finish.inj he'
    exact iterate_returns he
  · trivial
  · exact publishTwist_returns m ready (by simp)

private theorem started_returns {now : ℝ} {odometry : OdometryRead} {o : Observation} {ready : Bool}
    (h : Started p command m now odometry o ready m') : m'.point.Returns command := by
  cases h with
  | raised exc => trivial
  | noOdometry =>
    refine publishTwist_returns m ready ?_
    intro e he
    obtain rfl := Next.finish.inj he
    exact Exit.noOdometry_returns
  | planned target k startPose l => exact iterateCall_returns m l o ready

private theorem MovePoint.Returns.step {reply : MoveReply} (hm : m.point.Returns command)
    (h : moveStep p command m reply = some m') : m'.point.Returns command := by
  cases moveStep_transition h with
  | started now odometry o ready => exact started_returns (m.start_started p command now odometry o ready)
  | iterated l o ready => exact iterateCall_returns m l o ready
  | publisherCreated h next hp =>
    rw [hp] at hm
    refine publishTwist_returns m true ?_
    rintro e rfl
    exact hm
  | finished h e now hp =>
    rw [hp] at hm
    exact hm (now - m.startMonotonic)
  | cancelled | creationFailed | publishFailed | looped | sleepFailed => trivial

/-- A call of `move` that returns does so with one of its results. -/
theorem moveReturns_run {replies : List MoveReply} {r : ToolResult ℝ}
    (h : StepSystem.run (moveStep p command) MoveCall.initial replies = some m)
    (hended : m.point = .ended (.returned r)) : MoveReturns command r := by
  have hm := StepSystem.run_invariant (P := fun m => m.point.Returns command)
    (fun _ _ _ hs ha => MovePoint.Returns.step hs ha) trivial h
  rw [hended] at hm
  exact hm

end Coroutine

/-! ### `navigate` -/

section Navigate

variable {N : Type} [IntCast N] [Add N] [Sub N] [Mul N] [PyMath N] [LE N] [DecidableLE N]

/-- The results that a call of `navigate` for the command returns, in its first turn or in a later one. -/
inductive NavigateReturns (command : SemanticCommand N) (r : ToolResult N) : Prop
  | atOnce (tokenDeadline now : N) (knownFrames : List String) (client : Bool)
      (hended : (NavCall.begin command tokenDeadline now knownFrames client).call.point = .ended (.returned r))
  | later (baseFrame : String) (call : NavCall N) (now : N) (e : NavEvent N) (t : NavTurn N)
      (hcommand : call.command = command) (hlive : call.point.isEnded = false)
      (ht : call.resume baseFrame now e = some t) (hended : t.call.point = .ended (.returned r))

variable {command : SemanticCommand N} {call : NavCall N} {r : ToolResult N}

omit [IntCast N] [Add N] [Mul N] [PyMath N] [LE N] [DecidableLE N] in
private theorem fail_completed {now : N} {error : ToolError N} {failReason : Option FailReason}
    {finalPose : Option (Pose2D N)} {distanceRemainingM : Option N}
    (h : call.fail now error failReason finalPose distanceRemainingM = .returned r) :
    r.Completed .navigate call.command.commandId call.command.robotId := by
  obtain rfl := NavOutcome.returned.inj h
  exact ⟨rfl, rfl, rfl, Or.inr ⟨rfl, error, rfl⟩⟩

omit [Add N] [Mul N] [PyMath N] [LE N] [DecidableLE N] in
private theorem conclude_completed {now : N} {outcome : Option EarlyExit} {finalPose : Option (Pose2D N)}
    (h : call.conclude now outcome finalPose = .returned r) :
    r.Completed .navigate call.command.commandId call.command.robotId := by
  unfold NavCall.conclude at h
  split at h
  · exact fail_completed h
  · exact fail_completed h
  · split at h
    · cases h
    · cases h
    · split at h
      · obtain rfl := NavOutcome.returned.inj h
        exact ⟨rfl, rfl, rfl, Or.inl ⟨rfl, rfl⟩⟩
      · split at h <;> exact fail_completed h
    · exact fail_completed h

omit [IntCast N] [Sub N] [Mul N] [PyMath N] in
/-- The head of the loop does not end the call. -/
private theorem loopHead_ne_ended (call : NavCall N) (now : N) (o : NavOutcome N) :
    (call.loopHead now).call.point ≠ .ended o := by
  rcases call.loopHead_cases now with ⟨-, hl⟩ | ⟨outcome, hl⟩ | hl <;> rw [hl] <;> rintro ⟨⟩

omit [IntCast N] [Add N] [Sub N] [Mul N] [PyMath N] [LE N] [DecidableLE N] in
/-- A result that is ready is not the one of the call. -/
private theorem resultReady_ended {outcome : EarlyExit} {t : NavTurn N} (h : call.resultReady outcome = some t) :
    t.call.point ≠ .ended (.returned r) := by
  unfold NavCall.resultReady at h
  split at h
  · obtain rfl := Option.some.inj h
    exact fun hended => by cases hended
  · obtain rfl := Option.some.inj h
    exact fun hended => by cases hended
  · obtain rfl := Option.some.inj h
    exact fun hended => by cases hended
  · cases h

section Awaits

variable {baseFrame : String} {now : N} {t : NavTurn N}

private theorem serverWaited_completed {localization : Bool}
    (h : call.resume baseFrame now (.serverWaited localization) = some t)
    (hended : t.call.point = .ended (.returned r)) :
    r.Completed .navigate call.command.commandId call.command.robotId := by
  simp only [NavCall.resume] at h
  split at h
  · split at h
    · obtain rfl := Option.some.inj h
      exact fail_completed (NavPoint.ended.inj hended)
    · split at h
      · obtain rfl := Option.some.inj h
        exact fail_completed (NavPoint.ended.inj hended)
      · obtain rfl := Option.some.inj h
        cases hended
  · obtain rfl := Option.some.inj h
    cases hended
  · cases h

private theorem localized_completed {result : Except PyException (TransformResult N)}
    {goalMessage : Except PyException Unit}
    (h : call.resume baseFrame now (.localized result goalMessage) = some t)
    (hended : t.call.point = .ended (.returned r)) :
    r.Completed .navigate call.command.commandId call.command.robotId := by
  simp only [NavCall.resume] at h
  split at h
  · obtain rfl := Option.some.inj h
    cases hended
  · split at h
    · obtain rfl := Option.some.inj h
      exact fail_completed (NavPoint.ended.inj hended)
    · split at h
      · obtain rfl := Option.some.inj h
        cases hended
      · obtain rfl := Option.some.inj h
        cases hended
  · cases h

private theorem goalAnswered_completed
    (h : call.resume baseFrame now .goalAnswered = some t)
    (hended : t.call.point = .ended (.returned r)) :
    r.Completed .navigate call.command.commandId call.command.robotId := by
  simp only [NavCall.resume] at h
  split at h
  · split at h
    · obtain rfl := Option.some.inj h
      exact fail_completed (NavPoint.ended.inj hended)
    · obtain rfl := Option.some.inj h
      exact absurd hended (loopHead_ne_ended ({ call with resultTask := .scheduled } : NavCall N) now _)
  · obtain rfl := Option.some.inj h
    cases hended
  · cases h

private theorem finalPoseRead_completed {result : Except PyException (TransformResult N)} {stamp : N}
    (h : call.resume baseFrame now (.finalPoseRead result stamp) = some t)
    (hended : t.call.point = .ended (.returned r)) :
    r.Completed .navigate call.command.commandId call.command.robotId := by
  simp only [NavCall.resume] at h
  split at h
  · obtain rfl := Option.some.inj h
    cases hended
  · split at h
    · obtain rfl := Option.some.inj h
      cases hended
    · obtain rfl := Option.some.inj h
      exact conclude_completed (NavPoint.ended.inj hended)
  · cases h

/-- A turn that ends the call with a result ends it with a completed one. -/
private theorem resume_completed {e : NavEvent N} (hlive : call.point.isEnded = false)
    (h : call.resume baseFrame now e = some t) (hended : t.call.point = .ended (.returned r)) :
    r.Completed .navigate call.command.commandId call.command.robotId := by
  have kept : call.point ≠ .ended (.returned r) := by
    intro hpoint
    rw [hpoint] at hlive
    cases hlive
  cases e with
  | clientCreated =>
    simp only [NavCall.resume] at h
    split at h
    · obtain rfl := Option.some.inj h
      cases hended
    · obtain rfl := Option.some.inj h
      cases hended
    · cases h
  | serverWaited localization => exact serverWaited_completed h hended
  | localized result goalMessage => exact localized_completed h hended
  | goalAnswered => exact goalAnswered_completed h hended
  | slept =>
    simp only [NavCall.resume] at h
    split at h
    · obtain rfl := Option.some.inj h
      exact absurd hended (loopHead_ne_ended call now _)
    · cases h
  | cancelAnswered =>
    simp only [NavCall.resume] at h
    split at h
    · split at h
      · exact absurd hended (resultReady_ended h)
      · obtain rfl := Option.some.inj h
        cases hended
    · cases h
  | resultAwaited =>
    simp only [NavCall.resume] at h
    split at h
    · exact absurd hended (resultReady_ended h)
    · cases h
  | resultWaitExpired =>
    simp only [NavCall.resume] at h
    split at h
    · split at h
      · cases h
      · obtain rfl := Option.some.inj h
        cases hended
    · cases h
  | finalPoseRead result stamp => exact finalPoseRead_completed h hended
  | taskCancelled =>
    simp only [NavCall.resume] at h
    split at h
    · cases h
    · obtain rfl := Option.some.inj h
      cases hended
    · obtain rfl := Option.some.inj h
      cases hended
  | tokenCancelled =>
    obtain rfl := Option.some.inj h
    exact absurd hended kept
  | resultTaskStarted =>
    simp only [NavCall.resume] at h
    split at h
    · obtain rfl := Option.some.inj h
      exact absurd hended kept
    · cases h
  | resultTaskEnded =>
    simp only [NavCall.resume] at h
    split at h
    · obtain rfl := Option.some.inj h
      exact absurd hended kept
    · cases h

end Awaits

/-- What `navigate` returns is a completed result of its class. -/
theorem NavigateReturns.completed (h : NavigateReturns command r) :
    r.Completed .navigate command.commandId command.robotId := by
  cases h with
  | atOnce tokenDeadline now knownFrames client hended =>
    unfold NavCall.begin at hended
    dsimp only at hended
    split at hended
    · split at hended
      · exact fail_completed (NavPoint.ended.inj hended)
      · split at hended <;> cases hended
    · cases hended
  | later baseFrame call now e t hcommand hlive ht hended =>
    subst hcommand
    exact resume_completed hlive ht hended

end Navigate

end RosMcp
