import RosMcp.Lib.Limiter
import RosMcp.RobotState
import RosMcp.Perception.LaserScan

/-!
# The motion controller (`adapters/motion/cmd_vel_plugin.py`)

A call of `CmdVelMotionPlugin.move` is a coroutine that is suspended at the creation of the publisher, at a publish or
at the sleep between two ticks (`MovePoint`).  Between two awaits it reads the token, the clock and the cached messages
(`Observation`) and decides on the next twist (`iterate`); `moveStep` resumes it with the answer to its await, which is
a value, an exception or the cancellation of the task.  The numbers are read in exact real arithmetic, the beams of a
scan as Python floats.

`handed` records the twists that the call has handed to the publisher, each with the phase of the iteration it comes
from; no step reads it.
-/

namespace RosMcp

/-! ### Data -/

structure Twist where
  linearX : ℝ
  angularZ : ℝ

/-- The twist of `_publish_zero`. -/
noncomputable def Twist.zero : Twist := ⟨0, 0⟩

inductive Phase
  | turning | driving
  deriving DecidableEq, Repr

/-- The fields that `__init__` sets and `move` reads; `laserScanTopic` says whether a scan topic is configured. -/
structure CmdVelMotionPlugin where
  robotId : String
  laserScanTopic : Bool
  controlRateHz : ℝ
  positionToleranceM : ℝ
  angleToleranceRad : ℝ
  kpLinear : ℝ
  kpAngular : ℝ

/-- `_tick_period_s` -/
noncomputable def CmdVelMotionPlugin.tickPeriodS (p : CmdVelMotionPlugin) : ℝ := 1 / p.controlRateHz

/-- What the subscription cache gives for the odometry topic: the latest message and whether it is fresh, nothing when
none was received, or an exception. -/
abbrev OdometryRead := Except PyException (Option (CachedMessage ℝ × Bool))

/-- The latest message on the scan topic. -/
abbrev ScanRead := Except PyException (Option LaserScan)

/-- What an iteration of the loop reads. -/
structure Observation where
  isCancelled : Bool
  deadlineExceeded : Bool
  now : ℝ
  odometry : OdometryRead
  scan : ScanRead

/-- The locals of `move` in the loop. -/
structure Locals where
  constraints : SafetyConstraints ℝ
  isRotation : Bool
  headingTarget : ℝ
  driveSign : ℝ
  distanceTargetM : ℝ
  deadline : ℝ
  phase : Phase
  phaseStartPose : Pose2D ℝ
  distanceTraveledTotal : ℝ
  lastPose : Pose2D ℝ
  prevLinearCmd : ℝ
  prevAngularCmd : ℝ

/-- The result that `move` returns after its final zero twist, without the duration. -/
structure Exit where
  status : Status
  error : Option (ToolError ℝ)
  distanceTraveledM : ℝ
  finalPose : Option (Pose2D ℝ)
  stopReason : StopReason

/-! ### Sensors -/

/-- `_pose_from_odometry` -/
noncomputable def motionPoseFromOdometry (cached : CachedMessage ℝ) : Except PyException (Pose2D ℝ) :=
  poseFromMessage cached "odom"

/-- `_current_pose` -/
noncomputable def currentPose (read : OdometryRead) : Except PyException (Option (Pose2D ℝ) × Bool) :=
  match read with
  | .error exc => .error exc
  | .ok none => .ok (none, false)
  | .ok (some (cached, fresh)) => (motionPoseFromOdometry cached).map fun pose => (some pose, fresh)

/-- `_obstacle_ahead`; the range of a reading is finite (`analyzeLaserScan_finite`). -/
noncomputable def obstacleAhead (p : CmdVelMotionPlugin) (scan : ScanRead) (sector : Sector)
    (obstacleStopDistanceM : ℝ) : Except PyException (Option ℝ) :=
  if p.laserScanTopic = false then .ok none
  else
    match scan with
    | .error exc => .error exc
    | .ok none => .ok none
    | .ok (some raw) => (analyzeLaserScan raw).map fun analysis =>
        match analysis.sectors sector with
        | some ⟨.fin rangeM, _, _⟩ => if rangeM < obstacleStopDistanceM then some rangeM else none
        | _ => none

/-! ### The exits -/

/-- `fail` -/
def Exit.fail (code : ErrorCode) (message : Message ℝ) (details : List (String × Detail ℝ)) (distanceTraveled : ℝ)
    (finalPose : Option (Pose2D ℝ)) (stopReason : StopReason) : Exit :=
  ⟨.failed, some ⟨code, message, details⟩, distanceTraveled, finalPose, stopReason⟩

def Exit.noOdometry : Exit :=
  .fail .sensorStale [.text "no fresh odometry available for closed-loop motion"] [] 0 none .safetyStop

def Exit.cancelled (l : Locals) : Exit :=
  .fail .cancelled [.text "move cancelled"] [] l.distanceTraveledTotal (some l.lastPose) .cancelled

def Exit.timedOut (l : Locals) : Exit :=
  .fail .actionTimeout [.text "move timed out before reaching target"] [] l.distanceTraveledTotal (some l.lastPose)
    .timeout

def Exit.stale (l : Locals) : Exit :=
  .fail .sensorStale [.text "odometry became stale during motion"] [] l.distanceTraveledTotal (some l.lastPose)
    .safetyStop

def Exit.obstacle (l : Locals) (sector : Sector) (obstacleRange : ℝ) : Exit :=
  .fail .safetyRejected
    [.text "obstacle detected ", .fixed2 obstacleRange, .text "m away, within the ",
      .num l.constraints.obstacleStopDistanceM, .text "m stop distance"]
    [("obstacle_range_m", .num obstacleRange), ("sector", .text sector.value)] l.distanceTraveledTotal
    (some l.lastPose) .safetyStop

def Exit.reached (l : Locals) : Exit :=
  ⟨.succeeded, none, l.distanceTraveledTotal, some l.lastPose, .targetReached⟩

/-- The `MotionResult` of an exit; `elapsed` is read after the zero twist. -/
def Exit.result (command : SemanticCommand ℝ) (elapsed : ℝ) (e : Exit) : ToolResult ℝ where
  status := e.status
  commandId := command.commandId
  robotId := command.robotId
  durationSec := elapsed
  error := e.error
  fields := .motion e.distanceTraveledM e.finalPose (some e.stopReason)

/-! ### The loop -/

/-- `move` from the start pose to the loop: the target fixes the heading, the distance, the sign of the drive and the
first phase. -/
noncomputable def planMove (command : SemanticCommand ℝ) (target : MoveTarget ℝ) (constraints : SafetyConstraints ℝ)
    (startPose : Pose2D ℝ) (startMonotonic : ℝ) : Except PyException Locals :=
  let locals (isRotation : Bool) (headingTarget : ℝ) (phase : Phase) (driveSign distanceTargetM : ℝ) : Locals :=
    { constraints, isRotation, headingTarget, driveSign, distanceTargetM, phase
      deadline := startMonotonic + command.timeoutS
      phaseStartPose := startPose
      distanceTraveledTotal := 0
      lastPose := startPose
      prevLinearCmd := 0
      prevAngularCmd := 0 }
  match target.direction, target.distanceM, target.angleDeg with
  | .rotateLeft, _, some angleDeg =>
    .ok (locals true (normalizeAngle (startPose.yaw + 1 * radians angleDeg)) .turning 0 0)
  | .rotateRight, _, some angleDeg =>
    .ok (locals true (normalizeAngle (startPose.yaw + -1 * radians angleDeg)) .turning 0 0)
  | .forward, some distanceM, _ => .ok (locals false startPose.yaw .driving 1 distanceM)
  | .backward, some distanceM, _ => .ok (locals false startPose.yaw .driving (-1) distanceM)
  | .left, some distanceM, _ =>
    .ok (locals false (normalizeAngle (startPose.yaw + quarterTurn)) .turning 1 distanceM)
  | .right, some distanceM, _ =>
    .ok (locals false (normalizeAngle (startPose.yaw + -quarterTurn)) .turning 1 distanceM)
  | _, _, _ => .error ⟨.assertionError, ""⟩

/-- The angular command of both phases, for the heading error `error`. -/
noncomputable def angularCommand (p : CmdVelMotionPlugin) (l : Locals) (error : ℝ) : ℝ :=
  clampDelta (clamp (p.kpAngular * error) (-l.constraints.maxAngularRps) l.constraints.maxAngularRps)
    l.prevAngularCmd (l.constraints.maxAngularAccelerationRps2 * p.tickPeriodS)

/-- The linear command of the driving phase. -/
noncomputable def linearCommand (p : CmdVelMotionPlugin) (l : Locals) (remaining : ℝ) : ℝ :=
  clampDelta (l.driveSign * clamp (p.kpLinear * remaining) 0 l.constraints.maxLinearMps) l.prevLinearCmd
    (l.constraints.maxLinearAccelerationMps2 * p.tickPeriodS)

/-- How an iteration of the loop goes on: it raises, it leaves the loop, it sleeps without a publish, or it publishes
a twist and sleeps. -/
inductive Iteration
  | raised (exc : PyException)
  | exit (e : Exit)
  | sleep (l : Locals)
  | publish (twist : Twist) (l : Locals)

/-- The turning branch. -/
noncomputable def turn (p : CmdVelMotionPlugin) (l : Locals) (pose : Pose2D ℝ) : Iteration :=
  let error := angularDifference l.headingTarget pose.yaw
  if |error| ≤ p.angleToleranceRad then
    if l.isRotation then .exit (.reached l)
    else .sleep { l with phase := .driving, phaseStartPose := pose, prevAngularCmd := 0 }
  else
    let angularCmd := angularCommand p l error
    .publish ⟨0, angularCmd⟩ { l with prevLinearCmd := 0, prevAngularCmd := angularCmd }

/-- The driving branch. -/
noncomputable def drive (p : CmdVelMotionPlugin) (l : Locals) (pose : Pose2D ℝ) : Iteration :=
  let remaining := l.distanceTargetM - euclideanDistance l.phaseStartPose.x l.phaseStartPose.y pose.x pose.y
  if remaining ≤ p.positionToleranceM then .exit (.reached l)
  else
    let angularCmd := angularCommand p l (angularDifference l.headingTarget pose.yaw)
    let linearCmd := linearCommand p l remaining
    .publish ⟨linearCmd, angularCmd⟩ { l with prevLinearCmd := linearCmd, prevAngularCmd := angularCmd }

/-- The sector in the direction of travel. -/
noncomputable def travelSector (l : Locals) : Sector := if 0 ≤ l.driveSign then .front else .rear

/-- An iteration after the odometry has been found fresh; `last_pose` is `pose` from here on. -/
noncomputable def iterateFresh (p : CmdVelMotionPlugin) (l : Locals) (pose : Pose2D ℝ) (scan : ScanRead) : Iteration :=
  let l := { l with
    distanceTraveledTotal :=
      l.distanceTraveledTotal + euclideanDistance l.lastPose.x l.lastPose.y pose.x pose.y
    lastPose := pose }
  match l.phase with
  | .turning => turn p l pose
  | .driving =>
    match obstacleAhead p scan (travelSector l) l.constraints.obstacleStopDistanceM with
    | .error exc => .raised exc
    | .ok (some obstacleRange) => .exit (.obstacle l (travelSector l) obstacleRange)
    | .ok none => drive p l pose

/-- One iteration of the loop of `move`, up to its first await. -/
noncomputable def iterate (p : CmdVelMotionPlugin) (l : Locals) (o : Observation) : Iteration :=
  if o.isCancelled then .exit (.cancelled l)
  else if o.deadlineExceeded ∨ l.deadline ≤ o.now then .exit (.timedOut l)
  else
    match currentPose o.odometry with
    | .error exc => .raised exc
    | .ok (some pose, true) => iterateFresh p l pose o.scan
    | .ok _ => .exit (.stale l)

/-! ### The coroutine -/

/-- A twist that was handed to the publisher; `phase` is that of the iteration, `none` before the loop. -/
structure Handed where
  twist : Twist
  phase : Option Phase

/-- What follows a publish. -/
inductive Next
  | finish (e : Exit)
  | loop (l : Locals)

/-- How a call of `move` or `stop` ended. -/
inductive MoveOutcome
  | returned (result : ToolResult ℝ)
  | raised (exc : PyException)
  | cancelled

/-- The await at which a call of `move` is suspended; `created` is a coroutine that has not run yet. -/
inductive MovePoint
  | created
  | creatingPublisher (h : Handed) (next : Next)
  | publishing (h : Handed) (next : Next)
  | sleeping (l : Locals)
  | ended (o : MoveOutcome)

structure MoveCall where
  point : MovePoint
  startMonotonic : ℝ
  handed : List Handed

/-- A call of `move` that has not run yet. -/
def MoveCall.initial : MoveCall := ⟨.created, 0, []⟩

/-- The answer to an await.  `ready` says whether the publisher exists when the call gets to `_ensure_publisher`. -/
inductive MoveReply
  | start (now : ℝ) (odometry : OdometryRead) (o : Observation) (ready : Bool)
  | publisher (reply : Except PyException Unit)
  | published (reply : Except PyException Unit) (now : ℝ)
  | slept (reply : Except PyException Observation) (ready : Bool)
  | cancelled

def MoveCall.endWith (m : MoveCall) (o : MoveOutcome) : MoveCall := { m with point := .ended o }

/-- `_publish_twist` up to its first await. -/
def MoveCall.publishTwist (m : MoveCall) (ready : Bool) (h : Handed) (next : Next) : MoveCall :=
  if ready then { m with point := .publishing h next, handed := m.handed ++ [h] }
  else { m with point := .creatingPublisher h next }

/-- `move` goes on with an iteration of the loop. -/
noncomputable def MoveCall.iterate (p : CmdVelMotionPlugin) (m : MoveCall) (l : Locals) (o : Observation)
    (ready : Bool) : MoveCall :=
  match RosMcp.iterate p l o with
  | .raised exc => m.endWith (.raised exc)
  | .exit e => m.publishTwist ready ⟨.zero, some l.phase⟩ (.finish e)
  | .sleep l' => { m with point := .sleeping l' }
  | .publish twist l' => m.publishTwist ready ⟨twist, some l.phase⟩ (.loop l')

/-- `move` up to its first await. -/
noncomputable def MoveCall.start (p : CmdVelMotionPlugin) (command : SemanticCommand ℝ) (m : MoveCall) (now : ℝ)
    (odometry : OdometryRead) (o : Observation) (ready : Bool) : MoveCall :=
  let m := { m with startMonotonic := now }
  match command.target, command.safetyConstraints with
  | .move target, some constraints =>
    match currentPose odometry with
    | .error exc => m.endWith (.raised exc)
    | .ok (some startPose, true) =>
      match planMove command target constraints startPose now with
      | .error exc => m.endWith (.raised exc)
      | .ok l => m.iterate p l o ready
    | .ok _ => m.publishTwist ready ⟨.zero, none⟩ (.finish .noOdometry)
  | _, _ => m.endWith (.raised ⟨.assertionError, ""⟩)

/-- The call goes on with the answer to its await. -/
noncomputable def moveStep (p : CmdVelMotionPlugin) (command : SemanticCommand ℝ) (m : MoveCall) (reply : MoveReply) :
    Option MoveCall :=
  match m.point, reply with
  | .ended _, _ => none
  | _, .cancelled => some (m.endWith .cancelled)
  | .created, .start now odometry o ready => some (m.start p command now odometry o ready)
  | .creatingPublisher _ _, .publisher (.error exc) => some (m.endWith (.raised exc))
  | .creatingPublisher h next, .publisher (.ok ()) => some (m.publishTwist true h next)
  | .publishing _ _, .published (.error exc) _ => some (m.endWith (.raised exc))
  | .publishing _ (.finish e), .published (.ok ()) now =>
    some (m.endWith (.returned (e.result command (now - m.startMonotonic))))
  | .publishing _ (.loop l), .published (.ok ()) _ => some { m with point := .sleeping l }
  | .sleeping _, .slept (.error exc) _ => some (m.endWith (.raised exc))
  | .sleeping l, .slept (.ok o) ready => some (m.iterate p l o ready)
  | _, _ => none

/-- The steps of a call, one constructor for each await and kind of answer. -/
inductive MoveTransition (p : CmdVelMotionPlugin) (command : SemanticCommand ℝ) (m : MoveCall) :
    MoveReply → MoveCall → Prop
  | cancelled (hlive : ∀ o, m.point ≠ .ended o) : MoveTransition p command m .cancelled (m.endWith .cancelled)
  | started (now : ℝ) (odometry : OdometryRead) (o : Observation) (ready : Bool) (hp : m.point = .created) :
      MoveTransition p command m (.start now odometry o ready) (m.start p command now odometry o ready)
  | creationFailed (h : Handed) (next : Next) (exc : PyException) (hp : m.point = .creatingPublisher h next) :
      MoveTransition p command m (.publisher (.error exc)) (m.endWith (.raised exc))
  | publisherCreated (h : Handed) (next : Next) (hp : m.point = .creatingPublisher h next) :
      MoveTransition p command m (.publisher (.ok ())) (m.publishTwist true h next)
  | publishFailed (h : Handed) (next : Next) (exc : PyException) (now : ℝ) (hp : m.point = .publishing h next) :
      MoveTransition p command m (.published (.error exc) now) (m.endWith (.raised exc))
  | finished (h : Handed) (e : Exit) (now : ℝ) (hp : m.point = .publishing h (.finish e)) :
      MoveTransition p command m (.published (.ok ()) now)
        (m.endWith (.returned (e.result command (now - m.startMonotonic))))
  | looped (h : Handed) (l : Locals) (now : ℝ) (hp : m.point = .publishing h (.loop l)) :
      MoveTransition p command m (.published (.ok ()) now) { m with point := .sleeping l }
  | sleepFailed (l : Locals) (exc : PyException) (ready : Bool) (hp : m.point = .sleeping l) :
      MoveTransition p command m (.slept (.error exc) ready) (m.endWith (.raised exc))
  | iterated (l : Locals) (o : Observation) (ready : Bool) (hp : m.point = .sleeping l) :
      MoveTransition p command m (.slept (.ok o) ready) (m.iterate p l o ready)

/-- Every step of a call is one of the transitions. -/
theorem moveStep_transition {p : CmdVelMotionPlugin} {command : SemanticCommand ℝ} {m m' : MoveCall}
    {reply : MoveReply} (h : moveStep p command m reply = some m') : MoveTransition p command m reply m' := by
  unfold moveStep at h
  split at h
  · cases h
  · next hlive =>
    obtain rfl := Option.some.inj h
    exact .cancelled hlive
  · next hp =>
    obtain rfl := Option.some.inj h
    exact .started _ _ _ _ hp
  · next hp =>
    obtain rfl := Option.some.inj h
    exact .creationFailed _ _ _ hp
  · next hp =>
    obtain rfl := Option.some.inj h
    exact .publisherCreated _ _ hp
  · next hp =>
    obtain rfl := Option.some.inj h
    exact .publishFailed _ _ _ _ hp
  · next hp =>
    obtain rfl := Option.some.inj h
    exact .finished _ _ _ hp
  · next hp =>
    obtain rfl := Option.some.inj h
    exact .looped _ _ _ hp
  · next hp =>
    obtain rfl := Option.some.inj h
    exact .sleepFailed _ _ _ hp
  · next hp =>
    obtain rfl := Option.some.inj h
    exact .iterated _ _ _ hp
  · cases h

/-- The `StopResult` of `stop`. -/
def stopResult (p : CmdVelMotionPlugin) (pose : Option (Pose2D ℝ)) : ToolResult ℝ where
  status := .succeeded
  commandId := ""
  robotId := p.robotId
  durationSec := 0
  error := none
  fields := .stop none pose

/-- `stop` after its zero twist. -/
noncomputable def stopAfterPublish (p : CmdVelMotionPlugin) (odometry : OdometryRead) : MoveOutcome :=
  match currentPose odometry with
  | .error exc => .raised exc
  | .ok (pose, _) => .returned (stopResult p pose)

/-- A driving iteration with nothing ahead goes on to `drive`. -/
theorem iterateFresh_clear {p : CmdVelMotionPlugin} {l : Locals} {pose : Pose2D ℝ} {scan : ScanRead}
    (hphase : l.phase = .driving)
    (hclear : obstacleAhead p scan (travelSector l) l.constraints.obstacleStopDistanceM = .ok none) :
    iterateFresh p l pose scan = drive p
      { l with
        distanceTraveledTotal := l.distanceTraveledTotal + euclideanDistance l.lastPose.x l.lastPose.y pose.x pose.y
        lastPose := pose } pose := by
  unfold travelSector at hclear
  unfold iterateFresh travelSector
  dsimp only
  rw [hphase]
  dsimp only
  rw [hclear]

/-! ### What an iteration does -/

/-- The iteration gets past the token and the deadlines. -/
structure Observation.GoesOn (o : Observation) (l : Locals) : Prop where
  running : ¬ o.isCancelled = true
  inTime : ¬ (o.deadlineExceeded = true ∨ l.deadline ≤ o.now)

/-- The locals after the pose has been read. -/
noncomputable def Locals.seen (l : Locals) (pose : Pose2D ℝ) : Locals :=
  { l with
    distanceTraveledTotal := l.distanceTraveledTotal + euclideanDistance l.lastPose.x l.lastPose.y pose.x pose.y
    lastPose := pose }

/-- The transitions of an iteration. -/
inductive Iterated (p : CmdVelMotionPlugin) (l : Locals) (o : Observation) : Iteration → Prop
  | cancelled (hc : o.isCancelled = true) : Iterated p l o (.exit (.cancelled l))
  | timedOut (hc : ¬ o.isCancelled = true) (ht : o.deadlineExceeded = true ∨ l.deadline ≤ o.now) :
      Iterated p l o (.exit (.timedOut l))
  | unread (exc : PyException) (ho : o.GoesOn l) (hpose : currentPose o.odometry = .error exc) :
      Iterated p l o (.raised exc)
  | stale (ho : o.GoesOn l) : Iterated p l o (.exit (.stale l))
  | reached (pose : Pose2D ℝ) (ho : o.GoesOn l) (hpose : currentPose o.odometry = .ok (some pose, true)) :
      Iterated p l o (.exit (.reached (l.seen pose)))
  | aligned (pose : Pose2D ℝ) (ho : o.GoesOn l) (hpose : currentPose o.odometry = .ok (some pose, true))
      (hrotation : ¬ l.isRotation = true) :
      Iterated p l o (.sleep { l.seen pose with phase := .driving, phaseStartPose := pose, prevAngularCmd := 0 })
  | turned (pose : Pose2D ℝ) (error : ℝ) (ho : o.GoesOn l)
      (hpose : currentPose o.odometry = .ok (some pose, true)) (hphase : l.phase = .turning) :
      Iterated p l o (.publish ⟨0, angularCommand p l error⟩
        { l.seen pose with prevLinearCmd := 0, prevAngularCmd := angularCommand p l error })
  | unscanned (pose : Pose2D ℝ) (exc : PyException) (ho : o.GoesOn l)
      (hpose : currentPose o.odometry = .ok (some pose, true)) (hphase : l.phase = .driving)
      (hscan : obstacleAhead p o.scan (travelSector l) l.constraints.obstacleStopDistanceM = .error exc) :
      Iterated p l o (.raised exc)
  | obstacle (pose : Pose2D ℝ) (range : ℝ) (ho : o.GoesOn l)
      (hpose : currentPose o.odometry = .ok (some pose, true)) (hphase : l.phase = .driving)
      (hscan : obstacleAhead p o.scan (travelSector l) l.constraints.obstacleStopDistanceM = .ok (some range)) :
      Iterated p l o (.exit (.obstacle (l.seen pose) (travelSector l) range))
  | driven (pose : Pose2D ℝ) (error remaining : ℝ) (ho : o.GoesOn l)
      (hpose : currentPose o.odometry = .ok (some pose, true)) (hphase : l.phase = .driving) :
      Iterated p l o (.publish ⟨linearCommand p l remaining, angularCommand p l error⟩
        { l.seen pose with
          prevLinearCmd := linearCommand p l remaining, prevAngularCmd := angularCommand p l error })

theorem iterate_iterated (p : CmdVelMotionPlugin) (l : Locals) (o : Observation) : Iterated p l o (iterate p l o) := by
  unfold iterate
  split
  · next hc => exact .cancelled hc
  · next hc =>
    split
    · next ht => exact .timedOut hc ht
    · next ht =>
      split
      · next exc hpose => exact .unread exc ⟨hc, ht⟩ hpose
      · next pose hpose =>
        unfold iterateFresh
        dsimp only
        split
        · next hphase =>
          unfold turn
          dsimp only
          split
          · split
            · exact .reached pose ⟨hc, ht⟩ hpose
            · next hrotation => exact .aligned pose ⟨hc, ht⟩ hpose hrotation
          · exact .turned pose _ ⟨hc, ht⟩ hpose hphase
        · next hphase =>
          split
          · next exc hscan => exact .unscanned pose exc ⟨hc, ht⟩ hpose hphase hscan
          · next range hscan => exact .obstacle pose range ⟨hc, ht⟩ hpose hphase hscan
          · unfold drive
            dsimp only
            split
            · exact .reached pose ⟨hc, ht⟩ hpose
            · exact .driven pose _ _ ⟨hc, ht⟩ hpose hphase
      · exact .stale ⟨hc, ht⟩

/-- The transitions of the start of a call. -/
inductive Started (p : CmdVelMotionPlugin) (command : SemanticCommand ℝ) (m : MoveCall) (now : ℝ)
    (odometry : OdometryRead) (o : Observation) (ready : Bool) : MoveCall → Prop
  | raised (exc : PyException) : Started p command m now odometry o ready (m.endWith (.raised exc))
  | noOdometry : Started p command m now odometry o ready (m.publishTwist ready ⟨.zero, none⟩ (.finish .noOdometry))
  | planned (target : MoveTarget ℝ) (k : SafetyConstraints ℝ) (startPose : Pose2D ℝ) (l : Locals)
      (ht : command.target = .move target) (hk : command.safetyConstraints = some k)
      (hpose : currentPose odometry = .ok (some startPose, true))
      (hplan : planMove command target k startPose now = .ok l) :
      Started p command m now odometry o ready (m.iterate p l o ready)

theorem MoveCall.start_started (m : MoveCall) (p : CmdVelMotionPlugin) (command : SemanticCommand ℝ) (now : ℝ)
    (odometry : OdometryRead) (o : Observation) (ready : Bool) :
    Started p command { m with startMonotonic := now } now odometry o ready
      (m.start p command now odometry o ready) := by
  unfold MoveCall.start
  dsimp only
  split
  · next target k ht hk =>
    split
    · exact .raised _
    · next startPose hpose =>
      split
      · exact .raised _
      · next l hplan => exact .planned target k startPose l ht hk hpose hplan
    · exact .noOdometry
  · exact .raised _

/-! ### What follows an observation -/

/-- How a call goes on from `m` after it has observed its token: it ends, it sleeps, or it publishes a twist, which is
zero when the token is cancelled. -/
inductive Continues (m : MoveCall) (ready cancelled : Bool) : MoveCall → Prop
  | ends (o : MoveOutcome) : Continues m ready cancelled (m.endWith o)
  | sleeps (l : Locals) (hc : cancelled = false) : Continues m ready cancelled { m with point := .sleeping l }
  | publishes (h : Handed) (next : Next) (hz : cancelled = true → h.twist = .zero) :
      Continues m ready cancelled (m.publishTwist ready h next)

section Continues

variable {p : CmdVelMotionPlugin} {command : SemanticCommand ℝ}

theorem MoveCall.iterate_continues (m : MoveCall) (l : Locals) (o : Observation) (ready : Bool) :
    Continues m ready o.isCancelled (m.iterate p l o ready) := by
  by_cases hc : o.isCancelled = true
  · have hexit : RosMcp.iterate p l o = .exit (.cancelled l) := by
      unfold RosMcp.iterate
      rw [if_pos hc]
    unfold MoveCall.iterate
    rw [hexit]
    exact .publishes _ _ fun _ => rfl
  · have hf : o.isCancelled = false := by simpa using hc
    unfold MoveCall.iterate
    rw [hf]
    split
    · exact .ends _
    · exact .publishes _ _ fun _ => rfl
    · exact .sleeps _ rfl
    · exact .publishes _ _ fun h => by cases h

theorem MoveCall.start_continues (m : MoveCall) (now : ℝ) (odometry : OdometryRead) (o : Observation)
    (ready : Bool) :
    Continues { m with startMonotonic := now } ready o.isCancelled (m.start p command now odometry o ready) := by
  have hstarted := m.start_started p command now odometry o ready
  generalize m.start p command now odometry o ready = m' at hstarted ⊢
  cases hstarted with
  | raised exc => exact .ends _
  | noOdometry => exact .publishes _ _ fun _ => rfl
  | planned target k startPose l => exact MoveCall.iterate_continues _ l o ready

end Continues

end RosMcp
