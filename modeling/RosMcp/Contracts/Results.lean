import RosMcp.Contracts.Core

/-!
# Results (`contracts/results.py`, `execution/error_results.py`)

A `ToolResult` is the base envelope together with the fields of its subclass.  `buildResultWithDefaults` fills the
subclass fields with the placeholders used when no adapter ran; the result has the requested class
(`buildResultWithDefaults_resultType`).
-/

namespace RosMcp

variable {N : Type}

inductive Status
  | succeeded | failed | awaitingApproval
  deriving DecidableEq, Repr

def Status.value : Status → String
  | .succeeded => "succeeded"
  | .failed => "failed"
  | .awaitingApproval => "awaiting_approval"

inductive StopReason
  | targetReached | obstacle | timeout | cancelled | safetyStop
  deriving DecidableEq, Repr

def StopReason.value : StopReason → String
  | .targetReached => "target_reached"
  | .obstacle => "obstacle"
  | .timeout => "timeout"
  | .cancelled => "cancelled"
  | .safetyStop => "safety_stop"

inductive FailReason
  | goalRejected | plannerFailure | controllerFailure | obstacleTimeout | cancelled | localizationLost
  deriving DecidableEq, Repr

def FailReason.value : FailReason → String
  | .goalRejected => "goal_rejected"
  | .plannerFailure => "planner_failure"
  | .controllerFailure => "controller_failure"
  | .obstacleTimeout => "obstacle_timeout"
  | .cancelled => "cancelled"
  | .localizationLost => "localization_lost"

inductive Sector
  | front | left | right | rear
  deriving DecidableEq, Repr

def Sector.value : Sector → String
  | .front => "front"
  | .left => "left"
  | .right => "right"
  | .rear => "rear"

structure CommandSummary where
  commandId : String
  operation : Operation
  executionState : ExecutionState

structure RangeReading (N : Type) where
  rangeM : N
  angleRad : N
  sector : Sector

structure ObjectPosition (N : Type) where
  x : N
  y : N
  frame : String

inductive DistanceSource
  | laserScanCorrelation | depthImage | unavailable
  deriving DecidableEq, Repr

def DistanceSource.value : DistanceSource → String
  | .laserScanCorrelation => "laser_scan_correlation"
  | .depthImage => "depth_image"
  | .unavailable => "unavailable"

structure DetectedObject (N : Type) where
  label : String
  confidence : N
  distanceM : Option N
  distanceSource : DistanceSource
  position : Option (ObjectPosition N)
  positionError : Option String
  bboxPx : ℤ × ℤ × ℤ × ℤ

/-- The fields that a subclass adds to `ToolResult`. -/
inductive ResultFields (N : Type)
  | base
  | robotState (pose : Option (Pose2D N)) (linearVelocityMps angularVelocityRps : Option N) (isMoving : Bool)
      (activeCommand : Option CommandSummary)
  | capabilities (capabilities : List (CapabilityEntry N)) (snapshotVersion : Nat)
  | motion (distanceTraveledM : N) (finalPose : Option (Pose2D N)) (stopReason : Option StopReason)
  | stop (cancelledCommandId : Option String) (finalPose : Option (Pose2D N))
  | navigate (finalPose : Option (Pose2D N)) (distanceRemainingM : Option N) (failReason : Option FailReason)
  | laserScan (stamp : Option N) (frame : Option String) (nearest farthest : Option (RangeReading N))
      (sectors : List (Sector × Option (RangeReading N))) (rawRanges : Option (List N)) (dataAgeS : Option N)
      (stale : Bool) (invalidBeamCount : Nat)
  | cameraImage (stamp : Option N) (frame : Option String) (dataAgeS : Option N) (imageJpegBytes : List UInt8)
      (widthPx heightPx originalWidthPx originalHeightPx : ℤ)
  | detectObjects (stamp : Option N) (objects : List (DetectedObject N)) (detectorPluginId : String)

/-- The class that a set of subclass fields belongs to. -/
def ResultFields.resultType : ResultFields N → ResultType
  | .base => .base
  | .robotState .. => .robotState
  | .capabilities .. => .capabilities
  | .motion .. => .motion
  | .stop .. => .stop
  | .navigate .. => .navigate
  | .laserScan .. => .laserScan
  | .cameraImage .. => .cameraImage
  | .detectObjects .. => .detectObjects

structure ToolResult (N : Type) where
  status : Status
  commandId : String
  robotId : String
  durationSec : N
  error : Option (ToolError N)
  fields : ResultFields N

/-- `_EXTRA_FIELDS_BY_TYPE` -/
def extraFieldsByType [IntCast N] : ResultType → ResultFields N
  | .base => .base
  | .robotState => .robotState none none none false none
  | .capabilities => .capabilities [] 0
  | .motion => .motion ((0 : ℤ) : N) none none
  | .stop => .stop none none
  | .navigate => .navigate none none none
  | .laserScan => .laserScan none none none none [] none none true 0
  | .cameraImage => .cameraImage none none none [] 0 0 0 0
  | .detectObjects => .detectObjects none [] ""

/-- `build_result_with_defaults` -/
def buildResultWithDefaults [IntCast N] (expectedResultType : ResultType) (status : Status)
    (commandId robotId : String) (durationSec : N) (error : Option (ToolError N)) : ToolResult N where
  status := status
  commandId := commandId
  robotId := robotId
  durationSec := durationSec
  error := error
  fields := extraFieldsByType expectedResultType

/-- `build_error_result` -/
def buildErrorResult [IntCast N] (expectedResultType : ResultType) (commandId robotId : String)
    (durationSec : N) (error : ToolError N) : ToolResult N :=
  buildResultWithDefaults expectedResultType .failed commandId robotId durationSec (some error)

/-- The placeholders belong to the requested class. -/
theorem buildResultWithDefaults_resultType [IntCast N] (t : ResultType) (status : Status)
    (commandId robotId : String) (d : N) (error : Option (ToolError N)) :
    (buildResultWithDefaults t status commandId robotId d error).fields.resultType = t := by
  cases t <;> rfl

/-- A result of the class `t` for a command that has been carried out or has failed: it has an error exactly when it
has failed. -/
structure ToolResult.Completed (r : ToolResult N) (t : ResultType) (commandId robotId : String) : Prop where
  resultType : r.fields.resultType = t
  commandId : r.commandId = commandId
  robotId : r.robotId = robotId
  outcome : (r.status = .succeeded ∧ r.error = none) ∨ (r.status = .failed ∧ ∃ error, r.error = some error)

theorem buildErrorResult_completed [IntCast N] (t : ResultType) (commandId robotId : String) (d : N)
    (error : ToolError N) : (buildErrorResult t commandId robotId d error).Completed t commandId robotId :=
  ⟨buildResultWithDefaults_resultType t .failed commandId robotId d (some error), rfl, rfl, Or.inr ⟨rfl, error, rfl⟩⟩

/-- A completed result has no error exactly when it has succeeded, and it never waits for an approval. -/
theorem ToolResult.Completed.error_eq_none_iff {r : ToolResult N} {t : ResultType} {commandId robotId : String}
    (h : r.Completed t commandId robotId) : r.error = none ↔ r.status = .succeeded := by
  rcases h.outcome with ⟨hstatus, herror⟩ | ⟨hstatus, error, herror⟩ <;> simp [hstatus, herror]

end RosMcp
