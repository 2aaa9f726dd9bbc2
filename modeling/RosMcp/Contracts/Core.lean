import Mathlib.Data.Int.Cast.Basic

/-!
# Core contracts (`contracts/core.py`, `errors.py`, `safety.py`, `capabilities.py`)

The data that the components exchange.  `N` is the type of Python numbers: `ℝ` where the code is read in exact real
arithmetic, `PyFloat ℝ` where the special values matter.  A `SemanticCommand` object is mutable in one field only,
`execution_state`, which the execution manager keeps (`Execution/Manager.lean`); the other fields are the record
below.
-/

namespace RosMcp

/-! ### Values -/

/-- A JSON value as Python's `json` module decodes it; `N` is the type of the floats. -/
inductive Json (N : Type)
  | null
  | bool (b : Bool)
  | int (n : ℤ)
  | float (x : N)
  | str (s : String)
  | arr (items : List (Json N))
  | obj (fields : List (String × Json N))

/-- `dict.get` on a decoded object: the keys of a decoded object are distinct. -/
def getKey {β : Type} (fields : List (String × β)) (key : String) : Option β :=
  (fields.find? fun f => f.1 == key).map Prod.snd

/-- The value of a JSON number. -/
def Json.number? {N : Type} [IntCast N] : Json N → Option N
  | .int n => some n
  | .float x => some x
  | _ => none

/-- One piece of an f-string: literal text, an interpolated number (`fixed2` is the format `:.2f`), an interpolated
value under `repr`, or an interpolated collection. -/
inductive Fragment (N : Type)
  | text (s : String)
  | num (x : N)
  | fixed2 (x : N)
  | repr (v : Json N)
  | texts (items : List String)

/-- A message that the code builds with an f-string. -/
abbrev Message (N : Type) := List (Fragment N)

/-! ### Errors -/

inductive ErrorCode
  | invalidArgument | invalidFrame | tfUnavailable | capabilityUnavailable | navigationFailed | actionTimeout
  | safetyRejected | robotNotReady | sensorStale | permissionDenied | rosInterfaceError | cancelled | internalError
  deriving DecidableEq, Repr

/-- `ErrorCode.value` -/
def ErrorCode.value : ErrorCode → String
  | .invalidArgument => "INVALID_ARGUMENT"
  | .invalidFrame => "INVALID_FRAME"
  | .tfUnavailable => "TF_UNAVAILABLE"
  | .capabilityUnavailable => "CAPABILITY_UNAVAILABLE"
  | .navigationFailed => "NAVIGATION_FAILED"
  | .actionTimeout => "ACTION_TIMEOUT"
  | .safetyRejected => "SAFETY_REJECTED"
  | .robotNotReady => "ROBOT_NOT_READY"
  | .sensorStale => "SENSOR_STALE"
  | .permissionDenied => "PERMISSION_DENIED"
  | .rosInterfaceError => "ROS_INTERFACE_ERROR"
  | .cancelled => "CANCELLED"
  | .internalError => "INTERNAL_ERROR"

/-- A value of `ToolError.details`. -/
inductive Detail (N : Type)
  | num (x : N)
  | text (s : String)
  | flag (b : Bool)
  | texts (items : List String)
  | arguments (fields : List (String × Json N))

structure ToolError (N : Type) where
  code : ErrorCode
  message : Message N
  details : List (String × Detail N) := []

/-! ### Commands -/

inductive Confidence
  | confirmed | likely | ambiguous
  deriving DecidableEq, Repr

/-- `Confidence.value` -/
def Confidence.value : Confidence → String
  | .confirmed => "confirmed"
  | .likely => "likely"
  | .ambiguous => "ambiguous"

inductive Operation
  | move | stop | navigate | getState | getCapabilities | getLaserScan | getCameraImage | detectObjects
  | rawReadTopic | rawPublish | rawCallService | rawSendActionGoal | rawGetParameter | rawSetParameter
  deriving DecidableEq, Repr

/-- `Operation.value` -/
def Operation.value : Operation → String
  | .move => "move"
  | .stop => "stop"
  | .navigate => "navigate"
  | .getState => "get_state"
  | .getCapabilities => "get_capabilities"
  | .getLaserScan => "get_laser_scan"
  | .getCameraImage => "get_camera_image"
  | .detectObjects => "detect_objects"
  | .rawReadTopic => "raw_read_topic"
  | .rawPublish => "raw_publish"
  | .rawCallService => "raw_call_service"
  | .rawSendActionGoal => "raw_send_action_goal"
  | .rawGetParameter => "raw_get_parameter"
  | .rawSetParameter => "raw_set_parameter"

inductive CommandClass
  | read | lowRisk | motion | highRisk
  deriving DecidableEq, Repr

inductive Priority
  | normal | safety
  deriving DecidableEq, Repr

inductive ExecutionState
  | received | validating | rejected | safetyCheck | safetyRejected | awaitingApproval | planning
  | capabilityUnavailable | executing | monitoring | succeeded | failed | timeout | safetyStop | cancelled
  deriving DecidableEq, Repr

/-- `ExecutionState.value` -/
def ExecutionState.value : ExecutionState → String
  | .received => "received"
  | .validating => "validating"
  | .rejected => "rejected"
  | .safetyCheck => "safety_check"
  | .safetyRejected => "safety_rejected"
  | .awaitingApproval => "awaiting_approval"
  | .planning => "planning"
  | .capabilityUnavailable => "capability_unavailable"
  | .executing => "executing"
  | .monitoring => "monitoring"
  | .succeeded => "succeeded"
  | .failed => "failed"
  | .timeout => "timeout"
  | .safetyStop => "safety_stop"
  | .cancelled => "cancelled"

/-- `TERMINAL_STATES` -/
def ExecutionState.terminal : ExecutionState → Bool
  | .rejected | .safetyRejected | .capabilityUnavailable | .succeeded | .failed | .timeout | .safetyStop
  | .cancelled => true
  | _ => false

structure Pose2D (N : Type) where
  x : N
  y : N
  yaw : N
  frame : String
  stamp : N

structure Provenance (N : Type) where
  toolName : String
  rawArguments : List (String × Json N)
  clientSessionId : String

structure SafetyConstraints (N : Type) where
  maxLinearMps : N
  maxAngularRps : N
  maxLinearAccelerationMps2 : N
  maxAngularAccelerationRps2 : N
  maxMoveDistanceM : N
  maxNavigationDistanceM : N
  obstacleStopDistanceM : N

inductive Direction
  | forward | backward | left | right | rotateLeft | rotateRight
  deriving DecidableEq, Repr

/-- The direction that a JSON string names. -/
def Direction.ofString : String → Option Direction
  | "forward" => some .forward
  | "backward" => some .backward
  | "left" => some .left
  | "right" => some .right
  | "rotate_left" => some .rotateLeft
  | "rotate_right" => some .rotateRight
  | _ => none

/-- Membership in `_ROTATION_DIRECTIONS`. -/
def Direction.isRotation : Direction → Bool
  | .rotateLeft | .rotateRight => true
  | _ => false

structure MoveTarget (N : Type) where
  direction : Direction
  distanceM : Option N
  angleDeg : Option N

structure NavigateTarget (N : Type) where
  x : N
  y : N
  yaw : Option N

inductive Target (N : Type)
  | move (t : MoveTarget N)
  | navigate (t : NavigateTarget N)
  | none

/-- The classes of `contracts/results.py`; `base` is `ToolResult` itself. -/
inductive ResultType
  | base | robotState | capabilities | motion | stop | navigate | laserScan | cameraImage | detectObjects
  deriving DecidableEq, Repr

structure SemanticCommand (N : Type) where
  commandId : String
  sessionId : String
  robotId : String
  operation : Operation
  commandClass : CommandClass
  target : Target N
  frame : Option String
  timeoutS : N
  priority : Priority
  safetyConstraints : Option (SafetyConstraints N)
  provenance : Provenance N
  confidence : Option N
  createdAt : N
  expectedResultType : ResultType

/-- `command.frame or "map"`: the frame of a NAVIGATE goal, as the navigation plugin reads it. -/
def SemanticCommand.goalFrame {N : Type} (command : SemanticCommand N) : String :=
  match command.frame with
  | none => "map"
  | some frame => if frame = "" then "map" else frame

/-! ### Safety outcomes (`contracts/safety.py`) -/

inductive SafetyDecision
  | allow | deny | requireApproval
  deriving DecidableEq, Repr

structure SafetyOutcome (N : Type) where
  decision : SafetyDecision
  error : Option (ToolError N)
  approvalReason : Option (Message N)
  resolvedConstraints : SafetyConstraints N

/-! ### Capabilities -/

structure CapabilityEntry (N : Type) where
  capabilityId : String
  confidence : Confidence
  backendId : Option String
  resolvedTopics : List (String × String)
  limits : List (String × N)

/-- `InMemoryCapabilityRegistry.get`: the first entry with the given id. -/
def registryGet {N : Type} (entries : List (CapabilityEntry N)) (capabilityId : String) :
    Option (CapabilityEntry N) :=
  entries.find? fun e => e.capabilityId == capabilityId

end RosMcp
