import Mathlib.Order.Basic
import Mathlib.Tactic.NormNum
import RosMcp.Contracts.Discovery

/-!
# The models of `robot.yaml` (`contracts/config.py`)

The whole of `RootConfig`: its sections with the defaults of their fields, the bounds of the fields, and the validators
of the models.  `RootConfig.Accepted` is what a configuration has passed that pydantic has validated; its comparisons
between fields are those of the validators (`RootConfig.Accepted.validators`), and the defaults pass all of them
(`RootConfig.defaults_accepted`).
-/

namespace RosMcp

variable {N : Type}

/-! ### The models -/

structure RobotConfig where
  id : String
  name : String

structure DiscoveryConfig (N : Type) where
  pollIntervalS : N

/-- `CapabilityConfig` with the fields that inference does not read. -/
structure CapabilitySection extends CapabilityConfig where
  motionBackend : String
  navigationBackend : String
  cameraInfoTopic : String

inductive OnTimeout
  | deny | allow
  deriving DecidableEq, Repr

/-- `SafetyConfig` with the fields that no check reads; those of `HumanApprovalConfig` are `requiredAboveDistanceM`,
`approvalTimeoutS` and `onTimeout`. -/
structure SafetySection (N : Type) extends SafetyConfig N where
  tfStaleS : N
  sensorStaleS : N
  cmdVelWatchdogS : N
  approvalTimeoutS : N
  onTimeout : OnTimeout

structure PerceptionConfig where
  maxResultBytes : ℤ
  cameraMaxWidthPxDefault : ℤ
  cameraMaxWidthPxCap : ℤ
  arrayTruncateElementLimit : ℤ

structure RawRosAccessConfig where
  enabled : Bool
  allowPublish : Bool
  allowParamWrite : Bool
  topicAllowlist : List String

inductive LogFormat
  | json | text
  deriving DecidableEq, Repr

structure LoggingConfig where
  level : String
  format : LogFormat
  deriving DecidableEq, Repr

structure RootConfig (N : Type) where
  robot : RobotConfig
  discovery : DiscoveryConfig N
  capabilities : CapabilitySection
  safety : SafetySection N
  timeouts : TimeoutConfig N
  perception : PerceptionConfig
  rawRosAccess : RawRosAccessConfig
  logging : LoggingConfig

/-- The defaults of `PerceptionConfig`. -/
def PerceptionConfig.defaults : PerceptionConfig := ⟨1048576, 640, 1280, 4096⟩

/-- The defaults of all sections, for a robot, which has none; `num` reads a decimal literal. -/
def RootConfig.defaults (num : ℚ → N) (robot : RobotConfig) : RootConfig N where
  robot
  discovery := ⟨num 5.0⟩
  capabilities := ⟨.defaults, "cmd_vel", "nav2", "/camera/camera_info"⟩
  safety := ⟨.defaults num, num 1.0, num 1.0, num 1.0, num 30.0, .deny⟩
  timeouts := .defaults num
  perception := .defaults
  rawRosAccess := ⟨false, false, false, []⟩
  logging := ⟨"INFO", .json⟩

/-! ### The validators -/

section Validators

variable [LT N] [DecidableLT N] [LE N] [DecidableLE N]

/-- `_check_bounds`, which raises a `ValueError` with the text. -/
def GeofenceConfig.checkBounds (self : GeofenceConfig N) : Except String (GeofenceConfig N) :=
  if self.maxX ≤ self.minX then .error "geofence.min_x must be < geofence.max_x"
  else if self.maxY ≤ self.minY then .error "geofence.min_y must be < geofence.max_y"
  else .ok self

/-- `_check_defaults_within_max` -/
def TimeoutConfig.checkDefaultsWithinMax (self : TimeoutConfig N) : Except String (TimeoutConfig N) :=
  if self.moveMaxS < self.moveDefaultS then .error "timeouts.move_default_s must be <= timeouts.move_max_s"
  else if self.navigateMaxS < self.navigateDefaultS then
    .error "timeouts.navigate_default_s must be <= timeouts.navigate_max_s"
  else .ok self

/-- `_check_camera_widths` -/
def PerceptionConfig.checkCameraWidths (self : PerceptionConfig) : Except String PerceptionConfig :=
  if self.cameraMaxWidthPxCap < self.cameraMaxWidthPxDefault then
    .error "perception.camera_max_width_px_default must be <= camera_max_width_px_cap"
  else .ok self

end Validators

/-! ### What is accepted -/

section Accepted

/-- The bounds of the fields (`gt=0`) and `_check_camera_widths`. -/
structure PerceptionConfig.Accepted (p : PerceptionConfig) : Prop where
  maxResultBytes : 0 < p.maxResultBytes
  widthDefault : 0 < p.cameraMaxWidthPxDefault
  widthCap : 0 < p.cameraMaxWidthPxCap
  elementLimit : 0 < p.arrayTruncateElementLimit
  widthWithinCap : p.cameraMaxWidthPxDefault ≤ p.cameraMaxWidthPxCap

/-- The bounds of the fields and the model validators. -/
structure RootConfig.Accepted [LT N] [LE N] [Zero N] (root : RootConfig N) : Prop where
  pollIntervalS : 0 < root.discovery.pollIntervalS
  safety : root.safety.toSafetyConfig.Accepted
  tfStaleS : 0 < root.safety.tfStaleS
  sensorStaleS : 0 < root.safety.sensorStaleS
  cmdVelWatchdogS : 0 < root.safety.cmdVelWatchdogS
  approvalTimeoutS : 0 < root.safety.approvalTimeoutS
  timeouts : root.timeouts.Accepted
  perception : root.perception.Accepted

private theorem PerceptionConfig.defaults_accepted : PerceptionConfig.defaults.Accepted :=
  ⟨by decide, by decide, by decide, by decide, by decide⟩

/-- An accepted configuration passes the validators. -/
theorem RootConfig.Accepted.validators [LT N] [DecidableLT N] [LE N] [DecidableLE N] [Zero N] {root : RootConfig N}
    (h : root.Accepted) :
    root.safety.geofence.checkBounds = .ok root.safety.geofence ∧
      root.timeouts.checkDefaultsWithinMax = .ok root.timeouts ∧
      root.perception.checkCameraWidths = .ok root.perception := by
  refine ⟨?_, ?_, ?_⟩
  · unfold GeofenceConfig.checkBounds
    rw [if_neg h.safety.boundsX, if_neg h.safety.boundsY]
  · unfold TimeoutConfig.checkDefaultsWithinMax
    rw [if_neg h.timeouts.moveWithinMax, if_neg h.timeouts.navigateWithinMax]
  · unfold PerceptionConfig.checkCameraWidths
    rw [if_neg (not_lt.2 h.perception.widthWithinCap)]

/-- The environment may replace the logging section, which no check reads. -/
theorem RootConfig.Accepted.withLogging [LT N] [LE N] [Zero N] {root : RootConfig N} (h : root.Accepted)
    (logging : LoggingConfig) : { root with logging }.Accepted :=
  ⟨h.pollIntervalS, h.safety, h.tfStaleS, h.sensorStaleS, h.cmdVelWatchdogS, h.approvalTimeoutS, h.timeouts,
    h.perception⟩

/-- The defaults pass their own checks. -/
theorem RootConfig.defaults_accepted [LT N] [LE N] [Zero N] {num : ℚ → N} (hlt : ∀ p q, num p < num q ↔ p < q)
    (hle : ∀ p q, num p ≤ num q ↔ p ≤ q) (h0 : num 0 = 0) (robot : RobotConfig) :
    (RootConfig.defaults num robot).Accepted := by
  have hpos : ∀ q : ℚ, 0 < q → 0 < num q := by
    intro q hq
    rw [← h0]
    exact (hlt 0 q).2 hq
  exact {
    pollIntervalS := hpos _ (by norm_num)
    safety := SafetyConfig.defaults_accepted hlt hle h0
    tfStaleS := hpos _ (by norm_num)
    sensorStaleS := hpos _ (by norm_num)
    cmdVelWatchdogS := hpos _ (by norm_num)
    approvalTimeoutS := hpos _ (by norm_num)
    timeouts := TimeoutConfig.defaults_accepted hlt h0
    perception := PerceptionConfig.defaults_accepted }

end Accepted

end RosMcp
