import Mathlib.Tactic.NormNum
import Mathlib.Data.Rat.Defs
import RosMcp.Contracts.Core

/-!
# Configuration (`contracts/config.py`)

The models of `robot.yaml` that the modelled components read, with the defaults of the pydantic fields.  `Accepted`
is what the typed loader checks: the bounds of the fields and the model validators.
-/

namespace RosMcp

variable {N : Type}

structure GeofenceConfig (N : Type) where
  enabled : Bool
  frame : String
  minX : N
  maxX : N
  minY : N
  maxY : N

inductive ApprovalPolicy
  | automatic | policyBased | alwaysHuman
  deriving DecidableEq, Repr

structure SafetyConfig (N : Type) where
  maxLinearMps : N
  maxAngularRps : N
  maxLinearAccelerationMps2 : N
  maxAngularAccelerationRps2 : N
  maxMoveDistanceM : N
  maxNavigationDistanceM : N
  obstacleStopDistanceM : N
  odomStaleS : N
  rateLimitRps : N
  geofence : GeofenceConfig N
  approvalPolicy : ApprovalPolicy
  requiredAboveDistanceM : N

structure TimeoutConfig (N : Type) where
  moveDefaultS : N
  moveMaxS : N
  navigateDefaultS : N
  navigateMaxS : N

/-- The defaults of `SafetyConfig`; `num` reads a decimal literal. -/
def SafetyConfig.defaults (num : ℚ → N) : SafetyConfig N where
  maxLinearMps := num 0.5
  maxAngularRps := num 1.0
  maxLinearAccelerationMps2 := num 0.5
  maxAngularAccelerationRps2 := num 1.0
  maxMoveDistanceM := num 5.0
  maxNavigationDistanceM := num 10.0
  obstacleStopDistanceM := num 0.3
  odomStaleS := num 0.5
  rateLimitRps := num 2.0
  geofence := ⟨false, "map", num (-10.0), num 10.0, num (-10.0), num 10.0⟩
  approvalPolicy := .automatic
  requiredAboveDistanceM := num 5.0

/-- The defaults of `TimeoutConfig`. -/
def TimeoutConfig.defaults (num : ℚ → N) : TimeoutConfig N where
  moveDefaultS := num 30.0
  moveMaxS := num 60.0
  navigateDefaultS := num 120.0
  navigateMaxS := num 300.0

/-- The field bounds of `SafetyConfig` (`gt=0`, `ge=0`) and `GeofenceConfig._check_bounds`. -/
structure SafetyConfig.Accepted [LT N] [LE N] [Zero N] (s : SafetyConfig N) : Prop where
  maxLinearMps : 0 < s.maxLinearMps
  maxAngularRps : 0 < s.maxAngularRps
  maxLinearAccelerationMps2 : 0 < s.maxLinearAccelerationMps2
  maxAngularAccelerationRps2 : 0 < s.maxAngularAccelerationRps2
  maxMoveDistanceM : 0 < s.maxMoveDistanceM
  maxNavigationDistanceM : 0 < s.maxNavigationDistanceM
  obstacleStopDistanceM : 0 ≤ s.obstacleStopDistanceM
  odomStaleS : 0 < s.odomStaleS
  rateLimitRps : 0 < s.rateLimitRps
  requiredAboveDistanceM : 0 ≤ s.requiredAboveDistanceM
  boundsX : ¬ s.geofence.maxX ≤ s.geofence.minX
  boundsY : ¬ s.geofence.maxY ≤ s.geofence.minY

/-- The field bounds of `TimeoutConfig` and `_check_defaults_within_max`. -/
structure TimeoutConfig.Accepted [LT N] [Zero N] (t : TimeoutConfig N) : Prop where
  moveDefaultS : 0 < t.moveDefaultS
  moveMaxS : 0 < t.moveMaxS
  navigateDefaultS : 0 < t.navigateDefaultS
  navigateMaxS : 0 < t.navigateMaxS
  moveWithinMax : ¬ t.moveMaxS < t.moveDefaultS
  navigateWithinMax : ¬ t.navigateMaxS < t.navigateDefaultS

/-- `_resolve_safety_constraints` of the command factory and `_resolve_constraints` of the policy engine, which
copy the same fields. -/
def resolveSafetyConstraints (safety : SafetyConfig N) : SafetyConstraints N where
  maxLinearMps := safety.maxLinearMps
  maxAngularRps := safety.maxAngularRps
  maxLinearAccelerationMps2 := safety.maxLinearAccelerationMps2
  maxAngularAccelerationRps2 := safety.maxAngularAccelerationRps2
  maxMoveDistanceM := safety.maxMoveDistanceM
  maxNavigationDistanceM := safety.maxNavigationDistanceM
  obstacleStopDistanceM := safety.obstacleStopDistanceM

/-! ### The defaults pass their own checks -/

section Defaults

variable [LT N] [LE N] [Zero N] {num : ℚ → N}

theorem SafetyConfig.defaults_accepted (hlt : ∀ p q, num p < num q ↔ p < q) (hle : ∀ p q, num p ≤ num q ↔ p ≤ q)
    (h0 : num 0 = 0) : (SafetyConfig.defaults num).Accepted := by
  constructor <;> try rw [← h0]
  all_goals simp only [SafetyConfig.defaults, hlt, hle]
  all_goals norm_num

omit [LE N] in
theorem TimeoutConfig.defaults_accepted (hlt : ∀ p q, num p < num q ↔ p < q) (h0 : num 0 = 0) :
    (TimeoutConfig.defaults num).Accepted := by
  constructor <;> try rw [← h0]
  all_goals simp only [TimeoutConfig.defaults, hlt]
  all_goals norm_num

end Defaults

end RosMcp
