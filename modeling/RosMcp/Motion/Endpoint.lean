import RosMcp.Execution.NonBypass
import RosMcp.Motion.CmdVel
import RosMcp.Safety.PolicyEngine

/-!
# The predicted and the driven endpoint

The policy engine predicts the end of a translation by rotating a displacement out of the frame of the robot; the motion
controller turns to a wrapped heading and drives along it, backwards with a negative sign.  Both name the same point, at
the requested distance from the start (`predicted_endpoint`): wrapping a heading changes neither its cosine nor its
sine, and a quarter turn exchanges them.
-/

namespace RosMcp

open Real

/-! ### Wrapped headings -/

theorem cos_normalizeAngle (a : ℝ) : cos (normalizeAngle a) = cos a := by
  rw [normalizeAngle_eq_sub, cos_sub_int_mul_two_pi]

theorem sin_normalizeAngle (a : ℝ) : sin (normalizeAngle a) = sin a := by
  rw [normalizeAngle_eq_sub, sin_sub_int_mul_two_pi]

private theorem cos_add_quarterTurn (a : ℝ) : cos (a + quarterTurn) = -sin a := cos_add_pi_div_two a

private theorem sin_add_quarterTurn (a : ℝ) : sin (a + quarterTurn) = cos a := sin_add_pi_div_two a

private theorem cos_sub_quarterTurn (a : ℝ) : cos (a + -quarterTurn) = sin a := by
  rw [← sub_eq_add_neg]
  exact cos_sub_pi_div_two a

private theorem sin_sub_quarterTurn (a : ℝ) : sin (a + -quarterTurn) = -cos a := by
  rw [← sub_eq_add_neg]
  exact sin_sub_pi_div_two a

/-! ### The endpoint -/

/-- The point at the signed distance from a point along a heading. -/
noncomputable def alongHeading (x y heading distance : ℝ) : ℝ × ℝ :=
  (x + distance * cos heading, y + distance * sin heading)

private theorem euclideanDistance_alongHeading (x y heading distance : ℝ) :
    euclideanDistance x y (alongHeading x y heading distance).1 (alongHeading x y heading distance).2 = |distance| := by
  have hpolar := sqrt_polar (abs_nonneg distance) heading
  rw [mul_pow, mul_pow, sq_abs, ← mul_pow, ← mul_pow] at hpolar
  simpa [euclideanDistance, alongHeading] using hpolar

/-- The controller drives to the point that the policy engine checks. -/
theorem projectTranslation_planMove {command : SemanticCommand ℝ} {target : MoveTarget ℝ}
    {constraints : SafetyConstraints ℝ} {startPose : Pose2D ℝ} {startMonotonic d : ℝ}
    (hdirection : target.direction.isRotation = false) (hdistance : target.distanceM = some d) :
    ∃ l, planMove command target constraints startPose startMonotonic = .ok l ∧ l.distanceTargetM = d ∧
      |l.driveSign| = 1 ∧
      projectTranslation target.direction d startPose.x startPose.y startPose.yaw =
        .ok (alongHeading startPose.x startPose.y l.headingTarget (l.driveSign * d)) := by
  obtain ⟨direction, distanceM, angleDeg⟩ := target
  obtain rfl : distanceM = some d := hdistance
  have hproject : ∀ {forward lateral : ℤ} {xy : ℝ × ℝ}, translationLocalDelta direction = some (forward, lateral) →
      startPose.x + (forward * d * cos startPose.yaw - lateral * d * sin startPose.yaw) = xy.1 →
      startPose.y + (forward * d * sin startPose.yaw + lateral * d * cos startPose.yaw) = xy.2 →
      projectTranslation direction d startPose.x startPose.y startPose.yaw = .ok xy := by
    rintro forward lateral ⟨x, y⟩ hdelta rfl rfl
    unfold projectTranslation
    rw [hdelta]
    rfl
  cases direction with
  | forward =>
    refine ⟨_, rfl, rfl, abs_one, hproject rfl ?_ ?_⟩
    · simp [alongHeading]
    · simp [alongHeading]
  | backward =>
    refine ⟨_, rfl, rfl, by simp, hproject rfl ?_ ?_⟩
    · simp [alongHeading]
    · simp [alongHeading]
  | left =>
    refine ⟨_, rfl, rfl, abs_one, hproject rfl ?_ ?_⟩
    · simp [alongHeading, cos_normalizeAngle, cos_add_quarterTurn]
    · simp [alongHeading, sin_normalizeAngle, sin_add_quarterTurn]
  | right =>
    refine ⟨_, rfl, rfl, abs_one, hproject rfl ?_ ?_⟩
    · simp [alongHeading, cos_normalizeAngle, cos_sub_quarterTurn]
    · simp [alongHeading, sin_normalizeAngle, sin_sub_quarterTurn]
  | rotateLeft | rotateRight => cases hdirection

/-- The point that the policy engine checks is the one to which the controller drives, at the requested distance. -/
theorem predicted_endpoint {command : SemanticCommand ℝ} {target : MoveTarget ℝ} {constraints : SafetyConstraints ℝ}
    {startPose : Pose2D ℝ} {startMonotonic d : ℝ} (hdirection : target.direction.isRotation = false)
    (hdistance : target.distanceM = some d) (hd : 0 ≤ d) :
    ∃ l xy, planMove command target constraints startPose startMonotonic = .ok l ∧ l.distanceTargetM = d ∧
      projectTranslation target.direction d startPose.x startPose.y startPose.yaw = .ok xy ∧
      predictedMoveEndpoint target startPose = .ok xy ∧
      xy = alongHeading startPose.x startPose.y l.headingTarget (l.driveSign * d) ∧
      euclideanDistance startPose.x startPose.y xy.1 xy.2 = d := by
  obtain ⟨l, hplan, htarget, hsign, hproject⟩ :=
    @projectTranslation_planMove command target constraints startPose startMonotonic d hdirection hdistance
  refine ⟨l, _, hplan, htarget, hproject, ?_, rfl, ?_⟩
  · unfold predictedMoveEndpoint
    rw [hdirection, hdistance, ← hproject]
    rfl
  · rw [euclideanDistance_alongHeading, abs_mul, hsign, one_mul, abs_of_nonneg hd]

/-- One metre to the left of a robot that looks along the x axis. -/
def sampleLeft : MoveTarget ℝ := ⟨.left, some 1, none⟩

theorem predicted_endpoint_left : ∃ l xy,
    planMove (sampleCommand ℝ "A" .move (.move sampleLeft)) sampleLeft (sampleConstraints ℝ) ⟨0, 0, 0, "odom", 0⟩ 0 =
      .ok l ∧ l.distanceTargetM = 1 ∧ projectTranslation .left 1 0 0 0 = .ok xy ∧
      predictedMoveEndpoint sampleLeft ⟨0, 0, 0, "odom", 0⟩ = .ok xy ∧
      xy = alongHeading 0 0 l.headingTarget (l.driveSign * 1) ∧ euclideanDistance 0 0 xy.1 xy.2 = 1 :=
  predicted_endpoint rfl rfl zero_le_one

end RosMcp
