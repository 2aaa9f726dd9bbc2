import RosMcp.Geometry
import RosMcp.Lib.Heading

/-!
# Orientations and yaws

A pose, a transform and a navigation goal carry the orientation of the robot as a unit quaternion, and the code keeps
its yaw.  The yaw is the angle of the heading, so turning the robot or the frame about the vertical axis adds to it up
to full turns, and a move is planned along the heading or, to the side, along the line at right angles to it
(`yaw_of_orientation`).  The arithmetic is exact.
-/

open Quaternion

namespace RosMcp

open Real

/-- A rotation as the fields of a `geometry_msgs/Quaternion`. -/
def orientation (q : ℍ[ℝ]) : Quaternion ℝ := ⟨q.imI, q.imJ, q.imK, q.re⟩

/-- The orientation of the goal in `navigate`; the fields of a new message are zero. -/
noncomputable def goalOrientation : Option ℝ → Quaternion ℝ
  | some yaw => yawToQuaternion yaw
  | none => ⟨0, 0, 0, 1⟩

private theorem yawToQuaternion_eq_orientation (yaw : ℝ) : yawToQuaternion yaw = orientation (turn (yaw / 2)) := rfl

/-- The yaw of a unit quaternion is the angle of its heading. -/
private theorem quaternionToYaw_orientation {q : ℍ[ℝ]} (hq : normSq q = 1) :
    quaternionToYaw (orientation q) = (heading q).arg := by
  have hyaw : quaternionToYaw (orientation q) =
      realAtan2 (2 * (q.re * q.imK + q.imI * q.imJ)) (1 - 2 * (q.imJ ^ 2 + q.imK ^ 2)) := by
    simp [quaternionToYaw, orientation, PyMath.atan2, pow_two]
  rw [hyaw, realAtan2, heading_of_unit hq]

/-- The goal of a navigation faces the yaw that it is given, and otherwise along the first axis of its frame. -/
private theorem quaternionToYaw_goalOrientation (yaw : Option ℝ) :
    quaternionToYaw (goalOrientation yaw) = normalizeAngle (yaw.getD 0) := by
  have hturn : goalOrientation yaw = orientation (turn (yaw.getD 0 / 2)) := by
    cases yaw with
    | none => simp [goalOrientation, orientation]
    | some yaw => exact yawToQuaternion_eq_orientation yaw
  have hone : heading (1 : ℍ[ℝ]) = 1 := by
    rw [heading_eq]
    apply Complex.ext <;> simp
  have harg := arg_heading_turn_mul (q := 1) (by rw [hone]; exact one_ne_zero) (yaw.getD 0)
  rw [mul_one, hone, Complex.arg_one, add_zero] at harg
  rw [hturn, quaternionToYaw_orientation (normSq_turn _), harg, normalizeAngle_eq_toIocMod]

/-- The unit vector of the heading, by the yaw. -/
private theorem heading_direction {q : ℍ[ℝ]} (hq : normSq q = 1) (hlevel : heading q ≠ 0) :
    heading q / ‖heading q‖ =
      ⟨Real.cos (quaternionToYaw (orientation q)), Real.sin (quaternionToYaw (orientation q))⟩ := by
  have hnorm : (‖heading q‖ : ℂ) ≠ 0 := Complex.ofReal_ne_zero.2 (norm_ne_zero_iff.2 hlevel)
  have hpolar := Complex.norm_mul_exp_arg_mul_I (heading q)
  rw [quaternionToYaw_orientation hq, div_eq_iff hnorm, mul_comm]
  refine hpolar.symm.trans ?_
  congr 1
  apply Complex.ext <;> simp [Complex.exp_ofReal_mul_I_re, Complex.exp_ofReal_mul_I_im]

/-- The displacement of a translation, in the frame of the robot, as a complex number. -/
noncomputable def localDisplacement (direction : Direction) (distanceM : ℝ) : Option ℂ :=
  (translationLocalDelta direction).map fun delta => ⟨delta.1 * distanceM, delta.2 * distanceM⟩

/-- A translation goes along the heading. -/
private theorem projectTranslation_heading {q : ℍ[ℝ]} (hq : normSq q = 1) (hlevel : heading q ≠ 0)
    {direction : Direction}
    {distanceM : ℝ} {v : ℂ} (hv : localDisplacement direction distanceM = some v) (x y : ℝ) :
    projectTranslation direction distanceM x y (quaternionToYaw (orientation q)) =
      .ok (x + (v * (heading q / ‖heading q‖)).re, y + (v * (heading q / ‖heading q‖)).im) := by
  obtain ⟨delta, hdelta, rfl⟩ := Option.map_eq_some_iff.1 hv
  rw [heading_direction hq hlevel]
  unfold projectTranslation
  rw [hdelta]
  simp only [Complex.mul_re, Complex.mul_im]
  rfl

/-- The yaw of a unit orientation lies in `(-π, π]` and is that of its negative.  Unless the robot stands on end, a turn
about the vertical axis adds to the yaw up to full turns, and the code predicts that a translation goes along the
heading or the line at right angles to it.  The goal of a navigation has the yaw that was asked for, up to full
turns. -/
theorem yaw_of_orientation {q : ℍ[ℝ]} (hq : normSq q = 1) :
    quaternionToYaw (orientation q) ∈ Set.Ioc (-π) π ∧
    quaternionToYaw (orientation (-q)) = quaternionToYaw (orientation q) ∧
    (heading q ≠ 0 →
      (∀ a, quaternionToYaw (orientation (turn (a / 2) * q)) = normalizeAngle (a + quaternionToYaw (orientation q))) ∧
      ∀ direction distanceM v, localDisplacement direction distanceM = some v → ∀ x y,
        projectTranslation direction distanceM x y (quaternionToYaw (orientation q)) =
          .ok (x + (v * (heading q / ‖heading q‖)).re, y + (v * (heading q / ‖heading q‖)).im)) ∧
    ∀ yaw, quaternionToYaw (goalOrientation yaw) = normalizeAngle (yaw.getD 0) := by
  have hneg : normSq (-q) = 1 := by rw [normSq_neg, hq]
  refine ⟨?_, ?_, fun hlevel => ⟨fun a => ?_, fun direction distanceM v hv x y => ?_⟩, quaternionToYaw_goalOrientation⟩
  · rw [quaternionToYaw_orientation hq]
    exact Complex.arg_mem_Ioc _
  · rw [quaternionToYaw_orientation hq, quaternionToYaw_orientation hneg, heading_neg]
  · have hmul : normSq (turn (a / 2) * q) = 1 := by rw [map_mul, normSq_turn, hq, one_mul]
    rw [quaternionToYaw_orientation hq, quaternionToYaw_orientation hmul, arg_heading_turn_mul hlevel,
      normalizeAngle_eq_toIocMod]
  · exact projectTranslation_heading hq hlevel hv x y

/-- A robot on its back that faces ahead, and then is turned around. -/
theorem yaw_of_orientation_onItsBack :
    quaternionToYaw (orientation firstAxis) = 0 ∧ quaternionToYaw (orientation (turn (π / 2) * firstAxis)) = π := by
  have hunit : normSq firstAxis = 1 := by simp [normSq_def']
  have hheading : heading firstAxis = 1 := by
    rw [heading_eq]
    apply Complex.ext <;> simp
  have hahead : quaternionToYaw (orientation firstAxis) = 0 := by
    rw [quaternionToYaw_orientation hunit, hheading, Complex.arg_one]
  have hturned := ((yaw_of_orientation hunit).2.2.1 (by rw [hheading]; exact one_ne_zero)).1 π
  rw [hahead, add_zero, normalizeAngle_of_mem (neg_lt_self pi_pos) le_rfl] at hturned
  exact ⟨hahead, hturned⟩

end RosMcp
