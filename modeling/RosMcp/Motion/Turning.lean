import RosMcp.Lib.Approach
import RosMcp.Motion.ClosedLoop

/-!
# Turning towards a heading

Both phases of `move` request an angular velocity in proportion to the heading error, cut to the limit and slew-limited.
With gains that do not overshoot (`ApproachGains`, which the default gains and limits meet) the robot approaches the
heading target from one side: `Locals.Heading` says so of the turn so far, and every published velocity keeps it
(`Locals.Heading.step`).  The turning phase of a rotation and of a move to the side is the same: the robot turns on the
spot until it is within the tolerance (`TurningPhase.iterate`).
-/

namespace RosMcp

open Real

/-- A positive tolerance, and gains that do not overshoot. -/
structure TurnGains (p : CmdVelMotionPlugin) (k : SafetyConstraints ℝ) : Prop where
  tolerance : 0 < p.angleToleranceRad
  gains : ApproachGains p.kpAngular k.maxAngularRps k.maxAngularAccelerationRps2 p.tickPeriodS

/-- The side on which the heading target is, the short way round. -/
noncomputable def turnSide (requested : ℝ) : ℝ := if 0 ≤ normalizeAngle requested then 1 else -1

/-- The angle to the heading target, the short way round. -/
noncomputable def turnAngle (requested : ℝ) : ℝ := |normalizeAngle requested|

/-- A speed that every tick outside the tolerance turns with at least. -/
noncomputable def leastTurn (p : CmdVelMotionPlugin) (k : SafetyConstraints ℝ) : ℝ :=
  leastApproach p.kpAngular k.maxAngularRps k.maxAngularAccelerationRps2 p.tickPeriodS p.angleToleranceRad

/-- How many ticks go on turning, at most, after a turn by `y` towards the heading target. -/
noncomputable def turnsLeft (p : CmdVelMotionPlugin) (k : SafetyConstraints ℝ) (requested y : ℝ) : ℕ :=
  ⌈(turnAngle requested - p.angleToleranceRad - y) / (leastTurn p k * p.tickPeriodS)⌉₊

/-- The locals after a turn by `y` towards the heading target. -/
structure Locals.Heading (k : SafetyConstraints ℝ) (startYaw requested y : ℝ) (l : Locals) : Prop where
  headingTarget : l.headingTarget = normalizeAngle (startYaw + requested)
  constraints : l.constraints = k
  nonneg : 0 ≤ y
  prevAngular : ∃ u, l.prevAngularCmd = turnSide requested * u ∧
    Approaching k.maxAngularRps k.maxAngularAccelerationRps2 (turnAngle requested - y) u

section Sides

theorem turnSide_eq (requested : ℝ) : turnSide requested = 1 ∨ turnSide requested = -1 := by
  unfold turnSide
  split
  · exact Or.inl rfl
  · exact Or.inr rfl

theorem turnSide_mul_self (requested : ℝ) : turnSide requested * turnSide requested = 1 := by
  rcases turnSide_eq requested with h | h <;> rw [h] <;> norm_num

/-- A turn from the side of the target, seen from the start. -/
theorem turnSide_mul_cancel (requested x : ℝ) : turnSide requested * (turnSide requested * x) = x := by
  rw [← mul_assoc, turnSide_mul_self, one_mul]

theorem turnSide_mul_turnAngle (requested : ℝ) :
    turnSide requested * turnAngle requested = normalizeAngle requested := by
  unfold turnSide turnAngle
  split
  · next h => rw [abs_of_nonneg h, one_mul]
  · next h => rw [abs_of_neg (not_le.1 h), neg_one_mul, neg_neg]

/-- What is left of the way is no angle to wrap. -/
private theorem turnSide_mul_mem {requested y : ℝ} (hy : 0 ≤ y) (hle : y ≤ turnAngle requested) :
    turnSide requested * (turnAngle requested - y) ∈ Set.Ioc (-π) π := by
  obtain ⟨hlow, hhigh⟩ := normalizeAngle_mem requested
  have hπ := pi_pos
  unfold turnSide turnAngle at *
  split
  · next h =>
    rw [abs_of_nonneg h] at hle ⊢
    constructor <;> linarith
  · next h =>
    rw [abs_of_neg (not_le.1 h)] at hle ⊢
    constructor <;> linarith

end Sides

section Turning

variable {p : CmdVelMotionPlugin} {k : SafetyConstraints ℝ} {startYaw requested y : ℝ} {l : Locals}

private theorem TurnGains.leastTurn_pos (hg : TurnGains p k) : 0 < leastTurn p k * p.tickPeriodS :=
  mul_pos (hg.gains.leastApproach_pos hg.tolerance) hg.gains.period

namespace Locals.Heading

/-- The heading target is not passed. -/
theorem le_turnAngle (hl : l.Heading k startYaw requested y) (hg : TurnGains p k) : y ≤ turnAngle requested := by
  obtain ⟨u, -, happroach⟩ := hl.prevAngular
  exact sub_nonneg.1 (happroach.distance_nonneg hg.gains)

/-- The heading error after a turn by `y` towards the target. -/
private theorem headingError (hl : l.Heading k startYaw requested y) (hg : TurnGains p k) {pose : Pose2D ℝ}
    (hpose : pose.yaw ≡ startYaw + turnSide requested * y [PMOD 2 * π]) :
    l.headingError pose = turnSide requested * (turnAngle requested - y) := by
  unfold Locals.headingError angularDifference
  rw [hl.headingTarget, normalizeAngle_eq_iff]
  refine ⟨turnSide_mul_mem hl.nonneg (hl.le_turnAngle hg), ?_⟩
  have hheading : startYaw + normalizeAngle requested ≡ normalizeAngle (startYaw + requested) [PMOD 2 * π] :=
    ((normalizeAngle_modEq requested).add_left _).trans (normalizeAngle_modEq _).symm
  have hdifference := hheading.sub hpose.symm
  rwa [add_sub_add_left_eq_sub, ← turnSide_mul_turnAngle, ← mul_sub] at hdifference

private theorem abs_headingError (hl : l.Heading k startYaw requested y) (hg : TurnGains p k) {pose : Pose2D ℝ}
    (hpose : pose.yaw ≡ startYaw + turnSide requested * y [PMOD 2 * π]) :
    |l.headingError pose| = turnAngle requested - y := by
  rw [hl.headingError hg hpose, abs_mul, abs_of_nonneg (sub_nonneg.2 (hl.le_turnAngle hg))]
  rcases turnSide_eq requested with hs | hs <;> rw [hs] <;> norm_num

/-- A tick turns towards the heading target, and not beyond it. -/
theorem step (hl : l.Heading k startYaw requested y) (hg : TurnGains p k) {pose : Pose2D ℝ}
    (hpose : pose.yaw ≡ startYaw + turnSide requested * y [PMOD 2 * π]) :
    ∃ v, 0 ≤ v ∧ angularCommand p l (l.headingError pose) = turnSide requested * v ∧
      (p.angleToleranceRad ≤ turnAngle requested - y → leastTurn p k ≤ v) ∧
      ∀ l' : Locals, l'.headingTarget = l.headingTarget → l'.constraints = l.constraints →
        l'.prevAngularCmd = turnSide requested * v → l'.Heading k startYaw requested (y + v * p.tickPeriodS) := by
  obtain ⟨u, hu, happroach⟩ := hl.prevAngular
  have hnext := happroach.step hg.gains
  refine ⟨_, hnext.nonneg, ?_, happroach.leastApproach_le hg.gains, ?_⟩
  · rw [hl.headingError hg hpose]
    unfold angularCommand
    rw [hl.constraints, hu]
    rcases turnSide_eq requested with hs | hs
    · rw [hs, one_mul, one_mul, one_mul]
      rfl
    · rw [hs, neg_one_mul, neg_one_mul, neg_one_mul]
      exact approachSpeed_neg hg.gains u _
  · intro l' htarget hconstraints hprev
    refine ⟨htarget.trans hl.headingTarget, hconstraints.trans hl.constraints,
      add_nonneg hl.nonneg (mul_nonneg hnext.nonneg hg.gains.period.le), _, hprev, ?_⟩
    rwa [← sub_sub]

end Locals.Heading

/-- A tick outside the tolerance leaves fewer of them. -/
private theorem turnsLeft_lt (hg : TurnGains p k) {v : ℝ} (hv : leastTurn p k ≤ v)
    (hfar : p.angleToleranceRad < turnAngle requested - y) :
    turnsLeft p k requested (y + v * p.tickPeriodS) < turnsLeft p k requested y := by
  have hstep : leastTurn p k * p.tickPeriodS ≤ v * p.tickPeriodS :=
    mul_le_mul_of_nonneg_right hv hg.gains.period.le
  unfold turnsLeft
  rw [← sub_sub]
  exact ceil_div_lt hg.leastTurn_pos hstep (by linarith)

end Turning

/-! ### The turning phase -/

/-- How far the robot has turned to the side of the heading target. -/
noncomputable def turnedBy (p : CmdVelMotionPlugin) (startPose : Pose2D ℝ) (requested : ℝ) (handed : List Handed) : ℝ :=
  turnSide requested * ((drivenTo p startPose handed).yaw - startPose.yaw)

/-- The robot has turned on the spot, and in no tick away from the heading target. -/
structure OnSpot (p : CmdVelMotionPlugin) (startPose : Pose2D ℝ) (requested : ℝ) (handed : List Handed) : Prop where
  x : (drivenTo p startPose handed).x = startPose.x
  y : (drivenTo p startPose handed).y = startPose.y
  towards : ∀ h ∈ handed, h.twist.linearX = 0 ∧ 0 ≤ turnSide requested * h.twist.angularZ

structure TurningPhase (p : CmdVelMotionPlugin) (k : SafetyConstraints ℝ) (startPose : Pose2D ℝ) (requested : ℝ)
    (handed : List Handed) (l : Locals) : Prop where
  phase : l.phase = .turning
  heading : l.Heading k startPose.yaw requested (turnedBy p startPose requested handed)
  spot : OnSpot p startPose requested handed

/-- An iteration of the turning phase. -/
inductive TurnIteration (p : CmdVelMotionPlugin) (k : SafetyConstraints ℝ) (startPose : Pose2D ℝ) (requested : ℝ)
    (handed : List Handed) (l : Locals) : Iteration → Prop
  | rotated (pose : Pose2D ℝ) (hpose : (drivenTo p startPose handed).ReadAs pose)
      (hnear : turnAngle requested - turnedBy p startPose requested handed ≤ p.angleToleranceRad)
      (hrotation : l.isRotation = true) :
      TurnIteration p k startPose requested handed l (.exit (.reached (l.seen pose)))
  | aligned (pose : Pose2D ℝ) (hpose : (drivenTo p startPose handed).ReadAs pose)
      (hnear : turnAngle requested - turnedBy p startPose requested handed ≤ p.angleToleranceRad)
      (hrotation : ¬ l.isRotation = true) :
      TurnIteration p k startPose requested handed l
        (.sleep { l.seen pose with phase := .driving, phaseStartPose := pose, prevAngularCmd := 0 })
  | turned (pose : Pose2D ℝ) (angularZ : ℝ)
      (hkeeps : TurningPhase p k startPose requested (handed ++ [⟨⟨0, angularZ⟩, some l.phase⟩])
        { l.seen pose with prevLinearCmd := 0, prevAngularCmd := angularZ })
      (hticks : turnsLeft p k requested
          (turnedBy p startPose requested (handed ++ [⟨⟨0, angularZ⟩, some l.phase⟩])) <
        turnsLeft p k requested (turnedBy p startPose requested handed)) :
      TurnIteration p k startPose requested handed l
        (.publish ⟨0, angularZ⟩ { l.seen pose with prevLinearCmd := 0, prevAngularCmd := angularZ })

section TurningPhases

variable {p : CmdVelMotionPlugin} {k : SafetyConstraints ℝ} {startPose : Pose2D ℝ} {requested : ℝ}
  {handed : List Handed} {l : Locals} {o : Observation}

/-- The actual heading after the turn so far. -/
theorem drivenTo_yaw (p : CmdVelMotionPlugin) (startPose : Pose2D ℝ) (requested : ℝ) (handed : List Handed) :
    (drivenTo p startPose handed).yaw = startPose.yaw + turnSide requested * turnedBy p startPose requested handed := by
  unfold turnedBy
  rw [turnSide_mul_cancel]
  ring

theorem turnedBy_concat (h : Handed) : turnedBy p startPose requested (handed ++ [h]) =
    turnedBy p startPose requested handed + turnSide requested * h.twist.angularZ * p.tickPeriodS := by
  unfold turnedBy
  rw [drivenTo_concat]
  simp only [Pose2D.after]
  ring

theorem turnedBy_nil : turnedBy p startPose requested [] = 0 := by
  simp [turnedBy, drivenTo]

theorem onSpot_nil : OnSpot p startPose requested [] := ⟨rfl, rfl, fun _ h => by cases h⟩

theorem OnSpot.concat (hs : OnSpot p startPose requested handed) {h : Handed} (hlinear : h.twist.linearX = 0)
    (hangular : 0 ≤ turnSide requested * h.twist.angularZ) : OnSpot p startPose requested (handed ++ [h]) := by
  refine ⟨?_, ?_, ?_⟩
  · rw [drivenTo_concat]
    simp [Pose2D.after, hlinear, hs.x]
  · rw [drivenTo_concat]
    simp [Pose2D.after, hlinear, hs.y]
  · intro h' hmem
    rcases List.mem_append.1 hmem with hold | hnew
    · exact hs.towards h' hold
    · obtain rfl := List.mem_singleton.1 hnew
      exact ⟨hlinear, hangular⟩

/-- An iteration reads the pose of the plant. -/
theorem Observation.OfPlant.iterate_eq {actual : Pose2D ℝ} (ho : o.OfPlant p actual l) :
    ∃ pose, actual.ReadAs pose ∧ Steered p l pose o.scan (iterate p l o) := by
  obtain ⟨pose, hpose, hactual⟩ := ho.pose
  refine ⟨pose, hactual, ?_⟩
  unfold iterate
  rw [if_neg ho.goesOn.running, if_neg ho.goesOn.inTime, hpose]
  exact iterateFresh_steered p l pose o.scan

theorem TurningPhase.iterate (ht : TurningPhase p k startPose requested handed l) (hg : TurnGains p k)
    (ho : o.OfPlant p (drivenTo p startPose handed) l) :
    TurnIteration p k startPose requested handed l (iterate p l o) := by
  obtain ⟨pose, hpose, hsteered⟩ := ho.iterate_eq
  have hyaw := hpose.yaw
  rw [drivenTo_yaw p startPose requested handed] at hyaw
  have habs := ht.heading.abs_headingError hg hyaw
  generalize RosMcp.iterate p l o = it at hsteered
  cases hsteered with
  | unscanned exc hphase | obstacle range hphase | arrived hphase | driven hphase => cases ht.phase.symm.trans hphase
  | rotated hphase hnear hrotation =>
    rw [habs] at hnear
    exact .rotated pose hpose hnear hrotation
  | aligned hphase hnear hrotation =>
    rw [habs] at hnear
    exact .aligned pose hpose hnear hrotation
  | turned hphase hfar =>
    rw [habs] at hfar
    obtain ⟨v, hv, hcommand, hleast, hnext⟩ := ht.heading.step hg hyaw
    have hway : turnedBy p startPose requested (handed ++ [⟨⟨0, turnSide requested * v⟩, some l.phase⟩]) =
        turnedBy p startPose requested handed + v * p.tickPeriodS := by
      rw [turnedBy_concat, turnSide_mul_cancel]
    rw [hcommand]
    refine .turned pose _ ⟨ht.phase, ?_, ht.spot.concat rfl ?_⟩ ?_
    · rw [hway]
      exact hnext _ rfl rfl rfl
    · rwa [turnSide_mul_cancel]
    · rw [hway]
      exact turnsLeft_lt hg (hleast (not_le.1 hfar).le) (not_le.1 hfar)

end TurningPhases

end RosMcp
