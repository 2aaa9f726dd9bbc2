import RosMcp.Motion.Rotation
import RosMcp.Motion.Turning

/-!
# Rotations converge

With gains that do not overshoot every run of a rotation against the plant ends: the robot turns on the spot and the
short way, by `normalizeAngle` of the requested angle, in no tick away from its target and never beyond it, and it stops
within the tolerance (`rotation_converges`).
-/

namespace RosMcp

open Real

/-- A rotation by `requested`, with gains that do not overshoot. -/
structure RotationMove (p : CmdVelMotionPlugin) (command : SemanticCommand ℝ) (target : MoveTarget ℝ)
    (k : SafetyConstraints ℝ) (requested : ℝ) : Prop where
  isMove : command.target = .move target
  rotation : target.rotationRad = some requested
  constraints : command.safetyConstraints = some k
  gains : TurnGains p k

/-- The exit at the heading target. -/
structure Exit.Turned (p : CmdVelMotionPlugin) (startPose : Pose2D ℝ) (requested : ℝ) (handed : List Handed)
    (e : Exit) : Prop where
  status : e.status = .succeeded
  stopReason : e.stopReason = .targetReached
  pose : ∃ pose, e.finalPose = some pose ∧ (drivenTo p startPose handed).ReadAs pose
  near : turnedBy p startPose requested handed ∈
    Set.Icc (turnAngle requested - p.angleToleranceRad) (turnAngle requested)
  nonneg : 0 ≤ turnedBy p startPose requested handed
  spot : OnSpot p startPose requested handed

/-- What a rotation promises against the plant. -/
noncomputable def rotationLoop (p : CmdVelMotionPlugin) (k : SafetyConstraints ℝ) (startPose : Pose2D ℝ)
    (requested : ℝ) : ClosedLoop where
  Keeps handed l := l.isRotation = true ∧ TurningPhase p k startPose requested handed l
  Reaches handed e := e.Turned p startPose requested handed
  ticks handed _ := turnsLeft p k requested (turnedBy p startPose requested handed)
  ticksAtStart := turnsLeft p k requested 0

section Rotation

variable {p : CmdVelMotionPlugin} {command : SemanticCommand ℝ} {target : MoveTarget ℝ} {k : SafetyConstraints ℝ}
  {requested : ℝ} {startPose : Pose2D ℝ} {l : Locals} {o : Observation}

/-- An iteration of a rotation: it is at the target, or it turns on towards it. -/
private theorem iterate_turning (hg : TurnGains p k) (handed : List Handed) (hrotation : l.isRotation = true)
    (ht : TurningPhase p k startPose requested handed l) (ho : o.OfPlant p (drivenTo p startPose handed) l) :
    (rotationLoop p k startPose requested).Goes handed l (iterate p l o) := by
  have hiteration := ht.iterate hg ho
  generalize iterate p l o = it at hiteration
  cases hiteration with
  | rotated pose hpose hnear _ =>
    have hsame : turnedBy p startPose requested (handed ++ [⟨.zero, some l.phase⟩]) =
        turnedBy p startPose requested handed := by
      unfold turnedBy
      rw [drivenTo_concat_zero]
    refine .reaches _ ⟨rfl, rfl, ⟨pose, rfl, ?_⟩, ?_, ?_, ht.spot.concat rfl (mul_zero _).ge⟩
    · rwa [drivenTo_concat_zero]
    · rw [hsame]
      exact ⟨by linarith, ht.heading.le_turnAngle hg⟩
    · rw [hsame]
      exact ht.heading.nonneg
  | aligned pose hpose hnear hno => exact absurd hrotation hno
  | turned pose angularZ hkeeps hticks => exact .publishes _ _ ⟨hrotation, hkeeps⟩ hticks

/-- The plan of a rotation starts at rest. -/
private theorem planMove_turning (command : SemanticCommand ℝ) (hr : target.rotationRad = some requested)
    (hg : TurnGains p k)
    (startPose : Pose2D ℝ) (now : ℝ) :
    ∃ l, planMove command target k startPose now = .ok l ∧ l.isRotation = true ∧
      TurningPhase p k startPose requested [] l := by
  have hplan : ∃ l, planMove command target k startPose now = .ok l ∧ l.constraints = k ∧ l.prevAngularCmd = 0 := by
    unfold MoveTarget.rotationRad at hr
    unfold planMove
    split at hr
    · next hdirection hangle =>
      rw [hdirection, hangle]
      exact ⟨_, rfl, rfl, rfl⟩
    · next hdirection hangle =>
      rw [hdirection, hangle]
      exact ⟨_, rfl, rfl, rfl⟩
    · cases hr
  obtain ⟨l, hplan, hk, hprev⟩ := hplan
  have hrotates := planMove_rotates hr hplan
  refine ⟨l, hplan, hrotates.isRotation, hrotates.phase, ?_, onSpot_nil⟩
  rw [turnedBy_nil]
  refine ⟨hrotates.headingTarget, hk, le_refl _, 0, by rw [hprev, mul_zero], ?_⟩
  rw [sub_zero]
  exact approaching_rest hg.gains (abs_nonneg _)

private theorem RotationMove.lawful (hc : RotationMove p command target k requested) (startPose : Pose2D ℝ) :
    (rotationLoop p k startPose requested).Lawful p command startPose where
  plans := by
    refine ⟨target, k, hc.isMove, hc.constraints, fun now => ?_⟩
    obtain ⟨l, hplan, hrotation, ht⟩ := planMove_turning command hc.rotation hc.gains startPose now
    refine ⟨l, hplan, ⟨hrotation, ht⟩, ?_⟩
    unfold rotationLoop
    dsimp only
    rw [turnedBy_nil]
  goes handed l o hl ho := iterate_turning hc.gains handed hl.1 hl.2 ho

/-- What the invariant says of the turn so far. -/
private theorem turned_within (hg : TurnGains p k) {m : MoveCall}
    (hm : (rotationLoop p k startPose requested).CallKeeps command m) :
    turnedBy p startPose requested m.twists ∈ Set.Icc 0 (turnAngle requested) ∧
      OnSpot p startPose requested m.twists := by
  refine hm.twists (Q := fun twists => turnedBy p startPose requested twists ∈ Set.Icc 0 (turnAngle requested) ∧
    OnSpot p startPose requested twists) ⟨?_, onSpot_nil⟩ ?_ ?_
  · rw [turnedBy_nil]
    exact ⟨le_refl _, abs_nonneg _⟩
  · rintro twists l ⟨-, ht⟩
    exact ⟨⟨ht.heading.nonneg, ht.heading.le_turnAngle hg⟩, ht.spot⟩
  · intro twists e he
    exact ⟨⟨he.nonneg, he.near.2⟩, he.spot⟩

/-- A rotation against the plant ends after a bounded number of answers, and it returns that it has reached its target.
The robot turns on the spot and the short way, in no tick away from the target and never beyond it, and it stops within
the tolerance. -/
theorem rotation_converges (hc : RotationMove p command target k requested) {odometry : OdometryRead}
    (hpose : currentPose odometry = .ok (some startPose, true)) {replies : List MoveReply} {m : MoveCall}
    (h : StepSystem.run (moveStep p command) .initial replies = some m)
    (hanswers : StepSystem.Along (moveStep p command) (PlantReply p command startPose) .initial replies) :
    replies.length ≤ 3 * turnsLeft p k requested 0 + 4 ∧
      turnedBy p startPose requested m.twists ∈ Set.Icc 0 (turnAngle requested) ∧
      OnSpot p startPose requested m.twists ∧
      (∀ out, m.point = .ended out → ∃ result distance pose, out = .returned result ∧ result.status = .succeeded ∧
        result.fields = .motion distance (some pose) (some .targetReached) ∧
        (drivenTo p startPose m.handed).ReadAs pose ∧
        turnAngle requested - p.angleToleranceRad ≤ turnedBy p startPose requested m.handed) ∧
      ∃ more m', StepSystem.Along (moveStep p command) (PlantReply p command startPose) m more ∧
        StepSystem.run (moveStep p command) m more = some m' ∧ ∃ out, m'.point = .ended out := by
  have hlawful := hc.lawful startPose
  obtain ⟨hwithin, hspot⟩ := turned_within hc.gains (ClosedLoop.callKeeps_run hlawful h hanswers)
  obtain ⟨hlength, hends, hmore⟩ := ClosedLoop.converges hlawful hpose h hanswers
  refine ⟨hlength, hwithin, hspot, ?_, hmore⟩
  intro out hp
  obtain ⟨e, elapsed, rfl, he⟩ := hends out hp
  obtain ⟨pose, hfinal, hread⟩ := he.pose
  refine ⟨_, e.distanceTraveledM, pose, rfl, he.status, ?_, hread, he.near.1⟩
  rw [← hfinal, ← he.stopReason]
  rfl

end Rotation

/-- The gains of the sample do not overshoot. -/
theorem samplePlugin_turnGains : TurnGains samplePlugin (sampleConstraints ℝ) where
  tolerance := by
    have hπ := pi_pos
    norm_num [samplePlugin, radians]
    positivity
  gains := by constructor <;> norm_num [samplePlugin, sampleConstraints, CmdVelMotionPlugin.tickPeriodS]

theorem rotation_converges_sample : ∃ replies m result,
    StepSystem.run (moveStep samplePlugin (rotateCommand 90)) .initial replies = some m ∧
      m.point = .ended (.returned result) ∧ result.status = .succeeded ∧
      turnedBy samplePlugin (yawPose 0) (1 * radians 90) m.handed ∈
        Set.Icc (turnAngle (1 * radians 90) - samplePlugin.angleToleranceRad) (turnAngle (1 * radians 90)) := by
  have hc : RotationMove samplePlugin (rotateCommand 90) ⟨.rotateLeft, none, some 90⟩ (sampleConstraints ℝ)
      (1 * radians 90) := ⟨rfl, rfl, rfl, samplePlugin_turnGains⟩
  have hpose := currentPose_yawOdometry zero_mem_turn
  obtain ⟨-, -, -, -, replies, m, hanswers, hrun, out, hp⟩ := rotation_converges hc hpose (m := .initial) rfl .nil
  obtain ⟨-, hwithin, -, hended, -⟩ := rotation_converges hc hpose hrun hanswers
  obtain ⟨result, distance, pose, rfl, hstatus, -, -, hnear⟩ := hended out hp
  have htwists : m.twists = m.handed := by
    unfold MoveCall.twists
    rw [hp]
    exact List.append_nil _
  rw [htwists] at hwithin
  exact ⟨replies, m, result, hrun, hp, hstatus, hnear, hwithin.2⟩

end RosMcp
