import RosMcp.Lib.Cone
import RosMcp.Motion.Convergence
import RosMcp.Motion.Endpoint
import RosMcp.Motion.RotationConvergence

/-!
# Moves to the side converge

A move to the left or to the right turns by a quarter and then drives, and while it drives it goes on correcting its
heading.  The correction never passes the heading target (`Locals.Heading.step`), so every tick drives in a direction
within the angle tolerance of it, and the way lies in a cone around it (`InCone`).  So every run against the plant ends,
at the requested distance from the start, and its distance from the endpoint that the policy engine predicts is bounded
by the law of cosines (`sideways_move_converges`).
-/

namespace RosMcp

open Real

/-! ### The move -/

/-- By how much a move to the side turns before it drives. -/
noncomputable def sideOffset (direction : Direction) : ℝ := if direction = .left then quarterTurn else -quarterTurn

/-- A move to the side by `d`, with positive linear gains and angular gains that do not overshoot. -/
structure SidewaysMove (p : CmdVelMotionPlugin) (command : SemanticCommand ℝ) (target : MoveTarget ℝ)
    (k : SafetyConstraints ℝ) (d : ℝ) : Prop where
  isMove : command.target = .move target
  direction : target.direction = .left ∨ target.direction = .right
  distance : target.distanceM = some d
  constraints : command.safetyConstraints = some k
  gains : TurnGains p k
  narrow : p.angleToleranceRad < quarterTurn
  gain : 0 < p.kpLinear
  tolerance : 0 < p.positionToleranceM
  speed : 0 < k.maxLinearMps
  acceleration : 0 < k.maxLinearAccelerationMps2

/-- How far a pose is from the start along the heading target. -/
noncomputable def alongTarget (startPose : Pose2D ℝ) (offset : ℝ) (pose : Pose2D ℝ) : ℝ :=
  (pose.x - startPose.x) * cos (startPose.yaw + offset) + (pose.y - startPose.y) * sin (startPose.yaw + offset)

/-- How far a pose is beside the way along the heading target, on the side of the start heading. -/
noncomputable def besideTarget (startPose : Pose2D ℝ) (offset : ℝ) (pose : Pose2D ℝ) : ℝ :=
  turnSide offset *
    ((pose.x - startPose.x) * sin (startPose.yaw + offset) - (pose.y - startPose.y) * cos (startPose.yaw + offset))

/-- The distance from the start. -/
noncomputable def wayFrom (startPose pose : Pose2D ℝ) : ℝ := euclideanDistance startPose.x startPose.y pose.x pose.y

/-- How many ticks go on driving, at most, after the way `a` along the heading target. -/
noncomputable def drivesLeft (p : CmdVelMotionPlugin) (k : SafetyConstraints ℝ) (d a : ℝ) : ℕ :=
  ⌈(d - p.positionToleranceM - a) / (leastSpeed p k * p.tickPeriodS * cos p.angleToleranceRad)⌉₊

/-- The driving phase of a move to the side. -/
structure DrivingAside (p : CmdVelMotionPlugin) (k : SafetyConstraints ℝ) (startPose : Pose2D ℝ) (offset d : ℝ)
    (handed : List Handed) (l : Locals) : Prop where
  phase : l.phase = .driving
  driveSign : l.driveSign = 1
  distanceTarget : l.distanceTargetM = d
  phaseStartX : l.phaseStartPose.x = startPose.x
  phaseStartY : l.phaseStartPose.y = startPose.y
  prevLinear : l.prevLinearCmd ∈ Set.Icc 0 k.maxLinearMps
  heading : l.Heading k startPose.yaw offset (turnedBy p startPose offset handed)
  near : turnAngle offset - turnedBy p startPose offset handed ≤ p.angleToleranceRad
  cone : InCone p.angleToleranceRad (alongTarget startPose offset (drivenTo p startPose handed))
    (besideTarget startPose offset (drivenTo p startPose handed))
  onWay : OnWay p k d (wayFrom startPose (drivenTo p startPose handed))

/-- The turning phase of a move to the side. -/
structure TurningAside (p : CmdVelMotionPlugin) (k : SafetyConstraints ℝ) (startPose : Pose2D ℝ) (offset d : ℝ)
    (handed : List Handed) (l : Locals) : Prop where
  turning : TurningPhase p k startPose offset handed l
  isRotation : l.isRotation = false
  driveSign : l.driveSign = 1
  distanceTarget : l.distanceTargetM = d
  prevLinear : l.prevLinearCmd = 0

/-- The exit of a move to the side. -/
structure Exit.Aside (p : CmdVelMotionPlugin) (k : SafetyConstraints ℝ) (startPose : Pose2D ℝ) (offset d : ℝ)
    (handed : List Handed) (e : Exit) : Prop where
  status : e.status = .succeeded
  stopReason : e.stopReason = .targetReached
  pose : ∃ pose, e.finalPose = some pose ∧ (drivenTo p startPose handed).ReadAs pose
  cone : InCone p.angleToleranceRad (alongTarget startPose offset (drivenTo p startPose handed))
    (besideTarget startPose offset (drivenTo p startPose handed))
  arrived : ArrivedAt p k d (wayFrom startPose (drivenTo p startPose handed))

/-- What a move to the side promises against the plant. -/
noncomputable def sidewaysLoop (p : CmdVelMotionPlugin) (k : SafetyConstraints ℝ) (startPose : Pose2D ℝ)
    (offset d : ℝ) : ClosedLoop where
  Keeps handed l := TurningAside p k startPose offset d handed l ∨ DrivingAside p k startPose offset d handed l
  Reaches handed e := e.Aside p k startPose offset d handed
  ticks handed l :=
    match l.phase with
    | .turning => turnsLeft p k offset (turnedBy p startPose offset handed) + drivesLeft p k d 0 + 1
    | .driving => drivesLeft p k d (alongTarget startPose offset (drivenTo p startPose handed))
  ticksAtStart := turnsLeft p k offset 0 + drivesLeft p k d 0 + 1

section Sideways

variable {p : CmdVelMotionPlugin} {command : SemanticCommand ℝ} {target : MoveTarget ℝ} {k : SafetyConstraints ℝ}
  {offset d : ℝ} {startPose : Pose2D ℝ} {handed : List Handed} {l : Locals} {o : Observation}

/-! ### The frame of the heading target -/

/-- The parts of a way along and beside the heading target have its length. -/
theorem wayFrom_eq (startPose : Pose2D ℝ) (offset : ℝ) (pose : Pose2D ℝ) :
    wayFrom startPose pose = √(alongTarget startPose offset pose ^ 2 + besideTarget startPose offset pose ^ 2) := by
  have hone := sin_sq_add_cos_sq (startPose.yaw + offset)
  have hside := turnSide_mul_self offset
  unfold wayFrom euclideanDistance
  rw [PyMath.hypot_real]
  congr 1
  unfold alongTarget besideTarget
  rw [mul_pow, sq (turnSide offset), hside]
  linear_combination (-(pose.x - startPose.x) ^ 2 - (pose.y - startPose.y) ^ 2) * hone

/-- The direction of a tick, in the frame of the heading target. -/
private theorem tick_direction (p : CmdVelMotionPlugin) (startPose : Pose2D ℝ)
    (hoffset : normalizeAngle offset = offset)
    (handed : List Handed) :
    cos (drivenTo p startPose handed).yaw * cos (startPose.yaw + offset) +
        sin (drivenTo p startPose handed).yaw * sin (startPose.yaw + offset) =
      cos (turnAngle offset - turnedBy p startPose offset handed) ∧
    turnSide offset * (cos (drivenTo p startPose handed).yaw * sin (startPose.yaw + offset) -
        sin (drivenTo p startPose handed).yaw * cos (startPose.yaw + offset)) =
      sin (turnAngle offset - turnedBy p startPose offset handed) := by
  have hangle : startPose.yaw + offset - (drivenTo p startPose handed).yaw =
      turnSide offset * (turnAngle offset - turnedBy p startPose offset handed) := by
    rw [drivenTo_yaw p startPose offset handed, mul_sub, turnSide_mul_turnAngle, hoffset]
    ring
  constructor
  · rw [← cos_sub, ← cos_neg, neg_sub, hangle]
    rcases turnSide_eq offset with hs | hs
    · rw [hs, one_mul]
    · rw [hs, neg_one_mul, cos_neg]
  · rw [show cos (drivenTo p startPose handed).yaw * sin (startPose.yaw + offset) -
        sin (drivenTo p startPose handed).yaw * cos (startPose.yaw + offset) =
      sin (startPose.yaw + offset - (drivenTo p startPose handed).yaw) by rw [sin_sub]; ring, hangle]
    rcases turnSide_eq offset with hs | hs
    · rw [hs, one_mul, one_mul]
    · rw [hs, neg_one_mul, neg_one_mul, sin_neg, neg_neg]

/-- A tick takes the robot along and beside the heading target. -/
private theorem way_concat (p : CmdVelMotionPlugin) (startPose : Pose2D ℝ) (hoffset : normalizeAngle offset = offset)
    (handed : List Handed) (h : Handed) :
    alongTarget startPose offset (drivenTo p startPose (handed ++ [h])) =
      alongTarget startPose offset (drivenTo p startPose handed) +
        h.twist.linearX * p.tickPeriodS * cos (turnAngle offset - turnedBy p startPose offset handed) ∧
    besideTarget startPose offset (drivenTo p startPose (handed ++ [h])) =
      besideTarget startPose offset (drivenTo p startPose handed) +
        h.twist.linearX * p.tickPeriodS * sin (turnAngle offset - turnedBy p startPose offset handed) := by
  obtain ⟨hcos, hsin⟩ := tick_direction p startPose hoffset handed
  rw [← hcos, ← hsin, drivenTo_concat]
  unfold alongTarget besideTarget Pose2D.after
  constructor <;> ring

/-- At the start of the driving phase the robot is where it was. -/
private theorem way_onSpot (hs : OnSpot p startPose offset handed) :
    alongTarget startPose offset (drivenTo p startPose handed) = 0 ∧
      besideTarget startPose offset (drivenTo p startPose handed) = 0 ∧
      wayFrom startPose (drivenTo p startPose handed) = 0 := by
  refine ⟨?_, ?_, ?_⟩
  · simp [alongTarget, hs.x, hs.y]
  · simp [besideTarget, hs.x, hs.y]
  · unfold wayFrom euclideanDistance
    rw [hs.x, hs.y, sub_self, sub_self, PyMath.hypot_real]
    simp

/-! ### The iterations -/

private theorem SidewaysMove.tick_pos
    (hc : SidewaysMove p command target k d) : 0 < p.tickPeriodS := hc.gains.gains.period

private theorem SidewaysMove.leastSpeed_pos (hc : SidewaysMove p command target k d) : 0 < leastSpeed p k :=
  lt_min (lt_min (mul_pos hc.gain hc.tolerance) hc.speed) (mul_pos hc.acceleration hc.tick_pos)

private theorem SidewaysMove.cos_pos (hc : SidewaysMove p command target k d) : 0 < cos p.angleToleranceRad :=
  cos_pos_of_mem_Ioo ⟨by linarith [hc.gains.tolerance, pi_pos], hc.narrow⟩

/-- The speed of a tick that is not at the target. -/
private theorem linearCommand_aside (hc : SidewaysMove p command target k d)
    (hl : DrivingAside p k startPose offset d handed l) {remaining : ℝ} (hfar : p.positionToleranceM < remaining) :
    linearCommand p l remaining ∈ Set.Icc (leastSpeed p k) k.maxLinearMps := by
  have hrequest : clamp (p.kpLinear * remaining) 0 k.maxLinearMps ∈ Set.Icc 0 k.maxLinearMps := clamp_mem _ hc.speed.le
  unfold linearCommand
  rw [hl.driveSign, one_mul, hl.heading.constraints]
  constructor
  · refine le_clampDelta hl.prevLinear.1 ?_ (min_le_right _ _) (mul_pos hc.acceleration hc.tick_pos)
    unfold clamp
    refine le_max_of_le_right ((min_le_left _ _).trans (le_min (min_le_right _ _) ((min_le_left _ _).trans ?_)))
    exact mul_le_mul_of_nonneg_left hfar.le hc.gain.le
  · exact (clampDelta_mem _ hl.prevLinear hrequest).2

/-- A tick that drives leaves fewer of them. -/
private theorem drivesLeft_lt (hc : SidewaysMove p command target k d) {a u ψ : ℝ} (hu : leastSpeed p k ≤ u)
    (hψ : 0 ≤ ψ)
    (hnear : ψ ≤ p.angleToleranceRad) (hfar : a < d - p.positionToleranceM) :
    drivesLeft p k d (a + u * p.tickPeriodS * cos ψ) < drivesLeft p k d a := by
  have hpos := mul_pos (mul_pos hc.leastSpeed_pos hc.tick_pos) hc.cos_pos
  have hcos : cos p.angleToleranceRad ≤ cos ψ :=
    cos_le_cos_of_nonneg_of_le_pi hψ (by linarith [hc.narrow, show quarterTurn = π / 2 from rfl, pi_pos]) hnear
  have hstep : leastSpeed p k * p.tickPeriodS * cos p.angleToleranceRad ≤ u * p.tickPeriodS * cos ψ :=
    mul_le_mul (mul_le_mul_of_nonneg_right hu hc.tick_pos.le) hcos hc.cos_pos.le
      (mul_nonneg (hc.leastSpeed_pos.le.trans hu) hc.tick_pos.le)
  unfold drivesLeft
  rw [← sub_sub]
  exact ceil_div_lt hpos hstep (by linarith)

/-- An iteration of the turning phase of a move to the side. -/
private theorem TurningAside.iterate (ht : TurningAside p k startPose offset d handed l)
    (hc : SidewaysMove p command target k d) (ho : o.OfPlant p (drivenTo p startPose handed) l) :
    (sidewaysLoop p k startPose offset d).Goes handed l (iterate p l o) := by
  have hiteration := ht.turning.iterate hc.gains ho
  have hphase := ht.turning.phase
  have hheading := ht.turning.heading
  generalize RosMcp.iterate p l o = it at hiteration
  cases hiteration with
  | rotated pose hpose hnear hrotation => cases ht.isRotation.symm.trans hrotation
  | aligned pose hpose hnear _ =>
    obtain ⟨halong, hbeside, hway⟩ := way_onSpot ht.turning.spot
    refine .sleeps _ (.inr ⟨rfl, ht.driveSign, ht.distanceTarget, ?_, ?_, ?_, ?_, hnear, ?_, ?_⟩) ?_
    · exact hpose.x.trans ht.turning.spot.x
    · exact hpose.y.trans ht.turning.spot.y
    · exact ht.prevLinear.symm ▸ ⟨le_refl _, hc.speed.le⟩
    · refine ⟨hheading.headingTarget, hheading.constraints, hheading.nonneg, 0, (mul_zero _).symm, ?_⟩
      exact approaching_rest hc.gains.gains (sub_nonneg.2 (hheading.le_turnAngle hc.gains))
    · rw [halong, hbeside]
      exact inCone_zero _
    · rw [hway]
      exact ⟨le_refl _, .inl rfl⟩
    · unfold sidewaysLoop
      dsimp only
      rw [hphase, halong]
      dsimp only
      omega
  | turned pose angularZ hkeeps hticks =>
    refine .publishes _ _ (.inl ⟨hkeeps, ht.isRotation, ht.driveSign, ht.distanceTarget, rfl⟩) ?_
    unfold sidewaysLoop
    dsimp only [Locals.seen]
    rw [hphase] at hticks ⊢
    dsimp only
    omega

/-- Where the tick before was not at the target, this one is not far beyond it. -/
private theorem OnWay.arrivedAt (hc : SidewaysMove p command target k d) {y : ℝ} (hy : OnWay p k d y)
    (hnear : d - y ≤ p.positionToleranceM) : ArrivedAt p k d y where
  near := by
    intro hd
    rcases hy.beyond with hzero | ⟨hfar, -⟩
    · exact hzero
    · exact absurd hfar (not_lt.2 hd)
  far := by
    intro hd
    refine ⟨by linarith, ?_⟩
    rcases hy.beyond with hzero | ⟨-, hle⟩
    · have htick := mul_pos hc.speed hc.tick_pos
      rw [hzero] at hnear ⊢
      linarith
    · exact hle

/-- The way of a tick that is not at the target: it stays in the cone, and fewer ticks are left. -/
private theorem DrivingAside.drives (hd : DrivingAside p k startPose offset d handed l)
    (hc : SidewaysMove p command target k d) (hoffset : normalizeAngle offset = offset) {h : Handed}
    (hu : h.twist.linearX ∈ Set.Icc (leastSpeed p k) k.maxLinearMps)
    (hfar : p.positionToleranceM < d - wayFrom startPose (drivenTo p startPose handed)) :
    InCone p.angleToleranceRad (alongTarget startPose offset (drivenTo p startPose (handed ++ [h])))
        (besideTarget startPose offset (drivenTo p startPose (handed ++ [h]))) ∧
      OnWay p k d (wayFrom startPose (drivenTo p startPose (handed ++ [h]))) ∧
      drivesLeft p k d (alongTarget startPose offset (drivenTo p startPose (handed ++ [h]))) <
        drivesLeft p k d (alongTarget startPose offset (drivenTo p startPose handed)) := by
  have htick := hc.tick_pos
  have hway : 0 ≤ h.twist.linearX * p.tickPeriodS := mul_nonneg (hc.leastSpeed_pos.le.trans hu.1) htick.le
  have hψ : 0 ≤ turnAngle offset - turnedBy p startPose offset handed :=
    sub_nonneg.2 (hd.heading.le_turnAngle hc.gains)
  have hlength := wayFrom_eq startPose offset (drivenTo p startPose handed)
  have hnext := wayFrom_eq startPose offset (drivenTo p startPose (handed ++ [h]))
  obtain ⟨halong, hbeside⟩ := way_concat p startPose hoffset handed h
  rw [halong, hbeside] at hnext
  rw [halong, hbeside]
  refine ⟨hd.cone.add_step hway hψ hd.near hc.narrow, ?_, ?_⟩
  · have hbound := sqrt_add_step_le (alongTarget startPose offset (drivenTo p startPose handed))
      (besideTarget startPose offset (drivenTo p startPose handed))
      (turnAngle offset - turnedBy p startPose offset handed) hway
    rw [← hnext, ← hlength] at hbound
    have hlimit : h.twist.linearX * p.tickPeriodS ≤ k.maxLinearMps * p.tickPeriodS :=
      mul_le_mul_of_nonneg_right hu.2 htick.le
    refine ⟨?_, .inr ⟨by linarith [hd.onWay.nonneg], by linarith⟩⟩
    rw [hnext]
    exact sqrt_nonneg _
  · have hshort : alongTarget startPose offset (drivenTo p startPose handed) ≤
        wayFrom startPose (drivenTo p startPose handed) := by
      rw [hlength]
      exact le_sqrt_of_sq_le (le_add_of_nonneg_right (sq_nonneg _))
    have hbefore : alongTarget startPose offset (drivenTo p startPose handed) < d - p.positionToleranceM := by linarith
    exact drivesLeft_lt hc hu.1 hψ hd.near hbefore

/-- An iteration of the driving phase: it is at the requested distance, or it drives on. -/
private theorem DrivingAside.iterate (hd : DrivingAside p k startPose offset d handed l)
    (hc : SidewaysMove p command target k d) (hoffset : normalizeAngle offset = offset)
    (ho : o.OfPlant p (drivenTo p startPose handed) l) :
    (sidewaysLoop p k startPose offset d).Goes handed l (iterate p l o) := by
  obtain ⟨pose, hpose, hsteered⟩ := ho.iterate_eq
  have hclear := ho.clear
  have hyaw := hpose.yaw
  rw [drivenTo_yaw p startPose offset handed] at hyaw
  have hremaining : l.remaining pose = d - wayFrom startPose (drivenTo p startPose handed) := by
    unfold Locals.remaining
    rw [hd.distanceTarget, hd.phaseStartX, hd.phaseStartY, hpose.x, hpose.y]
    rfl
  generalize RosMcp.iterate p l o = it at hsteered
  cases hsteered with
  | rotated hphase | aligned hphase | turned hphase => cases hphase.symm.trans hd.phase
  | unscanned exc hphase hscan => cases hclear.symm.trans hscan
  | obstacle range hphase hscan => cases hclear.symm.trans hscan
  | arrived hphase hscan hnear =>
    rw [hremaining] at hnear
    refine .reaches _ ⟨rfl, rfl, ⟨pose, rfl, ?_⟩, ?_, ?_⟩
    · rwa [drivenTo_concat_zero]
    · rw [drivenTo_concat_zero]
      exact hd.cone
    · rw [drivenTo_concat_zero]
      exact hd.onWay.arrivedAt hc hnear
  | driven hphase hscan hfar =>
    rw [hremaining] at hfar ⊢
    have hu := linearCommand_aside hc hd (not_le.1 hfar)
    obtain ⟨v, hv, hcommand, -, hnext⟩ := hd.heading.step hc.gains hyaw
    rw [hcommand]
    set u := linearCommand p l (d - wayFrom startPose (drivenTo p startPose handed))
    have hturned : turnedBy p startPose offset (handed ++ [⟨⟨u, turnSide offset * v⟩, some l.phase⟩]) =
        turnedBy p startPose offset handed + v * p.tickPeriodS := by
      rw [turnedBy_concat, turnSide_mul_cancel]
    obtain ⟨hcone, honWay, hticks⟩ := hd.drives hc hoffset (h := ⟨⟨u, turnSide offset * v⟩, some l.phase⟩) hu
      (not_le.1 hfar)
    refine .publishes _ _ (.inr ⟨hd.phase, hd.driveSign, hd.distanceTarget, hd.phaseStartX, hd.phaseStartY,
      ⟨hc.leastSpeed_pos.le.trans hu.1, hu.2⟩, ?_, ?_, hcone, honWay⟩) ?_
    · rw [hturned]
      exact hnext _ rfl rfl rfl
    · rw [hturned]
      linarith [hd.near, mul_nonneg hv hc.tick_pos.le]
    · unfold sidewaysLoop
      dsimp only [Locals.seen]
      rw [hd.phase] at hticks ⊢
      exact hticks

/-! ### Every run -/

private theorem normalizeAngle_sideOffset (direction : Direction) :
    normalizeAngle (sideOffset direction) = sideOffset direction := by
  have hπ := pi_pos
  have hquarter : quarterTurn = π / 2 := rfl
  unfold sideOffset
  split
  · exact normalizeAngle_of_mem (by linarith) (by linarith)
  · exact normalizeAngle_of_mem (by linarith) (by linarith)

/-- The plan of a move to the side. -/
private theorem SidewaysMove.plan (hc : SidewaysMove p command target k d) (startPose : Pose2D ℝ) (now : ℝ) :
    ∃ l, planMove command target k startPose now = .ok l ∧
      TurningAside p k startPose (sideOffset target.direction) d [] l := by
  have hplan : ∃ l, planMove command target k startPose now = .ok l ∧ l.isRotation = false ∧ l.phase = .turning ∧
      l.driveSign = 1 ∧ l.distanceTargetM = d ∧ l.prevLinearCmd = 0 ∧ l.prevAngularCmd = 0 ∧ l.constraints = k ∧
      l.headingTarget = normalizeAngle (startPose.yaw + sideOffset target.direction) := by
    unfold planMove
    rcases hc.direction with hdirection | hdirection
    · rw [hdirection, hc.distance]
      exact ⟨_, rfl, rfl, rfl, rfl, rfl, rfl, rfl, rfl, rfl⟩
    · rw [hdirection, hc.distance]
      exact ⟨_, rfl, rfl, rfl, rfl, rfl, rfl, rfl, rfl, rfl⟩
  obtain ⟨l, hplan, hrotation, hphase, hsign, hdistance, hlinear, hangular, hk, hheading⟩ := hplan
  refine ⟨l, hplan, ⟨hphase, ?_, onSpot_nil⟩, hrotation, hsign, hdistance, hlinear⟩
  rw [turnedBy_nil]
  refine ⟨hheading, hk, le_refl _, 0, by rw [hangular, mul_zero], ?_⟩
  rw [sub_zero]
  exact approaching_rest hc.gains.gains (abs_nonneg _)

private theorem SidewaysMove.lawful (hc : SidewaysMove p command target k d) (startPose : Pose2D ℝ) :
    (sidewaysLoop p k startPose (sideOffset target.direction) d).Lawful p command startPose where
  plans := by
    refine ⟨target, k, hc.isMove, hc.constraints, fun now => ?_⟩
    obtain ⟨l, hplan, ht⟩ := hc.plan startPose now
    refine ⟨l, hplan, .inl ht, ?_⟩
    unfold sidewaysLoop
    dsimp only
    rw [ht.turning.phase, turnedBy_nil]
  goes handed l o hl ho := by
    rcases hl with ht | hd
    · exact ht.iterate hc ho
    · exact hd.iterate hc (normalizeAngle_sideOffset _) ho

/-- The predicted endpoint, in the frame of the heading target. -/
private theorem SidewaysMove.endpoint (hc : SidewaysMove p command target k d) (startPose pose : Pose2D ℝ) :
    ∃ x y, projectTranslation target.direction d startPose.x startPose.y startPose.yaw = .ok (x, y) ∧
      euclideanDistance x y pose.x pose.y ^ 2 =
        (alongTarget startPose (sideOffset target.direction) pose - d) ^ 2 +
          besideTarget startPose (sideOffset target.direction) pose ^ 2 := by
  have hdirection : target.direction.isRotation = false := by
    rcases hc.direction with h | h <;> rw [h] <;> rfl
  obtain ⟨l, hplan, ht⟩ := hc.plan startPose 0
  obtain ⟨l', hplan', -, -, hproject⟩ : ∃ l', planMove command target k startPose 0 = .ok l' ∧ _ ∧ _ ∧ _ :=
    projectTranslation_planMove hdirection hc.distance
  obtain rfl := Except.ok.inj (hplan.symm.trans hplan')
  refine ⟨_, _, hproject, ?_⟩
  have hone := sin_sq_add_cos_sq (startPose.yaw + sideOffset target.direction)
  have hside := turnSide_mul_self (sideOffset target.direction)
  unfold euclideanDistance
  rw [ht.driveSign, ht.turning.heading.headingTarget, cos_normalizeAngle, sin_normalizeAngle, PyMath.hypot_real,
    sq_sqrt (by positivity)]
  unfold alongTarget besideTarget
  rw [mul_pow, sq (turnSide _), hside]
  linear_combination
    (d ^ 2 - (pose.x - startPose.x) ^ 2 - (pose.y - startPose.y) ^ 2) * hone

/-- The distance from the endpoint at the exit. -/
private theorem Exit.Aside.distance_sq_le {e : Exit} (he : e.Aside p k startPose offset d handed)
    (hc : SidewaysMove p command target k d) :
    (alongTarget startPose offset (drivenTo p startPose handed) - d) ^ 2 +
        besideTarget startPose offset (drivenTo p startPose handed) ^ 2 ≤
      (wayFrom startPose (drivenTo p startPose handed) - d) ^ 2 +
        2 * wayFrom startPose (drivenTo p startPose handed) * d * (1 - cos p.angleToleranceRad) := by
  have hway := wayFrom_eq startPose offset (drivenTo p startPose handed)
  by_cases hd : d ≤ p.positionToleranceM
  · -- the robot has not driven at all
    have hzero := he.arrived.near hd
    have hsquares := hway.symm.trans hzero
    rw [sqrt_eq_zero (by positivity), add_eq_zero_iff_of_nonneg (sq_nonneg _) (sq_nonneg _)] at hsquares
    rw [hzero, hsquares.2, pow_eq_zero_iff two_ne_zero |>.1 hsquares.1]
    simp
  · rw [hway]
    exact he.cone.distance_sq_le hc.gains.tolerance hc.narrow (hc.tolerance.le.trans (not_le.1 hd).le)

/-- A move to the side against the plant ends after a bounded number of answers, and it returns that it has reached its
target.  Its distance `r` from the start is the requested one, up to the tolerance and the way of one tick, and its
distance from the predicted endpoint is at most that of a point in a direction within the angle tolerance. -/
theorem sideways_move_converges (hc : SidewaysMove p command target k d) {odometry : OdometryRead}
    (hpose : currentPose odometry = .ok (some startPose, true)) {replies : List MoveReply} {m : MoveCall}
    (h : StepSystem.run (moveStep p command) .initial replies = some m)
    (hanswers : StepSystem.Along (moveStep p command) (PlantReply p command startPose) .initial replies) :
    replies.length ≤ 3 * (turnsLeft p k (sideOffset target.direction) 0 + drivesLeft p k d 0 + 1) + 4 ∧
      (∀ out, m.point = .ended out → ∃ result distance pose x y r, out = .returned result ∧
        result.status = .succeeded ∧ result.fields = .motion distance (some pose) (some .targetReached) ∧
        (drivenTo p startPose m.handed).ReadAs pose ∧
        projectTranslation target.direction d startPose.x startPose.y startPose.yaw = .ok (x, y) ∧
        wayFrom startPose pose = r ∧ ArrivedAt p k d r ∧
        euclideanDistance x y pose.x pose.y ^ 2 ≤ (r - d) ^ 2 + 2 * r * d * (1 - cos p.angleToleranceRad)) ∧
      ∃ more m', StepSystem.Along (moveStep p command) (PlantReply p command startPose) m more ∧
        StepSystem.run (moveStep p command) m more = some m' ∧ ∃ out, m'.point = .ended out := by
  obtain ⟨hlength, hends, hmore⟩ := ClosedLoop.converges (hc.lawful startPose) hpose h hanswers
  refine ⟨hlength, ?_, hmore⟩
  intro out hp
  obtain ⟨e, elapsed, rfl, he⟩ := hends out hp
  obtain ⟨pose, hfinal, hread⟩ := he.pose
  obtain ⟨x, y, hproject, hdistance⟩ := hc.endpoint startPose (drivenTo p startPose m.handed)
  have hway := wayFrom_eq startPose (sideOffset target.direction) (drivenTo p startPose m.handed)
  refine ⟨_, e.distanceTraveledM, pose, x, y, wayFrom startPose (drivenTo p startPose m.handed), rfl, he.status, ?_,
    hread, hproject, ?_, he.arrived, ?_⟩
  · rw [← hfinal, ← he.stopReason]
    rfl
  · unfold wayFrom
    rw [hread.x, hread.y]
  · rw [hread.x, hread.y, hdistance]
    exact he.distance_sq_le hc

end Sideways

/-- A move of the sample to the left. -/
theorem sideways_move_converges_sample : ∃ replies m result, ∃ pose : Pose2D ℝ, ∃ x y r,
    StepSystem.run (moveStep samplePlugin leftCommand) .initial replies = some m ∧
      m.point = .ended (.returned result) ∧ result.status = .succeeded ∧
      projectTranslation .left ((1 : ℤ) : ℝ) 0 0 0 = .ok (x, y) ∧
      ArrivedAt samplePlugin (sampleConstraints ℝ) ((1 : ℤ) : ℝ) r ∧
      euclideanDistance x y pose.x pose.y ^ 2 ≤
        (r - ((1 : ℤ) : ℝ)) ^ 2 + 2 * r * ((1 : ℤ) : ℝ) * (1 - cos samplePlugin.angleToleranceRad) := by
  have hc : SidewaysMove samplePlugin leftCommand ⟨.left, some ((1 : ℤ) : ℝ), none⟩ (sampleConstraints ℝ)
      ((1 : ℤ) : ℝ) := by
    constructor
    case isMove | distance | constraints => rfl
    case direction => exact .inl rfl
    case gains => exact samplePlugin_turnGains
    case narrow =>
      have hπ := pi_pos
      norm_num [samplePlugin, radians, quarterTurn]
      linarith
    all_goals norm_num [samplePlugin, sampleConstraints]
  have hpose := currentPose_yawOdometry zero_mem_turn
  obtain ⟨-, -, replies, m, hanswers, hrun, out, hp⟩ := sideways_move_converges hc hpose (m := .initial) rfl .nil
  obtain ⟨-, hended, -⟩ := sideways_move_converges hc hpose hrun hanswers
  obtain ⟨result, distance, pose, x, y, r, rfl, hstatus, -, -, hproject, -, harrived, hdistance⟩ := hended out hp
  exact ⟨replies, m, result, pose, x, y, r, hrun, hp, hstatus, hproject, harrived, hdistance⟩

end RosMcp
