import RosMcp.Motion.Odometer

/-!
# Straight moves converge

The plant of a straight move is a point on the line of its start heading: each published velocity moves it for one tick,
and the odometry reads where it is (`Observation.Ideal`).  Every tick that goes on publishes a speed between the least
one (`leastSpeed`) and the limit, so the way that is left shrinks by a fixed amount, and the tick before the last one
was not there yet.  So every run against the plant ends, at the target and at most a tick's way beyond it
(`straight_move_converges`).
-/

namespace RosMcp

open Real

/-! ### The plant -/

/-- How far the published velocities have taken the robot along its start heading, each of them for one tick. -/
noncomputable def displacement (p : CmdVelMotionPlugin) (handed : List Handed) : ℝ :=
  (handed.map fun h => h.twist.linearX * p.tickPeriodS).sum

/-- The pose is `D` ahead of the start pose. -/
structure Pose2D.Ahead (startPose : Pose2D ℝ) (D : ℝ) (pose : Pose2D ℝ) : Prop where
  x : pose.x = startPose.x + D * Real.cos startPose.yaw
  y : pose.y = startPose.y + D * Real.sin startPose.yaw
  yaw : pose.yaw = startPose.yaw

/-- Fresh odometry reads the exact pose, and neither the token nor a deadline nor an obstacle intervenes. -/
structure Observation.Ideal (p : CmdVelMotionPlugin) (startPose : Pose2D ℝ) (D : ℝ) (l : Locals) (o : Observation) :
    Prop where
  goesOn : o.GoesOn l
  clear : obstacleAhead p o.scan (travelSector l) l.constraints.obstacleStopDistanceM = .ok none
  pose : ∃ pose, currentPose o.odometry = .ok (some pose, true) ∧ startPose.Ahead D pose

/-- The answer comes from the plant. -/
structure IdealReply (p : CmdVelMotionPlugin) (command : SemanticCommand ℝ) (startPose : Pose2D ℝ) (m : MoveCall)
    (reply : MoveReply) : Prop where
  answers : ¬ reply.Fails
  starts : ∀ now odometry o ready, reply = .start now odometry o ready →
    currentPose odometry = .ok (some startPose, true)
  observes : ∀ l o, Iterates command m reply l o → o.Ideal p startPose (displacement p m.handed) l

/-- A move by `d` straight ahead or back, with positive gain, tolerance and limits. -/
structure StraightMove (p : CmdVelMotionPlugin) (command : SemanticCommand ℝ) (target : MoveTarget ℝ)
    (k : SafetyConstraints ℝ) (d : ℝ) : Prop where
  isMove : command.target = .move target
  direction : target.direction = .forward ∨ target.direction = .backward
  distance : target.distanceM = some d
  constraints : command.safetyConstraints = some k
  rate : 0 < p.controlRateHz
  gain : 0 < p.kpLinear
  tolerance : 0 < p.positionToleranceM
  speed : 0 < k.maxLinearMps
  acceleration : 0 < k.maxLinearAccelerationMps2

/-- A speed that every tick that goes on publishes at least. -/
noncomputable def leastSpeed (p : CmdVelMotionPlugin) (k : SafetyConstraints ℝ) : ℝ :=
  min (min (p.kpLinear * p.positionToleranceM) k.maxLinearMps) (k.maxLinearAccelerationMps2 * p.tickPeriodS)

/-- The robot is at the target, up to the tolerance and the way of one tick. -/
structure ArrivedAt (p : CmdVelMotionPlugin) (k : SafetyConstraints ℝ) (d D : ℝ) : Prop where
  near : d ≤ p.positionToleranceM → D = 0
  far : p.positionToleranceM < d →
    D ∈ Set.Icc (d - p.positionToleranceM) (d - p.positionToleranceM + k.maxLinearMps * p.tickPeriodS)

/-! ### The invariant -/

/-- The locals of a straight move, which goes with the sign `s`. -/
structure Locals.Straight (k : SafetyConstraints ℝ) (s d : ℝ) (startPose : Pose2D ℝ) (l : Locals) : Prop where
  constraints : l.constraints = k
  phase : l.phase = .driving
  driveSign : l.driveSign = s
  distanceTarget : l.distanceTargetM = d
  phaseStart : l.phaseStartPose = startPose
  prevLinear : ∃ u ∈ Set.Icc 0 k.maxLinearMps, l.prevLinearCmd = s * u

/-- The way `y` before a tick: nothing yet, or the tick before it was not at the target. -/
structure OnWay (p : CmdVelMotionPlugin) (k : SafetyConstraints ℝ) (d y : ℝ) : Prop where
  nonneg : 0 ≤ y
  beyond : y = 0 ∨ p.positionToleranceM < d ∧ y ≤ d - p.positionToleranceM + k.maxLinearMps * p.tickPeriodS

/-- The exit at the target, after the way `y`. -/
structure Exit.Arrived (p : CmdVelMotionPlugin) (k : SafetyConstraints ℝ) (s d : ℝ) (startPose : Pose2D ℝ) (y : ℝ)
    (e : Exit) : Prop where
  status : e.status = .succeeded
  stopReason : e.stopReason = .targetReached
  pose : ∃ pose, e.finalPose = some pose ∧ startPose.Ahead (s * y) pose
  arrived : ArrivedAt p k d y

def Next.Converging (p : CmdVelMotionPlugin) (k : SafetyConstraints ℝ) (s d : ℝ) (startPose : Pose2D ℝ) (y : ℝ) :
    Next → Prop
  | .finish e => e.Arrived p k s d startPose y
  | .loop l => l.Straight k s d startPose ∧ OnWay p k d y

/-- The way that the twists of a call take the robot, also the one that waits for its publisher. -/
noncomputable def MoveCall.way (p : CmdVelMotionPlugin) (s : ℝ) (m : MoveCall) : ℝ := s * displacement p m.twists

/-- The invariant of a call against the plant. -/
def MoveCall.Converging (p : CmdVelMotionPlugin) (command : SemanticCommand ℝ) (k : SafetyConstraints ℝ) (s d : ℝ)
    (startPose : Pose2D ℝ) (m : MoveCall) : Prop :=
  match m.point with
  | .created => m.handed = []
  | .creatingPublisher _ next | .publishing _ next => next.Converging p k s d startPose (m.way p s)
  | .sleeping l => l.Straight k s d startPose ∧ OnWay p k d (m.way p s)
  | .ended out =>
    ∃ (e : Exit) (elapsed : ℝ), out = .returned (e.result command elapsed) ∧
      e.Arrived p k s d startPose (m.way p s)

/-! ### The measure -/

/-- How many ticks go on, at most, after the way `y`. -/
noncomputable def ticksLeft (p : CmdVelMotionPlugin) (k : SafetyConstraints ℝ) (d y : ℝ) : ℕ :=
  ⌈(d - p.positionToleranceM - y) / (leastSpeed p k * p.tickPeriodS)⌉₊

noncomputable def Next.repliesLeft (p : CmdVelMotionPlugin) (k : SafetyConstraints ℝ) (d y : ℝ) : Next → ℕ
  | .finish _ => 0
  | .loop _ => 3 * ticksLeft p k d y + 3

/-- How many answers a call awaits, at most: up to three in each tick. -/
noncomputable def MoveCall.repliesLeft (p : CmdVelMotionPlugin) (k : SafetyConstraints ℝ) (s d : ℝ) (m : MoveCall) :
    ℕ :=
  match m.point with
  | .created => 3 * ticksLeft p k d 0 + 3
  | .creatingPublisher _ next => next.repliesLeft p k d (m.way p s) + 2
  | .publishing _ next => next.repliesLeft p k d (m.way p s) + 1
  | .sleeping _ => 3 * ticksLeft p k d (m.way p s) + 3
  | .ended _ => 0

section Straight

variable {p : CmdVelMotionPlugin} {command : SemanticCommand ℝ} {target : MoveTarget ℝ} {k : SafetyConstraints ℝ}
  {d s y : ℝ} {startPose : Pose2D ℝ} {l : Locals} {m m' : MoveCall} {reply : MoveReply} {o : Observation}

private theorem StraightMove.tick_pos
    (hc : StraightMove p command target k d) : 0 < p.tickPeriodS := one_div_pos.2 hc.rate

private theorem StraightMove.leastSpeed_pos (hc : StraightMove p command target k d) : 0 < leastSpeed p k :=
  lt_min (lt_min (mul_pos hc.gain hc.tolerance) hc.speed) (mul_pos hc.acceleration hc.tick_pos)

private theorem StraightMove.sign (hc : StraightMove p command target k d) :
    target.direction.driveSign = 1 ∨ target.direction.driveSign = -1 := by
  rcases hc.direction with hd | hd
  · left
    rw [hd]
    rfl
  · right
    rw [hd]
    rfl

/-- The distance to a pose ahead. -/
private theorem Pose2D.Ahead.distance {pose : Pose2D ℝ} {D : ℝ} (h : startPose.Ahead D pose) :
    euclideanDistance startPose.x startPose.y pose.x pose.y = |D| := by
  have hsquares : (D * Real.cos startPose.yaw) ^ 2 + (D * Real.sin startPose.yaw) ^ 2 = D ^ 2 := by
    rw [mul_pow, mul_pow, ← mul_add, Real.cos_sq_add_sin_sq, mul_one]
  unfold euclideanDistance
  rw [h.x, h.y, add_sub_cancel_left, add_sub_cancel_left, PyMath.hypot_real, hsquares, Real.sqrt_sq_eq_abs]

/-- The speed of a tick that is not at the target. -/
private theorem linearCommand_straight (hc : StraightMove p command target k d) (hs : s = 1 ∨ s = -1)
    (hl : l.Straight k s d startPose) {remaining : ℝ} (hfar : p.positionToleranceM < remaining) :
    ∃ u ∈ Set.Icc (leastSpeed p k) k.maxLinearMps, linearCommand p l remaining = s * u := by
  obtain ⟨u, hu, hprev⟩ := hl.prevLinear
  have htick := hc.tick_pos
  have hlimit : 0 < k.maxLinearAccelerationMps2 * p.tickPeriodS := mul_pos hc.acceleration htick
  have hrequest : clamp (p.kpLinear * remaining) 0 k.maxLinearMps ∈ Set.Icc 0 k.maxLinearMps := clamp_mem _ hc.speed.le
  have hleast : min (p.kpLinear * p.positionToleranceM) k.maxLinearMps ≤
      clamp (p.kpLinear * remaining) 0 k.maxLinearMps := by
    unfold clamp
    refine le_max_of_le_right (le_min (min_le_right _ _) ((min_le_left _ _).trans ?_))
    exact mul_le_mul_of_nonneg_left hfar.le hc.gain.le
  refine ⟨clampDelta (clamp (p.kpLinear * remaining) 0 k.maxLinearMps) u
    (k.maxLinearAccelerationMps2 * p.tickPeriodS), ⟨?_, ?_⟩, ?_⟩
  · exact le_clampDelta hu.1 ((min_le_left _ _).trans hleast) (min_le_right _ _) hlimit
  · exact (clampDelta_mem (s := Set.Icc 0 k.maxLinearMps) _ hu hrequest).2
  · unfold linearCommand
    rw [hl.constraints, hl.driveSign, hprev]
    rcases hs with rfl | rfl
    · rw [one_mul, one_mul, one_mul]
    · rw [neg_one_mul, neg_one_mul, neg_one_mul, clampDelta_neg]

/-- An iteration of a straight move at the way `y`: it is at the target, or it publishes a speed. -/
inductive StraightIteration (p : CmdVelMotionPlugin) (k : SafetyConstraints ℝ) (s d : ℝ) (startPose : Pose2D ℝ)
    (y : ℝ) : Iteration → Prop
  | arrived (e : Exit) (he : e.Arrived p k s d startPose y) : StraightIteration p k s d startPose y (.exit e)
  | driven (u angular : ℝ) (l : Locals) (hu : u ∈ Set.Icc (leastSpeed p k) k.maxLinearMps)
      (hl : l.Straight k s d startPose) (hfar : y < d - p.positionToleranceM)
      (hy : OnWay p k d (y + u * p.tickPeriodS)) :
      StraightIteration p k s d startPose y (.publish ⟨s * u, angular⟩ l)

private theorem iterate_straight (hc : StraightMove p command target k d) (hs : s = 1 ∨ s = -1)
    (hl : l.Straight k s d startPose) (hy : OnWay p k d y) (ho : o.Ideal p startPose (s * y) l) :
    StraightIteration p k s d startPose y (iterate p l o) := by
  obtain ⟨pose, hpose, hahead⟩ := ho.pose
  have hdistance : euclideanDistance l.phaseStartPose.x l.phaseStartPose.y pose.x pose.y = y := by
    rw [hl.phaseStart, hahead.distance, abs_mul, abs_of_nonneg hy.nonneg]
    rcases hs with rfl | rfl <;> simp
  have hfresh : iterate p l o = iterateFresh p l pose o.scan := by
    unfold iterate
    rw [if_neg ho.goesOn.running, if_neg ho.goesOn.inTime, hpose]
  have hsteered := iterateFresh_steered p l pose o.scan
  rw [hfresh]
  generalize iterateFresh p l pose o.scan = it at hsteered
  have hclear := ho.clear
  have hremaining : l.remaining pose = d - y := by
    unfold Locals.remaining
    rw [hl.distanceTarget, hdistance]
  cases hsteered with
  | rotated hphase | aligned hphase | turned hphase => cases hphase.symm.trans hl.phase
  | unscanned exc hphase hscan => cases hclear.symm.trans hscan
  | obstacle range hphase hscan => cases hclear.symm.trans hscan
  | arrived hphase hscan hnear =>
    rw [hremaining] at hnear
    refine .arrived _ ⟨rfl, rfl, ⟨pose, rfl, hahead⟩, ?_, ?_⟩
    · intro hd
      rcases hy.beyond with hzero | ⟨hfar, -⟩
      · exact hzero
      · exact absurd hfar (not_lt.2 hd)
    · intro hd
      refine ⟨by linarith, ?_⟩
      rcases hy.beyond with hzero | ⟨-, hle⟩
      · have htick := mul_pos hc.speed hc.tick_pos
        rw [hzero] at hnear ⊢
        linarith
      · exact hle
  | driven hphase hscan hfar =>
    rw [hremaining] at hfar ⊢
    obtain ⟨u, hu, hlinear⟩ := linearCommand_straight hc hs hl (not_le.1 hfar)
    have hpos : 0 ≤ u := hc.leastSpeed_pos.le.trans hu.1
    have htick := hc.tick_pos
    have hstep : u * p.tickPeriodS ≤ k.maxLinearMps * p.tickPeriodS := mul_le_mul_of_nonneg_right hu.2 htick.le
    have hnonneg : 0 ≤ u * p.tickPeriodS := mul_nonneg hpos htick.le
    rw [hlinear]
    refine .driven u _ _ hu ?_ (by linarith [not_le.1 hfar]) ⟨add_nonneg hy.nonneg hnonneg, .inr ⟨?_, ?_⟩⟩
    · exact ⟨hl.constraints, hl.phase, hl.driveSign, hl.distanceTarget, hl.phaseStart, u, ⟨hpos, hu.2⟩, rfl⟩
    · linarith [hy.nonneg, not_le.1 hfar]
    · linarith [not_le.1 hfar]

/-! ### The steps of a call -/

/-- A tick that publishes a speed leaves fewer ticks. -/
private theorem ticksLeft_lt (hc : StraightMove p command target k d) {u : ℝ} (hu : leastSpeed p k ≤ u)
    (hfar : y < d - p.positionToleranceM) : ticksLeft p k d (y + u * p.tickPeriodS) < ticksLeft p k d y := by
  have hstep : 0 < leastSpeed p k * p.tickPeriodS := mul_pos hc.leastSpeed_pos hc.tick_pos
  have hway : leastSpeed p k * p.tickPeriodS ≤ u * p.tickPeriodS := mul_le_mul_of_nonneg_right hu hc.tick_pos.le
  have hpos : 0 < ticksLeft p k d y := Nat.ceil_pos.2 (div_pos (by linarith) hstep)
  have hle : ticksLeft p k d (y + u * p.tickPeriodS) ≤ ticksLeft p k d y - 1 := by
    unfold ticksLeft
    rw [← Nat.ceil_sub_one]
    refine Nat.ceil_mono ?_
    rw [div_sub_one hstep.ne']
    exact div_le_div_of_nonneg_right (by linarith) hstep.le
  omega

private theorem displacement_concat (handed : List Handed) (h : Handed) :
    displacement p (handed ++ [h]) = displacement p handed + h.twist.linearX * p.tickPeriodS := by
  simp [displacement]

/-- A call that hands over a twist converges as what is to follow. -/
private theorem MoveCall.converging_publishTwist (command : SemanticCommand ℝ) (m : MoveCall) (ready : Bool)
    {h : Handed}
    {next : Next}
    (hnext : next.Converging p k s d startPose (s * displacement p (m.handed ++ [h]))) :
    (m.publishTwist ready h next).Converging p command k s d startPose ∧
      (m.publishTwist ready h next).repliesLeft p k s d ≤
        next.repliesLeft p k d (s * displacement p (m.handed ++ [h])) + 2 := by
  have hway : (m.publishTwist ready h next).way p s = s * displacement p (m.handed ++ [h]) := by
    unfold MoveCall.way
    rw [m.twists_publishTwist]
  unfold MoveCall.Converging MoveCall.repliesLeft
  rw [hway]
  unfold MoveCall.publishTwist
  cases ready with
  | false => exact ⟨hnext, le_refl _⟩
  | true => exact ⟨hnext, Nat.le_succ _⟩

/-- An iteration of a call against the plant. -/
private theorem MoveCall.iterate_converging (hc : StraightMove p command target k d) (hs : s = 1 ∨ s = -1)
    (hl : l.Straight k s d startPose) (hy : OnWay p k d (s * displacement p m.handed))
    (ho : o.Ideal p startPose (displacement p m.handed) l) (ready : Bool) :
    (m.iterate p l o ready).Converging p command k s d startPose ∧
      (m.iterate p l o ready).repliesLeft p k s d < 3 * ticksLeft p k d (s * displacement p m.handed) + 3 := by
  have hsquare : s * s = 1 := by rcases hs with rfl | rfl <;> norm_num
  have hback : s * (s * displacement p m.handed) = displacement p m.handed := by rw [← mul_assoc, hsquare, one_mul]
  rw [← hback] at ho
  have hiteration := iterate_straight hc hs hl hy ho
  unfold MoveCall.iterate
  generalize RosMcp.iterate p l o = it at hiteration
  cases hiteration with
  | arrived e he =>
    have hway : s * displacement p (m.handed ++ [⟨.zero, some l.phase⟩]) = s * displacement p m.handed := by
      rw [displacement_concat]
      simp [Twist.zero]
    rw [← hway] at he
    have hnext : (Next.finish e).Converging p k s d startPose
        (s * displacement p (m.handed ++ [⟨.zero, some l.phase⟩])) := he
    obtain ⟨hconverging, hleft⟩ := m.converging_publishTwist command ready hnext
    refine ⟨hconverging, hleft.trans_lt ?_⟩
    simp only [Next.repliesLeft]
    omega
  | driven u angular l' hu hl' hfar hy' =>
    have hway : s * displacement p (m.handed ++ [⟨⟨s * u, angular⟩, some l.phase⟩]) =
        s * displacement p m.handed + u * p.tickPeriodS := by
      rw [displacement_concat, mul_add, ← mul_assoc, ← mul_assoc, hsquare, one_mul]
    have hlt := ticksLeft_lt hc hu.1 hfar
    rw [← hway] at hy' hlt
    have hnext : (Next.loop l').Converging p k s d startPose
        (s * displacement p (m.handed ++ [⟨⟨s * u, angular⟩, some l.phase⟩])) := ⟨hl', hy'⟩
    obtain ⟨hconverging, hleft⟩ := m.converging_publishTwist command ready hnext
    refine ⟨hconverging, hleft.trans_lt ?_⟩
    simp only [Next.repliesLeft]
    omega

/-- The plan of a straight move. -/
private theorem StraightMove.plan (hc : StraightMove p command target k d) (startPose : Pose2D ℝ) (now : ℝ) :
    ∃ l, planMove command target k startPose now = .ok l ∧ l.Straight k target.direction.driveSign d startPose := by
  have hzero : ∃ u ∈ Set.Icc 0 k.maxLinearMps, (0 : ℝ) = target.direction.driveSign * u :=
    ⟨0, ⟨le_refl _, hc.speed.le⟩, (mul_zero _).symm⟩
  unfold planMove
  rcases hc.direction with hd | hd
  · rw [hd] at hzero ⊢
    rw [hc.distance]
    exact ⟨_, rfl, rfl, rfl, rfl, rfl, rfl, hzero⟩
  · rw [hd] at hzero ⊢
    rw [hc.distance]
    exact ⟨_, rfl, rfl, rfl, rfl, rfl, rfl, hzero⟩

/-- An iteration of a call that has published before, or starts now. -/
private theorem Iterates.converging (hc : StraightMove p command target k d) (hi : Iterates command m reply l o)
    (hr : IdealReply p command startPose m reply) (hl : l.Straight k target.direction.driveSign d startPose)
    (hy : OnWay p k d (target.direction.driveSign * displacement p m.handed))
    (hstep : moveStep p command m reply = some m') :
    m'.Converging p command k target.direction.driveSign d startPose ∧
      m'.repliesLeft p k target.direction.driveSign d <
        3 * ticksLeft p k d (target.direction.driveSign * displacement p m.handed) + 3 := by
  obtain ⟨start, ready, rfl⟩ := hi.step hstep
  exact MoveCall.iterate_converging (m := { m with startMonotonic := start }) hc hc.sign hl hy (hr.observes l o hi)
    ready

/-- Every answer of the plant keeps the invariant and leaves fewer answers. -/
theorem MoveCall.Converging.step (hc : StraightMove p command target k d)
    (hm : m.Converging p command k target.direction.driveSign d startPose)
    (hr : IdealReply p command startPose m reply) (h : moveStep p command m reply = some m') :
    m'.Converging p command k target.direction.driveSign d startPose ∧
      m'.repliesLeft p k target.direction.driveSign d < m.repliesLeft p k target.direction.driveSign d := by
  have hanswers := hr.answers
  unfold MoveCall.Converging at hm
  cases moveStep_transition h with
  | cancelled | creationFailed | publishFailed | sleepFailed => exact absurd trivial hanswers
  | started now odometry o ready hp =>
    obtain ⟨l, hplan, hl⟩ := hc.plan startPose now
    have hi : Iterates command m (.start now odometry o ready) l o :=
      .first target k startPose now odometry o ready l hp hc.isMove hc.constraints (hr.starts _ _ _ _ rfl) hplan
    rw [hp] at hm
    have hzero : target.direction.driveSign * displacement p m.handed = 0 := by
      rw [hm]
      simp [displacement]
    have hy : OnWay p k d (target.direction.driveSign * displacement p m.handed) := ⟨hzero.ge, .inl hzero⟩
    obtain ⟨hconverging, hleft⟩ := hi.converging hc hr hl hy h
    rw [hzero] at hleft
    refine ⟨hconverging, ?_⟩
    rw [show m.repliesLeft p k target.direction.driveSign d = 3 * ticksLeft p k d 0 + 3 by
      unfold MoveCall.repliesLeft; rw [hp]]
    exact hleft
  | iterated l o ready hp =>
    rw [hp] at hm
    have htwists : m.twists = m.handed := by
      unfold MoveCall.twists
      rw [hp]
      exact List.append_nil _
    unfold MoveCall.way at hm
    rw [htwists] at hm
    obtain ⟨hconverging, hleft⟩ := (Iterates.next l o ready hp).converging hc hr hm.1 hm.2 h
    refine ⟨hconverging, ?_⟩
    rw [show m.repliesLeft p k target.direction.driveSign d =
        3 * ticksLeft p k d (target.direction.driveSign * displacement p m.handed) + 3 by
      unfold MoveCall.repliesLeft MoveCall.way; rw [hp, htwists]]
    exact hleft
  | publisherCreated waiting next hp =>
    rw [hp] at hm
    have hway : m.way p target.direction.driveSign =
        (m.publishTwist true waiting next).way p target.direction.driveSign := by
      simp [MoveCall.way, MoveCall.twists, MoveCall.publishTwist, MovePoint.waiting, hp]
    have hm' : next.Converging p k target.direction.driveSign d startPose
        ((m.publishTwist true waiting next).way p target.direction.driveSign) := hway ▸ hm
    refine ⟨hm', ?_⟩
    unfold MoveCall.repliesLeft
    rw [hp, hway]
    exact Nat.lt_succ_self _
  | finished last e now hp =>
    rw [hp] at hm
    have hway : m.way p target.direction.driveSign =
        (m.endWith (.returned (e.result command (now - m.startMonotonic)))).way p target.direction.driveSign := by
      simp [MoveCall.way, MoveCall.twists, MoveCall.endWith, MovePoint.waiting, hp]
    refine ⟨⟨e, _, rfl, hway ▸ hm⟩, ?_⟩
    unfold MoveCall.repliesLeft
    rw [hp]
    exact Nat.succ_pos _
  | looped last l now hp =>
    rw [hp] at hm
    have hway : m.way p target.direction.driveSign =
        MoveCall.way p target.direction.driveSign { m with point := .sleeping l } := by
      simp [MoveCall.way, MoveCall.twists, MovePoint.waiting, hp]
    have hm' : l.Straight k target.direction.driveSign d startPose ∧
        OnWay p k d (MoveCall.way p target.direction.driveSign { m with point := .sleeping l }) := hway ▸ hm
    refine ⟨hm', ?_⟩
    unfold MoveCall.repliesLeft
    rw [hp, hway]
    exact Nat.lt_succ_self _

/-! ### Progress -/

/-- Odometry can read every pose on the line through a pose that it has read. -/
private theorem exists_odometry {odometry : OdometryRead} (hpose : currentPose odometry = .ok (some startPose, true))
    (D : ℝ) :
    ∃ odometry' pose, currentPose odometry' = .ok (some pose, true) ∧ startPose.Ahead D pose := by
  rcases odometry with exc | ⟨_ | ⟨⟨raw, stamp⟩, fresh⟩⟩
  case error => cases hpose
  case ok.none => cases hpose
  case ok.some =>
    rcases raw with exc | raw
    case error => cases hpose
    case ok =>
      cases hpose
      exact ⟨.ok (some (⟨.ok { raw with
        x := raw.x + D * Real.cos (quaternionToYaw raw.orientation)
        y := raw.y + D * Real.sin (quaternionToYaw raw.orientation) }, stamp⟩, true)), _, rfl, rfl, rfl, rfl⟩

/-- The plant can be observed before the deadline. -/
private theorem exists_ideal {odometry : OdometryRead} (hpose : currentPose odometry = .ok (some startPose, true))
    (D : ℝ)
    (l : Locals) : ∃ o : Observation, o.Ideal p startPose D l := by
  obtain ⟨odometry', pose, hread, hahead⟩ := exists_odometry hpose D
  refine ⟨⟨false, false, l.deadline - 1, odometry', .ok none⟩, ⟨by simp, by simp⟩, ?_, pose, hread, hahead⟩
  unfold obstacleAhead
  split <;> rfl

/-- A call that has not ended goes on with some answer of the plant. -/
private theorem MoveCall.Converging.progress (hc : StraightMove p command target k d) {odometry : OdometryRead}
    (hpose : currentPose odometry = .ok (some startPose, true)) (m : MoveCall) (hlive : ¬ ∃ out, m.point = .ended out) :
    ∃ reply m', IdealReply p command startPose m reply ∧ moveStep p command m reply = some m' := by
  unfold moveStep
  rcases hp : m.point with _ | ⟨h, next⟩ | ⟨h, next⟩ | l | out
  case created =>
    obtain ⟨l, hplan, -⟩ := hc.plan startPose 0
    obtain ⟨o, ho⟩ := exists_ideal (p := p) hpose (displacement p m.handed) l
    refine ⟨.start 0 odometry o true, _, ⟨not_false, ?_, ?_⟩, rfl⟩
    · rintro now odometry' o' ready ⟨⟩
      exact hpose
    · intro l' o' hi
      cases hi with
      | first target' k' startPose' _ _ _ _ _ _ ht hk hpose' hplan' =>
        obtain rfl : target = target' := Target.move.inj (hc.isMove.symm.trans ht)
        obtain rfl : k = k' := Option.some.inj (hc.constraints.symm.trans hk)
        rw [hpose] at hpose'
        cases hpose'
        obtain rfl := Except.ok.inj (hplan.symm.trans hplan')
        exact ho
  case creatingPublisher =>
    refine ⟨.publisher (.ok ()), _, ⟨not_false, by simp, ?_⟩, rfl⟩
    intro l o hi
    cases hi
  case publishing =>
    refine ⟨.published (.ok ()) 0, ?_⟩
    cases next with
    | finish e =>
      refine ⟨_, ⟨not_false, by simp, ?_⟩, rfl⟩
      intro l o hi
      cases hi
    | loop l =>
      refine ⟨_, ⟨not_false, by simp, ?_⟩, rfl⟩
      intro l o hi
      cases hi
  case sleeping =>
    obtain ⟨o, ho⟩ := exists_ideal (p := p) hpose (displacement p m.handed) l
    refine ⟨.slept (.ok o) true, _, ⟨not_false, by simp, ?_⟩, rfl⟩
    intro l' o' hi
    cases hi with
    | next _ _ _ hp' =>
      obtain rfl := MovePoint.sleeping.inj (hp.symm.trans hp')
      exact ho
  case ended => exact absurd ⟨out, hp⟩ hlive

/-- A straight move against the plant ends after finitely many answers, and it returns that it has reached its target:
it is at the target, up to the tolerance and the way of one tick. -/
theorem straight_move_converges (hc : StraightMove p command target k d) {odometry : OdometryRead}
    (hpose : currentPose odometry = .ok (some startPose, true)) :
    ∃ N, ∀ replies m, StepSystem.run (moveStep p command) .initial replies = some m →
      StepSystem.Along (moveStep p command) (IdealReply p command startPose) .initial replies →
      replies.length ≤ N ∧
      (∀ out, m.point = .ended out → ∃ result distance pose, out = .returned result ∧ result.status = .succeeded ∧
        result.fields = .motion distance (some pose) (some .targetReached) ∧
        startPose.Ahead (displacement p m.handed) pose ∧
        ArrivedAt p k d (target.direction.driveSign * displacement p m.handed)) ∧
      ∃ more m', StepSystem.Along (moveStep p command) (IdealReply p command startPose) m more ∧
        StepSystem.run (moveStep p command) m more = some m' ∧ ∃ out, m'.point = .ended out := by
  have hstep : ∀ m reply m', m.Converging p command k target.direction.driveSign d startPose →
      IdealReply p command startPose m reply → moveStep p command m reply = some m' →
      m'.Converging p command k target.direction.driveSign d startPose ∧
        m'.repliesLeft p k target.direction.driveSign d < m.repliesLeft p k target.direction.driveSign d :=
    fun _ _ _ hm hr h => hm.step hc hr h
  have hinit : MoveCall.initial.Converging p command k target.direction.driveSign d startPose := rfl
  refine ⟨MoveCall.initial.repliesLeft p k target.direction.driveSign d, ?_⟩
  intro replies m h hideal
  have hm : m.Converging p command k target.direction.driveSign d startPose :=
    StepSystem.run_invariant_along (fun m reply m' hm hr h => (hstep m reply m' hm hr h).1) hinit hideal h
  refine ⟨le_of_add_le_left (StepSystem.run_length_le hstep hinit hideal h), ?_, ?_⟩
  · intro out hp
    have htwists : m.twists = m.handed := by
      unfold MoveCall.twists
      rw [hp]
      exact List.append_nil _
    unfold MoveCall.Converging MoveCall.way at hm
    rw [hp, htwists] at hm
    obtain ⟨e, elapsed, rfl, he⟩ := hm
    obtain ⟨pose, hfinal, hahead⟩ := he.pose
    have hsquare : target.direction.driveSign * target.direction.driveSign = 1 := by
      rcases hc.sign with hs | hs <;> rw [hs] <;> norm_num
    rw [← mul_assoc, hsquare, one_mul] at hahead
    refine ⟨_, e.distanceTraveledM, pose, rfl, he.status, ?_, hahead, he.arrived⟩
    rw [← hfinal, ← he.stopReason]
    rfl
  · exact StepSystem.run_completes hstep (fun m hm hlive => MoveCall.Converging.progress hc hpose m hlive) hm

end Straight

theorem straight_move_converges_sample : ∃ replies m result,
    StepSystem.run (moveStep samplePlugin ((sampleWiring ℝ).command 0)) .initial replies = some m ∧
      m.point = .ended (.returned result) ∧ result.status = .succeeded ∧
      ArrivedAt samplePlugin (sampleConstraints ℝ) ((1 : ℤ) : ℝ) (displacement samplePlugin m.handed) := by
  have hc : StraightMove samplePlugin ((sampleWiring ℝ).command 0) ⟨.forward, some ((1 : ℤ) : ℝ), none⟩
      (sampleConstraints ℝ) ((1 : ℤ) : ℝ) := by
    constructor
    case isMove | distance | constraints => rfl
    case direction => exact .inl rfl
    all_goals norm_num [samplePlugin, sampleConstraints]
  have hpose : currentPose sampleOdometry = .ok (some samplePose, true) := rfl
  obtain ⟨N, hN⟩ := straight_move_converges hc hpose
  obtain ⟨-, -, replies, m, hideal, hrun, out, hp⟩ := hN [] .initial rfl .nil
  obtain ⟨-, hended, -⟩ := hN replies m hrun hideal
  obtain ⟨result, distance, pose, rfl, hstatus, -, -, harrived⟩ := hended out hp
  rw [show Direction.driveSign (MoveTarget.direction ⟨.forward, some ((1 : ℤ) : ℝ), none⟩) = 1 from rfl,
    one_mul] at harrived
  exact ⟨replies, m, result, hrun, hp, hstatus, harrived⟩

end RosMcp
