import RosMcp.Lib.Run
import RosMcp.Execution.NonBypass
import RosMcp.Motion.CmdVel

/-!
# Velocity bounds

The previous commands that the loop of `move` remembers stay within the limits of the command's constraints and on the
side of the direction of travel (`Locals.Limited`), since each tick requests a command within them and the slew limiter
returns a command between the previous and the requested one.  So every twist that a call hands to the publisher is
within the limits, has the sign of its direction and does not drive in a rotation or while turning (`velocity_bounds`).
-/

namespace RosMcp

/-- The linear velocities that a direction may be given. -/
def linearRange (k : SafetyConstraints ℝ) : Direction → Set ℝ
  | .forward | .left | .right => Set.Icc 0 k.maxLinearMps
  | .backward => Set.Icc (-k.maxLinearMps) 0
  | .rotateLeft | .rotateRight => Set.Icc 0 0

/-- The angular velocities within the limit. -/
def angularRange (k : SafetyConstraints ℝ) : Set ℝ := Set.Icc (-k.maxAngularRps) k.maxAngularRps

instance (k : SafetyConstraints ℝ) (d : Direction) : (linearRange k d).OrdConnected := by
  cases d <;> exact Set.ordConnected_Icc

instance (k : SafetyConstraints ℝ) : (angularRange k).OrdConnected := Set.ordConnected_Icc

/-- The locals of the loop, for a move in the direction `d` under the constraints `k`. -/
structure Locals.Limited (k : SafetyConstraints ℝ) (d : Direction) (l : Locals) : Prop where
  constraints : l.constraints = k
  isRotation : l.isRotation = d.isRotation
  rotating : d.isRotation = true → l.phase = .turning
  request : ∀ v ∈ Set.Icc 0 k.maxLinearMps, l.driveSign * v ∈ linearRange k d
  linear : l.prevLinearCmd ∈ linearRange k d
  angular : l.prevAngularCmd ∈ angularRange k

structure Handed.Limited (k : SafetyConstraints ℝ) (d : Direction) (h : Handed) : Prop where
  linear : h.twist.linearX ∈ linearRange k d
  angular : h.twist.angularZ ∈ angularRange k
  turning : h.phase = some .turning → h.twist.linearX = 0

def Next.Limited (k : SafetyConstraints ℝ) (d : Direction) : Next → Prop
  | .finish _ => True
  | .loop l => l.Limited k d

def MovePoint.Limited (k : SafetyConstraints ℝ) (d : Direction) : MovePoint → Prop
  | .creatingPublisher h next => h.Limited k d ∧ next.Limited k d
  | .publishing _ next => next.Limited k d
  | .sleeping l => l.Limited k d
  | .created | .ended _ => True

/-- The invariant of a call of `move`. -/
structure MoveCall.Limited (k : SafetyConstraints ℝ) (d : Direction) (m : MoveCall) : Prop where
  point : m.point.Limited k d
  handed : ∀ h ∈ m.handed, h.Limited k d

/-- What an iteration in the phase `phase` leads to. -/
def Iteration.Limited (k : SafetyConstraints ℝ) (d : Direction) (phase : Phase) : Iteration → Prop
  | .raised _ | .exit _ => True
  | .sleep l => l.Limited k d
  | .publish twist l => Handed.Limited k d ⟨twist, some phase⟩ ∧ l.Limited k d

section Loop

variable {p : CmdVelMotionPlugin} {k : SafetyConstraints ℝ} {d : Direction} {l : Locals}

private theorem zero_mem_linearRange (hk : 0 ≤ k.maxLinearMps) (d : Direction) : 0 ∈ linearRange k d := by
  cases d <;> simp [linearRange, hk]

private theorem zero_mem_angularRange (hk : 0 ≤ k.maxAngularRps) : 0 ∈ angularRange k := by
  simp [angularRange, hk]

/-- The zero twist is within every limit. -/
private theorem zero_limited (hlin : 0 ≤ k.maxLinearMps) (hang : 0 ≤ k.maxAngularRps) (phase : Option Phase) :
    Handed.Limited k d ⟨.zero, phase⟩ :=
  ⟨zero_mem_linearRange hlin d, zero_mem_angularRange hang, fun _ => rfl⟩

/-- A velocity that a direction may be given is within the limit. -/
theorem abs_le_of_linearRange (hk : 0 ≤ k.maxLinearMps) {v : ℝ} (h : v ∈ linearRange k d) : |v| ≤ k.maxLinearMps := by
  rw [abs_le]
  cases d with
  | forward | left | right => exact ⟨le_trans (neg_nonpos.2 hk) h.1, h.2⟩
  | backward => exact ⟨h.1, le_trans h.2 hk⟩
  | rotateLeft | rotateRight => exact ⟨le_trans (neg_nonpos.2 hk) h.1, le_trans h.2 hk⟩

private theorem angularCommand_mem (hl : l.Limited k d) (hang : 0 ≤ k.maxAngularRps) (error : ℝ) :
    angularCommand p l error ∈ angularRange k := by
  unfold angularCommand
  rw [hl.constraints]
  have hreq : clamp (p.kpAngular * error) (-k.maxAngularRps) k.maxAngularRps ∈ angularRange k :=
    clamp_mem _ (by linarith)
  exact clampDelta_mem _ hl.angular hreq

private theorem linearCommand_mem (hl : l.Limited k d) (hlin : 0 ≤ k.maxLinearMps) (remaining : ℝ) :
    linearCommand p l remaining ∈ linearRange k d := by
  unfold linearCommand
  rw [hl.constraints]
  have hspeed : clamp (p.kpLinear * remaining) 0 k.maxLinearMps ∈ Set.Icc 0 k.maxLinearMps := clamp_mem _ hlin
  exact clampDelta_mem _ hl.linear (hl.request _ hspeed)

private theorem Locals.Limited.seen (hl : l.Limited k d) (pose : Pose2D ℝ) : (l.seen pose).Limited k d := { hl with }

/-- An iteration publishes a twist within the limits and keeps the locals within them. -/
theorem Iterated.limited {o : Observation} {it : Iteration} (h : Iterated p l o it) (hl : l.Limited k d)
    (hlin : 0 ≤ k.maxLinearMps) (hang : 0 ≤ k.maxAngularRps) : it.Limited k d l.phase := by
  cases h with
  | cancelled | timedOut | unread | stale | reached | unscanned | obstacle => trivial
  | aligned pose ho hpose hrotation =>
    -- only a translation goes on to the driving phase
    rw [hl.isRotation] at hrotation
    exact { hl.seen pose with rotating := fun hd => absurd hd hrotation, angular := zero_mem_angularRange hang }
  | turned pose error =>
    have hcmd := angularCommand_mem (p := p) hl hang error
    have hzero := zero_mem_linearRange hlin d
    constructor
    · exact ⟨hzero, hcmd, fun _ => rfl⟩
    · exact { hl.seen pose with linear := hzero, angular := hcmd }
  | driven pose error remaining ho hpose hphase =>
    have hang' := angularCommand_mem (p := p) hl hang error
    have hlin' := linearCommand_mem (p := p) hl hlin remaining
    constructor
    · exact ⟨hlin', hang', by rw [hphase]; rintro ⟨⟩⟩
    · exact { hl.seen pose with linear := hlin', angular := hang' }

/-- The sign with which a direction drives. -/
def Direction.driveSign : Direction → ℝ
  | .forward | .left | .right => 1
  | .backward => -1
  | .rotateLeft | .rotateRight => 0

/-- A speed within the limit, with the sign of its direction. -/
private theorem driveSign_mul_mem {v : ℝ} (hv : v ∈ Set.Icc 0 k.maxLinearMps) (d : Direction) :
    d.driveSign * v ∈ linearRange k d := by
  obtain ⟨hpos, hmax⟩ := hv
  cases d with
  | forward | left | right =>
    rw [Direction.driveSign, one_mul]
    exact ⟨hpos, hmax⟩
  | backward =>
    rw [Direction.driveSign, neg_one_mul]
    exact ⟨neg_le_neg hmax, neg_nonpos.2 hpos⟩
  | rotateLeft | rotateRight =>
    rw [Direction.driveSign, zero_mul]
    exact ⟨le_refl _, le_refl _⟩

/-- The locals with which the loop starts, apart from those that depend on the pose. -/
theorem planMove_eq_ok {command : SemanticCommand ℝ} {target : MoveTarget ℝ} {startPose : Pose2D ℝ} {start : ℝ}
    (h : planMove command target k startPose start = .ok l) :
    l.constraints = k ∧ l.isRotation = target.direction.isRotation ∧
      (target.direction.isRotation = true → l.phase = .turning) ∧ l.driveSign = target.direction.driveSign ∧
      l.prevLinearCmd = 0 ∧ l.prevAngularCmd = 0 := by
  unfold planMove at h
  dsimp only at h
  split at h
  case h_7 => cases h
  all_goals
    next hdirection _ =>
    obtain rfl := Except.ok.inj h
    rw [hdirection]
    exact ⟨rfl, rfl, by simp [Direction.isRotation], rfl, rfl, rfl⟩

/-- The locals with which the loop starts are within the limits. -/
theorem planMove_limited {command : SemanticCommand ℝ} {target : MoveTarget ℝ} {startPose : Pose2D ℝ} {start : ℝ}
    (h : planMove command target k startPose start = .ok l) (hlin : 0 ≤ k.maxLinearMps)
    (hang : 0 ≤ k.maxAngularRps) : l.Limited k target.direction := by
  obtain ⟨hconstraints, hrotation, hturning, hsign, hlinear, hangular⟩ := planMove_eq_ok h
  constructor
  case constraints => exact hconstraints
  case isRotation => exact hrotation
  case rotating => exact hturning
  case request =>
    intro v hv
    rw [hsign]
    exact driveSign_mul_mem hv target.direction
  case linear =>
    rw [hlinear]
    exact zero_mem_linearRange hlin target.direction
  case angular =>
    rw [hangular]
    exact zero_mem_angularRange hang

end Loop

section Call

variable {p : CmdVelMotionPlugin} {command : SemanticCommand ℝ} {k : SafetyConstraints ℝ} {d : Direction}
  {m m' : MoveCall}

private theorem MoveCall.Limited.publishTwist (hm : m.Limited k d) (ready : Bool) {h : Handed} {next : Next}
    (hh : h.Limited k d) (hnext : next.Limited k d) : (m.publishTwist ready h next).Limited k d := by
  unfold MoveCall.publishTwist
  split
  · refine ⟨hnext, ?_⟩
    intro h' hmem
    rcases List.mem_append.1 hmem with hold | hnew
    · exact hm.handed h' hold
    · rw [List.mem_singleton.1 hnew]
      exact hh
  · exact ⟨⟨hh, hnext⟩, hm.handed⟩

private theorem MoveCall.Limited.iterate (hm : m.Limited k d) {l : Locals} (hl : l.Limited k d)
    (hlin : 0 ≤ k.maxLinearMps)
    (hang : 0 ≤ k.maxAngularRps) (o : Observation) (ready : Bool) : (m.iterate p l o ready).Limited k d := by
  have hit := (iterate_iterated p l o).limited hl hlin hang
  unfold MoveCall.iterate
  split
  · exact ⟨trivial, hm.handed⟩
  · exact hm.publishTwist ready (zero_limited hlin hang _) trivial
  · next l' he =>
    rw [he] at hit
    exact ⟨hit, hm.handed⟩
  · next twist l' he =>
    rw [he] at hit
    exact hm.publishTwist ready hit.1 hit.2

private theorem Started.limited {now : ℝ} {odometry : OdometryRead} {o : Observation} {ready : Bool}
    (h : Started p command m now odometry o ready m') (hm : m.Limited k d) {target : MoveTarget ℝ}
    (ht : command.target = .move target) (hk : command.safetyConstraints = some k) (hd : target.direction = d)
    (hlin : 0 ≤ k.maxLinearMps) (hang : 0 ≤ k.maxAngularRps) : m'.Limited k d := by
  cases h with
  | raised exc => exact ⟨trivial, hm.handed⟩
  | noOdometry => exact hm.publishTwist ready (zero_limited hlin hang _) trivial
  | planned target' k' startPose l ht' hk' hpose hplan =>
    obtain rfl : target' = target := Target.move.inj (ht'.symm.trans ht)
    obtain rfl : k' = k := Option.some.inj (hk'.symm.trans hk)
    subst hd
    exact hm.iterate (planMove_limited hplan hlin hang) hlin hang o ready

/-- Every step keeps the limits. -/
theorem MoveCall.Limited.step (hm : m.Limited k d) {target : MoveTarget ℝ} (ht : command.target = .move target)
    (hk : command.safetyConstraints = some k) (hd : target.direction = d) (hlin : 0 ≤ k.maxLinearMps)
    (hang : 0 ≤ k.maxAngularRps) {reply : MoveReply} (h : moveStep p command m reply = some m') : m'.Limited k d := by
  have hpoint := hm.point
  cases moveStep_transition h with
  | started now odometry o ready =>
    have hm' : MoveCall.Limited k d { m with startMonotonic := now } := ⟨hm.point, hm.handed⟩
    exact (m.start_started p command now odometry o ready).limited hm' ht hk hd hlin hang
  | publisherCreated h next hp =>
    rw [hp] at hpoint
    exact hm.publishTwist true hpoint.1 hpoint.2
  | looped h l now hp =>
    rw [hp] at hpoint
    exact ⟨hpoint, hm.handed⟩
  | iterated l o ready hp =>
    rw [hp] at hpoint
    exact hm.iterate hpoint hlin hang o ready
  | cancelled | creationFailed | publishFailed | finished | sleepFailed => exact ⟨trivial, hm.handed⟩

/-- Under an accepted configuration every twist of a call of `move` is within the velocity limits of the command, has
the sign of its direction, and drives neither in a rotation nor in a turning phase. -/
theorem velocity_bounds {safety : SafetyConfig ℝ} (hsafety : safety.Accepted) {target : MoveTarget ℝ}
    (ht : command.target = .move target)
    (hk : command.safetyConstraints = some (resolveSafetyConstraints safety)) {replies : List MoveReply}
    (h : StepSystem.run (moveStep p command) MoveCall.initial replies = some m) :
    ∀ h ∈ m.handed, |h.twist.linearX| ≤ safety.maxLinearMps ∧ |h.twist.angularZ| ≤ safety.maxAngularRps ∧
      (target.direction ∈ [.forward, .left, .right] → 0 ≤ h.twist.linearX) ∧
      (target.direction = .backward → h.twist.linearX ≤ 0) ∧
      (target.direction.isRotation = true ∨ h.phase = some .turning → h.twist.linearX = 0) := by
  have hlin : 0 ≤ (resolveSafetyConstraints safety).maxLinearMps := hsafety.maxLinearMps.le
  have hang : 0 ≤ (resolveSafetyConstraints safety).maxAngularRps := hsafety.maxAngularRps.le
  have hinit : MoveCall.Limited (resolveSafetyConstraints safety) target.direction MoveCall.initial :=
    ⟨trivial, by simp [MoveCall.initial]⟩
  have hm := StepSystem.run_invariant (fun _ _ _ hs ha => MoveCall.Limited.step hs ht hk rfl hlin hang ha) hinit h
  intro h' hmem
  obtain ⟨hl, ha, hturn⟩ := hm.handed h' hmem
  have hmax : (resolveSafetyConstraints safety).maxLinearMps = safety.maxLinearMps := rfl
  refine ⟨hmax ▸ abs_le_of_linearRange hlin hl, abs_le.2 ha, ?_, ?_, ?_⟩
  · intro hd
    simp only [List.mem_cons, List.not_mem_nil, or_false] at hd
    rcases hd with hd | hd | hd <;> rw [hd] at hl <;> exact hl.1
  · intro hd
    rw [hd] at hl
    exact hl.2
  · rintro (hrot | hphase)
    · cases hd : target.direction with
      | rotateLeft | rotateRight =>
        rw [hd] at hl
        exact le_antisymm hl.2 hl.1
      | forward | backward | left | right =>
        rw [hd] at hrot
        cases hrot
    · exact hturn hphase

end Call

/-! ### A move of one metre -/

/-- The controller with the defaults of its parameters and without a laser scanner. -/
noncomputable def samplePlugin : CmdVelMotionPlugin where
  robotId := "robot"
  laserScanTopic := false
  controlRateHz := (20 : ℚ)
  positionToleranceM := (0.05 : ℚ)
  angleToleranceRad := radians (2 : ℚ)
  kpLinear := 1
  kpAngular := (1.5 : ℚ)

/-- Fresh odometry of a robot at the origin. -/
def sampleOdometry : OdometryRead := .ok (some (⟨.ok ⟨0, 0, 0, 0, 0, 1⟩, 0⟩, true))

/-- Nothing speaks against driving on. -/
def sampleObservation : Observation := ⟨false, false, 0, sampleOdometry, .ok none⟩

/-- The first twist of the sample move: the acceleration limit times the tick period. -/
noncomputable def sampleTwist : Twist := ⟨1 / (20 : ℚ), 0⟩

/-- The pose at which the sample move starts. -/
noncomputable def samplePose : Pose2D ℝ := ⟨0, 0, quaternionToYaw ⟨0, 0, 0, 1⟩, "odom", 0⟩

/-- The locals with which the sample move gets to its loop. -/
noncomputable def sampleLocals : Locals where
  constraints := sampleConstraints ℝ
  isRotation := false
  headingTarget := samplePose.yaw
  driveSign := 1
  distanceTargetM := ((1 : ℤ) : ℝ)
  deadline := 0 + ((30 : ℤ) : ℝ)
  phase := .driving
  phaseStartPose := samplePose
  distanceTraveledTotal := 0
  lastPose := samplePose
  prevLinearCmd := 0
  prevAngularCmd := 0

private theorem sample_angularCommand : angularCommand samplePlugin sampleLocals 0 = 0 := by
  norm_num [angularCommand, clamp, clampDelta, samplePlugin, sampleLocals, sampleConstraints,
    CmdVelMotionPlugin.tickPeriodS]

theorem sample_linearCommand : linearCommand samplePlugin sampleLocals 1 = 1 / (20 : ℚ) := by
  norm_num [linearCommand, clamp, clampDelta, samplePlugin, sampleLocals, sampleConstraints,
    CmdVelMotionPlugin.tickPeriodS]

/-- The locals after the odometry of the first iteration. -/
noncomputable def sampleFresh : Locals :=
  { sampleLocals with
    distanceTraveledTotal := 0 + euclideanDistance samplePose.x samplePose.y samplePose.x samplePose.y }

/-- The locals after the first twist. -/
noncomputable def sampleDriving : Locals := { sampleFresh with prevLinearCmd := 1 / (20 : ℚ), prevAngularCmd := 0 }

/-- The first iteration of the sample move publishes its first twist. -/
theorem sample_iterate : iterate samplePlugin sampleLocals sampleObservation =
    .publish sampleTwist sampleDriving := by
  have hpose : currentPose sampleObservation.odometry = .ok (some samplePose, true) := rfl
  have hobstacle :
      obstacleAhead samplePlugin sampleObservation.scan (travelSector sampleFresh) ((0 : ℤ) : ℝ) = .ok none :=
    if_pos rfl
  have hremaining : sampleFresh.distanceTargetM -
      euclideanDistance sampleFresh.phaseStartPose.x sampleFresh.phaseStartPose.y samplePose.x samplePose.y = 1 := by
    simp [sampleFresh, sampleLocals, euclideanDistance]
  have hheading : angularDifference sampleFresh.headingTarget samplePose.yaw = 0 := angularDifference_self _
  have hdrive : drive samplePlugin sampleFresh samplePose =
      .publish sampleTwist sampleDriving := by
    have hang : angularCommand samplePlugin sampleFresh 0 = 0 := sample_angularCommand
    have hlin : linearCommand samplePlugin sampleFresh 1 = 1 / (20 : ℚ) := sample_linearCommand
    unfold drive
    rw [hremaining, hheading]
    dsimp only
    rw [if_neg (by norm_num [samplePlugin]), hang, hlin]
    rfl
  have hfresh : iterateFresh samplePlugin sampleLocals samplePose sampleObservation.scan =
      drive samplePlugin sampleFresh samplePose := iterateFresh_clear rfl hobstacle
  unfold iterate
  rw [if_neg (by simp [sampleObservation]), if_neg (by simp [sampleObservation, sampleLocals]), hpose]
  dsimp only
  rw [hfresh]
  exact hdrive

/-- The start of the sample move hands over its first twist. -/
theorem sampleMove_handed : moveStep samplePlugin ((sampleWiring ℝ).command 0) MoveCall.initial
    (.start 0 sampleOdometry sampleObservation true) =
      some ⟨.publishing ⟨sampleTwist, some .driving⟩
        (.loop sampleDriving), 0,
        [⟨sampleTwist, some .driving⟩]⟩ := by
  change some (MoveCall.iterate samplePlugin MoveCall.initial sampleLocals sampleObservation true) = _
  unfold MoveCall.iterate
  rw [sample_iterate]
  rfl

private theorem sampleSafety_accepted : (sampleSafety ℝ).Accepted := by
  constructor <;> norm_num [sampleSafety, sampleConstraints]

theorem velocity_bounds_sample : |sampleTwist.linearX| ≤ (sampleSafety ℝ).maxLinearMps ∧
    |sampleTwist.angularZ| ≤ (sampleSafety ℝ).maxAngularRps ∧ 0 ≤ sampleTwist.linearX := by
  have h : StepSystem.run (moveStep samplePlugin ((sampleWiring ℝ).command 0)) MoveCall.initial
      [.start 0 sampleOdometry sampleObservation true] =
        some ⟨.publishing ⟨sampleTwist, some .driving⟩ (.loop sampleDriving), 0, [⟨sampleTwist, some .driving⟩]⟩ :=
    StepSystem.run_cons.2 ⟨_, sampleMove_handed, rfl⟩
  obtain ⟨hlin, hang, hforward, -⟩ :=
    velocity_bounds sampleSafety_accepted rfl rfl h ⟨sampleTwist, some .driving⟩ List.mem_cons_self
  exact ⟨hlin, hang, hforward List.mem_cons_self⟩

end RosMcp
