import RosMcp.Motion.Odometer

/-!
# The acceleration of the published stream

A tick that steers publishes one twist, within the acceleration limits of the previous command that it remembers.  The
command that is remembered is the twist published last, except after the switch from turning to driving: this tick
publishes nothing, and forgets the angular command.  So the stream is as smooth as the limits say, in exact arithmetic,
exactly when no tick makes the switch (`acceleration_iff`).
-/

namespace RosMcp

/-- The twist that an iteration publishes and goes on from. -/
def Iteration.twist : Iteration → Option Twist
  | .publish twist _ => some twist
  | _ => none

/-- The twists that the ticks publish, without the last zero twist. -/
noncomputable def publishedTwists (p : CmdVelMotionPlugin) (ts : List Tick) : List Twist :=
  ts.filterMap fun t => (t.outcome p).twist

/-- The twist `b` may follow the twist `a` after one tick. -/
structure WithinAcceleration (p : CmdVelMotionPlugin) (k : SafetyConstraints ℝ) (a b : Twist) : Prop where
  linear : |b.linearX - a.linearX| ≤ k.maxLinearAccelerationMps2 * p.tickPeriodS
  angular : |b.angularZ - a.angularZ| ≤ k.maxAngularAccelerationRps2 * p.tickPeriodS

/-- Every tick that goes on publishes a twist, the call hands over these twists and at most a final zero, and they
follow each other within the acceleration limits, from standstill on. -/
structure Smooth (p : CmdVelMotionPlugin) (k : SafetyConstraints ℝ) (m : MoveCall) (ts : List Tick) : Prop where
  publishes : ∀ t ∈ ts, ∀ l, (t.outcome p).locals = some l → ∃ twist, t.outcome p = .publish twist l
  stream : ts ≠ [] → m.Stands → ∃ final, (final = [] ∨ final = [.zero]) ∧
    m.twists.map Handed.twist = publishedTwists p ts ++ final
  slew : (.zero :: publishedTwists p ts).IsChain (WithinAcceleration p k)

/-- The tick switches from turning to driving: a translation that turns has come within the tolerance of its
heading. -/
def Tick.Switches (p : CmdVelMotionPlugin) (t : Tick) : Prop :=
  ∃ pose, t.accepted = some pose ∧ t.locals.phase = .turning ∧ ¬ t.locals.isRotation = true ∧
    |t.locals.headingError pose| ≤ p.angleToleranceRad

/-- The previous commands as a twist. -/
def Locals.prevTwist (l : Locals) : Twist := ⟨l.prevLinearCmd, l.prevAngularCmd⟩

section Acceleration

variable {p : CmdVelMotionPlugin} {command : SemanticCommand ℝ} {k : SafetyConstraints ℝ} {m : MoveCall} {l : Locals}
  {t : Tick} {ts : List Tick}

/-! ### One tick -/

private theorem angularCommand_near (hl : l.constraints = k) (hk : 0 ≤ k.maxAngularAccelerationRps2 * p.tickPeriodS)
    (error : ℝ) : |angularCommand p l error - l.prevAngularCmd| ≤ k.maxAngularAccelerationRps2 * p.tickPeriodS := by
  unfold angularCommand
  rw [hl, abs_sub_le_iff]
  obtain ⟨hlo, hhi⟩ := clampDelta_mem_Icc (clamp (p.kpAngular * error) (-k.maxAngularRps) k.maxAngularRps)
    l.prevAngularCmd hk
  constructor <;> linarith

private theorem linearCommand_near (hl : l.constraints = k) (hk : 0 ≤ k.maxLinearAccelerationMps2 * p.tickPeriodS)
    (remaining : ℝ) :
    |linearCommand p l remaining - l.prevLinearCmd| ≤ k.maxLinearAccelerationMps2 * p.tickPeriodS := by
  unfold linearCommand
  rw [hl, abs_sub_le_iff]
  obtain ⟨hlo, hhi⟩ := clampDelta_mem_Icc (l.driveSign * clamp (p.kpLinear * remaining) 0 k.maxLinearMps)
    l.prevLinearCmd hk
  constructor <;> linarith

/-- The locals carry the limits, and a turn has no linear command. -/
structure Locals.Steady (k : SafetyConstraints ℝ) (l : Locals) : Prop where
  constraints : l.constraints = k
  turning : l.phase = .turning → l.prevLinearCmd = 0

private theorem planMove_steady {target : MoveTarget ℝ} {startPose : Pose2D ℝ} {start : ℝ}
    (h : planMove command target k startPose start = .ok l) : l.Steady k ∧ l.prevTwist = .zero := by
  obtain ⟨hconstraints, -, -, -, hlinear, hangular⟩ := planMove_eq_ok h
  refine ⟨⟨hconstraints, fun _ => hlinear⟩, ?_⟩
  unfold Locals.prevTwist Twist.zero
  rw [hlinear, hangular]

/-- A tick that goes on without switching publishes a twist that may follow the one it remembers, and remembers it. -/
private theorem Tick.published {l' : Locals} (hl : t.locals.Steady k)
    (hlinear : 0 ≤ k.maxLinearAccelerationMps2 * p.tickPeriodS)
    (hangular : 0 ≤ k.maxAngularAccelerationRps2 * p.tickPeriodS) (hswitch : ¬ t.Switches p)
    (h : (t.outcome p).locals = some l') :
    t.outcome p = .publish l'.prevTwist l' ∧ WithinAcceleration p k t.locals.prevTwist l'.prevTwist ∧
      l'.Steady k := by
  obtain ⟨pose, ha, hsteered⟩ := Tick.steered_of_locals h
  generalize t.outcome p = it at h hsteered
  cases hsteered with
  | rotated | unscanned | obstacle | arrived => cases h
  | aligned hphase herror hrotation => exact absurd ⟨pose, ha, hphase, hrotation, herror⟩ hswitch
  | turned hphase herror =>
    cases h
    refine ⟨rfl, ⟨?_, angularCommand_near hl.constraints hangular _⟩, hl.constraints, fun _ => rfl⟩
    have hzero : |(0 : ℝ) - t.locals.prevLinearCmd| = 0 := by rw [hl.turning hphase, sub_self, abs_zero]
    exact hzero.trans_le hlinear
  | driven hphase hscan hfar =>
    cases h
    refine ⟨rfl, ⟨linearCommand_near hl.constraints hlinear _, angularCommand_near hl.constraints hangular _⟩,
      hl.constraints, fun hturning => ?_⟩
    cases hphase.symm.trans hturning

/-- A tick that switches goes on without a twist. -/
private theorem Tick.Switches.sleeps (h : t.Switches p) : ∃ l, t.outcome p = .sleep l := by
  obtain ⟨pose, ha, hphase, hrotation, herror⟩ := h
  have hsteered := Tick.outcome_of_some (p := p) ha
  generalize t.outcome p = it at hsteered ⊢
  cases hsteered with
  | aligned => exact ⟨_, rfl⟩
  | rotated _ _ hrotation' => exact absurd hrotation' hrotation
  | turned _ herror' => exact absurd herror herror'
  | unscanned _ hphase' | obstacle _ hphase' | arrived hphase' | driven hphase' => cases hphase.symm.trans hphase'

private theorem Iteration.twist_eq_none {it : Iteration} (h : it.locals = none) : it.twist = none := by
  cases it with
  | publish twist l => cases h
  | raised exc | exit e | sleep l => rfl

/-! ### A run -/

/-- An iteration that does not leave the loop hands over the twist that it publishes. -/
private theorem Iteration.handed_twist {it : Iteration} (phase : Phase) (h : ∀ e, it ≠ .exit e) :
    (it.handed phase).map Handed.twist = it.twist := by
  cases it with
  | exit e => exact absurd rfl (h e)
  | raised exc | sleep l | publish twist l => rfl

/-- The twists of a call are those that its ticks publish, and the zero twist of its exit. -/
private theorem Looped.stream (hm : Looped p command m ts) (hne : ts ≠ []) (hstands : m.Stands) :
    ∃ final, (final = [] ∨ final = [.zero]) ∧ m.twists.map Handed.twist = publishedTwists p ts ++ final := by
  have hfirst : (ts.dropLast.filterMap (Tick.handed p)).map Handed.twist = publishedTwists p ts.dropLast := by
    rw [List.map_filterMap]
    refine List.filterMap_congr fun t ht => Iteration.handed_twist _ ?_
    intro e he
    obtain ⟨l, hl⟩ := hm.goes_on ht
    rw [he] at hl
    cases hl
  have hsplit : ts.dropLast ++ [ts.getLast hne] = ts := List.dropLast_concat_getLast hne
  generalize ts.getLast hne = last at hsplit
  have htwists : m.twists.map Handed.twist =
      publishedTwists p ts.dropLast ++ ([last].filterMap (Tick.handed p)).map Handed.twist := by
    rw [hm.twists hne hstands, ← hfirst, ← List.map_append, ← List.filterMap_append, hsplit]
  have hpublished : publishedTwists p ts = publishedTwists p ts.dropLast ++ publishedTwists p [last] := by
    unfold publishedTwists
    rw [← List.filterMap_append, hsplit]
  rw [htwists, hpublished]
  cases he : last.outcome p with
  | exit e => exact ⟨[.zero], .inr rfl, by simp [publishedTwists, Tick.handed, he, Iteration.handed, Iteration.twist]⟩
  | raised exc | sleep l | publish twist l =>
    exact ⟨[], .inl rfl, by simp [publishedTwists, Tick.handed, he, Iteration.handed, Iteration.twist]⟩

/-- The ticks from `t` on are smooth when none of them switches. -/
private theorem smooth_of_chain (hchain : (t :: ts).IsChain fun t t' => (t.outcome p).locals = some t'.locals)
    (ht : t.locals.Steady k) (hlinear : 0 ≤ k.maxLinearAccelerationMps2 * p.tickPeriodS)
    (hangular : 0 ≤ k.maxAngularAccelerationRps2 * p.tickPeriodS) (hswitch : ∀ t' ∈ t :: ts, ¬ t'.Switches p) :
    (∀ t' ∈ t :: ts, ∀ l, (t'.outcome p).locals = some l → ∃ twist, t'.outcome p = .publish twist l) ∧
      (t.locals.prevTwist :: publishedTwists p (t :: ts)).IsChain (WithinAcceleration p k) := by
  have hfirst : ∀ l, (t.outcome p).locals = some l → t.outcome p = .publish l.prevTwist l ∧
      WithinAcceleration p k t.locals.prevTwist l.prevTwist ∧ l.Steady k :=
    fun l => Tick.published ht hlinear hangular (hswitch t List.mem_cons_self)
  induction ts generalizing t with
  | nil =>
    cases hlocals : (t.outcome p).locals with
    | none =>
      have htwists : publishedTwists p [t] = [] := List.filterMap_cons_none (Iteration.twist_eq_none hlocals)
      rw [htwists]
      refine ⟨?_, List.isChain_singleton _⟩
      intro t' ht' l hl
      obtain rfl := List.mem_singleton.1 ht'
      cases hlocals.symm.trans hl
    | some l =>
      obtain ⟨hpublish, hwithin, -⟩ := hfirst l hlocals
      have htwists : publishedTwists p [t] = [l.prevTwist] := by simp [publishedTwists, hpublish, Iteration.twist]
      rw [htwists]
      refine ⟨?_, List.isChain_cons_cons.2 ⟨hwithin, List.isChain_singleton _⟩⟩
      intro t' ht' l' hl'
      obtain rfl := List.mem_singleton.1 ht'
      exact ⟨_, (hfirst l' hl').1⟩
  | cons u ts ih =>
    rw [List.isChain_cons_cons] at hchain
    obtain ⟨hpublish, hwithin, hsteady⟩ := hfirst u.locals hchain.1
    have htail : ∀ t' ∈ u :: ts, ¬ t'.Switches p := fun t' ht' => hswitch t' (List.mem_cons_of_mem t ht')
    have hnext : ∀ l, (u.outcome p).locals = some l → u.outcome p = .publish l.prevTwist l ∧
        WithinAcceleration p k u.locals.prevTwist l.prevTwist ∧ l.Steady k :=
      fun l => Tick.published hsteady hlinear hangular (htail u List.mem_cons_self)
    obtain ⟨hpublishes, hslew⟩ := ih hchain.2 hsteady htail hnext
    have htwists : publishedTwists p (t :: u :: ts) = u.locals.prevTwist :: publishedTwists p (u :: ts) := by
      simp [publishedTwists, hpublish, Iteration.twist]
    rw [htwists]
    refine ⟨?_, List.isChain_cons_cons.2 ⟨hwithin, hslew⟩⟩
    intro t' ht' l hl
    rcases List.mem_cons.1 ht' with rfl | hmem
    · exact ⟨_, (hfirst l hl).1⟩
    · exact hpublishes t' hmem l hl

/-- The stream is smooth exactly when no tick switches from turning to driving. -/
theorem acceleration_iff (hk : command.safetyConstraints = some k) (hlinear : 0 < k.maxLinearAccelerationMps2)
    (hangular : 0 < k.maxAngularAccelerationRps2) (hrate : 0 < p.controlRateHz) {replies : List MoveReply}
    (h : StepSystem.run (moveStep p command) .initial replies = some m) :
    Smooth p k m (ticks p command .initial replies) ↔ ∀ t ∈ ticks p command .initial replies, ¬ t.Switches p := by
  have hm := looped_run h
  generalize ticks p command .initial replies = ts at hm
  constructor
  · intro hsmooth t ht hswitch
    obtain ⟨l, hsleep⟩ := hswitch.sleeps
    obtain ⟨twist, hpublish⟩ := hsmooth.publishes t ht l (by rw [hsleep]; rfl)
    cases hsleep.symm.trans hpublish
  · intro hswitch
    have htick : 0 < p.tickPeriodS := one_div_pos.2 hrate
    have hstream := hm.stream
    cases ts with
    | nil => exact ⟨by simp, hstream, List.isChain_singleton _⟩
    | cons t ts =>
      obtain ⟨target, k', startPose, -, hk', hplan⟩ := hm.planned t rfl
      obtain rfl : k = k' := Option.some.inj (hk.symm.trans hk')
      obtain ⟨hsteady, hzero⟩ := planMove_steady hplan
      obtain ⟨hpublishes, hslew⟩ := smooth_of_chain hm.chain hsteady (mul_pos hlinear htick).le
        (mul_pos hangular htick).le hswitch
      rw [hzero] at hslew
      exact ⟨hpublishes, hstream, hslew⟩

end Acceleration

/-- The move that reaches its target speeds up by one step of the limit in each of its ticks. -/
theorem acceleration_sample : ∃ m,
    StepSystem.run (moveStep samplePlugin ((sampleWiring ℝ).command 0)) .initial arrivingReplies = some m ∧
      m.handed.map Handed.twist = [sampleTwist, halfwayTwist, .zero] ∧
      Smooth samplePlugin (sampleConstraints ℝ) m arrivingTicks := by
  obtain ⟨m, result, hrun, -, -, -, htwists, hticks⟩ := arriving_run
  refine ⟨m, hrun, htwists, ?_⟩
  rw [← hticks]
  refine (acceleration_iff rfl (by norm_num [sampleConstraints]) (by norm_num [sampleConstraints])
    (by norm_num [samplePlugin]) hrun).2 ?_
  rw [hticks]
  rintro t ht ⟨pose, -, hphase, -⟩
  simp only [arrivingTicks, List.mem_cons, List.not_mem_nil, or_false] at ht
  rcases ht with rfl | rfl | rfl <;> cases hphase

/-! ### A move to the left that overshoots its heading -/

open Real

/-- The sample move, to the left. -/
noncomputable def leftCommand : SemanticCommand ℝ :=
  { (sampleWiring ℝ).command 0 with target := .move ⟨.left, some ((1 : ℤ) : ℝ), none⟩ }

noncomputable def yawPose (yaw : ℝ) : Pose2D ℝ := ⟨0, 0, yaw, "odom", 0⟩

/-- Fresh odometry of a robot at the origin with the heading `yaw`. -/
noncomputable def yawOdometry (yaw : ℝ) : OdometryRead :=
  .ok (some (⟨.ok ⟨0, 0, 0, 0, (yawToQuaternion yaw).z, (yawToQuaternion yaw).w⟩, 0⟩, true))

noncomputable def yawObservation (yaw : ℝ) : Observation := { sampleObservation with odometry := yawOdometry yaw }

/-- The locals with which the move to the left gets to its loop. -/
noncomputable def leftLocals : Locals :=
  { sampleLocals with
    headingTarget := quarterTurn
    phase := .turning
    phaseStartPose := yawPose 0
    lastPose := yawPose 0 }

/-- The locals after the first twist, which turns to the left. -/
noncomputable def leftTurning : Locals :=
  { leftLocals.seen (yawPose 0) with prevLinearCmd := 0, prevAngularCmd := 1 / (20 : ℚ) }

/-- The locals after the switch to the driving phase. -/
noncomputable def leftAligned : Locals :=
  { leftTurning.seen (yawPose quarterTurn) with
    phase := .driving
    phaseStartPose := yawPose quarterTurn
    prevAngularCmd := 0 }

/-- The locals after the second twist, which turns back. -/
noncomputable def leftDriving : Locals :=
  { leftAligned.seen (yawPose π) with prevLinearCmd := 1 / (20 : ℚ), prevAngularCmd := -(1 / (20 : ℚ)) }

theorem currentPose_yawOdometry {yaw : ℝ} (h : yaw ∈ Set.Ioc (-π) π) :
    currentPose (yawOdometry yaw) = .ok (some (yawPose yaw), true) := by
  have hyaw := quaternionToYaw_yawToQuaternion h
  have hpose : currentPose (yawOdometry yaw) =
      .ok (some ⟨0, 0, quaternionToYaw (yawToQuaternion yaw), "odom", 0⟩, true) := rfl
  rw [hpose, hyaw]
  rfl

/-- An iteration in time that reads the heading `yaw`. -/
theorem iterate_yawObservation (p : CmdVelMotionPlugin) {l : Locals} {yaw : ℝ} (h : yaw ∈ Set.Ioc (-π) π)
    (hl : 0 < l.deadline) : iterate p l (yawObservation yaw) = iterateFresh p l (yawPose yaw) (.ok none) := by
  have hpose : currentPose (yawObservation yaw).odometry = .ok (some (yawPose yaw), true) := currentPose_yawOdometry h
  unfold iterate
  rw [if_neg (by simp [yawObservation, sampleObservation]),
    if_neg (by simp [yawObservation, sampleObservation, hl]), hpose]
  rfl

private theorem left_plan : planMove leftCommand ⟨.left, some ((1 : ℤ) : ℝ), none⟩ (sampleConstraints ℝ) (yawPose 0) 0 =
    .ok leftLocals := by
  have hπ := pi_pos
  have hquarter : quarterTurn = π / 2 := rfl
  have hheading : normalizeAngle ((yawPose 0).yaw + quarterTurn) = quarterTurn := by
    unfold yawPose
    rw [zero_add]
    exact normalizeAngle_of_mem (by linarith) (by linarith)
  unfold planMove
  dsimp only
  rw [hheading]
  rfl

/-- The angular command of the samples, for an error of at least one radian. -/
private theorem sample_turn {l : Locals} (hl : l.constraints = sampleConstraints ℝ) (hprev : l.prevAngularCmd = 0)
    {error : ℝ}
    (herror : 1 ≤ error) :
    angularCommand samplePlugin l error = 1 / (20 : ℚ) ∧ angularCommand samplePlugin l (-error) = -(1 / (20 : ℚ)) := by
  have hleft : clamp (3 / 2 * error) (-1 : ℝ) 1 = 1 := by
    unfold clamp
    rw [min_eq_left (by linarith), max_eq_right (by norm_num)]
  have hright : clamp (3 / 2 * -error) (-1 : ℝ) 1 = -1 := by
    unfold clamp
    rw [min_eq_right (by linarith), max_eq_left (by linarith)]
  have hgain : samplePlugin.kpAngular = 3 / 2 := by norm_num [samplePlugin]
  have htick : samplePlugin.tickPeriodS = 1 / 20 := by norm_num [samplePlugin, CmdVelMotionPlugin.tickPeriodS]
  have hlimit : (sampleConstraints ℝ).maxAngularRps = 1 := by norm_num [sampleConstraints]
  have haccel : (sampleConstraints ℝ).maxAngularAccelerationRps2 = 1 := by norm_num [sampleConstraints]
  unfold angularCommand
  rw [hl, hprev, hgain, htick, hlimit, haccel, hleft, hright]
  constructor <;> norm_num [clampDelta]

private theorem left_turns : iterate samplePlugin leftLocals (yawObservation 0) = .publish
    ⟨0, 1 / (20 : ℚ)⟩ leftTurning := by
  have hπ := two_le_pi
  have hquarter : quarterTurn = π / 2 := rfl
  have herror : angularDifference (leftLocals.seen (yawPose 0)).headingTarget (yawPose 0).yaw = quarterTurn := by
    show normalizeAngle (quarterTurn - 0) = quarterTurn
    rw [sub_zero]
    exact normalizeAngle_of_mem (by linarith) (by linarith)
  have hcommand : angularCommand samplePlugin (leftLocals.seen (yawPose 0)) quarterTurn = 1 / (20 : ℚ) :=
    (sample_turn rfl rfl (by linarith)).1
  have hfar : ¬ |quarterTurn| ≤ samplePlugin.angleToleranceRad := by
    rw [abs_of_pos (by linarith), not_le]
    norm_num [samplePlugin, radians]
    linarith
  rw [iterate_yawObservation samplePlugin ⟨by linarith, by linarith⟩ (by norm_num [leftLocals, sampleLocals])]
  show turn samplePlugin (leftLocals.seen (yawPose 0)) (yawPose 0) = _
  unfold turn
  dsimp only
  rw [herror, if_neg hfar, hcommand]
  rfl

private theorem left_switches : iterate samplePlugin leftTurning (yawObservation quarterTurn) = .sleep leftAligned := by
  have hπ := two_le_pi
  have hquarter : quarterTurn = π / 2 := rfl
  have herror :
      angularDifference (leftTurning.seen (yawPose quarterTurn)).headingTarget (yawPose quarterTurn).yaw = 0 :=
    angularDifference_self quarterTurn
  have hnear : |(0 : ℝ)| ≤ samplePlugin.angleToleranceRad := by
    rw [abs_zero]
    norm_num [samplePlugin, radians]
    positivity
  rw [iterate_yawObservation samplePlugin ⟨by linarith, by linarith⟩
    (by norm_num [leftTurning, Locals.seen, leftLocals, sampleLocals])]
  show turn samplePlugin (leftTurning.seen (yawPose quarterTurn)) (yawPose quarterTurn) = _
  unfold turn
  dsimp only
  rw [herror, if_pos hnear]
  rfl

private theorem left_turns_back : iterate samplePlugin leftAligned (yawObservation π) =
    .publish ⟨1 / (20 : ℚ), -(1 / (20 : ℚ))⟩ leftDriving := by
  have hπ := two_le_pi
  have hquarter : quarterTurn = π / 2 := rfl
  have herror : angularDifference (leftAligned.seen (yawPose π)).headingTarget (yawPose π).yaw = -quarterTurn := by
    show normalizeAngle (quarterTurn - π) = -quarterTurn
    rw [show quarterTurn - π = -quarterTurn by linarith]
    exact normalizeAngle_of_mem (by linarith) (by linarith)
  have hangular : angularCommand samplePlugin (leftAligned.seen (yawPose π)) (-quarterTurn) = -(1 / (20 : ℚ)) :=
    (sample_turn rfl rfl (by linarith)).2
  have hremaining : (leftAligned.seen (yawPose π)).distanceTargetM -
      euclideanDistance (leftAligned.seen (yawPose π)).phaseStartPose.x
        (leftAligned.seen (yawPose π)).phaseStartPose.y (yawPose π).x (yawPose π).y = 1 := by
    simp [leftAligned, leftTurning, leftLocals, Locals.seen, sampleLocals, yawPose, euclideanDistance]
  have hlinear : linearCommand samplePlugin (leftAligned.seen (yawPose π)) 1 = 1 / (20 : ℚ) := sample_linearCommand
  have hclear : obstacleAhead samplePlugin (.ok none) (travelSector leftAligned)
      leftAligned.constraints.obstacleStopDistanceM = .ok none := if_pos rfl
  rw [iterate_yawObservation samplePlugin ⟨by linarith, le_refl _⟩
    (by norm_num [leftAligned, leftTurning, Locals.seen, leftLocals, sampleLocals])]
  rw [iterateFresh_clear rfl hclear]
  show drive samplePlugin (leftAligned.seen (yawPose π)) (yawPose π) = _
  unfold drive
  dsimp only
  rw [hremaining, if_neg (by norm_num [samplePlugin]), herror, hangular, hlinear]
  rfl

private theorem leftCommand_start : moveStep samplePlugin leftCommand .initial
      (.start 0 (yawOdometry 0) (yawObservation 0) true) =
        some (MoveCall.iterate samplePlugin .initial leftLocals (yawObservation 0) true) ∧
    MoveCall.initial.tick leftCommand (.start 0 (yawOdometry 0) (yawObservation 0) true) =
      some ⟨leftLocals, yawObservation 0⟩ :=
  have hπ := two_le_pi
  have hquarter : quarterTurn = π / 2 := rfl
  moveStep_start rfl rfl (currentPose_yawOdometry ⟨by linarith, by linarith⟩) left_plan (yawObservation 0) true

/-- The observations of the move to the left. -/
noncomputable def leftReplies : List MoveReply :=
  [.start 0 (yawOdometry 0) (yawObservation 0) true, .published (.ok ()) 0,
    .slept (.ok (yawObservation quarterTurn)) true, .slept (.ok (yawObservation π)) true]

/-- The switch to the driving phase publishes nothing, and the next twist jumps by twice the limit. -/
theorem acceleration_jump : ∃ m, StepSystem.run (moveStep samplePlugin leftCommand) .initial leftReplies = some m ∧
    m.handed.map Handed.twist = [⟨0, 1 / (20 : ℚ)⟩, ⟨1 / (20 : ℚ), -(1 / (20 : ℚ))⟩] ∧
    (∃ t ∈ ticks samplePlugin leftCommand .initial leftReplies, ∃ l, t.outcome samplePlugin = .sleep l) ∧
    ¬ WithinAcceleration samplePlugin (sampleConstraints ℝ) ⟨0, 1 / (20 : ℚ)⟩ ⟨1 / (20 : ℚ), -(1 / (20 : ℚ))⟩ := by
  have hturns : MoveCall.iterate samplePlugin .initial leftLocals (yawObservation 0) true =
      ⟨.publishing ⟨⟨0, 1 / (20 : ℚ)⟩, some .turning⟩ (.loop leftTurning), 0,
        [⟨⟨0, 1 / (20 : ℚ)⟩, some .turning⟩]⟩ := by
    unfold MoveCall.iterate
    rw [left_turns]
    rfl
  obtain ⟨hstart, htick⟩ := leftCommand_start
  rw [hturns] at hstart
  have hpublished : moveStep samplePlugin leftCommand
      ⟨.publishing ⟨⟨0, 1 / (20 : ℚ)⟩, some .turning⟩ (.loop leftTurning), 0, [⟨⟨0, 1 / (20 : ℚ)⟩, some .turning⟩]⟩
      (.published (.ok ()) 0) =
        some ⟨.sleeping leftTurning, 0, [⟨⟨0, 1 / (20 : ℚ)⟩, some .turning⟩]⟩ := rfl
  have hswitches : moveStep samplePlugin leftCommand
      ⟨.sleeping leftTurning, 0, [⟨⟨0, 1 / (20 : ℚ)⟩, some .turning⟩]⟩
      (.slept (.ok (yawObservation quarterTurn)) true) =
        some ⟨.sleeping leftAligned, 0, [⟨⟨0, 1 / (20 : ℚ)⟩, some .turning⟩]⟩ := by
    show some (MoveCall.iterate _ _ _ _ _) = _
    unfold MoveCall.iterate
    rw [left_switches]
  have hback : moveStep samplePlugin leftCommand
      ⟨.sleeping leftAligned, 0, [⟨⟨0, 1 / (20 : ℚ)⟩, some .turning⟩]⟩ (.slept (.ok (yawObservation π)) true) =
        some ⟨.publishing ⟨⟨1 / (20 : ℚ), -(1 / (20 : ℚ))⟩, some .driving⟩ (.loop leftDriving), 0,
          [⟨⟨0, 1 / (20 : ℚ)⟩, some .turning⟩, ⟨⟨1 / (20 : ℚ), -(1 / (20 : ℚ))⟩, some .driving⟩]⟩ := by
    show some (MoveCall.iterate _ _ _ _ _) = _
    unfold MoveCall.iterate
    rw [left_turns_back]
    rfl
  refine ⟨_, StepSystem.run_cons.2 ⟨_, hstart, StepSystem.run_cons.2 ⟨_, hpublished, StepSystem.run_cons.2
    ⟨_, hswitches, StepSystem.run_cons.2 ⟨_, hback, rfl⟩⟩⟩⟩, rfl,
    ⟨⟨leftTurning, yawObservation quarterTurn⟩, ?_, _, left_switches⟩, ?_⟩
  · unfold ticks leftReplies
    rw [StepSystem.outputs_cons hstart, StepSystem.outputs_cons hpublished, StepSystem.outputs_cons hswitches]
    simp [MoveCall.tick]
  · rintro ⟨-, hangular⟩
    norm_num [samplePlugin, sampleConstraints, CmdVelMotionPlugin.tickPeriodS] at hangular

end RosMcp
