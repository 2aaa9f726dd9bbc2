import RosMcp.Motion.Acceleration

/-!
# The angle of a rotation

A rotation keeps its target as a wrapped heading and its error as the shortest way to it, so it ends within the
tolerance of the requested angle only up to full turns (`rotation_ends`).  The full turns that are lost are those that
wrapping takes off the requested angle, one from half a turn on, and those of the error, which changes its side when the
robot crosses the heading opposite to the target; the robot has turned as requested exactly when these cancel
(`rotation_iff`).  A robot that turns towards its target never crosses it, so it turns as requested exactly when the
request is in `(-π, π]` (`rotation_towards`).
-/

namespace RosMcp

open Real

/-- The angle that a rotation is asked to turn by, counter-clockwise. -/
noncomputable def MoveTarget.rotationRad (target : MoveTarget ℝ) : Option ℝ :=
  match target.direction, target.angleDeg with
  | .rotateLeft, some angleDeg => some (1 * radians angleDeg)
  | .rotateRight, some angleDeg => some (-1 * radians angleDeg)
  | _, _ => none

/-- The sum of the increments of the heading, from `yaw` through `yaws`. -/
noncomputable def turned : ℝ → List ℝ → ℝ
  | _, [] => 0
  | yaw, next :: yaws => angularDifference next yaw + turned next yaws

/-- The full turns that the error `error` loses on the way from `yaw` through `yaws`: an increment that takes it across
half a turn takes it to the other side. -/
noncomputable def wraps : ℝ → ℝ → List ℝ → ℤ
  | _, _, [] => 0
  | error, yaw, next :: yaws =>
    fullTurns (error - angularDifference next yaw) +
      wraps (normalizeAngle (error - angularDifference next yaw)) next yaws

/-- Every increment goes towards the target, and at most up to it. -/
def TurnsTowards : ℝ → ℝ → List ℝ → Prop
  | _, _, [] => True
  | error, yaw, next :: yaws =>
    angularDifference next yaw ∈ Set.uIcc 0 error ∧ TurnsTowards (error - angularDifference next yaw) next yaws

/-! ### Sums of increments -/

section Increments

variable {error yaw : ℝ} {yaws : List ℝ}

/-- The sum of the increments is the whole way, up to full turns. -/
theorem turned_eq (yaw : ℝ) (yaws : List ℝ) :
    ∃ n : ℤ, turned yaw yaws = yaws.getLastD yaw - yaw + n * (2 * π) := by
  induction yaws generalizing yaw with
  | nil => exact ⟨0, by simp [turned]⟩
  | cons next yaws ih =>
    obtain ⟨n, hn⟩ := ih next
    refine ⟨n - fullTurns (next - yaw), ?_⟩
    have hincrement : angularDifference next yaw = next - yaw - fullTurns (next - yaw) * (2 * π) :=
      normalizeAngle_eq_sub (next - yaw)
    rw [turned, hn, hincrement, List.getLastD_cons]
    push_cast
    ring

/-- The full turns between the requested and the real way are those that wrapping loses on the way. -/
private theorem fullTurns_sub_turned (error yaw : ℝ) (yaws : List ℝ) :
    fullTurns (error - turned yaw yaws) = fullTurns error + wraps (normalizeAngle error) yaw yaws := by
  induction yaws generalizing error yaw with
  | nil => simp [turned, wraps]
  | cons next yaws ih =>
    have hrest := ih (normalizeAngle error - angularDifference next yaw) next
    have hsplit : error - turned yaw (next :: yaws) =
        normalizeAngle error - angularDifference next yaw - turned next yaws + fullTurns error * (2 * π) := by
      rw [turned, normalizeAngle_eq_sub error]
      ring
    rw [hsplit, fullTurns_add_turns, hrest, wraps, add_comm]

/-- An error that shrinks stays on its side. -/
private theorem wraps_of_turnsTowards (herror : error ∈ Set.Ioc (-π) π) (h : TurnsTowards error yaw yaws) :
    wraps error yaw yaws = 0 := by
  have hπ := pi_pos
  induction yaws generalizing error yaw with
  | nil => rfl
  | cons next yaws ih =>
    obtain ⟨hincrement, hrest⟩ := h
    have hmem : error - angularDifference next yaw ∈ Set.Ioc (-π) π := by
      rcases Set.mem_uIcc.1 hincrement with ⟨hlo, hhi⟩ | ⟨hlo, hhi⟩
      · exact ⟨by linarith, by linarith [herror.2]⟩
      · exact ⟨by linarith [herror.1], by linarith⟩
    rw [wraps, fullTurns_eq_zero_iff.2 hmem, normalizeAngle_of_mem hmem.1 hmem.2, ih hmem hrest, add_zero]

/-- An angle that is near zero up to full turns is near zero exactly when there are none. -/
private theorem abs_le_iff_fullTurns {a tol : ℝ} (h : |normalizeAngle a| ≤ tol) :
    (fullTurns a = 0 → |a| ≤ tol) ∧ (tol < π → |a| ≤ tol → fullTurns a = 0) := by
  constructor
  · intro hzero
    obtain ⟨hlo, hhi⟩ := fullTurns_eq_zero_iff.1 hzero
    rwa [normalizeAngle_of_mem hlo hhi] at h
  · intro htol hle
    obtain ⟨hlo, hhi⟩ := abs_le.1 hle
    exact fullTurns_eq_zero_iff.2 ⟨by linarith, by linarith⟩

end Increments

/-! ### A run -/

/-- The rotation has turned by the angle `requested`, up to the tolerance. -/
def TurnedAsRequested (p : CmdVelMotionPlugin) (requested yaw : ℝ) (yaws : List ℝ) : Prop :=
  |turned yaw yaws - requested| ≤ p.angleToleranceRad

/-- The full turns that wrapping takes off the request and off the error on the way cancel. -/
def Unwrapped (requested yaw : ℝ) (yaws : List ℝ) : Prop :=
  fullTurns requested + wraps (normalizeAngle requested) yaw yaws = 0

section Rotation

variable {p : CmdVelMotionPlugin} {command : SemanticCommand ℝ} {m : MoveCall} {l : Locals} {ts : List Tick}

/-- The locals of a rotation, which never leaves the turning phase. -/
structure Locals.Rotates (headingTarget : ℝ) (l : Locals) : Prop where
  isRotation : l.isRotation = true
  phase : l.phase = .turning
  headingTarget : l.headingTarget = headingTarget

theorem planMove_rotates {target : MoveTarget ℝ} {k : SafetyConstraints ℝ} {startPose : Pose2D ℝ} {start requested : ℝ}
    (hr : target.rotationRad = some requested) (h : planMove command target k startPose start = .ok l) :
    l.Rotates (normalizeAngle (startPose.yaw + requested)) := by
  unfold MoveTarget.rotationRad at hr
  unfold planMove at h
  split at hr
  · next hdirection hangle =>
    rw [hdirection, hangle] at h
    obtain rfl := Option.some.inj hr
    obtain rfl := Except.ok.inj h
    exact ⟨rfl, rfl, rfl⟩
  · next hdirection hangle =>
    rw [hdirection, hangle] at h
    obtain rfl := Option.some.inj hr
    obtain rfl := Except.ok.inj h
    exact ⟨rfl, rfl, rfl⟩
  · cases hr

/-- A tick of a rotation that goes on has turned. -/
private theorem Locals.Rotates.tick {headingTarget : ℝ} {t : Tick} (ht : t.locals.Rotates headingTarget)
    (h : (t.outcome p).locals = some l) : l.Rotates headingTarget := by
  obtain ⟨pose, -, hsteered⟩ := Tick.steered_of_locals h
  generalize t.outcome p = it at h hsteered
  cases hsteered with
  | rotated | unscanned | obstacle | arrived => cases h
  | aligned hphase herror hrotation => exact absurd ht.isRotation hrotation
  | turned =>
    cases h
    exact ⟨ht.isRotation, ht.phase, ht.headingTarget⟩
  | driven hphase => cases ht.phase.symm.trans hphase

/-- A rotation that succeeds ends at a pose within the tolerance of its heading. -/
private theorem Locals.Rotates.reached {headingTarget : ℝ} {t : Tick} (ht : t.locals.Rotates headingTarget) {e : Exit}
    (he : t.outcome p = .exit e) (hstatus : e.status = .succeeded) :
    ∃ pose, t.accepted = some pose ∧ |angularDifference headingTarget pose.yaw| ≤ p.angleToleranceRad := by
  obtain ⟨pose, ha, hsteered⟩ := Tick.steered_of_succeeded he hstatus
  refine ⟨pose, ha, ?_⟩
  cases hsteered with
  | rotated hphase herror =>
    rw [← ht.headingTarget]
    exact herror
  | obstacle => cases hstatus
  | arrived hphase => cases ht.phase.symm.trans hphase

/-- The poses that the ticks accept end with the one of the last tick. -/
private theorem acceptedPoses_getLastD {t : Tick} {pose default : Pose2D ℝ} (hlast : ts.getLast? = some t)
    (ha : t.accepted = some pose) : (acceptedPoses ts).getLastD default = pose := by
  have hsplit : ts.dropLast ++ [t] = ts := List.dropLast_append_getLast? t hlast
  have hposes : acceptedPoses ts = acceptedPoses ts.dropLast ++ [pose] := by
    unfold acceptedPoses
    rw [← hsplit, List.filterMap_append, hsplit]
    simp [ha]
  rw [hposes, List.getLastD_concat]

variable {target : MoveTarget ℝ} {requested now : ℝ} {odometry : OdometryRead} {o : Observation} {ready : Bool}
  {rest : List MoveReply} {startPose : Pose2D ℝ} {result : ToolResult ℝ}

/-- The headings that a call reads. -/
noncomputable def yawsOf (p : CmdVelMotionPlugin) (command : SemanticCommand ℝ) (replies : List MoveReply) : List ℝ :=
  (acceptedPoses (ticks p command .initial replies)).map Pose2D.yaw

/-- A rotation that succeeds has turned by the requested angle, up to full turns. -/
private theorem rotation_ends (ht : command.target = .move target) (hr : target.rotationRad = some requested)
    (h : StepSystem.run (moveStep p command) .initial (.start now odometry o ready :: rest) = some m)
    (hpose : currentPose odometry = .ok (some startPose, true)) (hp : m.point = .ended (.returned result))
    (hstatus : result.status = .succeeded) :
    |normalizeAngle (requested - turned startPose.yaw (yawsOf p command (.start now odometry o ready :: rest)))| ≤
      p.angleToleranceRad := by
  obtain ⟨target', k, l, ts, ht', hk, hplan, hts⟩ := ticks_start h hpose (m.stands_of_returned hp)
  obtain rfl : target' = target := Target.move.inj (ht'.symm.trans ht)
  have hm := looped_run h
  unfold yawsOf
  rw [hts] at hm ⊢
  obtain ⟨last, e, elapsed, hlast, he, rfl⟩ := hm.last_exit (List.cons_ne_nil _ _) hp
  -- every tick turns towards the wrapped heading
  have hrotates : ∀ t ∈ (⟨l, o⟩ :: ts : List Tick),
      t.locals.Rotates (normalizeAngle (startPose.yaw + requested)) :=
    chain_invariant (fun t l' ht' hlocals => ht'.tick hlocals) hm.chain (planMove_rotates hr hplan)
  obtain ⟨pose, ha, herror⟩ := (hrotates last (List.mem_of_getLast? hlast)).reached he hstatus
  obtain ⟨n, hn⟩ := turned_eq startPose.yaw ((acceptedPoses (⟨l, o⟩ :: ts)).map Pose2D.yaw)
  rw [List.getLastD_map, acceptedPoses_getLastD hlast ha] at hn
  have hsame : normalizeAngle (startPose.yaw + requested) - pose.yaw =
      requested - turned startPose.yaw ((acceptedPoses (⟨l, o⟩ :: ts)).map Pose2D.yaw) +
        ((n - fullTurns (startPose.yaw + requested) : ℤ) : ℝ) * (2 * π) := by
    rw [hn, normalizeAngle_eq_sub]
    push_cast
    ring
  unfold angularDifference at herror
  rwa [hsame, normalizeAngle_add_turns] at herror

/-- A rotation that succeeds has turned by the requested angle exactly when the full turns that wrapping loses
cancel. -/
theorem rotation_iff (ht : command.target = .move target) (hr : target.rotationRad = some requested)
    (h : StepSystem.run (moveStep p command) .initial (.start now odometry o ready :: rest) = some m)
    (hpose : currentPose odometry = .ok (some startPose, true)) (hp : m.point = .ended (.returned result))
    (hstatus : result.status = .succeeded) :
    (p.angleToleranceRad < π →
      (TurnedAsRequested p requested startPose.yaw (yawsOf p command (.start now odometry o ready :: rest)) ↔
        Unwrapped requested startPose.yaw (yawsOf p command (.start now odometry o ready :: rest)))) ∧
    (Unwrapped requested startPose.yaw (yawsOf p command (.start now odometry o ready :: rest)) →
      TurnedAsRequested p requested startPose.yaw (yawsOf p command (.start now odometry o ready :: rest))) := by
  have hends := rotation_ends ht hr h hpose hp hstatus
  unfold TurnedAsRequested Unwrapped
  rw [← fullTurns_sub_turned, abs_sub_comm]
  obtain ⟨hsufficient, hnecessary⟩ := abs_le_iff_fullTurns hends
  exact ⟨fun htol => ⟨hnecessary htol, hsufficient⟩, hsufficient⟩

/-- A rotation that turns towards its target has turned by the requested angle exactly when wrapping leaves this
alone. -/
theorem rotation_towards (ht : command.target = .move target) (hr : target.rotationRad = some requested)
    (h : StepSystem.run (moveStep p command) .initial (.start now odometry o ready :: rest) = some m)
    (hpose : currentPose odometry = .ok (some startPose, true)) (hp : m.point = .ended (.returned result))
    (hstatus : result.status = .succeeded) (htol : p.angleToleranceRad < π)
    (htowards : TurnsTowards (normalizeAngle requested) startPose.yaw
      (yawsOf p command (.start now odometry o ready :: rest))) :
    TurnedAsRequested p requested startPose.yaw (yawsOf p command (.start now odometry o ready :: rest)) ↔
      requested ∈ Set.Ioc (-π) π := by
  have hends := abs_le_iff_fullTurns (rotation_ends ht hr h hpose hp hstatus)
  have hwraps := wraps_of_turnsTowards (normalizeAngle_mem requested) htowards
  unfold TurnedAsRequested
  rw [fullTurns_sub_turned, hwraps, add_zero, fullTurns_eq_zero_iff, abs_sub_comm] at hends
  exact ⟨hends.2 htol, hends.1⟩

end Rotation

/-! ### A rotation that ends in its first tick -/

/-- The sample move, as a rotation to the left. -/
noncomputable def rotateCommand (angleDeg : ℝ) : SemanticCommand ℝ :=
  { (sampleWiring ℝ).command 0 with target := .move ⟨.rotateLeft, none, some angleDeg⟩ }

/-- The locals with which the rotation gets to its loop. -/
noncomputable def rotateLocals (headingTarget : ℝ) : Locals :=
  { sampleLocals with
    isRotation := true
    headingTarget := headingTarget
    driveSign := 0
    distanceTargetM := 0
    phase := .turning
    phaseStartPose := yawPose 0
    lastPose := yawPose 0 }

/-- The replies to a rotation whose robot has the heading `yaw` in the first tick. -/
noncomputable def rotateReplies (yaw : ℝ) : List MoveReply :=
  [.start 0 (yawOdometry 0) (yawObservation yaw) true, .published (.ok ()) 0]

theorem zero_mem_turn : (0 : ℝ) ∈ Set.Ioc (-π) π := ⟨by linarith [pi_pos], pi_pos.le⟩

private theorem rotate_reaches {angleDeg yaw : ℝ} (hyaw : yaw ∈ Set.Ioc (-π) π)
    (hangle : normalizeAngle (1 * radians angleDeg) = yaw) :
    ∃ m result, StepSystem.run (moveStep samplePlugin (rotateCommand angleDeg)) .initial (rotateReplies yaw) = some m ∧
      m.point = .ended (.returned result) ∧ result.status = .succeeded ∧
      yawsOf samplePlugin (rotateCommand angleDeg) (rotateReplies yaw) = [yaw] := by
  have hπ := pi_pos
  have hpose := currentPose_yawOdometry zero_mem_turn
  have hplan : planMove (rotateCommand angleDeg) ⟨.rotateLeft, none, some angleDeg⟩ (sampleConstraints ℝ)
      (yawPose 0) 0 = .ok (rotateLocals yaw) := by
    have hheading : normalizeAngle ((yawPose 0).yaw + 1 * radians angleDeg) = yaw := by
      unfold yawPose
      rwa [zero_add]
    unfold planMove
    dsimp only
    rw [hheading]
    rfl
  have htarget : (rotateCommand angleDeg).target = .move ⟨.rotateLeft, none, some angleDeg⟩ := rfl
  obtain ⟨hstart, htick⟩ := moveStep_start (p := samplePlugin) htarget rfl hpose hplan (yawObservation yaw) true
  have hreached : iterate samplePlugin (rotateLocals yaw) (yawObservation yaw) =
      .exit (.reached ((rotateLocals yaw).seen (yawPose yaw))) := by
    have herror : angularDifference ((rotateLocals yaw).seen (yawPose yaw)).headingTarget (yawPose yaw).yaw = 0 :=
      angularDifference_self yaw
    have hnear : |(0 : ℝ)| ≤ samplePlugin.angleToleranceRad := by
      rw [abs_zero]
      norm_num [samplePlugin, radians]
      positivity
    rw [iterate_yawObservation samplePlugin hyaw (by norm_num [rotateLocals, sampleLocals])]
    show turn samplePlugin ((rotateLocals yaw).seen (yawPose yaw)) (yawPose yaw) = _
    unfold turn
    dsimp only
    rw [herror, if_pos hnear]
    rfl
  have hexit : MoveCall.iterate samplePlugin .initial (rotateLocals yaw) (yawObservation yaw) true =
      ⟨.publishing ⟨.zero, some .turning⟩ (.finish (.reached ((rotateLocals yaw).seen (yawPose yaw)))), 0,
        [⟨.zero, some .turning⟩]⟩ := by
    unfold MoveCall.iterate
    rw [hreached]
    rfl
  rw [show { MoveCall.initial with startMonotonic := 0 } = MoveCall.initial from rfl, hexit] at hstart
  refine ⟨_, _, StepSystem.run_cons.2 ⟨_, hstart, StepSystem.run_cons.2 ⟨_, rfl, rfl⟩⟩, rfl, rfl, ?_⟩
  have haccepted : Tick.accepted ⟨rotateLocals yaw, yawObservation yaw⟩ = some (yawPose yaw) := by
    have hread : currentPose (yawObservation yaw).odometry = .ok (some (yawPose yaw), true) :=
      currentPose_yawOdometry hyaw
    unfold Tick.accepted
    rw [if_neg (by norm_num [yawObservation, sampleObservation, rotateLocals, sampleLocals]), hread]
  have hticks : ticks samplePlugin (rotateCommand angleDeg) .initial (rotateReplies yaw) =
      [⟨rotateLocals yaw, yawObservation yaw⟩] := by
    unfold ticks rotateReplies
    rw [StepSystem.outputs_cons hstart, StepSystem.outputs_cons rfl, htick]
    rfl
  unfold yawsOf acceptedPoses
  rw [hticks]
  simp [haccepted, yawPose]

/-- A quarter turn is wrapped nowhere. -/
theorem rotation_sample : TurnedAsRequested samplePlugin (1 * radians 90) 0 [π / 2] := by
  have hπ := pi_pos
  have hquarter : 1 * radians 90 = π / 2 := by
    unfold radians
    ring
  have hmem : π / 2 ∈ Set.Ioc (-π) π := ⟨by linarith, by linarith⟩
  have hsame : normalizeAngle (π / 2) = π / 2 := normalizeAngle_of_mem hmem.1 hmem.2
  have hwrapped : normalizeAngle (1 * radians 90) = π / 2 := by rw [hquarter, hsame]
  have hrequested : MoveTarget.rotationRad ⟨.rotateLeft, none, some 90⟩ = some (1 * radians 90) := rfl
  obtain ⟨m, result, hrun, hp, hstatus, hyaws⟩ := rotate_reaches hmem hwrapped
  have hturned := (rotation_iff rfl hrequested hrun (currentPose_yawOdometry zero_mem_turn) hp hstatus).2
  have hyaws' : yawsOf samplePlugin (rotateCommand 90)
      (.start 0 (yawOdometry 0) (yawObservation (π / 2)) true :: [.published (.ok ()) 0]) = [π / 2] := hyaws
  rw [hyaws', hquarter] at hturned
  rw [hquarter]
  refine hturned ?_
  have hfirst : fullTurns (π / 2) = 0 := fullTurns_eq_zero_iff.2 hmem
  have hlast : fullTurns 0 = 0 := fullTurns_eq_zero_iff.2 zero_mem_turn
  unfold Unwrapped wraps wraps angularDifference
  rw [hfirst, hsame]
  simp [yawPose, hsame, hlast]

/-- A full turn ends at once. -/
theorem rotation_lost : ∃ m result,
    StepSystem.run (moveStep samplePlugin (rotateCommand 360)) .initial (rotateReplies 0) = some m ∧
      m.point = .ended (.returned result) ∧ result.status = .succeeded ∧
      ¬ TurnedAsRequested samplePlugin (1 * radians 360) 0
        (yawsOf samplePlugin (rotateCommand 360) (rotateReplies 0)) := by
  have hπ := pi_pos
  have hfull : 1 * radians 360 = 0 + ((1 : ℤ) : ℝ) * (2 * π) := by
    unfold radians
    push_cast
    ring
  have hzero : normalizeAngle 0 = 0 := normalizeAngle_of_mem zero_mem_turn.1 zero_mem_turn.2
  have hwrapped : normalizeAngle (1 * radians 360) = 0 := by rw [hfull, normalizeAngle_add_turns, hzero]
  obtain ⟨m, result, hrun, hp, hstatus, hyaws⟩ := rotate_reaches zero_mem_turn hwrapped
  refine ⟨m, result, hrun, hp, hstatus, ?_⟩
  rw [hyaws, hfull]
  intro hturned
  unfold TurnedAsRequested turned turned angularDifference at hturned
  rw [sub_zero, hzero, zero_add, zero_sub, abs_neg, zero_add, Int.cast_one, one_mul,
    abs_of_pos (by linarith)] at hturned
  norm_num [samplePlugin, radians] at hturned
  linarith

end RosMcp
