import Mathlib.Analysis.CStarAlgebra.Classes
import RosMcp.Lib.PathLength
import RosMcp.Motion.Iterations

/-!
# The odometer of a move

The loop adds up the distances between the poses that it accepts.  So the distance that a call reports is the length of
the path from its start pose through these poses, which ends in the pose that it reports (`path_of_chain`), and a
translation that succeeds has come as far as it was asked to, up to the tolerance (`odometer_accounting`).  The poses
are those of finite odometry and the sums are exact: a NaN in a pose, which the loop would accept, makes the sum a NaN,
and doubles round it.
-/

namespace RosMcp

/-- The position of a pose in the plane. -/
def Pose2D.position (pose : Pose2D ℝ) : ℂ := ⟨pose.x, pose.y⟩

private theorem euclideanDistance_eq_dist (a b : Pose2D ℝ) :
    euclideanDistance a.x a.y b.x b.y = dist a.position b.position := by
  rw [dist_comm]
  unfold Pose2D.position euclideanDistance
  rw [Complex.dist_mk, PyMath.hypot_real]

/-- The length of the path from `startPose` through `poses`. -/
noncomputable def odometer (startPose : Pose2D ℝ) (poses : List (Pose2D ℝ)) : ℝ :=
  pathLength startPose.position (poses.map Pose2D.position)

section Odometer

variable {p : CmdVelMotionPlugin} {command : SemanticCommand ℝ} {m : MoveCall} {l l' : Locals} {t : Tick}
  {ts : List Tick}

/-! ### One tick -/

/-- The locals after a pose has been accepted. -/
structure Locals.Moved (l : Locals) (pose : Pose2D ℝ) (l' : Locals) : Prop where
  lastPose : l'.lastPose = pose
  distance : l'.distanceTraveledTotal = l.distanceTraveledTotal + dist l.lastPose.position pose.position
  phaseStart : l'.phaseStartPose = l.phaseStartPose ∨ l'.phaseStartPose = pose
  isRotation : l'.isRotation = l.isRotation
  distanceTarget : l'.distanceTargetM = l.distanceTargetM

private theorem Locals.moved_seen (l : Locals) (pose : Pose2D ℝ) : l.Moved pose (l.seen pose) := by
  constructor
  case distance =>
    rw [← euclideanDistance_eq_dist]
    rfl
  case phaseStart => exact .inl rfl
  all_goals rfl

/-- The loop goes on from a pose that it has accepted. -/
private theorem Tick.moved_of_locals (h : (t.outcome p).locals = some l') :
    ∃ pose, t.accepted = some pose ∧ t.locals.Moved pose l' := by
  obtain ⟨pose, ha, hsteered⟩ := Tick.steered_of_locals h
  have hseen := t.locals.moved_seen pose
  generalize t.outcome p = it at h hsteered
  refine ⟨pose, ha, ?_⟩
  cases hsteered with
  | rotated | unscanned | obstacle | arrived => cases h
  | aligned =>
    cases h
    exact { hseen with phaseStart := .inr rfl }
  | turned | driven =>
    cases h
    exact { hseen with }

/-- What an exit reports: the locals of the tick, or those after the pose that it has accepted. -/
private theorem Tick.moved_of_exit {e : Exit} (h : t.outcome p = .exit e) :
    e.distanceTraveledM = t.locals.distanceTraveledTotal + odometer t.locals.lastPose t.accepted.toList ∧
      e.finalPose = some (t.accepted.toList.getLastD t.locals.lastPose) := by
  cases ha : t.accepted with
  | none =>
    have hrefused := Tick.outcome_of_none (p := p) ha
    rw [h] at hrefused
    cases hrefused <;> simp [Exit.cancelled, Exit.timedOut, Exit.stale, Exit.fail, odometer]
  | some pose =>
    have hsteered := Tick.outcome_of_some (p := p) ha
    have hdistance := (t.locals.moved_seen pose).distance
    rw [h] at hsteered
    cases hsteered <;>
      exact ⟨by simp [Exit.reached, Exit.obstacle, Exit.fail, odometer, hdistance], rfl⟩

/-! ### A run -/

/-- The ticks from `t` on report the path through the poses that they accept. -/
private theorem path_of_chain {e : Exit} (hchain : (t :: ts).IsChain fun t t' => (t.outcome p).locals = some t'.locals)
    {last : Tick} (hlast : (t :: ts).getLast? = some last) (he : last.outcome p = .exit e) :
    e.distanceTraveledM = t.locals.distanceTraveledTotal + odometer t.locals.lastPose (acceptedPoses (t :: ts)) ∧
      e.finalPose = some ((acceptedPoses (t :: ts)).getLastD t.locals.lastPose) := by
  induction ts generalizing t with
  | nil =>
    obtain rfl : t = last := by simpa using hlast
    have hexit := Tick.moved_of_exit he
    unfold acceptedPoses
    cases ha : t.accepted with
    | none => simpa [ha] using hexit
    | some pose => simpa [ha] using hexit
  | cons u ts ih =>
    rw [List.isChain_cons_cons] at hchain
    obtain ⟨pose, ha, hmoved⟩ := Tick.moved_of_locals hchain.1
    have hposes : acceptedPoses (t :: u :: ts) = pose :: acceptedPoses (u :: ts) := List.filterMap_cons_some ha
    obtain ⟨hdistance, hfinal⟩ := ih hchain.2 (by simpa using hlast)
    rw [hmoved.lastPose] at hdistance hfinal
    rw [hposes, List.getLastD_cons]
    refine ⟨?_, hfinal⟩
    rw [hdistance, hmoved.distance]
    unfold odometer
    rw [List.map_cons, pathLength_cons, add_assoc]

/-- The locals with which the loop starts. -/
theorem planMove_start {target : MoveTarget ℝ} {k : SafetyConstraints ℝ} {startPose : Pose2D ℝ} {start : ℝ}
    (h : planMove command target k startPose start = .ok l) :
    l.lastPose = startPose ∧ l.phaseStartPose = startPose ∧ l.distanceTraveledTotal = 0 ∧
      l.isRotation = target.direction.isRotation ∧ l.deadline = start + command.timeoutS ∧
      (target.direction.isRotation = false → target.distanceM = some l.distanceTargetM) := by
  unfold planMove at h
  dsimp only at h
  split at h
  case h_7 => cases h
  all_goals
    obtain rfl := Except.ok.inj h
    simp_all [Direction.isRotation]

/-- The distance that was travelled covers the way from the start of the phase. -/
structure Locals.Covers (target : MoveTarget ℝ) (l : Locals) : Prop where
  isRotation : l.isRotation = target.direction.isRotation
  distanceTarget : target.direction.isRotation = false → target.distanceM = some l.distanceTargetM
  distance : dist l.phaseStartPose.position l.lastPose.position ≤ l.distanceTraveledTotal

private theorem Locals.Covers.moved {target : MoveTarget ℝ} (hl : l.Covers target) {pose : Pose2D ℝ}
    (hmoved : l.Moved pose l') : l'.Covers target := by
  have htriangle := dist_triangle l.phaseStartPose.position l.lastPose.position pose.position
  have hdistance := hl.distance
  constructor
  case isRotation =>
    rw [hmoved.isRotation]
    exact hl.isRotation
  case distanceTarget =>
    rw [hmoved.distanceTarget]
    exact hl.distanceTarget
  case distance =>
    rw [hmoved.distance, hmoved.lastPose]
    rcases hmoved.phaseStart with hstart | hstart
    · rw [hstart]
      linarith
    · have hpos := dist_nonneg (x := l.phaseStartPose.position) (y := l.lastPose.position)
      have hstep := dist_nonneg (x := l.lastPose.position) (y := pose.position)
      rw [hstart, dist_self]
      linarith

/-- A translation that reaches its target has come as far as the target is away. -/
private theorem distance_of_succeeded {target : MoveTarget ℝ} {e : Exit} (hl : t.locals.Covers target)
    (he : t.outcome p = .exit e) (hstatus : e.status = .succeeded) {d : ℝ}
    (hdirection : target.direction.isRotation = false) (hd : target.distanceM = some d) :
    d - p.positionToleranceM ≤ e.distanceTraveledM := by
  obtain ⟨pose, -, hsteered⟩ := Tick.steered_of_succeeded he hstatus
  have hcovers := (hl.moved (t.locals.moved_seen pose)).distance
  cases hsteered with
  | rotated hphase herror hrotation =>
    rw [hl.isRotation, hdirection] at hrotation
    cases hrotation
  | obstacle => cases hstatus
  | arrived hphase hscan hnear =>
    obtain rfl : d = t.locals.distanceTargetM := Option.some.inj (hd.symm.trans (hl.distanceTarget hdirection))
    unfold Locals.remaining at hnear
    rw [euclideanDistance_eq_dist] at hnear
    have hreport : (Exit.reached (t.locals.seen pose)).distanceTraveledM =
        (t.locals.seen pose).distanceTraveledTotal := rfl
    have hsame : dist (t.locals.seen pose).phaseStartPose.position (t.locals.seen pose).lastPose.position =
        dist t.locals.phaseStartPose.position pose.position := rfl
    rw [hsame] at hcovers
    rw [hreport]
    linarith

/-- With finite odometry and in exact arithmetic, the distance that a call returns is the length of the path from its
start pose through the poses that it has accepted, and the pose that it returns is the end of this path. -/
theorem odometer_accounting {target : MoveTarget ℝ} (ht : command.target = .move target) {now : ℝ}
    {odometry : OdometryRead} {o : Observation} {ready : Bool} {rest : List MoveReply} {startPose : Pose2D ℝ}
    (h : StepSystem.run (moveStep p command) .initial (.start now odometry o ready :: rest) = some m)
    (hpose : currentPose odometry = .ok (some startPose, true)) {result : ToolResult ℝ}
    (hp : m.point = .ended (.returned result)) :
    ∃ distance finalPose reason, result.fields = .motion distance (some finalPose) (some reason) ∧
      distance = odometer startPose (acceptedPoses (ticks p command .initial (.start now odometry o ready :: rest))) ∧
      finalPose =
        (acceptedPoses (ticks p command .initial (.start now odometry o ready :: rest))).getLastD startPose ∧
      euclideanDistance startPose.x startPose.y finalPose.x finalPose.y ≤ distance ∧
      (result.status = .succeeded → target.direction.isRotation = false → ∀ d, target.distanceM = some d →
        d - p.positionToleranceM ≤ distance) := by
  obtain ⟨target', k, l, ts, ht', hk, hplan, hts⟩ := ticks_start h hpose (m.stands_of_returned hp)
  obtain rfl : target' = target := Target.move.inj (ht'.symm.trans ht)
  have hm := looped_run h
  rw [hts] at hm ⊢
  obtain ⟨last, e, elapsed, hlast, he, rfl⟩ := hm.last_exit (List.cons_ne_nil _ _) hp
  obtain ⟨hstart, -, hzero, -⟩ := planMove_start hplan
  obtain ⟨hdistance, hfinal⟩ := path_of_chain hm.chain hlast he
  rw [hstart, hzero, zero_add] at hdistance
  rw [hstart] at hfinal
  refine ⟨_, _, e.stopReason, ?_, hdistance, rfl, ?_, ?_⟩
  · rw [← hfinal]
    rfl
  · rw [euclideanDistance_eq_dist, hdistance]
    have hends := dist_le_pathLength startPose.position ((acceptedPoses (⟨l, o⟩ :: ts)).map Pose2D.position)
    rwa [List.getLastD_map] at hends
  · intro hstatus hdirection d hd
    have hcovers : ∀ t ∈ (⟨l, o⟩ :: ts : List Tick), t.locals.Covers target' := by
      refine hm.locals_invariant ?_ ?_
      · intro target'' k' startPose' l' ht'' hk' hplan'
        obtain rfl : target'' = target' := Target.move.inj (ht''.symm.trans ht')
        obtain ⟨hlast, hphase, hzero, hrotation, -, hd⟩ := planMove_start hplan'
        refine ⟨hrotation, hd, ?_⟩
        rw [hlast, hphase, dist_self, hzero]
      · intro t l' hl hlocals
        obtain ⟨pose, -, hmoved⟩ := Tick.moved_of_locals hlocals
        exact hl.moved hmoved
    exact distance_of_succeeded (hcovers last (List.mem_of_getLast? hlast)) he hstatus hdirection hd

end Odometer

/-! ### A move that reads three poses -/

/-- The poses that the sample move accepts on its way. -/
private theorem arriving_acceptedPoses :
    acceptedPoses arrivingTicks = [samplePose, aheadPose (1 / 2 : ℚ), aheadPose 1] := by
  have hperiod : samplePeriod = 1 / 20 := by norm_num [samplePeriod]
  have accepted : ∀ {l : Locals} {o : Observation} {pose : Pose2D ℝ}, l.deadline = sampleLocals.deadline →
      o.isCancelled = false → o.deadlineExceeded = false → o.now < 1 →
      currentPose o.odometry = .ok (some pose, true) → Tick.accepted ⟨l, o⟩ = some pose := by
    intro l o pose hdeadline hcancelled hexceeded hnow hpose
    have hlate : ¬ sampleLocals.deadline ≤ o.now := by
      norm_num [sampleLocals]
      linarith
    unfold Tick.accepted
    rw [if_neg (by simp [hcancelled, hexceeded, hdeadline, hlate]), hpose]
  have hfirst : Tick.accepted ⟨sampleLocals, sampleObservation⟩ = some samplePose :=
    accepted rfl rfl rfl (by norm_num [sampleObservation]) rfl
  have hsecond : Tick.accepted ⟨sampleDriving, aheadObservation samplePeriod (1 / 2 : ℚ)⟩ =
      some (aheadPose (1 / 2 : ℚ)) := accepted rfl rfl rfl (by norm_num [aheadObservation, hperiod]) rfl
  have hthird : Tick.accepted ⟨halfwayLocals, aheadObservation (samplePeriod + samplePeriod) 1⟩ =
      some (aheadPose 1) := accepted rfl rfl rfl (by norm_num [aheadObservation, hperiod]) rfl
  unfold acceptedPoses arrivingTicks
  rw [List.filterMap_cons_some hfirst, List.filterMap_cons_some hsecond, List.filterMap_cons_some hthird]
  rfl

theorem odometer_accounting_sample : ∃ m distance finalPose reason,
    StepSystem.run (moveStep samplePlugin ((sampleWiring ℝ).command 0)) .initial arrivingReplies = some m ∧
      (∃ result, m.point = .ended (.returned result) ∧ result.status = .succeeded ∧
        result.fields = .motion distance (some finalPose) (some reason)) ∧
      distance = odometer samplePose [samplePose, aheadPose (1 / 2 : ℚ), aheadPose 1] ∧ finalPose = aheadPose 1 ∧
      ((1 : ℤ) : ℝ) - samplePlugin.positionToleranceM ≤ distance := by
  obtain ⟨m, result, hrun, -, hp, hstatus, -, hticks⟩ := arriving_run
  have ht : ((sampleWiring ℝ).command 0).target = .move ⟨.forward, some ((1 : ℤ) : ℝ), none⟩ := rfl
  obtain ⟨distance, finalPose, reason, hfields, hdistance, hfinal, -, hreached⟩ := odometer_accounting ht hrun rfl hp
  have hposes : acceptedPoses (ticks samplePlugin ((sampleWiring ℝ).command 0) .initial arrivingReplies) = _ :=
    (congrArg acceptedPoses hticks).trans arriving_acceptedPoses
  exact ⟨m, distance, finalPose, reason, hrun, ⟨result, hp, hstatus, hfields⟩,
    hdistance.trans (congrArg _ hposes), hfinal.trans (congrArg (List.getLastD · samplePose) hposes),
    hreached hstatus rfl _ rfl⟩

end RosMcp
