import RosMcp.Motion.Iterations

/-!
# The order of the exit conditions

`arbitrate` is the documented order of the exit conditions on what a tick reads: cancellation, then a safety stop
(stale odometry or an obstacle), then the timeout, then the target.  The loop asks for the timeout before it reads the
sensors (`Tick.stopReason_eq`), and a read that raises hides the conditions after it.  So the loop leaves as documented
exactly when no tick finds a safety stop together with a timeout, or a condition behind a read that raises
(`exit_arbitration_iff`).
-/

namespace RosMcp

/-- The reason with which an iteration leaves the loop. -/
def Iteration.stopReason : Iteration → Option StopReason
  | .exit e => some e.stopReason
  | _ => none

namespace Tick

variable (p : CmdVelMotionPlugin) (t : Tick)

/-! ### The exit conditions -/

/-- The deadline of the token or the one of the move has passed. -/
def TimedOut : Prop := t.observation.deadlineExceeded = true ∨ t.locals.deadline ≤ t.observation.now

/-- There is no odometry, or it is stale. -/
def StaleOdometry : Prop :=
  ∃ pose fresh, currentPose t.observation.odometry = .ok (pose, fresh) ∧ ¬ (pose.isSome = true ∧ fresh = true)

/-- The read of the odometry raises. -/
def OdometryRaises : Prop := ∃ exc, currentPose t.observation.odometry = .error exc

/-- What the obstacle check finds; only the driving phase has a direction of travel. -/
noncomputable def scanCheck : Except PyException (Option ℝ) :=
  match t.locals.phase with
  | .turning => .ok none
  | .driving =>
    obstacleAhead p t.observation.scan (travelSector t.locals) t.locals.constraints.obstacleStopDistanceM

def ObstacleAhead : Prop := ∃ range, t.scanCheck p = .ok (some range)

def ScanRaises : Prop := ∃ exc, t.scanCheck p = .error exc

/-- The pose is within the tolerance of the target; turning is the target of a rotation only. -/
def AtTarget : Prop :=
  ∃ pose, currentPose t.observation.odometry = .ok (some pose, true) ∧
    match t.locals.phase with
    | .turning => t.locals.isRotation = true ∧ |t.locals.headingError pose| ≤ p.angleToleranceRad
    | .driving => t.locals.remaining pose ≤ p.positionToleranceM

open Classical in
/-- The documented order of the exit conditions. -/
noncomputable def arbitrate : Option StopReason :=
  if t.observation.isCancelled then some .cancelled
  else if t.StaleOdometry ∨ t.ObstacleAhead p then some .safetyStop
  else if t.TimedOut then some .timeout
  else if t.AtTarget p then some .targetReached
  else none

/-- No safety stop is hidden by a timeout, and no condition by a read that raises before it. -/
def Unhidden : Prop :=
  t.observation.isCancelled = true ∨
    (t.TimedOut → ¬ t.StaleOdometry ∧ ¬ t.ObstacleAhead p) ∧
    (¬ t.TimedOut → (t.OdometryRaises → ¬ t.ObstacleAhead p) ∧ (t.ScanRaises p → ¬ t.AtTarget p))

/-! ### The order of the loop -/

variable {p t}

/-- The conditions on the sensors, when the odometry is fresh. -/
private theorem fresh_conditions {pose : Pose2D ℝ}
    (hpose : currentPose t.observation.odometry = .ok (some pose, true)) :
    ¬ t.StaleOdometry ∧ ¬ t.OdometryRaises := by
  constructor
  · rintro ⟨pose', fresh, hread, hstale⟩
    rw [hpose] at hread
    cases hread
    exact hstale ⟨rfl, rfl⟩
  · rintro ⟨exc, hread⟩
    rw [hpose] at hread
    cases hread

private theorem atTarget_iff {pose : Pose2D ℝ} (hpose : currentPose t.observation.odometry = .ok (some pose, true)) :
    t.AtTarget p ↔ match t.locals.phase with
      | .turning => t.locals.isRotation = true ∧ |t.locals.headingError pose| ≤ p.angleToleranceRad
      | .driving => t.locals.remaining pose ≤ p.positionToleranceM := by
  unfold AtTarget
  rw [hpose]
  simp

private theorem scanCheck_turning (hphase : t.locals.phase = .turning) : ¬ t.ObstacleAhead p ∧ ¬ t.ScanRaises p := by
  simp [ObstacleAhead, ScanRaises, scanCheck, hphase]

private theorem scanCheck_driving (hphase : t.locals.phase = .driving) : t.scanCheck p =
    obstacleAhead p t.observation.scan (travelSector t.locals) t.locals.constraints.obstacleStopDistanceM := by
  unfold scanCheck
  rw [hphase]

open Classical in
/-- The exit of an iteration with fresh odometry. -/
private theorem stopReason_fresh {pose : Pose2D ℝ}
    (hpose : currentPose t.observation.odometry = .ok (some pose, true)) :
    (iterateFresh p t.locals pose t.observation.scan).stopReason =
      if t.ObstacleAhead p then some .safetyStop
      else if t.ScanRaises p then none
      else if t.AtTarget p then some .targetReached
      else none := by
  have htarget := t.atTarget_iff (p := p) hpose
  have hsteered := iterateFresh_steered p t.locals pose t.observation.scan
  generalize iterateFresh p t.locals pose t.observation.scan = it at hsteered ⊢
  cases hsteered with
  | rotated hphase herror hrotation =>
    obtain ⟨hobstacle, hraises⟩ := scanCheck_turning (p := p) hphase
    rw [hphase] at htarget
    rw [if_neg hobstacle, if_neg hraises, if_pos (htarget.2 ⟨hrotation, herror⟩)]
    rfl
  | aligned hphase herror hrotation =>
    obtain ⟨hobstacle, hraises⟩ := scanCheck_turning (p := p) hphase
    rw [hphase] at htarget
    rw [if_neg hobstacle, if_neg hraises, if_neg fun h => hrotation (htarget.1 h).1]
    rfl
  | turned hphase herror =>
    obtain ⟨hobstacle, hraises⟩ := scanCheck_turning (p := p) hphase
    rw [hphase] at htarget
    rw [if_neg hobstacle, if_neg hraises, if_neg fun h => herror (htarget.1 h).2]
    rfl
  | unscanned exc hphase hscan =>
    rw [← scanCheck_driving hphase] at hscan
    rw [if_neg (by simp [ObstacleAhead, hscan]), if_pos (show t.ScanRaises p from ⟨exc, hscan⟩)]
    rfl
  | obstacle range hphase hscan =>
    rw [← scanCheck_driving hphase] at hscan
    rw [if_pos (show t.ObstacleAhead p from ⟨range, hscan⟩)]
    rfl
  | arrived hphase hscan hnear =>
    rw [← scanCheck_driving hphase] at hscan
    rw [hphase] at htarget
    rw [if_neg (by simp [ObstacleAhead, hscan]), if_neg (by simp [ScanRaises, hscan]), if_pos (htarget.2 hnear)]
    rfl
  | driven hphase hscan hfar =>
    rw [← scanCheck_driving hphase] at hscan
    rw [hphase] at htarget
    rw [if_neg (by simp [ObstacleAhead, hscan]), if_neg (by simp [ScanRaises, hscan]),
      if_neg fun h => hfar (htarget.1 h)]
    rfl

open Classical in
/-- The order in which the loop asks for the exit conditions. -/
theorem stopReason_eq : (t.outcome p).stopReason =
    if t.observation.isCancelled then some .cancelled
    else if t.TimedOut then some .timeout
    else if t.StaleOdometry then some .safetyStop
    else if t.OdometryRaises then none
    else if t.ObstacleAhead p then some .safetyStop
    else if t.ScanRaises p then none
    else if t.AtTarget p then some .targetReached
    else none := by
  unfold Tick.outcome iterate
  by_cases hc : t.observation.isCancelled = true
  · rw [if_pos hc, if_pos hc]
    rfl
  rw [if_neg hc, if_neg hc]
  by_cases ht : t.observation.deadlineExceeded = true ∨ t.locals.deadline ≤ t.observation.now
  · rw [if_pos ht, if_pos (show t.TimedOut from ht)]
    rfl
  rw [if_neg ht, if_neg (show ¬ t.TimedOut from ht)]
  split
  · next exc hpose =>
    rw [if_neg (by simp [StaleOdometry, hpose]), if_pos ⟨exc, hpose⟩]
    rfl
  · next pose hpose =>
    obtain ⟨hstale, hraises⟩ := t.fresh_conditions hpose
    rw [if_neg hstale, if_neg hraises]
    exact stopReason_fresh hpose
  · next read hno hpose =>
    obtain ⟨pose, fresh⟩ := read
    rw [if_pos]
    · rfl
    · refine ⟨pose, fresh, hpose, ?_⟩
      rintro ⟨hsome, rfl⟩
      obtain ⟨pose, rfl⟩ := Option.isSome_iff_exists.1 hsome
      exact hno pose rfl

private theorem StaleOdometry.not_raises (h : t.StaleOdometry) : ¬ t.OdometryRaises := by
  obtain ⟨pose, fresh, hread, -⟩ := h
  simp [OdometryRaises, hread]

private theorem AtTarget.fresh (h : t.AtTarget p) : ¬ t.StaleOdometry ∧ ¬ t.OdometryRaises := by
  obtain ⟨pose, hpose, -⟩ := h
  exact t.fresh_conditions hpose

private theorem ObstacleAhead.not_raises (h : t.ObstacleAhead p) : ¬ t.ScanRaises p := by
  obtain ⟨range, hcheck⟩ := h
  simp [ScanRaises, hcheck]

/-- A tick leaves the loop as documented exactly when it hides no condition. -/
theorem stopReason_eq_arbitrate_iff : (t.outcome p).stopReason = t.arbitrate p ↔ t.Unhidden p := by
  have hstale := StaleOdometry.not_raises (t := t)
  have htarget := AtTarget.fresh (p := p) (t := t)
  have hobstacle := ObstacleAhead.not_raises (p := p) (t := t)
  rw [stopReason_eq]
  unfold arbitrate Unhidden
  by_cases hc : t.observation.isCancelled = true
  · simp [hc]
  by_cases ht : t.TimedOut
  · -- the timeout is reported also when a safety stop holds
    by_cases hs : t.StaleOdometry
    · simp [hc, ht, hs]
    · by_cases ho : t.ObstacleAhead p <;> simp [hc, ht, hs, ho]
  · by_cases hs : t.StaleOdometry
    · have hraises := hstale hs
      have hnot : ¬ t.AtTarget p := fun h => (htarget h).1 hs
      simp [hc, ht, hs, hraises, hnot]
    by_cases hr : t.OdometryRaises
    · have hnot : ¬ t.AtTarget p := fun h => (htarget h).2 hr
      by_cases ho : t.ObstacleAhead p <;> simp [hc, ht, hs, hr, ho, hnot]
    by_cases ho : t.ObstacleAhead p
    · have hscan := hobstacle ho
      simp [hc, ht, hs, hr, ho, hscan]
    by_cases hscan : t.ScanRaises p
    · by_cases ha : t.AtTarget p <;> simp [hc, ht, hs, hr, ho, hscan, ha]
    · simp [hc, ht, hs, hr, ho, hscan]

end Tick

/-! ### The order over a run -/

/-- In each of its ticks the call leaves the loop exactly when an exit condition holds, for the first of them in the
documented order, and so does the result. -/
structure Arbitrated (p : CmdVelMotionPlugin) (m : MoveCall) (ts : List Tick) : Prop where
  ticks : ∀ t ∈ ts, (t.outcome p).stopReason = t.arbitrate p
  result : ∀ result, m.point = .ended (.returned result) → ts ≠ [] →
    ∃ reason distance pose, ts.findSome? (Tick.arbitrate p) = some reason ∧
      result.fields = .motion distance pose (some reason)

section Run

variable {p : CmdVelMotionPlugin} {command : SemanticCommand ℝ} {m : MoveCall} {ts : List Tick}

/-- Only the last tick leaves the loop. -/
private theorem Looped.not_exit {t : Tick} (hm : Looped p command m ts) (ht : t ∈ ts.dropLast) :
    (t.outcome p).stopReason = none := by
  obtain ⟨l, hlocals⟩ := hm.goes_on ht
  cases he : t.outcome p with
  | exit e =>
    rw [he] at hlocals
    cases hlocals
  | raised exc | sleep l | publish twist l => rfl

/-- The loop leaves as documented exactly when no tick hides a condition. -/
theorem exit_arbitration_iff {replies : List MoveReply}
    (h : StepSystem.run (moveStep p command) MoveCall.initial replies = some m) :
    Arbitrated p m (ticks p command .initial replies) ↔ ∀ t ∈ ticks p command .initial replies, t.Unhidden p := by
  have hm := looped_run h
  generalize ticks p command .initial replies = ts at hm
  constructor
  · intro hts t ht
    exact Tick.stopReason_eq_arbitrate_iff.1 (hts.ticks t ht)
  · intro hts
    have hticks : ∀ t ∈ ts, (t.outcome p).stopReason = t.arbitrate p :=
      fun t ht => Tick.stopReason_eq_arbitrate_iff.2 (hts t ht)
    refine ⟨hticks, ?_⟩
    intro result hp hne
    obtain ⟨t, e, elapsed, hlast, he, rfl⟩ := hm.last_exit hne hp
    have hsplit : ts.dropLast ++ [t] = ts := List.dropLast_append_getLast? t hlast
    have hmem : t ∈ ts := List.mem_of_getLast? hlast
    have hfirst : ts.dropLast.findSome? (Tick.arbitrate p) = none := by
      rw [List.findSome?_eq_none_iff]
      intro t' ht'
      rw [← hticks t' (List.mem_of_mem_dropLast ht'), hm.not_exit ht']
    have hreason : t.arbitrate p = some e.stopReason := by
      rw [← hticks t hmem, he]
      rfl
    refine ⟨e.stopReason, e.distanceTraveledM, e.finalPose, ?_, rfl⟩
    rw [← hsplit, List.findSome?_append, hfirst]
    simp [hreason]

end Run

/-! ### A move that is late and blind at once -/

/-- The deadline has passed, and the odometry is stale. -/
def lateObservation : Observation :=
  { sampleObservation with deadlineExceeded := true, odometry := .ok (some (⟨.ok ⟨0, 0, 0, 0, 0, 1⟩, 0⟩, false)) }

/-- The token is cancelled as well. -/
def cancelledLateObservation : Observation := { lateObservation with isCancelled := true }

/-- A move that is cancelled, late and blind at once reports the cancellation. -/
theorem exit_arbitration_sample : ∃ m result,
    StepSystem.run (moveStep samplePlugin ((sampleWiring ℝ).command 0)) .initial
        [.start 0 sampleOdometry cancelledLateObservation true, .published (.ok ()) 0] = some m ∧
      m.point = .ended (.returned result) ∧
      (∃ distance pose, result.fields = .motion distance pose (some .cancelled)) ∧
      Tick.StaleOdometry ⟨sampleLocals, cancelledLateObservation⟩ ∧
      Tick.TimedOut ⟨sampleLocals, cancelledLateObservation⟩ ∧
      Arbitrated samplePlugin m [⟨sampleLocals, cancelledLateObservation⟩] := by
  have hexit : iterate samplePlugin sampleLocals cancelledLateObservation = .exit (.cancelled sampleLocals) := by
    unfold iterate
    exact if_pos rfl
  obtain ⟨m, hrun, hp⟩ := sampleMove_exit hexit
  have hticks : ticks samplePlugin ((sampleWiring ℝ).command 0) .initial
      [.start 0 sampleOdometry cancelledLateObservation true, .published (.ok ()) 0] =
        [⟨sampleLocals, cancelledLateObservation⟩] := by
    rw [sampleMove_ticks]
    unfold MoveCall.iterate
    rw [hexit]
    rfl
  refine ⟨m, _, hrun, hp, ⟨_, _, rfl⟩, ⟨_, false, rfl, by simp⟩, .inl rfl, ?_⟩
  rw [← hticks]
  refine (exit_arbitration_iff hrun).2 ?_
  rw [hticks]
  intro t ht
  obtain rfl := List.mem_singleton.1 ht
  exact .inl rfl

/-- The move reports a timeout although its odometry is stale, which comes first. -/
theorem exit_order_broken : ∃ m result, StepSystem.run (moveStep samplePlugin ((sampleWiring ℝ).command 0))
      .initial [.start 0 sampleOdometry lateObservation true, .published (.ok ()) 0] = some m ∧
    m.point = .ended (.returned result) ∧ (∃ distance pose, result.fields = .motion distance pose (some .timeout)) ∧
    ∃ t ∈ ticks samplePlugin ((sampleWiring ℝ).command 0) .initial
        [.start 0 sampleOdometry lateObservation true, .published (.ok ()) 0],
      t.arbitrate samplePlugin = some .safetyStop := by
  have hexit : iterate samplePlugin sampleLocals lateObservation = .exit (.timedOut sampleLocals) := by
    unfold iterate
    rw [if_neg (by simp [lateObservation, sampleObservation]), if_pos (.inl rfl)]
  have hstale : Tick.StaleOdometry ⟨sampleLocals, lateObservation⟩ := ⟨_, false, rfl, by simp⟩
  obtain ⟨m, hrun, hp⟩ := sampleMove_exit hexit
  refine ⟨m, _, hrun, hp, ⟨_, _, rfl⟩, ⟨sampleLocals, lateObservation⟩, ?_, ?_⟩
  · rw [sampleMove_ticks]
    exact List.mem_cons_self
  · unfold Tick.arbitrate
    rw [if_neg (by simp [lateObservation, sampleObservation]), if_pos (.inl hstale)]

end RosMcp
