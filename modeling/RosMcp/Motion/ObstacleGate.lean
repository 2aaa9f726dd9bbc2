import RosMcp.Motion.Locals
import RosMcp.Perception.Sectors

/-!
# The obstacle check of a move

An iteration of the driving phase that finds a beam of the scan in the direction of travel, nearer than the stop
distance, leaves the loop: the call hands over nothing but a zero twist, and it returns the obstacle unless its last
publish raises or the task is cancelled.  Conversely, a call that reports an obstacle has read a scan with a beam that
counts (`obstacle_gate`).

The two sides differ where the scan is not made of numbers.  A limit that is `nan` excludes no beam, and an angle that
is not a number counts as `rear`, so such a scan can stop a move although no beam is within its limits
(`obstacle_gate_open`).
-/

namespace RosMcp

/-! ### The check in an iteration -/

/-- The sector in the direction of travel. -/
def Direction.travelSector : Direction → Sector
  | .backward => .rear
  | _ => .front

/-- A beam within the limits of the scan and nearer than `d`, whose angle falls in the sector. -/
structure BeamAhead (scan : LaserScan) (sector : Sector) (d : ℝ) (i : ℕ) (x : ℝ) : Prop where
  range : scan.ranges[i]? = some (.fin x)
  atLeast : scan.rangeMin ≤ .fin x
  atMost : .fin x ≤ scan.rangeMax
  near : x < d
  angle : ∃ a, scan.beamAngle i = .fin a ∧ representative a ∈ sector.wedge

/-- The iteration gets to the obstacle check in the driving phase, and the scan in the cache is `raw`. -/
structure ChecksScan (l : Locals) (o : Observation) (raw : LaserScan) : Prop where
  running : ¬ o.isCancelled = true
  inTime : ¬ (o.deadlineExceeded = true ∨ l.deadline ≤ o.now)
  fresh : ∃ pose, currentPose o.odometry = .ok (some pose, true)
  driving : l.phase = .driving
  scan : o.scan = .ok (some raw)

/-- The error of an obstacle stop, which no other exit has. -/
def ReportsObstacle (error : Option (ToolError ℝ)) : Prop := error.map ToolError.code = some .safetyRejected

/-- The result of an obstacle stop. -/
structure ObstacleStop (result : ToolResult ℝ) : Prop where
  status : result.status = .failed
  error : ReportsObstacle result.error
  stopReason : ∃ distance pose, result.fields = .motion distance pose (some .safetyStop)

section Check

variable {p : CmdVelMotionPlugin} {command : SemanticCommand ℝ} {l : Locals} {o : Observation} {raw : LaserScan}
  {sector : Sector} {d : ℝ}

private theorem Locals.Follows.travelSector {target : MoveTarget ℝ} (hl : l.Follows command)
    (ht : command.target = .move target) : RosMcp.travelSector l = target.direction.travelSector := by
  obtain ⟨target', ht', hsign⟩ := hl.driveSign
  obtain rfl : target = target' := Target.move.inj (ht.symm.trans ht')
  unfold RosMcp.travelSector
  rw [hsign]
  cases target.direction <;> norm_num [Direction.driveSign, Direction.travelSector]

private theorem BeamAhead.counted {i : ℕ} {x : ℝ} (h : BeamAhead raw sector d i x) : CountedBeam raw sector d i x := by
  obtain ⟨a, ha, hmem⟩ := h.angle
  constructor
  case notBelow => exact PyFloat.not_lt_of_le h.atLeast
  case notAbove => exact PyFloat.not_lt_of_le h.atMost
  case near => exact h.near
  case angle =>
    rw [ha]
    exact hmem

/-- The check reports an obstacle exactly when the analysis returns and a beam counts. -/
theorem obstacleAhead_iff {scan : ScanRead} (htopic : p.laserScanTopic = true) :
    (∃ range, obstacleAhead p scan sector d = .ok (some range)) ↔
      ∃ raw, scan = .ok (some raw) ∧ (∃ analysis, analyzeLaserScan raw = .ok analysis) ∧
        ∃ i x, raw.ranges[i]? = some (.fin x) ∧ CountedBeam raw sector d i x := by
  unfold obstacleAhead
  rw [if_neg (by simp [htopic])]
  split
  · simp
  · simp
  · next raw =>
    simp only [Except.ok.injEq, Option.some.injEq, exists_eq_left']
    cases ha : analyzeLaserScan raw with
    | error exc => simp [Except.map]
    | ok analysis =>
      rw [← analyzeLaserScan_within ha]
      simp only [Except.map, Except.ok.injEq, exists_eq', true_and]
      cases hs : analysis.sectors sector with
      | none => simp
      | some reading =>
        obtain ⟨range, hrange⟩ := analyzeLaserScan_finite ha hs
        obtain ⟨rangeM, angleRad, sector'⟩ := reading
        obtain rfl : rangeM = .fin range := hrange
        by_cases hnear : range < d
        · simp [hnear]
        · simp [hnear]

/-- An iteration that gets to the check and finds an obstacle leaves the loop with it. -/
private theorem iterate_obstacle (hc : ChecksScan l o raw) {range : ℝ}
    (hr : obstacleAhead p o.scan (travelSector l) l.constraints.obstacleStopDistanceM = .ok (some range)) :
    ∃ l', iterate p l o = .exit (.obstacle l' (travelSector l) range) := by
  obtain ⟨pose, hpose⟩ := hc.fresh
  unfold travelSector at hr
  unfold iterate iterateFresh travelSector
  rw [if_neg hc.running, if_neg hc.inTime, hpose]
  dsimp only
  rw [hc.driving]
  dsimp only
  rw [hr]
  exact ⟨_, rfl⟩

/-- An iteration that leaves the loop with an obstacle has got to the check and found it. -/
private theorem checks_of_iterate {e : Exit} (htopic : p.laserScanTopic = true) (h : iterate p l o = .exit e)
    (he : ReportsObstacle e.error) : ∃ raw, ChecksScan l o raw ∧
      ∃ i x, raw.ranges[i]? = some (.fin x) ∧
        CountedBeam raw (travelSector l) l.constraints.obstacleStopDistanceM i x := by
  have hiterated := iterate_iterated p l o
  rw [h] at hiterated
  cases hiterated with
  | obstacle pose range ho hpose hphase hscan =>
    obtain ⟨raw, hraw, -, i, x, hx, hcounted⟩ := (obstacleAhead_iff htopic).1 ⟨range, hscan⟩
    exact ⟨raw, ⟨ho.running, ho.inTime, ⟨pose, hpose⟩, hphase, hraw⟩, i, x, hx, hcounted⟩
  | cancelled | timedOut | stale | reached =>
    simp [ReportsObstacle, Exit.cancelled, Exit.timedOut, Exit.stale, Exit.reached, Exit.fail] at he

end Check

/-! ### The steps of a call that iterate -/

/-- The call runs an iteration when it is resumed: the first one, or the next one after a sleep. -/
inductive Iterates (command : SemanticCommand ℝ) (m : MoveCall) : MoveReply → Locals → Observation → Prop
  | first (target : MoveTarget ℝ) (k : SafetyConstraints ℝ) (startPose : Pose2D ℝ) (now : ℝ) (odometry : OdometryRead)
      (o : Observation) (ready : Bool) (l : Locals) (hp : m.point = .created) (ht : command.target = .move target)
      (hk : command.safetyConstraints = some k) (hpose : currentPose odometry = .ok (some startPose, true))
      (hplan : planMove command target k startPose now = .ok l) :
      Iterates command m (.start now odometry o ready) l o
  | next (l : Locals) (o : Observation) (ready : Bool) (hp : m.point = .sleeping l) :
      Iterates command m (.slept (.ok o) ready) l o

/-- The answer raises into the call or cancels it. -/
def MoveReply.Fails : MoveReply → Prop
  | .cancelled | .publisher (.error _) | .published (.error _) _ | .slept (.error _) _ => True
  | _ => False

section Steps

variable {p : CmdVelMotionPlugin} {command : SemanticCommand ℝ} {l : Locals} {o : Observation} {m m' : MoveCall}
  {reply : MoveReply}

private theorem Iterates.follows (h : Iterates command m reply l o) (hm : m.Follows command) : l.Follows command := by
  cases h with
  | first target k startPose now odometry o ready l hp ht hk hpose hplan => exact planMove_follows ht hk hplan
  | next l o ready hp => exact hm l (by rw [hp]; rfl)

/-- What the resumed call does. -/
theorem Iterates.step (h : Iterates command m reply l o) (hstep : moveStep p command m reply = some m') :
    ∃ start ready, m' = MoveCall.iterate p { m with startMonotonic := start } l o ready := by
  cases h with
  | first target k startPose now odometry o ready l hp ht hk hpose hplan =>
    have hstart : m.start p command now odometry o ready =
        MoveCall.iterate p { m with startMonotonic := now } l o ready := by
      unfold MoveCall.start
      rw [ht, hk]
      dsimp only
      rw [hpose]
      dsimp only
      rw [hplan]
    unfold moveStep at hstep
    rw [hp] at hstep
    exact ⟨now, ready, by rw [← hstart]; exact (Option.some.inj hstep).symm⟩
  | next l o ready hp =>
    unfold moveStep at hstep
    rw [hp] at hstep
    exact ⟨m.startMonotonic, ready, (Option.some.inj hstep).symm⟩

/-! ### On the way out -/

/-- The zero twist that an iteration of the driving phase hands over when it leaves the loop. -/
noncomputable def drivingZero : Handed := ⟨.zero, some .driving⟩

/-- The call that has handed over `handed` is on its way out with the exit `e`, or has ended so; `failed` allows it to
have ended otherwise. -/
inductive Leaving (command : SemanticCommand ℝ) (e : Exit) (handed : List Handed) (failed : Prop) : MoveCall → Prop
  | creating {m : MoveCall} (hp : m.point = .creatingPublisher drivingZero (.finish e)) (hh : m.handed = handed) :
      Leaving command e handed failed m
  | publishing {m : MoveCall} (h : Handed) (hp : m.point = .publishing h (.finish e))
      (hh : m.handed = handed ++ [drivingZero]) : Leaving command e handed failed m
  | returned {m : MoveCall} (elapsed : ℝ) (hp : m.point = .ended (.returned (e.result command elapsed)))
      (hh : m.handed = handed ++ [drivingZero]) : Leaving command e handed failed m
  | failed {m : MoveCall} (out : MoveOutcome) (hp : m.point = .ended out) (hf : failed)
      (hh : m.handed = handed ∨ m.handed = handed ++ [drivingZero]) : Leaving command e handed failed m

private theorem leaving_publishTwist (m : MoveCall) (e : Exit) (ready : Bool) (failed : Prop) :
    Leaving command e m.handed failed (m.publishTwist ready drivingZero (.finish e)) := by
  unfold MoveCall.publishTwist
  split
  · exact .publishing drivingZero rfl rfl
  · exact .creating rfl rfl

/-- A call on its way out stays on it, unless the answer fails. -/
theorem Leaving.step {e : Exit} {handed : List Handed} {failed : Prop} (hm : Leaving command e handed failed m)
    (hreply : reply.Fails → failed) (h : moveStep p command m reply = some m') :
    Leaving command e handed failed m' := by
  cases hm with
  | creating hp hh =>
    cases moveStep_transition h with
    | cancelled => exact .failed _ rfl (hreply trivial) (Or.inl hh)
    | creationFailed => exact .failed _ rfl (hreply trivial) (Or.inl hh)
    | publisherCreated h next hp' =>
      rw [hp] at hp'
      obtain ⟨rfl, rfl⟩ := MovePoint.creatingPublisher.inj hp'
      rw [← hh]
      exact leaving_publishTwist m e true failed
    | started now odometry o ready hp' => cases hp.symm.trans hp'
    | publishFailed h next exc now hp' => cases hp.symm.trans hp'
    | finished h e now hp' => cases hp.symm.trans hp'
    | looped h l now hp' => cases hp.symm.trans hp'
    | sleepFailed l exc ready hp' => cases hp.symm.trans hp'
    | iterated l o ready hp' => cases hp.symm.trans hp'
  | publishing h₀ hp hh =>
    cases moveStep_transition h with
    | cancelled => exact .failed _ rfl (hreply trivial) (Or.inr hh)
    | publishFailed => exact .failed _ rfl (hreply trivial) (Or.inr hh)
    | finished h e' now hp' =>
      rw [hp] at hp'
      obtain ⟨rfl, hnext⟩ := MovePoint.publishing.inj hp'
      obtain rfl := Next.finish.inj hnext
      exact .returned _ rfl hh
    | started now odometry o ready hp' => cases hp.symm.trans hp'
    | creationFailed h next exc hp' => cases hp.symm.trans hp'
    | publisherCreated h next hp' => cases hp.symm.trans hp'
    | looped h l now hp' => cases hp.symm.trans hp'
    | sleepFailed l exc ready hp' => cases hp.symm.trans hp'
    | iterated l o ready hp' => cases hp.symm.trans hp'
  | returned elapsed hp hh =>
    unfold moveStep at h
    rw [hp] at h
    cases h
  | failed out hp hf hh =>
    unfold moveStep at h
    rw [hp] at h
    cases h

/-- A call on its way out can go on to return. -/
private theorem Leaving.completes {e : Exit} {handed : List Handed} {failed : Prop}
    (hm : Leaving command e handed failed m)
    (hlive : ∀ out, m.point ≠ .ended out) :
    ∃ replies m' elapsed, (∀ reply ∈ replies, ¬ reply.Fails) ∧ StepSystem.run (moveStep p command) m replies = some m' ∧
      m'.point = .ended (.returned (e.result command elapsed)) := by
  have hpublished : ∀ m : MoveCall, ∀ h, m.point = .publishing h (.finish e) →
      moveStep p command m (.published (.ok ()) 0) =
        some (m.endWith (.returned (e.result command (0 - m.startMonotonic)))) := by
    intro m h hp
    unfold moveStep
    rw [hp]
  cases hm with
  | creating hp hh =>
    have hcreated : moveStep p command m (.publisher (.ok ())) =
        some (m.publishTwist true drivingZero (.finish e)) := by
      unfold moveStep
      rw [hp]
    refine ⟨[.publisher (.ok ()), .published (.ok ()) 0], _, _, ?_,
      StepSystem.run_cons.2 ⟨_, hcreated, StepSystem.run_cons.2 ⟨_, hpublished _ drivingZero rfl, rfl⟩⟩, rfl⟩
    simp [MoveReply.Fails]
  | publishing h hp hh =>
    refine ⟨[.published (.ok ()) 0], _, _, ?_, StepSystem.run_cons.2 ⟨_, hpublished m h hp, rfl⟩, rfl⟩
    simp [MoveReply.Fails]
  | returned elapsed hp hh => exact absurd hp (hlive _)
  | failed out hp hf hh => exact absurd hp (hlive _)

/-! ### Where a reported obstacle comes from -/

/-- The call is going to report an obstacle, or has reported it. -/
def MoveCall.Reporting (m : MoveCall) : Prop :=
  match m.point with
  | .creatingPublisher _ (.finish e) | .publishing _ (.finish e) => ReportsObstacle e.error
  | .ended (.returned result) => ReportsObstacle result.error
  | _ => False

private theorem MoveCall.reporting_publishTwist (m : MoveCall) (ready : Bool) (h : Handed) (e : Exit) :
    (m.publishTwist ready h (.finish e)).Reporting ↔ ReportsObstacle e.error := by
  unfold MoveCall.publishTwist
  split <;> exact Iff.rfl

private theorem MoveCall.not_reporting_loop (m : MoveCall) (ready : Bool) (h : Handed) (l : Locals) :
    ¬ (m.publishTwist ready h (.loop l)).Reporting := by
  unfold MoveCall.publishTwist
  split <;> exact not_false

private theorem MoveCall.reporting_iterate (m : MoveCall) (ready : Bool) (h : (m.iterate p l o ready).Reporting) :
    ∃ e, RosMcp.iterate p l o = .exit e ∧ ReportsObstacle e.error := by
  unfold MoveCall.iterate at h
  split at h
  · exact absurd h not_false
  · next e he => exact ⟨e, he, (m.reporting_publishTwist ready _ e).1 h⟩
  · exact absurd h not_false
  · exact absurd h (m.not_reporting_loop ready _ _)

/-- A call begins to report an obstacle with an iteration that finds it. -/
private theorem reporting_begins (hm : ¬ m.Reporting) (h : moveStep p command m reply = some m') (hm' : m'.Reporting) :
    ∃ l o e, Iterates command m reply l o ∧ iterate p l o = .exit e ∧ ReportsObstacle e.error := by
  cases moveStep_transition h with
  | started now odometry o ready hp =>
    have hstarted := m.start_started p command now odometry o ready
    generalize m.start p command now odometry o ready = m' at hstarted hm'
    cases hstarted with
    | raised exc => exact absurd hm' not_false
    | noOdometry =>
      have hstale := (MoveCall.reporting_publishTwist _ ready _ _).1 hm'
      simp [ReportsObstacle, Exit.noOdometry, Exit.fail] at hstale
    | planned target k startPose l ht hk hpose hplan =>
      obtain ⟨e, he, hobstacle⟩ := MoveCall.reporting_iterate _ ready hm'
      exact ⟨l, o, e, .first target k startPose now odometry o ready l hp ht hk hpose hplan, he, hobstacle⟩
  | iterated l o ready hp =>
    obtain ⟨e, he, hobstacle⟩ := m.reporting_iterate ready hm'
    exact ⟨l, o, e, .next l o ready hp, he, hobstacle⟩
  | publisherCreated h next hp =>
    cases next with
    | loop l => exact absurd hm' (m.not_reporting_loop true _ l)
    | finish e =>
      have hreports := (m.reporting_publishTwist true _ e).1 hm'
      exact absurd (by unfold MoveCall.Reporting; rw [hp]; exact hreports) hm
  | finished h e now hp => exact absurd (by unfold MoveCall.Reporting; rw [hp]; exact hm') hm
  | looped | cancelled | creationFailed | publishFailed | sleepFailed => exact absurd hm' not_false

/-! ### The gate -/

/-- What follows an iteration that has found an obstacle, of a call that had handed over the twists `before`: nothing
but a zero twist is handed over, and the call returns an obstacle stop, unless `failed`: a way out on which a publish
raises or the task is cancelled ends without a result. -/
structure Gated (p : CmdVelMotionPlugin) (command : SemanticCommand ℝ) (before : List Handed) (failed : Prop)
    (m : MoveCall) : Prop where
  handed : m.handed = before ∨ m.handed = before ++ [drivingZero]
  ended : ∀ out, m.point = .ended out →
    failed ∨ m.handed = before ++ [drivingZero] ∧ ∃ result, out = .returned result ∧ ObstacleStop result
  completes : (∀ out, m.point ≠ .ended out) →
    ∃ replies m' result, (∀ reply ∈ replies, ¬ reply.Fails) ∧ StepSystem.run (moveStep p command) m replies = some m' ∧
      m'.point = .ended (.returned result) ∧ ObstacleStop result

private theorem obstacleStop_result (l : Locals) (sector : Sector) (range elapsed : ℝ) :
    ObstacleStop ((Exit.obstacle l sector range).result command elapsed) :=
  ⟨rfl, rfl, _, _, rfl⟩

/-- A call on its way out with an obstacle is gated. -/
private theorem Leaving.gated {sector : Sector} {range : ℝ} {handed : List Handed} {failed : Prop}
    (hm : Leaving command (.obstacle l sector range) handed failed m) : Gated p command handed failed m := by
  constructor
  case handed =>
    cases hm with
    | creating hp hh => exact Or.inl hh
    | publishing h hp hh => exact Or.inr hh
    | returned elapsed hp hh => exact Or.inr hh
    | failed out hp hf hh => exact hh
  case ended =>
    intro out hout
    cases hm with
    | creating hp hh => cases hp.symm.trans hout
    | publishing h hp hh => cases hp.symm.trans hout
    | returned elapsed hp hh =>
      obtain rfl := MovePoint.ended.inj (hp.symm.trans hout)
      exact Or.inr ⟨hh, _, rfl, obstacleStop_result l sector range elapsed⟩
    | failed out hp hf hh => exact Or.inl hf
  case completes =>
    intro hlive
    obtain ⟨replies, m', elapsed, hreplies, hrun, hp⟩ := hm.completes (p := p) hlive
    exact ⟨replies, m', _, hreplies, hrun, hp, obstacleStop_result l sector range elapsed⟩

/-- An iteration that finds a beam that counts leaves the loop, and every continuation of the call is gated. -/
private theorem gated_of_counted {raw : LaserScan} {i : ℕ} {x : ℝ} {as : List MoveReply} {m₁ m₂ : MoveCall}
    (htopic : p.laserScanTopic = true) (hi : Iterates command m₁ reply l o) (hc : ChecksScan l o raw)
    (hok : ∃ analysis, analyzeLaserScan raw = .ok analysis) (hx : raw.ranges[i]? = some (.fin x))
    (hcounted : CountedBeam raw (travelSector l) l.constraints.obstacleStopDistanceM i x)
    (hstep : moveStep p command m₁ reply = some m₂) (h : StepSystem.run (moveStep p command) m₂ as = some m) :
    Gated p command m₁.handed (∃ r ∈ as, r.Fails) m := by
  obtain ⟨range, hrange⟩ := (obstacleAhead_iff htopic).2 ⟨raw, hc.scan, hok, i, x, hx, hcounted⟩
  obtain ⟨l', hexit⟩ := iterate_obstacle hc hrange
  obtain ⟨start, ready, rfl⟩ := hi.step hstep
  have hleaving : Leaving command (.obstacle l' (travelSector l) range) m₁.handed (∃ r ∈ as, r.Fails)
      (MoveCall.iterate p { m₁ with startMonotonic := start } l o ready) := by
    unfold MoveCall.iterate
    rw [hexit, hc.driving]
    exact leaving_publishTwist { m₁ with startMonotonic := start } _ ready _
  have hinvariant : Leaving command (.obstacle l' (travelSector l) range) m₁.handed (∃ r ∈ as, r.Fails) m :=
    StepSystem.run_invariant_along (G := fun _ r => r ∈ as) (fun _ r _ hs hr ha => hs.step (fun hf => ⟨r, hr, hf⟩) ha)
      hleaving (.of_forall fun _ _ hr => hr) h
  exact hinvariant.gated

variable {target : MoveTarget ℝ} {k : SafetyConstraints ℝ}

private theorem follows_run {replies : List MoveReply}
    (h : StepSystem.run (moveStep p command) MoveCall.initial replies = some m) : m.Follows command :=
  StepSystem.run_invariant (fun _ _ _ hs ha => hs.step ha) MoveCall.follows_initial h

/-- A beam ahead stops the move, and a move that reports an obstacle has read a scan with a beam that counts. -/
theorem obstacle_gate (ht : command.target = .move target) (hk : command.safetyConstraints = some k)
    (htopic : p.laserScanTopic = true) {replies : List MoveReply}
    (h : StepSystem.run (moveStep p command) MoveCall.initial replies = some m) :
    (∀ as₁ reply as₂ m₁ l o raw i x, replies = as₁ ++ reply :: as₂ →
      StepSystem.run (moveStep p command) MoveCall.initial as₁ = some m₁ → Iterates command m₁ reply l o →
      ChecksScan l o raw → BeamAhead raw target.direction.travelSector k.obstacleStopDistanceM i x →
      Gated p command m₁.handed (∃ r ∈ as₂, r.Fails) m) ∧
    (∀ result, m.point = .ended (.returned result) → ReportsObstacle result.error →
      ∃ as₁ reply as₂ m₁ l o raw i x, replies = as₁ ++ reply :: as₂ ∧
        StepSystem.run (moveStep p command) MoveCall.initial as₁ = some m₁ ∧ Iterates command m₁ reply l o ∧
        ChecksScan l o raw ∧ raw.ranges[i]? = some (.fin x) ∧
        CountedBeam raw target.direction.travelSector k.obstacleStopDistanceM i x) := by
  have hlocals : ∀ {l : Locals}, l.Follows command →
      travelSector l = target.direction.travelSector ∧ l.constraints = k := by
    intro l hl
    exact ⟨hl.travelSector ht, (Option.some.inj (hk.symm.trans hl.constraints)).symm⟩
  constructor
  · intro as₁ reply as₂ m₁ l o raw i x has h₁ hi hc hbeam
    obtain ⟨m₁', h₁', h₂⟩ := StepSystem.run_append.1 (has ▸ h)
    obtain rfl : m₁ = m₁' := Option.some.inj (h₁.symm.trans h₁')
    obtain ⟨m₂, hstep, hrest⟩ := StepSystem.run_cons.1 h₂
    obtain ⟨hsector, hlimits⟩ := hlocals (hi.follows (follows_run h₁))
    obtain ⟨a, ha, -⟩ := hbeam.angle
    obtain ⟨a₀, b, hmin, hincrement⟩ := LaserScan.finite_of_beamAngle ha
    refine gated_of_counted htopic hi hc (analyzeLaserScan_ok hmin hincrement) hbeam.range ?_ hstep hrest
    rw [hsector, hlimits]
    exact hbeam.counted
  · intro result hout hreports
    have hinit : ¬ MoveCall.initial.Reporting := not_false
    have hreporting : m.Reporting := by
      unfold MoveCall.Reporting
      rw [hout]
      exact hreports
    obtain ⟨as₁, reply, as₂, m₁, m₂, has, h₁, hstep, hm₁, hm₂⟩ := StepSystem.run_begins hinit h hreporting
    obtain ⟨l, o, e, hi, hexit, he⟩ := reporting_begins hm₁ hstep hm₂
    obtain ⟨raw, hc, i, x, hx, hcounted⟩ := checks_of_iterate htopic hexit he
    obtain ⟨hsector, hlimits⟩ := hlocals (hi.follows (follows_run h₁))
    rw [hsector, hlimits] at hcounted
    exact ⟨as₁, reply, as₂, m₁, l, o, raw, i, x, has, h₁, hi, hc, hx, hcounted⟩

end Steps

/-! ### A move with an obstacle half a metre ahead -/

/-- The controller of the sample move, with a laser scanner. -/
noncomputable def sampleScanner : CmdVelMotionPlugin := { samplePlugin with laserScanTopic := true }

/-- The limits of the sample move, with a stop distance of one metre. -/
noncomputable def stopConstraints : SafetyConstraints ℝ :=
  { sampleConstraints ℝ with obstacleStopDistanceM := ((1 : ℤ) : ℝ) }

noncomputable def stopCommand : SemanticCommand ℝ :=
  { (sampleWiring ℝ).command 0 with safetyConstraints := some stopConstraints }

/-- A scan of one beam straight ahead. -/
noncomputable def sampleScan (rangeMin : PyFloat ℝ) : LaserScan where
  header := none
  ranges := [.fin (0.5 : ℚ)]
  angleMin := .fin 0
  angleIncrement := .fin 0
  rangeMin := rangeMin
  rangeMax := .fin 1

/-- What the first iteration of the sample move reads. -/
noncomputable def scanObservation (rangeMin : PyFloat ℝ) : Observation :=
  { sampleObservation with scan := .ok (some (sampleScan rangeMin)) }

/-- The locals of the sample move at its first iteration. -/
noncomputable def stopLocals : Locals := { sampleLocals with constraints := stopConstraints }

/-- The start of the sample move. -/
noncomputable def stopStart (rangeMin : PyFloat ℝ) : MoveReply :=
  .start 0 sampleOdometry (scanObservation rangeMin) true

private theorem stop_iterates (rangeMin : PyFloat ℝ) :
    Iterates stopCommand MoveCall.initial (stopStart rangeMin) stopLocals (scanObservation rangeMin) :=
  .first ⟨.forward, some ((1 : ℤ) : ℝ), none⟩ stopConstraints samplePose 0 sampleOdometry _ true stopLocals rfl rfl rfl
    rfl rfl

private theorem stop_checksScan (rangeMin : PyFloat ℝ) :
    ChecksScan stopLocals (scanObservation rangeMin) (sampleScan rangeMin) := by
  constructor
  case running => simp [scanObservation, sampleObservation]
  case inTime => simp [scanObservation, sampleObservation, stopLocals, sampleLocals]
  case fresh => exact ⟨samplePose, rfl⟩
  case driving => rfl
  case scan => rfl

/-- The beam points straight ahead. -/
private theorem sampleScan_angle (rangeMin : PyFloat ℝ) :
    ∃ a, (sampleScan rangeMin).beamAngle 0 = .fin a ∧ representative a ∈ Sector.front.wedge := by
  have hzero : representative 0 = sixths 0 := by simp [representative, sixths]
  refine ⟨0, by simp [LaserScan.beamAngle, sampleScan], ?_⟩
  rw [hzero]
  constructor
  · exact sixths_strictMono.monotone (by decide)
  · exact sixths_strictMono (by decide)

/-- The beam is in the way, also when `range_min` is not a number. -/
private theorem sampleScan_counted {rangeMin : PyFloat ℝ} (h : ¬ .fin ((0.5 : ℚ) : ℝ) < rangeMin) :
    CountedBeam (sampleScan rangeMin) .front stopConstraints.obstacleStopDistanceM 0 (0.5 : ℚ) := by
  obtain ⟨a, ha, hmem⟩ := sampleScan_angle rangeMin
  constructor
  case notBelow => exact h
  case notAbove => norm_num [sampleScan]
  case near => norm_num [stopConstraints]
  case angle =>
    rw [ha]
    exact hmem

private theorem stop_travelSector : travelSector stopLocals = .front := if_pos zero_le_one

/-- The first iteration finds the obstacle. -/
private theorem stop_step (rangeMin : PyFloat ℝ) (h : ¬ .fin ((0.5 : ℚ) : ℝ) < rangeMin) :
    ∃ l range, moveStep sampleScanner stopCommand MoveCall.initial (stopStart rangeMin) =
      some ⟨.publishing drivingZero (.finish (.obstacle l .front range)), 0, [drivingZero]⟩ := by
  have hahead : ∃ range, obstacleAhead sampleScanner (scanObservation rangeMin).scan .front
      stopLocals.constraints.obstacleStopDistanceM = .ok (some range) :=
    (obstacleAhead_iff rfl).2 ⟨_, rfl, analyzeLaserScan_ok rfl rfl, 0, _, rfl, sampleScan_counted h⟩
  rw [← stop_travelSector] at hahead
  obtain ⟨range, hrange⟩ := hahead
  obtain ⟨l, hexit⟩ := iterate_obstacle (stop_checksScan rangeMin) hrange
  refine ⟨l, range, ?_⟩
  change some (MoveCall.iterate sampleScanner MoveCall.initial stopLocals (scanObservation rangeMin) true) = _
  unfold MoveCall.iterate
  rw [hexit, stop_travelSector]
  rfl

/-- The move returns an obstacle stop when its zero twist has been published. -/
private theorem stop_returns (rangeMin : PyFloat ℝ) (h : ¬ .fin ((0.5 : ℚ) : ℝ) < rangeMin) :
    ∃ m result, StepSystem.run (moveStep sampleScanner stopCommand) MoveCall.initial
        [stopStart rangeMin, .published (.ok ()) 0] = some m ∧
      m.point = .ended (.returned result) ∧ ObstacleStop result := by
  obtain ⟨l, range, hstep⟩ := stop_step rangeMin h
  exact ⟨_, _, StepSystem.run_cons.2 ⟨_, hstep, StepSystem.run_cons.2 ⟨_, rfl, rfl⟩⟩, rfl,
    obstacleStop_result l .front range _⟩

/-- The beam is within the limits of the scan when these are numbers. -/
private theorem sampleScan_beamAhead :
    BeamAhead (sampleScan (.fin 0)) .front stopConstraints.obstacleStopDistanceM 0 (0.5 : ℚ) := by
  constructor
  case range => rfl
  case atLeast => norm_num [sampleScan]
  case atMost => norm_num [sampleScan]
  case near => norm_num [stopConstraints]
  case angle => exact sampleScan_angle _

theorem obstacle_gate_sample : ∃ m, StepSystem.run (moveStep sampleScanner stopCommand) MoveCall.initial
      [stopStart (.fin 0), .published (.ok ()) 0] = some m ∧
    Gated sampleScanner stopCommand [] (∃ r ∈ [MoveReply.published (.ok ()) 0], r.Fails) m := by
  obtain ⟨m, result, hrun, -⟩ := stop_returns (.fin 0) (by norm_num)
  have ht : stopCommand.target = .move ⟨.forward, some ((1 : ℤ) : ℝ), none⟩ := rfl
  have hk : stopCommand.safetyConstraints = some stopConstraints := rfl
  refine ⟨m, hrun, ?_⟩
  exact (obstacle_gate ht hk rfl hrun).1 [] _ _ MoveCall.initial stopLocals _ _ 0 _ rfl rfl (stop_iterates _)
    (stop_checksScan _) sampleScan_beamAhead

/-- A move reports an obstacle although no beam is within the limits of the scan, since `range_min` is not a number; and
a move with a beam ahead returns nothing when its zero twist cannot be published. -/
theorem obstacle_gate_open :
    (∃ m result, StepSystem.run (moveStep sampleScanner stopCommand) MoveCall.initial
        [stopStart .nan, .published (.ok ()) 0] = some m ∧
      m.point = .ended (.returned result) ∧ ObstacleStop result ∧ ∀ sector d i x,
        ¬ BeamAhead (sampleScan .nan) sector d i x) ∧
    ∀ exc, ∃ m, StepSystem.run (moveStep sampleScanner stopCommand) MoveCall.initial
        [stopStart (.fin 0), .published (.error exc) 0] = some m ∧
      BeamAhead (sampleScan (.fin 0)) .front stopConstraints.obstacleStopDistanceM 0 (0.5 : ℚ) ∧
      m.point = .ended (.raised exc) := by
  constructor
  · obtain ⟨m, result, hrun, hout, hstop⟩ := stop_returns .nan (by simp)
    refine ⟨m, result, hrun, hout, hstop, ?_⟩
    intro sector d i x hbeam
    have hlimit := hbeam.atLeast
    simp [sampleScan] at hlimit
  · intro exc
    obtain ⟨l, range, hstep⟩ := stop_step (.fin 0) (by norm_num)
    exact ⟨_, StepSystem.run_cons.2 ⟨_, hstep, StepSystem.run_cons.2 ⟨_, rfl, rfl⟩⟩, sampleScan_beamAhead, rfl⟩

end RosMcp
