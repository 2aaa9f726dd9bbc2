import RosMcp.Motion.Iterations
import RosMcp.Perception.AngleWrapping

/-!
# A move against its plant

The plant is a robot that takes every published twist for one tick, and stands still in a tick without one: it drives
along its heading, and then it turns (`Pose2D.after`).  Its odometry is exact and fresh, apart from full turns of the
heading, and neither the token nor a deadline nor an obstacle intervenes (`Observation.OfPlant`).

Where some invariant of the locals is kept by every iteration against the plant, and each iteration either leaves the
loop as promised or goes on with fewer ticks left (`ClosedLoop.Lawful`), every run against the plant ends after a
bounded number of answers, and it returns what was promised (`ClosedLoop.converges`).
-/

namespace RosMcp

open Real

/-! ### The plant -/

/-- The pose after a tick. -/
noncomputable def Pose2D.after (p : CmdVelMotionPlugin) (pose : Pose2D ℝ) (twist : Twist) : Pose2D ℝ :=
  { pose with
    x := pose.x + twist.linearX * p.tickPeriodS * cos pose.yaw
    y := pose.y + twist.linearX * p.tickPeriodS * sin pose.yaw
    yaw := pose.yaw + twist.angularZ * p.tickPeriodS }

/-- Where the published twists have taken the robot. -/
noncomputable def drivenTo (p : CmdVelMotionPlugin) (startPose : Pose2D ℝ) (handed : List Handed) : Pose2D ℝ :=
  handed.foldl (fun pose h => pose.after p h.twist) startPose

/-- The pose is read up to full turns of the heading. -/
structure Pose2D.ReadAs (actual pose : Pose2D ℝ) : Prop where
  x : pose.x = actual.x
  y : pose.y = actual.y
  yaw : pose.yaw ≡ actual.yaw [PMOD 2 * π]

structure Observation.OfPlant (p : CmdVelMotionPlugin) (actual : Pose2D ℝ) (l : Locals) (o : Observation) : Prop where
  goesOn : o.GoesOn l
  clear : obstacleAhead p o.scan (travelSector l) l.constraints.obstacleStopDistanceM = .ok none
  pose : ∃ pose, currentPose o.odometry = .ok (some pose, true) ∧ actual.ReadAs pose

/-- The answer comes from the plant. -/
structure PlantReply (p : CmdVelMotionPlugin) (command : SemanticCommand ℝ) (startPose : Pose2D ℝ) (m : MoveCall)
    (reply : MoveReply) : Prop where
  answers : ¬ reply.Fails
  starts : ∀ now odometry o ready, reply = .start now odometry o ready →
    currentPose odometry = .ok (some startPose, true)
  observes : ∀ l o, Iterates command m reply l o → o.OfPlant p (drivenTo p startPose m.handed) l

section Plant

variable (p : CmdVelMotionPlugin) (startPose : Pose2D ℝ)

theorem drivenTo_concat (handed : List Handed) (h : Handed) :
    drivenTo p startPose (handed ++ [h]) = (drivenTo p startPose handed).after p h.twist := by
  simp [drivenTo]

theorem drivenTo_concat_zero (handed : List Handed) (phase : Option Phase) :
    drivenTo p startPose (handed ++ [⟨.zero, phase⟩]) = drivenTo p startPose handed := by
  rw [drivenTo_concat]
  simp [Pose2D.after, Twist.zero]

/-- The plant can be observed before the deadline. -/
private theorem exists_ofPlant (actual : Pose2D ℝ) (l : Locals) : ∃ o : Observation, o.OfPlant p actual l := by
  have hyaw := quaternionToYaw_yawToQuaternion (normalizeAngle_mem actual.yaw)
  set q := yawToQuaternion (normalizeAngle actual.yaw) with hq
  have hread : currentPose (.ok (some (⟨.ok ⟨actual.x, actual.y, 0, 0, q.z, q.w⟩, 0⟩, true))) =
      .ok (some ⟨actual.x, actual.y, quaternionToYaw q, "odom", 0⟩, true) := rfl
  refine ⟨⟨false, false, l.deadline - 1, _, .ok none⟩, ⟨by simp, by simp⟩, ?_, _, hread, rfl, rfl, ?_⟩
  · unfold obstacleAhead
    split <;> rfl
  · rw [hyaw]
    exact normalizeAngle_modEq _

end Plant

/-! ### A closed loop -/

/-- What a call promises against the plant; all of it may depend on the twists that were handed over. -/
structure ClosedLoop where
  /-- The invariant of the loop. -/
  Keeps : List Handed → Locals → Prop
  /-- What holds of the exit, with the last zero twist handed over. -/
  Reaches : List Handed → Exit → Prop
  /-- How many iterations go on, at most. -/
  ticks : List Handed → Locals → ℕ
  /-- The same, at the start. -/
  ticksAtStart : ℕ

/-- How an iteration against the plant goes on. -/
inductive ClosedLoop.Goes (c : ClosedLoop) (handed : List Handed) (l : Locals) : Iteration → Prop
  | reaches (e : Exit) (he : c.Reaches (handed ++ [⟨.zero, some l.phase⟩]) e) : c.Goes handed l (.exit e)
  | sleeps (l' : Locals) (hl' : c.Keeps handed l') (hticks : c.ticks handed l' < c.ticks handed l) :
      c.Goes handed l (.sleep l')
  | publishes (twist : Twist) (l' : Locals) (hl' : c.Keeps (handed ++ [⟨twist, some l.phase⟩]) l')
      (hticks : c.ticks (handed ++ [⟨twist, some l.phase⟩]) l' < c.ticks handed l) :
      c.Goes handed l (.publish twist l')

structure ClosedLoop.Lawful (c : ClosedLoop) (p : CmdVelMotionPlugin) (command : SemanticCommand ℝ)
    (startPose : Pose2D ℝ) : Prop where
  plans : ∃ target k, command.target = .move target ∧ command.safetyConstraints = some k ∧
    ∀ now, ∃ l, planMove command target k startPose now = .ok l ∧ c.Keeps [] l ∧ c.ticks [] l ≤ c.ticksAtStart
  goes : ∀ handed l o, c.Keeps handed l → o.OfPlant p (drivenTo p startPose handed) l →
    c.Goes handed l (iterate p l o)

namespace ClosedLoop

variable (c : ClosedLoop) (command : SemanticCommand ℝ)

/-! ### The invariant of a call -/

def NextKeeps (twists : List Handed) : Next → Prop
  | .finish e => c.Reaches twists e
  | .loop l => c.Keeps twists l

def CallKeeps (m : MoveCall) : Prop :=
  match m.point with
  | .created => m.handed = []
  | .creatingPublisher _ next | .publishing _ next => c.NextKeeps m.twists next
  | .sleeping l => c.Keeps m.twists l
  | .ended out => ∃ (e : Exit) (elapsed : ℝ), out = .returned (e.result command elapsed) ∧ c.Reaches m.twists e

def nextAnswers (twists : List Handed) : Next → ℕ
  | .finish _ => 0
  | .loop l => 3 * c.ticks twists l + 3

/-- How many answers a call awaits, at most: up to three in each tick. -/
def answersLeft (m : MoveCall) : ℕ :=
  match m.point with
  | .created => 3 * c.ticksAtStart + 4
  | .creatingPublisher _ next => c.nextAnswers m.twists next + 2
  | .publishing _ next => c.nextAnswers m.twists next + 1
  | .sleeping l => 3 * c.ticks m.twists l + 3
  | .ended _ => 0

section Steps

variable {c : ClosedLoop} {command : SemanticCommand ℝ} {p : CmdVelMotionPlugin} {startPose : Pose2D ℝ}
  {m m' : MoveCall} {reply : MoveReply} {l : Locals} {o : Observation}

/-- A call that hands over a twist keeps what is to follow. -/
private theorem callKeeps_publishTwist (command : SemanticCommand ℝ) (m : MoveCall) (ready : Bool) {h : Handed}
    {next : Next}
    (hnext : c.NextKeeps (m.handed ++ [h]) next) :
    c.CallKeeps command (m.publishTwist ready h next) ∧
      c.answersLeft (m.publishTwist ready h next) ≤ c.nextAnswers (m.handed ++ [h]) next + 2 := by
  have htwists := m.twists_publishTwist ready h next
  unfold CallKeeps answersLeft
  rw [htwists]
  unfold MoveCall.publishTwist
  cases ready with
  | false => exact ⟨hnext, le_refl _⟩
  | true => exact ⟨hnext, Nat.le_succ _⟩

/-- An iteration of a call against the plant. -/
private theorem callKeeps_iterate (hc : c.Lawful p command startPose) (hl : c.Keeps m.handed l)
    (ho : o.OfPlant p (drivenTo p startPose m.handed) l) (ready : Bool) :
    c.CallKeeps command (m.iterate p l o ready) ∧
      c.answersLeft (m.iterate p l o ready) < 3 * c.ticks m.handed l + 3 := by
  have hgoes := hc.goes m.handed l o hl ho
  unfold MoveCall.iterate
  generalize RosMcp.iterate p l o = it at hgoes
  cases hgoes with
  | reaches e he =>
    have hnext : c.NextKeeps (m.handed ++ [⟨.zero, some l.phase⟩]) (.finish e) := he
    obtain ⟨hkeeps, hleft⟩ := callKeeps_publishTwist command m ready hnext
    refine ⟨hkeeps, hleft.trans_lt ?_⟩
    simp only [nextAnswers]
    omega
  | sleeps l' hl' hticks =>
    have htwists : MoveCall.twists { m with point := .sleeping l' } = m.handed := List.append_nil _
    have hkeeps : c.Keeps (MoveCall.twists { m with point := .sleeping l' }) l' := htwists.symm ▸ hl'
    refine ⟨hkeeps, ?_⟩
    unfold answersLeft
    rw [htwists]
    dsimp only
    omega
  | publishes twist l' hl' hticks =>
    have hnext : c.NextKeeps (m.handed ++ [⟨twist, some l.phase⟩]) (.loop l') := hl'
    obtain ⟨hkeeps, hleft⟩ := callKeeps_publishTwist command m ready hnext
    refine ⟨hkeeps, hleft.trans_lt ?_⟩
    simp only [nextAnswers]
    omega

private theorem callKeeps_iterates (hc : c.Lawful p command startPose) (hi : Iterates command m reply l o)
    (hr : PlantReply p command startPose m reply) (hl : c.Keeps m.handed l)
    (hstep : moveStep p command m reply = some m') :
    c.CallKeeps command m' ∧ c.answersLeft m' < 3 * c.ticks m.handed l + 3 := by
  obtain ⟨start, ready, rfl⟩ := hi.step hstep
  exact callKeeps_iterate (m := { m with startMonotonic := start }) hc hl (hr.observes l o hi) ready

/-- Every answer of the plant keeps the invariant and leaves fewer answers. -/
private theorem callKeeps_step (hc : c.Lawful p command startPose) (hm : c.CallKeeps command m)
    (hr : PlantReply p command startPose m reply) (h : moveStep p command m reply = some m') :
    c.CallKeeps command m' ∧ c.answersLeft m' < c.answersLeft m := by
  have hanswers := hr.answers
  unfold CallKeeps at hm
  cases moveStep_transition h with
  | cancelled | creationFailed | publishFailed | sleepFailed => exact absurd trivial hanswers
  | started now odometry o ready hp =>
    obtain ⟨target, k, ht, hk, hplans⟩ := hc.plans
    obtain ⟨l, hplan, hl, hticks⟩ := hplans now
    have hi : Iterates command m (.start now odometry o ready) l o :=
      .first target k startPose now odometry o ready l hp ht hk (hr.starts _ _ _ _ rfl) hplan
    rw [hp] at hm
    have hnone : m.handed = [] := hm
    rw [← hnone] at hl hticks
    obtain ⟨hkeeps, hleft⟩ := callKeeps_iterates hc hi hr hl h
    have hstart : c.answersLeft m = 3 * c.ticksAtStart + 4 := by
      unfold answersLeft
      rw [hp]
    exact ⟨hkeeps, by omega⟩
  | iterated l o ready hp =>
    have htwists : m.twists = m.handed := by
      unfold MoveCall.twists
      rw [hp]
      exact List.append_nil _
    rw [hp, htwists] at hm
    obtain ⟨hkeeps, hleft⟩ := callKeeps_iterates hc (.next l o ready hp) hr hm h
    refine ⟨hkeeps, hleft.trans_eq ?_⟩
    unfold answersLeft
    rw [hp, htwists]
  | publisherCreated waiting next hp =>
    have htwists : (m.publishTwist true waiting next).twists = m.twists := by
      rw [m.twists_publishTwist]
      simp [MoveCall.twists, MovePoint.waiting, hp]
    rw [hp] at hm
    have hnext : c.NextKeeps (m.publishTwist true waiting next).twists next := htwists.symm ▸ hm
    refine ⟨hnext, ?_⟩
    unfold answersLeft
    rw [hp, htwists]
    exact Nat.lt_succ_self _
  | finished last e now hp =>
    have htwists : (m.endWith (.returned (e.result command (now - m.startMonotonic)))).twists = m.twists := by
      simp [MoveCall.twists, MoveCall.endWith, MovePoint.waiting, hp]
    rw [hp] at hm
    refine ⟨⟨e, _, rfl, htwists.symm ▸ hm⟩, ?_⟩
    unfold answersLeft
    rw [hp]
    exact Nat.succ_pos _
  | looped last l now hp =>
    have htwists : MoveCall.twists { m with point := .sleeping l } = m.twists := by
      simp [MoveCall.twists, MovePoint.waiting, hp]
    rw [hp] at hm
    have hnext : c.Keeps (MoveCall.twists { m with point := .sleeping l }) l := htwists.symm ▸ hm
    refine ⟨hnext, ?_⟩
    unfold answersLeft
    rw [hp, htwists]
    exact Nat.lt_succ_self _

/-- A call that has not ended goes on with some answer of the plant. -/
private theorem callKeeps_progress (hc : c.Lawful p command startPose) {odometry : OdometryRead}
    (hpose : currentPose odometry = .ok (some startPose, true)) (hlive : ¬ ∃ out, m.point = .ended out) :
    ∃ reply m', PlantReply p command startPose m reply ∧ moveStep p command m reply = some m' := by
  unfold moveStep
  rcases hp : m.point with _ | ⟨h, next⟩ | ⟨h, next⟩ | l | out
  case created =>
    obtain ⟨target, k, ht, hk, hplans⟩ := hc.plans
    obtain ⟨l, hplan, -⟩ := hplans 0
    obtain ⟨o, ho⟩ := exists_ofPlant p (drivenTo p startPose m.handed) l
    refine ⟨.start 0 odometry o true, _, ⟨not_false, ?_, ?_⟩, rfl⟩
    · rintro now odometry' o' ready ⟨⟩
      exact hpose
    · intro l' o' hi
      cases hi with
      | first target' k' start _ _ _ _ _ _ ht' hk' hpose' hplan' =>
        obtain rfl : target = target' := Target.move.inj (ht.symm.trans ht')
        obtain rfl : k = k' := Option.some.inj (hk.symm.trans hk')
        rw [hpose] at hpose'
        cases hpose'
        obtain rfl := Except.ok.inj (hplan.symm.trans hplan')
        exact ho
  case creatingPublisher =>
    refine ⟨.publisher (.ok ()), _, ⟨not_false, by simp, ?_⟩, rfl⟩
    intro l o hi
    cases hi
  case publishing =>
    refine ⟨.published (.ok ()) 0, ?_⟩
    cases next with
    | finish e =>
      refine ⟨_, ⟨not_false, by simp, ?_⟩, rfl⟩
      intro l o hi
      cases hi
    | loop l =>
      refine ⟨_, ⟨not_false, by simp, ?_⟩, rfl⟩
      intro l o hi
      cases hi
  case sleeping =>
    obtain ⟨o, ho⟩ := exists_ofPlant p (drivenTo p startPose m.handed) l
    refine ⟨.slept (.ok o) true, _, ⟨not_false, by simp, ?_⟩, rfl⟩
    intro l' o' hi
    cases hi with
    | next _ _ _ hp' =>
      obtain rfl := MovePoint.sleeping.inj (hp.symm.trans hp')
      exact ho
  case ended => exact absurd ⟨out, hp⟩ hlive

/-- What the invariant says of the twists. -/
theorem CallKeeps.twists {Q : List Handed → Prop} (hm : c.CallKeeps command m) (hnil : Q [])
    (hkeeps : ∀ twists l, c.Keeps twists l → Q twists) (hreaches : ∀ twists e, c.Reaches twists e → Q twists) :
    Q m.twists := by
  have hnext : ∀ next, c.NextKeeps m.twists next → Q m.twists := by
    intro next hnext
    cases next with
    | finish e => exact hreaches _ e hnext
    | loop l => exact hkeeps _ l hnext
  unfold CallKeeps at hm
  split at hm
  · next hp =>
    have hnone : m.twists = [] := by simp [MoveCall.twists, hm, hp, MovePoint.waiting]
    rwa [hnone]
  · exact hnext _ hm
  · exact hnext _ hm
  · exact hkeeps _ _ hm
  · obtain ⟨e, elapsed, -, he⟩ := hm
    exact hreaches _ e he

/-- Every run against the plant keeps the invariant. -/
theorem callKeeps_run (hc : c.Lawful p command startPose) {replies : List MoveReply}
    (h : StepSystem.run (moveStep p command) .initial replies = some m)
    (hanswers : StepSystem.Along (moveStep p command) (PlantReply p command startPose) .initial replies) :
    c.CallKeeps command m := by
  have hinit : c.CallKeeps command .initial := rfl
  exact StepSystem.run_invariant_along (fun _ _ _ hm hr h => (callKeeps_step hc hm hr h).1) hinit hanswers h

/-- Every run against the plant ends after a bounded number of answers, and returns what was promised. -/
theorem converges (hc : c.Lawful p command startPose) {odometry : OdometryRead}
    (hpose : currentPose odometry = .ok (some startPose, true)) {replies : List MoveReply}
    (h : StepSystem.run (moveStep p command) .initial replies = some m)
    (hanswers : StepSystem.Along (moveStep p command) (PlantReply p command startPose) .initial replies) :
    replies.length ≤ 3 * c.ticksAtStart + 4 ∧
      (∀ out, m.point = .ended out → ∃ (e : Exit) (elapsed : ℝ), out = .returned (e.result command elapsed) ∧
        c.Reaches m.handed e) ∧
      ∃ more m', StepSystem.Along (moveStep p command) (PlantReply p command startPose) m more ∧
        StepSystem.run (moveStep p command) m more = some m' ∧ ∃ out, m'.point = .ended out := by
  have hstep : ∀ m reply m', c.CallKeeps command m → PlantReply p command startPose m reply →
      moveStep p command m reply = some m' → c.CallKeeps command m' ∧ c.answersLeft m' < c.answersLeft m :=
    fun _ _ _ hm hr h => callKeeps_step hc hm hr h
  have hinit : c.CallKeeps command .initial := rfl
  have hm := callKeeps_run hc h hanswers
  refine ⟨le_of_add_le_left (StepSystem.run_length_le hstep hinit hanswers h), ?_, ?_⟩
  · intro out hp
    unfold CallKeeps at hm
    have htwists : m.twists = m.handed := by
      unfold MoveCall.twists
      rw [hp]
      exact List.append_nil _
    rwa [hp, htwists] at hm
  · exact StepSystem.run_completes hstep (fun m _ hlive => callKeeps_progress hc hpose hlive) hm

end Steps

end ClosedLoop

end RosMcp
