import RosMcp.Motion.VelocityBounds

/-!
# What the loop of a move keeps

The locals with which a call of `move` is suspended carry the limits of its command and the sign of its direction, from
the start of the loop to its end (`MoveCall.Follows.step`).
-/

namespace RosMcp

/-- The locals with which an iteration goes on. -/
def Iteration.locals : Iteration → Option Locals
  | .raised _ | .exit _ => none
  | .sleep l | .publish _ l => some l

def Next.locals : Next → Option Locals
  | .finish _ => none
  | .loop l => some l

/-- The locals of a suspended call. -/
def MovePoint.locals : MovePoint → Option Locals
  | .created | .ended _ => none
  | .creatingPublisher _ next | .publishing _ next => next.locals
  | .sleeping l => some l

/-- The locals carry the limits of the command and the sign of its direction. -/
structure Locals.Follows (command : SemanticCommand ℝ) (l : Locals) : Prop where
  constraints : command.safetyConstraints = some l.constraints
  driveSign : ∃ target, command.target = .move target ∧ l.driveSign = target.direction.driveSign

/-- A call that is suspended in the loop has locals that follow the command. -/
def MoveCall.Follows (command : SemanticCommand ℝ) (m : MoveCall) : Prop :=
  ∀ l ∈ m.point.locals, l.Follows command

section Keeps

variable {p : CmdVelMotionPlugin} {command : SemanticCommand ℝ} {l : Locals} {m m' : MoveCall}

/-- Locals with the same limits and the same sign. -/
private theorem Locals.Follows.keep {l' : Locals} (hl : l.Follows command)
    (h : l'.constraints = l.constraints ∧ l'.driveSign = l.driveSign) : l'.Follows command := by
  constructor
  · rw [h.1]
    exact hl.constraints
  · rw [h.2]
    exact hl.driveSign

/-- An iteration leaves the limits and the sign alone. -/
private theorem Iterated.keeps {o : Observation} {it : Iteration} (h : Iterated p l o it) :
    ∀ l' ∈ it.locals, l'.constraints = l.constraints ∧ l'.driveSign = l.driveSign := by
  cases h with
  | cancelled | timedOut | unread | stale | reached | unscanned | obstacle => simp [Iteration.locals]
  | aligned | turned | driven =>
    rintro l' ⟨⟩
    exact ⟨rfl, rfl⟩

theorem planMove_follows {target : MoveTarget ℝ} {k : SafetyConstraints ℝ} {startPose : Pose2D ℝ} {start : ℝ}
    (ht : command.target = .move target) (hk : command.safetyConstraints = some k)
    (h : planMove command target k startPose start = .ok l) : l.Follows command := by
  obtain ⟨hconstraints, -, -, hsign, -⟩ := planMove_eq_ok h
  exact ⟨by rw [hk, hconstraints], target, ht, hsign⟩

private theorem MoveCall.follows_endWith (m : MoveCall) (o : MoveOutcome) : (m.endWith o).Follows command := by
  simp [MoveCall.Follows, MoveCall.endWith, MovePoint.locals]

private theorem MoveCall.follows_publishTwist (m : MoveCall) (ready : Bool) (h : Handed) {next : Next}
    (hnext : ∀ l ∈ next.locals, l.Follows command) : (m.publishTwist ready h next).Follows command := by
  unfold MoveCall.publishTwist
  split <;> exact hnext

private theorem MoveCall.follows_iterate (m : MoveCall) (hl : l.Follows command) (o : Observation) (ready : Bool) :
    (m.iterate p l o ready).Follows command := by
  have hnext : ∀ l' ∈ (RosMcp.iterate p l o).locals, l'.Follows command :=
    fun l' hl' => hl.keep ((iterate_iterated p l o).keeps l' hl')
  unfold MoveCall.iterate
  split
  · exact m.follows_endWith _
  · exact m.follows_publishTwist ready _ (by simp [Next.locals])
  · next l' he =>
    rw [he] at hnext
    exact hnext
  · next twist l' he =>
    rw [he] at hnext
    exact m.follows_publishTwist ready _ hnext

private theorem Started.follows {now : ℝ} {odometry : OdometryRead} {o : Observation} {ready : Bool}
    (h : Started p command m now odometry o ready m') : m'.Follows command := by
  cases h with
  | raised exc => exact m.follows_endWith _
  | noOdometry => exact m.follows_publishTwist ready _ (by simp [Next.locals])
  | planned target k startPose l ht hk hpose hplan => exact m.follows_iterate (planMove_follows ht hk hplan) o ready

/-- Every step of a call follows the command. -/
theorem MoveCall.Follows.step (hm : m.Follows command) {reply : MoveReply}
    (h : moveStep p command m reply = some m') : m'.Follows command := by
  unfold MoveCall.Follows at hm
  cases moveStep_transition h with
  | started now odometry o ready => exact (m.start_started p command now odometry o ready).follows
  | publisherCreated h next hp =>
    rw [hp] at hm
    exact m.follows_publishTwist true _ hm
  | looped h l now hp =>
    rw [hp] at hm
    exact hm
  | iterated l o ready hp =>
    rw [hp] at hm
    exact m.follows_iterate (hm l rfl) o ready
  | cancelled | creationFailed | publishFailed | finished | sleepFailed => exact m.follows_endWith _

theorem MoveCall.follows_initial : MoveCall.initial.Follows command := by
  simp [MoveCall.Follows, MoveCall.initial, MovePoint.locals]

end Keeps

end RosMcp
