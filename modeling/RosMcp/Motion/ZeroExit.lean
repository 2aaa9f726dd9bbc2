import RosMcp.Motion.VelocityBounds

/-!
# The last twist of a move

Every return of `move` is preceded by a zero twist, but an exception or a cancellation leaves the coroutine at its
await without one, and the execution manager hands over no twist of its own before the `submit` ends.  So the submit of
a MOVE leaves the robot with a zero twist exactly when nothing is raised into the call, and it is not cancelled, while
the twist it handed over last is not zero (`zero_exit_iff`); the manager's own backstop is such a cancellation
(`zero_exit_missed`).

`ServedMove` is the execution of a MOVE in the manager together with the call of `move` that it awaits.
-/

namespace RosMcp

/-- Every non-zero twist is followed by a zero twist. -/
def EndsStopped (twists : List Twist) : Prop :=
  ∀ before t after, twists = before ++ t :: after → t ≠ .zero → .zero ∈ after

private theorem endsStopped_nil : EndsStopped [] := by
  intro before t after h
  exact absurd h (by simp)

/-- It is the last twist that counts. -/
private theorem endsStopped_concat {ts : List Twist} {t : Twist} : EndsStopped (ts ++ [t]) ↔ t = .zero := by
  constructor
  · intro h
    by_contra hne
    exact absurd (h ts t [] rfl hne) List.not_mem_nil
  · rintro rfl before t after h hne
    rcases List.eq_nil_or_concat after with rfl | ⟨after, u, rfl⟩
    · obtain ⟨-, hlast⟩ := List.append_inj' h rfl
      exact absurd (List.singleton_inj.1 hlast).symm hne
    · have h' : ts ++ [Twist.zero] = (before ++ t :: after) ++ [u] := by rw [h]; simp
      obtain ⟨-, hlast⟩ := List.append_inj' h' rfl
      rw [← List.singleton_inj.1 hlast]
      simp

/-! ### What can strike a call -/

/-- A sensor read of the iteration, or the analysis of its scan, raises. -/
def ReadFails (p : CmdVelMotionPlugin) (l : Locals) (o : Observation) : Prop :=
  ¬ o.isCancelled = true ∧ ¬ (o.deadlineExceeded = true ∨ l.deadline ≤ o.now) ∧
    ((∃ exc, currentPose o.odometry = .error exc) ∨
      ∃ pose exc, currentPose o.odometry = .ok (some pose, true) ∧ l.phase = .driving ∧
        obstacleAhead p o.scan (travelSector l) l.constraints.obstacleStopDistanceM = .error exc)

/-- The answer to the await of a call raises into it, cancels it, or makes the next iteration raise. -/
def Strikes (p : CmdVelMotionPlugin) (m : MoveCall) : MoveReply → Prop
  | .cancelled => True
  | .publisher (.error _) => True
  | .published (.error _) _ => True
  | .slept (.error _) _ => True
  | .slept (.ok o) _ => ∃ l, m.point = .sleeping l ∧ ReadFails p l o
  | _ => False

/-- The twist that the call handed over last is not zero. -/
def MoveCall.Driving (m : MoveCall) : Prop := ¬ EndsStopped (m.handed.map Handed.twist)

section Call

variable {p : CmdVelMotionPlugin} {command : SemanticCommand ℝ} {m m' : MoveCall}

/-- An iteration raises exactly when one of its reads does. -/
private theorem iterate_raised {l : Locals} {o : Observation} :
    (∃ exc, iterate p l o = .raised exc) ↔ ReadFails p l o := by
  constructor
  · rintro ⟨exc, hraised⟩
    have hiterated := iterate_iterated p l o
    rw [hraised] at hiterated
    cases hiterated with
    | unread exc ho hpose => exact ⟨ho.running, ho.inTime, Or.inl ⟨exc, hpose⟩⟩
    | unscanned pose exc ho hpose hphase hscan =>
      exact ⟨ho.running, ho.inTime, Or.inr ⟨pose, exc, hpose, hphase, hscan⟩⟩
  · rintro ⟨hc, ht, ⟨exc, hpose⟩ | ⟨pose, exc, hpose, hphase, hscan⟩⟩
    · refine ⟨exc, ?_⟩
      unfold iterate
      rw [if_neg hc, if_neg ht, hpose]
    · refine ⟨exc, ?_⟩
      unfold travelSector at hscan
      unfold iterate iterateFresh travelSector
      rw [if_neg hc, if_neg ht, hpose]
      dsimp only
      rw [hphase]
      dsimp only
      rw [hscan]

/-- A call that is struck ends without another twist. -/
theorem moveStep_struck {reply : MoveReply} (h : moveStep p command m reply = some m') (hs : Strikes p m reply) :
    ∃ o, m' = m.endWith o := by
  cases moveStep_transition h with
  | cancelled | creationFailed | publishFailed | sleepFailed => exact ⟨_, rfl⟩
  | started | publisherCreated | finished | looped => cases hs
  | iterated l o ready hp =>
    obtain ⟨l', hp', hfail⟩ := hs
    obtain rfl : l = l' := by rw [hp] at hp'; exact MovePoint.sleeping.inj hp'
    obtain ⟨exc, hexc⟩ := iterate_raised.2 hfail
    refine ⟨.raised exc, ?_⟩
    rw [MoveCall.iterate, hexc]

/-! ### A call that is not struck while it drives -/

def Next.Stopping (t : Twist) : Next → Prop
  | .finish _ => t = .zero
  | .loop _ => True

/-- A call that returns has a zero twist behind it or before it. -/
def MoveCall.Settled (m : MoveCall) : Prop :=
  match m.point with
  | .created => m.handed = []
  | .creatingPublisher h next => next.Stopping h.twist
  | .publishing _ (.finish _) => ¬ m.Driving
  | .ended _ => ¬ m.Driving
  | _ => True

private theorem MoveCall.Settled.publishTwist (m : MoveCall) (ready : Bool) {h : Handed} {next : Next}
    (hnext : next.Stopping h.twist) : (m.publishTwist ready h next).Settled := by
  unfold MoveCall.publishTwist
  split
  · cases next with
    | loop l => trivial
    | finish e =>
      have hz : EndsStopped (m.handed.map Handed.twist ++ [h.twist]) := endsStopped_concat.2 hnext
      intro hdriving
      apply hdriving
      simpa using hz
  · exact hnext

private theorem MoveCall.Settled.iterate {l : Locals} {o : Observation} (ready : Bool)
    (hread : m.Driving → ¬ ReadFails p l o) : (m.iterate p l o ready).Settled := by
  unfold MoveCall.iterate
  split
  · next exc hexc => exact fun hdriving => hread hdriving (iterate_raised.1 ⟨exc, hexc⟩)
  · exact MoveCall.Settled.publishTwist _ _ rfl
  · trivial
  · exact MoveCall.Settled.publishTwist _ _ trivial

/-- A call that starts has handed over nothing before. -/
private theorem Started.settled {now : ℝ} {odometry : OdometryRead} {o : Observation} {ready : Bool}
    (h : Started p command m now odometry o ready m') (hnone : m.handed = []) : m'.Settled := by
  have hstill : ¬ m.Driving := by
    intro hdriving
    apply hdriving
    rw [hnone]
    exact endsStopped_nil
  cases h with
  | raised exc => exact hstill
  | noOdometry => exact MoveCall.Settled.publishTwist _ _ rfl
  | planned target k startPose l => exact MoveCall.Settled.iterate ready fun hdriving => absurd hdriving hstill

/-- A step keeps a call settled, unless it strikes a call that drives. -/
theorem MoveCall.Settled.step (hm : m.Settled) {reply : MoveReply} (hG : m.Driving → ¬ Strikes p m reply)
    (h : moveStep p command m reply = some m') : m'.Settled := by
  by_cases hs : Strikes p m reply
  · obtain ⟨o, rfl⟩ := moveStep_struck h hs
    exact fun hdriving => hG hdriving hs
  · unfold MoveCall.Settled at hm
    cases moveStep_transition h with
    | cancelled | creationFailed | publishFailed | sleepFailed => exact absurd trivial hs
    | started now odometry o ready hp =>
      rw [hp] at hm
      exact (m.start_started p command now odometry o ready).settled hm
    | publisherCreated h next hp =>
      rw [hp] at hm
      exact MoveCall.Settled.publishTwist m true hm
    | finished h e now hp =>
      rw [hp] at hm
      exact hm
    | looped => trivial
    | iterated l o ready hp =>
      exact MoveCall.Settled.iterate ready fun hdriving hfail => hG hdriving ⟨l, hp, hfail⟩

end Call

/-! ### The submit of a MOVE -/

/-- The reply that the end of a call gives to `asyncio.wait_for` in the manager; `backstop` says that its timeout
cancelled the call. -/
def MoveOutcome.reply (backstop : Bool) : MoveOutcome → Reply ℝ
  | .returned result => .backend (.returned result)
  | .raised exc => .backend (.raised exc)
  | .cancelled => if backstop then .backend .timedOut else .cancelled

/-- The manager, and the call of `move` that one of its executions awaits. -/
structure ServedMove where
  manager : State ℝ
  call : MoveCall

inductive ServedAction
  | manager (a : Action ℝ)
  | call (reply : MoveReply)
  | backend (now : ℝ) (backstop : Bool)

/-- The steps of the manager and of the call; the execution `e` of the command object `c` goes on when the call has
ended. -/
noncomputable def servedStep (w : Wiring ℝ) (p : CmdVelMotionPlugin) (e : ExecId) (c : CommandRef) (s : ServedMove) :
    ServedAction → Option ServedMove
  | .manager (.resume e' now reply) =>
    if e' = e then none else (step w s.manager (.resume e' now reply)).map fun t => { s with manager := t }
  | .manager a => (step w s.manager a).map fun t => { s with manager := t }
  | .call reply => (moveStep p (w.command c) s.call reply).map fun m => { s with call := m }
  | .backend now backstop =>
    match s.call.point with
    | .ended o => (step w s.manager (.resume e now (o.reply backstop))).map fun t => { s with manager := t }
    | _ => none

/-- The twists that the manager itself hands over in the execution `e`, by calling `stop()` of the backend. -/
noncomputable def managerTwists (s : State ℝ) (e : ExecId) : List Twist :=
  (eventsOf s e).filterMap fun ev =>
    match ev with
    | .called _ _ .stop => some .zero
    | _ => none

/-- The twists that the submit hands over: those of the call, and those of the manager after it. -/
noncomputable def ServedMove.twists (s : ServedMove) (e : ExecId) : List Twist :=
  s.call.handed.map Handed.twist ++ managerTwists s.manager e

/-- The execution `e` has ended. -/
def ServedMove.Done (s : ServedMove) (e : ExecId) : Prop := ∃ x o, s.manager.execs e = some x ∧ x.point = .done o

/-- No step strikes the call while it drives. -/
def Unstruck (p : CmdVelMotionPlugin) (s : ServedMove) (a : ServedAction) : Prop :=
  ∀ reply, a = .call reply → s.call.Driving → ¬ Strikes p s.call reply

section Served

variable {w : Wiring ℝ} {p : CmdVelMotionPlugin} {e : ExecId} {c : CommandRef} {s s' : ServedMove} {a : ServedAction}

theorem servedStep_call (s : ServedMove) (reply : MoveReply) : servedStep w p e c s (.call reply) =
    (moveStep p (w.command c) s.call reply).map fun m => { s with call := m } := rfl

/-- A step is one of the manager beside `e`, one of the call, or the end of the await of `e`. -/
theorem servedStep_cases (h : servedStep w p e c s a = some s') :
    (∃ b t, a = .manager b ∧ (∀ now reply, b ≠ .resume e now reply) ∧ step w s.manager b = some t ∧
      s' = { s with manager := t }) ∨
    (∃ reply m, a = .call reply ∧ moveStep p (w.command c) s.call reply = some m ∧ s' = { s with call := m }) ∨
    ∃ now backstop o t, a = .backend now backstop ∧ s.call.point = .ended o ∧
      step w s.manager (.resume e now (o.reply backstop)) = some t ∧ s' = { s with manager := t } := by
  unfold servedStep at h
  split at h
  · next e' now reply =>
    split at h
    · cases h
    · next hne =>
      obtain ⟨t, ht, rfl⟩ := Option.map_eq_some_iff.1 h
      refine Or.inl ⟨_, t, rfl, ?_, ht, rfl⟩
      intro now' reply' heq
      cases heq
      exact hne rfl
  · next b hb =>
    obtain ⟨t, ht, rfl⟩ := Option.map_eq_some_iff.1 h
    exact Or.inl ⟨b, t, rfl, fun now reply heq => hb e now reply heq, ht, rfl⟩
  · next reply =>
    obtain ⟨m, hm, rfl⟩ := Option.map_eq_some_iff.1 h
    exact Or.inr (Or.inl ⟨reply, m, rfl, hm, rfl⟩)
  · next now backstop =>
    split at h
    · next o ho =>
      obtain ⟨t, ht, rfl⟩ := Option.map_eq_some_iff.1 h
      exact Or.inr (Or.inr ⟨now, backstop, o, t, rfl, ho, ht, rfl⟩)
    · cases h

/-- What is known of the manager while it serves the MOVE `c`. -/
structure Serving (w : Wiring ℝ) (e : ExecId) (c : CommandRef) (s : ServedMove) : Prop where
  consistent : Consistent w s.manager
  histories : Histories w s.manager
  command : ∃ x, s.manager.execs e = some x ∧ x.command = c
  operation : (w.command c).operation = .move
  awaits : InProgress s.manager e c ∨ ∃ o, s.call.point = .ended o

theorem Serving.step (hs : Serving w e c s) (h : servedStep w p e c s a = some s') : Serving w e c s' := by
  obtain ⟨x, hx, hc⟩ := hs.command
  rcases servedStep_cases h with ⟨b, t, -, hb, ht, rfl⟩ | ⟨reply, m, -, hm, rfl⟩ | ⟨now, backstop, o, t, -, ho, ht, rfl⟩
  · obtain ⟨x', hx', hc', hp'⟩ := step_other hs.consistent.1 ht hb hx
    have hcommand : x'.command = c := by rw [hc', hc]
    constructor
    case consistent => exact hs.consistent.step ht
    case histories => exact hs.histories.step hs.consistent.1 ht
    case command => exact ⟨x', hx', hcommand⟩
    case operation => exact hs.operation
    case awaits =>
      rcases hs.awaits with ⟨y, hy, -, hp⟩ | hended
      · obtain rfl : x = y := by rw [hx] at hy; exact Option.some.inj hy
        exact Or.inl ⟨x', hx', hcommand, by rw [hp', hp]⟩
      · exact Or.inr hended
  · refine { hs with awaits := ?awaits }
    rcases hs.awaits with hback | ⟨o, ho⟩
    · exact Or.inl hback
    · -- an ended call takes no step
      simp [moveStep, ho] at hm
  · obtain ⟨y, y', events, eff, hr, -⟩ := resume_moves ht
    obtain rfl : x = y := by have hy := hr.execs_eq; rw [hx] at hy; exact Option.some.inj hy
    constructor
    case consistent => exact hs.consistent.step ht
    case histories => exact hs.histories.step hs.consistent.1 ht
    case command => exact ⟨y', hr.execs_self, by rw [hr.command_eq, hc]⟩
    case operation => exact hs.operation
    case awaits => exact Or.inr ⟨o, ho⟩

/-- The manager hands over no twist in the execution of a MOVE. -/
private theorem Serving.managerTwists (hs : Serving w e c s) : managerTwists s.manager e = [] := by
  obtain ⟨x, hx, rfl⟩ := hs.command
  unfold RosMcp.managerTwists
  rw [List.filterMap_eq_nil_iff]
  intro ev hev
  split
  · next e' c' =>
    exact absurd hs.operation ((hs.histories.trace e x hx).ne_move_of_stop hev)
  · rfl

/-- A step that strikes a call which drives leaves it driving for good. -/
private theorem driving_of_struck {as : List ServedAction} {s₁ s₂ : ServedMove} {reply : MoveReply}
    (hd : s₁.call.Driving) (hs : Strikes p s₁.call reply) (h : servedStep w p e c s₁ (.call reply) = some s₂)
    (hrun : StepSystem.run (servedStep w p e c) s₂ as = some s) : s.call.Driving := by
  have hended : ∃ o, s₂.call = s₁.call.endWith o := by
    rcases servedStep_cases h with ⟨b, t, ha, -⟩ | ⟨reply', m, ha, hm, rfl⟩ | ⟨now, backstop, o, t, ha, -⟩
    · cases ha
    · cases ha
      exact moveStep_struck hm hs
    · cases ha
  obtain ⟨o, ho⟩ := hended
  have hkept : s.call = s₁.call.endWith o := by
    refine StepSystem.run_invariant (P := fun t : ServedMove => t.call = s₁.call.endWith o) ?_ ho hrun
    intro t b t' ht hb
    rcases servedStep_cases hb with ⟨b, u, -, -, -, rfl⟩ | ⟨reply', m, -, hm, rfl⟩ | ⟨now, backstop, o, u, -, -, -, rfl⟩
    · exact ht
    · rw [ht] at hm
      cases hm
    · exact ht
  rw [hkept]
  exact hd

/-- The submit of a MOVE leaves a zero twist behind every non-zero one exactly when no step raises into its call of
`move`, or cancels it, while the last twist of the call is not zero. -/
theorem zero_exit_iff {as : List (Action ℝ)} {s₀ : State ℝ} {bs : List ServedAction}
    (h₀ : StepSystem.run (step w) State.initial as = some s₀) (hback : InProgress s₀ e c)
    (hmove : (w.command c).operation = .move)
    (h : StepSystem.run (servedStep w p e c) ⟨s₀, MoveCall.initial⟩ bs = some s) (hdone : s.Done e) :
    EndsStopped (s.twists e) ↔
      StepSystem.Along (servedStep w p e c) (Unstruck p) ⟨s₀, MoveCall.initial⟩ bs := by
  have hserving₀ : Serving w e c ⟨s₀, MoveCall.initial⟩ := by
    obtain ⟨x, hx, hc, hp⟩ := hback
    exact ⟨consistent_run h₀, trace_run h₀, ⟨x, hx, hc⟩, hmove, Or.inl ⟨x, hx, hc, hp⟩⟩
  have hserving := StepSystem.run_invariant (fun _ _ _ hs ha => hs.step ha) hserving₀ h
  have htwists : s.twists e = s.call.handed.map Handed.twist := by
    rw [ServedMove.twists, hserving.managerTwists, List.append_nil]
  rw [htwists]
  constructor
  · intro hstopped as₁ a as₂ s₁ has h₁ reply hreply hd hs
    subst hreply
    rw [has] at h
    obtain ⟨s₁', h₁', hrest⟩ := StepSystem.run_append.1 h
    obtain rfl : s₁ = s₁' := by rw [h₁] at h₁'; exact Option.some.inj h₁'
    obtain ⟨s₂, hstep, hlast⟩ := StepSystem.run_cons.1 hrest
    exact driving_of_struck hd hs hstep hlast hstopped
  · intro halong
    have hsettled : s.call.Settled := by
      have hinit : MoveCall.initial.Settled := rfl
      refine StepSystem.run_invariant_along (P := fun t : ServedMove => t.call.Settled) ?_ hinit halong h
      intro t a t' ht hG ha
      rcases servedStep_cases ha with ⟨b, u, -, -, -, rfl⟩ | ⟨reply, m, rfl, hm, rfl⟩ |
        ⟨now, backstop, o, u, -, -, -, rfl⟩
      · exact ht
      · exact ht.step (hG reply rfl) hm
      · exact ht
    -- the execution has ended, and so has the call that it awaits
    have hended : ∃ o, s.call.point = .ended o := by
      rcases hserving.awaits with ⟨x, hx, -, hp⟩ | hended
      · obtain ⟨y, o, hy, ho⟩ := hdone
        obtain rfl : x = y := by rw [hx] at hy; exact Option.some.inj hy
        rw [hp] at ho
        cases ho
      · exact hended
    obtain ⟨o, ho⟩ := hended
    unfold MoveCall.Settled at hsettled
    rw [ho] at hsettled
    by_contra hnot
    exact hsettled hnot

end Served

/-! ### The sample move -/

/-- The sample move is on its backend and has handed over its first twist, which has been published. -/
noncomputable def sampleDriven : ServedMove :=
  ⟨sampleDispatched ℝ, ⟨.sleeping sampleDriving, 0, [⟨sampleTwist, some .driving⟩]⟩⟩

private theorem sampleDriven_reached : StepSystem.run (servedStep (sampleWiring ℝ) samplePlugin 0 0)
    ⟨sampleDispatched ℝ, MoveCall.initial⟩
    [.call (.start 0 sampleOdometry sampleObservation true), .call (.published (.ok ()) 0)] = some sampleDriven := by
  have h₁ : servedStep (sampleWiring ℝ) samplePlugin 0 0 ⟨sampleDispatched ℝ, MoveCall.initial⟩
      (.call (.start 0 sampleOdometry sampleObservation true)) =
        some ⟨sampleDispatched ℝ,
          ⟨.publishing ⟨sampleTwist, some .driving⟩ (.loop sampleDriving), 0, [⟨sampleTwist, some .driving⟩]⟩⟩ := by
    rw [servedStep_call, sampleMove_handed]
    rfl
  exact StepSystem.run_cons.2 ⟨_, h₁, StepSystem.run_cons.2 ⟨_, rfl, rfl⟩⟩

private theorem sampleTwist_ne_zero : sampleTwist ≠ .zero := by
  intro h
  have hx : sampleTwist.linearX = 0 := by rw [h]; rfl
  norm_num [sampleTwist] at hx

/-- With the sample move driving, the backstop of the manager cancels the call, or the read of the odometry in the next
iteration raises.  Either way the submit ends and the last twist it handed over is not zero. -/
theorem zero_exit_missed :
    (∃ s, StepSystem.run (servedStep (sampleWiring ℝ) samplePlugin 0 0) ⟨sampleDispatched ℝ, MoveCall.initial⟩
        [.call (.start 0 sampleOdometry sampleObservation true), .call (.published (.ok ()) 0), .call .cancelled,
          .backend 0 true] = some s ∧ s.Done 0 ∧ s.twists 0 = [sampleTwist] ∧ ¬ EndsStopped (s.twists 0)) ∧
    ∃ s, StepSystem.run (servedStep (sampleWiring ℝ) samplePlugin 0 0) ⟨sampleDispatched ℝ, MoveCall.initial⟩
        [.call (.start 0 sampleOdometry sampleObservation true), .call (.published (.ok ()) 0),
          .call (.slept (.ok { sampleObservation with odometry := .error ⟨.runtimeError, "bad message"⟩ }) true),
          .backend 0 false] = some s ∧ s.Done 0 ∧ s.twists 0 = [sampleTwist] ∧ ¬ EndsStopped (s.twists 0) := by
  have hnot : ¬ EndsStopped ([] ++ [sampleTwist]) := by
    rw [endsStopped_concat]
    exact sampleTwist_ne_zero
  have hraise : iterate samplePlugin sampleDriving
      { sampleObservation with odometry := .error ⟨.runtimeError, "bad message"⟩ } =
        .raised ⟨.runtimeError, "bad message"⟩ := by
    unfold iterate
    rw [if_neg (by simp [sampleObservation]),
      if_neg (by simp [sampleObservation, sampleDriving, sampleFresh, sampleLocals])]
    rfl
  have hstep : servedStep (sampleWiring ℝ) samplePlugin 0 0 sampleDriven
      (.call (.slept (.ok { sampleObservation with odometry := .error ⟨.runtimeError, "bad message"⟩ }) true)) =
        some { sampleDriven with call := sampleDriven.call.endWith (.raised ⟨.runtimeError, "bad message"⟩) } := by
    have hcall : moveStep samplePlugin ((sampleWiring ℝ).command 0) sampleDriven.call
        (.slept (.ok { sampleObservation with odometry := .error ⟨.runtimeError, "bad message"⟩ }) true) =
          some (sampleDriven.call.iterate samplePlugin sampleDriving
            { sampleObservation with odometry := .error ⟨.runtimeError, "bad message"⟩ } true) := rfl
    rw [servedStep_call, hcall, MoveCall.iterate, hraise]
    rfl
  constructor
  · refine ⟨_, StepSystem.run_append.2 ⟨sampleDriven, sampleDriven_reached, rfl⟩, ⟨_, _, rfl, rfl⟩, rfl, ?_⟩
    exact hnot
  · refine ⟨_, StepSystem.run_append.2 ⟨sampleDriven, sampleDriven_reached, StepSystem.run_cons.2 ⟨_, hstep, rfl⟩⟩,
      ⟨_, _, rfl, rfl⟩, rfl, ?_⟩
    exact hnot

/-- The observation of an iteration that finds the token cancelled. -/
def sampleCancelled : Observation := { sampleObservation with isCancelled := true }

/-- The end of the sample move when its token is cancelled. -/
def sampleStopping : List ServedAction :=
  [.call (.slept (.ok sampleCancelled) true), .call (.published (.ok ()) 0), .backend 0 false]

/-- When the token is cancelled instead, the submit ends after a zero twist. -/
theorem zero_exit_sample : ∃ s, StepSystem.run (servedStep (sampleWiring ℝ) samplePlugin 0 0)
    ⟨sampleDispatched ℝ, MoveCall.initial⟩ ([.call (.start 0 sampleOdometry sampleObservation true),
      .call (.published (.ok ()) 0)] ++ sampleStopping) = some s ∧
    s.twists 0 = [sampleTwist, .zero] ∧ EndsStopped (s.twists 0) := by
  have hrun : StepSystem.run (step (sampleWiring ℝ)) State.initial (.submit 0 :: sampleDispatch ℝ 0) =
    some (sampleDispatched ℝ) := rfl
  have hquiet : ∀ (s : ServedMove) reply, ¬ Strikes samplePlugin s.call reply →
      Unstruck samplePlugin s (.call reply) := by
    intro s reply hs reply' heq _
    cases heq
    exact hs
  have hcancelled : ¬ Strikes samplePlugin sampleDriven.call (.slept (.ok sampleCancelled) true) := by
    rintro ⟨l, -, hc, -⟩
    exact hc rfl
  have hbackend : ∀ s : ServedMove, Unstruck samplePlugin s (.backend 0 false) := by
    intro s reply heq
    cases heq
  have h : ∃ s, StepSystem.run (servedStep (sampleWiring ℝ) samplePlugin 0 0) sampleDriven sampleStopping = some s ∧
      s.Done 0 ∧ s.twists 0 = [sampleTwist, .zero] := ⟨_, rfl, ⟨_, _, rfl, rfl⟩, rfl⟩
  obtain ⟨s, hs, hdone, htwists⟩ := h
  refine ⟨s, StepSystem.run_append.2 ⟨sampleDriven, sampleDriven_reached, hs⟩, htwists, ?_⟩
  refine (zero_exit_iff hrun ⟨_, rfl, rfl, rfl⟩ rfl (StepSystem.run_append.2 ⟨sampleDriven, sampleDriven_reached, hs⟩)
    hdone).2 ?_
  obtain ⟨s₁, h₁, h₁₂⟩ := StepSystem.run_cons.1 sampleDriven_reached
  obtain ⟨s₂, h₂, h₂₃⟩ := StepSystem.run_cons.1 h₁₂
  obtain rfl := Option.some.inj h₂₃
  refine .cons (hquiet _ _ not_false) h₁ (.cons (hquiet _ _ not_false) h₂ (.cons (hquiet _ _ hcancelled) rfl
    (.cons (hquiet _ _ not_false) rfl (.cons (hbackend _) rfl .nil))))

end RosMcp
