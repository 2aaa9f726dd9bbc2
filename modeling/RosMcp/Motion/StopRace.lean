import RosMcp.Ros.Bridge
import RosMcp.Motion.ZeroExit
import RosMcp.Execution.StopPreempt

/-!
# A STOP and the twists of the move it cancels

`Race` is the execution of a MOVE with its call of `move`, a STOP whose execution calls `stop()`, and the bridge through
which both publish.  A step is one of the manager, one of the ROS thread, or one callback of the event loop, and what
lies between two awaits is one step: the check of the token and the enqueueing of the twist that follows it, and
`token.cancel()` and the enqueueing in `stop()`.  It is a race of one move with one STOP: the bridge is empty when the
MOVE is dispatched, and no other call of `move` or `stop` of the backend is in flight.

After the STOP has begun every observation of the move finds its token cancelled, so the one way for a non-zero twist to
come after the STOP's is a move that has observed its token before and still waits for the publisher.  Then the
publisher did not exist when the STOP began, the STOP waits for it too, behind the move, and the bridge answers calls in
order (`Bridge.runReady_some`).  So every twist of the move that is executed after the STOP's is zero
(`stop_not_revived`).
-/

namespace RosMcp

/-! ### The system -/

inductive Caller
  | move | stop | other
  deriving DecidableEq, Repr

/-- A callable handed to the ROS thread: the creation of the publisher, or the publish of a twist. -/
structure RosJob where
  caller : Caller
  twist : Option Twist

/-- The await at which the STOP's call of `stop()` is suspended; `waiting` is before the call. -/
inductive StopPoint
  | waiting
  | creatingPublisher (future : Nat)
  | publishing (future : Nat)
  | ended (o : MoveOutcome)

/-- `publisher` says whether `_publisher` is set, `moveFuture` is the future that the move awaits at a bridged call, and
`executed` are the twists that the ROS thread has published, in order. -/
structure Race where
  served : ServedMove
  publisher : Bool
  bridge : Bridge RosJob (Except PyException Unit)
  moveFuture : Nat
  stop : StopPoint
  executed : List (Caller × Twist)

/-- The MOVE has just been dispatched in the manager state `s`, with nothing on the bridge. -/
def Race.initial (s : State ℝ) (publisher : Bool) : Race :=
  ⟨⟨s, MoveCall.initial⟩, publisher, .initial, 0, .waiting, []⟩

inductive RaceAction
  | served (a : ServedAction)
  | handleStop (now : ℝ) (outcome : SafetyOutcome ℝ) (selected : Except PyException (Option Backend))
  | stopReturned (now : ℝ)
  | startMove (now : ℝ) (odometry : OdometryRead) (o : Observation)
  | moveSlept (reply : Except PyException Observation)
  | cancelMove
  | cancelStop
  | other
  | rosThread (outcome : Except PyException Unit)
  | eventLoop (now : ℝ) (odometry : OdometryRead)

/-- A call of `move` or `stop` of the motion backend. -/
def Event.callsMotion {N : Type} : Event N → Bool
  | .called _ _ .move | .called _ _ .stop => true
  | _ => false

/-- A call of `stop` of the motion backend. -/
def Event.callsStop {N : Type} : Event N → Bool
  | .called _ _ .stop => true
  | _ => false

/-- What the manager exchanged in a step. -/
def newEvents {N : Type} (s t : State N) : List (Event N) := t.log.drop s.log.length

/-- The token of the execution `e` is cancelled. -/
noncomputable def tokenCancelled (s : State ℝ) (e : ExecId) : Bool :=
  match s.tokenObject e with
  | some t => t.cancelled
  | none => false

/-- What the move observes: the flag of its token is the shared one. -/
noncomputable def Race.observe (r : Race) (e : ExecId) (o : Observation) : Observation :=
  { o with isCancelled := tokenCancelled r.served.manager e }

/-- The move goes on as `m`, which puts its next bridged call on the work queue. -/
def Race.moveTo (r : Race) (m : MoveCall) : Race :=
  let r := { r with served := { r.served with call := m } }
  match m.point with
  | .creatingPublisher _ _ =>
    { r with moveFuture := r.bridge.nextFuture, bridge := r.bridge.submit ⟨.move, none⟩ }
  | .publishing h _ => { r with moveFuture := r.bridge.nextFuture, bridge := r.bridge.submit ⟨.move, some h.twist⟩ }
  | _ => r

/-- `_publish_zero` of the STOP once the publisher is there. -/
noncomputable def Race.publishStop (r : Race) : Race :=
  { r with stop := .publishing r.bridge.nextFuture, bridge := r.bridge.submit ⟨.stop, some .zero⟩ }

/-- `stop()` up to its first await. -/
noncomputable def Race.beginStop (r : Race) : Race :=
  if r.publisher then r.publishStop
  else { r with stop := .creatingPublisher r.bridge.nextFuture, bridge := r.bridge.submit ⟨.stop, none⟩ }

/-- The reply that the end of `stop()` gives to the manager. -/
def MoveOutcome.stopReply : MoveOutcome → Reply ℝ
  | .returned result =>
    match result.fields with
    | .stop _ finalPose => .stop (.result finalPose)
    | _ => .stop .foreign
  | .raised exc => .stop (.raised exc)
  | .cancelled => .cancelled

/-- The future that `stop()` awaits. -/
def StopPoint.future? : StopPoint → Option Nat
  | .creatingPublisher future | .publishing future => some future
  | .waiting | .ended _ => none

/-- The move awaits a bridged call. -/
def MovePoint.bridged : MovePoint → Bool
  | .creatingPublisher _ _ | .publishing _ _ => true
  | _ => false

/-- The move goes on with the outcome of its bridged call. -/
noncomputable def Race.wakeMove (p : CmdVelMotionPlugin) (command : SemanticCommand ℝ) (r : Race)
    (outcome : Except PyException Unit) (now : ℝ) : Option Race :=
  match r.served.call.point with
  | .creatingPublisher _ _ =>
    (moveStep p command r.served.call (.publisher outcome)).map
      { r with publisher := r.publisher || outcome.toBool }.moveTo
  | _ => (moveStep p command r.served.call (.published outcome now)).map r.moveTo

/-- `stop()` goes on with the outcome of its bridged call. -/
noncomputable def Race.wakeStop (p : CmdVelMotionPlugin) (r : Race) (outcome : Except PyException Unit)
    (odometry : OdometryRead) : Race :=
  match outcome, r.stop with
  | .error exc, _ => { r with stop := .ended (.raised exc) }
  | .ok (), .creatingPublisher _ => { r with publisher := true }.publishStop
  | .ok (), _ => { r with stop := .ended (stopAfterPublish p odometry) }

/-- The task that awaits the future goes on; nobody awaits the future of a task that was cancelled. -/
noncomputable def Race.wake (p : CmdVelMotionPlugin) (command : SemanticCommand ℝ) (r : Race) (future : Nat)
    (outcome : Except PyException Unit) (now : ℝ) (odometry : OdometryRead) : Option Race :=
  if r.served.call.point.bridged = true ∧ r.moveFuture = future then r.wakeMove p command outcome now
  else if r.stop.future? = some future then some (r.wakeStop p outcome odometry)
  else some r

/-- The manager takes a step that calls neither `move` nor `stop` of the motion backend: no third call joins the
race. -/
def Race.serve (r : Race) (t : Option ServedMove) : Option Race :=
  t.bind fun t =>
    if (newEvents r.served.manager t.manager).any Event.callsMotion then none else some { r with served := t }

/-- The steps of the system; `e` is the execution of the MOVE, with the command object `c`, and `f` that of the STOP. -/
noncomputable def raceStep (w : Wiring ℝ) (p : CmdVelMotionPlugin) (e : ExecId) (c : CommandRef) (f : ExecId)
    (r : Race) : RaceAction → Option Race
  | .served (.call _) => none
  | .served (.manager (.resume e' now (.stop reply))) =>
    if e' = f then none else r.serve (servedStep w p e c r.served (.manager (.resume e' now (.stop reply))))
  | .served a => r.serve (servedStep w p e c r.served a)
  | .handleStop now outcome selected =>
    match r.stop with
    | .waiting =>
      (servedStep w p e c r.served (.manager (.resume f now (.check (.ok outcome) selected)))).bind fun t =>
        if (newEvents r.served.manager t.manager).any Event.callsStop then some { r with served := t }.beginStop
        else none
    | _ => none
  | .stopReturned now =>
    match r.stop with
    | .ended o => r.serve (servedStep w p e c r.served (.manager (.resume f now o.stopReply)))
    | _ => none
  | .startMove now odometry o =>
    (moveStep p (w.command c) r.served.call (.start now odometry (r.observe e o) r.publisher)).map r.moveTo
  | .moveSlept reply =>
    (moveStep p (w.command c) r.served.call (.slept (reply.map (r.observe e)) r.publisher)).map r.moveTo
  | .cancelMove => (moveStep p (w.command c) r.served.call .cancelled).map r.moveTo
  | .cancelStop =>
    match r.stop with
    | .creatingPublisher _ | .publishing _ => some { r with stop := .ended .cancelled }
    | _ => none
  | .other => some { r with bridge := r.bridge.submit ⟨.other, none⟩ }
  | .rosThread outcome =>
    (r.bridge.drain outcome).map fun (call, b) =>
      { r with
        bridge := b
        executed := r.executed ++ (call.job.twist.map fun t => (call.job.caller, t)).toList }
  | .eventLoop now odometry =>
    (r.bridge.runReady).bind fun (woken, b) =>
      match woken with
      | none => some { r with bridge := b }
      | some (call, outcome) => { r with bridge := b }.wake p (w.command c) call.future outcome now odometry

/-! ### The published twists -/

/-- The twist of a callable, with its caller. -/
def RosJob.publishes (job : RosJob) : Option (Caller × Twist) := job.twist.map fun t => (job.caller, t)

/-- The twists in the order in which they are executed: those that have been, and those on the work queue. -/
def Race.sequence (r : Race) : List (Caller × Twist) :=
  r.executed ++ r.bridge.workQueue.filterMap fun call => call.job.publishes

/-- Every twist of the move after a twist of the STOP is zero. -/
def Quiet (l : List (Caller × Twist)) : Prop :=
  l.Pairwise fun a b => a.1 = .stop → b.1 = .move → b.2 = .zero

def NoStop (l : List (Caller × Twist)) : Prop := ∀ x ∈ l, x.1 ≠ .stop

section Sequence

variable {r r' : Race} {l : List (Caller × Twist)} {b : Bridge RosJob (Except PyException Unit)}

private theorem Quiet.concat_stop (h : Quiet l) (t : Twist) : Quiet (l ++ [(.stop, t)]) := by
  refine List.pairwise_append.2 ⟨h, List.pairwise_singleton _ _, ?_⟩
  intro x _ y hy _ hmove
  rw [List.mem_singleton.1 hy] at hmove
  cases hmove

private theorem Quiet.concat_move (h : Quiet l) {t : Twist} (ht : t = .zero ∨ NoStop l) : Quiet
    (l ++ [(.move, t)]) := by
  refine List.pairwise_append.2 ⟨h, List.pairwise_singleton _ _, ?_⟩
  intro x hx y hy hstop _
  rw [List.mem_singleton.1 hy]
  rcases ht with ht | ht
  · exact ht
  · exact absurd hstop (ht x hx)

private theorem sequence_submit (r : Race) (job : RosJob) (hb : r'.bridge = r.bridge.submit job)
    (he : r'.executed = r.executed) : r'.sequence = r.sequence ++ job.publishes.toList := by
  unfold Race.sequence
  rw [hb, he, Bridge.submit, List.filterMap_append, List.append_assoc]
  cases hj : job.publishes <;> simp [hj]

/-- The creation of a publisher publishes nothing. -/
private theorem sequence_submit_create (r : Race) (caller : Caller) (hb : r'.bridge = r.bridge.submit ⟨caller, none⟩)
    (he : r'.executed = r.executed) : r'.sequence = r.sequence := by
  rw [sequence_submit r _ hb he]
  exact List.append_nil _

private theorem sequence_same (hw : r'.bridge.workQueue = r.bridge.workQueue) (he : r'.executed = r.executed) :
    r'.sequence = r.sequence := by
  unfold Race.sequence
  rw [hw, he]

/-- A callable that is run moves from the work queue to what has been executed. -/
private theorem sequence_drain {outcome : Except PyException Unit} {call : BridgedCall RosJob}
    (hd : r.bridge.drain outcome = some (call, r'.bridge))
    (he : r'.executed = r.executed ++ (call.job.twist.map fun t => (call.job.caller, t)).toList) :
    r'.sequence = r.sequence := by
  unfold Race.sequence
  rw [he, (Bridge.drain_eq hd).1, List.append_assoc]
  congr 1
  cases ht : call.job.twist <;> simp [RosJob.publishes, ht]

end Sequence

/-! ### The token of the move -/

private theorem tokenCancelled_iff {s : State ℝ} {e : ExecId} : tokenCancelled s e = true ↔ Cancelled s e := by
  unfold tokenCancelled Cancelled
  cases s.tokenObject e <;> simp

section Token

variable {w : Wiring ℝ} {p : CmdVelMotionPlugin} {e f : ExecId} {c : CommandRef} {s s' : ServedMove}

/-- The calls of `stop` that a step makes are those of a STOP that has looked up the active command. -/
private theorem Moves.of_callsStop {w : Wiring ℝ} {s : State ℝ} {c : CommandRef} {q q' : Point ℝ}
    {events : List (Event ℝ)}
    {eff : RegistryEffect ℝ} (hm : Moves w s e c q q' events eff) (hcall : events.any Event.callsStop = true) :
    eff = .cancelToken (stopToken w s (w.command c)) ∧ q ≠ .backend := by
  cases hm with
  | stopCalled | stopNavigationCalled | stopNoBackend => exact ⟨rfl, by simp⟩
  | dispatched q b token call hop hnew =>
    have hstop : call = .stop := by
      cases call <;> simp [Event.callsStop] at hcall ⊢
    subst hstop
    generalize (w.command c).operation = op at hop
    cases hop
  | _ => simp [Event.callsStop] at hcall

/-- A STOP that finds the move as the active command cancels its token in the step in which it calls `stop()`. -/
private theorem Serving.stop_cancels (hs : Serving w e c s) {now : ℝ} {reply : Reply ℝ} {t : State ℝ}
    (hstep : RosMcp.step w s.manager (.resume f now reply) = some t)
    (hcall : (newEvents s.manager t).any Event.callsStop = true)
    (hactive : ∀ y, s.manager.execs f = some y →
      s.manager.activeCommands (w.command y.command).robotId = some c) :
    Cancelled t e ∨ ∃ o, s.call.point = .ended o := by
  obtain ⟨y, y', events, eff, hr, -⟩ := resume_moves hstep
  have hnew : newEvents s.manager t = events := by
    unfold newEvents
    rw [hr.log, List.drop_left]
  rw [hnew] at hcall
  obtain ⟨rfl, hq⟩ := hr.moves.of_callsStop hcall
  obtain ⟨e', hin, -, hcancelled⟩ := hr.cancels_active hs.consistent hq (hactive y hr.execs_eq)
  rcases hs.awaits with hback | hended
  · obtain ⟨rfl, -⟩ := InProgress.unique hs.consistent.1 hback hin rfl
    exact Or.inl hcancelled
  · exact Or.inr hended

/-- A step of the manager leaves the call alone and takes no cancellation back. -/
private theorem Serving.manager_step (hs : Serving w e c s) {a : ServedAction} (ha : ∀ reply, a ≠ .call reply)
    (h : servedStep w p e c s a = some s') : s'.call = s.call ∧ Later s.manager s'.manager := by
  rcases servedStep_cases h with ⟨b, t, -, -, ht, rfl⟩ | ⟨reply, m, hreply, -⟩ | ⟨now, backstop, o, t, -, -, ht, rfl⟩
  · exact ⟨rfl, step_later hs.consistent.1 hs.consistent.2 ht⟩
  · exact absurd hreply (ha reply)
  · exact ⟨rfl, step_later hs.consistent.1 hs.consistent.2 ht⟩

end Token

/-! ### The invariant -/

/-- What does not depend on the await of the move. -/
structure Race.Ordered (r : Race) : Prop where
  order : r.bridge.InOrder
  before : r.stop = .waiting → NoStop r.sequence
  quiet : Quiet r.sequence

/-- A step that leaves the sequence of twists as it is, and begins no STOP. -/
private theorem Race.Ordered.of_sequence {r r' : Race} (ho : r.Ordered) (horder : r'.bridge.InOrder)
    (hstop : r'.stop = .waiting → r.stop = .waiting) (hseq : r'.sequence = r.sequence) : r'.Ordered where
  order := horder
  before h := by
    rw [hseq]
    exact ho.before (hstop h)
  quiet := by
    rw [hseq]
    exact ho.quiet

/-- The invariant of the system: `cancelled` and `before` say what holds once the STOP has begun and until then, and
`creating` that a STOP which comes while the move waits for the publisher with a non-zero twist waits behind it. -/
structure RaceInv (w : Wiring ℝ) (e : ExecId) (c : CommandRef) (r : Race) : Prop where
  serving : Serving w e c r.served
  ordered : r.Ordered
  cancelled : r.stop ≠ .waiting → Cancelled r.served.manager e ∨ ∃ o, r.served.call.point = .ended o
  awaited : ∀ h next, r.served.call.point = .creatingPublisher h next → r.moveFuture ∈ r.bridge.pending
  creating : ∀ h next, r.served.call.point = .creatingPublisher h next → h.twist ≠ .zero →
    r.publisher = false ∧ NoStop r.sequence ∧ ∀ future, r.stop = .creatingPublisher future → r.moveFuture < future

section Invariant

variable {w : Wiring ℝ} {p : CmdVelMotionPlugin} {e f : ExecId} {c : CommandRef} {r r' : Race} {m m' : MoveCall}

private theorem Race.initial_inv {s : State ℝ} {publisher : Bool} (hs : Serving w e c ⟨s, MoveCall.initial⟩) :
    RaceInv w e c (Race.initial s publisher) where
  serving := hs
  ordered := ⟨Bridge.initial_inOrder, fun _ => by simp [NoStop, Race.sequence, Race.initial, Bridge.initial],
    by simp [Quiet, Race.sequence, Race.initial, Bridge.initial]⟩
  cancelled h := absurd rfl h
  awaited h next hp := by cases hp
  creating h next hp := by cases hp

/-- The move goes on as `m`. -/
private theorem RaceInv.moveTo (hserving : Serving w e c { r.served with call := m }) (ho : r.Ordered)
    (hcancelled : r.stop ≠ .waiting → Cancelled r.served.manager e)
    (hpublish : ∀ h next, m.point = .publishing h next → h.twist = .zero ∨ NoStop r.sequence)
    (hcreate : ∀ h next, m.point = .creatingPublisher h next → h.twist ≠ .zero →
      r.publisher = false ∧ NoStop r.sequence ∧ ∀ future, r.stop ≠ .creatingPublisher future) :
    RaceInv w e c (r.moveTo m) := by
  unfold Race.moveTo
  dsimp only
  split
  · next h next hp =>
    have hseq : Race.sequence { r with
        served := { r.served with call := m }, moveFuture := r.bridge.nextFuture
        bridge := r.bridge.submit ⟨.move, none⟩ } = r.sequence :=
      sequence_submit_create r .move rfl rfl
    constructor
    case serving => exact hserving
    case ordered => exact ho.of_sequence (ho.order.submit _) id hseq
    case cancelled => exact fun hstop => Or.inl (hcancelled hstop)
    case awaited =>
      intro h' next' _
      rw [Bridge.submit_pending]
      simp
    case creating =>
      intro h' next' hp' hne
      rw [hseq]
      obtain ⟨hpub, hno, hstop⟩ := hcreate h' next' hp' hne
      exact ⟨hpub, hno, fun future hf => absurd hf (hstop future)⟩
  · next h next hp =>
    have hseq : Race.sequence { r with
        served := { r.served with call := m }, moveFuture := r.bridge.nextFuture
        bridge := r.bridge.submit ⟨.move, some h.twist⟩ } = r.sequence ++ [(.move, h.twist)] :=
      sequence_submit r ⟨.move, some h.twist⟩ rfl rfl
    have hbefore : r.stop = .waiting → NoStop (r.sequence ++ [(.move, h.twist)]) := by
      intro hwaiting x hx
      rcases List.mem_append.1 hx with hx | hx
      · exact ho.before hwaiting x hx
      · rw [List.mem_singleton.1 hx]
        simp
    have hquiet : Quiet (r.sequence ++ [(.move, h.twist)]) := ho.quiet.concat_move (hpublish h next hp)
    rw [← hseq] at hbefore hquiet
    constructor
    case serving => exact hserving
    case ordered => exact ⟨ho.order.submit _, hbefore, hquiet⟩
    case cancelled => exact fun hstop => Or.inl (hcancelled hstop)
    case awaited | creating =>
      intro h' next' hp'
      rw [hp] at hp'
      cases hp'
  · next hnc hnp =>
    constructor
    case serving => exact hserving
    case ordered => exact ho.of_sequence ho.order id rfl
    case cancelled => exact fun hstop => Or.inl (hcancelled hstop)
    case awaited | creating =>
      intro h' next' hp'
      exact absurd hp' (hnc h' next')

/-- A call that takes a step has not ended, so after the STOP has begun its token is cancelled. -/
private theorem RaceInv.cancelled_of_step (hr : RaceInv w e c r) {reply : MoveReply}
    (h : moveStep p (w.command c) r.served.call reply = some m) :
    r.stop ≠ .waiting → Cancelled r.served.manager e := by
  intro hstop
  rcases hr.cancelled hstop with hc | ⟨o, ho⟩
  · exact hc
  · simp [moveStep, ho] at h

private theorem RaceInv.serving_step (hr : RaceInv w e c r) {reply : MoveReply}
    (h : moveStep p (w.command c) r.served.call reply = some m) : Serving w e c { r.served with call := m } :=
  hr.serving.step (p := p) (a := .call reply) (by rw [servedStep_call, h]; rfl)

/-- A call that has observed the shared token goes on. -/
private theorem RaceInv.observed (hr : RaceInv w e c r) (hserving : Serving w e c { r.served with call := m' })
    (hcancelled : r.stop ≠ .waiting → Cancelled r.served.manager e)
    (hm : Continues m r.publisher (tokenCancelled r.served.manager e) m') : RaceInv w e c (r.moveTo m') := by
  -- a non-zero twist is published before the STOP only
  have hbefore : ∀ h : Handed, (tokenCancelled r.served.manager e = true → h.twist = .zero) →
      h.twist ≠ .zero → r.stop = .waiting := by
    intro h hz hne
    by_contra hstop
    exact hne (hz (tokenCancelled_iff.2 (hcancelled hstop)))
  refine RaceInv.moveTo hserving hr.ordered hcancelled ?_ ?_
  · intro h next hp
    cases hm with
    | ends o => cases hp
    | sleeps l => cases hp
    | publishes h' next' hz =>
      unfold MoveCall.publishTwist at hp
      split at hp
      · cases hp
        by_cases hne : h.twist = .zero
        · exact Or.inl hne
        · exact Or.inr (hr.ordered.before (hbefore h hz hne))
      · cases hp
  · intro h next hp hne
    cases hm with
    | ends o => cases hp
    | sleeps l => cases hp
    | publishes h' next' hz =>
      unfold MoveCall.publishTwist at hp
      split at hp
      · cases hp
      · next hready =>
        cases hp
        have hstop := hbefore h hz hne
        refine ⟨by simpa using hready, hr.ordered.before hstop, ?_⟩
        intro future hf
        rw [hstop] at hf
        cases hf

/-! ### The steps of the STOP -/

/-- `_publish_zero` of the STOP, while the move does not wait for the publisher with a non-zero twist. -/
private theorem RaceInv.publishStop (hr : RaceInv w e c r)
    (hcancelled : Cancelled r.served.manager e ∨ ∃ o, r.served.call.point = .ended o)
    (hnone : ∀ h next, r.served.call.point = .creatingPublisher h next → h.twist = .zero) :
    RaceInv w e c r.publishStop := by
  have hseq : r.publishStop.sequence = r.sequence ++ [(.stop, .zero)] :=
    sequence_submit r ⟨.stop, some .zero⟩ rfl rfl
  have hpending : r.publishStop.bridge.pending = r.bridge.pending ++ [r.bridge.nextFuture] :=
    Bridge.submit_pending _ _
  have hquiet : Quiet (r.sequence ++ [(.stop, .zero)]) := hr.ordered.quiet.concat_stop _
  rw [← hseq] at hquiet
  constructor
  case serving => exact hr.serving
  case ordered => exact ⟨hr.ordered.order.submit _, (by intro h; cases h), hquiet⟩
  case cancelled => exact fun _ => hcancelled
  case awaited =>
    intro h next hp
    rw [hpending]
    exact List.mem_append_left _ (hr.awaited h next hp)
  case creating =>
    intro h next hp hne
    exact absurd (hnone h next hp) hne

/-- The STOP begins in the step in which the token is cancelled. -/
private theorem RaceInv.beginStop (hr : RaceInv w e c r)
    (hcancelled : Cancelled r.served.manager e ∨ ∃ o, r.served.call.point = .ended o) :
    RaceInv w e c r.beginStop := by
  unfold Race.beginStop
  by_cases hp : r.publisher = true
  · rw [if_pos hp]
    refine hr.publishStop hcancelled ?_
    intro h next hpoint
    by_contra hne
    rw [(hr.creating h next hpoint hne).1] at hp
    cases hp
  · rw [if_neg hp]
    have hseq : Race.sequence { r with
        stop := .creatingPublisher r.bridge.nextFuture, bridge := r.bridge.submit ⟨.stop, none⟩ } = r.sequence :=
      sequence_submit_create r .stop rfl rfl
    constructor
    case serving => exact hr.serving
    case ordered => exact hr.ordered.of_sequence (hr.ordered.order.submit _) (by intro h; cases h) hseq
    case cancelled => exact fun _ => hcancelled
    case awaited =>
      intro h next hpoint
      rw [Bridge.submit_pending]
      exact List.mem_append_left _ (hr.awaited h next hpoint)
    case creating =>
      intro h next hpoint hne
      rw [hseq]
      refine ⟨by simpa using hp, (hr.creating h next hpoint hne).2.1, ?_⟩
      -- the STOP waits for the publisher behind the move
      intro future hfuture
      obtain rfl := StopPoint.creatingPublisher.inj hfuture
      exact hr.ordered.order.fresh _ (hr.awaited h next hpoint)

/-- The STOP has ended. -/
private theorem RaceInv.endStop (hr : RaceInv w e c r) (hbegun : r.stop ≠ .waiting) (o : MoveOutcome) :
    RaceInv w e c { r with stop := .ended o } := by
  constructor
  case serving => exact hr.serving
  case ordered => exact hr.ordered.of_sequence hr.ordered.order (by intro h; cases h) rfl
  case cancelled => exact fun _ => hr.cancelled hbegun
  case awaited => exact hr.awaited
  case creating =>
    intro h next hp hne
    obtain ⟨hpub, hno, -⟩ := hr.creating h next hp hne
    exact ⟨hpub, hno, fun future hf => by cases hf⟩

/-! ### The event loop -/

/-- A call that is answered and that the move does not await. -/
private theorem RaceInv.answered (hr : RaceInv w e c r) {call : BridgedCall RosJob} {outcome : Except PyException Unit}
    {b : Bridge RosJob (Except PyException Unit)} (hb : r.bridge.runReady = some (some (call, outcome), b))
    (hother : ¬ (r.served.call.point.bridged = true ∧ r.moveFuture = call.future)) :
    RaceInv w e c { r with bridge := b } := by
  obtain ⟨horder, -, -⟩ := hr.ordered.order.runReady_some hb
  have hseq : Race.sequence { r with bridge := b } = r.sequence := sequence_same (Bridge.runReady_eq hb).1 rfl
  constructor
  case serving => exact hr.serving
  case ordered => exact hr.ordered.of_sequence horder id hseq
  case cancelled => exact hr.cancelled
  case awaited =>
    intro h next hp
    have hmem := hr.awaited h next hp
    rw [Bridge.runReady_some hb, List.mem_cons] at hmem
    rcases hmem with heq | hmem
    · have hbridged : r.served.call.point.bridged = true := by rw [hp]; rfl
      exact absurd ⟨hbridged, heq⟩ hother
    · exact hmem
  case creating =>
    intro h next hp hne
    rw [hseq]
    exact hr.creating h next hp hne

/-- The STOP goes on with the outcome of its bridged call. -/
private theorem RaceInv.wakeStop (hr : RaceInv w e c r) {call : BridgedCall RosJob} {outcome : Except PyException Unit}
    {b : Bridge RosJob (Except PyException Unit)} (hb : r.bridge.runReady = some (some (call, outcome), b))
    (hother : ¬ (r.served.call.point.bridged = true ∧ r.moveFuture = call.future))
    (hstop : r.stop.future? = some call.future) (odometry : OdometryRead) :
    RaceInv w e c (Race.wakeStop p { r with bridge := b } outcome odometry) := by
  have hanswered := hr.answered hb hother
  have hbegun : r.stop ≠ .waiting := by
    intro h
    rw [h] at hstop
    cases hstop
  unfold Race.wakeStop
  dsimp only
  split
  · exact hanswered.endStop hbegun _
  · next future hpoint =>
    -- a move that still waits for the publisher would have been answered first
    have hnone : ∀ h next, r.served.call.point = .creatingPublisher h next → h.twist = .zero := by
      intro h next hp
      by_contra hne
      have hlt := (hr.creating h next hp hne).2.2 future hpoint
      have hle := (hr.ordered.order.runReady_some hb).2.2 _ (hr.awaited h next hp)
      rw [hpoint] at hstop
      obtain rfl := Option.some.inj hstop
      omega
    have hpublisher : RaceInv w e c { r with bridge := b, publisher := true } :=
      { serving := hanswered.serving
        ordered := hanswered.ordered.of_sequence hanswered.ordered.order id rfl
        cancelled := hanswered.cancelled
        awaited := hanswered.awaited
        creating := fun h next hp hne => absurd (hnone h next hp) hne }
    exact hpublisher.publishStop (hr.cancelled hbegun) hnone
  · exact hanswered.endStop hbegun _

/-- The move goes on with the outcome of its bridged call. -/
private theorem RaceInv.wakeMove (hr : RaceInv w e c r) {call : BridgedCall RosJob} {outcome : Except PyException Unit}
    {b : Bridge RosJob (Except PyException Unit)} (hb : r.bridge.runReady = some (some (call, outcome), b))
    {now : ℝ} (h : Race.wakeMove p (w.command c) { r with bridge := b } outcome now = some r') : RaceInv w e c r' := by
  have hseq : ∀ publisher, Race.sequence { r with bridge := b, publisher := publisher } = r.sequence :=
    fun _ => sequence_same (Bridge.runReady_eq hb).1 rfl
  have hordered : ∀ publisher, Race.Ordered { r with bridge := b, publisher := publisher } := by
    intro publisher
    exact hr.ordered.of_sequence (hr.ordered.order.runReady_some hb).1 id (hseq publisher)
  unfold Race.wakeMove at h
  dsimp only at h
  split at h
  · next hd nx hp =>
    obtain ⟨m, hm, rfl⟩ := Option.map_eq_some_iff.1 h
    have hserving := hr.serving_step hm
    have hcancelled := hr.cancelled_of_step hm
    cases moveStep_transition hm with
    | creationFailed => exact RaceInv.moveTo hserving (hordered _) hcancelled (by rintro _ _ ⟨⟩) (by rintro _ _ ⟨⟩)
    | publisherCreated h' next' hp' =>
      -- the twist is the one with which the move has waited
      obtain ⟨rfl, rfl⟩ := MovePoint.creatingPublisher.inj (hp.symm.trans hp')
      refine RaceInv.moveTo hserving (hordered _) hcancelled ?_ (by rintro _ _ ⟨⟩)
      rintro _ _ ⟨⟩
      rw [hseq]
      by_cases hne : hd.twist = .zero
      · exact Or.inl hne
      · exact Or.inr (hr.creating hd nx hp hne).2.1
  · obtain ⟨m, hm, rfl⟩ := Option.map_eq_some_iff.1 h
    have hserving := hr.serving_step hm
    have hcancelled := hr.cancelled_of_step hm
    cases moveStep_transition hm with
    | publishFailed | finished | looped =>
      exact RaceInv.moveTo hserving (hordered r.publisher) hcancelled (by rintro _ _ ⟨⟩) (by rintro _ _ ⟨⟩)

/-- The awaiting task goes on. -/
private theorem RaceInv.wake (hr : RaceInv w e c r) {call : BridgedCall RosJob} {outcome : Except PyException Unit}
    {b : Bridge RosJob (Except PyException Unit)} (hb : r.bridge.runReady = some (some (call, outcome), b)) {now : ℝ}
    {odometry : OdometryRead}
    (h : Race.wake p (w.command c) { r with bridge := b } call.future outcome now odometry = some r') :
    RaceInv w e c r' := by
  unfold Race.wake at h
  split at h
  · exact hr.wakeMove hb h
  · next hmove =>
    split at h
    · next hstop =>
      obtain rfl := Option.some.inj h
      exact hr.wakeStop hb hmove hstop odometry
    · obtain rfl := Option.some.inj h
      exact hr.answered hb hmove

/-- Calls are added to the bridge or a step of it is taken that answers none and publishes nothing new. -/
private theorem RaceInv.rebridge (hr : RaceInv w e c r) {b : Bridge RosJob (Except PyException Unit)}
    {executed : List (Caller × Twist)} (hb : b.InOrder) (hpending : ∀ t ∈ r.bridge.pending, t ∈ b.pending)
    (hseq : Race.sequence { r with bridge := b, executed := executed } = r.sequence) :
    RaceInv w e c { r with bridge := b, executed := executed } := by
  constructor
  case serving => exact hr.serving
  case ordered => exact hr.ordered.of_sequence hb id hseq
  case cancelled => exact hr.cancelled
  case awaited => exact fun h next hp => hpending _ (hr.awaited h next hp)
  case creating =>
    intro h next hp hne
    rw [hseq]
    exact hr.creating h next hp hne

/-- A future is completed. -/
private theorem RaceInv.completed (hr : RaceInv w e c r) {b : Bridge RosJob (Except PyException Unit)}
    (hb : r.bridge.runReady = some (none, b)) : RaceInv w e c { r with bridge := b } := by
  refine hr.rebridge (hr.ordered.order.runReady_none hb) ?_ (sequence_same (Bridge.runReady_eq hb).1 rfl)
  intro t ht
  rw [Bridge.runReady_none hb]
  exact ht

/-- The ROS thread runs a callable. -/
private theorem RaceInv.rosThread (hr : RaceInv w e c r) {call : BridgedCall RosJob} {outcome : Except PyException Unit}
    {b : Bridge RosJob (Except PyException Unit)} (hb : r.bridge.drain outcome = some (call, b)) :
    RaceInv w e c { r with
      bridge := b
      executed := r.executed ++ (call.job.twist.map fun t => (call.job.caller, t)).toList } := by
  refine hr.rebridge (hr.ordered.order.drain hb) ?_ (sequence_drain hb rfl)
  intro t ht
  rw [Bridge.drain_pending hb]
  exact ht

/-- Another component uses the bridge. -/
private theorem RaceInv.other (hr : RaceInv w e c r) :
    RaceInv w e c { r with bridge := r.bridge.submit ⟨.other, none⟩ } := by
  refine hr.rebridge (hr.ordered.order.submit _) ?_ (sequence_submit_create r .other rfl rfl)
  intro t ht
  rw [Bridge.submit_pending]
  exact List.mem_append_left _ ht

/-! ### The steps of the move -/

/-- The move ends. -/
private theorem RaceInv.endMove (hr : RaceInv w e c r) {o : MoveOutcome}
    (hserving : Serving w e c { r.served with call := m.endWith o })
    (hcancelled : r.stop ≠ .waiting → Cancelled r.served.manager e) : RaceInv w e c (r.moveTo (m.endWith o)) := by
  refine RaceInv.moveTo hserving hr.ordered hcancelled ?_ ?_
  · intro h next hp
    cases hp
  · intro h next hp
    cases hp

private theorem RaceInv.startMove (hr : RaceInv w e c r) {now : ℝ} {odometry : OdometryRead} {o : Observation}
    (h : (moveStep p (w.command c) r.served.call (.start now odometry (r.observe e o) r.publisher)).map r.moveTo =
      some r') : RaceInv w e c r' := by
  obtain ⟨m, hm, rfl⟩ := Option.map_eq_some_iff.1 h
  have hserving := hr.serving_step hm
  have hcancelled := hr.cancelled_of_step hm
  cases moveStep_transition hm with
  | started =>
    exact hr.observed hserving hcancelled
      (MoveCall.start_continues r.served.call now odometry (r.observe e o) r.publisher)

private theorem RaceInv.moveSlept (hr : RaceInv w e c r) {reply : Except PyException Observation}
    (h : (moveStep p (w.command c) r.served.call (.slept (reply.map (r.observe e)) r.publisher)).map r.moveTo =
      some r') : RaceInv w e c r' := by
  obtain ⟨m, hm, rfl⟩ := Option.map_eq_some_iff.1 h
  cases reply with
  | error exc =>
    obtain ⟨o, rfl⟩ := moveStep_struck hm trivial
    exact hr.endMove (hr.serving_step hm) (hr.cancelled_of_step hm)
  | ok o =>
    have hserving := hr.serving_step hm
    have hcancelled := hr.cancelled_of_step hm
    cases moveStep_transition hm with
    | iterated l =>
      exact hr.observed hserving hcancelled
        (MoveCall.iterate_continues r.served.call l (r.observe e o) r.publisher)

/-! ### Runs -/

/-- A STOP that gets to its lookup finds the move as the active command of its robot. -/
def FindsMove (w : Wiring ℝ) (c : CommandRef) (f : ExecId) (r : Race) (a : RaceAction) : Prop :=
  ∀ now outcome selected y, a = .handleStop now outcome selected → r.served.manager.execs f = some y →
    r.served.manager.activeCommands (w.command y.command).robotId = some c

/-- The manager goes on without a call of the motion backend. -/
private theorem RaceInv.serve (hr : RaceInv w e c r) {a : ServedAction} (ha : ∀ reply, a ≠ .call reply)
    (h : r.serve (servedStep w p e c r.served a) = some r') : RaceInv w e c r' := by
  unfold Race.serve at h
  obtain ⟨t, ht, h⟩ := Option.bind_eq_some_iff.1 h
  split at h
  · cases h
  · obtain rfl := Option.some.inj h
    obtain ⟨hcall, hlater⟩ := hr.serving.manager_step ha ht
    constructor
    case serving => exact hr.serving.step ht
    case ordered => exact hr.ordered.of_sequence hr.ordered.order id rfl
    case cancelled =>
      intro hstop
      rw [hcall]
      rcases hr.cancelled hstop with hc | hended
      · exact Or.inl (hlater.cancelled_of hc)
      · exact Or.inr hended
    case awaited =>
      rw [hcall]
      exact hr.awaited
    case creating =>
      rw [hcall]
      exact hr.creating

/-- The STOP's step of the manager that calls `stop()`. -/
private theorem RaceInv.handleStop (hr : RaceInv w e c r) {now : ℝ} {reply : Reply ℝ} {t : ServedMove}
    (ht : servedStep w p e c r.served (.manager (.resume f now reply)) = some t)
    (hcall : (newEvents r.served.manager t.manager).any Event.callsStop = true)
    (hactive : ∀ y, r.served.manager.execs f = some y →
      r.served.manager.activeCommands (w.command y.command).robotId = some c) :
    RaceInv w e c { r with served := t }.beginStop := by
  obtain ⟨hsame, hlater⟩ := hr.serving.manager_step (by simp) ht
  have hcancels : Cancelled t.manager e ∨ ∃ o, t.call.point = .ended o := by
    rcases servedStep_cases ht with ⟨b, u, hb, -, hu, rfl⟩ | ⟨reply', m, hb, -⟩ | ⟨now', backstop, o, u, hb, -⟩
    · cases hb
      exact hr.serving.stop_cancels hu hcall hactive
    · cases hb
    · cases hb
  have hserved : RaceInv w e c { r with served := t } := by
    constructor
    case serving => exact hr.serving.step ht
    case ordered => exact hr.ordered.of_sequence hr.ordered.order id rfl
    case cancelled => exact fun _ => hcancels
    case awaited =>
      rw [hsame]
      exact hr.awaited
    case creating =>
      rw [hsame]
      exact hr.creating
  exact hserved.beginStop hcancels

private theorem RaceInv.step (hr : RaceInv w e c r) {a : RaceAction} (hfinds : FindsMove w c f r a)
    (h : raceStep w p e c f r a = some r') : RaceInv w e c r' := by
  unfold raceStep at h
  split at h
  · cases h
  · split at h
    · cases h
    · exact hr.serve (by simp) h
  · next a hcall hstop => exact hr.serve (fun reply ha => hcall reply ha) h
  · next now outcome selected =>
    split at h
    · obtain ⟨t, ht, h⟩ := Option.bind_eq_some_iff.1 h
      split at h
      · next hcalls =>
        obtain rfl := Option.some.inj h
        exact hr.handleStop ht hcalls fun y hy => hfinds now outcome selected y rfl hy
      · cases h
    · cases h
  · split at h
    · exact hr.serve (by simp) h
    · cases h
  · next now odometry o => exact hr.startMove h
  · next reply => exact hr.moveSlept h
  · obtain ⟨m, hm, rfl⟩ := Option.map_eq_some_iff.1 h
    obtain ⟨o, rfl⟩ := moveStep_struck hm trivial
    exact hr.endMove (hr.serving_step hm) (hr.cancelled_of_step hm)
  · split at h
    · next future hstop =>
      obtain rfl := Option.some.inj h
      exact hr.endStop (by rw [hstop]; simp) _
    · next future hstop =>
      obtain rfl := Option.some.inj h
      exact hr.endStop (by rw [hstop]; simp) _
    · cases h
  · obtain rfl := Option.some.inj h
    exact hr.other
  · next outcome =>
    obtain ⟨⟨call, b⟩, hb, rfl⟩ := Option.map_eq_some_iff.1 h
    exact hr.rosThread hb
  · next now odometry =>
    obtain ⟨⟨woken, b⟩, hb, h⟩ := Option.bind_eq_some_iff.1 h
    cases woken with
    | none =>
      obtain rfl := Option.some.inj h
      exact hr.completed hb
    | some x => exact hr.wake hb h

/-- After a STOP that finds the move as the active command, every twist of the move that is executed on the ROS thread
after a twist of the STOP is zero; the move and the STOP are the only calls of the backend in flight. -/
theorem stop_not_revived {as : List (Action ℝ)} {s₀ : State ℝ} {publisher : Bool} {bs : List RaceAction}
    (h₀ : StepSystem.run (RosMcp.step w) State.initial as = some s₀) (hback : InProgress s₀ e c)
    (hmove : (w.command c).operation = .move)
    (h : StepSystem.run (raceStep w p e c f) (Race.initial s₀ publisher) bs = some r)
    (hfinds : StepSystem.Along (raceStep w p e c f) (FindsMove w c f) (Race.initial s₀ publisher) bs) :
    Quiet r.executed := by
  have hserving : Serving w e c ⟨s₀, MoveCall.initial⟩ := by
    obtain ⟨x, hx, hc, hp⟩ := hback
    exact ⟨consistent_run h₀, trace_run h₀, ⟨x, hx, hc⟩, hmove, Or.inl ⟨x, hx, hc, hp⟩⟩
  have hinit : RaceInv w e c (Race.initial s₀ publisher) := Race.initial_inv hserving
  have hr := StepSystem.run_invariant_along (fun _ _ _ hs hG ha => RaceInv.step hs hG ha) hinit hfinds h
  exact (List.pairwise_append.1 hr.ordered.quiet).1

end Invariant

/-! ### A STOP while the publisher is being created -/

/-- The sample move waits for the publisher with its first twist. -/
noncomputable def sampleCreating : Race :=
  (Race.initial (sampleDispatched ℝ) false).moveTo
    ⟨.creatingPublisher ⟨sampleTwist, some .driving⟩ (.loop sampleDriving), 0, []⟩

private theorem sampleCreating_reached : raceStep (sampleWiring ℝ) samplePlugin 0 0 1
    (Race.initial (sampleDispatched ℝ) false) (.startMove 0 sampleOdometry sampleObservation) =
      some sampleCreating := by
  have hcall : MoveCall.start samplePlugin ((sampleWiring ℝ).command 0) MoveCall.initial 0 sampleOdometry
      sampleObservation false = ⟨.creatingPublisher ⟨sampleTwist, some .driving⟩ (.loop sampleDriving), 0, []⟩ := by
    change MoveCall.iterate samplePlugin MoveCall.initial sampleLocals sampleObservation false = _
    unfold MoveCall.iterate
    rw [sample_iterate]
    rfl
  change some ((Race.initial (sampleDispatched ℝ) false).moveTo (MoveCall.start samplePlugin
    ((sampleWiring ℝ).command 0) MoveCall.initial 0 sampleOdometry sampleObservation false)) = _
  rw [hcall]
  rfl

/-- The STOP is submitted and gets to its check while the move waits for the publisher. -/
noncomputable def sampleArrival : List RaceAction :=
  [.served (.manager (.submit 2)), .served (.manager (.resume 1 0 .start)),
    .served (.manager (.resume 1 0 (.pose (.ok none))))]

noncomputable def sampleStopCheck : RaceAction :=
  .handleStop 0 ⟨.allow, none, none, sampleConstraints ℝ⟩ (.ok (some .motion))

/-- The bridge answers both creations, then both publishes, and the move goes on with its loop. -/
noncomputable def sampleAnswers : List RaceAction :=
  [.rosThread (.ok ()), .rosThread (.ok ()), .eventLoop 0 sampleOdometry, .eventLoop 0 sampleOdometry,
    .eventLoop 0 sampleOdometry, .eventLoop 0 sampleOdometry,
    .rosThread (.ok ()), .rosThread (.ok ()), .eventLoop 0 sampleOdometry, .eventLoop 0 sampleOdometry,
    .eventLoop 0 sampleOdometry, .eventLoop 0 sampleOdometry,
    .moveSlept (.ok sampleObservation), .rosThread (.ok ())]

/-- The first twist of the move is executed before the zero twist of the STOP, although the STOP came first. -/
theorem stop_not_revived_sample : ∃ r, StepSystem.run (raceStep (sampleWiring ℝ) samplePlugin 0 0 1)
    (Race.initial (sampleDispatched ℝ) false)
    (.startMove 0 sampleOdometry sampleObservation :: sampleArrival ++ sampleStopCheck :: sampleAnswers) = some r ∧
    r.executed = [(.move, sampleTwist), (.stop, .zero), (.move, .zero)] ∧ Quiet r.executed := by
  have hrun : StepSystem.run (step (sampleWiring ℝ)) State.initial (.submit 0 :: sampleDispatch ℝ 0) =
    some (sampleDispatched ℝ) := rfl
  have h : ∃ r, StepSystem.run (raceStep (sampleWiring ℝ) samplePlugin 0 0 1) sampleCreating
      (sampleArrival ++ sampleStopCheck :: sampleAnswers) = some r ∧
      r.executed = [(.move, sampleTwist), (.stop, .zero), (.move, .zero)] := ⟨_, rfl, rfl⟩
  obtain ⟨r, hr, hexecuted⟩ := h
  have hfull := StepSystem.run_cons.2 ⟨_, sampleCreating_reached, hr⟩
  have hback : InProgress (sampleDispatched ℝ) 0 0 := ⟨_, rfl, rfl, rfl⟩
  refine ⟨r, hfull, hexecuted, stop_not_revived hrun hback rfl hfull ?_⟩
  have hother : ∀ a : RaceAction, (∀ now outcome selected, a ≠ .handleStop now outcome selected) →
      ∀ r, FindsMove (sampleWiring ℝ) 0 1 r a :=
    fun a ha r now outcome selected y heq => absurd heq (ha now outcome selected)
  refine .cons (hother _ (by simp) _) sampleCreating_reached (.cons (hother _ (by simp) _) rfl
    (.cons (hother _ (by simp) _) rfl (.cons (hother _ (by simp) _) rfl (.cons ?_ rfl (.of_forall ?_)))))
  · -- the move is in the slot of the robot
    intro now outcome selected y _ hy
    obtain rfl := Option.some.inj hy
    rfl
  · intro r a ha
    refine hother a ?_ r
    rintro now outcome selected rfl
    simp [sampleAnswers] at ha

end RosMcp
