import RosMcp.Motion.ObstacleGate

/-!
# The ticks of a move

A tick is one iteration of the control loop of `move`: the locals it starts from and what it reads.  `ticks` collects
the ticks of a run.  They are an execution of the loop alone (`Looped`): the first one has the locals of the plan, each
starts from the locals that the one before has left, the twists of the call are those that its ticks hand over, and what
the call returns is the exit of the last one.
-/

namespace RosMcp

/-- One iteration of the loop: its locals and what it reads. -/
structure Tick where
  locals : Locals
  observation : Observation

noncomputable def Tick.outcome (p : CmdVelMotionPlugin) (t : Tick) : Iteration := iterate p t.locals t.observation

/-- The pose that the tick accepts: the one of fresh odometry, unless the token or a deadline stops the loop first. -/
noncomputable def Tick.accepted (t : Tick) : Option (Pose2D ℝ) :=
  if t.observation.isCancelled ∨ t.observation.deadlineExceeded = true ∨ t.locals.deadline ≤ t.observation.now then none
  else
    match currentPose t.observation.odometry with
    | .ok (some pose, true) => some pose
    | _ => none

/-- The poses that the ticks accept. -/
noncomputable def acceptedPoses (ts : List Tick) : List (Pose2D ℝ) := ts.filterMap Tick.accepted

/-- `error` of the turning phase, and `heading_error` of the driving phase. -/
noncomputable def Locals.headingError (l : Locals) (pose : Pose2D ℝ) : ℝ := angularDifference l.headingTarget pose.yaw

/-- `remaining` of the driving phase. -/
noncomputable def Locals.remaining (l : Locals) (pose : Pose2D ℝ) : ℝ :=
  l.distanceTargetM - euclideanDistance l.phaseStartPose.x l.phaseStartPose.y pose.x pose.y

/-- What an iteration does with a pose that it accepts, each case with what it has found. -/
inductive Steered (p : CmdVelMotionPlugin) (l : Locals) (pose : Pose2D ℝ) (scan : ScanRead) : Iteration → Prop
  | rotated (hphase : l.phase = .turning) (herror : |l.headingError pose| ≤ p.angleToleranceRad)
      (hrotation : l.isRotation = true) : Steered p l pose scan (.exit (.reached (l.seen pose)))
  | aligned (hphase : l.phase = .turning) (herror : |l.headingError pose| ≤ p.angleToleranceRad)
      (hrotation : ¬ l.isRotation = true) :
      Steered p l pose scan (.sleep { l.seen pose with phase := .driving, phaseStartPose := pose, prevAngularCmd := 0 })
  | turned (hphase : l.phase = .turning) (herror : ¬ |l.headingError pose| ≤ p.angleToleranceRad) :
      Steered p l pose scan (.publish ⟨0, angularCommand p l (l.headingError pose)⟩
        { l.seen pose with prevLinearCmd := 0, prevAngularCmd := angularCommand p l (l.headingError pose) })
  | unscanned (exc : PyException) (hphase : l.phase = .driving)
      (hscan : obstacleAhead p scan (travelSector l) l.constraints.obstacleStopDistanceM = .error exc) :
      Steered p l pose scan (.raised exc)
  | obstacle (range : ℝ) (hphase : l.phase = .driving)
      (hscan : obstacleAhead p scan (travelSector l) l.constraints.obstacleStopDistanceM = .ok (some range)) :
      Steered p l pose scan (.exit (.obstacle (l.seen pose) (travelSector l) range))
  | arrived (hphase : l.phase = .driving)
      (hscan : obstacleAhead p scan (travelSector l) l.constraints.obstacleStopDistanceM = .ok none)
      (hnear : l.remaining pose ≤ p.positionToleranceM) : Steered p l pose scan (.exit (.reached (l.seen pose)))
  | driven (hphase : l.phase = .driving)
      (hscan : obstacleAhead p scan (travelSector l) l.constraints.obstacleStopDistanceM = .ok none)
      (hfar : ¬ l.remaining pose ≤ p.positionToleranceM) :
      Steered p l pose scan
        (.publish ⟨linearCommand p l (l.remaining pose), angularCommand p l (l.headingError pose)⟩
          { l.seen pose with
            prevLinearCmd := linearCommand p l (l.remaining pose)
            prevAngularCmd := angularCommand p l (l.headingError pose) })

/-- The twist that an iteration in the phase `phase` hands over. -/
noncomputable def Iteration.handed (phase : Phase) : Iteration → Option Handed
  | .raised _ | .sleep _ => none
  | .exit _ => some ⟨.zero, some phase⟩
  | .publish twist _ => some ⟨twist, some phase⟩

noncomputable def Tick.handed (p : CmdVelMotionPlugin) (t : Tick) : Option Handed :=
  (t.outcome p).handed t.locals.phase

/-- What follows the await at which the call is suspended. -/
def MovePoint.next : MovePoint → Option Next
  | .created | .ended _ => none
  | .creatingPublisher _ next | .publishing _ next => some next
  | .sleeping l => some (.loop l)

/-- The twist that waits for its publisher. -/
def MovePoint.waiting : MovePoint → List Handed
  | .creatingPublisher h _ => [h]
  | _ => []

/-- The twists of a call, with the one that waits for its publisher. -/
def MoveCall.twists (m : MoveCall) : List Handed := m.handed ++ m.point.waiting

/-- The tick that the call runs when it is resumed. -/
noncomputable def MoveCall.tick (command : SemanticCommand ℝ) (m : MoveCall) (reply : MoveReply) : Option Tick :=
  match m.point, reply with
  | .created, .start now odometry o _ =>
    match command.target, command.safetyConstraints with
    | .move target, some constraints =>
      match currentPose odometry with
      | .ok (some startPose, true) => (planMove command target constraints startPose now).toOption.map fun l => ⟨l, o⟩
      | _ => none
    | _, _ => none
  | .sleeping l, .slept (.ok o) _ => some ⟨l, o⟩
  | _, _ => none

/-- The ticks of a run. -/
noncomputable def ticks (p : CmdVelMotionPlugin) (command : SemanticCommand ℝ) (m : MoveCall)
    (replies : List MoveReply) : List Tick :=
  StepSystem.outputs (moveStep p command) (fun m reply => (m.tick command reply).toList) m replies

/-- The call was neither cancelled nor has it raised. -/
def MoveCall.Stands (m : MoveCall) : Prop := ∀ out, m.point = .ended out → ∃ result, out = .returned result

/-- The call and the ticks that it has run. -/
structure Looped (p : CmdVelMotionPlugin) (command : SemanticCommand ℝ) (m : MoveCall) (ts : List Tick) : Prop where
  created : m.point = .created → ts = [] ∧ m.handed = []
  unticked : ts = [] → ∀ h ∈ m.twists, h.twist = .zero
  planned : ∀ t ∈ ts.head?, ∃ target k startPose, command.target = .move target ∧
    command.safetyConstraints = some k ∧ planMove command target k startPose m.startMonotonic = .ok t.locals
  chain : ts.IsChain fun t t' => (t.outcome p).locals = some t'.locals
  twists : ts ≠ [] → m.Stands → m.twists = ts.filterMap (Tick.handed p)
  handed : ts ≠ [] → m.handed <+: ts.filterMap (Tick.handed p)
  loop : ∀ l, m.point.next = some (.loop l) → ∃ t ∈ ts.getLast?, (t.outcome p).locals = some l
  finish : ∀ e, m.point.next = some (.finish e) →
    ts = [] ∧ e = .noOdometry ∨ ∃ t ∈ ts.getLast?, t.outcome p = .exit e
  returned : ∀ result, m.point = .ended (.returned result) → ∃ e elapsed, result = e.result command elapsed ∧
    (ts = [] ∧ e = .noOdometry ∨ ∃ t ∈ ts.getLast?, t.outcome p = .exit e)

section Loop

variable {p : CmdVelMotionPlugin} {command : SemanticCommand ℝ} {m m' : MoveCall} {reply : MoveReply} {ts : List Tick}

theorem iterateFresh_steered (p : CmdVelMotionPlugin) (l : Locals) (pose : Pose2D ℝ) (scan : ScanRead) :
    Steered p l pose scan (iterateFresh p l pose scan) := by
  unfold iterateFresh
  dsimp only
  split
  · next hphase =>
    unfold turn
    dsimp only
    split
    · next herror =>
      split
      · next hrotation => exact .rotated hphase herror hrotation
      · next hrotation => exact .aligned hphase herror hrotation
    · next herror => exact .turned hphase herror
  · next hphase =>
    split
    · next exc hscan => exact .unscanned exc hphase hscan
    · next range hscan => exact .obstacle range hphase hscan
    · next hscan =>
      unfold drive
      dsimp only
      split
      · next hnear => exact .arrived hphase hscan hnear
      · next hfar => exact .driven hphase hscan hfar

theorem Tick.iterated (p : CmdVelMotionPlugin) (t : Tick) : Iterated p t.locals t.observation (t.outcome p) :=
  iterate_iterated p t.locals t.observation

/-- A tick that accepts no pose leaves the loop with the locals that it started from, or raises. -/
inductive Tick.Refused (t : Tick) : Iteration → Prop
  | cancelled (hc : t.observation.isCancelled = true) : t.Refused (.exit (.cancelled t.locals))
  | timedOut (ht : t.observation.deadlineExceeded = true ∨ t.locals.deadline ≤ t.observation.now) :
      t.Refused (.exit (.timedOut t.locals))
  | unread (exc : PyException) (hpose : currentPose t.observation.odometry = .error exc) : t.Refused (.raised exc)
  | stale : t.Refused (.exit (.stale t.locals))

theorem Tick.outcome_of_none {t : Tick} (h : t.accepted = none) : t.Refused (t.outcome p) := by
  unfold Tick.accepted at h
  unfold Tick.outcome iterate
  split
  · next hc => exact .cancelled hc
  · next hc =>
    split
    · next ht => exact .timedOut ht
    · next ht =>
      rw [if_neg (not_or.2 ⟨hc, ht⟩)] at h
      split
      · next exc hpose => exact .unread exc hpose
      · next pose hpose =>
        rw [hpose] at h
        cases h
      · exact .stale

theorem Tick.outcome_of_some {t : Tick} {pose : Pose2D ℝ} (h : t.accepted = some pose) :
    Steered p t.locals pose t.observation.scan (t.outcome p) := by
  have hsteered := iterateFresh_steered p t.locals pose t.observation.scan
  unfold Tick.accepted at h
  unfold Tick.outcome iterate
  split at h
  · cases h
  · next hgo =>
    rw [if_neg fun hc => hgo (.inl hc), if_neg fun ht => hgo (.inr ht)]
    split at h
    · next pose' hpose =>
      obtain rfl := Option.some.inj h
      rw [hpose]
      exact hsteered
    · cases h

/-- A tick that goes on has accepted a pose. -/
theorem Tick.steered_of_locals {t : Tick} {l : Locals} (h : (t.outcome p).locals = some l) :
    ∃ pose, t.accepted = some pose ∧ Steered p t.locals pose t.observation.scan (t.outcome p) := by
  cases ha : t.accepted with
  | none =>
    have hrefused := Tick.outcome_of_none (p := p) ha
    generalize t.outcome p = it at h hrefused
    cases hrefused <;> cases h
  | some pose => exact ⟨pose, rfl, Tick.outcome_of_some ha⟩

/-- A tick that succeeds has accepted a pose. -/
theorem Tick.steered_of_succeeded {t : Tick} {e : Exit} (h : t.outcome p = .exit e) (hstatus : e.status = .succeeded) :
    ∃ pose, t.accepted = some pose ∧ Steered p t.locals pose t.observation.scan (.exit e) := by
  cases ha : t.accepted with
  | none =>
    have hrefused := Tick.outcome_of_none (p := p) ha
    rw [h] at hrefused
    cases hrefused <;> cases hstatus
  | some pose =>
    have hsteered := Tick.outcome_of_some (p := p) ha
    rw [h] at hsteered
    exact ⟨pose, rfl, hsteered⟩

/-- The start of a call runs its first tick, raises, or finds no odometry. -/
theorem MoveCall.start_cases (p : CmdVelMotionPlugin) (command : SemanticCommand ℝ) {m : MoveCall}
    (hp : m.point = .created) (now : ℝ) (odometry : OdometryRead) (o : Observation)
    (ready : Bool) :
    (∃ target k startPose l, command.target = .move target ∧ command.safetyConstraints = some k ∧
        currentPose odometry = .ok (some startPose, true) ∧ planMove command target k startPose now = .ok l ∧
        m.tick command (.start now odometry o ready) = some ⟨l, o⟩ ∧
        m.start p command now odometry o ready = MoveCall.iterate p { m with startMonotonic := now } l o ready) ∨
      m.tick command (.start now odometry o ready) = none ∧
        ((∃ exc, m.start p command now odometry o ready =
            MoveCall.endWith { m with startMonotonic := now } (.raised exc)) ∨
          (∀ pose, currentPose odometry ≠ .ok (some pose, true)) ∧ m.start p command now odometry o ready =
            MoveCall.publishTwist { m with startMonotonic := now } ready ⟨.zero, none⟩ (.finish .noOdometry)) := by
  unfold MoveCall.start MoveCall.tick
  rw [hp]
  rcases command.target with target | target | _
  case navigate | none => exact .inr ⟨rfl, .inl ⟨_, rfl⟩⟩
  case move =>
    rcases command.safetyConstraints with _ | k
    case none => exact .inr ⟨rfl, .inl ⟨_, rfl⟩⟩
    case some =>
      dsimp only
      rcases currentPose odometry with exc | ⟨_ | startPose, fresh⟩
      case error => exact .inr ⟨rfl, .inl ⟨exc, rfl⟩⟩
      case ok.none => exact .inr ⟨rfl, .inr ⟨by simp, rfl⟩⟩
      case ok.some =>
        cases fresh with
        | false => exact .inr ⟨rfl, .inr ⟨by simp, rfl⟩⟩
        | true =>
          dsimp only
          cases hplan : planMove command target k startPose now with
          | error exc => exact .inr ⟨rfl, .inl ⟨exc, rfl⟩⟩
          | ok l => exact .inl ⟨target, k, startPose, l, rfl, rfl, rfl, hplan, rfl, rfl⟩

/-- A call that has read its start pose runs its first iteration. -/
theorem moveStep_start {target : MoveTarget ℝ} {k : SafetyConstraints ℝ} {startPose : Pose2D ℝ} {l : Locals} {now : ℝ}
    {odometry : OdometryRead} (ht : command.target = .move target) (hk : command.safetyConstraints = some k)
    (hpose : currentPose odometry = .ok (some startPose, true))
    (hplan : planMove command target k startPose now = .ok l) (o : Observation) (ready : Bool) :
    moveStep p command .initial (.start now odometry o ready) =
      some (MoveCall.iterate p { MoveCall.initial with startMonotonic := now } l o ready) ∧
    MoveCall.initial.tick command (.start now odometry o ready) = some ⟨l, o⟩ := by
  have hstart : MoveCall.initial.start p command now odometry o ready =
      MoveCall.iterate p { MoveCall.initial with startMonotonic := now } l o ready := by
    unfold MoveCall.start
    rw [ht, hk]
    dsimp only
    rw [hpose]
    dsimp only
    rw [hplan]
  constructor
  · rw [← hstart]
    rfl
  · unfold MoveCall.tick MoveCall.initial
    rw [ht, hk]
    dsimp only
    rw [hpose]
    dsimp only
    rw [hplan]
    rfl

/-- A resumed call that does not iterate has no tick. -/
theorem MoveCall.tick_eq_none (hstart : ∀ now odometry o ready, reply ≠ .start now odometry o ready)
    (hslept : ∀ o ready, reply ≠ .slept (.ok o) ready) : m.tick command reply = none := by
  unfold MoveCall.tick
  split
  · exact absurd rfl (hstart _ _ _ _)
  · exact absurd rfl (hslept _ _)
  · rfl

theorem MoveCall.twists_publishTwist (m : MoveCall) (ready : Bool) (h : Handed) (next : Next) :
    (m.publishTwist ready h next).twists = m.handed ++ [h] := by
  unfold MoveCall.publishTwist MoveCall.twists
  split <;> simp [MovePoint.waiting]

private theorem MoveCall.next_publishTwist (m : MoveCall) (ready : Bool) (h : Handed) (next : Next) :
    (m.publishTwist ready h next).point.next = some next := by
  unfold MoveCall.publishTwist
  split <;> rfl

private theorem MoveCall.startMonotonic_publishTwist (m : MoveCall) (ready : Bool) (h : Handed) (next : Next) :
    (m.publishTwist ready h next).startMonotonic = m.startMonotonic := by
  unfold MoveCall.publishTwist
  split <;> rfl

/-- What the call does with the outcome of a tick. -/
structure Ticked (p : CmdVelMotionPlugin) (m : MoveCall) (t : Tick) (m' : MoveCall) : Prop where
  created : m'.point ≠ .created
  start : m'.startMonotonic = m.startMonotonic
  twists : m'.twists = m.handed ++ (t.handed p).toList
  loop : ∀ l, m'.point.next = some (.loop l) → (t.outcome p).locals = some l
  finish : ∀ e, m'.point.next = some (.finish e) → t.outcome p = .exit e
  returned : ∀ result, m'.point ≠ .ended (.returned result)

private theorem MoveCall.iterate_ticked (m : MoveCall) (l : Locals) (o : Observation) (ready : Bool) :
    Ticked p m ⟨l, o⟩ (m.iterate p l o ready) := by
  have publish : ∀ h next, (m.publishTwist ready h next).point ≠ .created := by
    intro h next
    unfold MoveCall.publishTwist
    split <;> simp
  have unreturned : ∀ h next result, (m.publishTwist ready h next).point ≠ .ended (.returned result) := by
    intro h next result
    unfold MoveCall.publishTwist
    split <;> simp
  unfold MoveCall.iterate
  cases he : RosMcp.iterate p l o with
  | raised exc =>
    constructor <;> simp [MoveCall.endWith, MoveCall.twists, MovePoint.waiting, MovePoint.next, Tick.handed,
      Tick.outcome, he, Iteration.handed]
  | sleep l' =>
    constructor <;> simp [MoveCall.twists, MovePoint.waiting, MovePoint.next, Tick.handed, Tick.outcome, he,
      Iteration.handed, Iteration.locals]
  | exit e =>
    constructor
    case created => exact publish _ _
    case start => exact m.startMonotonic_publishTwist ready _ _
    case twists => simp [m.twists_publishTwist, Tick.handed, Tick.outcome, he, Iteration.handed]
    case loop => simp [m.next_publishTwist]
    case finish => simp [m.next_publishTwist, Tick.outcome, he]
    case returned => exact unreturned _ _
  | publish twist l' =>
    constructor
    case created => exact publish _ _
    case start => exact m.startMonotonic_publishTwist ready _ _
    case twists => simp [m.twists_publishTwist, Tick.handed, Tick.outcome, he, Iteration.handed]
    case loop => simp [m.next_publishTwist, Tick.outcome, he, Iteration.locals]
    case finish => simp [m.next_publishTwist]
    case returned => exact unreturned _ _

/-- The first tick of a call. -/
private theorem Looped.first {t : Tick} {target : MoveTarget ℝ} {k : SafetyConstraints ℝ} {startPose : Pose2D ℝ}
    (ht : command.target = .move target) (hk : command.safetyConstraints = some k)
    (hplan : planMove command target k startPose m.startMonotonic = .ok t.locals) (hhanded : m.handed = [])
    (hm' : Ticked p m t m') : Looped p command m' [t] := by
  have htwists : m'.twists = [t].filterMap (Tick.handed p) := by
    rw [hm'.twists, hhanded]
    cases hh : t.handed p <;> simp [hh]
  constructor
  case created => exact fun hp => absurd hp hm'.created
  case unticked => exact nofun
  case planned =>
    rintro t' ⟨⟩
    rw [hm'.start]
    exact ⟨target, k, startPose, ht, hk, hplan⟩
  case chain => exact List.isChain_singleton t
  case twists =>
    intro _ _
    exact htwists
  case handed =>
    intro _
    rw [← htwists]
    exact List.prefix_append _ _
  case loop => exact fun l hl => ⟨t, rfl, hm'.loop l hl⟩
  case finish => exact fun e he => .inr ⟨t, rfl, hm'.finish e he⟩
  case returned => exact fun result hr => absurd hr (hm'.returned result)

/-- A tick after a sleep goes on from the ticks before it. -/
private theorem Looped.next {t : Tick} (hm : Looped p command m ts) (hp : m.point = .sleeping t.locals)
    (hm' : Ticked p m t m') : Looped p command m' (ts ++ [t]) := by
  obtain ⟨last, hlast, hlocals⟩ := hm.loop t.locals (by rw [hp]; rfl)
  have hne : ts ≠ [] := by
    rintro rfl
    cases hlast
  have hget : (ts ++ [t]).getLast? = some t := List.getLast?_concat
  have hstands : m.Stands := by
    intro out hout
    rw [hp] at hout
    cases hout
  have htwists : m'.twists = (ts ++ [t]).filterMap (Tick.handed p) := by
    have hbefore : m.handed = ts.filterMap (Tick.handed p) := by
      have htwists := hm.twists hne hstands
      unfold MoveCall.twists at htwists
      rw [hp] at htwists
      simpa [MovePoint.waiting] using htwists
    rw [hm'.twists, hbefore, List.filterMap_append]
    cases hh : t.handed p <;> simp [hh]
  constructor
  case created => exact fun hp => absurd hp hm'.created
  case unticked => simp
  case planned =>
    rw [List.head?_append_of_ne_nil ts hne, hm'.start]
    exact hm.planned
  case chain =>
    refine List.isChain_append.2 ⟨hm.chain, List.isChain_singleton t, ?_⟩
    intro x hx y hy
    obtain rfl : last = x := Option.some.inj (hlast.symm.trans hx)
    obtain rfl : t = y := by simpa using hy
    exact hlocals
  case twists =>
    intro _ _
    exact htwists
  case handed =>
    intro _
    rw [← htwists]
    exact List.prefix_append _ _
  case loop =>
    rw [hget]
    exact fun l hl => ⟨t, rfl, hm'.loop l hl⟩
  case finish =>
    rw [hget]
    exact fun e he => .inr ⟨t, rfl, hm'.finish e he⟩
  case returned => exact fun result hr => absurd hr (hm'.returned result)

/-- A step without a tick that goes on with what was to follow. -/
private theorem Looped.awaited (hm : Looped p command m ts) (hstart : m'.startMonotonic = m.startMonotonic)
    (hlive : ∃ next, m.point.next = some next) (htwists : m'.twists = m.twists)
    (hnext : m'.point.next = m.point.next) : Looped p command m' ts := by
  obtain ⟨next, hlive⟩ := hlive
  have hstands : m.Stands := by
    intro out hout
    rw [hout] at hlive
    cases hlive
  constructor
  case created =>
    intro hp
    rw [hp, hlive] at hnext
    cases hnext
  case unticked =>
    rw [htwists]
    exact hm.unticked
  case planned =>
    rw [hstart]
    exact hm.planned
  case chain => exact hm.chain
  case twists =>
    rw [htwists]
    exact fun hne _ => hm.twists hne hstands
  case handed =>
    intro hne
    rw [← hm.twists hne hstands, ← htwists]
    exact List.prefix_append _ _
  case loop =>
    rw [hnext]
    exact hm.loop
  case finish =>
    rw [hnext]
    exact hm.finish
  case returned =>
    intro result hr
    rw [hr, hlive] at hnext
    cases hnext

/-- A call that ends, with what its end says about its twists and its result. -/
private theorem Looped.endWith (hm : Looped p command m ts) {out : MoveOutcome}
    (htwists : ts ≠ [] → (m.endWith out).Stands → m.handed = ts.filterMap (Tick.handed p))
    (hreturned : ∀ result, out = .returned result → ∃ e elapsed, result = e.result command elapsed ∧
      (ts = [] ∧ e = .noOdometry ∨ ∃ t ∈ ts.getLast?, t.outcome p = .exit e)) :
    Looped p command (m.endWith out) ts := by
  have hsame : (m.endWith out).twists = m.handed := by
    simp [MoveCall.twists, MoveCall.endWith, MovePoint.waiting]
  constructor
  case created =>
    intro hcreated
    cases hcreated
  case unticked =>
    intro hnil h hh
    rw [hsame] at hh
    exact hm.unticked hnil h (List.mem_append_left _ hh)
  case planned => exact hm.planned
  case chain => exact hm.chain
  case twists =>
    intro hne hstands
    rw [hsame]
    exact htwists hne hstands
  case handed => exact hm.handed
  case loop =>
    intro l hl
    cases hl
  case finish =>
    intro e he
    cases he
  case returned =>
    intro result hr
    exact hreturned result (MovePoint.ended.inj hr)

/-- A call that ends without a result. -/
private theorem Looped.failed (hm : Looped p command m ts) {out : MoveOutcome}
    (hout : ∀ result, out ≠ .returned result) :
    Looped p command (m.endWith out) ts := by
  refine hm.endWith ?_ ?_
  · intro _ hstands
    obtain ⟨result, hresult⟩ := hstands out rfl
    exact absurd hresult (hout result)
  · intro result hr
    exact absurd hr (hout result)

/-- A call that returns after its last publish. -/
private theorem Looped.returns (hm : Looped p command m ts) {h : Handed} {e : Exit}
    (hp : m.point = .publishing h (.finish e))
    (elapsed : ℝ) : Looped p command (m.endWith (.returned (e.result command elapsed))) ts := by
  have hstands : m.Stands := by
    intro out hout
    rw [hp] at hout
    cases hout
  refine hm.endWith ?_ ?_
  · intro hne _
    rw [← hm.twists hne hstands]
    simp [MoveCall.twists, MovePoint.waiting, hp]
  · intro result hr
    obtain rfl := MoveOutcome.returned.inj hr
    exact ⟨e, elapsed, rfl, hm.finish e (by rw [hp]; rfl)⟩

/-- A call that has not run yet, at another start time. -/
private theorem Looped.started (hp : m.point = .created) (hhanded : m.handed = []) (now : ℝ) :
    Looped p command { m with startMonotonic := now } [] := by
  constructor
  case created => exact fun _ => ⟨rfl, hhanded⟩
  case unticked => simp [MoveCall.twists, MovePoint.waiting, hp, hhanded]
  case planned => rintro t ⟨⟩
  case chain => exact List.isChain_nil
  case twists => exact fun h => absurd rfl h
  case handed => exact fun h => absurd rfl h
  case loop => simp [hp, MovePoint.next]
  case finish => simp [hp, MovePoint.next]
  case returned => simp [hp]

/-- A call without fresh odometry. -/
private theorem Looped.unstarted (hhanded : m.handed = []) (ready : Bool) :
    Looped p command (m.publishTwist ready ⟨.zero, none⟩ (.finish .noOdometry)) [] := by
  have hnext := m.next_publishTwist ready ⟨.zero, none⟩ (.finish .noOdometry)
  constructor
  case created =>
    intro hp
    rw [hp] at hnext
    cases hnext
  case unticked => simp [m.twists_publishTwist, hhanded]
  case planned => rintro t ⟨⟩
  case chain => exact List.isChain_nil
  case twists => exact fun h => absurd rfl h
  case handed => exact fun h => absurd rfl h
  case loop =>
    rw [hnext]
    rintro l ⟨⟩
  case finish =>
    rw [hnext]
    rintro e ⟨⟩
    exact .inl ⟨rfl, rfl⟩
  case returned =>
    intro result hr
    rw [hr] at hnext
    cases hnext

private theorem Looped.step (hm : Looped p command m ts) (h : moveStep p command m reply = some m') :
    Looped p command m' (ts ++ (m.tick command reply).toList) := by
  cases moveStep_transition h with
  | cancelled =>
    rw [MoveCall.tick_eq_none (by simp) (by simp), Option.toList_none, List.append_nil]
    exact hm.failed (by simp)
  | started now odometry o ready hp =>
    obtain ⟨rfl, hhanded⟩ := hm.created hp
    rcases MoveCall.start_cases p command hp now odometry o ready with
      ⟨target, k, startPose, l, ht, hk, -, hplan, htick, hstart⟩ | ⟨htick, ⟨exc, hstart⟩ | ⟨-, hstart⟩⟩
    · rw [htick, hstart]
      exact .first (m := { m with startMonotonic := now }) ht hk hplan hhanded (MoveCall.iterate_ticked _ l o ready)
    · rw [htick, hstart]
      exact (Looped.started hp hhanded now).failed (by simp)
    · rw [htick, hstart]
      exact .unstarted (m := { m with startMonotonic := now }) hhanded ready
  | creationFailed h next exc hp =>
    rw [MoveCall.tick_eq_none (by simp) (by simp), Option.toList_none, List.append_nil]
    exact hm.failed (by simp)
  | publisherCreated h next hp =>
    rw [MoveCall.tick_eq_none (by simp) (by simp), Option.toList_none, List.append_nil]
    exact hm.awaited rfl ⟨next, by rw [hp]; rfl⟩
      (by simp [MoveCall.twists, MoveCall.publishTwist, MovePoint.waiting, hp]) (by rw [hp]; rfl)
  | publishFailed h next exc now hp =>
    rw [MoveCall.tick_eq_none (by simp) (by simp), Option.toList_none, List.append_nil]
    exact hm.failed (by simp)
  | finished h e now hp =>
    rw [MoveCall.tick_eq_none (by simp) (by simp), Option.toList_none, List.append_nil]
    exact hm.returns hp _
  | looped h l now hp =>
    rw [MoveCall.tick_eq_none (by simp) (by simp), Option.toList_none, List.append_nil]
    exact hm.awaited rfl ⟨.loop l, by rw [hp]; rfl⟩ (by simp [MoveCall.twists, MovePoint.waiting, hp]) (by rw [hp]; rfl)
  | sleepFailed l exc ready hp =>
    rw [MoveCall.tick_eq_none (by simp) (by simp), Option.toList_none, List.append_nil]
    exact hm.failed (by simp)
  | iterated l o ready hp =>
    have htick : m.tick command (.slept (.ok o) ready) = some ⟨l, o⟩ := by
      unfold MoveCall.tick
      rw [hp]
    rw [htick]
    exact hm.next hp (m.iterate_ticked l o ready)

/-- The ticks of a run are an execution of the loop. -/
theorem looped_run {replies : List MoveReply}
    (h : StepSystem.run (moveStep p command) MoveCall.initial replies = some m) :
    Looped p command m (ticks p command .initial replies) :=
  StepSystem.outputs_invariant (fun _ _ _ _ hm hstep => hm.step hstep) (.started (m := .initial) rfl rfl 0) h

theorem MoveCall.stands_of_returned {result : ToolResult ℝ} (hp : m.point = .ended (.returned result)) : m.Stands := by
  intro out hout
  exact ⟨result, MovePoint.ended.inj (hout.symm.trans hp)⟩

/-- A call that has read its start pose, and has neither raised nor was cancelled, has run its first tick. -/
theorem ticks_start {now : ℝ} {odometry : OdometryRead} {o : Observation} {ready : Bool} {rest : List MoveReply}
    {startPose : Pose2D ℝ}
    (h : StepSystem.run (moveStep p command) MoveCall.initial (.start now odometry o ready :: rest) = some m)
    (hpose : currentPose odometry = .ok (some startPose, true)) (hstands : m.Stands) :
    ∃ target k l ts, command.target = .move target ∧ command.safetyConstraints = some k ∧
      planMove command target k startPose now = .ok l ∧
      ticks p command .initial (.start now odometry o ready :: rest) = ⟨l, o⟩ :: ts := by
  obtain ⟨m₁, hstep, hrest⟩ := StepSystem.run_cons.1 h
  have hm₁ : MoveCall.initial.start p command now odometry o ready = m₁ := Option.some.inj hstep
  rcases MoveCall.start_cases p command (m := .initial) rfl now odometry o ready with
    ⟨target, k, startPose', l, ht, hk, hpose', hplan, htick, -⟩ | ⟨-, ⟨exc, hraised⟩ | ⟨hno, -⟩⟩
  · obtain rfl : startPose' = startPose := by
      rw [hpose] at hpose'
      cases hpose'
      rfl
    refine ⟨target, k, l, ticks p command m₁ rest, ht, hk, hplan, ?_⟩
    unfold ticks
    rw [StepSystem.outputs_cons hstep, htick]
    rfl
  · -- a call that has raised takes no further step
    rw [hraised] at hm₁
    subst hm₁
    cases rest with
    | nil =>
      obtain rfl := Option.some.inj hrest
      obtain ⟨result, hresult⟩ := hstands _ rfl
      cases hresult
    | cons reply rest =>
      obtain ⟨m₂, hstep', -⟩ := StepSystem.run_cons.1 hrest
      cases hstep'
  · exact absurd hpose (hno startPose)

/-- An element of a chain that is not the last one is followed by another. -/
private theorem exists_next_of_mem_dropLast {α : Type*} {R : α → α → Prop} {as : List α} (h : as.IsChain R) {a : α}
    (ha : a ∈ as.dropLast) : ∃ b, R a b := by
  induction as with
  | nil => cases ha
  | cons x as ih =>
    cases as with
    | nil => cases ha
    | cons y as =>
      rw [List.isChain_cons_cons] at h
      rw [List.dropLast_cons_cons, List.mem_cons] at ha
      rcases ha with rfl | ha
      · exact ⟨y, h.1⟩
      · exact ih h.2 ha

/-- The loop goes on after every tick but the last one. -/
theorem Looped.goes_on {t : Tick} (hm : Looped p command m ts) (ht : t ∈ ts.dropLast) :
    ∃ l, (t.outcome p).locals = some l := by
  obtain ⟨t', hlocals⟩ := exists_next_of_mem_dropLast hm.chain ht
  exact ⟨t'.locals, hlocals⟩

/-- What no tick breaks holds of the locals of every tick of a chain that begins with it. -/
theorem chain_invariant {K : Locals → Prop} {t : Tick}
    (hstep : ∀ (t : Tick) l, K t.locals → (t.outcome p).locals = some l → K l)
    (hchain : (t :: ts).IsChain fun t t' => (t.outcome p).locals = some t'.locals) (ht : K t.locals) :
    ∀ t' ∈ t :: ts, K t'.locals := by
  induction ts generalizing t with
  | nil =>
    intro t' ht'
    rwa [List.mem_singleton.1 ht']
  | cons u ts ih =>
    intro t' ht'
    rw [List.isChain_cons_cons] at hchain
    rcases List.mem_cons.1 ht' with rfl | hmem
    · exact ht
    · exact ih hchain.2 (hstep t u.locals ht hchain.1) t' hmem

/-- What the plan establishes and no tick breaks holds of the locals of every tick. -/
theorem Looped.locals_invariant {K : Locals → Prop} (hm : Looped p command m ts)
    (hplan : ∀ target k startPose l, command.target = .move target → command.safetyConstraints = some k →
      planMove command target k startPose m.startMonotonic = .ok l → K l)
    (hstep : ∀ (t : Tick) l, K t.locals → (t.outcome p).locals = some l → K l) : ∀ t ∈ ts, K t.locals := by
  cases ts with
  | nil => exact fun t ht => absurd ht List.not_mem_nil
  | cons t ts =>
    obtain ⟨target, k, startPose, htarget, hk, hplan'⟩ := hm.planned t rfl
    exact chain_invariant hstep hm.chain (hplan target k startPose t.locals htarget hk hplan')

/-- The exit that a call returns is the one of its last tick. -/
theorem Looped.last_exit {result : ToolResult ℝ} (hm : Looped p command m ts) (hne : ts ≠ [])
    (hp : m.point = .ended (.returned result)) :
    ∃ t e elapsed, ts.getLast? = some t ∧ t.outcome p = .exit e ∧ result = e.result command elapsed := by
  obtain ⟨e, elapsed, hresult, ⟨hnil, -⟩ | ⟨t, hlast, he⟩⟩ := hm.returned result hp
  · exact absurd hnil hne
  · exact ⟨t, e, elapsed, hlast, he, hresult⟩

end Loop

/-! ### The start of the sample move -/

private theorem sampleMove_start (p : CmdVelMotionPlugin) (o : Observation) :
    moveStep p ((sampleWiring ℝ).command 0) .initial (.start 0 sampleOdometry o true) =
      some (MoveCall.iterate p .initial sampleLocals o true) := rfl

theorem sampleMove_run (p : CmdVelMotionPlugin) (o : Observation) :
    StepSystem.run (moveStep p ((sampleWiring ℝ).command 0)) .initial [.start 0 sampleOdometry o true] =
      some (MoveCall.iterate p .initial sampleLocals o true) :=
  StepSystem.run_cons.2 ⟨_, sampleMove_start p o, rfl⟩

/-- The sample move leaves its loop at once, and publishes its zero twist. -/
theorem sampleMove_exit {p : CmdVelMotionPlugin} {o : Observation} {e : Exit}
    (h : iterate p sampleLocals o = .exit e) :
    ∃ m, StepSystem.run (moveStep p ((sampleWiring ℝ).command 0)) .initial
        [.start 0 sampleOdometry o true, .published (.ok ()) 0] = some m ∧
      m.point = .ended (.returned (e.result ((sampleWiring ℝ).command 0) (0 - 0))) := by
  have hstep : MoveCall.iterate p .initial sampleLocals o true =
      ⟨.publishing drivingZero (.finish e), 0, [drivingZero]⟩ := by
    unfold MoveCall.iterate
    rw [h]
    rfl
  have hstart := sampleMove_start p o
  rw [hstep] at hstart
  exact ⟨_, StepSystem.run_cons.2 ⟨_, hstart, StepSystem.run_cons.2 ⟨_, rfl, rfl⟩⟩, rfl⟩

theorem sampleMove_ticks (p : CmdVelMotionPlugin) (o : Observation) (rest : List MoveReply) :
    ticks p ((sampleWiring ℝ).command 0) .initial (.start 0 sampleOdometry o true :: rest) =
      ⟨sampleLocals, o⟩ :: ticks p ((sampleWiring ℝ).command 0) (MoveCall.iterate p .initial sampleLocals o true)
        rest := by
  unfold ticks
  rw [StepSystem.outputs_cons (sampleMove_start p o)]
  rfl

/-! ### The sample move to its target -/

/-- Fresh odometry of a robot that has come `x` metres. -/
def aheadOdometry (x : ℝ) : OdometryRead := .ok (some (⟨.ok ⟨x, 0, 0, 0, 0, 1⟩, 0⟩, true))

noncomputable def aheadPose (x : ℝ) : Pose2D ℝ := ⟨x, 0, samplePose.yaw, "odom", 0⟩

/-- Nothing speaks against driving on, `x` metres from the start. -/
def aheadObservation (now x : ℝ) : Observation := ⟨false, false, now, aheadOdometry x, .ok none⟩

/-- The second twist of the sample move. -/
noncomputable def halfwayTwist : Twist := ⟨1 / (10 : ℚ), 0⟩

/-- The locals after the second twist, halfway to the target. -/
noncomputable def halfwayLocals : Locals :=
  { sampleDriving.seen (aheadPose (1 / 2 : ℚ)) with prevLinearCmd := 1 / (10 : ℚ), prevAngularCmd := 0 }

/-- An iteration in time of the sample move. -/
private theorem iterate_ahead {l : Locals} {now x : ℝ} (hphase : l.phase = .driving) (hnow : now < l.deadline) :
    iterate samplePlugin l (aheadObservation now x) = drive samplePlugin (l.seen (aheadPose x)) (aheadPose x) := by
  have hpose : currentPose (aheadObservation now x).odometry = .ok (some (aheadPose x), true) := rfl
  have hclear : obstacleAhead samplePlugin (aheadObservation now x).scan (travelSector (l.seen (aheadPose x)))
      (l.seen (aheadPose x)).constraints.obstacleStopDistanceM = .ok none := if_pos rfl
  unfold iterate
  rw [if_neg (by simp [aheadObservation]), if_neg (by simp [aheadObservation, hnow]), hpose]
  exact iterateFresh_clear hphase hclear

private theorem halfway_iterate {now : ℝ} (hnow : now < 30) :
    iterate samplePlugin sampleDriving (aheadObservation now (1 / 2 : ℚ)) = .publish halfwayTwist halfwayLocals := by
  have hdeadline : now < sampleDriving.deadline := by
    norm_num [sampleDriving, sampleFresh, sampleLocals]
    exact hnow
  have hremaining : (sampleDriving.seen (aheadPose (1 / 2 : ℚ))).distanceTargetM -
      euclideanDistance (sampleDriving.seen (aheadPose (1 / 2 : ℚ))).phaseStartPose.x
        (sampleDriving.seen (aheadPose (1 / 2 : ℚ))).phaseStartPose.y (aheadPose (1 / 2 : ℚ)).x
        (aheadPose (1 / 2 : ℚ)).y = 1 / 2 := by
    have hroot : √(4 : ℝ) = 2 := by
      rw [show (4 : ℝ) = 2 ^ 2 by norm_num, Real.sqrt_sq (by norm_num)]
    norm_num [sampleDriving, sampleFresh, sampleLocals, Locals.seen, aheadPose, samplePose, euclideanDistance,
      PyMath.hypot_real, hroot]
  have hheading : angularDifference (sampleDriving.seen (aheadPose (1 / 2 : ℚ))).headingTarget
      (aheadPose (1 / 2 : ℚ)).yaw = 0 := angularDifference_self _
  have hang : angularCommand samplePlugin (sampleDriving.seen (aheadPose (1 / 2 : ℚ))) 0 = 0 := by
    norm_num [angularCommand, clamp, clampDelta, samplePlugin, sampleDriving, sampleFresh, sampleLocals, Locals.seen,
      sampleConstraints, CmdVelMotionPlugin.tickPeriodS]
  have hlin : linearCommand samplePlugin (sampleDriving.seen (aheadPose (1 / 2 : ℚ))) (1 / 2) = 1 / (10 : ℚ) := by
    norm_num [linearCommand, clamp, clampDelta, samplePlugin, sampleDriving, sampleFresh, sampleLocals, Locals.seen,
      sampleConstraints, CmdVelMotionPlugin.tickPeriodS]
  rw [iterate_ahead rfl hdeadline]
  unfold drive
  dsimp only
  rw [hremaining, if_neg (by norm_num [samplePlugin]), hheading, hang, hlin]
  rfl

private theorem arrived_iterate {now : ℝ} (hnow : now < 30) :
    iterate samplePlugin halfwayLocals (aheadObservation now 1) =
      .exit (.reached (halfwayLocals.seen (aheadPose 1))) := by
  have hdeadline : now < halfwayLocals.deadline := by
    norm_num [halfwayLocals, sampleDriving, sampleFresh, sampleLocals, Locals.seen]
    exact hnow
  have hremaining : (halfwayLocals.seen (aheadPose 1)).distanceTargetM -
      euclideanDistance (halfwayLocals.seen (aheadPose 1)).phaseStartPose.x
        (halfwayLocals.seen (aheadPose 1)).phaseStartPose.y (aheadPose 1).x (aheadPose 1).y = 0 := by
    norm_num [halfwayLocals, sampleDriving, sampleFresh, sampleLocals, Locals.seen, aheadPose, samplePose,
      euclideanDistance, PyMath.hypot_real]
  rw [iterate_ahead rfl hdeadline]
  unfold drive
  dsimp only
  rw [hremaining, if_pos (by norm_num [samplePlugin])]

/-- A tick period, with the defaults of the parameters. -/
noncomputable def samplePeriod : ℝ := 1 / (20 : ℚ)

/-- The replies to a move that reads its odometry at the start, halfway and at the target. -/
noncomputable def arrivingReplies : List MoveReply :=
  [.start 0 sampleOdometry sampleObservation true, .published (.ok ()) 0,
    .slept (.ok (aheadObservation samplePeriod (1 / 2 : ℚ))) true, .published (.ok ()) samplePeriod,
    .slept (.ok (aheadObservation (samplePeriod + samplePeriod) 1)) true,
    .published (.ok ()) (samplePeriod + samplePeriod)]

/-- The ticks of this move. -/
noncomputable def arrivingTicks : List Tick :=
  [⟨sampleLocals, sampleObservation⟩, ⟨sampleDriving, aheadObservation samplePeriod (1 / 2 : ℚ)⟩,
    ⟨halfwayLocals, aheadObservation (samplePeriod + samplePeriod) 1⟩]

/-- The move reaches its target in three ticks, with two twists and the final zero twist. -/
theorem arriving_run : ∃ m result,
    StepSystem.run (moveStep samplePlugin ((sampleWiring ℝ).command 0)) .initial arrivingReplies = some m ∧
      m.startMonotonic = 0 ∧ m.point = .ended (.returned result) ∧ result.status = .succeeded ∧
      m.handed.map Handed.twist = [sampleTwist, halfwayTwist, .zero] ∧
      ticks samplePlugin ((sampleWiring ℝ).command 0) .initial arrivingReplies = arrivingTicks := by
  have hperiod : samplePeriod = 1 / 20 := by norm_num [samplePeriod]
  have hfirst := sampleMove_handed
  have hslept : moveStep samplePlugin ((sampleWiring ℝ).command 0)
      ⟨.sleeping sampleDriving, 0, [⟨sampleTwist, some .driving⟩]⟩
      (.slept (.ok (aheadObservation samplePeriod (1 / 2 : ℚ))) true) =
        some ⟨.publishing ⟨halfwayTwist, some .driving⟩ (.loop halfwayLocals), 0,
          [⟨sampleTwist, some .driving⟩, ⟨halfwayTwist, some .driving⟩]⟩ := by
    change some (MoveCall.iterate _ _ _ _ _) = _
    unfold MoveCall.iterate
    rw [halfway_iterate (by rw [hperiod]; norm_num)]
    rfl
  have harrived : moveStep samplePlugin ((sampleWiring ℝ).command 0)
      ⟨.sleeping halfwayLocals, 0, [⟨sampleTwist, some .driving⟩, ⟨halfwayTwist, some .driving⟩]⟩
      (.slept (.ok (aheadObservation (samplePeriod + samplePeriod) 1)) true) =
        some ⟨.publishing drivingZero (.finish (.reached (halfwayLocals.seen (aheadPose 1)))), 0,
          [⟨sampleTwist, some .driving⟩, ⟨halfwayTwist, some .driving⟩, drivingZero]⟩ := by
    change some (MoveCall.iterate _ _ _ _ _) = _
    unfold MoveCall.iterate
    rw [arrived_iterate (by rw [hperiod]; norm_num)]
    rfl
  have hpublished : ∀ (h : Handed) (l : Locals) (handed : List Handed) (now : ℝ),
      moveStep samplePlugin ((sampleWiring ℝ).command 0) ⟨.publishing h (.loop l), 0, handed⟩
        (.published (.ok ()) now) = some ⟨.sleeping l, 0, handed⟩ := fun _ _ _ _ => rfl
  refine ⟨_, _, StepSystem.run_cons.2 ⟨_, hfirst, StepSystem.run_cons.2 ⟨_, hpublished _ _ _ _, StepSystem.run_cons.2
    ⟨_, hslept, StepSystem.run_cons.2 ⟨_, hpublished _ _ _ _, StepSystem.run_cons.2 ⟨_, harrived,
      StepSystem.run_cons.2 ⟨_, rfl, rfl⟩⟩⟩⟩⟩⟩, rfl, rfl, rfl, rfl, ?_⟩
  unfold ticks arrivingReplies
  rw [StepSystem.outputs_cons hfirst, StepSystem.outputs_cons (hpublished _ _ _ _), StepSystem.outputs_cons hslept,
    StepSystem.outputs_cons (hpublished _ _ _ _), StepSystem.outputs_cons harrived]
  rfl

end RosMcp
