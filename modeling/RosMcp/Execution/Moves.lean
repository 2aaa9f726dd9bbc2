import RosMcp.Execution.Manager

/-!
# What one step of an execution can do

`Moves w s e c p p' events eff` lists the transitions of one execution `e` of the command object `c`: from the await
`p` to the await `p'`, with the exchanges `events` and the effect `eff` on the token and active-command tables.
`resume_goes` is the inversion of `resume`, and `resume_moves` says which transition each of its cases is; the
invariants of the manager are derived from that and never unfold the manager's functions.
-/

namespace RosMcp

variable {N : Type}

/-- What a step does to `_tokens`, `_active_commands` and the token objects. -/
inductive RegistryEffect (N : Type)
  | quiet
  | register (token : Token N)
  /-- a registration that the same step takes back -/
  | transient (token : Token N)
  | release
  | cancelToken (token : Option ExecId)

namespace RegistryEffect

variable (e : ExecId) (c : CommandRef) (command : SemanticCommand N)

def tokens (old : String → Option ExecId) : RegistryEffect N → String → Option ExecId
  | .register _ => Function.update old command.commandId (some e)
  | .transient _ | .release => Function.update old command.commandId none
  | .quiet | .cancelToken _ => old

def tokenObject (old : ExecId → Option (Token N)) : RegistryEffect N → ExecId → Option (Token N)
  | .register token | .transient token => Function.update old e (some token)
  | .cancelToken (some t) => Function.update old t ((old t).map ({ · with cancelled := true }))
  | .quiet | .release | .cancelToken none => old

def activeCommands (old : String → Option CommandRef) : RegistryEffect N → String → Option CommandRef
  | .register _ => Function.update old command.robotId (some c)
  | .transient _ => Function.update old command.robotId none
  | .release => if old command.robotId = some c then Function.update old command.robotId none else old
  | .quiet | .cancelToken _ => old

end RegistryEffect

/-- The three sorts of steps that the tables see: a registration, the lookup of a STOP, and all others. -/
inductive EffectKind
  | plain | registers | looks
  deriving DecidableEq, Repr

def RegistryEffect.kind : RegistryEffect N → EffectKind
  | .register _ | .transient _ => .registers
  | .cancelToken _ => .looks
  | .quiet | .release => .plain

/-- The sort of step that a reply leads to: an ALLOW makes a STOP look up the active command, and any other command
register itself when the planner has a backend. -/
def Reply.kind (w : Wiring N) (x : Execution N) : Reply N → EffectKind
  | .check (.ok outcome) selected =>
    if outcome.decision = .allow then
      if (w.command x.command).operation = .stop then .looks
      else
        match selected with
        | .ok (some _) => .registers
        | _ => .plain
    else .plain
  | _ => .plain

/-- An operation that is dispatched to a backend, with the method that serves it. -/
inductive Dispatches : Operation → BackendCall → Prop
  | move : Dispatches .move .move
  | navigate : Dispatches .navigate .navigate

theorem Dispatches.ne_stop {op : Operation} {call : BackendCall} (h : Dispatches op call) : op ≠ .stop := by
  cases h <;> simp

/-- A point at which the task of an execution still runs. -/
def Point.Live : Point N → Prop
  | .done _ => False
  | _ => True

/-- An outcome other than a success. -/
def Outcome.Unsuccessful : Outcome N → Prop
  | .returned r => r.status ≠ .succeeded
  | .cancelled => True

/-- The transitions of an execution. -/
inductive Moves (w : Wiring N) (s : State N) (e : ExecId) (c : CommandRef) :
    Point N → Point N → List (Event N) → RegistryEffect N → Prop
  | read (hclass : (w.command c).commandClass = .read) : Moves w s e c .created .handler [] .quiet
  | readMissing (o : Outcome N) (hclass : (w.command c).commandClass = .read) :
      Moves w s e c .created (.done o) [] .quiet
  | begin (hclass : (w.command c).commandClass ≠ .read) : Moves w s e c .created .pose [] .quiet
  | handled (o : Outcome N) : Moves w s e c .handler (.done o) [] .quiet
  | posed (p : Option (Pose2D N)) : Moves w s e c .pose (.check p) [.poseReturned e p] .quiet
  | raised (p : Point N) (o : Outcome N) (hp : p.Live) (hb : p ≠ .backend) (ho : o.Unsuccessful) :
      Moves w s e c p (.done o) [] .quiet
  | refused (p : Option (Pose2D N)) (d : SafetyDecision) (o : Outcome N) (hd : d ≠ .allow) (ho : o.Unsuccessful) :
      Moves w s e c (.check p) (.done o) [.checked e c p d] .quiet
  | plannerRaised (p : Option (Pose2D N)) (o : Outcome N) (hop : (w.command c).operation ≠ .stop) :
      Moves w s e c (.check p) (.done o) [.checked e c p .allow] .quiet
  | unavailable (p : Option (Pose2D N)) (o : Outcome N) (hop : (w.command c).operation ≠ .stop) :
      Moves w s e c (.check p) (.done o) [.checked e c p .allow, .selected e none] .quiet
  | undispatched (p : Option (Pose2D N)) (b : Backend) (token : Token N) (o : Outcome N)
      (hop : (w.command c).operation ≠ .stop) :
      Moves w s e c (.check p) (.done o) [.checked e c p .allow, .selected e (some b)] (.transient token)
  | dispatched (p : Option (Pose2D N)) (b : Backend) (token : Token N) (call : BackendCall)
      (hop : Dispatches (w.command c).operation call) (hnew : token.cancelled = false) :
      Moves w s e c (.check p) .backend [.checked e c p .allow, .selected e (some b), .called e c call]
        (.register token)
  | stopCalled (p : Option (Pose2D N)) (cancelledId : Option String) (hop : (w.command c).operation = .stop)
      (hm : w.motionBackend = true) :
      Moves w s e c (.check p) (.stopMotion cancelledId)
        [.checked e c p .allow,
          .looked e (s.activeCommands (w.command c).robotId) (stopToken w s (w.command c)), .called e c .stop]
        (.cancelToken (stopToken w s (w.command c)))
  | stopNavigationCalled (p : Option (Pose2D N)) (cancelledId : Option String) (finalPose : Option (Pose2D N))
      (hop : (w.command c).operation = .stop) (hm : w.motionBackend = false) (hn : w.navigationBackend = true) :
      Moves w s e c (.check p) (.stopNavigation cancelledId finalPose)
        [.checked e c p .allow,
          .looked e (s.activeCommands (w.command c).robotId) (stopToken w s (w.command c)), .called e c .cancelAll]
        (.cancelToken (stopToken w s (w.command c)))
  | stopNoBackend (p : Option (Pose2D N)) (o : Outcome N) (hop : (w.command c).operation = .stop)
      (hm : w.motionBackend = false) (hn : w.navigationBackend = false) :
      Moves w s e c (.check p) (.done o)
        [.checked e c p .allow,
          .looked e (s.activeCommands (w.command c).robotId) (stopToken w s (w.command c))]
        (.cancelToken (stopToken w s (w.command c)))
  | stopped (cancelledId : Option String) (finalPose : Option (Pose2D N)) (hn : w.navigationBackend = true) :
      Moves w s e c (.stopMotion cancelledId) (.stopNavigation cancelledId finalPose)
        [.stopReturned e, .called e c .cancelAll] .quiet
  | stoppedLast (cancelledId : Option String) (o : Outcome N) (hn : w.navigationBackend = false) :
      Moves w s e c (.stopMotion cancelledId) (.done o) [.stopReturned e] .quiet
  | cancelledAll (cancelledId : Option String) (finalPose : Option (Pose2D N)) (o : Outcome N) :
      Moves w s e c (.stopNavigation cancelledId finalPose) (.done o) [] .quiet
  | released (o : Outcome N) : Moves w s e c .backend (.done o) [] .release

/-- `s'` is `s` after the exchanges `events` and the effect `eff`, apart from the execution itself. -/
structure Updated (w : Wiring N) (s s' : State N) (e : ExecId) (c : CommandRef) (events : List (Event N))
    (eff : RegistryEffect N) : Prop where
  log : s'.log = s.log ++ events
  tokens : s'.tokens = eff.tokens e (w.command c) s.tokens
  tokenObject : s'.tokenObject = eff.tokenObject e s.tokenObject
  activeCommands : s'.activeCommands = eff.activeCommands c (w.command c) s.activeCommands
  inFlight : s'.inFlight = s.inFlight
  nextExec : s'.nextExec = s.nextExec
  submits : s'.submits = s.submits
  nextSubmit : s'.nextSubmit = s.nextSubmit

/-- `s'` is `s` after a transition of the execution `e`, which goes from `x` to `x'`. -/
structure Resumed (w : Wiring N) (s s' : State N) (e : ExecId) (x x' : Execution N) (events : List (Event N))
    (eff : RegistryEffect N) : Prop extends Updated w s s' e x.command events eff where
  execs_eq : s.execs e = some x
  command_eq : x'.command = x.command
  moves : Moves w s e x.command x.point x'.point events eff
  execs : s'.execs = Function.update s.execs e (some x')

/-- How the effect and the exchanges of a transition follow from the reply. -/
structure Answers (w : Wiring N) (e : ExecId) (x : Execution N) (reply : Reply N) (events : List (Event N))
    (eff : RegistryEffect N) : Prop where
  kind : eff.kind = reply.kind w x
  decision : ∀ c q d, .checked e c q d ∈ events →
    ∃ outcome selected, reply = .check (.ok outcome) selected ∧ outcome.decision = d
  posed : ∀ q, .poseReturned e q ∈ events ↔ reply = .pose (.ok q)
  stopped : .stopReturned e ∈ events ↔ ∃ finalPose, reply = .stop (.result finalPose)

/-! ### The primitive updates -/

namespace Updated

variable {w : Wiring N} {s s₁ : State N} {e : ExecId} {c : CommandRef} {events : List (Event N)}
  {eff : RegistryEffect N}

private theorem refl : Updated w s s e c [] .quiet where
  log := by rw [List.append_nil]
  tokens := rfl
  tokenObject := rfl
  activeCommands := rfl
  inFlight := rfl
  nextExec := rfl
  submits := rfl
  nextSubmit := rfl

private theorem setExecutionState (h : Updated w s s₁ e c events eff) (c' : CommandRef) (st : ExecutionState) :
    Updated w s (s₁.setExecutionState c' st) e c events eff :=
  { h with }

private theorem emit (h : Updated w s s₁ e c events eff) (events' : List (Event N)) :
    Updated w s (s₁.emit events') e c (events ++ events') eff :=
  { h with log := by rw [State.emit, h.log, List.append_assoc] }

private theorem cancelToken (h : Updated w s s₁ e c events .quiet) (token : Option ExecId) :
    Updated w s (s₁.cancelToken token) e c events (.cancelToken token) := by
  cases token with
  | none => exact { h with }
  | some t => exact { h with tokenObject := by rw [State.cancelToken, h.tokenObject]; rfl }

private theorem register (h : Updated w s s₁ e c events .quiet) (token : Token N) :
    Updated w s (s₁.register e c (w.command c) token) e c events (.register token) :=
  { h with
    tokens := by rw [State.register, h.tokens]; rfl
    tokenObject := by rw [State.register, h.tokenObject]; rfl
    activeCommands := by rw [State.register, h.activeCommands]; rfl }

private theorem release (h : Updated w s s₁ e c events .quiet) :
    Updated w s (s₁.release c (w.command c)) e c events .release :=
  { h with
    tokens := by rw [State.release, h.tokens]; rfl
    activeCommands := by rw [State.release, h.activeCommands]; rfl }

/-- A registration that is taken back at once. -/
private theorem registerRelease {token : Token N} (h : Updated w s s₁ e c events (.register token)) :
    Updated w s (s₁.release c (w.command c)) e c events (.transient token) :=
  { h with
    tokens := by
      rw [State.release, h.tokens]
      exact Function.update_idem _ _ _
    activeCommands := by
      rw [State.release, h.activeCommands]
      simp only [RegistryEffect.activeCommands, Function.update_self, if_true]
      exact Function.update_idem _ _ _ }

/-- The execution is suspended at its next await. -/
private theorem suspend {x x' : Execution N} {p : Point N} (h : Updated w s s₁ e x.command events eff)
    (hx : s.execs e = some x) (hc : x'.command = x.command) (hex : s₁.execs = s.execs)
    (hm : Moves w s e x.command x.point p events eff) :
    Resumed w s (s₁.suspend e x' p) e x { x' with point := p } events eff :=
  { h with
    execs_eq := hx
    command_eq := hc
    moves := hm
    execs := by rw [State.suspend, hex] }

end Updated

theorem cancelToken_execs (s : State N) (t : Option ExecId) : (s.cancelToken t).execs = s.execs := by
  cases t <;> rfl

/-! ### Inversion -/

section Inversion

variable [IntCast N] [Add N] [Sub N] {w : Wiring N} {s s₁ s' : State N} {e : ExecId} {x x₁ : Execution N} {now : N}
  {events : List (Event N)} {eff : RegistryEffect N}

omit [Add N] in
private theorem unsuccessful_errorResult (x : Execution N) (now : N) (code : ErrorCode) (message : Message N) :
    (Outcome.returned (errorResult w x now code message)).Unsuccessful := by
  intro h
  cases h

omit [Add N] in
/-- The exception branch of `_execute` ends the execution without a success. -/
private theorem Updated.unhandled (h : Updated w s s₁ e x.command events eff) (hx : s.execs e = some x)
    (hex : s₁.execs = s.execs)
    (hm : ∀ o : Outcome N, o.Unsuccessful → Moves w s e x.command x.point (.done o) events eff)
    (now : N) (exc : PyException) : ∃ x', Resumed w s (unhandled w s₁ e x now exc) e x x' events eff :=
  ⟨_, (h.setExecutionState _ _).suspend hx rfl hex (hm _ (unsuccessful_errorResult x now _ _))⟩

omit [Add N] in
private theorem execute_moves (hx : s.execs e = some x) (hp : x.point = .created) :
    ∃ x', Resumed w s (execute w s e x now) e x x' [] .quiet := by
  unfold execute
  by_cases hclass : (w.command x.command).commandClass = .read
  · simp only [hclass, if_true]
    unfold executeRead
    dsimp only
    split
    · exact ⟨_, (Updated.refl.setExecutionState _ _).suspend hx rfl rfl (by rw [hp]; exact .read hclass)⟩
    · exact ⟨_, ((Updated.refl.setExecutionState _ _).setExecutionState _ _).suspend hx rfl rfl
        (by rw [hp]; exact .readMissing _ hclass)⟩
  · simp only [hclass, if_false]
    exact ⟨_, (Updated.refl.setExecutionState _ _).suspend hx rfl rfl (by rw [hp]; exact .begin hclass)⟩

omit [IntCast N] [Add N] [Sub N] in
/-- The exchanges of a step that begins with an ALLOW. -/
private theorem answers_allow {outcome : SafetyOutcome N} {selected : Except PyException (Option Backend)}
    {q : Option (Pose2D N)} (hd : outcome.decision = .allow)
    (hk : eff.kind = (Reply.check (.ok outcome) selected).kind w x)
    (htail : ∀ ev ∈ events, (∀ c' q' d, ev ≠ .checked e c' q' d) ∧ (∀ q', ev ≠ .poseReturned e q') ∧
      ev ≠ .stopReturned e) :
    Answers w e x (.check (.ok outcome) selected) (.checked e x.command q .allow :: events) eff := by
  refine ⟨hk, ?_, ?_, ?_⟩
  · intro c' q' d hmem
    rcases List.mem_cons.1 hmem with h | h
    · obtain ⟨-, -, -, rfl⟩ := Event.checked.inj h
      exact ⟨outcome, selected, rfl, hd⟩
    · exact absurd rfl ((htail _ h).1 c' q' d)
  · intro q'
    refine ⟨fun hmem => ?_, by simp⟩
    rcases List.mem_cons.1 hmem with h | h
    · cases h
    · exact absurd rfl ((htail _ h).2.1 q')
  · refine ⟨fun hmem => ?_, by simp⟩
    rcases List.mem_cons.1 hmem with h | h
    · cases h
    · exact absurd rfl (htail _ h).2.2

/-- `dispatch`, after the check and the selection. -/
private theorem dispatch_moves {p : Option (Pose2D N)} {b : Backend} {outcome : SafetyOutcome N}
    (hx : s.execs e = some x)
    (hp : x.point = .check p) (hop : (w.command x.command).operation ≠ .stop) (hd : outcome.decision = .allow)
    (hex : s₁.execs = s.execs)
    (h : Updated w s s₁ e x.command [.checked e x.command p .allow, .selected e (some b)] .quiet) :
    ∃ x' events eff, Resumed w s (dispatch w s₁ e x now) e x x' events eff ∧
      Answers w e x (.check (.ok outcome) (.ok (some b))) events eff := by
  have hreg := (h.register ⟨now + (w.command x.command).timeoutS, false⟩).setExecutionState x.command .executing
  have hback := hreg.registerRelease
  have hkind : EffectKind.registers = (Reply.check (.ok outcome) (.ok (some b))).kind w x := by
    simp [Reply.kind, hd, hop]
  have hm (o : Outcome N) : Moves w s e x.command x.point (.done o)
      [.checked e x.command p .allow, .selected e (some b)]
      (.transient ⟨now + (w.command x.command).timeoutS, false⟩) := by
    rw [hp]
    exact .undispatched p b _ o hop
  unfold dispatch
  dsimp only
  split
  · next ho =>
    split
    · exact ⟨_, _, _, (hreg.emit _).suspend hx rfl hex
        (by rw [hp]; exact .dispatched p b _ .move (by rw [ho]; exact .move) rfl),
        answers_allow hd hkind (by simp)⟩
    · obtain ⟨x', hx'⟩ := hback.unhandled hx hex (fun o _ => hm o) now (noBackend "move")
      exact ⟨x', _, _, hx', answers_allow hd hkind (by simp)⟩
  · next ho =>
    split
    · exact ⟨_, _, _, (hreg.emit _).suspend hx rfl hex
        (by rw [hp]; exact .dispatched p b _ .navigate (by rw [ho]; exact .navigate) rfl),
        answers_allow hd hkind (by simp)⟩
    · obtain ⟨x', hx'⟩ := hback.unhandled hx hex (fun o _ => hm o) now (noBackend "navigate")
      exact ⟨x', _, _, hx', answers_allow hd hkind (by simp)⟩
  · exact ⟨_, _, _, (hback.setExecutionState _ _).suspend hx rfl hex (hm _), answers_allow hd hkind (by simp)⟩

omit [IntCast N] [Add N] in
private theorem handleStop_moves {p : Option (Pose2D N)} {outcome : SafetyOutcome N}
    {selected : Except PyException (Option Backend)} (hx : s.execs e = some x) (hp : x.point = .check p)
    (hop : (w.command x.command).operation = .stop) (hd : outcome.decision = .allow) (hex : s₁.execs = s.execs)
    (h : Updated w s s₁ e x.command [.checked e x.command p .allow] .quiet) :
    ∃ x' events eff, Resumed w s (handleStop w s₁ e x now) e x x' events eff ∧
      Answers w e x (.check (.ok outcome) selected) events eff := by
  have ha : s₁.activeCommands = s.activeCommands := h.activeCommands
  have ht : stopToken w s₁ (w.command x.command) = stopToken w s (w.command x.command) := by
    unfold stopToken stopTarget
    rw [ha, h.tokens]
    rfl
  have hkind : EffectKind.looks = (Reply.check (.ok outcome) selected).kind w x := by
    simp [Reply.kind, hd, hop]
  have hlook := (h.cancelToken (stopToken w s (w.command x.command))).emit
    [.looked e (s.activeCommands (w.command x.command).robotId) (stopToken w s (w.command x.command))]
  have hex' : ∀ t, (s₁.cancelToken t).execs = s.execs := fun t => by rw [cancelToken_execs, hex]
  unfold handleStop
  dsimp only
  rw [ht, ha]
  split
  · next hm =>
    exact ⟨_, _, _, (hlook.emit _).suspend hx rfl (hex' _) (by rw [hp]; exact .stopCalled p _ hop hm),
      answers_allow hd hkind (by simp)⟩
  · next hm =>
    have hm' : w.motionBackend = false := by simpa using hm
    unfold stopNavigation
    split
    · next hn =>
      exact ⟨_, _, _, (hlook.emit _).suspend hx rfl (hex' _)
        (by rw [hp]; exact .stopNavigationCalled p _ _ hop hm' hn), answers_allow hd hkind (by simp)⟩
    · next hn =>
      exact ⟨_, _, _, (hlook.setExecutionState _ _).suspend hx rfl (hex' _)
        (by rw [hp]; exact .stopNoBackend p _ hop hm' (by simpa using hn)), answers_allow hd hkind (by simp)⟩

private theorem executeChecked_moves {p : Option (Pose2D N)} {outcome : SafetyOutcome N}
    {selected : Except PyException (Option Backend)} (hx : s.execs e = some x) (hp : x.point = .check p) :
    ∃ x' events eff, Resumed w s (executeChecked w s e x now p outcome selected) e x x' events eff ∧
      Answers w e x (.check (.ok outcome) selected) events eff := by
  have hc : Updated w s (s.emit [.checked e x.command p outcome.decision]) e x.command
    [.checked e x.command p outcome.decision] .quiet := Updated.refl.emit _
  have refused (o : Outcome N) (hd : outcome.decision ≠ .allow) (ho : o.Unsuccessful) :
      Moves w s e x.command x.point (.done o) [.checked e x.command p outcome.decision] .quiet := by
    rw [hp]
    exact .refused p _ o hd ho
  have answers (hd : outcome.decision ≠ .allow) :
      Answers w e x (.check (.ok outcome) selected) [.checked e x.command p outcome.decision] .quiet := by
    refine ⟨by simp [Reply.kind, hd, RegistryEffect.kind], ?_, by simp, by simp⟩
    intro c' q d hmem
    obtain ⟨-, -, -, rfl⟩ := Event.checked.inj (List.mem_singleton.1 hmem)
    exact ⟨outcome, selected, rfl, rfl⟩
  unfold executeChecked
  dsimp only
  split
  · next hd =>
    have hne : outcome.decision ≠ .allow := by simp [hd]
    split
    · exact ⟨_, _, _, (hc.setExecutionState _ _).suspend hx rfl rfl (refused _ hne (by intro h; cases h)),
        answers hne⟩
    · obtain ⟨x', hx'⟩ := (hc.setExecutionState x.command .safetyRejected).unhandled hx rfl
        (fun o ho => refused o hne ho) now ⟨.assertionError, ""⟩
      exact ⟨x', _, _, hx', answers hne⟩
  · next hd =>
    have hne : outcome.decision ≠ .allow := by simp [hd]
    exact ⟨_, _, _, (hc.setExecutionState _ _).suspend hx rfl rfl (refused _ hne (by intro h; cases h)), answers hne⟩
  · next hd =>
    rw [hd] at hc ⊢
    by_cases hop : (w.command x.command).operation = .stop
    · rw [if_pos hop]
      exact handleStop_moves hx hp hop hd rfl (hc.setExecutionState _ _)
    · rw [if_neg hop]
      split
      · next exc =>
        obtain ⟨x', hx'⟩ := (hc.setExecutionState x.command .planning).unhandled hx rfl
          (fun o _ => by rw [hp]; exact .plannerRaised p o hop) now exc
        exact ⟨x', _, _, hx', answers_allow hd (by simp [Reply.kind, hd, hop, RegistryEffect.kind]) (by simp)⟩
      · exact ⟨_, _, _, (((hc.setExecutionState _ _).emit _).setExecutionState _ _).suspend hx rfl rfl
          (by rw [hp]; exact .unavailable p _ hop),
          answers_allow hd (by simp [Reply.kind, hd, hop, RegistryEffect.kind]) (by simp)⟩
      · exact dispatch_moves hx hp hop hd rfl ((hc.setExecutionState _ _).emit _)

omit [IntCast N] [Add N] in
private theorem stopNavigation_moves {cid : Option String} {finalPose : Option (Pose2D N)} (hx : s.execs e = some x)
    (hp : x.point = .stopMotion cid) (hex : s₁.execs = s.execs)
    (h : Updated w s s₁ e x.command [.stopReturned e] .quiet) :
    ∃ x' events, Resumed w s (stopNavigation w s₁ e x now cid finalPose) e x x' events .quiet ∧
      (∀ c' q d, .checked e c' q d ∉ events) ∧ (∀ q, .poseReturned e q ∉ events) ∧ .stopReturned e ∈ events := by
  unfold stopNavigation
  split
  · next hn =>
    exact ⟨_, _, (h.emit _).suspend hx rfl hex (by rw [hp]; exact .stopped cid finalPose hn), by simp⟩
  · next hn =>
    exact ⟨_, _, (h.setExecutionState _ _).suspend hx rfl hex
      (by rw [hp]; exact .stoppedLast cid _ (by simpa using hn)), by simp⟩

/-- The reply carries an exception that `_execute` catches outside the `try` of the backends. -/
inductive Reply.Raises : Reply N → PyException → Prop
  | handler (exc : PyException) : Reply.Raises (.handler (.error exc)) exc
  | pose (exc : PyException) : Reply.Raises (.pose (.error exc)) exc
  | check (exc : PyException) (selected : Except PyException (Option Backend)) :
      Reply.Raises (.check (.error exc) selected) exc
  | foreign : Reply.Raises (.stop .foreign) ⟨.attributeError, "object has no attribute 'final_pose'"⟩
  | stop (exc : PyException) : Reply.Raises (.stop (.raised exc)) exc
  | cancelAll (exc : PyException) : Reply.Raises (.cancelAll (.error exc)) exc

omit [IntCast N] [Add N] [Sub N] in
/-- An exception is no outcome of the check, and neither a pose nor the return of a `stop`. -/
private theorem Reply.Raises.quiet {reply : Reply N} {exc : PyException} (h : reply.Raises exc) (w : Wiring N)
    (x : Execution N) :
    reply.kind w x = .plain ∧ (∀ q, reply ≠ .pose (.ok q)) ∧ ∀ finalPose, reply ≠ .stop (.result finalPose) := by
  cases h <;> exact ⟨rfl, by simp, by simp⟩

/-- What `resume` does with the reply to the await of `x`. -/
inductive Goes (w : Wiring N) (s : State N) (e : ExecId) (x : Execution N) (now : N) : Reply N → State N → Prop
  | started (hp : x.point = .created) : Goes w s e x now .start (execute w s e x now)
  | handled (r : ToolResult N) (hp : x.point = .handler) :
      Goes w s e x now (.handler (.ok r)) (s.finish e x (finalState r) r)
  | posed (q : Option (Pose2D N)) (hp : x.point = .pose) :
      Goes w s e x now (.pose (.ok q)) ((s.emit [.poseReturned e q]).suspend e x (.check q))
  | checked (q : Option (Pose2D N)) (outcome : SafetyOutcome N) (selected : Except PyException (Option Backend))
      (hp : x.point = .check q) :
      Goes w s e x now (.check (.ok outcome) selected) (executeChecked w s e x now q outcome selected)
  | returned (r : ToolResult N) (hp : x.point = .backend) :
      Goes w s e x now (.backend (.returned r)) (finishMotion w s e x r)
  | backendRaised (exc : PyException) (hp : x.point = .backend) :
      Goes w s e x now (.backend (.raised exc)) (raiseMotion w s e x now exc)
  | timedOut (hp : x.point = .backend) :
      Goes w s e x now (.backend .timedOut)
        (finishMotion w s e x (errorResult w x now .actionTimeout
          [.text "command exceeded its timeout (execution-manager backstop)"]))
  | backendCancelled (hp : x.point = .backend) :
      Goes w s e x now .cancelled ((s.release x.command (w.command x.command)).suspend e x (.done .cancelled))
  | stopped (cancelledId : Option String) (finalPose : Option (Pose2D N)) (hp : x.point = .stopMotion cancelledId) :
      Goes w s e x now (.stop (.result finalPose))
        (stopNavigation w (s.emit [.stopReturned e]) e x now cancelledId finalPose)
  | cancelledAll (cancelledId : Option String) (finalPose : Option (Pose2D N))
      (hp : x.point = .stopNavigation cancelledId finalPose) :
      Goes w s e x now (.cancelAll (.ok ())) (finishStop w s e x now cancelledId finalPose)
  | raised {reply : Reply N} {exc : PyException} (hraises : reply.Raises exc) (hlive : x.point.Live)
      (hb : x.point ≠ .backend) : Goes w s e x now reply (unhandled w s e x now exc)
  | cancelled (hlive : x.point.Live) (hb : x.point ≠ .backend) :
      Goes w s e x now .cancelled (s.suspend e x (.done .cancelled))

theorem resume_goes {reply : Reply N} (h : resume w s e now reply = some s') :
    ∃ x, s.execs e = some x ∧ Goes w s e x now reply s' := by
  unfold resume at h
  rw [Option.bind_eq_some_iff] at h
  obtain ⟨x, hx, h⟩ := h
  refine ⟨x, hx, ?_⟩
  have raised {p : Point N} {exc : PyException} (hp : x.point = p) (hraises : reply.Raises exc)
      (hs : some (unhandled w s e x now exc) = some s') (hlive : p.Live) (hb : p ≠ .backend) :
      Goes w s e x now reply s' := by
    obtain rfl := Option.some.inj hs
    subst hp
    exact .raised hraises hlive hb
  have cancelled (hlive : x.point.Live) (hb : x.point ≠ .backend)
      (hs : some (s.suspend e x (.done .cancelled)) = some s') : Goes w s e x now .cancelled s' := by
    obtain rfl := Option.some.inj hs
    exact .cancelled hlive hb
  split at h
  · next hp =>
    obtain rfl := Option.some.inj h
    exact .started hp
  · next hp =>
    obtain rfl := Option.some.inj h
    exact .handled _ hp
  · next hp => exact raised hp (.handler _) h trivial (by simp)
  · next hp =>
    obtain rfl := Option.some.inj h
    exact .posed _ hp
  · next hp => exact raised hp (.pose _) h trivial (by simp)
  · next hp =>
    obtain rfl := Option.some.inj h
    exact .checked _ _ _ hp
  · next hp => exact raised hp (.check _ _) h trivial (by simp)
  · next hp =>
    obtain rfl := Option.some.inj h
    exact .returned _ hp
  · next hp =>
    obtain rfl := Option.some.inj h
    exact .backendRaised _ hp
  · next hp =>
    obtain rfl := Option.some.inj h
    exact .timedOut hp
  · next hp =>
    obtain rfl := Option.some.inj h
    exact .stopped _ _ hp
  · next hp => exact raised hp .foreign h trivial (by simp)
  · next hp => exact raised hp (.stop _) h trivial (by simp)
  · next hp =>
    obtain rfl := Option.some.inj h
    exact .cancelledAll _ _ hp
  · next hp => exact raised hp (.cancelAll _) h trivial (by simp)
  · cases h
  · next hp =>
    split at h
    · exact cancelled (by rw [hp]; trivial) (by simp [hp]) h
    · cases h
  · next hp =>
    obtain rfl := Option.some.inj h
    exact .backendCancelled hp
  · next hdone hcreated hbackend =>
    have hlive : x.point.Live := by
      cases hp : x.point with
      | done o => exact absurd hp (hdone o)
      | _ => trivial
    exact cancelled hlive hbackend h
  · cases h

/-- Every step of `resume` is one of the transitions. -/
theorem resume_moves {reply : Reply N} (h : resume w s e now reply = some s') :
    ∃ x x' events eff, Resumed w s s' e x x' events eff ∧ Answers w e x reply events eff := by
  obtain ⟨x, hx, hgoes⟩ := resume_goes h
  refine ⟨x, ?_⟩
  -- the replies other than an outcome of the check
  have plain {x' : Execution N} {events : List (Event N)} {eff : RegistryEffect N}
      (hr : Resumed w s s' e x x' events eff) (hk : eff.kind = .plain) (hreply : reply.kind w x = .plain)
      (hev : ∀ c' q d, .checked e c' q d ∉ events) (hpose : ∀ q, .poseReturned e q ∈ events ↔ reply = .pose (.ok q))
      (hstop : .stopReturned e ∈ events ↔ ∃ finalPose, reply = .stop (.result finalPose)) :
      ∃ x' events eff, Resumed w s s' e x x' events eff ∧ Answers w e x reply events eff :=
    ⟨x', events, eff, hr, by rw [hk, hreply], fun c' q d hmem => absurd hmem (hev c' q d), hpose, hstop⟩
  cases hgoes with
  | started hp =>
    obtain ⟨x', hx'⟩ := execute_moves (w := w) hx hp
    exact plain hx' rfl rfl (by simp) (by simp) (by simp)
  | handled r hp =>
    exact plain ((Updated.refl.setExecutionState _ _).suspend hx rfl rfl (by rw [hp]; exact .handled _)) rfl rfl
      (by simp) (by simp) (by simp)
  | posed q hp =>
    exact plain ((Updated.refl.emit _).suspend hx rfl rfl (by rw [hp]; exact .posed q)) rfl rfl (by simp)
      (by simp [eq_comm]) (by simp)
  | checked q outcome selected hp => exact executeChecked_moves hx hp
  | returned | backendRaised | timedOut =>
    next hp =>
    exact plain ((Updated.refl.release.setExecutionState _ _).suspend hx rfl rfl (by rw [hp]; exact .released _)) rfl
      rfl (by simp) (by simp) (by simp)
  | backendCancelled hp =>
    exact plain (Updated.refl.release.suspend hx rfl rfl (by rw [hp]; exact .released _)) rfl rfl (by simp) (by simp)
      (by simp)
  | stopped cid fp hp =>
    have hup : Updated w s (s.emit [.stopReturned e]) e x.command [.stopReturned e] .quiet := Updated.refl.emit _
    have hex : (s.emit [.stopReturned e]).execs = s.execs := rfl
    obtain ⟨x', events, hx', hev⟩ := stopNavigation_moves hx hp hex hup
    exact plain hx' rfl rfl hev.1 (by simpa using hev.2.1) (by simpa using hev.2.2)
  | cancelledAll cid fp hp =>
    exact plain ((Updated.refl.setExecutionState _ _).suspend hx rfl rfl
      (by rw [hp]; exact .cancelledAll cid fp _)) rfl rfl (by simp) (by simp) (by simp)
  | @raised reply exc hraises hlive hb =>
    obtain ⟨x', hx'⟩ := Updated.refl.unhandled hx rfl (fun o ho => .raised x.point o hlive hb ho) now exc
    obtain ⟨hkind, hpose, hstop⟩ := hraises.quiet w x
    exact plain hx' rfl hkind (by simp) (by simpa using hpose) (by simpa using hstop)
  | cancelled hlive hb =>
    exact plain (Updated.refl.suspend hx rfl rfl (.raised x.point _ hlive hb trivial)) rfl rfl (by simp) (by simp)
      (by simp)

theorem resume_goes_of {reply : Reply N} (h : resume w s e now reply = some s') (hx : s.execs e = some x) :
    Goes w s e x now reply s' := by
  obtain ⟨y, hy, hgoes⟩ := resume_goes h
  obtain rfl : y = x := Option.some.inj (hy.symm.trans hx)
  exact hgoes

theorem resume_moves_of {reply : Reply N} (h : resume w s e now reply = some s') (hx : s.execs e = some x) :
    ∃ x' events eff, Resumed w s s' e x x' events eff ∧ Answers w e x reply events eff := by
  obtain ⟨y, y', events, eff, hr, hans⟩ := resume_moves h
  obtain rfl : y = x := Option.some.inj (hr.execs_eq.symm.trans hx)
  exact ⟨y', events, eff, hr, hans⟩

/-- Only an execution at its safety check goes on with an outcome of the check. -/
theorem resume_check_point {reply : Except PyException (SafetyOutcome N)}
    {selected : Except PyException (Option Backend)} (h : resume w s e now (.check reply selected) = some s')
    (hx : s.execs e = some x) : ∃ q, x.point = .check q := by
  unfold resume at h
  rw [hx, Option.bind_some] at h
  rcases hp : x.point with _ | _ | _ | q | _ | cid | ⟨cid, fp⟩ | o
  case check => exact ⟨q, rfl⟩
  all_goals simp [hp] at h

end Inversion

end RosMcp
