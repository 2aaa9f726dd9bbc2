import RosMcp.Commands.Factory
import RosMcp.Motion.Locals
import RosMcp.Safety.PolicyEngine

/-!
# Reloading the configuration

The components read `ConfigProvider.safety` at different times: the factory when a command is created, the policy engine
when it checks the command, which is after the pose has been awaited, and the motion controller for the age of the
odometry only.  `ReloadState` puts them together: reloads take effect between any two steps.

The factory records the limits in the command, and a move enforces the recorded ones whatever is reloaded
(`moving_recorded`); the navigation plugin reads none of them.  The policy engine derives the limits anew, so it
applies the recorded ones throughout a run exactly when the limits in effect at each check are those that the command
has recorded (`unaffected_iff`).
-/

namespace RosMcp

/-! ### Limits -/

section Limits

variable {N : Type}

/-- The configuration with other limits: the fields that `_resolve_safety_constraints` copies. -/
def SafetyConfig.withLimits (safety : SafetyConfig N) (k : SafetyConstraints N) : SafetyConfig N :=
  { safety with
    maxLinearMps := k.maxLinearMps
    maxAngularRps := k.maxAngularRps
    maxLinearAccelerationMps2 := k.maxLinearAccelerationMps2
    maxAngularAccelerationRps2 := k.maxAngularAccelerationRps2
    maxMoveDistanceM := k.maxMoveDistanceM
    maxNavigationDistanceM := k.maxNavigationDistanceM
    obstacleStopDistanceM := k.obstacleStopDistanceM }

@[simp] theorem resolve_withLimits (safety : SafetyConfig N) (k : SafetyConstraints N) :
    resolveSafetyConstraints (safety.withLimits k) = k := rfl

@[simp] theorem withLimits_resolve (safety : SafetyConfig N) :
    safety.withLimits (resolveSafetyConstraints safety) = safety := rfl

variable [IntCast N] [Add N] [Sub N] [Mul N] [PyMath N] [LT N] [DecidableLT N] [LE N] [DecidableLE N]

/-- Every outcome carries the limits of the configuration that the check has read. -/
private theorem check_resolved {history : RateLimitHistory N} {safety : SafetyConfig N} {now : N}
    {command : SemanticCommand N} {pose : Option (Pose2D N)} {o : SafetyOutcome N}
    (h : (check history safety now command pose).1 = .ok o) :
    o.resolvedConstraints = resolveSafetyConstraints safety := by
  by_cases hs : command.operation = .stop
  · rw [check_stop history safety now pose hs, Except.ok.injEq] at h
    rw [← h]
  · rcases check_fst history safety now pose hs with ⟨-, error, hc⟩ | ⟨-, hc⟩
    · rw [hc, Except.ok.injEq] at h
      rw [← h]
    · rw [hc] at h
      rcases ha : assess safety command pose with exc | error | a <;>
        simp only [ha, reduceCtorEq, Except.ok.injEq] at h
      · rw [← h]
      · rw [← h]
        unfold conclude
        split
        · rfl
        · cases checkHitl safety a.distanceM <;> rfl

/-- The outcome of a check tells the limits that were in effect. -/
theorem check_withLimits_iff {history : RateLimitHistory N} {safety : SafetyConfig N} {now : N}
    {command : SemanticCommand N} {pose : Option (Pose2D N)} (k : SafetyConstraints N)
    (hok : ∃ o, (check history safety now command pose).1 = .ok o) :
    (check history safety now command pose).1 = (check history (safety.withLimits k) now command pose).1 ↔
      resolveSafetyConstraints safety = k := by
  constructor
  · intro h
    obtain ⟨o, ho⟩ := hok
    have h₁ := check_resolved ho
    have h₂ := check_resolved (h.symm.trans ho)
    rw [resolve_withLimits] at h₂
    rw [← h₁, h₂]
  · intro h
    rw [← h, withLimits_resolve]

end Limits

/-! ### A created command can be checked -/

private theorem projectTranslation_ok {direction : Direction} (hd : direction.isRotation = false) (d x y yaw : ℝ) :
    ∃ xy, projectTranslation direction d x y yaw = .ok xy := by
  cases direction with
  | forward | backward | left | right => exact ⟨_, rfl⟩
  | rotateLeft | rotateRight => cases hd

private theorem predictedMoveEndpoint_ok (target : MoveTarget ℝ) (pose : Pose2D ℝ) :
    ∃ xy, predictedMoveEndpoint target pose = .ok xy := by
  unfold predictedMoveEndpoint
  split
  · exact ⟨_, rfl⟩
  · next hrot =>
    split
    · exact ⟨_, rfl⟩
    · exact projectTranslation_ok (by simpa using hrot) _ _ _ _

private theorem assessMove_ok (safety : SafetyConfig ℝ) (target : MoveTarget ℝ) (pose : Option (Pose2D ℝ)) :
    ∃ r, assessMove safety target pose = .ok r := by
  unfold assessMove
  dsimp only
  split
  · exact ⟨_, rfl⟩
  · split
    · exact ⟨_, rfl⟩
    · next pose =>
      obtain ⟨xy, hxy⟩ := predictedMoveEndpoint_ok target pose
      rw [hxy]
      exact ⟨_, rfl⟩

/-- The assertions of `check` hold of the commands of the factory. -/
private theorem assess_ok {command : SemanticCommand ℝ} {arguments : List (String × Json ℝ)}
    (ht : buildTarget command.operation arguments = .ok command.target) (safety : SafetyConfig ℝ)
    (pose : Option (Pose2D ℝ)) : ∃ r, assess safety command pose = .ok r := by
  unfold assess
  cases ho : command.operation with
  | move =>
    rw [ho] at ht
    obtain ⟨direction, -, htarget⟩ := buildTarget_move ht
    rw [htarget]
    exact assessMove_ok safety _ pose
  | navigate =>
    rw [ho] at ht
    obtain ⟨x, y, -, -, htarget⟩ := buildTarget_navigate ht
    rw [htarget]
    exact ⟨_, rfl⟩
  | _ => exact ⟨_, rfl⟩

private theorem check_ok {command : SemanticCommand ℝ} {arguments : List (String × Json ℝ)}
    (ht : buildTarget command.operation arguments = .ok command.target) (history : RateLimitHistory ℝ)
    (safety : SafetyConfig ℝ) (now : ℝ) (pose : Option (Pose2D ℝ)) :
    ∃ o, (check history safety now command pose).1 = .ok o := by
  by_cases hs : command.operation = .stop
  · rw [check_stop history safety now pose hs]
    exact ⟨_, rfl⟩
  · rcases check_fst history safety now pose hs with ⟨-, error, hc⟩ | ⟨-, hc⟩
    · exact ⟨_, hc⟩
    · obtain ⟨r, hr⟩ := assess_ok ht safety pose
      rw [hr] at hc
      rcases r with error | a <;> exact ⟨_, hc⟩

/-- The limits that the loop of the call reads are those of the command. -/
def MoveCall.Enforces (command : SemanticCommand ℝ) (m : MoveCall) : Prop :=
  ∀ l ∈ m.point.locals, command.safetyConstraints = some l.constraints

/-! ### The components that read the configuration -/

/-- How far the manager has got with a command. -/
inductive CommandStage
  /-- Before the check: the pose is awaited. -/
  | created
  | checked (result : Except PyException (SafetyOutcome ℝ))
  | moving (m : MoveCall)

/-- A command, the configuration that its creation has read, and its stage. -/
structure ServedCommand where
  command : SemanticCommand ℝ
  createdUnder : SafetyConfig ℝ
  stage : CommandStage

/-- A call of `check`: its command, what it has read, and what it has returned or raised. -/
structure SafetyCheck where
  served : ServedCommand
  history : RateLimitHistory ℝ
  safety : SafetyConfig ℝ
  now : ℝ
  pose : Option (Pose2D ℝ)
  result : Except PyException (SafetyOutcome ℝ)

/-- `_root.safety` of the provider, the rate limit history of the policy engine, and the commands; `checks` records the
checks that were made, and no step reads it. -/
structure ReloadState where
  safety : SafetyConfig ℝ
  history : RateLimitHistory ℝ
  commands : CommandRef → Option ServedCommand
  checks : List SafetyCheck

/-- The arguments of `create` apart from the configuration of the safety limits. -/
structure ToolCall where
  robotId : String
  commandId : String
  createdAt : ℝ
  toolName : String
  operation : Operation
  commandClass : CommandClass
  arguments : List (String × Json ℝ)
  sessionId : String
  timeoutConfig : TimeoutConfig ℝ

inductive ReloadAction
  /-- `reload`, with what `_load` gives. -/
  | reload (loaded : Except PyException (SafetyConfig ℝ))
  | create (c : CommandRef) (call : ToolCall)
  | check (c : CommandRef) (now : ℝ) (pose : Option (Pose2D ℝ))
  /-- `_motion_backend.move` is called. -/
  | dispatch (c : CommandRef)
  | move (c : CommandRef) (reply : MoveReply)

namespace ReloadState

def initial (safety : SafetyConfig ℝ) : ReloadState := ⟨safety, fun _ => [], fun _ => none, []⟩

def setStage (s : ReloadState) (c : CommandRef) (x : ServedCommand) (stage : CommandStage) : ReloadState :=
  { s with commands := Function.update s.commands c (some { x with stage }) }

/-- The check of the command `x`, in the state of the provider and the engine. -/
noncomputable def checkOf (s : ReloadState) (x : ServedCommand) (now : ℝ) (pose : Option (Pose2D ℝ)) : SafetyCheck :=
  ⟨x, s.history, s.safety, now, pose, (RosMcp.check s.history s.safety now x.command pose).1⟩

noncomputable def step (p : CmdVelMotionPlugin) (s : ReloadState) : ReloadAction → Option ReloadState
  | .reload (.ok safety) => some { s with safety }
  -- a file that does not load leaves the configuration alone
  | .reload (.error _) => some s
  | .create c call =>
    match s.commands c, RosMcp.create call.robotId call.commandId call.createdAt call.toolName call.operation
        call.commandClass call.arguments call.sessionId s.safety call.timeoutConfig with
    | none, .ok command =>
      some { s with commands := Function.update s.commands c (some ⟨command, s.safety, .created⟩) }
    | none, .error _ => some s
    | some _, _ => none
  | .check c now pose =>
    (s.commands c).bind fun x =>
      match x.stage, x.command.commandClass with
      -- a read is executed without a check
      | .created, .read => none
      | .created, _ =>
        some
          { s.setStage c x (.checked (s.checkOf x now pose).result) with
            history := (RosMcp.check s.history s.safety now x.command pose).2
            checks := s.checks ++ [s.checkOf x now pose] }
      | _, _ => none
  | .dispatch c =>
    (s.commands c).bind fun x =>
      match x.stage, x.command.operation with
      | .checked (.ok ⟨.allow, _, _, _⟩), .move => some (s.setStage c x (.moving MoveCall.initial))
      | _, _ => none
  | .move c reply =>
    (s.commands c).bind fun x =>
      match x.stage with
      | .moving m => (moveStep p x.command m reply).map fun m' => s.setStage c x (.moving m')
      | _ => none

/-- What a step does. -/
inductive Transition (p : CmdVelMotionPlugin) (s : ReloadState) : ReloadAction → ReloadState → Prop
  | reloaded (safety : SafetyConfig ℝ) : Transition p s (.reload (.ok safety)) { s with safety }
  | unchanged (a : ReloadAction) (ha : ∀ c now pose, a ≠ .check c now pose) : Transition p s a s
  | created (c : CommandRef) (call : ToolCall) (command : SemanticCommand ℝ)
      (hcreate : RosMcp.create call.robotId call.commandId call.createdAt call.toolName call.operation
        call.commandClass call.arguments call.sessionId s.safety call.timeoutConfig = .ok command) :
      Transition p s (.create c call)
        { s with commands := Function.update s.commands c (some ⟨command, s.safety, .created⟩) }
  | checked (c : CommandRef) (now : ℝ) (pose : Option (Pose2D ℝ)) (x : ServedCommand) (hx : s.commands c = some x) :
      Transition p s (.check c now pose)
        { s.setStage c x (.checked (s.checkOf x now pose).result) with
          history := (RosMcp.check s.history s.safety now x.command pose).2
          checks := s.checks ++ [s.checkOf x now pose] }
  | dispatched (c : CommandRef) (x : ServedCommand) (hx : s.commands c = some x) :
      Transition p s (.dispatch c) (s.setStage c x (.moving MoveCall.initial))
  | moved (c : CommandRef) (reply : MoveReply) (x : ServedCommand) (m m' : MoveCall) (hx : s.commands c = some x)
      (hm : x.stage = .moving m) (hstep : moveStep p x.command m reply = some m') :
      Transition p s (.move c reply) (s.setStage c x (.moving m'))

private theorem step_transition {p : CmdVelMotionPlugin} {s s' : ReloadState} {a : ReloadAction}
    (h : step p s a = some s') :
    Transition p s a s' := by
  cases a with
  | reload loaded =>
    cases loaded with
    | ok safety =>
      obtain rfl := Option.some.inj h
      exact .reloaded safety
    | error exc =>
      obtain rfl := Option.some.inj h
      exact .unchanged _ (by simp)
  | create c call =>
    unfold step at h
    dsimp only at h
    split at h
    · next hcreate =>
      obtain rfl := Option.some.inj h
      exact .created c call _ hcreate
    · obtain rfl := Option.some.inj h
      exact .unchanged _ (by simp)
    · cases h
  | check c now pose =>
    obtain ⟨x, hx, h⟩ := Option.bind_eq_some_iff.1 h
    split at h
    · cases h
    · obtain rfl := Option.some.inj h
      exact .checked c now pose x hx
    · cases h
  | dispatch c =>
    obtain ⟨x, hx, h⟩ := Option.bind_eq_some_iff.1 h
    split at h
    · obtain rfl := Option.some.inj h
      exact .dispatched c x hx
    · cases h
  | move c reply =>
    obtain ⟨x, hx, h⟩ := Option.bind_eq_some_iff.1 h
    split at h
    · next m hm =>
      obtain ⟨m', hstep, rfl⟩ := Option.map_eq_some_iff.1 h
      exact .moved c reply x m m' hx hm hstep
    · cases h

end ReloadState

/-! ### What is applied to a command -/

/-- A command of the factory. -/
structure ServedCommand.Created (x : ServedCommand) : Prop where
  target : ∃ arguments, buildTarget x.command.operation arguments = .ok x.command.target
  recorded : x.command.safetyConstraints =
    if x.command.operation.isMotion then some (resolveSafetyConstraints x.createdUnder) else none

/-- The result of the check is that under the limits that the command has recorded. -/
def SafetyCheck.Unaffected (r : SafetyCheck) : Prop :=
  ∀ k, r.served.command.safetyConstraints = some k →
    r.result = (check r.history (r.safety.withLimits k) r.now r.served.command r.pose).1

namespace ReloadState

/-- No reload has changed what applies to a command: it has recorded the limits of its creation, its check has applied
them, and its move enforces them. -/
structure Unaffected (s : ReloadState) : Prop where
  recorded : ∀ c x, s.commands c = some x → x.command.operation.isMotion = true →
    x.command.safetyConstraints = some (resolveSafetyConstraints x.createdUnder)
  checked : ∀ r ∈ s.checks, r.Unaffected
  enforced : ∀ c x m, s.commands c = some x → x.stage = .moving m → m.Enforces x.command

/-- The commands come from the factory, and the moves keep to their plans. -/
structure Recorded (s : ReloadState) : Prop where
  created : ∀ c x, s.commands c = some x → x.Created
  moving : ∀ c x m, s.commands c = some x → x.stage = .moving m → m.Follows x.command

/-- At a check the limits in effect are those that the command has recorded. -/
def LimitsInEffect (s : ReloadState) : ReloadAction → Prop
  | .check c _ _ => ∀ x k, s.commands c = some x → x.command.safetyConstraints = some k →
    resolveSafetyConstraints s.safety = k
  | _ => True

variable {p : CmdVelMotionPlugin} {s s' : ReloadState} {a : ReloadAction}

private theorem Recorded.setStage (hs : s.Recorded) {c : CommandRef} {x : ServedCommand} {stage : CommandStage}
    (hx : s.commands c = some x) (hstage : ∀ m, stage = .moving m → m.Follows x.command) :
    (s.setStage c x stage).Recorded := by
  have hcommands : ∀ c' y, (s.setStage c x stage).commands c' = some y →
      y = { x with stage } ∨ s.commands c' = some y := by
    intro c' y hy
    rcases update_eq_some.1 hy with ⟨-, rfl⟩ | ⟨-, hy⟩
    · exact Or.inl rfl
    · exact Or.inr hy
  constructor
  · intro c' y hy
    rcases hcommands c' y hy with rfl | hy
    · have hc := hs.created c x hx
      exact ⟨hc.target, hc.recorded⟩
    · exact hs.created c' y hy
  · intro c' y m hy hm
    rcases hcommands c' y hy with rfl | hy
    · exact hstage m hm
    · exact hs.moving c' y m hy hm

/-- Every step keeps what is recorded. -/
theorem Recorded.step (hs : s.Recorded) (h : ReloadState.step p s a = some s') : s'.Recorded := by
  cases step_transition h with
  | reloaded safety => exact ⟨hs.created, hs.moving⟩
  | unchanged => exact hs
  | created c call command hcreate =>
    obtain ⟨-, -, -, hop, -, htarget, -, -, hlimits⟩ := create_eq_ok hcreate
    constructor
    · intro c' y hy
      rcases update_eq_some.1 hy with ⟨-, rfl⟩ | ⟨-, hy⟩
      · exact ⟨⟨call.arguments, by rw [hop]; exact htarget⟩, by rw [hop]; exact hlimits⟩
      · exact hs.created c' y hy
    · intro c' y m hy hm
      rcases update_eq_some.1 hy with ⟨-, rfl⟩ | ⟨-, hy⟩
      · cases hm
      · exact hs.moving c' y m hy hm
  | checked c now pose x hx =>
    have hr : (s.setStage c x (.checked (s.checkOf x now pose).result)).Recorded :=
      hs.setStage hx (by intro m hm; cases hm)
    exact ⟨hr.created, hr.moving⟩
  | dispatched c x hx =>
    refine hs.setStage hx ?_
    rintro m ⟨⟩
    exact MoveCall.follows_initial
  | moved c reply x m m' hx hm hstep =>
    refine hs.setStage hx ?_
    rintro m'' ⟨⟩
    exact (hs.moving c x m hx hm).step hstep

/-- A check applies the recorded limits exactly if they are in effect. -/
theorem checkOf_unaffected_iff {x : ServedCommand} (hx : x.Created) (now : ℝ) (pose : Option (Pose2D ℝ)) :
    (s.checkOf x now pose).Unaffected ↔
      ∀ k, x.command.safetyConstraints = some k → resolveSafetyConstraints s.safety = k := by
  obtain ⟨arguments, htarget⟩ := hx.target
  have hok := check_ok htarget s.history s.safety now pose
  constructor
  · intro h k hk
    exact (check_withLimits_iff k hok).1 (h k hk)
  · intro h k hk
    exact (check_withLimits_iff k hok).2 (h k hk)

/-- A step keeps the checks unaffected exactly if it meets the condition. -/
theorem checked_step_iff (hs : s.Recorded) (hq : ∀ r ∈ s.checks, r.Unaffected)
    (h : ReloadState.step p s a = some s') : (∀ r ∈ s'.checks, r.Unaffected) ↔ s.LimitsInEffect a := by
  cases step_transition h with
  | reloaded | created | dispatched | moved => exact iff_of_true hq trivial
  | unchanged a ha =>
    refine iff_of_true hq ?_
    cases a with
    | check c now pose => exact absurd rfl (ha c now pose)
    | _ => trivial
  | checked c now pose x hx =>
    have hcheck := checkOf_unaffected_iff (s := s) (hs.created c x hx) now pose
    constructor
    · intro hall y k hy hk
      obtain rfl : x = y := Option.some.inj (hx.symm.trans hy)
      have hlast : s.checkOf x now pose ∈ s.checks ++ [s.checkOf x now pose] :=
        List.mem_append_right _ List.mem_cons_self
      exact hcheck.1 (hall _ hlast) k hk
    · intro hlimits r hr
      rcases List.mem_append.1 hr with hr | hr
      · exact hq r hr
      · rw [List.mem_singleton.1 hr]
        exact hcheck.2 fun k hk => hlimits x k hx hk

private theorem recorded_initial (safety : SafetyConfig ℝ) : (initial safety).Recorded := by
  constructor
  · rintro c x ⟨⟩
  · rintro c x m ⟨⟩

/-- A move enforces the recorded limits in every run, whatever is reloaded. -/
private theorem moving_recorded {safety : SafetyConfig ℝ} {as : List ReloadAction}
    (h : StepSystem.run (step p) (initial safety) as = some s) : s.Recorded :=
  StepSystem.run_invariant (fun _ _ _ hs ha => hs.step ha) (recorded_initial safety) h

/-- What is recorded, together with what is checked. -/
private theorem Recorded.unaffected (hs : s.Recorded) : s.Unaffected ↔ ∀ r ∈ s.checks, r.Unaffected := by
  constructor
  · exact fun h => h.checked
  · intro h
    constructor
    case recorded =>
      intro c x hx hmotion
      have hrecorded := (hs.created c x hx).recorded
      rw [if_pos hmotion] at hrecorded
      exact hrecorded
    case checked => exact h
    case enforced => exact fun c x m hx hm l hl => (hs.moving c x m hx hm l hl).constraints

/-- Throughout a run no reload changes what applies to a command exactly when at every check of the run the limits in
effect are those that the command has recorded. -/
theorem unaffected_iff {safety : SafetyConfig ℝ} {as : List ReloadAction}
    (h : StepSystem.run (step p) (initial safety) as = some s) :
    (∀ as₁ as₂ s₁, as = as₁ ++ as₂ → StepSystem.run (step p) (initial safety) as₁ = some s₁ → s₁.Unaffected) ↔
      StepSystem.Along (step p) LimitsInEffect (initial safety) as := by
  have hinit : ∀ r ∈ (initial safety).checks, r.Unaffected := by simp [initial]
  rw [← StepSystem.throughout_iff_along (G := LimitsInEffect) (fun _ _ _ hs ha => hs.step ha)
    (fun _ _ _ hs hq ha => checked_step_iff hs hq ha) (recorded_initial safety) hinit h]
  constructor
  · intro hall as₁ as₂ s₁ has h₁
    exact (hall as₁ as₂ s₁ has h₁).checked
  · intro hall as₁ as₂ s₁ has h₁
    exact (moving_recorded h₁).unaffected.2 (hall as₁ as₂ s₁ has h₁)

/-! ### A move of two metres -/

/-- The call of a move that the sample configuration allows. -/
def sampleCall : ToolCall where
  robotId := "robot"
  commandId := "A"
  createdAt := ((0 : ℤ) : ℝ)
  toolName := "robot.move"
  operation := .move
  commandClass := .motion
  arguments := [("direction", .str "forward"), ("distance_m", .int 2)]
  sessionId := "session"
  timeoutConfig := ⟨((30 : ℤ) : ℝ), ((60 : ℤ) : ℝ), ((120 : ℤ) : ℝ), ((300 : ℤ) : ℝ)⟩

/-- A configuration that allows one metre only. -/
def sampleReloaded : SafetyConfig ℝ := { sampleSafety ℝ with maxMoveDistanceM := ((1 : ℤ) : ℝ) }

/-- The command of the sample call. -/
def sampleMove : SemanticCommand ℝ where
  commandId := "A"
  sessionId := "session"
  robotId := "robot"
  operation := .move
  commandClass := .motion
  target := .move ⟨.forward, some ((2 : ℤ) : ℝ), none⟩
  frame := none
  timeoutS := ((30 : ℤ) : ℝ)
  priority := .normal
  safetyConstraints := some (resolveSafetyConstraints (sampleSafety ℝ))
  provenance := ⟨"robot.move", sampleCall.arguments, "session"⟩
  confidence := none
  createdAt := ((0 : ℤ) : ℝ)
  expectedResultType := .motion

/-- The sample move after its creation. -/
def sampleCreated : ReloadState :=
  { initial (sampleSafety ℝ) with
    commands := Function.update (fun _ => none) 0 (some ⟨sampleMove, sampleSafety ℝ, .created⟩) }

private theorem sample_create (p : CmdVelMotionPlugin) :
    step p (initial (sampleSafety ℝ)) (.create 0 sampleCall) = some sampleCreated := rfl

/-- The creation of the sample move, a reload, and its check. -/
def sampleActions (safety : SafetyConfig ℝ) : List ReloadAction :=
  [.create 0 sampleCall, .reload (.ok safety), .check 0 ((0 : ℤ) : ℝ) none]

/-- The check of the sample move after a reload. -/
noncomputable def sampleCheck (safety : SafetyConfig ℝ) : SafetyCheck :=
  { sampleCreated with safety }.checkOf ⟨sampleMove, sampleSafety ℝ, .created⟩ ((0 : ℤ) : ℝ) none

private theorem sample_run (p : CmdVelMotionPlugin) (safety : SafetyConfig ℝ) :
    ∃ s, StepSystem.run (step p) (initial (sampleSafety ℝ)) (sampleActions safety) = some s ∧
      s.checks = [sampleCheck safety] :=
  ⟨_, StepSystem.run_cons.2 ⟨_, sample_create p, rfl⟩, rfl⟩

/-- A reload that asks a human changes no limit, and leaves the check of the sample move unaffected. -/
theorem unaffected_sample :
    ∃ s, StepSystem.run (step samplePlugin) (initial (sampleSafety ℝ))
      (sampleActions { sampleSafety ℝ with approvalPolicy := .alwaysHuman }) = some s ∧ s.checks ≠ [] ∧
      s.Unaffected := by
  obtain ⟨s, hrun, hchecks⟩ := sample_run samplePlugin { sampleSafety ℝ with approvalPolicy := .alwaysHuman }
  have halong : StepSystem.Along (step samplePlugin) LimitsInEffect (initial (sampleSafety ℝ))
      (sampleActions { sampleSafety ℝ with approvalPolicy := .alwaysHuman }) := by
    refine .cons trivial (sample_create _) (.cons trivial rfl (.cons ?_ rfl .nil))
    intro x k hx hk
    obtain rfl := Option.some.inj hx
    exact Option.some.inj hk
  refine ⟨s, hrun, by simp [hchecks], ?_⟩
  exact (unaffected_iff hrun).2 halong _ [] s (List.append_nil _).symm hrun

/-- A reload between the creation of the sample move and its check denies the move by a limit that it has not
recorded. -/
theorem reload_denies :
    sampleReloaded.Accepted ∧
    ∃ s, StepSystem.run (step samplePlugin) (initial (sampleSafety ℝ)) (sampleActions sampleReloaded) = some s ∧
      s.checks = [sampleCheck sampleReloaded] ∧
      Decides .deny (fun _ => []) sampleReloaded ((0 : ℤ) : ℝ) sampleMove none ∧
      Decides .allow (fun _ => []) (sampleReloaded.withLimits (resolveSafetyConstraints (sampleSafety ℝ)))
        ((0 : ℤ) : ℝ) sampleMove none ∧
      ¬ s.Unaffected := by
  obtain ⟨s, hrun, hchecks⟩ := sample_run samplePlugin sampleReloaded
  have hlimited : ¬ RateLimited (fun _ => []) sampleMove.sessionId (sampleSafety ℝ).rateLimitRps ((0 : ℤ) : ℝ) := by
    norm_num [RateLimited, rateWindow, sampleSafety]
  refine ⟨?_, s, hrun, hchecks, ?_, ?_, ?_⟩
  · constructor <;> norm_num [sampleReloaded, sampleSafety, sampleConstraints]
  · rw [decides_deny_iff (by decide)]
    have hlong : sampleReloaded.maxMoveDistanceM < 2 := by norm_num [sampleReloaded]
    refine Or.inr (Or.inl ?_)
    simp [assess, sampleMove, assessMove, Direction.isRotation, Option.filter, hlong]
  · rw [decides_allow_iff (by decide)]
    have hshort : ¬ (sampleSafety ℝ).maxMoveDistanceM < 2 := by norm_num [sampleSafety, sampleConstraints]
    refine ⟨hlimited, ⟨some ((2 : ℤ) : ℝ), none⟩, ?_, ?_, rfl⟩
    · simp [assess, sampleMove, assessMove, Direction.isRotation, Option.filter, SafetyConfig.withLimits,
        resolveSafetyConstraints, hshort]
    · simp [OutsideGeofence]
  · intro h
    have hcheck := h.checked (sampleCheck sampleReloaded) (by simp [hchecks])
    have hlimits := (checkOf_unaffected_iff (s := { sampleCreated with safety := sampleReloaded })
      (x := ⟨sampleMove, sampleSafety ℝ, .created⟩) ⟨⟨sampleCall.arguments, rfl⟩, rfl⟩ _ _).1 hcheck _ rfl
    have hmax := congrArg SafetyConstraints.maxMoveDistanceM hlimits
    norm_num [resolveSafetyConstraints, sampleReloaded, sampleSafety, sampleConstraints] at hmax

end ReloadState

end RosMcp
