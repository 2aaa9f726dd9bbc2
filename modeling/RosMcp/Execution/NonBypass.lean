import RosMcp.Commands.Factory
import RosMcp.Execution.History

/-!
# No backend without the safety check

A backend's `move` or `navigate` is invoked only inside an execution of the command, after the pose provider has
answered, the policy engine has returned ALLOW on that pose and `select_backend` has returned a backend; an execution
makes at most one such call, of the method that its operation names.  An execution that is READ-class, is refused or
gets no backend calls none of the backends' methods and leaves `_tokens` and `_active_commands` as they are
(`nonBypass`).
-/

namespace RosMcp

variable {N : Type}

/-- The calls that start a motion. -/
def BackendCall.Starts (call : BackendCall) : Prop := call = .move ∨ call = .navigate

theorem Dispatches.starts {op : Operation} {call : BackendCall} (h : Dispatches op call) : call.Starts := by
  cases h with
  | move => exact Or.inl rfl
  | navigate => exact Or.inr rfl

/-- What precedes the dispatch of the command object `c` by the execution `e` in the log: `log₁` are the earlier
events, `log₂` the later ones. -/
structure Guarded (w : Wiring N) (s : State N) (e : ExecId) (c : CommandRef) (call : BackendCall)
    (log₁ log₂ : List (Event N)) : Prop where
  inside : ∃ x, s.execs e = some x ∧ x.command = c
  checked : ∃ currentPose b,
    [.poseReturned e currentPose, .checked e c currentPose .allow, .selected e (some b)].Sublist log₁
  once : ∀ c' call', call'.Starts → Event.called e c' call' ∉ log₁ ++ log₂
  operation : Dispatches (w.command c).operation call

section Log

variable {w : Wiring N} {s : State N}

/-- The events of an execution around one of them. -/
private theorem eventsOf_split {log₁ log₂ : List (Event N)} {ev : Event N} (hlog : s.log = log₁ ++ ev :: log₂) :
    eventsOf s ev.execution = log₁.filter (fun ev' => decide (ev'.execution = ev.execution)) ++
      ev :: log₂.filter fun ev' => decide (ev'.execution = ev.execution) := by
  rw [eventsOf, hlog, List.filter_append, List.filter_cons_of_pos (by simp)]

/-- Four events of which only the last is a call. -/
private theorem split_four {α : Type} {a b c d : α} {l₁ l₂ : List α} (h : l₁ ++ d :: l₂ = [a, b, c, d])
    (hne : d ∉ [a, b, c]) : l₁ = [a, b, c] ∧ l₂ = [] := by
  have hlen := congrArg List.length h
  rw [List.length_append, List.length_cons, List.length_cons, List.length_cons, List.length_cons, List.length_cons,
    List.length_nil] at hlen
  have hsplit : l₁ ++ d :: l₂ = [a, b, c] ++ d :: [] := h
  rcases List.append_eq_append_iff.1 hsplit with ⟨m, hm, hm'⟩ | ⟨m, hm, hm'⟩
  · cases m with
    | nil => exact ⟨by rw [hm, List.append_nil], by simpa using hm'⟩
    | cons y m =>
      obtain ⟨rfl, -⟩ := List.cons.inj (show d :: l₂ = y :: (m ++ [d]) from hm')
      exact absurd (by rw [hm]; simp) hne
  · cases m with
    | nil => exact ⟨by rw [hm, List.append_nil], by simpa using hm'.symm⟩
    | cons y m =>
      have hlength := congrArg List.length hm'
      simp at hlength

/-- Every dispatch in the log is guarded. -/
theorem Histories.guarded (h : Histories w s) {log₁ log₂ : List (Event N)} {e : ExecId} {c : CommandRef}
    {call : BackendCall} (hlog : s.log = log₁ ++ .called e c call :: log₂) (hcall : call.Starts) :
    Guarded w s e c call log₁ log₂ := by
  obtain ⟨x, hx⟩ := h.owned (.called e c call) (by rw [hlog]; simp)
  have htrace := h.trace e x hx
  have hsplit : eventsOf s e = _ := eventsOf_split hlog
  have hmem : Event.called e c call ∈ eventsOf s e := by
    rw [hsplit]
    simp
  obtain ⟨q, b, hev, -, rfl, hop⟩ := htrace.dispatched hmem hcall
  rw [hsplit] at hev
  obtain ⟨h₁, h₂⟩ := split_four hev (by simp)
  refine ⟨⟨x, hx, rfl⟩, ⟨q, b, ?_⟩, ?_, hop⟩
  · rw [← h₁]
    exact List.filter_sublist
  · intro c' call' _ hmem'
    have hfilter : Event.called e c' call' ∈ (log₁ ++ log₂).filter fun ev => decide (ev.execution = e) :=
      List.mem_filter.2 ⟨hmem', decide_eq_true rfl⟩
    rw [List.filter_append] at hfilter
    rcases List.mem_append.1 hfilter with hf | hf
    · have hf' : Event.called e c' call' ∈
        [Event.poseReturned e q, .checked e x.command q .allow, .selected e (some b)] := h₁ ▸ hf
      simp at hf'
    · have hf' : Event.called e c' call' ∈ ([] : List (Event N)) := h₂ ▸ hf
      simp at hf'

end Log

/-- The events of an execution are kept by later steps. -/
private theorem Later.eventsOf_mem {s s' : State N} (h : Later s s') {e : ExecId} {ev : Event N}
    (hev : ev ∈ eventsOf s e) :
    ev ∈ eventsOf s' e := by
  obtain ⟨hmem, he⟩ := List.mem_filter.1 hev
  exact List.mem_filter.2 ⟨h.log.subset hmem, he⟩

section Runs

variable [IntCast N] [Add N] [Sub N] {w : Wiring N} {s : State N} {as : List (Action N)}

/-- A step of an execution that is barred in the end leaves the tables alone. -/
private theorem barred_step {as₁ as₂ : List (Action N)} {e : ExecId} {now : N} {reply : Reply N} {s₁ s₂ : State N}
    {x : Execution N} (h : StepSystem.run (step w) State.initial as = some s)
    (has : as = as₁ ++ .resume e now reply :: as₂) (h₁ : StepSystem.run (step w) State.initial as₁ = some s₁)
    (h₂ : step w s₁ (.resume e now reply) = some s₂) (hx : s.execs e = some x)
    (hb : Barred w e x.command (eventsOf s e)) :
    s₂.tokens = s₁.tokens ∧ s₂.activeCommands = s₁.activeCommands := by
  obtain ⟨y, y', events, eff, hr, -⟩ := resume_moves h₂
  by_cases hq : eff = .quiet
  · subst hq
    exact ⟨hr.tokens, hr.activeCommands⟩
  · -- otherwise the execution has engaged by now, and it is not barred later
    exfalso
    have hrun₂ : StepSystem.run (step w) State.initial (as₁ ++ [.resume e now reply]) = some s₂ :=
      StepSystem.run_concat.2 ⟨s₁, h₁, h₂⟩
    have hrest : StepSystem.run (step w) s₂ as₂ = some s := by
      rw [has, List.append_cons] at h
      obtain ⟨s₂', hs₂', hr₂⟩ := StepSystem.run_append.1 h
      rw [hrun₂, Option.some.injEq] at hs₂'
      rw [hs₂', hr₂]
    have hlater := later_run (consistent_run hrun₂) hrest
    obtain ⟨ev, hev, heng⟩ := ((trace_run h₁).trace e y hr.execs_eq).engages_of_ne hr.moves hq
    rw [← hr.eventsOf_self] at hev
    exact ((trace_run h).trace e x hx).barred hb ev (hlater.eventsOf_mem hev) heng

/-- The non-bypass rule, for every run of the manager. -/
theorem nonBypass (h : StepSystem.run (step w) State.initial as = some s) :
    (∀ log₁ log₂ e c call, s.log = log₁ ++ .called e c call :: log₂ → call.Starts →
      Guarded w s e c call log₁ log₂) ∧
    ∀ e x, s.execs e = some x → Barred w e x.command (eventsOf s e) →
      (∀ c call, Event.called e c call ∉ s.log) ∧
      ∀ as₁ as₂ now reply s₁ s₂, as = as₁ ++ .resume e now reply :: as₂ →
        StepSystem.run (step w) State.initial as₁ = some s₁ → step w s₁ (.resume e now reply) = some s₂ →
        s₂.tokens = s₁.tokens ∧ s₂.activeCommands = s₁.activeCommands := by
  refine ⟨?_, ?_⟩
  · intro log₁ log₂ e c call hlog hcall
    exact (trace_run h).guarded hlog hcall
  · intro e x hx hb
    refine ⟨?_, ?_⟩
    · intro c call hmem
      have hev : Event.called e c call ∈ eventsOf s e := List.mem_filter.2 ⟨hmem, decide_eq_true rfl⟩
      exact ((trace_run h).trace e x hx).barred hb _ hev trivial
    · intro as₁ as₂ now reply s₁ s₂ has h₁ h₂
      exact barred_step h has h₁ h₂ hx hb

end Runs

/-! ### A small system -/

section Sample

variable (N : Type) [IntCast N]

/-- The limits of the sample commands. -/
def sampleConstraints : SafetyConstraints N :=
  ⟨((1 : ℤ) : N), ((1 : ℤ) : N), ((1 : ℤ) : N), ((1 : ℤ) : N), ((5 : ℤ) : N), ((10 : ℤ) : N), ((0 : ℤ) : N)⟩

/-- A configuration with the limits of the sample commands. -/
def sampleSafety : SafetyConfig N where
  maxLinearMps := (sampleConstraints N).maxLinearMps
  maxAngularRps := (sampleConstraints N).maxAngularRps
  maxLinearAccelerationMps2 := (sampleConstraints N).maxLinearAccelerationMps2
  maxAngularAccelerationRps2 := (sampleConstraints N).maxAngularAccelerationRps2
  maxMoveDistanceM := (sampleConstraints N).maxMoveDistanceM
  maxNavigationDistanceM := (sampleConstraints N).maxNavigationDistanceM
  obstacleStopDistanceM := (sampleConstraints N).obstacleStopDistanceM
  odomStaleS := ((1 : ℤ) : N)
  rateLimitRps := ((2 : ℤ) : N)
  geofence := ⟨false, "map", ((-10 : ℤ) : N), ((10 : ℤ) : N), ((-10 : ℤ) : N), ((10 : ℤ) : N)⟩
  approvalPolicy := .automatic
  requiredAboveDistanceM := ((5 : ℤ) : N)

/-- A command as the factory builds it for `robot.move`, `robot.navigate` or `robot.stop`. -/
def sampleCommand (commandId : String) (operation : Operation) (target : Target N) : SemanticCommand N where
  commandId := commandId
  sessionId := "session"
  robotId := "robot"
  operation := operation
  commandClass := .motion
  target := target
  frame := none
  timeoutS := ((30 : ℤ) : N)
  priority := if operation = .stop then .safety else .normal
  safetyConstraints := some (sampleConstraints N)
  provenance := ⟨"robot." ++ operation.value, [], "session"⟩
  confidence := none
  createdAt := ((0 : ℤ) : N)
  expectedResultType := (resultTypeByOperation operation).getD .base

/-- Two forward moves of one metre (objects 0 and 1) and a STOP (object 2) for a robot with both backends. -/
def sampleWiring : Wiring N where
  command c :=
    match c with
    | 0 => sampleCommand N "A" .move (.move ⟨.forward, some ((1 : ℤ) : N), none⟩)
    | 1 => sampleCommand N "B" .move (.move ⟨.forward, some ((1 : ℤ) : N), none⟩)
    | _ => sampleCommand N "S" .stop .none
  readHandlers _ := false
  motionBackend := true
  navigationBackend := true

/-- The reply of a policy engine that allows, with a planner that finds the motion backend. -/
def sampleAllow : Reply N := .check (.ok ⟨.allow, none, none, sampleConstraints N⟩) (.ok (some .motion))

/-- The steps that bring the execution `e`, just submitted, to its backend. -/
def sampleDispatch (e : ExecId) : List (Action N) :=
  [.resume e ((0 : ℤ) : N) .start, .resume e ((0 : ℤ) : N) (.pose (.ok none)), .resume e ((0 : ℤ) : N) (sampleAllow N)]

variable [Add N] [Sub N]

/-- The manager after one move has been dispatched. -/
def sampleDispatched : State N :=
  (StepSystem.run (step (sampleWiring N)) State.initial (.submit 0 :: sampleDispatch N 0)).getD State.initial

end Sample

theorem nonBypass_sample : Guarded (sampleWiring ℤ) (sampleDispatched ℤ) 0 0 .move
    [.poseReturned 0 none, .checked 0 0 none .allow, .selected 0 (some .motion)] [] := by
  have hrun : StepSystem.run (step (sampleWiring ℤ)) State.initial (.submit 0 :: sampleDispatch ℤ 0) =
    some (sampleDispatched ℤ) := rfl
  exact (nonBypass hrun).1 _ _ _ _ _ rfl (Or.inl rfl)

end RosMcp
