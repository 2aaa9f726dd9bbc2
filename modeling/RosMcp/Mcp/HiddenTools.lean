import RosMcp.Capabilities.Ontology
import RosMcp.Execution.Conclusion
import RosMcp.Mcp.NeverRaises
import RosMcp.Mcp.ReadHandlers

/-!
# Hidden tools

`current_tools` hides a tool whose capability is missing or ambiguous, and `handle_call` does not look at that list.
A hidden tool can be called all the same, but to no effect: the planner finds no backend for a MOVE or a NAVIGATE
without its capability, and an ambiguous entry has no resolved topics, so that the resolvers of the read tools find no
topic to read (`operationDenied_of_hidden`).  Neither the policy engine nor the subscription caches can change that:
no execution of the command calls a backend, and no result of it has succeeded (`hiddenTool_unusable`).

A hidden `robot.stop` is another matter: a STOP does not ask the planner.
-/

namespace RosMcp

/-! ### What is denied -/

section Denied

variable {N : Type} {snapshot : GraphSnapshot} {overrides : CapabilityConfig} {safety : SafetyConfig N}

/-- A capability that is missing or ambiguous has no resolved topic. -/
private theorem resolvedTopic_of_missingOrAmbiguous {row : String × Option (CapabilityEntry N)}
    (hrow : row ∈ inferenceTable snapshot overrides safety) (h : missingOrAmbiguous row.2 = true) (key : String) :
    resolvedTopic (infer snapshot overrides safety) row.1 key = none := by
  unfold resolvedTopic
  rw [registryGet_infer hrow]
  cases hentry : row.2 with
  | none => rfl
  | some entry =>
    have hambiguous : entry.confidence = .ambiguous := by
      rw [hentry] at h
      exact eq_of_beq h
    rw [Option.bind_some, (inferenceTable_inferred row hrow).resolved entry hentry hambiguous]
    rfl

/-- Object detection is as good as the visual observation. -/
private theorem missingOrAmbiguous_inferObjectDetection (visual : Option (CapabilityEntry N)) :
    missingOrAmbiguous (inferObjectDetection visual overrides) = missingOrAmbiguous visual := by
  cases visual <;> rfl

/-- The capability that a hidden tool requires is missing or ambiguous. -/
private theorem missingOrAmbiguous_of_hidden [RatCast N] {toolName : String} {definition : ToolDefinition N}
    (hhidden : ∀ spec ∈ currentTools (infer snapshot overrides safety), spec.name ≠ toolName)
    (hdefinition : toolDefinition toolName = some definition) :
    ∃ capabilityId, definition.requiredCapabilityId = some capabilityId ∧
      missingOrAmbiguous (registryGet (infer snapshot overrides safety) capabilityId) = true := by
  obtain ⟨hmem, hname⟩ := toolDefinition_eq_some hdefinition
  have hlisted : definition.listed (infer snapshot overrides safety) ≠ true := by
    intro hlisted
    refine hhidden definition.spec ?_ hname
    exact List.mem_map_of_mem (List.mem_filter.2 ⟨hmem, hlisted⟩)
  unfold ToolDefinition.listed at hlisted
  split at hlisted
  · exact absurd rfl hlisted
  · next capabilityId hrequired =>
    refine ⟨capabilityId, hrequired, ?_⟩
    rw [entryById, registryGet_reverse infer_nodup] at hlisted
    simpa using hlisted

end Denied

/-- The inputs of a read handler come from one registry. -/
structure ReadInputs.Reads (inputs : ReadInputs) (registry : List (CapabilityEntry (PyFloat ℝ))) : Prop where
  listed : inputs.registry = registry
  state : inputs.state.pose.registry = registry
  scan : inputs.scan.registry = registry
  camera : inputs.camera.registry = registry
  detect : inputs.detect.registry = registry
  detectAfter : inputs.detect.registryAfter = registry

/-- With this registry the planner has no backend for the operation, and no read handler succeeds for it. -/
structure OperationDenied (registry : List (CapabilityEntry (PyFloat ℝ))) (operation : Operation) : Prop where
  notStop : operation ≠ .stop
  noBackend : ∀ backends b call, selectBackend backends operation registry = some b → ¬ Dispatches operation call
  failed : ∀ wiring inputs command r, inputs.Reads registry → command.operation = operation →
    readHandler wiring inputs command = some (.ok r) → r.status = .failed

section Operations

variable {registry : List (CapabilityEntry (PyFloat ℝ))}

/-- The read handlers have no entry for MOVE and NAVIGATE. -/
private theorem readHandler_of_dispatches {wiring : ReadWiring} {inputs : ReadInputs}
    {command : SemanticCommand (PyFloat ℝ)} {call : BackendCall} (h : Dispatches command.operation call) :
    readHandler wiring inputs command = none := by
  unfold readHandler
  cases hop : command.operation <;> rw [hop] at h <;> first | rfl | cases h

/-- An operation that only a backend carries out is denied when the planner has none for it. -/
private theorem OperationDenied.of_dispatches {operation : Operation} {call : BackendCall}
    (hcall : Dispatches operation call)
    (h : ∀ backends, selectBackend backends operation registry = none) : OperationDenied registry operation := by
  constructor
  case notStop =>
    rintro rfl
    cases hcall
  case noBackend =>
    intro backends b call' hb
    rw [h backends] at hb
    cases hb
  case failed =>
    intro wiring inputs command r _ hop hr
    rw [← hop] at hcall
    rw [readHandler_of_dispatches hcall] at hr
    cases hr

/-- An operation that only a read handler carries out is denied when the handler finds nothing. -/
private theorem OperationDenied.of_read {operation : Operation} (hstop : operation ≠ .stop)
    (hread : ∀ call, ¬ Dispatches operation call)
    (h : ∀ wiring inputs command r, inputs.Reads registry → command.operation = operation →
      readHandler wiring inputs command = some (.ok r) → r.status = .failed) : OperationDenied registry operation :=
  ⟨hstop, fun _ _ call _ => hread call, h⟩

private theorem operationDenied_move
    (h : missingOrAmbiguous (registryGet registry "differential_drive_motion") = true) :
    OperationDenied registry .move := by
  refine .of_dispatches .move ?_
  intro backends
  unfold selectBackend
  rw [if_pos (Or.inl rfl), if_pos h]

private theorem operationDenied_navigate
    (h : missingOrAmbiguous (registryGet registry "autonomous_navigation") = true) :
    OperationDenied registry .navigate := by
  refine .of_dispatches .navigate ?_
  intro backends
  unfold selectBackend
  rw [if_neg (by simp), if_pos rfl, if_pos h]

private theorem operationDenied_getLaserScan (h : resolvedTopic registry "range_sensing" "scan" = none) :
    OperationDenied registry .getLaserScan := by
  refine .of_read (by simp) (fun _ hcall => by cases hcall) ?_
  intro wiring inputs command r hreads hop hr
  unfold readHandler at hr
  rw [hop] at hr
  obtain ⟨includeRaw, result, hresult, rfl⟩ := handleGetLaserScan_eq_ok (Option.some.inj hr)
  have hfailed : result.status = .failed := resolveLaserScan_unavailable hresult (by rw [hreads.scan, h])
  exact hfailed

private theorem operationDenied_getCameraImage (h : resolvedTopic registry "visual_observation" "image" = none) :
    OperationDenied registry .getCameraImage := by
  refine .of_read (by simp) (fun _ hcall => by cases hcall) ?_
  intro wiring inputs command r hreads hop hr
  unfold readHandler at hr
  rw [hop] at hr
  obtain ⟨maxWidth, result, hresult, rfl⟩ := handleGetCameraImage_eq_ok (Option.some.inj hr)
  have hfailed : result.status = .failed := resolveCameraImage_unavailable hresult (by rw [hreads.camera, h])
  exact hfailed

private theorem operationDenied_detectObjects (h : resolvedTopic registry "visual_observation" "image" = none) :
    OperationDenied registry .detectObjects := by
  refine .of_read (by simp) (fun _ hcall => by cases hcall) ?_
  intro wiring inputs command r hreads hop hr
  unfold readHandler at hr
  rw [hop] at hr
  obtain ⟨labels, result, hresult, rfl⟩ := handleDetectObjects_eq_ok (Option.some.inj hr)
  have hfailed : result.status = .failed := detectObjects_unavailable hresult (by rw [hreads.detect, h])
  exact hfailed

/-- The operation of a hidden tool other than `robot.stop` is denied. -/
private theorem operationDenied_of_hidden {snapshot : GraphSnapshot} {overrides : CapabilityConfig}
    {safety : SafetyConfig (PyFloat ℝ)} {toolName : String} {definition : ToolDefinition (PyFloat ℝ)}
    (hstop : toolName ≠ "robot.stop")
    (hhidden : ∀ spec ∈ currentTools (infer snapshot overrides safety), spec.name ≠ toolName)
    (hdefinition : toolDefinition toolName = some definition) :
    OperationDenied (infer snapshot overrides safety) definition.operation := by
  obtain ⟨capabilityId, hrequired, hmissing⟩ := missingOrAmbiguous_of_hidden hhidden hdefinition
  obtain ⟨hmem, hname⟩ := toolDefinition_eq_some hdefinition
  have hvisual : missingOrAmbiguous (inferVisualObservation (N := PyFloat ℝ) snapshot overrides) = true →
      resolvedTopic (infer snapshot overrides safety) "visual_observation" "image" = none := by
    intro h
    have hrow : ("visual_observation", inferVisualObservation snapshot overrides) ∈
        inferenceTable snapshot overrides safety := by simp [inferenceTable]
    exact resolvedTopic_of_missingOrAmbiguous hrow h "image"
  simp only [toolDefinitions, List.mem_cons, List.not_mem_nil, or_false] at hmem
  rcases hmem with rfl | rfl | rfl | rfl | rfl | rfl | rfl | rfl
  · cases hrequired
  · cases hrequired
  · obtain rfl := Option.some.inj hrequired
    exact operationDenied_move hmissing
  · exact absurd hname.symm hstop
  · obtain rfl := Option.some.inj hrequired
    exact operationDenied_navigate hmissing
  · obtain rfl := Option.some.inj hrequired
    have hrow : ("range_sensing", inferRangeSensing snapshot overrides) ∈
        inferenceTable snapshot overrides safety := by simp [inferenceTable]
    rw [registryGet_infer hrow] at hmissing
    exact operationDenied_getLaserScan (resolvedTopic_of_missingOrAmbiguous hrow hmissing "scan")
  · obtain rfl := Option.some.inj hrequired
    have hrow : ("visual_observation", inferVisualObservation snapshot overrides) ∈
        inferenceTable snapshot overrides safety := by simp [inferenceTable]
    rw [registryGet_infer hrow] at hmissing
    exact operationDenied_getCameraImage (hvisual hmissing)
  · obtain rfl := Option.some.inj hrequired
    have hrow : ("object_detection", inferObjectDetection (inferVisualObservation snapshot overrides) overrides) ∈
        inferenceTable snapshot overrides safety := by simp [inferenceTable]
    rw [registryGet_infer hrow, missingOrAmbiguous_inferObjectDetection] at hmissing
    exact operationDenied_detectObjects (hvisual hmissing)

end Operations

/-! ### The executions of a hidden tool -/

/-- The replies of the planner and of the read handlers to an execution of the command, over this registry; either may
raise instead. -/
structure Consults (wiring : ReadWiring) (registry : List (CapabilityEntry (PyFloat ℝ)))
    (command : SemanticCommand (PyFloat ℝ)) (reply : Reply (PyFloat ℝ)) : Prop where
  selected : ∀ outcome selected, reply = .check outcome selected →
    (∃ backends, selected = .ok (selectBackend backends command.operation registry)) ∨ ∃ exc, selected = .error exc
  handled : ∀ r, reply = .handler (.ok r) →
    ∃ inputs, inputs.Reads registry ∧ readHandler wiring inputs command = some (.ok r)

/-- The executions of the command object `c` consult this registry. -/
def ConsultsRegistry (w : Wiring (PyFloat ℝ)) (wiring : ReadWiring) (registry : List (CapabilityEntry (PyFloat ℝ)))
    (c : CommandRef) (s : State (PyFloat ℝ)) (a : Action (PyFloat ℝ)) : Prop :=
  ∀ e now reply x, a = .resume e now reply → s.execs e = some x → x.command = c →
    Consults wiring registry (w.command c) reply

section Idle

variable {N : Type} {w : Wiring N} {s s' : State N} {e e' : ExecId} {c c' : CommandRef} {p p' : Point N}
  {events : List (Event N)} {eff : RegistryEffect N} {call : BackendCall}

/-- Not at a backend, and not ended with a success. -/
structure Point.Idle (p : Point N) : Prop where
  backend : p ≠ .backend
  stopping : ¬ p.Stopping
  ended : ∀ r, p = .done (.returned r) → r.status ≠ .succeeded

private theorem Point.Idle.created : (Point.created : Point N).Idle := ⟨by simp, id, by simp⟩

/-- A call of a backend is the last thing that a step does. -/
private theorem Moves.called_point (hm : Moves w s e c p p' events eff) (hmem : .called e' c' call ∈ events) :
    p' = .backend ∨ p'.Stopping := by
  cases hm with
  | dispatched => exact Or.inl rfl
  | stopCalled | stopNavigationCalled | stopped => exact Or.inr trivial
  | _ => simp at hmem

end Idle

section Runs

variable {w : Wiring (PyFloat ℝ)} {wiring : ReadWiring} {registry : List (CapabilityEntry (PyFloat ℝ))}
  {c : CommandRef} {s s' : State (PyFloat ℝ)}

/-- A denied operation leads from no await to a backend or to a success. -/
private theorem Proceeds.idle {p p' : Point (PyFloat ℝ)} {reply : Reply (PyFloat ℝ)} {states : List ExecutionState}
    (h : Proceeds w c p reply states p') (hp : p.Idle)
    (hdenied : OperationDenied registry (w.command c).operation)
    (hreply : Consults wiring registry (w.command c) reply) : p'.Idle := by
  have returned {r : ToolResult (PyFloat ℝ)} (hr : r.status ≠ .succeeded) :
      (Point.done (.returned r)).Idle := by
    refine ⟨by simp, id, ?_⟩
    intro r' hr'
    cases hr'
    exact hr
  cases h with
  | read | begin | posed => exact ⟨by simp, id, by simp⟩
  | dispatched q outcome b call hop =>
    rcases hreply.selected _ _ rfl with ⟨backends, hselected⟩ | ⟨exc, hselected⟩
    · exact absurd hop (hdenied.noBackend backends b call (Except.ok.inj hselected).symm)
    · cases hselected
  | stopping q outcome selected p' hop hp' => exact absurd hop hdenied.notStop
  | stopped cancelledId finalPose => exact absurd trivial hp.stopping
  | stopFinished p reply states r hlive hop =>
    rcases hop with hop | hop
    · exact absurd hop hp.stopping
    · exact absurd hop hdenied.notStop
  | handled r =>
    obtain ⟨inputs, hreads, hr⟩ := hreply.handled _ rfl
    refine returned ?_
    rw [hdenied.failed wiring inputs (w.command c) r hreads rfl hr]
    simp
  | released r => exact absurd rfl hp.backend
  | refused p reply states final r hlive hstates hfinal hr =>
    exact returned fun hstatus => hfinal (hr.succeeded_iff.1 hstatus)
  | deniedBare q outcome selected r hdecision herror hr =>
    exact returned fun hstatus => absurd (hr.succeeded_iff.1 hstatus) (by simp)
  | cancelled p hlive => exact ⟨by simp, id, by simp⟩

/-- No execution of the command object `c` is at a backend or has succeeded, and none has called a backend. -/
structure Untouched (s : State (PyFloat ℝ)) (c : CommandRef) : Prop where
  idle : ∀ e x, s.execs e = some x → x.command = c → x.point.Idle
  uncalled : ∀ e call, .called e c call ∉ s.log

private theorem Untouched.step {a : Action (PyFloat ℝ)} (h : Untouched s c) (hi : InFlight w s)
    (hdenied : OperationDenied registry (w.command c).operation)
    (hconsults : ConsultsRegistry w wiring registry c s a) (ha : RosMcp.step w s a = some s') : Untouched s' c := by
  have hidle : ∀ e x', s'.execs e = some x' → x'.command = c → x'.point.Idle := by
    intro e x' hx' hc
    rcases step_exec_cases hi ha hx' with ⟨x, hx, hcx, hpx⟩ | ⟨-, -, hcreated⟩ | ⟨now, reply, x, states, rfl, hx, hadv⟩
    · rw [hpx]
      exact h.idle e x hx (by rw [← hcx, hc])
    · rw [hcreated]
      exact Point.Idle.created
    · have hcx : x.command = c := by rw [← hadv.command_eq, hc]
      have hproceeds := hadv.proceeds
      rw [hcx] at hproceeds
      exact hproceeds.idle (h.idle e x hx hcx) hdenied (hconsults e now reply x rfl hx hcx)
  refine ⟨hidle, ?_⟩
  intro e call hmem
  rcases step_split hi ha with ⟨-, hb⟩ | ⟨e', now, reply, x, x', events, eff, rfl, hr, -⟩
  · rw [hb.log] at hmem
    exact h.uncalled e call hmem
  · rw [hr.log] at hmem
    rcases List.mem_append.1 hmem with hmem | hmem
    · exact h.uncalled e call hmem
    · obtain ⟨-, hc⟩ := hr.moves.called_eq hmem
      have hx' := hidle e' x' hr.execs_self (by rw [hr.command_eq, hc])
      rcases hr.moves.called_point hmem with hp | hp
      · exact hx'.backend hp
      · exact hx'.stopping hp

/-- A denied command stays untouched in every run in which its executions consult the registry. -/
theorem untouched_run {as : List (Action (PyFloat ℝ))} (h : StepSystem.run (step w) State.initial as = some s)
    (hdenied : OperationDenied registry (w.command c).operation)
    (hconsults : StepSystem.Along (step w) (ConsultsRegistry w wiring registry c) State.initial as) :
    Untouched s c :=
  (StepSystem.run_invariant_along (P := fun s => InFlight w s ∧ Untouched s c)
    (fun _ _ _ hs hG ha => ⟨hs.1.step ha, hs.2.step hs.1 hdenied hG ha⟩)
    ⟨InFlight.initial, by simp [State.initial], by simp [State.initial]⟩ hconsults h).2

/-- A tool other than `robot.stop` that `current_tools` does not list cannot be used: `handle_call` does not answer it
with a success, and if it submits a command, under an id of its own, then in every run no backend is called for the
command and no call of `submit` returns a success for it. -/
theorem hiddenTool_unusable {snapshot : GraphSnapshot} {overrides : CapabilityConfig}
    {safety : SafetyConfig (PyFloat ℝ)} {toolName : String} (hstop : toolName ≠ "robot.stop")
    (hhidden : ∀ spec ∈ currentTools (infer snapshot overrides safety), spec.name ≠ toolName)
    (provider : ToolProvider (PyFloat ℝ)) (commandId : String) (createdAt : PyFloat ℝ)
    (arguments : List (String × Json (PyFloat ℝ))) (sessionId : String) :
    (∀ r, handleCall provider commandId createdAt toolName arguments sessionId = .ok (.returned r) →
      r.status ≠ .succeeded) ∧
    ∀ (w : Wiring (PyFloat ℝ)) (wiring : ReadWiring) (c : CommandRef) (as : List (Action (PyFloat ℝ)))
      (s : State (PyFloat ℝ)),
      handleCall provider commandId createdAt toolName arguments sessionId = .ok (.submitted (w.command c)) →
      (∀ c', .submit c' ∈ as → (w.command c').commandId = (w.command c).commandId → c' = c) →
      StepSystem.run (step w) State.initial as = some s →
      StepSystem.Along (step w) (ConsultsRegistry w wiring (infer snapshot overrides safety) c) State.initial as →
      (∀ e call, .called e c call ∉ s.log) ∧
      ∀ i b r, s.submits i = some b → b.command = c → b.ended = some (.returned r) → r.status ≠ .succeeded := by
  refine ⟨?_, ?_⟩
  · intro r hr
    rw [(handleCall_returned hr).1]
    simp
  · intro w wiring c as s hcall hfresh hrun hconsults
    obtain ⟨definition, hdefinition, -, -, hcreate⟩ := handleCall_submitted_iff.1 hcall
    have hoperation : (w.command c).operation = definition.operation := (create_eq_ok hcreate).2.2.2.1
    have hdenied : OperationDenied (infer snapshot overrides safety) (w.command c).operation := by
      rw [hoperation]
      exact operationDenied_of_hidden hstop hhidden hdefinition
    have huntouched := untouched_run hrun hdenied hconsults
    refine ⟨huntouched.uncalled, ?_⟩
    intro i b r hb hbc hended
    subst hbc
    -- the execution that the call awaits runs the command itself, since no other has its id
    obtain ⟨x, hx, hxc, hp⟩ := submit_returned hrun hb hended hfresh
    exact (huntouched.idle b.execution x hx hxc).ended r hp

end Runs

/-! ### A robot with two cameras -/

section Sample

/-- Two cameras, neither under the configured name. -/
def twoCameras : GraphSnapshot where
  snapshotVersion := 1
  nodes := []
  topics := [⟨"/left/image_raw", "sensor_msgs/msg/Image", [], [], []⟩,
    ⟨"/right/image_raw", "sensor_msgs/msg/Image", [], [], []⟩]
  services := []
  actions := []
  tfFrames := []

/-- The registry of that robot. -/
noncomputable def twoCamerasRegistry : List (CapabilityEntry (PyFloat ℝ)) :=
  infer twoCameras CapabilityConfig.defaults (sampleSafety (PyFloat ℝ))

/-- Empty subscription caches over the registry. -/
noncomputable def twoCamerasInputs : ReadInputs where
  start := 0
  now := 0
  registry := twoCamerasRegistry
  snapshotVersion := 1
  activeCommand := none
  state := ⟨⟨twoCamerasRegistry, fun _ => none, none, 0⟩, fun _ => none⟩
  scan := ⟨twoCamerasRegistry, fun _ => none, 0⟩
  camera := ⟨twoCamerasRegistry, fun _ => none, 1280⟩
  cameraMaxWidthPxDefault := 640
  detect := ⟨twoCamerasRegistry, fun _ => none, twoCamerasRegistry, fun _ => none,
    fun _ => .ok ⟨false, none, none, none, none⟩⟩

/-- The command of `robot.detect_objects` without arguments. -/
noncomputable def detectCommand : SemanticCommand (PyFloat ℝ) where
  commandId := "D"
  sessionId := "session"
  robotId := "robot"
  operation := .detectObjects
  commandClass := .read
  target := .none
  frame := none
  timeoutS := readDefaultTimeoutS
  priority := .normal
  safetyConstraints := none
  provenance := ⟨"robot.detect_objects", [], "session"⟩
  confidence := none
  createdAt := 0
  expectedResultType := .detectObjects

noncomputable def detectWiring : Wiring (PyFloat ℝ) where
  command _ := detectCommand
  readHandlers operation := operation == .detectObjects
  motionBackend := true
  navigationBackend := true

/-- The call of `robot.detect_objects`, carried out. -/
noncomputable def detectRun : List (Action (PyFloat ℝ)) :=
  [.submit 0, .resume 0 0 .start,
    .resume 0 0 (.handler (handleDetectObjects sampleReadWiring twoCamerasInputs detectCommand)), .wake 0]

/-- The manager after that call. -/
noncomputable def detectState : State (PyFloat ℝ) :=
  (StepSystem.run (step detectWiring) State.initial detectRun).getD State.initial

theorem hiddenTool_unusable_sample :
    (∀ e call, .called e 0 call ∉ detectState.log) ∧
      ∃ b r, detectState.submits 0 = some b ∧ b.ended = some (.returned r) ∧ r.status ≠ .succeeded := by
  have hhidden : ∀ spec ∈ currentTools twoCamerasRegistry, spec.name ≠ "robot.detect_objects" := by
    intro spec hspec hname
    obtain ⟨definition, hdefinition, rfl⟩ := List.mem_map.1 hspec
    obtain ⟨hmem, hlisted⟩ := List.mem_filter.1 hdefinition
    simp only [toolDefinitions, List.mem_cons, List.not_mem_nil, or_false] at hmem
    rcases hmem with rfl | rfl | rfl | rfl | rfl | rfl | rfl | rfl
    case inr.inr.inr.inr.inr.inr.inr => cases hlisted
    all_goals exact absurd hname (by decide)
  have hcall : handleCall sampleProvider "D" 0 "robot.detect_objects" [] "session" =
      .ok (.submitted (detectWiring.command 0)) :=
    handleCall_submitted_iff.2 ⟨detectObjectsTool, rfl, conforms_closedObject (by simp) (by simp), rfl, rfl⟩
  have hrun : StepSystem.run (step detectWiring) State.initial detectRun = some detectState := rfl
  have hconsults : StepSystem.Along (step detectWiring)
      (ConsultsRegistry detectWiring sampleReadWiring twoCamerasRegistry 0) State.initial detectRun := by
    refine StepSystem.Along.of_forall ?_
    intro s a ha e now reply x hresume _ _
    subst hresume
    simp only [detectRun, List.mem_cons, reduceCtorEq, List.not_mem_nil, or_false, false_or,
      Action.resume.injEq] at ha
    rcases ha with ⟨-, -, rfl⟩ | ⟨-, -, rfl⟩
    · exact ⟨by simp, by simp⟩
    · refine ⟨by simp, ?_⟩
      intro r hr
      have hreply := Reply.handler.inj hr
      exact ⟨twoCamerasInputs, ⟨rfl, rfl, rfl, rfl, rfl, rfl⟩, congrArg some hreply⟩
  obtain ⟨hcalled, hended⟩ := (hiddenTool_unusable (by decide) hhidden sampleProvider "D" 0 [] "session").2
    detectWiring sampleReadWiring 0 detectRun detectState hcall (by simp [detectRun]) hrun hconsults
  exact ⟨hcalled, _, _, rfl, rfl, hended 0 _ _ rfl rfl rfl⟩

end Sample

end RosMcp
