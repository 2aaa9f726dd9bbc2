import RosMcp.Commands.Factory
import RosMcp.Mcp.Resolvers

/-!
# The read handlers (`mcp/read_handlers.py`)

`readHandler` is the entry of `build_read_handlers` for the operation of a command.  The perception adapter does not
know the command: its results carry an empty command id, and the handler re-stamps them.  Whatever the sensors hold, a
handler that returns gives a completed result of its class, with the id of the command (`readHandler_completed`).

The arguments have passed the schema of their tool, so a field that is present has the type that its schema gives it.
-/

namespace RosMcp

/-- `bool(value)` -/
noncomputable def Json.truthy : Json (PyFloat ℝ) → Bool
  | .null => false
  | .bool b => b
  | .int n => decide (n ≠ 0)
  | .float x => decide (x ≠ 0)
  | .str s => decide (s ≠ "")
  | .arr items => !items.isEmpty
  | .obj fields => !fields.isEmpty

/-- `int(value)`, for an integer field. -/
def pyInt {N : Type} : Json N → Except PyException ℤ
  | .int n => .ok n
  | .bool b => .ok (if b then 1 else 0)
  | _ => .error ⟨.typeError, "int() argument must be a string, a bytes-like object or a real number"⟩

/-- The strings of an array field. -/
def Json.strings {N : Type} : Json N → List String
  | .arr items => items.filterMap fun
    | .str s => some s
    | _ => none
  | _ => []

/-- What `build_read_handlers` is given. -/
structure ReadWiring where
  adapter : PerceptionAdapter
  imaging : Imaging

/-- What one call of a handler reads: the clock when it starts and when it stamps the duration, the registry and its
version, the active command of the robot, the sensors, and the configured default width of an image. -/
structure ReadInputs where
  start : PyFloat ℝ
  now : PyFloat ℝ
  registry : List (CapabilityEntry (PyFloat ℝ))
  snapshotVersion : Nat
  activeCommand : Option CommandSummary
  state : StateInputs
  scan : ScanInputs
  camera : CameraInputs
  cameraMaxWidthPxDefault : ℤ
  detect : DetectInputs

section Handlers

variable (wiring : ReadWiring) (inputs : ReadInputs) (command : SemanticCommand (PyFloat ℝ))

/-- `command.provenance.raw_arguments.get("frame")` -/
def requestedFrame (command : SemanticCommand (PyFloat ℝ)) : Option String :=
  match getKey command.provenance.rawArguments "frame" with
  | some (.str frame) => some frame
  | _ => none

/-- `handle_get_state` -/
noncomputable def handleGetState : Except PyException (ToolResult (PyFloat ℝ)) :=
  let activeSummary := inputs.activeCommand.filter fun active => decide (active.commandId ≠ command.commandId)
  resolveRobotState command.robotId command.commandId (inputs.now - inputs.start) inputs.state
    (requestedFrame command) activeSummary

/-- `handle_get_capabilities` -/
noncomputable def handleGetCapabilities : Except PyException (ToolResult (PyFloat ℝ)) :=
  .ok (resolveCapabilities command.robotId command.commandId (inputs.now - inputs.start) inputs.registry
    inputs.snapshotVersion)

/-- `dataclasses.replace(result, command_id=command.command_id, duration_sec=time.monotonic() - start)` -/
noncomputable def restamp (result : ToolResult (PyFloat ℝ)) : ToolResult (PyFloat ℝ) :=
  { result with commandId := command.commandId, durationSec := inputs.now - inputs.start }

/-- `handle_get_laser_scan` -/
noncomputable def handleGetLaserScan : Except PyException (ToolResult (PyFloat ℝ)) := do
  let includeRaw := ((getKey command.provenance.rawArguments "include_raw_ranges").map Json.truthy).getD false
  let result ← resolveLaserScan wiring.adapter.robotId "" ((0 : ℤ) : PyFloat ℝ) inputs.scan includeRaw
  return restamp inputs command result

/-- `int(command.provenance.raw_arguments.get("max_width_px", camera_max_width_px_default))` -/
def requestedMaxWidth (command : SemanticCommand (PyFloat ℝ)) (widthDefault : ℤ) : Except PyException ℤ :=
  match getKey command.provenance.rawArguments "max_width_px" with
  | some value => pyInt value
  | none => .ok widthDefault

/-- `handle_get_camera_image` -/
noncomputable def handleGetCameraImage : Except PyException (ToolResult (PyFloat ℝ)) := do
  let maxWidth ← requestedMaxWidth command inputs.cameraMaxWidthPxDefault
  let result ← resolveCameraImage wiring.adapter.robotId "" ((0 : ℤ) : PyFloat ℝ) wiring.imaging inputs.camera maxWidth
  return restamp inputs command result

/-- `handle_detect_objects` -/
noncomputable def handleDetectObjects : Except PyException (ToolResult (PyFloat ℝ)) := do
  let labels := (getKey command.provenance.rawArguments "labels").map Json.strings
  let result ← detectObjects wiring.adapter wiring.imaging inputs.detect labels
  return restamp inputs command result

/-- The handler that `build_read_handlers` has for the operation of the command. -/
noncomputable def readHandler : Option (Except PyException (ToolResult (PyFloat ℝ))) :=
  match command.operation with
  | .getState => some (handleGetState inputs command)
  | .getCapabilities => some (handleGetCapabilities inputs command)
  | .getLaserScan => some (handleGetLaserScan wiring inputs command)
  | .getCameraImage => some (handleGetCameraImage wiring inputs command)
  | .detectObjects => some (handleDetectObjects wiring inputs command)
  | _ => none

end Handlers

/-! ### What the handlers return -/

section Outcome

variable {wiring : ReadWiring} {inputs : ReadInputs} {command : SemanticCommand (PyFloat ℝ)}
  {r : ToolResult (PyFloat ℝ)}

private theorem restamp_completed {t : ResultType} (h : r.Completed t "" wiring.adapter.robotId)
    (hrobot : wiring.adapter.robotId = command.robotId) :
    (restamp inputs command r).Completed t command.commandId command.robotId :=
  ⟨h.resultType, rfl, h.robotId.trans hrobot, h.outcome⟩

theorem handleGetLaserScan_eq_ok (h : handleGetLaserScan wiring inputs command = .ok r) :
    ∃ includeRaw result, resolveLaserScan wiring.adapter.robotId "" ((0 : ℤ) : PyFloat ℝ) inputs.scan includeRaw =
      .ok result ∧ r = restamp inputs command result := by
  obtain ⟨result, hresult, h⟩ := bind_returns_iff.1 h
  exact ⟨_, result, hresult, (Except.ok.inj h).symm⟩

theorem handleGetCameraImage_eq_ok (h : handleGetCameraImage wiring inputs command = .ok r) :
    ∃ maxWidth result, resolveCameraImage wiring.adapter.robotId "" ((0 : ℤ) : PyFloat ℝ) wiring.imaging inputs.camera
      maxWidth = .ok result ∧ r = restamp inputs command result := by
  obtain ⟨maxWidth, -, h⟩ := bind_returns_iff.1 h
  obtain ⟨result, hresult, h⟩ := bind_returns_iff.1 h
  exact ⟨maxWidth, result, hresult, (Except.ok.inj h).symm⟩

theorem handleDetectObjects_eq_ok (h : handleDetectObjects wiring inputs command = .ok r) :
    ∃ labels result, detectObjects wiring.adapter wiring.imaging inputs.detect labels = .ok result ∧
      r = restamp inputs command result := by
  obtain ⟨result, hresult, h⟩ := bind_returns_iff.1 h
  exact ⟨_, result, hresult, (Except.ok.inj h).symm⟩

/-- A handler that returns gives a completed result of the class that the command expects. -/
theorem readHandler_completed (hrobot : wiring.adapter.robotId = command.robotId)
    (htype : resultTypeByOperation command.operation = some command.expectedResultType)
    (h : readHandler wiring inputs command = some (.ok r)) :
    r.Completed command.expectedResultType command.commandId command.robotId := by
  unfold readHandler at h
  split at h
  · next hop =>
    rw [hop] at htype
    rw [← Option.some.inj htype]
    exact resolveRobotState_completed (Option.some.inj h)
  · next hop =>
    rw [hop] at htype
    rw [← Option.some.inj htype]
    obtain rfl := Except.ok.inj (Option.some.inj h)
    exact resolveCapabilities_completed
  · next hop =>
    rw [hop] at htype
    rw [← Option.some.inj htype]
    obtain ⟨includeRaw, result, hresult, rfl⟩ := handleGetLaserScan_eq_ok (Option.some.inj h)
    exact restamp_completed (resolveLaserScan_completed hresult) hrobot
  · next hop =>
    rw [hop] at htype
    rw [← Option.some.inj htype]
    obtain ⟨maxWidth, result, hresult, rfl⟩ := handleGetCameraImage_eq_ok (Option.some.inj h)
    exact restamp_completed (resolveCameraImage_completed hresult) hrobot
  · next hop =>
    rw [hop] at htype
    rw [← Option.some.inj htype]
    obtain ⟨labels, result, hresult, rfl⟩ := handleDetectObjects_eq_ok (Option.some.inj h)
    exact restamp_completed (detectObjects_completed hresult) hrobot
  · cases h

end Outcome

/-- The wiring of a robot whose detector finds nothing. -/
noncomputable def sampleReadWiring : ReadWiring where
  adapter := ⟨"robot", 1, 0, "base_link", "stub_detector"⟩
  imaging := ⟨fun _ _ => .ok ⟨[], 1, 1, 1, 1⟩, fun _ => .ok (1, 1, []), fun _ => .ok []⟩

end RosMcp
