import RosMcp.Perception.Detection

/-!
# The resolvers of the read tools (`mcp/*_resolver.py`)

Each resolver assembles the result of one read tool from the registry and the subscription cache.  `robot.get_state`
and `robot.get_capabilities` always succeed; a laser scan or a camera image needs a resolved topic and a message on it.
Over Python floats with real finite values.
-/

namespace RosMcp

open PyFloat

/-! ### `state_resolver.py` -/

/-- What `resolve_robot_state` reads: the inputs of `resolve_current_pose`, and the linear and angular velocity of the
latest message on a topic. -/
structure StateInputs where
  pose : PoseInputs (PyFloat ℝ)
  twist : String → Option (Except PyException (PyFloat ℝ × PyFloat ℝ))

/-- `1e-3` -/
noncomputable def movingThreshold : PyFloat ℝ := .fin (1 / 1000)

/-- The velocities and `is_moving` of `resolve_robot_state`. -/
noncomputable def resolveVelocity (inputs : StateInputs) :
    Except PyException (Option (PyFloat ℝ) × Option (PyFloat ℝ) × Bool) :=
  match (resolvedTopic inputs.pose.registry "differential_drive_motion" "odom").bind inputs.twist with
  | none => .ok (none, none, false)
  | some cached => do
    let (linearVelocity, angularVelocity) ← cached
    return (some linearVelocity, some angularVelocity,
      decide (movingThreshold < linearVelocity.abs ∨ movingThreshold < angularVelocity.abs))

/-- `resolve_robot_state` -/
noncomputable def resolveRobotState (robotId commandId : String) (durationSec : PyFloat ℝ) (inputs : StateInputs)
    (requestedFrame : Option String) (activeCommand : Option CommandSummary) :
    Except PyException (ToolResult (PyFloat ℝ)) := do
  let pose ← resolveCurrentPose inputs.pose requestedFrame
  let (linearVelocity, angularVelocity, isMoving) ← resolveVelocity inputs
  return {
    status := .succeeded
    commandId
    robotId
    durationSec
    error := none
    fields := .robotState pose linearVelocity angularVelocity isMoving activeCommand }

/-! ### `capabilities_resolver.py` -/

/-- `resolve_capabilities` -/
def resolveCapabilities (robotId commandId : String) (durationSec : PyFloat ℝ)
    (registry : List (CapabilityEntry (PyFloat ℝ))) (snapshotVersion : Nat) : ToolResult (PyFloat ℝ) where
  status := .succeeded
  commandId := commandId
  robotId := robotId
  durationSec := durationSec
  error := none
  fields := .capabilities registry snapshotVersion

/-! ### `laser_scan_resolver.py` -/

/-- What `resolve_laser_scan` reads. -/
structure ScanInputs where
  registry : List (CapabilityEntry (PyFloat ℝ))
  scan : String → Option (CachedSensor LaserScan)
  sensorStaleS : PyFloat ℝ

/-- `dict(analysis.sectors)` -/
noncomputable def LaserScanAnalysis.sectorList (analysis : LaserScanAnalysis) :
    List (Sector × Option (RangeReading (PyFloat ℝ))) :=
  [Sector.front, .left, .right, .rear].map fun sector => (sector, analysis.sectors sector)

/-- `resolve_laser_scan` -/
noncomputable def resolveLaserScan (robotId commandId : String) (durationSec : PyFloat ℝ) (inputs : ScanInputs)
    (includeRawRanges : Bool) : Except PyException (ToolResult (PyFloat ℝ)) :=
  let failure (code : ErrorCode) (message : Message (PyFloat ℝ)) :=
    buildErrorResult .laserScan commandId robotId durationSec { code, message }
  match resolvedTopic inputs.registry "range_sensing" "scan" with
  | none => .ok (failure .capabilityUnavailable [.text "no laser scan sensor available"])
  | some topic =>
    match inputs.scan topic with
    | none => .ok (failure .sensorStale [.text "no laser scan ever received on ", .text topic])
    | some cached => do
      let analysis ← analyzeLaserScan (← cached.raw)
      return {
        status := .succeeded
        commandId
        robotId
        durationSec
        error := none
        fields := .laserScan (some cached.stamp) analysis.frameId analysis.nearest analysis.farthest
          analysis.sectorList (if includeRawRanges then some analysis.rawRanges else none) (some cached.ageS)
          (decide (inputs.sensorStaleS < cached.ageS)) analysis.invalidBeamCount }

/-! ### `camera_resolver.py` -/

/-- What `resolve_camera_image` reads. -/
structure CameraInputs where
  registry : List (CapabilityEntry (PyFloat ℝ))
  image : String → Option (CachedSensor ImageMessage)
  maxWidthPxCap : ℤ

/-- `resolve_camera_image`; a `ValueError` of the encoder is caught. -/
noncomputable def resolveCameraImage (robotId commandId : String) (durationSec : PyFloat ℝ) (imaging : Imaging)
    (inputs : CameraInputs) (maxWidthPx : ℤ) : Except PyException (ToolResult (PyFloat ℝ)) :=
  let failure (code : ErrorCode) (message : Message (PyFloat ℝ)) :=
    buildErrorResult .cameraImage commandId robotId durationSec { code, message }
  match resolvedTopic inputs.registry "visual_observation" "image" with
  | none => .ok (failure .capabilityUnavailable [.text "no camera available"])
  | some topic =>
    match inputs.image topic with
    | none => .ok (failure .sensorStale [.text "no camera image ever received on ", .text topic])
    | some cached =>
      let effectiveMaxWidth := min maxWidthPx inputs.maxWidthPxCap
      match cached.raw.bind fun message => (imaging.encodeJpegThumbnail message effectiveMaxWidth).map (message, ·) with
      | .error exc =>
        if exc.kind = .valueError then .ok (failure .rosInterfaceError [.text exc.message]) else .error exc
      | .ok (message, thumbnail) =>
        .ok
          { status := .succeeded
            commandId
            robotId
            durationSec
            error := none
            fields := .cameraImage (some cached.stamp) message.frameId (some cached.ageS) thumbnail.jpegBytes
              thumbnail.widthPx thumbnail.heightPx thumbnail.originalWidthPx thumbnail.originalHeightPx }

/-! ### What the resolvers return -/

section Outcome

variable {robotId commandId : String} {durationSec : PyFloat ℝ} {r : ToolResult (PyFloat ℝ)}

theorem resolveRobotState_completed {inputs : StateInputs} {requestedFrame : Option String}
    {activeCommand : Option CommandSummary}
    (h : resolveRobotState robotId commandId durationSec inputs requestedFrame activeCommand = .ok r) :
    r.Completed .robotState commandId robotId := by
  unfold resolveRobotState at h
  obtain ⟨pose, -, h⟩ := bind_returns_iff.1 h
  obtain ⟨velocity, -, h⟩ := bind_returns_iff.1 h
  obtain rfl := Except.ok.inj h
  exact ⟨rfl, rfl, rfl, Or.inl ⟨rfl, rfl⟩⟩

theorem resolveCapabilities_completed {registry : List (CapabilityEntry (PyFloat ℝ))} {snapshotVersion : Nat} :
    (resolveCapabilities robotId commandId durationSec registry snapshotVersion).Completed .capabilities commandId
      robotId :=
  ⟨rfl, rfl, rfl, Or.inl ⟨rfl, rfl⟩⟩

theorem resolveLaserScan_completed {inputs : ScanInputs} {includeRawRanges : Bool}
    (h : resolveLaserScan robotId commandId durationSec inputs includeRawRanges = .ok r) :
    r.Completed .laserScan commandId robotId := by
  unfold resolveLaserScan at h
  dsimp only at h
  split at h
  · obtain rfl := Except.ok.inj h
    exact buildErrorResult_completed _ _ _ _ _
  · split at h
    · obtain rfl := Except.ok.inj h
      exact buildErrorResult_completed _ _ _ _ _
    · obtain ⟨scan, -, h⟩ := bind_returns_iff.1 h
      obtain ⟨analysis, -, h⟩ := bind_returns_iff.1 h
      obtain rfl := Except.ok.inj h
      exact ⟨rfl, rfl, rfl, Or.inl ⟨rfl, rfl⟩⟩

/-- Without a resolved scan topic there is no scan. -/
theorem resolveLaserScan_unavailable {inputs : ScanInputs} {includeRawRanges : Bool}
    (h : resolveLaserScan robotId commandId durationSec inputs includeRawRanges = .ok r)
    (htopic : resolvedTopic inputs.registry "range_sensing" "scan" = none) : r.status = .failed := by
  unfold resolveLaserScan at h
  rw [htopic] at h
  obtain rfl := Except.ok.inj h
  rfl

theorem resolveCameraImage_completed {imaging : Imaging} {inputs : CameraInputs} {maxWidthPx : ℤ}
    (h : resolveCameraImage robotId commandId durationSec imaging inputs maxWidthPx = .ok r) :
    r.Completed .cameraImage commandId robotId := by
  unfold resolveCameraImage at h
  dsimp only at h
  split at h
  · obtain rfl := Except.ok.inj h
    exact buildErrorResult_completed _ _ _ _ _
  · split at h
    · obtain rfl := Except.ok.inj h
      exact buildErrorResult_completed _ _ _ _ _
    · split at h
      · split at h
        · obtain rfl := Except.ok.inj h
          exact buildErrorResult_completed _ _ _ _ _
        · cases h
      · obtain rfl := Except.ok.inj h
        exact ⟨rfl, rfl, rfl, Or.inl ⟨rfl, rfl⟩⟩

/-- Without a resolved image topic there is no image. -/
theorem resolveCameraImage_unavailable {imaging : Imaging} {inputs : CameraInputs} {maxWidthPx : ℤ}
    (h : resolveCameraImage robotId commandId durationSec imaging inputs maxWidthPx = .ok r)
    (htopic : resolvedTopic inputs.registry "visual_observation" "image" = none) : r.status = .failed := by
  unfold resolveCameraImage at h
  rw [htopic] at h
  obtain rfl := Except.ok.inj h
  rfl

end Outcome

end RosMcp
