import RosMcp.RobotState
import RosMcp.Safety.Geofence

/-!
# What the navigation distance limit measures

The policy engine compares the coordinates of a NAVIGATE goal with those of the current pose, whatever frames the two
are expressed in, and a `nan` distance passes its comparison.  So a NAVIGATE that is not denied lies within
`max_navigation_distance_m` of the robot, in one frame, exactly when the goal is in the frame that the source of the
pose measures in and the distance is a number, or the command is denied (`navigationDistance_iff`).
-/

namespace RosMcp

variable {inputs : PoseInputs (PyFloat ℝ)} {requestedFrame : Option String}
  {currentPose : Option (Pose2D (PyFloat ℝ))} {history : RateLimitHistory (PyFloat ℝ)}
  {safety : SafetyConfig (PyFloat ℝ)} {now : PyFloat ℝ} {command : SemanticCommand (PyFloat ℝ)}
  {target : NavigateTarget (PyFloat ℝ)}

/-- The distance that the policy engine computes. -/
noncomputable def goalDistance (pose : Pose2D (PyFloat ℝ)) (target : NavigateTarget (PyFloat ℝ)) : PyFloat ℝ :=
  euclideanDistance pose.x pose.y target.x target.y

/-- The pose and the goal are expressed in one frame and at most the configured distance apart. -/
def WithinNavigationDistance (inputs : PoseInputs (PyFloat ℝ)) (requestedFrame : Option String)
    (currentPose : Option (Pose2D (PyFloat ℝ))) (safety : SafetyConfig (PyFloat ℝ))
    (command : SemanticCommand (PyFloat ℝ)) (target : NavigateTarget (PyFloat ℝ)) : Prop :=
  ∃ pose source, currentPose = some pose ∧ poseSource inputs requestedFrame = some source ∧
    source.frame = command.goalFrame ∧ goalDistance pose target ≤ safety.maxNavigationDistanceM

/-- The goal is in the frame that the source of the pose measures in, and the distance is a number. -/
def Comparable (inputs : PoseInputs (PyFloat ℝ)) (requestedFrame : Option String)
    (currentPose : Option (Pose2D (PyFloat ℝ))) (command : SemanticCommand (PyFloat ℝ))
    (target : NavigateTarget (PyFloat ℝ)) : Prop :=
  (poseSource inputs requestedFrame).map PoseSource.frame = some command.goalFrame ∧
    ∀ pose ∈ currentPose, goalDistance pose target ≠ .nan

/-- One of the checks denies the NAVIGATE. -/
def NavigateStopped (history : RateLimitHistory (PyFloat ℝ)) (safety : SafetyConfig (PyFloat ℝ)) (now : PyFloat ℝ)
    (command : SemanticCommand (PyFloat ℝ)) (currentPose : Option (Pose2D (PyFloat ℝ)))
    (target : NavigateTarget (PyFloat ℝ)) : Prop :=
  RateLimited history command.sessionId safety.rateLimitRps now ∨ currentPose = none ∨
    ∃ pose, currentPose = some pose ∧ (safety.maxNavigationDistanceM < goalDistance pose target ∨
      (safety.geofence.enabled = true ∧ ¬ withinGeofence (target.x, target.y) safety))

/-- A NAVIGATE is denied by the rate limit, a missing pose, the distance limit or the geofence. -/
private theorem decides_deny_navigate (hop : command.operation = .navigate) (ht : command.target = .navigate target) :
    Decides .deny history safety now command currentPose ↔
      NavigateStopped history safety now command currentPose target := by
  have ha : assess safety command currentPose = .ok (assessNavigate safety target currentPose) := by
    simp [assess, hop, ht]
  rw [decides_deny_iff (by rw [hop]; decide), ha, NavigateStopped]
  rcases currentPose with _ | pose
  · simp [assessNavigate]
  · by_cases hd : safety.maxNavigationDistanceM < goalDistance pose target
    · have hd' : safety.maxNavigationDistanceM < euclideanDistance pose.x pose.y target.x target.y := hd
      simp [assessNavigate, hd, hd']
    · have hd' : ¬ safety.maxNavigationDistanceM < euclideanDistance pose.x pose.y target.x target.y := hd
      simp [assessNavigate, hd, hd', OutsideGeofence]

/-- A NAVIGATE that is not denied is within the navigation distance, in one frame, exactly when its goal and the pose
are comparable or one of the checks denies it. -/
theorem navigationDistance_iff (history : RateLimitHistory (PyFloat ℝ)) (now : PyFloat ℝ)
    (hpose : resolveCurrentPose inputs requestedFrame = .ok currentPose)
    (hsafety : safety.Accepted) (hop : command.operation = .navigate) (ht : command.target = .navigate target) :
    (¬ Decides .deny history safety now command currentPose →
        WithinNavigationDistance inputs requestedFrame currentPose safety command target) ↔
      Comparable inputs requestedFrame currentPose command target ∨
        NavigateStopped history safety now command currentPose target := by
  have hmax : safety.maxNavigationDistanceM ≠ .nan := by
    intro hnan
    have hpos := hsafety.maxNavigationDistanceM
    rw [hnan] at hpos
    exact absurd hpos PyFloat.not_lt_nan
  rw [decides_deny_navigate hop ht]
  constructor
  · intro h
    by_cases hstop : NavigateStopped history safety now command currentPose target
    · exact Or.inr hstop
    · obtain ⟨pose, source, hp, hs, hf, hd⟩ := h hstop
      refine Or.inl ⟨by rw [hs, Option.map_some, hf], ?_⟩
      intro pose' hp' hnan
      rw [hp, Option.mem_some_iff] at hp'
      subst hp'
      rw [hnan] at hd
      exact absurd hd PyFloat.not_nan_le
  · rintro (⟨hframe, hd⟩ | hstop) hn
    · obtain ⟨source, hs, hf⟩ := Option.map_eq_some_iff.1 hframe
      rcases resolveCurrentPose_source hpose with ⟨-, hnone⟩ | ⟨pose, source', hp, hs', -⟩
      · rw [hs] at hnone
        cases hnone
      · refine ⟨pose, source, hp, hs, hf, ?_⟩
        -- the limit did not refuse the distance, and both are numbers
        refine (PyFloat.not_lt_iff_le hmax (hd pose hp)).1 ?_
        intro hlt
        exact hn (Or.inr (Or.inr ⟨pose, hp, Or.inl hlt⟩))
    · exact absurd hstop hn

/-! ### A robot that is not localized -/

section Sample

open PyFloat

/-- Only odometry is available: no localization, and no transform from the map. -/
noncomputable def odometryOnly : PoseInputs (PyFloat ℝ) where
  registry := [⟨"differential_drive_motion", .confirmed, some "cmd_vel", [("odom", "/odom")], []⟩]
  getLatest topic := if topic = "/odom" then some ⟨.ok ⟨fin 0, fin 0, ⟨fin 0, fin 0, fin 0, fin 1⟩⟩, fin 0⟩ else none
  lookup := some (.ok ⟨false, none, none, none, some .frameUnknown⟩)
  now := fin 0

/-- The pose that is resolved from it. -/
noncomputable def odometryPose : Pose2D (PyFloat ℝ) :=
  ⟨fin 0, fin 0, quaternionToYaw ⟨fin 0, fin 0, fin 0, fin 1⟩, "odom", fin 0⟩

private theorem odometryOnly_resolved : resolveCurrentPose odometryOnly none = .ok (some odometryPose) := rfl

/-- `robot.navigate` to a point one metre from the origin of the given frame. -/
noncomputable def navigateTo (frame : Option String) : SemanticCommand (PyFloat ℝ) where
  commandId := "N"
  sessionId := "session"
  robotId := "robot"
  operation := .navigate
  commandClass := .motion
  target := .navigate ⟨fin 1, fin 0, none⟩
  frame := frame
  timeoutS := defaultTimeouts.navigateDefaultS
  priority := .normal
  safetyConstraints := some (resolveSafetyConstraints (SafetyConfig.defaults fun q => fin (q : ℝ)))
  provenance := ⟨"robot.navigate", [("x", .float (fin 1)), ("y", .float (fin 0))], "session"⟩
  confidence := none
  createdAt := fin 0
  expectedResultType := .navigate

/-- The factory builds it, without a frame, from the arguments of a call. -/
theorem navigateTo_created : create "robot" "N" (fin 0) "robot.navigate" .navigate .motion
    [("x", .float (fin 1)), ("y", .float (fin 0))] "session" (SafetyConfig.defaults fun q => fin (q : ℝ))
    defaultTimeouts = .ok (navigateTo none) := rfl

/-- Nothing stops the goal under the default configuration. -/
private theorem navigateTo_not_stopped (frame : Option String) :
    ¬ NavigateStopped (fun _ => []) (SafetyConfig.defaults fun q => fin (q : ℝ)) (fin 0) (navigateTo frame)
      (some odometryPose) ⟨fin 1, fin 0, none⟩ := by
  have hd : goalDistance odometryPose ⟨fin 1, fin 0, none⟩ = fin 1 := by
    simp [goalDistance, euclideanDistance, odometryPose]
  rintro (h | h | ⟨pose, hp, h | ⟨h, -⟩⟩)
  · revert h
    simp [RateLimited, rateWindow, SafetyConfig.defaults]
    norm_num
  · cases h
  · obtain rfl := Option.some.inj hp
    rw [hd] at h
    revert h
    simp [SafetyConfig.defaults]
    norm_num
  · cases h

/-- A goal in the map is not denied, with a current pose that is only known in the odometry frame. -/
theorem navigationDistance_frames :
    resolveCurrentPose odometryOnly none = .ok (some odometryPose) ∧
      ¬ Decides .deny (fun _ => []) (SafetyConfig.defaults fun q => fin (q : ℝ)) (fin 0) (navigateTo none)
        (some odometryPose) ∧
      odometryPose.frame = "odom" ∧ (navigateTo none).goalFrame = "map" ∧
      ¬ WithinNavigationDistance odometryOnly none (some odometryPose) (SafetyConfig.defaults fun q => fin (q : ℝ))
        (navigateTo none) ⟨fin 1, fin 0, none⟩ := by
  refine ⟨rfl, ?_, rfl, rfl, ?_⟩
  · rw [decides_deny_navigate rfl rfl]
    exact navigateTo_not_stopped none
  · rintro ⟨pose, source, -, hs, hf, -⟩
    obtain rfl := Option.some.inj hs
    exact absurd hf (by decide)

/-- The same goal in the odometry frame is within the limit. -/
theorem navigationDistance_sample :
    WithinNavigationDistance odometryOnly none (some odometryPose) (SafetyConfig.defaults fun q => fin (q : ℝ))
      (navigateTo (some "odom")) ⟨fin 1, fin 0, none⟩ := by
  have hsafety : (SafetyConfig.defaults fun q => (fin (q : ℝ) : PyFloat ℝ)).Accepted :=
    SafetyConfig.defaults_accepted (by simp) (by simp) (by simp)
  refine (navigationDistance_iff (fun _ => []) (fin 0) odometryOnly_resolved hsafety rfl rfl).2 (Or.inl ⟨rfl, ?_⟩) ?_
  · intro pose hp
    obtain rfl := Option.some.inj hp
    simp [goalDistance, euclideanDistance, odometryPose]
  · rw [decides_deny_navigate rfl rfl]
    exact navigateTo_not_stopped (some "odom")

end Sample

end RosMcp
