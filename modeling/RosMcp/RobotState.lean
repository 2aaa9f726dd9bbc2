import RosMcp.Geometry

/-!
# The current pose (`robot_state.py`)

`resolveCurrentPose` prefers the AMCL topic, then a live TF lookup, then odometry; the first two are tried only when
the requested frame is `map` or not given.  `poseSource` says which of the three the pose comes from, and
`resolveCurrentPose_frame` that a pose resolved without a requested frame carries the label of the frame it was
measured in.  A pose from odometry carries the label of the requested frame, so in general the label names the frame of
the source exactly when the odometry was not asked for another frame (`pose_label_iff`).
-/

namespace RosMcp

variable {N : Type} [IntCast N] [Add N] [Sub N] [Mul N] [PyMath N]

/-- `raw.pose.pose` of an `Odometry` or a `PoseWithCovarianceStamped` message. -/
structure RawPose (N : Type) where
  x : N
  y : N
  orientation : Quaternion N

/-- An entry of the subscription cache; a message of another type raises when its pose is read. -/
structure CachedMessage (N : Type) where
  raw : Except PyException (RawPose N)
  stamp : N

inductive TransformError
  | frameUnknown | notConnected | extrapolation | timeout
  deriving DecidableEq, Repr

structure TransformResult (N : Type) where
  ok : Bool
  x : Option N
  y : Option N
  yaw : Option N
  error : Option TransformError

/-- What `resolve_current_pose` reads.  `lookup` is the answer of `tf_adapter.lookup_transform("map", base_frame)`,
`none` when no adapter or no base frame was supplied; `now` stamps a pose from TF. -/
structure PoseInputs (N : Type) where
  registry : List (CapabilityEntry N)
  getLatest : String → Option (CachedMessage N)
  lookup : Option (Except PyException (TransformResult N))
  now : N

/-- The common body of `pose_from_odometry` and `pose_from_pose_with_covariance_stamped`. -/
def poseFromMessage (cached : CachedMessage N) (frame : String) : Except PyException (Pose2D N) :=
  cached.raw.map fun raw => ⟨raw.x, raw.y, quaternionToYaw raw.orientation, frame, cached.stamp⟩

/-- `pose_from_odometry` -/
def poseFromOdometry (cached : CachedMessage N) (frame : String) : Except PyException (Pose2D N) :=
  poseFromMessage cached frame

/-- `pose_from_pose_with_covariance_stamped` -/
def poseFromPoseWithCovarianceStamped (cached : CachedMessage N) (frame : String) : Except PyException (Pose2D N) :=
  poseFromMessage cached frame

omit [IntCast N] [Add N] [Sub N] [Mul N] [PyMath N] in
/-- `_pose_from_live_tf` -/
def poseFromLiveTf (result : TransformResult N) (now : N) : Option (Pose2D N) :=
  if result.ok then
    match result.x, result.y, result.yaw with
    | some x, some y, some yaw => some ⟨x, y, yaw, "map", now⟩
    | _, _, _ => none
  else none

/-- The latest message on the topic that a capability resolved under the given key. -/
def latestOf (inputs : PoseInputs N) (capabilityId key : String) : Option (CachedMessage N) :=
  ((registryGet inputs.registry capabilityId).bind fun entry => getKey entry.resolvedTopics key).bind inputs.getLatest

/-- `requested_frame in (None, "map")` -/
def wantMapFrame : Option String → Bool
  | none => true
  | some frame => frame == "map"

/-- `requested_frame or "odom"` -/
def odomLabel : Option String → String
  | none => "odom"
  | some frame => if frame = "" then "odom" else frame

/-- The odometry branch of `resolve_current_pose`. -/
def resolveOdometry (inputs : PoseInputs N) (requestedFrame : Option String) :
    Except PyException (Option (Pose2D N)) :=
  match latestOf inputs "differential_drive_motion" "odom" with
  | some cached => (poseFromOdometry cached (odomLabel requestedFrame)).map some
  | none => .ok none

/-- `resolve_current_pose` -/
def resolveCurrentPose (inputs : PoseInputs N) (requestedFrame : Option String) :
    Except PyException (Option (Pose2D N)) :=
  if wantMapFrame requestedFrame then
    match latestOf inputs "localization" "amcl_pose" with
    | some cached => (poseFromPoseWithCovarianceStamped cached "map").map some
    | none =>
      match inputs.lookup with
      | none => resolveOdometry inputs requestedFrame
      | some (.error exc) => .error exc
      | some (.ok result) =>
        match poseFromLiveTf result inputs.now with
        | some pose => .ok (some pose)
        | none => resolveOdometry inputs requestedFrame
  else resolveOdometry inputs requestedFrame

/-! ### Where the pose comes from -/

inductive PoseSource
  | amcl | liveTf | odometry
  deriving DecidableEq, Repr

/-- The frame that the coordinates of a source are taken to be measured in; `header.frame_id` of a message is not
read. -/
def PoseSource.frame : PoseSource → String
  | .amcl | .liveTf => "map"
  | .odometry => "odom"

/-- The source that the inputs determine. -/
def poseSource (inputs : PoseInputs N) (requestedFrame : Option String) : Option PoseSource :=
  if wantMapFrame requestedFrame ∧ (latestOf inputs "localization" "amcl_pose").isSome then some .amcl
  else if wantMapFrame requestedFrame ∧
      ((inputs.lookup.bind Except.toOption).bind fun result => poseFromLiveTf result inputs.now).isSome then
    some .liveTf
  else if (latestOf inputs "differential_drive_motion" "odom").isSome then some .odometry
  else none

/-- The label that a pose from a source carries. -/
def PoseSource.label (requestedFrame : Option String) : PoseSource → String
  | .amcl | .liveTf => "map"
  | .odometry => odomLabel requestedFrame

/-- The pose has the coordinates of the message. -/
structure RawPose.Reads (raw : RawPose N) (pose : Pose2D N) : Prop where
  x : pose.x = raw.x
  y : pose.y = raw.y
  yaw : pose.yaw = quaternionToYaw raw.orientation

/-- The coordinates of the pose are those that the source has measured. -/
def PoseSource.Gives (inputs : PoseInputs N) (pose : Pose2D N) : PoseSource → Prop
  | .amcl =>
    ∃ cached raw, latestOf inputs "localization" "amcl_pose" = some cached ∧ cached.raw = .ok raw ∧ raw.Reads pose
  | .liveTf =>
    ∃ result, inputs.lookup = some (.ok result) ∧ result.ok = true ∧ result.x = some pose.x ∧
      result.y = some pose.y ∧ result.yaw = some pose.yaw
  | .odometry =>
    ∃ cached raw, latestOf inputs "differential_drive_motion" "odom" = some cached ∧ cached.raw = .ok raw ∧
      raw.Reads pose

omit [IntCast N] [Add N] [Sub N] [Mul N] [PyMath N] in
/-- A pose from a live lookup. -/
theorem poseFromLiveTf_eq_some {result : TransformResult N} {now : N} {pose : Pose2D N}
    (h : poseFromLiveTf result now = some pose) :
    pose.frame = "map" ∧ result.ok = true ∧ result.x = some pose.x ∧ result.y = some pose.y ∧
      result.yaw = some pose.yaw := by
  unfold poseFromLiveTf at h
  split at h
  · next hok =>
    split at h
    · next hx hy hyaw =>
      obtain rfl := Option.some.inj h
      exact ⟨rfl, hok, hx, hy, hyaw⟩
    · cases h
  · cases h

/-- A pose of the odometry branch. -/
private theorem resolveOdometry_source {inputs : PoseInputs N} {requestedFrame : Option String}
    {currentPose : Option (Pose2D N)} (h : resolveOdometry inputs requestedFrame = .ok currentPose) :
    (currentPose = none ∧ (latestOf inputs "differential_drive_motion" "odom").isSome = false) ∨
      ∃ pose, currentPose = some pose ∧ pose.frame = odomLabel requestedFrame ∧
        (latestOf inputs "differential_drive_motion" "odom").isSome = true ∧ PoseSource.odometry.Gives inputs pose := by
  unfold resolveOdometry at h
  rcases hl : latestOf inputs "differential_drive_motion" "odom" with _ | cached
  · rw [hl] at h
    obtain rfl := Except.ok.inj h
    exact Or.inl ⟨rfl, rfl⟩
  · rw [hl] at h
    right
    rcases hr : cached.raw with exc | raw
    · simp [poseFromOdometry, poseFromMessage, hr, Except.map] at h
    · simp only [poseFromOdometry, poseFromMessage, hr, Except.map, Except.ok.injEq] at h
      exact ⟨_, h.symm, rfl, rfl, cached, raw, hl, hr, rfl, rfl, rfl⟩

/-- A pose is returned exactly when there is a source, it has the coordinates of the source and carries its label. -/
theorem resolveCurrentPose_source {inputs : PoseInputs N} {requestedFrame : Option String}
    {currentPose : Option (Pose2D N)} (h : resolveCurrentPose inputs requestedFrame = .ok currentPose) :
    (currentPose = none ∧ poseSource inputs requestedFrame = none) ∨
      ∃ pose source, currentPose = some pose ∧ poseSource inputs requestedFrame = some source ∧
        pose.frame = source.label requestedFrame ∧ source.Gives inputs pose := by
  have odometry : resolveOdometry inputs requestedFrame = .ok currentPose →
      (poseSource inputs requestedFrame =
        if (latestOf inputs "differential_drive_motion" "odom").isSome then some .odometry else none) →
      (currentPose = none ∧ poseSource inputs requestedFrame = none) ∨
        ∃ pose source, currentPose = some pose ∧ poseSource inputs requestedFrame = some source ∧
          pose.frame = source.label requestedFrame ∧ source.Gives inputs pose := by
    intro ho hs
    rcases resolveOdometry_source ho with ⟨hn, hl⟩ | ⟨pose, hp, hf, hl, hgives⟩
    · exact Or.inl ⟨hn, by rw [hs, hl]; rfl⟩
    · exact Or.inr ⟨pose, .odometry, hp, by rw [hs, hl]; rfl, hf, hgives⟩
  unfold resolveCurrentPose at h
  by_cases hw : wantMapFrame requestedFrame = true
  · rw [if_pos hw] at h
    rcases ha : latestOf inputs "localization" "amcl_pose" with _ | cached
    · rw [ha] at h
      rcases hl : inputs.lookup with _ | exc | result
      · rw [hl] at h
        exact odometry h (by simp [poseSource, ha, hl])
      · rw [hl] at h
        cases h
      · rw [hl] at h
        dsimp only at h
        rcases ht : poseFromLiveTf result inputs.now with _ | pose
        · rw [ht] at h
          exact odometry h (by simp [poseSource, ha, hl, ht, Except.toOption])
        · rw [ht] at h
          obtain rfl := Except.ok.inj h
          obtain ⟨hframe, hmeasured⟩ := poseFromLiveTf_eq_some ht
          exact Or.inr ⟨pose, .liveTf, rfl, by simp [poseSource, hw, ha, hl, ht, Except.toOption], hframe,
            result, hl, hmeasured⟩
    · rw [ha] at h
      right
      rcases hr : cached.raw with exc | raw
      · simp [poseFromPoseWithCovarianceStamped, poseFromMessage, hr, Except.map] at h
      · simp only [poseFromPoseWithCovarianceStamped, poseFromMessage, hr, Except.map, Except.ok.injEq] at h
        exact ⟨_, .amcl, h.symm, by simp [poseSource, hw, ha], rfl, cached, raw, ha, hr, rfl, rfl, rfl⟩
  · rw [if_neg hw] at h
    exact odometry h (by simp [poseSource, hw])

/-! ### What the label says -/

/-- The label names the frame of the source: it is the map only for a source that measures in the map, and odometry
does not carry the label of another frame that was requested. -/
structure PoseSource.NamedBy (source : PoseSource) (requestedFrame : Option String) (pose : Pose2D N) : Prop where
  frame : pose.frame = source.frame
  map : pose.frame = "map" → source ≠ .odometry
  requested : source = .odometry → ∀ frame, requestedFrame = some frame → frame ≠ "odom" → pose.frame ≠ frame

/-- The source measures in the map, or no other frame than the one of the odometry was requested. -/
def LabelSafe (inputs : PoseInputs N) (requestedFrame : Option String) : Prop :=
  poseSource inputs requestedFrame ≠ some .odometry ∨
    requestedFrame = none ∨ requestedFrame = some "" ∨ requestedFrame = some "odom"

private theorem odomLabel_eq_iff {requestedFrame : Option String} : odomLabel requestedFrame = "odom" ↔
    requestedFrame = none ∨ requestedFrame = some "" ∨ requestedFrame = some "odom" := by
  cases requestedFrame with
  | none => simp [odomLabel]
  | some frame =>
    by_cases hempty : frame = ""
    · simp [odomLabel, hempty]
    · simp [odomLabel, hempty]

omit [IntCast N] [Add N] [Sub N] [Mul N] [PyMath N] in
private theorem PoseSource.namedBy_iff {source : PoseSource} {requestedFrame : Option String} {pose : Pose2D N} :
    source.NamedBy requestedFrame pose ↔ pose.frame = source.frame := by
  constructor
  · exact fun h => h.frame
  · intro hframe
    refine ⟨hframe, ?_, ?_⟩
    · rintro hmap rfl
      rw [hmap] at hframe
      exact absurd hframe (by decide)
    · rintro rfl frame - hne
      rw [hframe]
      exact hne.symm

/-- A pose that is resolved has the coordinates of its source, and it is labelled with the frame of the source exactly
when the odometry was not asked for another frame. -/
theorem pose_label_iff {inputs : PoseInputs N} {requestedFrame : Option String} {pose : Pose2D N}
    (h : resolveCurrentPose inputs requestedFrame = .ok (some pose)) :
    ∃ source, poseSource inputs requestedFrame = some source ∧ source.Gives inputs pose ∧
      (source.NamedBy requestedFrame pose ↔ LabelSafe inputs requestedFrame) := by
  rcases resolveCurrentPose_source h with ⟨hn, -⟩ | ⟨pose', source, hp, hs, hf, hgives⟩
  · cases hn
  · obtain rfl := Option.some.inj hp
    refine ⟨source, hs, hgives, ?_⟩
    rw [PoseSource.namedBy_iff, hf]
    unfold LabelSafe
    rw [hs]
    cases source with
    | amcl | liveTf => simp [PoseSource.label, PoseSource.frame]
    | odometry =>
      have hlabel := @odomLabel_eq_iff requestedFrame
      simpa [PoseSource.label, PoseSource.frame] using hlabel

/-! ### A robot without localization -/

/-- The robot has a motion capability with odometry and no localization. -/
noncomputable def unlocalized : PoseInputs ℝ where
  registry := [⟨"differential_drive_motion", .confirmed, some "cmd_vel", [("odom", "/odom")], []⟩]
  getLatest topic := if topic = "/odom" then some ⟨.ok ⟨1, 0, ⟨0, 0, 0, 1⟩⟩, 0⟩ else none
  lookup := none
  now := 0

theorem pose_label_sample : ∃ pose, resolveCurrentPose unlocalized none = .ok (some pose) ∧
    PoseSource.odometry.NamedBy none pose := by
  have h : resolveCurrentPose unlocalized none = .ok (some ⟨1, 0, quaternionToYaw ⟨0, 0, 0, 1⟩, "odom", 0⟩) := rfl
  have hodometry : poseSource unlocalized none = some .odometry := rfl
  obtain ⟨source, hs, -, hiff⟩ := pose_label_iff h
  obtain rfl : PoseSource.odometry = source := Option.some.inj (hodometry.symm.trans hs)
  exact ⟨_, h, hiff.2 (.inr (.inl rfl))⟩

/-- Asked for the map, the odometry is labelled as if it were measured there. -/
theorem pose_label_echo : ∃ pose, resolveCurrentPose unlocalized (some "map") = .ok (some pose) ∧
    poseSource unlocalized (some "map") = some .odometry ∧ PoseSource.odometry.Gives unlocalized pose ∧
    pose.frame = "map" ∧ ¬ PoseSource.odometry.NamedBy (some "map") pose := by
  refine ⟨⟨1, 0, quaternionToYaw ⟨0, 0, 0, 1⟩, "map", 0⟩, rfl, rfl, ⟨_, _, rfl, rfl, rfl, rfl, rfl⟩, rfl, ?_⟩
  intro hnamed
  exact hnamed.map rfl rfl

end RosMcp
