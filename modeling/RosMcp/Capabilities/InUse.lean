import RosMcp.Capabilities.Ontology
import RosMcp.Server

/-!
# Resolved topics and the topics in use

Inference takes the names and the types of `resolved_topics` from the graph; the components of the server open their
endpoints under the names of the configuration, each with one type.  The two agree when every capability that the
graph shows is there under its configured name and type (`resolvedInUse_iff`).  They never do for the pose of AMCL:
inference resolves its topic, `resolve_current_pose` looks it up, and nothing subscribes to it.
-/

namespace RosMcp

variable {N : Type}

/-- The types under which inference looks for the topic of a key of `resolved_topics`. -/
def keyTypes : String → List String
  | "cmd_vel" => twistTypes
  | "odom" => [odomType]
  | "scan" => [laserScanType]
  | "image" => imageTypes
  | "amcl_pose" => [poseWithCovType]
  | _ => []

/-- The topic `name`, with the type that it has in the snapshot, is one that the component behind `key` really uses:
the motion plugin publishes on it, or the server has subscribed to it. -/
def InUse (snapshot : GraphSnapshot) (overrides : CapabilityConfig) (key name : String) : Prop :=
  ∃ t ∈ snapshot.topics, t.name = name ∧ t.typeName ∈ keyTypes key ∧
    if key = "cmd_vel" then (t.name, t.typeName) = serverPublisher overrides
    else (t.name, t.typeName) ∈ serverSubscriptions overrides

/-- The capabilities whose topics are read or written by a component. -/
def topicCapabilities : List String :=
  ["differential_drive_motion", "localization", "range_sensing", "visual_observation"]

/-- Every topic that an entry resolves, unless it is ambiguous, satisfies `P` for its key. -/
def Resolves (entry : Option (CapabilityEntry N)) (P : String → String → Prop) : Prop :=
  ∀ e, entry = some e → e.confidence ≠ .ambiguous → ∀ topic ∈ e.resolvedTopics, P topic.1 topic.2

/-- The resolved topics are the topics in use. -/
def ResolvedInUse (snapshot : GraphSnapshot) (overrides : CapabilityConfig) (safety : SafetyConfig N) : Prop :=
  ∀ capabilityId ∈ topicCapabilities,
    Resolves (registryGet (infer snapshot overrides safety) capabilityId) (InUse snapshot overrides)

/-- Every capability that the graph shows without ambiguity is there under the configured names, with the types that
the server uses, and the graph has no AMCL pose. -/
structure TopicsAsConfigured (snapshot : GraphSnapshot) (overrides : CapabilityConfig) : Prop where
  twist : overrides.motion.enabled = true →
    (∃ t ∈ topicsOfTypes snapshot twistTypes, t.name = overrides.motion.cmdVelTopic) →
    (∃ t ∈ topicsOfType snapshot odomType, t.name = overrides.motion.odomTopic) →
    ∃ t ∈ snapshot.topics, t.name = overrides.motion.cmdVelTopic ∧ t.typeName = "geometry_msgs/msg/Twist"
  soleMotion : overrides.motion.enabled = true →
    ∀ twist odom, topicsOfTypes snapshot twistTypes = [twist] → topicsOfType snapshot odomType = [odom] →
      twist.name = overrides.motion.cmdVelTopic ∧ odom.name = overrides.motion.odomTopic
  soleScan : ∀ only, topicsOfType snapshot laserScanType = [only] → only.name = overrides.lidarTopic
  image : (∃ t ∈ topicsOfTypes snapshot imageTypes, t.name = overrides.cameraImageTopic) →
    ∃ t ∈ snapshot.topics, t.name = overrides.cameraImageTopic ∧ t.typeName = "sensor_msgs/msg/Image"
  soleImage : ∀ only, topicsOfTypes snapshot imageTypes = [only] → only.name = overrides.cameraImageTopic
  noAmclPose : ∀ t ∈ snapshot.topics, t.typeName = poseWithCovType → t.name ≠ "/amcl_pose"

/-! ### What the inferences resolve -/

section Resolves

variable {P : String → String → Prop}

private theorem resolves_none : Resolves (none : Option (CapabilityEntry N)) P := by
  simp [Resolves]

private theorem resolves_some {e : CapabilityEntry N} :
    Resolves (some e) P ↔ (e.confidence ≠ .ambiguous → ∀ topic ∈ e.resolvedTopics, P topic.1 topic.2) := by
  simp [Resolves]

private theorem exists_topic_iff {topics : List TopicInfo} {name : String} :
    (∃ t ∈ topics, t.name = name) ↔ name ∈ topics.map TopicInfo.name :=
  List.mem_map.symm

/-- A capability with a single topic resolves the configured topic when that is a candidate, and the only candidate
otherwise. -/
theorem resolves_single_iff {capabilityId backendId configuredName : String} {candidates : List TopicInfo}
    {resolvedKey : String} :
    Resolves (resolveSingleTopicCapability (N := N) capabilityId backendId configuredName candidates resolvedKey) P ↔
      ((∃ t ∈ candidates, t.name = configuredName) → P resolvedKey configuredName) ∧
        ∀ only, candidates = [only] → P resolvedKey only.name := by
  rw [resolveSingleTopicCapability_eq, exists_topic_iff]
  unfold singleTopicEntry
  by_cases hconfigured : configuredName ∈ candidates.map TopicInfo.name
  · have honly : P resolvedKey configuredName → ∀ only, candidates = [only] → P resolvedKey only.name := by
      rintro hP only rfl
      rw [List.map_singleton, List.mem_singleton] at hconfigured
      rw [← hconfigured]
      exact hP
    rw [if_pos hconfigured, and_iff_left_of_imp fun h => honly (h hconfigured)]
    simp [resolves_some, hconfigured]
  · rw [if_neg hconfigured, and_iff_right fun h => absurd h hconfigured]
    rcases candidates with _ | ⟨first, _ | ⟨second, rest⟩⟩
    · simp [resolves_none]
    · simp [resolves_some]
    · simp [resolves_some]

/-- The motion capability resolves the two configured topics when both are candidates, and the only two candidates
otherwise. -/
theorem resolves_motion_iff {cfg : MotionCapabilityConfig} {safety : SafetyConfig N}
    {twistCandidates odomCandidates : List TopicInfo} :
    Resolves (motionTopicsEntry cfg safety (twistCandidates.map TopicInfo.name) (odomCandidates.map TopicInfo.name)) P ↔
      ((∃ t ∈ twistCandidates, t.name = cfg.cmdVelTopic) → (∃ t ∈ odomCandidates, t.name = cfg.odomTopic) →
        P "cmd_vel" cfg.cmdVelTopic ∧ P "odom" cfg.odomTopic) ∧
      ∀ twist odom, twistCandidates = [twist] → odomCandidates = [odom] →
        P "cmd_vel" twist.name ∧ P "odom" odom.name := by
  rw [exists_topic_iff, exists_topic_iff, ← and_imp]
  unfold motionTopicsEntry
  by_cases hconfigured : cfg.cmdVelTopic ∈ twistCandidates.map TopicInfo.name ∧
      cfg.odomTopic ∈ odomCandidates.map TopicInfo.name
  · have honly : P "cmd_vel" cfg.cmdVelTopic ∧ P "odom" cfg.odomTopic →
        ∀ twist odom, twistCandidates = [twist] → odomCandidates = [odom] →
          P "cmd_vel" twist.name ∧ P "odom" odom.name := by
      rintro hP twist odom rfl rfl
      rw [List.map_singleton, List.mem_singleton, List.map_singleton, List.mem_singleton] at hconfigured
      rw [← hconfigured.1, ← hconfigured.2]
      exact hP
    rw [if_pos hconfigured, and_iff_left_of_imp fun h => honly (h hconfigured)]
    simp [resolves_some, motionEntry, hconfigured]
  · rw [if_neg hconfigured, and_iff_right fun h => absurd h hconfigured]
    rcases twistCandidates with _ | ⟨twist, _ | ⟨twist', twists⟩⟩ <;>
      rcases odomCandidates with _ | ⟨odom, _ | ⟨odom', odoms⟩⟩ <;>
        simp [resolves_none, resolves_some, motionEntry]

/-- An enabled motion capability resolves what its two lists of candidates allow. -/
theorem resolves_inferDifferentialDriveMotion_iff {snapshot : GraphSnapshot} {overrides : CapabilityConfig}
    {safety : SafetyConfig N} :
    Resolves (inferDifferentialDriveMotion snapshot overrides safety) P ↔
      (overrides.motion.enabled = true →
        ((∃ t ∈ topicsOfTypes snapshot twistTypes, t.name = overrides.motion.cmdVelTopic) →
          (∃ t ∈ topicsOfType snapshot odomType, t.name = overrides.motion.odomTopic) →
          P "cmd_vel" overrides.motion.cmdVelTopic ∧ P "odom" overrides.motion.odomTopic) ∧
        ∀ twist odom, topicsOfTypes snapshot twistTypes = [twist] → topicsOfType snapshot odomType = [odom] →
          P "cmd_vel" twist.name ∧ P "odom" odom.name) := by
  by_cases henabled : overrides.motion.enabled = true
  · rw [inferDifferentialDriveMotion_eq snapshot safety henabled, resolves_motion_iff]
    simp only [henabled, true_imp_iff]
  · rw [inferDifferentialDriveMotion_disabled snapshot safety henabled]
    simp [resolves_none, henabled]

/-- The localization resolves the AMCL pose when the graph has one. -/
theorem resolves_inferLocalization_iff {snapshot : GraphSnapshot} :
    Resolves (inferLocalization (N := N) snapshot) P ↔
      ((∃ t ∈ topicsOfType snapshot poseWithCovType, t.name = "/amcl_pose") → P "amcl_pose" "/amcl_pose") := by
  rw [inferLocalization_eq, exists_topic_iff]
  by_cases hpose : "/amcl_pose" ∈ (topicsOfType snapshot poseWithCovType).map TopicInfo.name
  · rw [if_pos hpose]
    simp [resolves_some, hpose]
  · rw [if_neg hpose]
    simp only [hpose, false_imp_iff, iff_true]
    split
    · simp [resolves_some]
    · simp [resolves_none]

end Resolves

/-! ### What is in use -/

section InUse

variable {snapshot : GraphSnapshot} {overrides : CapabilityConfig} {name : String}

/-- The motion plugin publishes on the configured topic, as a `Twist`. -/
theorem inUse_cmdVel_iff :
    InUse snapshot overrides "cmd_vel" name ↔
      name = overrides.motion.cmdVelTopic ∧
        ∃ t ∈ snapshot.topics, t.name = name ∧ t.typeName = "geometry_msgs/msg/Twist" := by
  simp only [InUse, keyTypes, if_true, serverPublisher, motionPublisher, Prod.mk.injEq]
  constructor
  · rintro ⟨t, ht, rfl, -, hname, htype⟩
    exact ⟨hname, t, ht, rfl, htype⟩
  · rintro ⟨hname, t, ht, rfl, htype⟩
    exact ⟨t, ht, rfl, by simp [twistTypes, htype], hname, htype⟩

/-- A topic that is read is in use under the one name and type that the server subscribes to for its key. -/
theorem inUse_subscribed_iff {key typeName configuredName : String} (hkey : key ≠ "cmd_vel")
    (htype : typeName ∈ keyTypes key)
    (hsubscribed : ∀ other ∈ keyTypes key,
      (name, other) ∈ serverSubscriptions overrides ↔ name = configuredName ∧ other = typeName) :
    InUse snapshot overrides key name ↔
      name = configuredName ∧ ∃ t ∈ snapshot.topics, t.name = name ∧ t.typeName = typeName := by
  unfold InUse
  simp only [hkey, if_false]
  constructor
  · rintro ⟨t, ht, rfl, hother, hmem⟩
    obtain ⟨hname, hsame⟩ := (hsubscribed t.typeName hother).1 hmem
    exact ⟨hname, t, ht, rfl, hsame⟩
  · rintro ⟨hname, t, ht, rfl, rfl⟩
    exact ⟨t, ht, rfl, htype, (hsubscribed t.typeName htype).2 ⟨hname, rfl⟩⟩

private theorem inUse_odom_iff :
    InUse snapshot overrides "odom" name ↔
      name = overrides.motion.odomTopic ∧ ∃ t ∈ snapshot.topics, t.name = name ∧ t.typeName = odomType :=
  inUse_subscribed_iff (by simp) (by simp [keyTypes]) (by simp [keyTypes, mem_serverSubscriptions, odomType])

private theorem inUse_scan_iff :
    InUse snapshot overrides "scan" name ↔
      name = overrides.lidarTopic ∧ ∃ t ∈ snapshot.topics, t.name = name ∧ t.typeName = laserScanType :=
  inUse_subscribed_iff (by simp) (by simp [keyTypes]) (by simp [keyTypes, mem_serverSubscriptions, laserScanType])

/-- An image is in use under the configured name, unless it is compressed. -/
theorem inUse_image_iff :
    InUse snapshot overrides "image" name ↔
      name = overrides.cameraImageTopic ∧
        ∃ t ∈ snapshot.topics, t.name = name ∧ t.typeName = "sensor_msgs/msg/Image" :=
  inUse_subscribed_iff (by simp) (by simp [keyTypes, imageTypes])
    (by simp [keyTypes, mem_serverSubscriptions, imageTypes])

/-- Nothing subscribes to a pose with covariance. -/
private theorem not_inUse_amclPose : ¬ InUse snapshot overrides "amcl_pose" name := by
  rintro ⟨t, -, -, htype, hmem⟩
  rw [if_neg (by simp), mem_serverSubscriptions] at hmem
  simp only [keyTypes, poseWithCovType, List.mem_singleton] at htype
  simp [htype] at hmem

end InUse

/-! ### The comparison -/

section Comparison

variable {snapshot : GraphSnapshot} {overrides : CapabilityConfig} {safety : SafetyConfig N}

/-- The four capabilities one by one. -/
private theorem resolvedInUse_iff_rows :
    ResolvedInUse snapshot overrides safety ↔
      Resolves (inferDifferentialDriveMotion snapshot overrides safety) (InUse snapshot overrides) ∧
        Resolves (inferLocalization (N := N) snapshot) (InUse snapshot overrides) ∧
        Resolves (inferRangeSensing (N := N) snapshot overrides) (InUse snapshot overrides) ∧
        Resolves (inferVisualObservation (N := N) snapshot overrides) (InUse snapshot overrides) := by
  have hrow : ∀ row ∈ inferenceTable snapshot overrides safety,
      registryGet (infer snapshot overrides safety) row.1 = row.2 := fun row hrow => registryGet_infer hrow
  simp only [inferenceTable, List.forall_mem_cons, List.not_mem_nil, false_imp_iff, implies_true, and_true] at hrow
  obtain ⟨hmotion, -, hlocalization, hscan, himage, -⟩ := hrow
  simp only [ResolvedInUse, topicCapabilities, List.forall_mem_cons, List.not_mem_nil, false_imp_iff, implies_true,
    and_true, hmotion, hlocalization, hscan, himage]

private theorem motion_inUse_iff :
    Resolves (inferDifferentialDriveMotion snapshot overrides safety) (InUse snapshot overrides) ↔
      (overrides.motion.enabled = true →
        (∃ t ∈ topicsOfTypes snapshot twistTypes, t.name = overrides.motion.cmdVelTopic) →
        (∃ t ∈ topicsOfType snapshot odomType, t.name = overrides.motion.odomTopic) →
        ∃ t ∈ snapshot.topics, t.name = overrides.motion.cmdVelTopic ∧ t.typeName = "geometry_msgs/msg/Twist") ∧
      (overrides.motion.enabled = true →
        ∀ twist odom, topicsOfTypes snapshot twistTypes = [twist] → topicsOfType snapshot odomType = [odom] →
          twist.name = overrides.motion.cmdVelTopic ∧ odom.name = overrides.motion.odomTopic) := by
  rw [resolves_inferDifferentialDriveMotion_iff]
  simp only [inUse_cmdVel_iff, inUse_odom_iff, true_and]
  constructor
  · intro h
    refine ⟨fun henabled htwist hodom => ((h henabled).1 htwist hodom).1, ?_⟩
    intro henabled twist odom htwist hodom
    obtain ⟨⟨htwistName, -⟩, hodomName, -⟩ := (h henabled).2 twist odom htwist hodom
    exact ⟨htwistName, hodomName⟩
  · rintro ⟨hboth, hsole⟩ henabled
    have hodomTopic : (∃ t ∈ topicsOfType snapshot odomType, t.name = overrides.motion.odomTopic) →
        ∃ t ∈ snapshot.topics, t.name = overrides.motion.odomTopic ∧ t.typeName = odomType := by
      rintro ⟨t, ht, hname⟩
      obtain ⟨hmem, htype⟩ := mem_topicsOfType.1 ht
      exact ⟨t, hmem, hname, htype⟩
    refine ⟨fun htwist hodom => ⟨hboth henabled htwist hodom, hodomTopic hodom⟩, ?_⟩
    intro twist odom htwist hodom
    obtain ⟨htwistName, hodomName⟩ := hsole henabled twist odom htwist hodom
    -- the two only candidates have the configured names
    have htwistMem : ∃ t ∈ topicsOfTypes snapshot twistTypes, t.name = overrides.motion.cmdVelTopic :=
      ⟨twist, by simp [htwist], htwistName⟩
    have hodomMem : ∃ t ∈ topicsOfType snapshot odomType, t.name = overrides.motion.odomTopic :=
      ⟨odom, by simp [hodom], hodomName⟩
    rw [htwistName, hodomName]
    exact ⟨⟨rfl, hboth henabled htwistMem hodomMem⟩, rfl, hodomTopic hodomMem⟩

private theorem scan_inUse_iff :
    Resolves (inferRangeSensing (N := N) snapshot overrides) (InUse snapshot overrides) ↔
      ∀ only, topicsOfType snapshot laserScanType = [only] → only.name = overrides.lidarTopic := by
  unfold inferRangeSensing
  rw [resolves_single_iff]
  simp only [inUse_scan_iff, true_and]
  constructor
  · rintro ⟨-, h⟩ only honly
    exact (h only honly).1
  · intro h
    constructor
    · rintro ⟨t, ht, hname⟩
      obtain ⟨hmem, htype⟩ := mem_topicsOfType.1 ht
      exact ⟨t, hmem, hname, htype⟩
    · intro only honly
      have hmem : only ∈ topicsOfType snapshot laserScanType := by simp [honly]
      exact ⟨h only honly, only, (mem_topicsOfType.1 hmem).1, rfl, (mem_topicsOfType.1 hmem).2⟩

private theorem image_inUse_iff :
    Resolves (inferVisualObservation (N := N) snapshot overrides) (InUse snapshot overrides) ↔
      ((∃ t ∈ topicsOfTypes snapshot imageTypes, t.name = overrides.cameraImageTopic) →
        ∃ t ∈ snapshot.topics, t.name = overrides.cameraImageTopic ∧ t.typeName = "sensor_msgs/msg/Image") ∧
      ∀ only, topicsOfTypes snapshot imageTypes = [only] → only.name = overrides.cameraImageTopic := by
  unfold inferVisualObservation
  rw [resolves_single_iff]
  simp only [inUse_image_iff, true_and]
  refine and_congr_right ?_
  intro himage
  constructor
  · intro h only honly
    exact (h only honly).1
  · intro h only honly
    have hname := h only honly
    refine ⟨hname, ?_⟩
    rw [hname]
    exact himage ⟨only, by simp [honly], hname⟩

private theorem localization_inUse_iff :
    Resolves (inferLocalization (N := N) snapshot) (InUse snapshot overrides) ↔
      ∀ t ∈ snapshot.topics, t.typeName = poseWithCovType → t.name ≠ "/amcl_pose" := by
  rw [resolves_inferLocalization_iff]
  simp only [not_inUse_amclPose, imp_false, not_exists, not_and, mem_topicsOfType, and_imp]

/-- The resolved topics are the topics in use exactly when the graph is as configured. -/
theorem resolvedInUse_iff (snapshot : GraphSnapshot) (overrides : CapabilityConfig) (safety : SafetyConfig N) :
    ResolvedInUse snapshot overrides safety ↔ TopicsAsConfigured snapshot overrides := by
  rw [resolvedInUse_iff_rows, motion_inUse_iff, localization_inUse_iff, scan_inUse_iff, image_inUse_iff]
  constructor
  · rintro ⟨⟨htwist, hsoleMotion⟩, hpose, hscan, himage, hsoleImage⟩
    exact ⟨htwist, hsoleMotion, hscan, himage, hsoleImage, hpose⟩
  · rintro ⟨htwist, hsoleMotion, hscan, himage, hsoleImage, hpose⟩
    exact ⟨⟨htwist, hsoleMotion⟩, hpose, hscan, himage, hsoleImage⟩

/-- A graph in which AMCL publishes its pose. -/
def amclSnapshot : GraphSnapshot where
  snapshotVersion := 1
  nodes := [⟨"amcl", "/", ["/amcl_pose"], [], [], [], []⟩]
  topics := [⟨"/amcl_pose", poseWithCovType, ["/amcl"], [], []⟩]
  services := []
  actions := []
  tfFrames := []

/-- The localization of AMCL is resolved to a topic that nothing subscribes to. -/
theorem amclPose_not_inUse :
    ¬ ∀ (snapshot : GraphSnapshot) (overrides : CapabilityConfig) (safety : SafetyConfig ℚ),
      ResolvedInUse snapshot overrides safety := by
  intro h
  have hrows := resolvedInUse_iff_rows.1 (h amclSnapshot .defaults (.defaults id))
  have hpose := localization_inUse_iff.1 hrows.2.1
  exact hpose ⟨"/amcl_pose", poseWithCovType, ["/amcl"], [], []⟩ (by simp [amclSnapshot]) rfl rfl

end Comparison

end RosMcp
