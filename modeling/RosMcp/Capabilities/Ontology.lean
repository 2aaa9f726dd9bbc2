import Mathlib.Data.List.Nodup
import Mathlib.Data.List.ReduceOption
import RosMcp.Contracts.Discovery

/-!
# The capability ontology (`capabilities/ontology.py`, `inference.py`)

`infer` maps a graph snapshot and the capability settings to at most six entries, one for each capability id.  A
capability with several candidates and none at the configured name is `AMBIGUOUS`, and an ambiguous entry has no
resolved topics (`Inferred.resolved`): this is what every reader of the registry relies on.
-/

namespace RosMcp

variable {N : Type}

/-! ### The inference functions -/

/-- `_TWIST_TYPES` -/
def twistTypes : List String := ["geometry_msgs/msg/Twist", "geometry_msgs/msg/TwistStamped"]

/-- `_ODOM_TYPE` -/
def odomType : String := "nav_msgs/msg/Odometry"

/-- `_LASER_SCAN_TYPE` -/
def laserScanType : String := "sensor_msgs/msg/LaserScan"

/-- `_IMAGE_TYPES` -/
def imageTypes : List String := ["sensor_msgs/msg/Image", "sensor_msgs/msg/CompressedImage"]

/-- `_POSE_WITH_COV_TYPE` -/
def poseWithCovType : String := "geometry_msgs/msg/PoseWithCovarianceStamped"

/-- `_NAVIGATE_TO_POSE_TYPE` -/
def navigateToPoseType : String := "nav2_msgs/action/NavigateToPose"

/-- `_topics_of_type` -/
def topicsOfType (snapshot : GraphSnapshot) (typeName : String) : List TopicInfo :=
  snapshot.topics.filter fun t => t.typeName == typeName

/-- `_topics_of_types` -/
def topicsOfTypes (snapshot : GraphSnapshot) (typeNames : List String) : List TopicInfo :=
  snapshot.topics.filter fun t => typeNames.contains t.typeName

/-- `next((t for t in candidates if t.name == name), None)` -/
def topicNamed (candidates : List TopicInfo) (name : String) : Option TopicInfo :=
  candidates.find? fun t => t.name == name

/-- `_resolve_single_topic_capability`, which no caller gives `extra_limits`. -/
def resolveSingleTopicCapability (capabilityId backendId configuredName : String) (candidates : List TopicInfo)
    (resolvedKey : String) : Option (CapabilityEntry N) :=
  if candidates.isEmpty then none
  else
    match topicNamed candidates configuredName with
    | some exact => some ⟨capabilityId, .confirmed, some backendId, [(resolvedKey, exact.name)], []⟩
    | none =>
      match candidates with
      | [only] => some ⟨capabilityId, .likely, some backendId, [(resolvedKey, only.name)], []⟩
      | _ => some ⟨capabilityId, .ambiguous, some backendId, [], []⟩

/-- The confidence and the two names that `infer_differential_drive_motion` settles on. -/
def resolveMotionTopics (cfg : MotionCapabilityConfig) (twistCandidates odomCandidates : List TopicInfo) :
    Confidence × String × String :=
  match topicNamed twistCandidates cfg.cmdVelTopic, topicNamed odomCandidates cfg.odomTopic with
  | some cmdVelExact, some odomExact => (.confirmed, cmdVelExact.name, odomExact.name)
  | _, _ =>
    match twistCandidates, odomCandidates with
    | [twist], [odom] => (.likely, twist.name, odom.name)
    | _, _ => (.ambiguous, "", "")

/-- `infer_differential_drive_motion` -/
def inferDifferentialDriveMotion (snapshot : GraphSnapshot) (overrides : CapabilityConfig) (safety : SafetyConfig N) :
    Option (CapabilityEntry N) :=
  let cfg := overrides.motion
  let twistCandidates := topicsOfTypes snapshot twistTypes
  let odomCandidates := topicsOfType snapshot odomType
  if cfg.enabled = false then none
  else if twistCandidates.isEmpty ∨ odomCandidates.isEmpty then none
  else
    let (confidence, cmdVelName, odomName) := resolveMotionTopics cfg twistCandidates odomCandidates
    some {
      capabilityId := "differential_drive_motion"
      confidence
      backendId := some "cmd_vel"
      resolvedTopics := if confidence = .ambiguous then [] else [("cmd_vel", cmdVelName), ("odom", odomName)]
      limits := [("max_linear_mps", safety.maxLinearMps), ("max_angular_rps", safety.maxAngularRps),
        ("max_move_distance_m", safety.maxMoveDistanceM)] }

/-- The confidence and the action name that `infer_autonomous_navigation` settles on. -/
def resolveAction (cfg : NavigationCapabilityConfig) (matching : List ActionInfo) : Confidence × String :=
  match matching.find? fun a => a.name == cfg.actionName with
  | some exact => (.confirmed, exact.name)
  | none =>
    match matching with
    | [only] => (.likely, only.name)
    | _ => (.ambiguous, "")

/-- `infer_autonomous_navigation` -/
def inferAutonomousNavigation (snapshot : GraphSnapshot) (overrides : CapabilityConfig) (safety : SafetyConfig N) :
    Option (CapabilityEntry N) :=
  let cfg := overrides.navigation
  let matching := snapshot.actions.filter fun a => a.typeName == navigateToPoseType
  if cfg.enabled = false then none
  else if matching.isEmpty then none
  else
    let (confidence, actionName) := resolveAction cfg matching
    some {
      capabilityId := "autonomous_navigation"
      confidence
      backendId := some "nav2"
      resolvedTopics := if actionName = "" then [] else [("navigate_to_pose_action", actionName)]
      limits := [("max_navigation_distance_m", safety.maxNavigationDistanceM)] }

/-- `infer_localization` -/
def inferLocalization (snapshot : GraphSnapshot) : Option (CapabilityEntry N) :=
  match topicNamed (topicsOfType snapshot poseWithCovType) "/amcl_pose" with
  | some amclExact => some ⟨"localization", .confirmed, some "amcl", [("amcl_pose", amclExact.name)], []⟩
  | none =>
    if "map" ∈ snapshot.tfFrames ∧ 1 < snapshot.tfFrames.length then
      some ⟨"localization", .likely, some "tf", [], []⟩
    else none

/-- `infer_range_sensing` -/
def inferRangeSensing (snapshot : GraphSnapshot) (overrides : CapabilityConfig) : Option (CapabilityEntry N) :=
  resolveSingleTopicCapability "range_sensing" "laser_scan" overrides.lidarTopic
    (topicsOfType snapshot laserScanType) "scan"

/-- `infer_visual_observation` -/
def inferVisualObservation (snapshot : GraphSnapshot) (overrides : CapabilityConfig) : Option (CapabilityEntry N) :=
  resolveSingleTopicCapability "visual_observation" "camera" overrides.cameraImageTopic
    (topicsOfTypes snapshot imageTypes) "image"

/-- `infer_object_detection` -/
def inferObjectDetection (visualObservation : Option (CapabilityEntry N)) (overrides : CapabilityConfig) :
    Option (CapabilityEntry N) :=
  visualObservation.map fun visual =>
    ⟨"object_detection", visual.confidence, some overrides.objectDetectionBackend, visual.resolvedTopics, []⟩

/-- `DefaultCapabilityInferenceEngine.infer` -/
def infer (snapshot : GraphSnapshot) (overrides : CapabilityConfig) (safety : SafetyConfig N) :
    List (CapabilityEntry N) :=
  let visualObservation := inferVisualObservation snapshot overrides
  [inferDifferentialDriveMotion snapshot overrides safety, inferAutonomousNavigation snapshot overrides safety,
    inferLocalization snapshot, inferRangeSensing snapshot overrides, visualObservation,
    inferObjectDetection visualObservation overrides].reduceOption

/-! ### The rules on names -/

section Names

variable {snapshot : GraphSnapshot} {topics : List TopicInfo} {name : String}

theorem topicsOfType_eq (snapshot : GraphSnapshot) (typeName : String) :
    topicsOfType snapshot typeName = topicsOfTypes snapshot [typeName] := by
  simp only [topicsOfType, topicsOfTypes, List.contains_cons, List.contains_nil, Bool.or_false]

theorem mem_topicsOfType {typeName : String} {t : TopicInfo} :
    t ∈ topicsOfType snapshot typeName ↔ t ∈ snapshot.topics ∧ t.typeName = typeName := by
  simp [topicsOfType]

private theorem topicNamed_eq_none_iff : topicNamed topics name = none ↔ name ∉ topics.map TopicInfo.name := by
  simp [topicNamed]

private theorem topicNamed_eq_some {t : TopicInfo} (h : topicNamed topics name = some t) :
    name ∈ topics.map TopicInfo.name ∧ t.name = name := by
  have hname : t.name = name := by simpa using List.find?_some h
  exact ⟨List.mem_map.2 ⟨t, List.mem_of_find?_eq_some h, hname⟩, hname⟩

/-- The entry for a capability with a single topic, by the names of the candidates. -/
def singleTopicEntry (capabilityId backendId configuredName resolvedKey : String) (names : List String) :
    Option (CapabilityEntry N) :=
  if configuredName ∈ names then
    some ⟨capabilityId, .confirmed, some backendId, [(resolvedKey, configuredName)], []⟩
  else
    match names with
    | [] => none
    | [only] => some ⟨capabilityId, .likely, some backendId, [(resolvedKey, only)], []⟩
    | _ => some ⟨capabilityId, .ambiguous, some backendId, [], []⟩

theorem resolveSingleTopicCapability_eq (capabilityId backendId configuredName resolvedKey : String)
    (topics : List TopicInfo) :
    resolveSingleTopicCapability (N := N) capabilityId backendId configuredName topics resolvedKey =
      singleTopicEntry capabilityId backendId configuredName resolvedKey (topics.map TopicInfo.name) := by
  unfold resolveSingleTopicCapability singleTopicEntry
  cases hexact : topicNamed topics configuredName with
  | some exact =>
    obtain ⟨hmem, hname⟩ := topicNamed_eq_some hexact
    have hnonempty : ¬ topics.isEmpty = true := by
      rintro hempty
      rw [List.isEmpty_iff.1 hempty] at hmem
      cases hmem
    rw [if_neg hnonempty, if_pos hmem, ← hname]
  | none =>
    rw [if_neg (topicNamed_eq_none_iff.1 hexact)]
    rcases topics with _ | ⟨first, _ | ⟨second, rest⟩⟩
    · rfl
    · rfl
    · rfl

/-- What is left when a configured topic is missing: the only two candidates, if there are two. -/
def soleMotionTopics : List String → List String → Confidence × String × String
  | [twist], [odom] => (.likely, twist, odom)
  | _, _ => (.ambiguous, "", "")

private theorem resolveMotionTopics_of_none {cfg : MotionCapabilityConfig} {odoms : List TopicInfo}
    (h : topicNamed topics cfg.cmdVelTopic = none ∨ topicNamed odoms cfg.odomTopic = none) :
    resolveMotionTopics cfg topics odoms =
      soleMotionTopics (topics.map TopicInfo.name) (odoms.map TopicInfo.name) := by
  unfold resolveMotionTopics
  split
  · next he ho => simp [he, ho] at h
  · rcases topics with _ | ⟨twist, _ | ⟨twist', topics⟩⟩ <;> rcases odoms with _ | ⟨odom, _ | ⟨odom', odoms⟩⟩ <;> rfl

/-- An entry for the motion capability. -/
def motionEntry (safety : SafetyConfig N) (confidence : Confidence) (topics : List (String × String)) :
    CapabilityEntry N :=
  ⟨"differential_drive_motion", confidence, some "cmd_vel", topics, [("max_linear_mps", safety.maxLinearMps),
    ("max_angular_rps", safety.maxAngularRps), ("max_move_distance_m", safety.maxMoveDistanceM)]⟩

/-- The entry for an enabled motion capability, by the names of the candidates. -/
def motionTopicsEntry (cfg : MotionCapabilityConfig) (safety : SafetyConfig N) (twists odoms : List String) :
    Option (CapabilityEntry N) :=
  if cfg.cmdVelTopic ∈ twists ∧ cfg.odomTopic ∈ odoms then
    some (motionEntry safety .confirmed [("cmd_vel", cfg.cmdVelTopic), ("odom", cfg.odomTopic)])
  else
    match twists, odoms with
    | [], _ => none
    | _, [] => none
    | [twist], [odom] => some (motionEntry safety .likely [("cmd_vel", twist), ("odom", odom)])
    | _, _ => some (motionEntry safety .ambiguous [])

theorem inferDifferentialDriveMotion_eq (snapshot : GraphSnapshot) {overrides : CapabilityConfig}
    (safety : SafetyConfig N) (henabled : overrides.motion.enabled = true) :
    inferDifferentialDriveMotion snapshot overrides safety =
      motionTopicsEntry overrides.motion safety ((topicsOfTypes snapshot twistTypes).map TopicInfo.name)
        ((topicsOfType snapshot odomType).map TopicInfo.name) := by
  unfold inferDifferentialDriveMotion motionTopicsEntry
  dsimp only
  rw [if_neg (by simp [henabled])]
  generalize topicsOfTypes snapshot twistTypes = twists
  generalize topicsOfType snapshot odomType = odoms
  by_cases hconfigured : overrides.motion.cmdVelTopic ∈ twists.map TopicInfo.name ∧
      overrides.motion.odomTopic ∈ odoms.map TopicInfo.name
  · have hnonempty : ¬ (twists.isEmpty ∨ odoms.isEmpty) := by
      rintro (hempty | hempty)
      · rw [List.isEmpty_iff.1 hempty] at hconfigured
        cases hconfigured.1
      · rw [List.isEmpty_iff.1 hempty] at hconfigured
        cases hconfigured.2
    obtain ⟨twist, htwist⟩ := Option.ne_none_iff_exists'.1 (mt topicNamed_eq_none_iff.1 (not_not.2 hconfigured.1))
    obtain ⟨odom, hodom⟩ := Option.ne_none_iff_exists'.1 (mt topicNamed_eq_none_iff.1 (not_not.2 hconfigured.2))
    rw [if_neg hnonempty, if_pos hconfigured]
    simp [resolveMotionTopics, htwist, hodom, (topicNamed_eq_some htwist).2, (topicNamed_eq_some hodom).2, motionEntry]
  · have hnone : topicNamed twists overrides.motion.cmdVelTopic = none ∨
        topicNamed odoms overrides.motion.odomTopic = none := by
      rw [topicNamed_eq_none_iff, topicNamed_eq_none_iff]
      exact not_and_or.1 hconfigured
    rw [if_neg hconfigured, resolveMotionTopics_of_none hnone]
    rcases twists with _ | ⟨twist, _ | ⟨twist', twists⟩⟩ <;> rcases odoms with _ | ⟨odom, _ | ⟨odom', odoms⟩⟩ <;> rfl

theorem inferDifferentialDriveMotion_disabled (snapshot : GraphSnapshot) {overrides : CapabilityConfig}
    (safety : SafetyConfig N) (hdisabled : ¬ overrides.motion.enabled = true) :
    inferDifferentialDriveMotion snapshot overrides safety = none := by
  unfold inferDifferentialDriveMotion
  exact if_pos (Bool.not_eq_true _ ▸ hdisabled)

/-- The localization depends on whether there is AMCL's pose, and on the frames. -/
theorem inferLocalization_eq (snapshot : GraphSnapshot) :
    inferLocalization (N := N) snapshot =
      if "/amcl_pose" ∈ (topicsOfType snapshot poseWithCovType).map TopicInfo.name then
        some ⟨"localization", .confirmed, some "amcl", [("amcl_pose", "/amcl_pose")], []⟩
      else if "map" ∈ snapshot.tfFrames ∧ 1 < snapshot.tfFrames.length then
        some ⟨"localization", .likely, some "tf", [], []⟩
      else none := by
  unfold inferLocalization
  cases hexact : topicNamed (topicsOfType snapshot poseWithCovType) "/amcl_pose" with
  | some exact =>
    obtain ⟨hmem, hname⟩ := topicNamed_eq_some hexact
    rw [if_pos hmem]
    simp only [hname]
  | none => rw [if_neg (topicNamed_eq_none_iff.1 hexact)]

end Names

/-! ### One entry for each capability -/

/-- The six inferences, each with the id of its capability. -/
def inferenceTable (snapshot : GraphSnapshot) (overrides : CapabilityConfig) (safety : SafetyConfig N) :
    List (String × Option (CapabilityEntry N)) :=
  [("differential_drive_motion", inferDifferentialDriveMotion snapshot overrides safety),
    ("autonomous_navigation", inferAutonomousNavigation snapshot overrides safety),
    ("localization", inferLocalization snapshot),
    ("range_sensing", inferRangeSensing snapshot overrides),
    ("visual_observation", inferVisualObservation snapshot overrides),
    ("object_detection", inferObjectDetection (inferVisualObservation snapshot overrides) overrides)]

/-- What an inference for the capability `id` returns: an entry of that capability, without topics when ambiguous. -/
structure Inferred (id : String) (entry : Option (CapabilityEntry N)) : Prop where
  id : ∀ e, entry = some e → e.capabilityId = id
  resolved : ∀ e, entry = some e → e.confidence = .ambiguous → e.resolvedTopics = []

section Inferred

variable {snapshot : GraphSnapshot} {overrides : CapabilityConfig} {safety : SafetyConfig N}

private theorem Inferred.of_eq_some {id : String} {entry : Option (CapabilityEntry N)}
    (h : ∀ e, entry = some e → e.capabilityId = id ∧ (e.confidence = .ambiguous → e.resolvedTopics = [])) :
    Inferred id entry :=
  ⟨fun e he => (h e he).1, fun e he => (h e he).2⟩

private theorem resolveSingleTopicCapability_inferred (capabilityId backendId configuredName : String)
    (candidates : List TopicInfo) (resolvedKey : String) :
    Inferred capabilityId (resolveSingleTopicCapability (N := N) capabilityId backendId configuredName candidates
      resolvedKey) := by
  refine .of_eq_some ?_
  intro e he
  unfold resolveSingleTopicCapability at he
  split at he
  · cases he
  · split at he
    · obtain rfl := Option.some.inj he
      exact ⟨rfl, by rintro ⟨⟩⟩
    · split at he
      · obtain rfl := Option.some.inj he
        exact ⟨rfl, by rintro ⟨⟩⟩
      · obtain rfl := Option.some.inj he
        exact ⟨rfl, fun _ => rfl⟩

private theorem inferDifferentialDriveMotion_inferred :
    Inferred "differential_drive_motion" (inferDifferentialDriveMotion snapshot overrides safety) := by
  refine .of_eq_some ?_
  intro e he
  unfold inferDifferentialDriveMotion at he
  dsimp only at he
  split at he
  · cases he
  · split at he
    · cases he
    · obtain rfl := Option.some.inj he
      exact ⟨rfl, fun hambiguous => if_pos hambiguous⟩

/-- An ambiguous action has no name. -/
private theorem resolveAction_ambiguous {cfg : NavigationCapabilityConfig} {matching : List ActionInfo}
    (h : (resolveAction cfg matching).1 = .ambiguous) : (resolveAction cfg matching).2 = "" := by
  unfold resolveAction at h ⊢
  split at h
  · cases h
  · split at h
    · cases h
    · rfl

private theorem inferAutonomousNavigation_inferred :
    Inferred "autonomous_navigation" (inferAutonomousNavigation snapshot overrides safety) := by
  refine .of_eq_some ?_
  intro e he
  unfold inferAutonomousNavigation at he
  dsimp only at he
  split at he
  · cases he
  · split at he
    · cases he
    · obtain rfl := Option.some.inj he
      exact ⟨rfl, fun hambiguous => if_pos (resolveAction_ambiguous hambiguous)⟩

private theorem inferLocalization_inferred : Inferred "localization" (inferLocalization (N := N) snapshot) := by
  refine .of_eq_some ?_
  intro e he
  unfold inferLocalization at he
  split at he
  · obtain rfl := Option.some.inj he
    exact ⟨rfl, by rintro ⟨⟩⟩
  · split at he
    · obtain rfl := Option.some.inj he
      exact ⟨rfl, by rintro ⟨⟩⟩
    · cases he

private theorem inferVisualObservation_inferred :
    Inferred "visual_observation" (inferVisualObservation (N := N) snapshot overrides) :=
  resolveSingleTopicCapability_inferred _ _ _ _ _

private theorem inferObjectDetection_inferred {visual : Option (CapabilityEntry N)}
    (h : Inferred "visual_observation" visual) :
    Inferred "object_detection" (inferObjectDetection visual overrides) := by
  refine .of_eq_some ?_
  intro e he
  obtain ⟨e', he', rfl⟩ := Option.map_eq_some_iff.1 he
  exact ⟨rfl, h.resolved e' he'⟩

/-- Every row of the table holds what its inference should return. -/
theorem inferenceTable_inferred : ∀ row ∈ inferenceTable snapshot overrides safety, Inferred row.1 row.2 := by
  simp only [inferenceTable, List.forall_mem_cons, List.not_mem_nil, false_imp_iff, implies_true, and_true]
  exact ⟨inferDifferentialDriveMotion_inferred, inferAutonomousNavigation_inferred, inferLocalization_inferred,
    resolveSingleTopicCapability_inferred _ _ _ _ _, inferVisualObservation_inferred,
    inferObjectDetection_inferred inferVisualObservation_inferred⟩

/-- A row of another capability does not answer for `id`. -/
private theorem registryGet_cons_ne {id id' : String} {entry : Option (CapabilityEntry N)}
    {entries : List (Option (CapabilityEntry N))} (h : Inferred id' entry) (hne : id' ≠ id) :
    registryGet (entry :: entries).reduceOption id = registryGet entries.reduceOption id := by
  cases entry with
  | none => rw [List.reduceOption_cons_of_none]
  | some e =>
    have hid : e.capabilityId ≠ id := by
      rw [h.id e rfl]
      exact hne
    rw [List.reduceOption_cons_of_some]
    unfold registryGet
    rw [List.find?_cons_of_neg (by simpa using hid)]

/-- No entry answers for an id without a row. -/
private theorem registryGet_of_notMem {rows : List (String × Option (CapabilityEntry N))}
    (hrows : ∀ row ∈ rows, Inferred row.1 row.2) {id : String} (hid : id ∉ rows.map Prod.fst) :
    registryGet (rows.map Prod.snd).reduceOption id = none := by
  induction rows with
  | nil => rfl
  | cons row rows ih =>
    rw [List.map_cons, List.mem_cons, not_or] at hid
    rw [List.map_cons, registryGet_cons_ne (hrows row List.mem_cons_self) (Ne.symm hid.1)]
    exact ih (fun row hrow => hrows row (List.mem_cons_of_mem _ hrow)) hid.2

/-- The registry returns the entry of an id out of a table with distinct ids. -/
private theorem registryGet_reduceOption {table : List (String × Option (CapabilityEntry N))}
    (hids : (table.map Prod.fst).Nodup) (htable : ∀ row ∈ table, Inferred row.1 row.2)
    {row : String × Option (CapabilityEntry N)} (hrow : row ∈ table) :
    registryGet (table.map Prod.snd).reduceOption row.1 = row.2 := by
  induction table with
  | nil => cases hrow
  | cons r table ih =>
    rw [List.map_cons, List.nodup_cons] at hids
    have htail : ∀ row ∈ table, Inferred row.1 row.2 := fun row hrow => htable row (List.mem_cons_of_mem _ hrow)
    rcases List.mem_cons.1 hrow with rfl | hrow
    · rw [List.map_cons]
      cases hentry : row.2 with
      | none =>
        rw [List.reduceOption_cons_of_none]
        exact registryGet_of_notMem htail hids.1
      | some e =>
        have hid : e.capabilityId = row.1 := (htable row List.mem_cons_self).id e hentry
        rw [List.reduceOption_cons_of_some]
        unfold registryGet
        rw [List.find?_cons_of_pos (by simpa using hid)]
    · have hne : r.1 ≠ row.1 := by
        intro heq
        apply hids.1
        rw [heq]
        exact List.mem_map_of_mem hrow
      rw [List.map_cons, registryGet_cons_ne (htable r List.mem_cons_self) hne]
      exact ih hids.2 htail hrow

private theorem inferenceTable_ids : ((inferenceTable snapshot overrides safety).map Prod.fst).Nodup := by
  simp [inferenceTable]

/-- The registry that holds the inferred entries answers each id with its own inference. -/
theorem registryGet_infer {row : String × Option (CapabilityEntry N)}
    (hrow : row ∈ inferenceTable snapshot overrides safety) :
    registryGet (infer snapshot overrides safety) row.1 = row.2 :=
  registryGet_reduceOption inferenceTable_ids inferenceTable_inferred hrow

/-- The ids of the entries are among the ids of the rows, in the same order. -/
private theorem reduceOption_ids_sublist {rows : List (String × Option (CapabilityEntry N))}
    (hrows : ∀ row ∈ rows, Inferred row.1 row.2) :
    ((rows.map Prod.snd).reduceOption.map CapabilityEntry.capabilityId).Sublist (rows.map Prod.fst) := by
  induction rows with
  | nil => exact List.Sublist.refl _
  | cons row rows ih =>
    have htail := ih fun row hrow => hrows row (List.mem_cons_of_mem _ hrow)
    rw [List.map_cons, List.map_cons]
    cases hentry : row.2 with
    | none =>
      rw [List.reduceOption_cons_of_none]
      exact htail.cons row.1
    | some e =>
      rw [List.reduceOption_cons_of_some, List.map_cons, (hrows row List.mem_cons_self).id e hentry]
      exact htail.cons_cons row.1

/-- The ids of the inferred entries are distinct. -/
theorem infer_nodup : ((infer snapshot overrides safety).map CapabilityEntry.capabilityId).Nodup := by
  have htable : (infer snapshot overrides safety).map CapabilityEntry.capabilityId =
      (((inferenceTable snapshot overrides safety).map Prod.snd).reduceOption.map CapabilityEntry.capabilityId) := rfl
  rw [htable]
  exact (reduceOption_ids_sublist inferenceTable_inferred).nodup inferenceTable_ids

end Inferred

/-- Among entries with distinct ids an id is answered by the entry that has it. -/
theorem registryGet_eq_some_iff {entries : List (CapabilityEntry N)}
    (h : (entries.map CapabilityEntry.capabilityId).Nodup) {id : String} {e : CapabilityEntry N} :
    registryGet entries id = some e ↔ e ∈ entries ∧ e.capabilityId = id := by
  induction entries with
  | nil => simp [registryGet]
  | cons a entries ih =>
    rw [List.map_cons, List.nodup_cons] at h
    by_cases ha : a.capabilityId = id
    · have hfind : registryGet (a :: entries) id = some a := by
        unfold registryGet
        rw [List.find?_cons_of_pos (by simpa using ha)]
      rw [hfind]
      constructor
      · intro he
        obtain rfl := Option.some.inj he
        exact ⟨List.mem_cons_self, ha⟩
      · rintro ⟨hmem, he⟩
        rcases List.mem_cons.1 hmem with rfl | hmem
        · rfl
        · refine absurd ?_ h.1
          rw [ha, ← he]
          exact List.mem_map_of_mem hmem
    · have hfind : registryGet (a :: entries) id = registryGet entries id := by
        unfold registryGet
        rw [List.find?_cons_of_neg (by simpa using ha)]
      rw [hfind, ih h.2]
      constructor
      · rintro ⟨hmem, he⟩
        exact ⟨List.mem_cons_of_mem _ hmem, he⟩
      · rintro ⟨hmem, he⟩
        rcases List.mem_cons.1 hmem with rfl | hmem
        · exact absurd he ha
        · exact ⟨hmem, he⟩

/-- Among entries with distinct ids it does not matter from which end an id is looked up. -/
theorem registryGet_reverse {entries : List (CapabilityEntry N)}
    (h : (entries.map CapabilityEntry.capabilityId).Nodup) (id : String) :
    registryGet entries.reverse id = registryGet entries id := by
  have hreverse : (entries.reverse.map CapabilityEntry.capabilityId).Nodup := by
    rw [List.map_reverse]
    exact List.nodup_reverse.2 h
  ext e
  rw [registryGet_eq_some_iff hreverse, registryGet_eq_some_iff h, List.mem_reverse]

end RosMcp
