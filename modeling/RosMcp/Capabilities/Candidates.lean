import RosMcp.Capabilities.Ontology
import RosMcp.Discovery.Snapshot

/-!
# What inference depends on

Inference looks at a snapshot only through the names of the topics of a few types (`candidates`), through the navigation
actions, in whatever order they come, and through the frames.  In a collected snapshot the candidates are strictly
sorted, so they are the same list as soon as they are the same set (`candidates_collect_congr`).
-/

namespace RosMcp

variable {N : Type}

/-- The names of the topics of some types, in their order. -/
def candidates (snapshot : GraphSnapshot) (typeNames : List String) : List String :=
  (topicsOfTypes snapshot typeNames).map TopicInfo.name

/-! ### The whole inference -/

section Infer

variable {snapshot snapshot' : GraphSnapshot}

theorem inferDifferentialDriveMotion_candidates (snapshot : GraphSnapshot) {overrides : CapabilityConfig}
    (safety : SafetyConfig N) (henabled : overrides.motion.enabled = true) :
    inferDifferentialDriveMotion snapshot overrides safety =
      motionTopicsEntry overrides.motion safety (candidates snapshot twistTypes) (candidates snapshot [odomType]) := by
  rw [inferDifferentialDriveMotion_eq snapshot safety henabled, topicsOfType_eq, candidates, candidates]

theorem inferRangeSensing_candidates (snapshot : GraphSnapshot) (overrides : CapabilityConfig) :
    inferRangeSensing (N := N) snapshot overrides =
      singleTopicEntry "range_sensing" "laser_scan" overrides.lidarTopic "scan"
        (candidates snapshot [laserScanType]) := by
  rw [inferRangeSensing, resolveSingleTopicCapability_eq, topicsOfType_eq, candidates]

theorem inferVisualObservation_candidates (snapshot : GraphSnapshot) (overrides : CapabilityConfig) :
    inferVisualObservation (N := N) snapshot overrides =
      singleTopicEntry "visual_observation" "camera" overrides.cameraImageTopic "image"
        (candidates snapshot imageTypes) := by
  rw [inferVisualObservation, resolveSingleTopicCapability_eq, candidates]

theorem inferDifferentialDriveMotion_congr (overrides : CapabilityConfig) (safety : SafetyConfig N)
    (htwist : candidates snapshot twistTypes = candidates snapshot' twistTypes)
    (hodom : candidates snapshot [odomType] = candidates snapshot' [odomType]) :
    inferDifferentialDriveMotion snapshot overrides safety =
      inferDifferentialDriveMotion snapshot' overrides safety := by
  by_cases henabled : overrides.motion.enabled = true
  · rw [inferDifferentialDriveMotion_candidates snapshot safety henabled,
      inferDifferentialDriveMotion_candidates snapshot' safety henabled, htwist, hodom]
  · rw [inferDifferentialDriveMotion_disabled snapshot safety henabled,
      inferDifferentialDriveMotion_disabled snapshot' safety henabled]

theorem inferRangeSensing_congr (overrides : CapabilityConfig)
    (h : candidates snapshot [laserScanType] = candidates snapshot' [laserScanType]) :
    inferRangeSensing (N := N) snapshot overrides = inferRangeSensing snapshot' overrides := by
  rw [inferRangeSensing_candidates, inferRangeSensing_candidates, h]

theorem inferVisualObservation_congr (overrides : CapabilityConfig)
    (h : candidates snapshot imageTypes = candidates snapshot' imageTypes) :
    inferVisualObservation (N := N) snapshot overrides = inferVisualObservation snapshot' overrides := by
  rw [inferVisualObservation_candidates, inferVisualObservation_candidates, h]

/-- The localization depends on whether AMCL's pose is a candidate, and on the frames. -/
theorem inferLocalization_congr
    (hpose : "/amcl_pose" ∈ candidates snapshot [poseWithCovType] ↔
      "/amcl_pose" ∈ candidates snapshot' [poseWithCovType])
    (hframes : snapshot.tfFrames = snapshot'.tfFrames) :
    inferLocalization (N := N) snapshot = inferLocalization snapshot' := by
  unfold candidates at hpose
  simp only [inferLocalization_eq, topicsOfType_eq, hpose, hframes]

/-- The order of the actions does not matter. -/
private theorem resolveAction_perm (cfg : NavigationCapabilityConfig) {actions actions' : List ActionInfo}
    (h : actions.Perm actions') : resolveAction cfg actions = resolveAction cfg actions' := by
  unfold resolveAction
  cases ha : actions.find? fun a => a.name == cfg.actionName with
  | some a =>
    have hname : a.name = cfg.actionName := by simpa using List.find?_some ha
    cases ha' : actions'.find? fun a => a.name == cfg.actionName with
    | none =>
      have hmem : a ∈ actions' := h.mem_iff.1 (List.mem_of_find?_eq_some ha)
      exact absurd hname (by simpa using List.find?_eq_none.1 ha' a hmem)
    | some a' =>
      have hname' : a'.name = cfg.actionName := by simpa using List.find?_some ha'
      simp only [hname, hname']
  | none =>
    have ha' : (actions'.find? fun a => a.name == cfg.actionName) = none := by
      rw [List.find?_eq_none] at ha ⊢
      exact fun a hmem => ha a (h.mem_iff.2 hmem)
    rw [ha']
    match actions, actions', h with
    | [], [], _ => rfl
    | [a], [a'], h =>
      obtain rfl : a = a' := by simpa using h
      rfl
    | _ :: _ :: _, _ :: _ :: _, _ => rfl
    | [], _ :: _, h | _ :: _, [], h | [_], _ :: _ :: _, h | _ :: _ :: _, [_], h => simpa using h.length_eq

theorem inferAutonomousNavigation_perm (overrides : CapabilityConfig) (safety : SafetyConfig N)
    (h : snapshot.actions.Perm snapshot'.actions) :
    inferAutonomousNavigation snapshot overrides safety = inferAutonomousNavigation snapshot' overrides safety := by
  have hmatching := h.filter fun a => a.typeName == navigateToPoseType
  unfold inferAutonomousNavigation
  dsimp only
  rw [resolveAction_perm overrides.navigation hmatching, hmatching.isEmpty_eq]

/-- The inferences that look at the graph have the same results. -/
structure SameInferences (snapshot snapshot' : GraphSnapshot) (overrides : CapabilityConfig)
    (safety : SafetyConfig N) : Prop where
  motion : inferDifferentialDriveMotion snapshot overrides safety =
    inferDifferentialDriveMotion snapshot' overrides safety
  navigation : inferAutonomousNavigation snapshot overrides safety =
    inferAutonomousNavigation snapshot' overrides safety
  localization : inferLocalization (N := N) snapshot = inferLocalization snapshot'
  scan : inferRangeSensing (N := N) snapshot overrides = inferRangeSensing snapshot' overrides
  image : inferVisualObservation (N := N) snapshot overrides = inferVisualObservation snapshot' overrides

/-- The entries tell apart what the single inferences tell apart. -/
theorem infer_eq_iff {overrides : CapabilityConfig} {safety : SafetyConfig N} :
    infer snapshot overrides safety = infer snapshot' overrides safety ↔
      SameInferences snapshot snapshot' overrides safety := by
  constructor
  · intro h
    have hrow : ∀ s, ∀ row ∈ inferenceTable s overrides safety,
        registryGet (infer s overrides safety) row.1 = row.2 := fun s row hrow => registryGet_infer hrow
    simp only [inferenceTable, List.forall_mem_cons, List.not_mem_nil, false_imp_iff, implies_true, and_true] at hrow
    obtain ⟨hmotion, hnavigation, hlocalization, hscan, himage, -⟩ := hrow snapshot
    obtain ⟨hmotion', hnavigation', hlocalization', hscan', himage', -⟩ := hrow snapshot'
    exact ⟨by rw [← hmotion, h, hmotion'], by rw [← hnavigation, h, hnavigation'],
      by rw [← hlocalization, h, hlocalization'], by rw [← hscan, h, hscan'], by rw [← himage, h, himage']⟩
  · rintro ⟨hmotion, hnavigation, hlocalization, hscan, himage⟩
    unfold infer
    rw [hmotion, hnavigation, hlocalization, hscan, himage]

end Infer

/-! ### Confirmed capabilities -/

/-- An inference has confirmed its capability. -/
def Confirmed (entry : Option (CapabilityEntry N)) : Prop := ∃ e, entry = some e ∧ e.confidence = .confirmed

section Confirmed

variable {snapshot : GraphSnapshot} {overrides : CapabilityConfig} {safety : SafetyConfig N}

/-- A capability with a single topic is confirmed when the configured topic is a candidate. -/
theorem confirmed_single_iff {capabilityId backendId configuredName resolvedKey : String} {names : List String} :
    Confirmed (singleTopicEntry (N := N) capabilityId backendId configuredName resolvedKey names) ↔
      configuredName ∈ names := by
  unfold Confirmed singleTopicEntry
  by_cases hconfigured : configuredName ∈ names
  · simp [hconfigured]
  · rw [if_neg hconfigured]
    rcases names with _ | ⟨first, _ | ⟨second, rest⟩⟩
    · simp
    · simpa using hconfigured
    · simpa using hconfigured

theorem confirmed_scan_iff :
    Confirmed (inferRangeSensing (N := N) snapshot overrides) ↔
      overrides.lidarTopic ∈ candidates snapshot [laserScanType] := by
  rw [inferRangeSensing_candidates]
  exact confirmed_single_iff

theorem confirmed_image_iff :
    Confirmed (inferVisualObservation (N := N) snapshot overrides) ↔
      overrides.cameraImageTopic ∈ candidates snapshot imageTypes := by
  rw [inferVisualObservation_candidates]
  exact confirmed_single_iff

theorem confirmed_localization_iff :
    Confirmed (inferLocalization (N := N) snapshot) ↔ "/amcl_pose" ∈ candidates snapshot [poseWithCovType] := by
  unfold Confirmed candidates
  rw [inferLocalization_eq, topicsOfType_eq]
  by_cases hpose : "/amcl_pose" ∈ (topicsOfTypes snapshot [poseWithCovType]).map TopicInfo.name
  · rw [if_pos hpose]
    simp [hpose]
  · rw [if_neg hpose]
    split
    · simpa using hpose
    · simpa using hpose

/-- An enabled motion capability is confirmed when both configured topics are candidates. -/
theorem confirmed_motion_iff :
    Confirmed (inferDifferentialDriveMotion snapshot overrides safety) ↔
      overrides.motion.enabled = true ∧ overrides.motion.cmdVelTopic ∈ candidates snapshot twistTypes ∧
        overrides.motion.odomTopic ∈ candidates snapshot [odomType] := by
  unfold Confirmed
  by_cases henabled : overrides.motion.enabled = true
  · rw [inferDifferentialDriveMotion_candidates snapshot safety henabled, and_iff_right henabled]
    unfold motionTopicsEntry
    by_cases hconfigured : overrides.motion.cmdVelTopic ∈ candidates snapshot twistTypes ∧
        overrides.motion.odomTopic ∈ candidates snapshot [odomType]
    · rw [if_pos hconfigured]
      simp [motionEntry, hconfigured]
    · rw [if_neg hconfigured]
      split <;> simpa [motionEntry] using hconfigured
  · rw [inferDifferentialDriveMotion_disabled snapshot safety henabled]
    simp [henabled]

end Confirmed

/-! ### The candidates of a collected snapshot -/

/-- Some endpoint names the topic, and the first of them with one of the types. -/
def Shows (nodes : List GraphNode) (typeNames : List String) (topic : String) : Prop :=
  ∃ typeName ∈ typeNames, topicType nodes topic = some typeName

section Collect

variable {graph graph' : RosGraph} {version version' : Nat} {typeNames : List String}

theorem mem_candidates_collect {topic : String} :
    topic ∈ candidates (collectGraphSnapshot graph version) typeNames ↔ Shows graph.nodes typeNames topic := by
  unfold candidates Shows
  simp only [← @mem_collect_topics graph version, List.mem_map]
  simp only [topicsOfTypes, List.mem_filter, List.contains_iff_mem]
  constructor
  · rintro ⟨t, ⟨ht, htype⟩, rfl⟩
    exact ⟨t.typeName, htype, t, ht, rfl, rfl⟩
  · rintro ⟨typeName, htype, t, ht, rfl, rfl⟩
    exact ⟨t, ⟨ht, htype⟩, rfl⟩

theorem pairwise_candidates_collect :
    (candidates (collectGraphSnapshot graph version) typeNames).Pairwise (· < ·) :=
  pairwise_collect_topics.sublist (List.filter_sublist.map _)

/-- Two walks that show the same topics of some types have the same candidates. -/
theorem candidates_collect_congr (h : ∀ topic, Shows graph.nodes typeNames topic ↔ Shows graph'.nodes typeNames topic) :
    candidates (collectGraphSnapshot graph version) typeNames =
      candidates (collectGraphSnapshot graph' version') typeNames := by
  refine eq_of_pairwise_lt pairwise_candidates_collect pairwise_candidates_collect ?_
  intro topic
  rw [mem_candidates_collect, mem_candidates_collect]
  exact h topic

end Collect

end RosMcp
