import RosMcp.Capabilities.Ontology
import RosMcp.Mcp.ToolProvider

/-!
# Listed tools and selected backends

The tool provider and the planner derive from one registry what can be done, each by its own rule.  For `robot.move`
the two rules are the same.  For `robot.navigate` the planner asks for the localization as well, which is not part of
the rule of the tool list: a robot with a navigation stack and without a localization lists the tool, and its calls find
no backend (`selectBackend_navigate_iff`).
-/

namespace RosMcp

variable {N : Type}

/-- `Nav2NavigationPlugin.is_available` -/
def nav2IsAvailable (registry : List (CapabilityEntry N)) : Bool :=
  !missingOrAmbiguous (registryGet registry "autonomous_navigation")

/-- The planner of the server, which has both backends. -/
def serverBackends (registry : List (CapabilityEntry N)) : PlannerBackends := ⟨true, true, nav2IsAvailable registry⟩

/-- `current_tools` has a tool of this name. -/
def ToolListed [RatCast N] (toolName : String) (registry : List (CapabilityEntry N)) : Prop :=
  ∃ spec ∈ currentTools registry, spec.name = toolName

section Listed

variable [RatCast N] {snapshot : GraphSnapshot} {overrides : CapabilityConfig} {safety : SafetyConfig N}

/-- A tool that requires a capability is listed when the registry holds it, and not as ambiguous. -/
theorem toolListed_iff {definition : ToolDefinition N} {capabilityId : String} (h : definition ∈ toolDefinitions)
    (hrequired : definition.requiredCapabilityId = some capabilityId) :
    ToolListed definition.spec.name (infer snapshot overrides safety) ↔
      missingOrAmbiguous (registryGet (infer snapshot overrides safety) capabilityId) = false := by
  unfold ToolListed
  rw [named_mem_currentTools_iff h]
  unfold ToolDefinition.listed
  rw [hrequired]
  dsimp only
  rw [entryById, registryGet_reverse infer_nodup, Bool.not_eq_true']

end Listed

/-- The planner has the motion backend for a MOVE unless the capability is missing or ambiguous. -/
theorem selectBackend_move_iff {registry : List (CapabilityEntry N)} :
    (selectBackend (serverBackends registry) .move registry).isSome = true ↔
      missingOrAmbiguous (registryGet registry "differential_drive_motion") = false := by
  unfold selectBackend serverBackends
  cases missingOrAmbiguous (registryGet registry "differential_drive_motion") <;> simp

/-- The planner has the navigation backend for a NAVIGATE unless the navigation is missing or ambiguous or the
localization is missing. -/
theorem selectBackend_navigate_iff {registry : List (CapabilityEntry N)} :
    (selectBackend (serverBackends registry) .navigate registry).isSome = true ↔
      missingOrAmbiguous (registryGet registry "autonomous_navigation") = false ∧
        (registryGet registry "localization").isSome = true := by
  unfold selectBackend serverBackends nav2IsAvailable
  cases missingOrAmbiguous (registryGet registry "autonomous_navigation") <;>
    cases registryGet registry "localization" <;> simp

/-! ### The two rules compared -/

/-- A MOVE has a backend exactly when `robot.move` is listed; a NAVIGATE has one exactly when `robot.navigate` is listed
and the graph shows a localization. -/
theorem listed_iff_selectBackend [RatCast N] (snapshot : GraphSnapshot) (overrides : CapabilityConfig)
    (safety : SafetyConfig N) :
    (ToolListed "robot.move" (infer snapshot overrides safety) ↔
      (selectBackend (serverBackends (infer snapshot overrides safety)) .move
        (infer snapshot overrides safety)).isSome = true) ∧
    ((selectBackend (serverBackends (infer snapshot overrides safety)) .navigate
        (infer snapshot overrides safety)).isSome = true ↔
      ToolListed "robot.navigate" (infer snapshot overrides safety) ∧
        (inferLocalization (N := N) snapshot).isSome = true) := by
  have hmove : (moveTool : ToolDefinition N) ∈ toolDefinitions := by simp [toolDefinitions]
  have hnavigate : (navigateTool : ToolDefinition N) ∈ toolDefinitions := by simp [toolDefinitions]
  have hrow : ("localization", inferLocalization snapshot) ∈ inferenceTable snapshot overrides safety := by
    simp [inferenceTable]
  have hlocalization : registryGet (infer snapshot overrides safety) "localization" = inferLocalization snapshot :=
    registryGet_infer hrow
  constructor
  · rw [selectBackend_move_iff]
    exact toolListed_iff hmove rfl
  · rw [selectBackend_navigate_iff, hlocalization]
    exact and_congr_left' (toolListed_iff hnavigate rfl).symm

/-- A graph with a navigation server and nothing else. -/
def unlocalizedSnapshot : GraphSnapshot where
  snapshotVersion := 1
  nodes := [⟨"bt_navigator", "/", [], [], [], [], ["/navigate_to_pose"]⟩]
  topics := []
  services := []
  actions := [⟨"/navigate_to_pose", navigateToPoseType⟩]
  tfFrames := []

/-- Without a localization `robot.navigate` is listed all the same, and the planner has no backend for it. -/
theorem navigate_listed_without_backend :
    ¬ ∀ (snapshot : GraphSnapshot) (overrides : CapabilityConfig) (safety : SafetyConfig ℚ),
      (ToolListed "robot.move" (infer snapshot overrides safety) ↔
        (selectBackend (serverBackends (infer snapshot overrides safety)) .move
          (infer snapshot overrides safety)).isSome = true) ∧
      (ToolListed "robot.navigate" (infer snapshot overrides safety) ↔
        (selectBackend (serverBackends (infer snapshot overrides safety)) .navigate
          (infer snapshot overrides safety)).isSome = true) := by
  intro h
  have hnavigate : (navigateTool : ToolDefinition ℚ) ∈ toolDefinitions := by simp [toolDefinitions]
  have hiff := (h unlocalizedSnapshot .defaults (.defaults id)).2
  have hlisted : ToolListed "robot.navigate" (infer unlocalizedSnapshot .defaults (SafetyConfig.defaults id)) :=
    (toolListed_iff hnavigate rfl).2 (by decide)
  have hnone : (selectBackend (serverBackends (infer unlocalizedSnapshot .defaults (SafetyConfig.defaults id)))
      .navigate (infer unlocalizedSnapshot .defaults (SafetyConfig.defaults id))).isSome = false := by decide
  rw [hiff, hnone] at hlisted
  cases hlisted

end RosMcp
