import Mathlib.Data.Rat.Defs
import RosMcp.Validation.SchemaCheck

/-!
# The tool definitions (`mcp/schemas.py`)

The tools in the order of `TOOL_DEFINITIONS`, with the keys of their schemas that the checker reads.
-/

namespace RosMcp

/-- `McpToolSpec` -/
structure McpToolSpec (N : Type) where
  name : String
  inputSchema : Schema N
  commandClass : CommandClass

structure ToolDefinition (N : Type) where
  spec : McpToolSpec N
  operation : Operation
  requiredCapabilityId : Option String

variable {N : Type}

/-- `"type": "object"` with `"additionalProperties": False`. -/
def closedObject (properties : List (String × Schema N)) (required : List String := []) : Schema N :=
  { type := some .object, properties, required, additionalProperties := false }

def getCapabilitiesTool : ToolDefinition N where
  spec := ⟨"robot.get_capabilities", closedObject [], .read⟩
  operation := .getCapabilities
  requiredCapabilityId := none

def getStateTool : ToolDefinition N where
  spec := ⟨"robot.get_state", closedObject [("frame", { type := some .string })], .read⟩
  operation := .getState
  requiredCapabilityId := none

/-- The `enum` of `direction`. -/
def directionNames : List String := ["forward", "backward", "left", "right", "rotate_left", "rotate_right"]

def directionSchema : Schema N := { type := some .string, enum := some directionNames }

def distanceSchema : Schema N := { type := some .number, minimum := some (.int 0) }

def angleSchema : Schema N := { type := some .number, minimum := some (.int 0), maximum := some (.int 360) }

def timeoutSchema [RatCast N] : Schema N := { type := some .number, minimum := some (.float ((0.1 : ℚ) : N)) }

def moveTool [RatCast N] : ToolDefinition N where
  spec := ⟨"robot.move", closedObject [("direction", directionSchema), ("distance_m", distanceSchema),
    ("angle_deg", angleSchema), ("timeout_s", timeoutSchema)] ["direction"], .motion⟩
  operation := .move
  requiredCapabilityId := some "differential_drive_motion"

def stopTool : ToolDefinition N where
  spec := ⟨"robot.stop", closedObject [], .motion⟩
  operation := .stop
  requiredCapabilityId := some "differential_drive_motion"

def coordinateSchema : Schema N := { type := some .number }

def navigateTool : ToolDefinition N where
  spec := ⟨"robot.navigate", closedObject [("x", coordinateSchema), ("y", coordinateSchema),
    ("yaw", coordinateSchema), ("frame", { type := some .string })] ["x", "y"], .motion⟩
  operation := .navigate
  requiredCapabilityId := some "autonomous_navigation"

def getLaserScanTool : ToolDefinition N where
  spec := ⟨"robot.get_laser_scan", closedObject [("include_raw_ranges", { type := some .boolean })], .read⟩
  operation := .getLaserScan
  requiredCapabilityId := some "range_sensing"

def getCameraImageTool : ToolDefinition N where
  spec := ⟨"robot.get_camera_image",
    closedObject [("max_width_px", { type := some .integer, maximum := some (.int 1280) })], .read⟩
  operation := .getCameraImage
  requiredCapabilityId := some "visual_observation"

def detectObjectsTool : ToolDefinition N where
  spec := ⟨"robot.detect_objects",
    closedObject [("labels", { type := some .array, items := some { type := some .string } })], .read⟩
  operation := .detectObjects
  requiredCapabilityId := some "object_detection"

/-- What conforms to a closed object. -/
theorem conforms_closedObject [IntCast N] [LT N] {properties : List (String × Schema N)} {required : List String}
    {fields : List (String × Json N)} (hrequired : ∀ key ∈ required, (getKey fields key).isSome = true)
    (hfields : ∀ field ∈ fields, ∃ sub, getKey properties field.1 = some sub ∧ Conforms sub field.2) :
    Conforms (closedObject properties required) (.obj fields) := by
  constructor
  case type =>
    rintro t ⟨⟩
    rfl
  case required =>
    rintro _ - ⟨⟩
    exact hrequired
  case known =>
    rintro _ - ⟨⟩ key value hmem sub hsub
    obtain ⟨sub', hsub', hconforms⟩ := hfields (key, value) hmem
    obtain rfl : sub = sub' := Option.some.inj (hsub.symm.trans hsub')
    exact hconforms
  case additional =>
    rintro _ - ⟨⟩ key value hmem hnone
    obtain ⟨sub, hsub, -⟩ := hfields (key, value) hmem
    exact absurd (hnone.symm.trans hsub) (by simp)
  case maxItems | items | enum => rintro _ ⟨⟩
  case bounds => rintro (⟨⟨⟩⟩ | ⟨⟨⟩⟩)

/-- `TOOL_DEFINITIONS` -/
def toolDefinitions [RatCast N] : List (ToolDefinition N) :=
  [getCapabilitiesTool, getStateTool, moveTool, stopTool, navigateTool, getLaserScanTool, getCameraImageTool,
    detectObjectsTool]

/-- `TOOL_DEFINITIONS_BY_NAME.get` -/
def toolDefinition [RatCast N] (toolName : String) : Option (ToolDefinition N) :=
  toolDefinitions.find? fun d => d.spec.name == toolName

section Lookup

variable [RatCast N] {toolName : String} {d : ToolDefinition N}

/-- A definition found under a name is in the table, with that name. -/
theorem toolDefinition_eq_some (h : toolDefinition toolName = some d) : d ∈ toolDefinitions ∧ d.spec.name = toolName :=
  ⟨List.mem_of_find?_eq_some h, by simpa using List.find?_some h⟩

/-- Every name leads to its own definition. -/
theorem toolDefinition_name (h : d ∈ (toolDefinitions : List (ToolDefinition N))) :
    toolDefinition d.spec.name = some d := by
  simp only [toolDefinitions, List.mem_cons, List.not_mem_nil, or_false] at h
  rcases h with rfl | rfl | rfl | rfl | rfl | rfl | rfl | rfl <;> rfl

/-- The one tool that moves. -/
theorem eq_moveTool (h : d ∈ (toolDefinitions : List (ToolDefinition N))) (hop : d.operation = .move) :
    d = moveTool := by
  simp only [toolDefinitions, List.mem_cons, List.not_mem_nil, or_false] at h
  rcases h with rfl | rfl | rfl | rfl | rfl | rfl | rfl | rfl <;> first | rfl | cases hop

/-- The one tool that navigates. -/
theorem eq_navigateTool (h : d ∈ (toolDefinitions : List (ToolDefinition N))) (hop : d.operation = .navigate) :
    d = navigateTool := by
  simp only [toolDefinitions, List.mem_cons, List.not_mem_nil, or_false] at h
  rcases h with rfl | rfl | rfl | rfl | rfl | rfl | rfl | rfl <;> first | rfl | cases hop

end Lookup

end RosMcp
