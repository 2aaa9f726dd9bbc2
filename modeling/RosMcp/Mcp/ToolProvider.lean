import RosMcp.Commands.Factory
import RosMcp.Contracts.Results
import RosMcp.Execution.Planner
import RosMcp.Validation.Engine

/-!
# The tool provider (`mcp/tool_provider.py`)

`currentTools` lists the tools without a required capability and those whose capability is registered and not
ambiguous; `handleCall` does not look at that list.
`handleCall` is `handle_call` up to its one await: it returns a result itself, raises, or submits a command, whose
result it then returns.  The command id and the creation time are those that the command factory draws.
-/

namespace RosMcp

/-- What `__init__` is given, as far as `handle_call` reads it; `factoryRobotId` is the one of the command factory. -/
structure ToolProvider (N : Type) where
  robotId : String
  factoryRobotId : String
  safety : SafetyConfig N
  timeouts : TimeoutConfig N

section CurrentTools

variable {N : Type}

/-- `entries_by_id.get(capability_id)`: of two entries with one id the later one is kept. -/
def entryById (entries : List (CapabilityEntry N)) (capabilityId : String) : Option (CapabilityEntry N) :=
  registryGet entries.reverse capabilityId

/-- The condition under which `current_tools` lists a tool. -/
def ToolDefinition.listed (definition : ToolDefinition N) (entries : List (CapabilityEntry N)) : Bool :=
  match definition.requiredCapabilityId with
  | none => true
  | some capabilityId => !missingOrAmbiguous (entryById entries capabilityId)

/-- `DefaultToolProvider.current_tools`, for the current entries of the registry. -/
def currentTools [RatCast N] (entries : List (CapabilityEntry N)) : List (McpToolSpec N) :=
  (toolDefinitions.filter fun definition => definition.listed entries).map ToolDefinition.spec

/-- A tool is found in the list under its name exactly when its own condition is met. -/
theorem named_mem_currentTools_iff [RatCast N] {entries : List (CapabilityEntry N)} {definition : ToolDefinition N}
    (h : definition ∈ toolDefinitions) :
    (∃ spec ∈ currentTools entries, spec.name = definition.spec.name) ↔ definition.listed entries = true := by
  unfold currentTools
  constructor
  · rintro ⟨spec, hspec, hname⟩
    obtain ⟨other, hother, rfl⟩ := List.mem_map.1 hspec
    obtain ⟨hmem, hlisted⟩ := List.mem_filter.1 hother
    -- the names of the tools are distinct
    have hsame : some other = some definition := by
      rw [← toolDefinition_name hmem, ← toolDefinition_name h, hname]
    obtain rfl := Option.some.inj hsame
    exact hlisted
  · intro hlisted
    exact ⟨definition.spec, List.mem_map_of_mem (List.mem_filter.2 ⟨h, hlisted⟩), rfl⟩

end CurrentTools

inductive HandledCall (N : Type)
  | returned (result : ToolResult N)
  | submitted (command : SemanticCommand N)

variable {N : Type} [IntCast N] [RatCast N] [LT N] [DecidableLT N]

/-- `DefaultToolProvider.handle_call` -/
def handleCall (provider : ToolProvider N) (commandId : String) (createdAt : N) (toolName : String)
    (arguments : List (String × Json N)) (sessionId : String) : Except PyException (HandledCall N) :=
  match (toolDefinition toolName : Option (ToolDefinition N)) with
  | none =>
    .ok (.returned
      { status := .failed
        commandId := ""
        robotId := provider.robotId
        durationSec := ((0 : ℤ) : N)
        error := some ⟨.invalidArgument, [.text "unknown tool '", .text toolName, .text "'"], []⟩
        fields := .base })
  | some definition =>
    match validate toolName arguments with
    | .error exc => .error exc
    | .ok ⟨false, none⟩ => .error ⟨.assertionError, ""⟩
    | .ok ⟨false, some error⟩ =>
      match resultTypeByOperation definition.operation with
      | none => .error (keyError definition.operation.value)
      | some expectedResultType =>
        .ok (.returned (buildErrorResult expectedResultType "" provider.robotId ((0 : ℤ) : N) error))
    | .ok ⟨true, _⟩ =>
      (create provider.factoryRobotId commandId createdAt toolName definition.operation definition.spec.commandClass
        arguments sessionId provider.safety provider.timeouts).map .submitted

/-- A call is submitted exactly when its arguments conform to the schema of the tool, keep the rule across fields and
make up a command. -/
theorem handleCall_submitted_iff {provider : ToolProvider N} {commandId : String} {createdAt : N} {toolName : String}
    {arguments : List (String × Json N)} {sessionId : String} {command : SemanticCommand N} :
    handleCall provider commandId createdAt toolName arguments sessionId = .ok (.submitted command) ↔
    ∃ definition, toolDefinition toolName = some definition ∧
      Conforms definition.spec.inputSchema (.obj arguments) ∧ semanticCheck toolName arguments = none ∧
      create provider.factoryRobotId commandId createdAt toolName definition.operation definition.spec.commandClass
        arguments sessionId provider.safety provider.timeouts = .ok command := by
  have hvalid := validate_ok_iff toolName arguments
  unfold handleCall
  cases hd : (toolDefinition toolName : Option (ToolDefinition N)) with
  | none => simp
  | some definition =>
    simp only [hd, Option.some.injEq, exists_eq_left'] at hvalid ⊢
    constructor
    · intro h
      split at h
      · cases h
      · cases h
      · split at h <;> cases h
      · next error hv =>
        obtain ⟨hconforms, hsemantic⟩ := hvalid.1 ⟨_, hv, rfl⟩
        unfold Except.map at h
        split at h
        · cases h
        · next command' hcreate =>
          cases h
          exact ⟨hconforms, hsemantic, hcreate⟩
    · rintro ⟨hconforms, hsemantic, hcreate⟩
      obtain ⟨⟨ok, error⟩, hv, rfl⟩ := hvalid.2 ⟨hconforms, hsemantic⟩
      rw [hv]
      dsimp only
      rw [hcreate]
      rfl

end RosMcp
