import RosMcp.Mcp.Schemas

/-!
# The validation engine (`validation/engine.py`)

`validate` checks the arguments of a call against the schema of the tool and then the rule across fields that a flat
schema cannot express: a translation needs a distance, a rotation an angle.
-/

namespace RosMcp

variable {N : Type}

structure ValidationOutcome (N : Type) where
  ok : Bool
  error : Option (ToolError N)

/-- `_TRANSLATION_DIRECTIONS` -/
def translationDirections : List String := ["forward", "backward", "left", "right"]

/-- `_ROTATION_DIRECTIONS` -/
def rotationDirections : List String := ["rotate_left", "rotate_right"]

/-- `arguments.get(key) is None` -/
def missingArgument (arguments : List (String × Json N)) (key : String) : Bool :=
  match getKey arguments key with
  | none | some .null => true
  | _ => false

/-- `_semantic_check` -/
def semanticCheck (toolName : String) (arguments : List (String × Json N)) : Option (Message N) :=
  if toolName = "robot.move" then
    match getKey arguments "direction" with
    | some (.str direction) =>
      if direction ∈ translationDirections ∧ missingArgument arguments "distance_m" = true then
        some [.text "distance_m is required when direction is '", .text direction, .text "'"]
      else if direction ∈ rotationDirections ∧ missingArgument arguments "angle_deg" = true then
        some [.text "angle_deg is required when direction is '", .text direction, .text "'"]
      else none
    | _ => none
  else none

/-- An outcome with an error of the code `INVALID_ARGUMENT`. -/
def invalidArgument (message : Message N) (details : List (String × Detail N)) : ValidationOutcome N :=
  ⟨false, some ⟨.invalidArgument, message, details⟩⟩

/-- `DefaultValidationEngine.validate` -/
def validate [IntCast N] [RatCast N] [LT N] [DecidableLT N] (toolName : String) (arguments : List (String × Json N)) :
    Except PyException (ValidationOutcome N) :=
  match toolDefinition toolName with
  | none =>
    .ok (invalidArgument [.text "unknown tool '", .text toolName, .text "'"] [("tool_name", .text toolName)])
  | some definition =>
    let details : List (String × Detail N) := [("tool_name", .text toolName), ("arguments", .arguments arguments)]
    (definition.spec.inputSchema.checkSchema (.obj arguments)).map fun
      | some schemaError => invalidArgument schemaError details
      | none =>
        match semanticCheck toolName arguments with
        | some semanticError => invalidArgument semanticError details
        | none => ⟨true, none⟩

section Outcome

variable [IntCast N] [RatCast N] [LT N] [DecidableLT N] (toolName : String) (arguments : List (String × Json N))

/-- An outcome is either positive, or it has an error with the code `INVALID_ARGUMENT`. -/
theorem validate_outcome {outcome : ValidationOutcome N} (h : validate toolName arguments = .ok outcome) :
    outcome = ⟨true, none⟩ ∨ ∃ message details, outcome = ⟨false, some ⟨.invalidArgument, message, details⟩⟩ := by
  unfold validate at h
  split at h
  · exact Or.inr ⟨_, _, (Except.ok.inj h).symm⟩
  · next definition hd =>
    rcases hc : definition.spec.inputSchema.checkSchema (.obj arguments) with exc | _ | schemaError
    · rw [hc] at h
      cases h
    · rw [hc] at h
      simp only [Except.map, Except.ok.injEq] at h
      split at h
      · exact Or.inr ⟨_, _, h.symm⟩
      · exact Or.inl h.symm
    · rw [hc] at h
      exact Or.inr ⟨_, _, (Except.ok.inj h).symm⟩

/-- The arguments are valid exactly when they conform to the schema of the tool and pass the rule across fields. -/
theorem validate_ok_iff : (∃ outcome, validate toolName arguments = .ok outcome ∧ outcome.ok = true) ↔
    ∃ definition, toolDefinition toolName = some definition ∧
      Conforms definition.spec.inputSchema (.obj arguments) ∧ semanticCheck toolName arguments = none := by
  unfold validate
  cases toolDefinition (N := N) toolName with
  | none => simp [invalidArgument]
  | some definition =>
    simp only [Option.some.injEq, exists_eq_left']
    rw [← Schema.check_eq_none_iff definition.spec.inputSchema "$"]
    unfold Schema.checkSchema
    rcases definition.spec.inputSchema.check "$" (.obj arguments) with exc | _ | schemaError
    · simp [Except.map]
    · cases semanticCheck toolName arguments <;> simp [Except.map, invalidArgument]
    · simp [Except.map, invalidArgument]

end Outcome

end RosMcp
