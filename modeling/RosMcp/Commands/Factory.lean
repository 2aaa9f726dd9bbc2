import RosMcp.Lib.PyFloat
import RosMcp.Contracts.Config

/-!
# The command factory (`commands/factory.py`)

`create` turns the arguments of a tool call into a `SemanticCommand`.  The arguments have passed the schema of the
tool, so a field that is present has the type that its schema gives it; `create` raises where the source does: on a
missing required key, on an integer timeout that no float can hold, and on an operation without a result type.  The
`command_id` (a fresh ULID) and the creation time are parameters.
-/

namespace RosMcp

variable {N : Type} [IntCast N]

/-- `_READ_DEFAULT_TIMEOUT_S` -/
def readDefaultTimeoutS : N := ((5 : ℤ) : N)

/-- `RESULT_TYPE_BY_OPERATION` -/
def resultTypeByOperation : Operation → Option ResultType
  | .getState => some .robotState
  | .getCapabilities => some .capabilities
  | .move => some .motion
  | .stop => some .stop
  | .navigate => some .navigate
  | .getLaserScan => some .laserScan
  | .getCameraImage => some .cameraImage
  | .detectObjects => some .detectObjects
  | _ => none

/-- Membership in `_MOTION_OPERATIONS`. -/
def Operation.isMotion : Operation → Bool
  | .move | .stop | .navigate => true
  | _ => false

def keyError (key : String) : PyException := ⟨.keyError, key⟩

/-- `arguments[key]`, for a numeric field. -/
def requireNumber (arguments : List (String × Json N)) (key : String) : Except PyException N :=
  match (getKey arguments key).bind Json.number? with
  | some x => .ok x
  | none => .error (keyError key)

/-- `arguments.get(key)`, for a numeric field. -/
def getNumber (arguments : List (String × Json N)) (key : String) : Option N :=
  (getKey arguments key).bind Json.number?

/-- `arguments["direction"]` -/
def requireDirection (arguments : List (String × Json N)) : Except PyException Direction :=
  match getKey arguments "direction" with
  | some (.str s) =>
    match Direction.ofString s with
    | some d => .ok d
    | none => .error (keyError "direction")
  | _ => .error (keyError "direction")

/-- `_build_target` -/
def buildTarget (operation : Operation) (arguments : List (String × Json N)) : Except PyException (Target N) :=
  match operation with
  | .move => do
    let direction ← requireDirection arguments
    return .move ⟨direction, getNumber arguments "distance_m", getNumber arguments "angle_deg"⟩
  | .navigate => do
    let x ← requireNumber arguments "x"
    let y ← requireNumber arguments "y"
    return .navigate ⟨x, y, getNumber arguments "yaw"⟩
  | _ => .ok .none

/-- The least positive integer that `float` refuses: half a unit in the last place above the largest double. -/
def floatOverflow : ℤ := 2 ^ 1024 - 2 ^ 970

/-- `float(value)` of a JSON number. -/
def pyFloat : Json N → Except PyException N
  | .int n => if floatOverflow ≤ |n| then .error ⟨.overflowError, "int too large to convert to float"⟩ else .ok n
  | .float x => .ok x
  | _ => .error ⟨.typeError, "float() argument must be a string or a real number"⟩

/-- `_resolve_timeout_s` -/
def resolveTimeoutS [LT N] [DecidableLT N] (operation : Operation) (arguments : List (String × Json N))
    (timeouts : TimeoutConfig N) : Except PyException N :=
  match operation with
  | .move =>
    match getKey arguments "timeout_s" with
    | some requested => (pyFloat requested).map fun t => pyMin t timeouts.moveMaxS
    | none => .ok timeouts.moveDefaultS
  | .navigate => .ok timeouts.navigateDefaultS
  | .stop => .ok ((5 : ℤ) : N)
  | _ => .ok readDefaultTimeoutS

/-- `arguments.get("frame") if operation is Operation.NAVIGATE else None` -/
def commandFrame (operation : Operation) (arguments : List (String × Json N)) : Option String :=
  match operation, getKey arguments "frame" with
  | .navigate, some (.str frame) => some frame
  | _, _ => none

/-- `SemanticCommandFactory.create` -/
def create [LT N] [DecidableLT N] (robotId commandId : String) (createdAt : N) (toolName : String)
    (operation : Operation) (commandClass : CommandClass) (arguments : List (String × Json N))
    (sessionId : String) (safetyConfig : SafetyConfig N) (timeoutConfig : TimeoutConfig N)
    (confidence : Option N := none) : Except PyException (SemanticCommand N) := do
  let target ← buildTarget operation arguments
  let timeoutS ← resolveTimeoutS operation arguments timeoutConfig
  match resultTypeByOperation operation with
  | none => .error (keyError operation.value)
  | some expectedResultType =>
    return {
      commandId
      sessionId
      robotId
      operation
      commandClass
      target
      frame := commandFrame operation arguments
      timeoutS
      priority := if operation = .stop then .safety else .normal
      safetyConstraints := if operation.isMotion then some (resolveSafetyConstraints safetyConfig) else none
      provenance := ⟨toolName, arguments, sessionId⟩
      confidence
      createdAt
      expectedResultType }

/-- The target of a MOVE. -/
theorem buildTarget_move {arguments : List (String × Json N)} {target : Target N}
    (h : buildTarget .move arguments = .ok target) :
    ∃ direction, requireDirection arguments = .ok direction ∧
      target = .move ⟨direction, getNumber arguments "distance_m", getNumber arguments "angle_deg"⟩ := by
  unfold buildTarget at h
  cases hd : requireDirection arguments with
  | error exc => rw [hd] at h; cases h
  | ok direction =>
    rw [hd] at h
    exact ⟨direction, rfl, (Except.ok.inj h).symm⟩

private theorem requireNumber_eq_ok {arguments : List (String × Json N)} {key : String} {v : N}
    (h : requireNumber arguments key = .ok v) :
    getNumber arguments key = some v := by
  unfold requireNumber at h
  split at h
  · next x hx =>
    obtain rfl := Except.ok.inj h
    exact hx
  · cases h

/-- The target of a NAVIGATE. -/
theorem buildTarget_navigate {arguments : List (String × Json N)} {target : Target N}
    (h : buildTarget .navigate arguments = .ok target) :
    ∃ x y, getNumber arguments "x" = some x ∧ getNumber arguments "y" = some y ∧
      target = .navigate ⟨x, y, getNumber arguments "yaw"⟩ := by
  unfold buildTarget at h
  cases hx : requireNumber arguments "x" with
  | error exc => rw [hx] at h; cases h
  | ok x =>
    cases hy : requireNumber arguments "y" with
    | error exc => rw [hx, hy] at h; cases h
    | ok y =>
      rw [hx, hy] at h
      exact ⟨x, y, requireNumber_eq_ok hx, requireNumber_eq_ok hy, (Except.ok.inj h).symm⟩

/-- What a created command takes over from the call. -/
theorem create_eq_ok [LT N] [DecidableLT N] {robotId commandId : String} {createdAt : N} {toolName : String}
    {operation : Operation} {commandClass : CommandClass} {arguments : List (String × Json N)} {sessionId : String}
    {safetyConfig : SafetyConfig N} {timeoutConfig : TimeoutConfig N} {confidence : Option N}
    {command : SemanticCommand N}
    (h : create robotId commandId createdAt toolName operation commandClass arguments sessionId safetyConfig
      timeoutConfig confidence = .ok command) :
    command.commandId = commandId ∧ command.sessionId = sessionId ∧ command.robotId = robotId ∧
      command.operation = operation ∧ command.commandClass = commandClass ∧
      buildTarget operation arguments = .ok command.target ∧
      resolveTimeoutS operation arguments timeoutConfig = .ok command.timeoutS ∧
      resultTypeByOperation operation = some command.expectedResultType ∧
      command.safetyConstraints =
        if operation.isMotion then some (resolveSafetyConstraints safetyConfig) else none := by
  unfold create at h
  rcases ht : buildTarget operation arguments with exc | target
  · simp [ht, bind, Except.bind] at h
  · rcases hs : resolveTimeoutS operation arguments timeoutConfig with exc | timeoutS
    · simp [ht, hs, bind, Except.bind] at h
    · rcases hr : resultTypeByOperation operation with _ | t
      · simp [ht, hs, hr, bind, Except.bind] at h
      · simp only [ht, hs, hr, bind, Except.bind, pure, Except.pure, Except.ok.injEq] at h
        subst h
        exact ⟨rfl, rfl, rfl, rfl, rfl, rfl, rfl, rfl, rfl⟩

end RosMcp
