import RosMcp.Execution.Completion
import RosMcp.Mcp.FiniteArguments
import RosMcp.Validation.Unprintable

/-!
# Which tool calls raise

The manager turns every exception into a result, but validation and command construction run before it.  Two
conversions of an integer raise there: the schema checker prints a value that breaks a bound, and `str` refuses an
integer of more than 4300 digits; the factory converts the timeout of a MOVE, and `float` refuses an integer from
`2 ^ 1024 - 2 ^ 970` on.  Every other call returns a `ToolResult` (`handleCall_returns_iff`).
-/

namespace RosMcp

variable {N : Type}

/-! ### The schemas of the tools -/

section Schemas

variable [IntCast N] [LT N] [DecidableLT N]

/-- A field that is neither an object nor an array, without an `enum`. -/
private theorem flat_primitive {schema : Schema N} (hobject : schema.type ≠ some .object) (hitems : schema.items = none)
    (henum : schema.enum = none) (hbounds : schema.PrintableBounds) : schema.Flat where
  object := hobject
  items s hs := by
    rw [hitems] at hs
    cases hs
  enum hne := absurd henum hne
  bounds := hbounds

omit [IntCast N] [LT N] [DecidableLT N] in
private theorem unbounded_printable {schema : Schema N} (hmin : schema.minimum = none) (hmax : schema.maximum = none) :
    schema.PrintableBounds := by
  constructor
  · rw [hmin]
    simp
  · rw [hmax]
    simp

/-- A string is compared with nothing. -/
private theorem flat_string : ({ type := some .string } : Schema N).Flat :=
  flat_primitive (by simp) rfl rfl (unbounded_printable rfl rfl)

private theorem flat_direction : (directionSchema : Schema N).Flat where
  object := by simp [directionSchema]
  items s hs := by cases hs
  enum _ := rfl
  bounds := unbounded_printable rfl rfl

private theorem flat_labels : ({ type := some .array, items := some { type := some .string } } : Schema N).Flat where
  object := by simp
  items s hs := by
    obtain rfl := Option.some.inj hs
    intro path value hraises
    obtain ⟨n, -, hover⟩ := flat_string.raises_check.1 hraises
    rcases hover.numeric with h | h <;> cases h
  enum hne := absurd rfl hne
  bounds := unbounded_printable rfl rfl

/-- Every field of every tool is flat. -/
private theorem toolDefinition_flat [RatCast N] {d : ToolDefinition N}
    (h : d ∈ (toolDefinitions : List (ToolDefinition N))) :
    d.spec.inputSchema.type = some .object ∧ d.spec.inputSchema.enum = none ∧
      ∀ key s, getKey d.spec.inputSchema.properties key = some s → s.Flat := by
  have hint : ∀ n : ℤ, n.natAbs < 10 ^ 4 → ∀ b ∈ some (Json.int n : Json N), b.printable = true := by
    intro n hn b hb
    obtain rfl := Option.some.inj hb
    exact printable_int hn
  have hdistance : (distanceSchema : Schema N).Flat :=
    flat_primitive (by simp [distanceSchema]) rfl rfl ⟨hint 0 (by decide), by simp [distanceSchema]⟩
  have hangle : (angleSchema : Schema N).Flat :=
    flat_primitive (by simp [angleSchema]) rfl rfl ⟨hint 0 (by decide), hint 360 (by decide)⟩
  have htimeout : (timeoutSchema : Schema N).Flat := by
    refine flat_primitive (by simp [timeoutSchema]) rfl rfl ⟨?_, by simp [timeoutSchema]⟩
    intro b hb
    obtain rfl := Option.some.inj hb
    rfl
  have hcoordinate : (coordinateSchema : Schema N).Flat :=
    flat_primitive (by simp [coordinateSchema]) rfl rfl (unbounded_printable rfl rfl)
  have hboolean : ({ type := some .boolean } : Schema N).Flat :=
    flat_primitive (by simp) rfl rfl (unbounded_printable rfl rfl)
  have hwidth : ({ type := some .integer, maximum := some (.int 1280) } : Schema N).Flat :=
    flat_primitive (by simp) rfl rfl ⟨by simp, hint 1280 (by decide)⟩
  have hall : ∀ {properties : List (String × Schema N)}, (∀ p ∈ properties, p.2.Flat) →
      ∀ key s, getKey properties key = some s → s.Flat := by
    intro properties hp key s hs
    obtain ⟨p, hfind, rfl⟩ := Option.map_eq_some_iff.1 hs
    exact hp p (List.mem_of_find?_eq_some hfind)
  simp only [toolDefinitions, List.mem_cons, List.not_mem_nil, or_false] at h
  rcases h with rfl | rfl | rfl | rfl | rfl | rfl | rfl | rfl
  all_goals refine ⟨rfl, rfl, hall ?_⟩
  all_goals
    simp only [getCapabilitiesTool, getStateTool, moveTool, stopTool, navigateTool, getLaserScanTool,
      getCameraImageTool, detectObjectsTool, closedObject, List.forall_mem_cons, List.not_mem_nil, false_imp_iff,
      implies_true, and_true]
  · exact flat_string
  · exact ⟨flat_direction, hdistance, hangle, htimeout⟩
  · exact ⟨hcoordinate, hcoordinate, hcoordinate, flat_string⟩
  · exact hboolean
  · exact hwidth
  · exact flat_labels

end Schemas

/-! ### Validation -/

section Calls

variable [IntCast N] [RatCast N] [LT N] [DecidableLT N] {toolName : String} {arguments : List (String × Json N)}

/-- Validation raises exactly when the schema check does. -/
theorem validate_raises_iff : (∃ exc, validate toolName arguments = .error exc) ↔
    ∃ definition : ToolDefinition N, toolDefinition toolName = some definition ∧
      Raises (definition.spec.inputSchema.checkSchema (.obj arguments)) := by
  unfold validate
  cases hd : (toolDefinition toolName : Option (ToolDefinition N)) with
  | none => simp
  | some definition =>
    simp only [Option.some.injEq, exists_eq_left']
    rcases hc : definition.spec.inputSchema.checkSchema (.obj arguments) with exc | o
    · simp [Except.map, Raises]
    · simp [Except.map]

/-! ### The command factory -/

omit [LT N] [DecidableLT N] [RatCast N] in
/-- `float` raises on an integer that is too large, and on nothing else that is a number. -/
theorem pyFloat_raises_iff {value : Json N} {v : N} (hv : value.number? = some v) :
    (∃ exc, pyFloat value = .error exc) ↔ ∃ n, value = .int n ∧ floatOverflow ≤ |n| := by
  cases value with
  | int n => by_cases h : floatOverflow ≤ |n| <;> simp [pyFloat, h]
  | float x => simp [pyFloat]
  | null | bool b | str s | arr items | obj fields => cases hv

omit [DecidableLT N] [RatCast N] in
/-- A required field is present, and conforms to its own schema. -/
private theorem required_conforms {schema : Schema N} (sub : Schema N) (key : String)
    (h : Conforms schema (.obj arguments))
    (htype : schema.type = some .object) (hkey : key ∈ schema.required)
    (hsub : getKey schema.properties key = some sub) :
    ∃ value, getKey arguments key = some value ∧ Conforms sub value := by
  have hpresent : (getKey arguments key).isSome = true := by
    cases h with
    | intro _ _ _ hrequired => exact hrequired arguments htype rfl key hkey
  obtain ⟨value, hvalue⟩ := Option.isSome_iff_exists.1 hpresent
  exact ⟨value, hvalue, h.field htype hsub hvalue⟩

omit [DecidableLT N] [RatCast N] in
private theorem requireNumber_of_conforms {schema : Schema N} (sub : Schema N) (key : String)
    (h : Conforms schema (.obj arguments)) (htype : schema.type = some .object) (hkey : key ∈ schema.required)
    (hsub : getKey schema.properties key = some sub) (hnumber : sub.type = some .number) :
    ∃ v, requireNumber arguments key = .ok v := by
  obtain ⟨value, hvalue, hconforms⟩ := required_conforms sub key h htype hkey hsub
  obtain ⟨v, hv, -⟩ := hconforms.number hnumber
  refine ⟨v, ?_⟩
  unfold requireNumber
  simp [hvalue, hv]

omit [DecidableLT N] in
private theorem requireDirection_of_conforms
    (h : Conforms (moveTool : ToolDefinition N).spec.inputSchema (.obj arguments)) :
    ∃ direction, requireDirection arguments = .ok direction := by
  obtain ⟨value, hvalue, hconforms⟩ := required_conforms directionSchema "direction" h rfl
    (List.mem_singleton.2 rfl) rfl
  cases hconforms with
  | intro _ _ htype _ _ _ _ _ henum =>
    have hstring : SchemaType.string.accepts value = true := htype .string rfl
    have hin : value.isIn directionNames = true := henum directionNames rfl
    cases value with
    | str s =>
      have hmem : s ∈ directionNames := by simpa [Json.isIn] using hin
      unfold requireDirection
      rw [hvalue]
      simp only [directionNames, List.mem_cons, List.not_mem_nil, or_false] at hmem
      rcases hmem with rfl | rfl | rfl | rfl | rfl | rfl
      all_goals exact ⟨_, rfl⟩
    | null | bool b | int n | float x | arr items | obj fields => cases hstring

omit [DecidableLT N] in
/-- Arguments that conform make up a target. -/
private theorem buildTarget_of_conforms {d : ToolDefinition N} (hd : d ∈ (toolDefinitions : List (ToolDefinition N)))
    (hconforms : Conforms d.spec.inputSchema (.obj arguments)) :
    ∃ target, buildTarget d.operation arguments = .ok target := by
  cases hop : d.operation with
  | move =>
    obtain rfl := eq_moveTool hd hop
    obtain ⟨direction, hdirection⟩ := requireDirection_of_conforms hconforms
    unfold buildTarget
    rw [hdirection]
    exact ⟨_, rfl⟩
  | navigate =>
    obtain rfl := eq_navigateTool hd hop
    have hkeys : (navigateTool : ToolDefinition N).spec.inputSchema.required = ["x", "y"] := rfl
    obtain ⟨x, hx⟩ := requireNumber_of_conforms coordinateSchema "x" hconforms rfl (by simp [hkeys]) rfl rfl
    obtain ⟨y, hy⟩ := requireNumber_of_conforms coordinateSchema "y" hconforms rfl (by simp [hkeys]) rfl rfl
    unfold buildTarget
    rw [hx, hy]
    exact ⟨_, rfl⟩
  | _ => exact ⟨.none, rfl⟩

/-- The timeout of a command raises exactly when `robot.move` gets an integer that no float can hold. -/
theorem resolveTimeoutS_raises_iff {d : ToolDefinition N} (hd : d ∈ (toolDefinitions : List (ToolDefinition N)))
    (hconforms : Conforms d.spec.inputSchema (.obj arguments)) (timeouts : TimeoutConfig N) :
    (∃ exc, resolveTimeoutS d.operation arguments timeouts = .error exc) ↔
      d = moveTool ∧ ∃ n, getKey arguments "timeout_s" = some (.int n) ∧ floatOverflow ≤ |n| := by
  by_cases hop : d.operation = .move
  · obtain rfl := eq_moveTool hd hop
    unfold resolveTimeoutS
    dsimp only [moveTool]
    cases hkey : getKey arguments "timeout_s" with
    | none => simp
    | some value =>
      have hsub : getKey (moveTool : ToolDefinition N).spec.inputSchema.properties "timeout_s" = some timeoutSchema :=
        rfl
      obtain ⟨v, hv, -⟩ := (hconforms.field rfl hsub hkey).number rfl
      have hfloat := pyFloat_raises_iff hv
      simp only [true_and, Option.some.injEq]
      rw [← hfloat]
      cases pyFloat value <;> simp [Except.map]
  · have hne : d ≠ moveTool := by
      rintro rfl
      exact hop rfl
    have hok : ∃ t, resolveTimeoutS d.operation arguments timeouts = .ok t := by
      unfold resolveTimeoutS
      split
      · next h => exact absurd h hop
      · exact ⟨_, rfl⟩
      · exact ⟨_, rfl⟩
      · exact ⟨_, rfl⟩
    obtain ⟨t, ht⟩ := hok
    simp [ht, hne]

omit [IntCast N] [LT N] [DecidableLT N] in
/-- Every tool has a result type. -/
private theorem resultTypeByOperation_of_mem {d : ToolDefinition N}
    (hd : d ∈ (toolDefinitions : List (ToolDefinition N))) :
    ∃ t, resultTypeByOperation d.operation = some t := by
  simp only [toolDefinitions, List.mem_cons, List.not_mem_nil, or_false] at hd
  rcases hd with rfl | rfl | rfl | rfl | rfl | rfl | rfl | rfl
  all_goals exact ⟨_, rfl⟩

/-- The factory raises on valid arguments exactly when the timeout does. -/
theorem create_raises_iff {d : ToolDefinition N} (hd : d ∈ (toolDefinitions : List (ToolDefinition N)))
    (hconforms : Conforms d.spec.inputSchema (.obj arguments)) {robotId commandId : String} {createdAt : N}
    {sessionId : String} {safety : SafetyConfig N} {timeouts : TimeoutConfig N} :
    (∃ exc, create robotId commandId createdAt toolName d.operation d.spec.commandClass arguments sessionId safety
      timeouts = .error exc) ↔
      d = moveTool ∧ ∃ n, getKey arguments "timeout_s" = some (.int n) ∧ floatOverflow ≤ |n| := by
  obtain ⟨target, htarget⟩ := buildTarget_of_conforms hd hconforms
  obtain ⟨t, ht⟩ := resultTypeByOperation_of_mem hd
  rw [← resolveTimeoutS_raises_iff hd hconforms timeouts]
  unfold create
  rcases htimeout : resolveTimeoutS d.operation arguments timeouts with exc | timeoutS
  · simp [htarget, bind, Except.bind]
  · simp [htarget, ht, bind, Except.bind, pure, Except.pure]

/-! ### The whole call -/

/-- The first violation of the tool's schema is an integer that is too long to be printed. -/
def ViolationUnprintable (toolName : String) (arguments : List (String × Json N)) : Prop :=
  ∃ definition : ToolDefinition N, toolDefinition toolName = some definition ∧
    definition.spec.inputSchema.FirstOversized arguments

/-- `robot.move` gets valid arguments with an integer timeout that no float can hold. -/
def TimeoutOverflows (toolName : String) (arguments : List (String × Json N)) : Prop :=
  toolName = "robot.move" ∧ Conforms (moveTool : ToolDefinition N).spec.inputSchema (.obj arguments) ∧
    semanticCheck toolName arguments = none ∧
    ∃ n, getKey arguments "timeout_s" = some (.int n) ∧ floatOverflow ≤ |n|

/-- `handle_call` raises before it submits anything exactly in these two cases. -/
theorem handleCall_raises_iff {provider : ToolProvider N} {commandId : String} {createdAt : N} {sessionId : String} :
    (∃ exc, handleCall provider commandId createdAt toolName arguments sessionId = .error exc) ↔
      ViolationUnprintable toolName arguments ∨ TimeoutOverflows toolName arguments := by
  have hvalidate : (∃ exc, validate toolName arguments = .error exc) ↔ ViolationUnprintable toolName arguments := by
    rw [validate_raises_iff]
    refine exists_congr fun definition => and_congr_right fun hd => ?_
    obtain ⟨htype, henum, hflat⟩ := toolDefinition_flat (toolDefinition_eq_some hd).1
    exact Schema.checkObject_raises htype henum hflat arguments
  have hvalid := validate_ok_iff toolName arguments
  unfold handleCall
  cases hd : (toolDefinition toolName : Option (ToolDefinition N)) with
  | none =>
    have hmove : toolName ≠ "robot.move" := by
      rintro rfl
      cases hd
    simp [ViolationUnprintable, TimeoutOverflows, hd, hmove]
  | some definition =>
    obtain ⟨hmem, hname⟩ := toolDefinition_eq_some hd
    have htimeout : (Conforms definition.spec.inputSchema (.obj arguments) ∧ semanticCheck toolName arguments = none ∧
        definition = moveTool ∧ ∃ n, getKey arguments "timeout_s" = some (.int n) ∧ floatOverflow ≤ |n|) ↔
        TimeoutOverflows toolName arguments := by
      unfold TimeoutOverflows
      constructor
      · rintro ⟨hconforms, hsemantic, rfl, hlong⟩
        exact ⟨hname.symm, hconforms, hsemantic, hlong⟩
      · rintro ⟨rfl, hconforms, hsemantic, hlong⟩
        have hfound : (toolDefinition "robot.move" : Option (ToolDefinition N)) = some moveTool := rfl
        obtain rfl : definition = moveTool := Option.some.inj (hd.symm.trans hfound)
        exact ⟨hconforms, hsemantic, rfl, hlong⟩
    rw [← hvalidate, ← htimeout]
    simp only [hd, Option.some.injEq, exists_eq_left'] at hvalid
    obtain ⟨t, ht⟩ := resultTypeByOperation_of_mem hmem
    rcases hv : validate toolName arguments with exc | outcome
    · simp
    · rcases validate_outcome toolName arguments hv with rfl | ⟨message, details, rfl⟩
      · obtain ⟨hconforms, hsemantic⟩ := hvalid.1 ⟨_, hv, rfl⟩
        have hcreate : (∃ exc, create provider.factoryRobotId commandId createdAt toolName definition.operation
            definition.spec.commandClass arguments sessionId provider.safety provider.timeouts = .error exc) ↔
            definition = moveTool ∧ ∃ n, getKey arguments "timeout_s" = some (.int n) ∧ floatOverflow ≤ |n| :=
          create_raises_iff hmem hconforms
        simp only [hconforms, hsemantic, true_and, ← hcreate]
        cases create provider.factoryRobotId commandId createdAt toolName definition.operation
          definition.spec.commandClass arguments sessionId provider.safety provider.timeouts <;> simp [Except.map]
      · have hinvalid : ¬ (Conforms definition.spec.inputSchema (.obj arguments) ∧
            semanticCheck toolName arguments = none) := by
          intro h
          obtain ⟨outcome, houtcome, hok⟩ := hvalid.2 h
          obtain rfl := Except.ok.inj (hv.symm.trans houtcome)
          cases hok
        simp only [ht]
        constructor
        · rintro ⟨exc, h⟩
          cases h
        · rintro (⟨exc, h⟩ | ⟨hconforms, hsemantic, -⟩)
          · cases h
          · exact absurd ⟨hconforms, hsemantic⟩ hinvalid

/-- What `handle_call` returns by itself is a failure with an error. -/
theorem handleCall_returned {provider : ToolProvider N} {commandId : String} {createdAt : N} {sessionId : String}
    {result : ToolResult N}
    (h : handleCall provider commandId createdAt toolName arguments sessionId = .ok (.returned result)) :
    result.status = .failed ∧ ∃ error, result.error = some error := by
  unfold handleCall at h
  split at h
  · obtain rfl := HandledCall.returned.inj (Except.ok.inj h)
    exact ⟨rfl, _, rfl⟩
  · split at h
    · cases h
    · cases h
    · split at h
      · cases h
      · obtain rfl := HandledCall.returned.inj (Except.ok.inj h)
        exact ⟨rfl, _, rfl⟩
    · unfold Except.map at h
      split at h <;> cases h

variable [Add N] [Sub N]

/-- A call of `handle_call` returns a `ToolResult`: it fails with an error, or it submits a command, and then every
manager brings the command to a result, whatever its collaborators answer and as long as nobody cancels the call. -/
def CallReturns (provider : ToolProvider N) (commandId : String) (createdAt : N) (toolName : String)
    (arguments : List (String × Json N)) (sessionId : String) : Prop :=
  (∃ result, handleCall provider commandId createdAt toolName arguments sessionId = .ok (.returned result) ∧
    result.status = .failed ∧ ∃ error, result.error = some error) ∨
  ∃ command, handleCall provider commandId createdAt toolName arguments sessionId = .ok (.submitted command) ∧
    ∀ (w : Wiring N) (as : List (Action N)) (s : State N) (i : SubmitId) (b : Submit N),
      StepSystem.run (step w) State.initial as = some s →
      StepSystem.Along (step w) (Spares w command.commandId) State.initial as →
      s.submits i = some b → w.command b.command = command → Completes w command.commandId i s

private theorem CallReturns.not_raises {provider : ToolProvider N} {commandId : String} {createdAt : N}
    {sessionId : String}
    (h : CallReturns provider commandId createdAt toolName arguments sessionId) :
    ¬ ∃ exc, handleCall provider commandId createdAt toolName arguments sessionId = .error exc := by
  rintro ⟨exc, hexc⟩
  rcases h with ⟨result, h, -⟩ | ⟨command, h, -⟩
  · rw [h] at hexc
    cases hexc
  · rw [h] at hexc
    cases hexc

/-- A tool call returns a `ToolResult` exactly when neither of the two conversions raises. -/
theorem handleCall_returns_iff (provider : ToolProvider N) (commandId : String) (createdAt : N) (toolName : String)
    (arguments : List (String × Json N)) (sessionId : String) :
    CallReturns provider commandId createdAt toolName arguments sessionId ↔
      ¬ ViolationUnprintable toolName arguments ∧ ¬ TimeoutOverflows toolName arguments := by
  have hraises : (∃ exc, handleCall provider commandId createdAt toolName arguments sessionId = .error exc) ↔
      ViolationUnprintable toolName arguments ∨ TimeoutOverflows toolName arguments := handleCall_raises_iff
  rw [← not_or, ← hraises]
  constructor
  · exact CallReturns.not_raises
  · intro hno
    unfold CallReturns
    rcases hcall : handleCall provider commandId createdAt toolName arguments sessionId with exc | handled
    · exact absurd ⟨exc, hcall⟩ hno
    · cases handled with
      | returned result => exact Or.inl ⟨result, rfl, handleCall_returned hcall⟩
      | submitted command =>
        refine Or.inr ⟨command, rfl, ?_⟩
        intro w as s i b hrun hspares hb hcommand
        exact completes_run hrun hspares hb (by rw [hcommand])

end Calls

/-! ### Two calls that raise -/

section Sample

/-- A rotation by an angle of 5001 digits. -/
def hugeAngle : List (String × Json (PyFloat ℝ)) :=
  [("direction", .str "rotate_left"), ("angle_deg", .int (10 ^ 5000))]

/-- A forward move with a timeout of 401 digits. -/
noncomputable def hugeTimeout : List (String × Json (PyFloat ℝ)) :=
  [("direction", .str "forward"), ("distance_m", .int 1), ("timeout_s", .int (10 ^ 400))]

private theorem hugeAngle_unprintable : ViolationUnprintable "robot.move" hugeAngle := by
  have hdirection : Conforms (directionSchema : Schema (PyFloat ℝ)) (.str "rotate_left") :=
    (Schema.check_eq_none_iff _ "$" _).1 rfl
  have hbefore : (moveTool : ToolDefinition (PyFloat ℝ)).spec.inputSchema.FieldsConform
      [("direction", .str "rotate_left")] := by
    intro key sub hmem
    obtain ⟨rfl, rfl⟩ := Prod.mk.inj (List.mem_singleton.1 hmem)
    have hkey : getKey (moveTool : ToolDefinition (PyFloat ℝ)).spec.inputSchema.properties "direction" =
      some directionSchema := rfl
    rw [hkey]
    refine ⟨?_, by simp⟩
    intro s hs
    obtain rfl := Option.some.inj hs
    exact hdirection
  refine ⟨moveTool, rfl, ?_, [("direction", .str "rotate_left")], "angle_deg", 10 ^ 5000, [], angleSchema, rfl,
    hbefore, rfl, Or.inl rfl, ?_, ?_⟩
  · intro key hkey
    obtain rfl := List.mem_singleton.1 hkey
    rfl
  · intro hbounded
    have hmax : ¬ ((360 : ℤ) : PyFloat ℝ) < ((10 ^ 5000 : ℤ) : PyFloat ℝ) := (hbounded _ rfl).2 _ rfl
    have hlt : (360 : ℤ) < 10 ^ 5000 := lt_of_lt_of_le (by norm_num : (360 : ℤ) < 10 ^ 3)
      (pow_le_pow_right₀ (by norm_num) (by norm_num))
    apply hmax
    rw [PyFloat.intCast_eq_fin, PyFloat.intCast_eq_fin, PyFloat.fin_lt_fin]
    exact Int.cast_lt.2 hlt
  · have hlong : ∀ m : ℕ, intMaxStrDigits ≤ m → 10 ^ intMaxStrDigits ≤ ((10 : ℤ) ^ m).natAbs := by
      intro m hm
      rw [Int.natAbs_pow]
      exact Nat.pow_le_pow_right (by decide) hm
    exact hlong 5000 (by unfold intMaxStrDigits; omega)

private theorem hugeTimeout_overflows : TimeoutOverflows "robot.move" hugeTimeout := by
  refine ⟨rfl, conforms_closedObject ?_ ?_, rfl, 10 ^ 400, rfl, ?_⟩
  · intro key hkey
    obtain rfl := List.mem_singleton.1 hkey
    rfl
  · intro field hfield
    simp only [hugeTimeout, List.mem_cons, List.not_mem_nil, or_false] at hfield
    rcases hfield with rfl | rfl | rfl
    · exact ⟨directionSchema, rfl, (Schema.check_eq_none_iff _ "$" _).1 rfl⟩
    · refine ⟨distanceSchema, rfl, conforms_number rfl rfl rfl ?_ (by rintro m ⟨⟩)⟩
      rintro m ⟨⟩
      simp
    · refine ⟨timeoutSchema, rfl, conforms_number rfl rfl rfl ?_ (by rintro m ⟨⟩)⟩
      rintro m ⟨⟩
      have hone : (1 : ℤ) ≤ 10 ^ 400 := one_le_pow₀ (by norm_num)
      have hlow : ((0.1 : ℚ) : ℝ) ≤ ((10 ^ 400 : ℤ) : ℝ) :=
        le_trans (by norm_num : ((0.1 : ℚ) : ℝ) ≤ ((1 : ℤ) : ℝ)) (Int.cast_le.2 hone)
      change ¬ PyFloat.fin ((10 ^ 400 : ℤ) : ℝ) < PyFloat.fin ((0.1 : ℚ) : ℝ)
      rw [PyFloat.fin_lt_fin]
      exact not_lt.2 hlow
  · have hpow : (2 : ℤ) ^ 1024 ≤ 10 ^ 400 := by
      calc (2 : ℤ) ^ 1024 ≤ 2 ^ (3 * 400) := pow_le_pow_right₀ (by norm_num) (by norm_num)
        _ = (2 ^ 3) ^ 400 := pow_mul 2 3 400
        _ ≤ 10 ^ 400 := pow_le_pow_left₀ (by norm_num) (by norm_num) 400
    have hpos : (0 : ℤ) ≤ 2 ^ 970 := pow_nonneg (by norm_num) 970
    have habs : (10 : ℤ) ^ 400 ≤ |10 ^ 400| := le_abs_self _
    unfold floatOverflow
    exact le_trans (sub_le_self _ hpos) (hpow.trans habs)

/-- The first raises in the schema checker, the second in the command factory. -/
theorem handleCall_raises :
    ¬ CallReturns sampleProvider "A" ((0 : ℤ) : PyFloat ℝ) "robot.move" hugeAngle "session" ∧
      ¬ CallReturns sampleProvider "A" ((0 : ℤ) : PyFloat ℝ) "robot.move" hugeTimeout "session" := by
  constructor
  · intro h
    exact h.not_raises (handleCall_raises_iff.2 (Or.inl hugeAngle_unprintable))
  · intro h
    exact h.not_raises (handleCall_raises_iff.2 (Or.inr hugeTimeout_overflows))

end Sample

end RosMcp
