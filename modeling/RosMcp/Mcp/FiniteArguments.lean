import RosMcp.Execution.Allowed
import RosMcp.Mcp.ToolProvider
import RosMcp.Safety.Geofence

/-!
# Which arguments reach a backend

The bounds of the arguments are enforced piecewise: by the schema, by the `min` of the command factory and by the
policy engine, each time with a comparison written as a rejection.  Such a comparison lets `nan` through, and one with
an infinite limit lets an infinite argument through; `yaw` is compared with nothing at all, and the coordinates of a
goal only by way of its distance from the current pose.  So a dispatched command carries finite numbers within their
bounds exactly when none of these gaps is used (`finiteArguments_iff`).
-/

namespace RosMcp

/-! ### Comparisons written as rejections -/

/-- A number that is not let through by its comparison with `limit` alone: it is not `nan`, nor infinite under an
infinite limit. -/
def Screened (limit a : PyFloat ℝ) : Prop := a ≠ .nan ∧ (a = .posInf → limit ≠ .posInf)

/-- What is not below zero and not above a limit is a finite number between them exactly when it is screened. -/
theorem screened_iff {limit a : PyFloat ℝ} (hlimit : 0 < limit) (hlow : ¬ a < 0) (hhigh : ¬ limit < a) :
    (a.IsFinite ∧ 0 ≤ a ∧ a ≤ limit) ↔ Screened limit a := by
  unfold Screened
  cases a <;> cases limit <;> simp_all

/-- Under a finite limit only `nan` is let through. -/
private theorem screened_fin {m : ℝ} {a : PyFloat ℝ} : Screened (.fin m) a ↔ a ≠ .nan := by simp [Screened]

/-- The same for the `min` with the limit, of what is not below a positive bound. -/
theorem pyMin_screened_iff {limit a : PyFloat ℝ} {low : ℝ} (hlow : 0 < low) (hlimit : 0 < limit)
    (ha : ¬ a < .fin low) :
    ((pyMin a limit).IsFinite ∧ 0 < pyMin a limit ∧ pyMin a limit ≤ limit) ↔ Screened limit a := by
  unfold Screened pyMin
  cases a with
  | fin x =>
    have hx : 0 < x := lt_of_lt_of_le hlow (not_lt.1 ha)
    cases limit with
    | fin y =>
      by_cases hxy : y < x
      · simp_all
      · simp [hxy, hx, not_lt.1 hxy]
    | posInf => simp_all
    | negInf | nan => simp at hlimit
  | posInf => cases limit <;> simp_all
  | negInf => simp at ha
  | nan => cases limit <;> simp_all

/-- An infinite coordinate is seen by the distance limit, when the limit and the pose are finite. -/
private theorem isFinite_of_distance {limit x y px py : PyFloat ℝ} (hlimit : 0 < limit) (hfinite : limit ≠ .posInf)
    (hpx : px.IsFinite) (hpy : py.IsFinite) (hx : x ≠ .nan) (hy : y ≠ .nan)
    (hdistance : ¬ limit < euclideanDistance px py x y) : x.IsFinite ∧ y.IsFinite := by
  obtain ⟨a, rfl⟩ := hpx
  obtain ⟨b, rfl⟩ := hpy
  have hlt : limit < .posInf := by cases limit <;> simp_all
  have hne : euclideanDistance (.fin a) (.fin b) x y ≠ .posInf := by
    intro hinf
    rw [hinf] at hdistance
    exact hdistance hlt
  unfold euclideanDistance at hne
  cases x with
  | nan => exact absurd rfl hx
  | posInf | negInf => exact absurd rfl hne
  | fin x =>
    cases y with
    | nan => exact absurd rfl hy
    | posInf | negInf =>
      rw [PyFloat.fin_sub_fin] at hne
      exact absurd rfl hne
    | fin y => exact ⟨⟨x, rfl⟩, ⟨y, rfl⟩⟩

/-! ### The arguments of `robot.move` -/

/-- The numbers that a MOVE carries to its backend are finite and within their bounds. -/
structure BoundedMove (safety : SafetyConfig (PyFloat ℝ)) (timeouts : TimeoutConfig (PyFloat ℝ))
    (timeoutS : PyFloat ℝ) (target : MoveTarget (PyFloat ℝ)) : Prop where
  timeout : timeoutS.IsFinite ∧ 0 < timeoutS ∧ timeoutS ≤ timeouts.moveMaxS
  distance : target.direction.isRotation = false →
    ∃ d, target.distanceM = some d ∧ d.IsFinite ∧ 0 ≤ d ∧ d ≤ safety.maxMoveDistanceM
  angle : target.direction.isRotation = true →
    ∃ a, target.angleDeg = some a ∧ a.IsFinite ∧ 0 ≤ a ∧ a ≤ ((360 : ℤ) : PyFloat ℝ)

/-- The gaps that `robot.move` leaves are not used. -/
structure MoveScreened (safety : SafetyConfig (PyFloat ℝ)) (timeouts : TimeoutConfig (PyFloat ℝ))
    (arguments : List (String × Json (PyFloat ℝ))) : Prop where
  timeout : ∀ t, getNumber arguments "timeout_s" = some t → Screened timeouts.moveMaxS t
  default : getKey arguments "timeout_s" = none → timeouts.moveDefaultS ≠ .posInf
  distance : ∀ direction, requireDirection arguments = .ok direction → direction.isRotation = false →
    ∀ d, getNumber arguments "distance_m" = some d → Screened safety.maxMoveDistanceM d
  angle : ∀ direction, requireDirection arguments = .ok direction → direction.isRotation = true →
    ∀ a, getNumber arguments "angle_deg" = some a → a ≠ .nan

section Move

variable {safety : SafetyConfig (PyFloat ℝ)} {timeouts : TimeoutConfig (PyFloat ℝ)}
  {arguments : List (String × Json (PyFloat ℝ))}

/-- A numeric field of a call that conforms to its schema. -/
private theorem getNumber_of_conforms {schema sub : Schema (PyFloat ℝ)} {key : String} {value : Json (PyFloat ℝ)}
    (h : Conforms schema (.obj arguments)) (htype : schema.type = some .object)
    (hsub : getKey schema.properties key = some sub) (hnumber : sub.type = some .number)
    (hvalue : getKey arguments key = some value) :
    ∃ v, value.number? = some v ∧ getNumber arguments key = some v ∧
      (∀ m ∈ sub.minimum.bind Json.number?, ¬ v < m) ∧ ∀ m ∈ sub.maximum.bind Json.number?, ¬ m < v := by
  obtain ⟨v, hv, hmin, hmax⟩ := (h.field htype hsub hvalue).number hnumber
  refine ⟨v, hv, ?_, hmin, hmax⟩
  rw [getNumber, hvalue]
  exact hv

private theorem pyFloat_number {value : Json (PyFloat ℝ)} {t : PyFloat ℝ} (h : pyFloat value = .ok t) :
    value.number? = some t := by
  cases value with
  | int n =>
    dsimp only [pyFloat] at h
    split at h
    · cases h
    · exact congrArg some (Except.ok.inj h)
  | float x => exact congrArg some (Except.ok.inj h)
  | null | bool b | str s | arr items | obj fields => cases h

/-- The timeout of a MOVE is finite and within its bound exactly when the gaps of `timeout_s` are not used. -/
theorem resolveTimeoutS_bounded_iff (htimeouts : timeouts.Accepted)
    (hconforms : Conforms moveTool.spec.inputSchema (.obj arguments)) {t : PyFloat ℝ}
    (ht : resolveTimeoutS .move arguments timeouts = .ok t) :
    (t.IsFinite ∧ 0 < t ∧ t ≤ timeouts.moveMaxS) ↔
      (∀ t, getNumber arguments "timeout_s" = some t → Screened timeouts.moveMaxS t) ∧
        (getKey arguments "timeout_s" = none → timeouts.moveDefaultS ≠ .posInf) := by
  unfold resolveTimeoutS at ht
  cases hkey : getKey arguments "timeout_s" with
  | none =>
    rw [hkey] at ht
    obtain rfl := Except.ok.inj ht
    have hnone : getNumber arguments "timeout_s" = none := by rw [getNumber, hkey]; rfl
    have hpos := htimeouts.moveDefaultS
    have hmax := htimeouts.moveMaxS
    have hle := htimeouts.moveWithinMax
    rw [hnone]
    revert hpos hmax hle
    cases timeouts.moveDefaultS <;> cases timeouts.moveMaxS <;> simp
    intro hpos _ hle
    exact ⟨hpos, hle⟩
  | some value =>
    obtain ⟨v, hv, hget, hmin, -⟩ := getNumber_of_conforms hconforms rfl rfl rfl hkey
    rw [hkey] at ht
    dsimp only at ht
    unfold Except.map at ht
    split at ht
    · cases ht
    · next t' hfloat =>
      obtain rfl := Except.ok.inj ht
      obtain rfl : v = t' := by rw [pyFloat_number hfloat] at hv; exact (Option.some.inj hv).symm
      have hlow : ¬ v < .fin ((0.1 : ℚ) : ℝ) := hmin _ rfl
      rw [pyMin_screened_iff (by norm_num) htimeouts.moveMaxS hlow]
      simp [hget]

private theorem requireDirection_eq_ok {direction : Direction} (h : requireDirection arguments = .ok direction) :
    ∃ name, getKey arguments "direction" = some (.str name) ∧ Direction.ofString name = some direction := by
  unfold requireDirection at h
  split at h
  · next name hname =>
    split at h
    · next d hd => exact ⟨name, hname, by rw [hd, Except.ok.inj h]⟩
    · cases h
  · cases h

/-- The argument that the rule across fields requires. -/
def requiredArgument (direction : Direction) : String :=
  if direction.isRotation then "angle_deg" else "distance_m"

private theorem semanticCheck_required (h : semanticCheck "robot.move" arguments = none) {direction : Direction}
    (hdirection : requireDirection arguments = .ok direction) :
    ∃ value, getKey arguments (requiredArgument direction) = some value := by
  obtain ⟨name, hkey, hname⟩ := requireDirection_eq_ok hdirection
  have hpresent : missingArgument arguments (requiredArgument direction) = false := by
    unfold semanticCheck at h
    rw [if_pos rfl, hkey] at h
    unfold Direction.ofString at hname
    split at hname <;> cases hname
    all_goals simpa [translationDirections, rotationDirections, requiredArgument, Direction.isRotation] using h
  unfold missingArgument at hpresent
  cases hvalue : getKey arguments (requiredArgument direction) with
  | none => rw [hvalue] at hpresent; cases hpresent
  | some value => exact ⟨value, rfl⟩

/-- The number that the rule across fields requires is present. -/
private theorem requiredArgument_number (hconforms : Conforms moveTool.spec.inputSchema (.obj arguments))
    (hsemantic : semanticCheck "robot.move" arguments = none) {direction : Direction}
    (hdirection : requireDirection arguments = .ok direction) :
    ∃ v, getNumber arguments (requiredArgument direction) = some v ∧ ¬ v < 0 ∧
      (direction.isRotation = true → ¬ ((360 : ℤ) : PyFloat ℝ) < v) := by
  obtain ⟨value, hvalue⟩ := semanticCheck_required hsemantic hdirection
  unfold requiredArgument at hvalue ⊢
  cases hrot : direction.isRotation with
  | false =>
    rw [hrot] at hvalue
    change getKey arguments "distance_m" = some value at hvalue
    obtain ⟨v, -, hget, hmin, -⟩ := getNumber_of_conforms hconforms rfl rfl rfl hvalue
    exact ⟨v, hget, by simpa using hmin _ rfl, by simp⟩
  | true =>
    rw [hrot] at hvalue
    change getKey arguments "angle_deg" = some value at hvalue
    obtain ⟨v, -, hget, hmin, hmax⟩ := getNumber_of_conforms hconforms rfl rfl rfl hvalue
    exact ⟨v, hget, by simpa using hmin _ rfl, fun _ => hmax _ rfl⟩

/-- An allowed translation is not longer than the limit. -/
private theorem distance_of_allowed {command : SemanticCommand (PyFloat ℝ)} {target : MoveTarget (PyFloat ℝ)}
    {history : RateLimitHistory (PyFloat ℝ)} {now : PyFloat ℝ} {currentPose : Option (Pose2D (PyFloat ℝ))}
    (hop : command.operation = .move) (htarget : command.target = .move target)
    (hrot : target.direction.isRotation = false)
    (hallow : Decides .allow history safety now command currentPose) {d : PyFloat ℝ} (hd : target.distanceM = some d) :
    ¬ safety.maxMoveDistanceM < d := by
  have htranslating : Translating command := Or.inl ⟨target, hop, htarget, hrot⟩
  obtain ⟨-, hdistance, -⟩ := (decides_allow_of_translating htranslating).1 hallow
  have htravel : travelDistance command currentPose = some d := by simp [travelDistance, htarget, hd]
  have hlimit : distanceLimit safety command = safety.maxMoveDistanceM := by simp [distanceLimit, htarget]
  intro hlt
  exact hdistance ⟨d, htravel, by rw [hlimit]; exact hlt⟩

/-- A condition on a number that is present. -/
private theorem bounds_iff {P : Prop} {Q R : PyFloat ℝ → Prop} {o : Option (PyFloat ℝ)} {v : PyFloat ℝ}
    (hv : P → o = some v) (hQR : P → (Q v ↔ R v)) : (P → ∃ d, o = some d ∧ Q d) ↔ (P → ∀ d, o = some d → R d) := by
  refine forall_congr' fun hP => ?_
  rw [hv hP]
  simp [hQR hP]

/-- A MOVE that is allowed carries finite numbers within their bounds exactly when no gap is used. -/
theorem boundedMove_iff {command : SemanticCommand (PyFloat ℝ)} {target : MoveTarget (PyFloat ℝ)}
    {history : RateLimitHistory (PyFloat ℝ)} {now : PyFloat ℝ} {currentPose : Option (Pose2D (PyFloat ℝ))}
    (hsafety : safety.Accepted) (htimeouts : timeouts.Accepted)
    (hconforms : Conforms moveTool.spec.inputSchema (.obj arguments))
    (hsemantic : semanticCheck "robot.move" arguments = none) (hop : command.operation = .move)
    (hbuild : buildTarget .move arguments = .ok command.target)
    (hresolve : resolveTimeoutS .move arguments timeouts = .ok command.timeoutS)
    (hallow : Decides .allow history safety now command currentPose) (htarget : command.target = .move target) :
    BoundedMove safety timeouts command.timeoutS target ↔ MoveScreened safety timeouts arguments := by
  obtain ⟨direction, hdirection, hcommand⟩ := buildTarget_move hbuild
  have hfields : target = ⟨direction, getNumber arguments "distance_m", getNumber arguments "angle_deg"⟩ := by
    rw [htarget] at hcommand
    exact Target.move.inj hcommand
  subst hfields
  obtain ⟨v, hget, hlow, hhigh⟩ := requiredArgument_number hconforms hsemantic hdirection
  have htimeout := resolveTimeoutS_bounded_iff htimeouts hconforms hresolve
  have hrequired : ∀ key, requiredArgument direction = key → getNumber arguments key = some v := by
    rintro _ rfl
    exact hget
  have hdistance : (direction.isRotation = false → ∃ d, getNumber arguments "distance_m" = some d ∧ d.IsFinite ∧
      0 ≤ d ∧ d ≤ safety.maxMoveDistanceM) ↔ (direction.isRotation = false → ∀ d,
      getNumber arguments "distance_m" = some d → Screened safety.maxMoveDistanceM d) := by
    refine bounds_iff (v := v) ?_ ?_
    · intro hrot
      exact hrequired _ (by simp [requiredArgument, hrot])
    · intro hrot
      have hd := hrequired "distance_m" (by simp [requiredArgument, hrot])
      exact screened_iff hsafety.maxMoveDistanceM hlow (distance_of_allowed hop htarget hrot hallow hd)
  have hangle : (direction.isRotation = true → ∃ a, getNumber arguments "angle_deg" = some a ∧ a.IsFinite ∧
      0 ≤ a ∧ a ≤ ((360 : ℤ) : PyFloat ℝ)) ↔ (direction.isRotation = true → ∀ a,
      getNumber arguments "angle_deg" = some a → a ≠ .nan) := by
    refine bounds_iff (v := v) ?_ ?_
    · intro hrot
      exact hrequired _ (by simp [requiredArgument, hrot])
    · intro hrot
      exact (screened_iff (by simp) hlow (hhigh hrot)).trans screened_fin
  constructor
  · intro h
    obtain ⟨ht, hdefault⟩ := htimeout.1 h.timeout
    refine ⟨ht, hdefault, ?_, ?_⟩
    · intro d hd
      obtain rfl : direction = d := by rw [hdirection] at hd; exact Except.ok.inj hd
      exact hdistance.1 h.distance
    · intro d hd
      obtain rfl : direction = d := by rw [hdirection] at hd; exact Except.ok.inj hd
      exact hangle.1 h.angle
  · intro h
    exact ⟨htimeout.2 ⟨h.timeout, h.default⟩, hdistance.2 (h.distance direction hdirection),
      hangle.2 (h.angle direction hdirection)⟩

end Move

/-! ### The arguments of `robot.navigate` -/

/-- The coordinates that a NAVIGATE carries to its backend are finite. -/
structure FiniteGoal (target : NavigateTarget (PyFloat ℝ)) : Prop where
  x : target.x.IsFinite
  y : target.y.IsFinite
  yaw : ∀ yaw ∈ target.yaw, yaw.IsFinite

/-- A coordinate is not `nan`, and not infinite either where the distance limit would not see it. -/
def CoordinateScreened (safety : SafetyConfig (PyFloat ℝ)) (currentPose : Option (Pose2D (PyFloat ℝ)))
    (z : PyFloat ℝ) : Prop :=
  z ≠ .nan ∧ (z.isInf = true →
    safety.maxNavigationDistanceM ≠ .posInf ∧ ∀ pose ∈ currentPose, pose.x.IsFinite ∧ pose.y.IsFinite)

/-- The gaps that `robot.navigate` leaves are not used. -/
structure NavigateScreened (safety : SafetyConfig (PyFloat ℝ)) (currentPose : Option (Pose2D (PyFloat ℝ)))
    (arguments : List (String × Json (PyFloat ℝ))) : Prop where
  x : ∀ z, getNumber arguments "x" = some z → CoordinateScreened safety currentPose z
  y : ∀ z, getNumber arguments "y" = some z → CoordinateScreened safety currentPose z
  yaw : ∀ z, getNumber arguments "yaw" = some z → z.IsFinite

section Navigate

variable {safety : SafetyConfig (PyFloat ℝ)} {arguments : List (String × Json (PyFloat ℝ))}
  {currentPose : Option (Pose2D (PyFloat ℝ))}

private theorem CoordinateScreened.of_isFinite {z : PyFloat ℝ}
    (h : z.IsFinite) : CoordinateScreened safety currentPose z := by
  obtain ⟨a, rfl⟩ := h
  exact ⟨by simp, fun hinf => by cases hinf⟩

/-- An allowed NAVIGATE has a current pose, from which its goal is not farther away than the limit. -/
private theorem distance_of_allowed_navigate {command : SemanticCommand (PyFloat ℝ)}
    {target : NavigateTarget (PyFloat ℝ)}
    {history : RateLimitHistory (PyFloat ℝ)} {now : PyFloat ℝ} (hop : command.operation = .navigate)
    (htarget : command.target = .navigate target)
    (hallow : Decides .allow history safety now command currentPose) :
    ∃ pose, currentPose = some pose ∧
      ¬ safety.maxNavigationDistanceM < euclideanDistance pose.x pose.y target.x target.y := by
  obtain ⟨-, hdistance, hpose, -⟩ := (decides_allow_of_translating (Or.inr ⟨target, hop, htarget⟩)).1 hallow
  cases currentPose with
  | none => exact absurd (Or.inl ⟨hop, rfl⟩) hpose
  | some pose =>
    refine ⟨pose, rfl, fun hlt => hdistance ⟨euclideanDistance pose.x pose.y target.x target.y, ?_, ?_⟩⟩
    · simp [travelDistance, htarget]
    · simpa [distanceLimit, htarget] using hlt

/-- A NAVIGATE that is allowed carries finite coordinates exactly when no gap is used. -/
theorem finiteGoal_iff {command : SemanticCommand (PyFloat ℝ)} {target : NavigateTarget (PyFloat ℝ)}
    {history : RateLimitHistory (PyFloat ℝ)} {now : PyFloat ℝ} (hsafety : safety.Accepted)
    (hop : command.operation = .navigate) (hbuild : buildTarget .navigate arguments = .ok command.target)
    (hallow : Decides .allow history safety now command currentPose) (htarget : command.target = .navigate target) :
    FiniteGoal target ↔ NavigateScreened safety currentPose arguments := by
  obtain ⟨x, y, hx, hy, hcommand⟩ := buildTarget_navigate hbuild
  obtain ⟨pose, rfl, hdistance⟩ := distance_of_allowed_navigate hop htarget hallow
  have hfields : target = ⟨x, y, getNumber arguments "yaw"⟩ := by
    rw [htarget] at hcommand
    exact Target.navigate.inj hcommand
  subst hfields
  constructor
  · rintro ⟨hfx, hfy, hyaw⟩
    refine ⟨?_, ?_, hyaw⟩
    · intro z hz
      obtain rfl : x = z := by rw [hx] at hz; exact Option.some.inj hz
      exact .of_isFinite hfx
    · intro z hz
      obtain rfl : y = z := by rw [hy] at hz; exact Option.some.inj hz
      exact .of_isFinite hfy
  · rintro ⟨hsx, hsy, hyaw⟩
    obtain ⟨hnx, hix⟩ := hsx x hx
    obtain ⟨hny, hiy⟩ := hsy y hy
    by_cases hinf : x.isInf = true ∨ y.isInf = true
    · -- the distance limit would have denied an infinite coordinate
      obtain ⟨hlimit, hpose⟩ : safety.maxNavigationDistanceM ≠ .posInf ∧
          ∀ pose' ∈ some pose, pose'.x.IsFinite ∧ pose'.y.IsFinite := hinf.elim hix hiy
      obtain ⟨hpx, hpy⟩ := hpose pose rfl
      obtain ⟨hfx, hfy⟩ :=
        isFinite_of_distance hsafety.maxNavigationDistanceM hlimit hpx hpy hnx hny hdistance
      exact ⟨hfx, hfy, hyaw⟩
    · rw [not_or] at hinf
      have hfx : x.IsFinite := PyFloat.isFinite_of_not (mt PyFloat.isNan_iff.1 hnx) hinf.1
      have hfy : y.IsFinite := PyFloat.isFinite_of_not (mt PyFloat.isNan_iff.1 hny) hinf.2
      exact ⟨hfx, hfy, hyaw⟩

end Navigate

/-! ### From the call to the backend -/

/-- The numbers that a command carries to its backend are finite and within their bounds. -/
def BoundedArguments (safety : SafetyConfig (PyFloat ℝ)) (timeouts : TimeoutConfig (PyFloat ℝ))
    (command : SemanticCommand (PyFloat ℝ)) : Prop :=
  match command.target with
  | .move target => BoundedMove safety timeouts command.timeoutS target
  | .navigate target => FiniteGoal target
  | .none => True

/-- The call uses none of the gaps of its tool. -/
def ArgumentsScreened (provider : ToolProvider (PyFloat ℝ)) (currentPose : Option (Pose2D (PyFloat ℝ)))
    (toolName : String) (arguments : List (String × Json (PyFloat ℝ))) : Prop :=
  (toolName = "robot.move" → MoveScreened provider.safety provider.timeouts arguments) ∧
    (toolName = "robot.navigate" → NavigateScreened provider.safety currentPose arguments)

/-- A call that ends in a dispatch hands finite numbers within their bounds to the backend exactly when it uses none of
the gaps between the schema, the command factory and the policy engine. -/
theorem finiteArguments_iff {w : Wiring (PyFloat ℝ)} {as : List (Action (PyFloat ℝ))} {s : State (PyFloat ℝ)}
    {e : ExecId} {c : CommandRef} {call : BackendCall} {provider : ToolProvider (PyFloat ℝ)} {commandId : String}
    {createdAt : PyFloat ℝ} {toolName : String} {arguments : List (String × Json (PyFloat ℝ))} {sessionId : String}
    {currentPose : Option (Pose2D (PyFloat ℝ))} (hsafety : provider.safety.Accepted)
    (htimeouts : provider.timeouts.Accepted)
    (hcall : handleCall provider commandId createdAt toolName arguments sessionId = .ok (.submitted (w.command c)))
    (h : StepSystem.run (step w) State.initial as = some s)
    (hpolicy : StepSystem.Along (step w) (ShippedPolicy w provider.safety) State.initial as)
    (hdispatch : Event.called e c call ∈ s.log) (hstarts : call.Starts)
    (hpose : Event.poseReturned e currentPose ∈ s.log) :
    BoundedArguments provider.safety provider.timeouts (w.command c) ↔
      ArgumentsScreened provider currentPose toolName arguments := by
  obtain ⟨definition, hfound, hconforms, hsemantic, hcreate⟩ := handleCall_submitted_iff.1 hcall
  obtain ⟨hmem, rfl⟩ := toolDefinition_eq_some hfound
  obtain ⟨-, -, -, hop, -, hbuild, hresolve, -, -⟩ := create_eq_ok hcreate
  obtain ⟨hdispatches, history, now, hallow⟩ := dispatched_allowed h hpolicy hdispatch hstarts hpose
  unfold BoundedArguments ArgumentsScreened
  rw [hop] at hdispatches
  cases hdefinition : definition.operation with
  | move =>
    obtain rfl := eq_moveTool hmem hdefinition
    obtain ⟨direction, -, htarget⟩ := buildTarget_move hbuild
    rw [htarget]
    have hiff := boundedMove_iff hsafety htimeouts hconforms hsemantic hop hbuild hresolve hallow htarget
    dsimp only
    rw [hiff]
    simp [moveTool]
  | navigate =>
    obtain rfl := eq_navigateTool hmem hdefinition
    obtain ⟨x, y, -, -, htarget⟩ := buildTarget_navigate hbuild
    rw [htarget]
    have hiff := finiteGoal_iff hsafety hop hbuild hallow htarget
    dsimp only
    rw [hiff]
    simp [navigateTool]
  | _ => rw [hdefinition] at hdispatches; cases hdispatches

/-! ### A forward move -/

section Sample

open PyFloat

/-- A provider with the sample limits and the default timeouts. -/
noncomputable def sampleProvider : ToolProvider (PyFloat ℝ) :=
  ⟨"robot", "robot", sampleSafety (PyFloat ℝ), defaultTimeouts⟩

def forwardArguments (d t : PyFloat ℝ) : List (String × Json (PyFloat ℝ)) :=
  [("direction", .str "forward"), ("distance_m", .float d), ("timeout_s", .float t)]

noncomputable def forwardCommand (d t : PyFloat ℝ) : SemanticCommand (PyFloat ℝ) :=
  { sampleCommand (PyFloat ℝ) "A" .move (.move ⟨.forward, some d, none⟩) with
    timeoutS := pyMin t defaultTimeouts.moveMaxS
    provenance := ⟨"robot.move", forwardArguments d t, "session"⟩ }

/-- The manager to which it is submitted. -/
noncomputable def forwardWiring (d t : PyFloat ℝ) : Wiring (PyFloat ℝ) :=
  { sampleWiring (PyFloat ℝ) with command := fun _ => forwardCommand d t }

/-- The call passes the schema as far as its comparisons do not refuse the numbers. -/
theorem forward_submitted {d t : PyFloat ℝ} (hd : ¬ d < 0) (ht : ¬ t < fin ((0.1 : ℚ) : ℝ)) :
    handleCall sampleProvider "A" ((0 : ℤ) : PyFloat ℝ) "robot.move" (forwardArguments d t) "session" =
      .ok (.submitted (forwardCommand d t)) := by
  refine handleCall_submitted_iff.2 ⟨moveTool, rfl, conforms_closedObject ?_ ?_, rfl, rfl⟩
  · intro key hkey
    obtain rfl := List.mem_singleton.1 hkey
    rfl
  · intro field hfield
    simp only [forwardArguments, List.mem_cons, List.not_mem_nil, or_false] at hfield
    rcases hfield with rfl | rfl | rfl
    · refine ⟨directionSchema, rfl, (Schema.check_eq_none_iff _ "$" _).1 ?_⟩
      rfl
    · refine ⟨distanceSchema, rfl, conforms_number rfl rfl rfl ?_ (by rintro m ⟨⟩)⟩
      rintro m ⟨⟩
      simpa using hd
    · refine ⟨timeoutSchema, rfl, conforms_number rfl rfl rfl ?_ (by rintro m ⟨⟩)⟩
      rintro m ⟨⟩
      exact ht

/-- Without a current pose the policy engine allows it, as far as its comparison does not refuse the distance. -/
theorem forward_allowed {d t : PyFloat ℝ} (hd : ¬ (sampleSafety (PyFloat ℝ)).maxMoveDistanceM < d) :
    (check (fun _ => []) (sampleSafety (PyFloat ℝ)) (fin 0) (forwardCommand d t) none).1 =
      .ok ⟨.allow, none, none, sampleConstraints (PyFloat ℝ)⟩ := by
  have hrate : ¬ RateLimited (fun _ => []) "session" (sampleSafety (PyFloat ℝ)).rateLimitRps (fin 0) := by
    simp [RateLimited, rateWindow, sampleSafety]
  have hassess : assess (sampleSafety (PyFloat ℝ)) (forwardCommand d t) none = .ok (.ok ⟨some d, none⟩) := by
    have hfilter : (some d).filter (fun d => decide ((sampleSafety (PyFloat ℝ)).maxMoveDistanceM < d)) = none := by
      simp [hd]
    change assessMove (sampleSafety (PyFloat ℝ)) ⟨.forward, some d, none⟩ none = _
    unfold assessMove
    simp only [Direction.isRotation, Bool.false_eq_true, if_false, hfilter]
  rcases check_fst (fun _ => []) (sampleSafety (PyFloat ℝ)) (fin 0) none
    (show (forwardCommand d t).operation ≠ .stop from fun h => by cases h) with ⟨hr, -⟩ | ⟨-, hc⟩
  · exact absurd hr hrate
  · rw [hc, hassess]
    rfl

/-- The steps that bring it to the motion backend. -/
private theorem forward_dispatched {d t : PyFloat ℝ} (hd : ¬ (sampleSafety (PyFloat ℝ)).maxMoveDistanceM < d) :
    ∃ s, StepSystem.run (step (forwardWiring d t)) State.initial (.submit 0 :: sampleDispatch (PyFloat ℝ) 0) = some s ∧
      StepSystem.Along (step (forwardWiring d t)) (ShippedPolicy (forwardWiring d t) (sampleSafety (PyFloat ℝ)))
        State.initial (.submit 0 :: sampleDispatch (PyFloat ℝ) 0) ∧
      Event.called 0 0 .move ∈ s.log ∧ Event.poseReturned 0 none ∈ s.log := by
  have hother : ∀ a : Action (PyFloat ℝ), (∀ e now reply selected, a ≠ .resume e now (.check reply selected)) →
      ∀ s, ShippedPolicy (forwardWiring d t) (sampleSafety (PyFloat ℝ)) s a :=
    fun a ha s e now reply selected x q heq => absurd heq (ha e now reply selected)
  refine ⟨_, rfl, .cons (hother _ (by simp) _) rfl (.cons (hother _ (by simp) _) rfl
    (.cons (hother _ (by simp) _) rfl (.cons ?_ rfl .nil))), ?_, ?_⟩
  · rintro e now reply selected x q heq hx hq
    cases heq
    obtain rfl := Option.some.inj hx
    obtain rfl := Point.check.inj hq
    exact ⟨fun _ => [], fin 0, forward_allowed hd⟩
  · show _ ∈ [_, _, _, _]
    simp
  · show _ ∈ [_, _, _, _]
    simp

private theorem sampleProvider_accepted : sampleProvider.safety.Accepted ∧ sampleProvider.timeouts.Accepted := by
  have htimeouts : (TimeoutConfig.defaults fun q => (fin (q : ℝ) : PyFloat ℝ)).Accepted :=
    TimeoutConfig.defaults_accepted (by simp) (by simp)
  refine ⟨?_, htimeouts⟩
  constructor <;> simp [sampleProvider, sampleSafety, sampleConstraints]

/-- A call with the given distance and timeout is dispatched, and the backend does not get bounded numbers. -/
def ReachesUnbounded (d t : PyFloat ℝ) : Prop :=
  handleCall sampleProvider "A" ((0 : ℤ) : PyFloat ℝ) "robot.move" (forwardArguments d t) "session" =
      .ok (.submitted ((forwardWiring d t).command 0)) ∧
    (∃ s, StepSystem.run (step (forwardWiring d t)) State.initial (.submit 0 :: sampleDispatch (PyFloat ℝ) 0) = some s ∧
      StepSystem.Along (step (forwardWiring d t)) (ShippedPolicy (forwardWiring d t) sampleProvider.safety)
        State.initial (.submit 0 :: sampleDispatch (PyFloat ℝ) 0) ∧
      Event.called 0 0 .move ∈ s.log) ∧
    ¬ BoundedArguments sampleProvider.safety sampleProvider.timeouts ((forwardWiring d t).command 0)

/-- A timeout or a distance that is `nan` gets to the motion backend. -/
theorem finiteArguments_nan : ReachesUnbounded (fin 1) .nan ∧ ReachesUnbounded .nan (fin 30) := by
  have hmax : ¬ (sampleSafety (PyFloat ℝ)).maxMoveDistanceM < fin 1 := by
    simp [sampleSafety, sampleConstraints]
  have hlow : ¬ (fin 30 : PyFloat ℝ) < fin ((0.1 : ℚ) : ℝ) := by norm_num
  constructor
  · obtain ⟨s, hrun, hpolicy, hcalled, -⟩ := forward_dispatched (t := .nan) hmax
    refine ⟨forward_submitted (by simp) PyFloat.not_nan_lt, ⟨s, hrun, hpolicy, hcalled⟩, ?_⟩
    intro h
    have htimeout : PyFloat.IsFinite (pyMin .nan defaultTimeouts.moveMaxS) := h.timeout.1
    simp [pyMin] at htimeout
  · obtain ⟨s, hrun, hpolicy, hcalled, -⟩ := forward_dispatched (d := .nan) (t := fin 30) PyFloat.not_lt_nan
    refine ⟨forward_submitted PyFloat.not_nan_lt hlow, ⟨s, hrun, hpolicy, hcalled⟩, ?_⟩
    intro h
    obtain ⟨d, hd, hfinite, -⟩ := h.distance rfl
    obtain rfl := Option.some.inj hd
    simp at hfinite

/-- A finite distance and timeout within their bounds get there as they are. -/
theorem finiteArguments_sample : BoundedArguments sampleProvider.safety sampleProvider.timeouts
    ((forwardWiring (fin 1) (fin 30)).command 0) := by
  have hmax : ¬ (sampleSafety (PyFloat ℝ)).maxMoveDistanceM < fin 1 := by
    simp [sampleSafety, sampleConstraints]
  have hlow : ¬ (fin 30 : PyFloat ℝ) < fin ((0.1 : ℚ) : ℝ) := by norm_num
  obtain ⟨s, hrun, hpolicy, hcalled, hpose⟩ := forward_dispatched (t := fin 30) hmax
  refine (finiteArguments_iff sampleProvider_accepted.1 sampleProvider_accepted.2
    (forward_submitted (by simp) hlow) hrun hpolicy hcalled (Or.inl rfl) hpose).2 ⟨fun _ => ⟨?_, ?_, ?_, ?_⟩, ?_⟩
  · intro t ht
    obtain rfl := Option.some.inj ht
    simp [Screened]
  · intro h
    cases h
  · intro direction _ _ d hd
    obtain rfl := Option.some.inj hd
    simp [Screened]
  · intro direction hdirection hrot
    obtain rfl := Except.ok.inj hdirection
    cases hrot
  · intro h
    exact absurd h (by decide)

end Sample

end RosMcp
