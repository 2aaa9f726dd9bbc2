import RosMcp.Geometry
import RosMcp.Contracts.Config

/-!
# The safety policy engine (`safety/policy_engine.py`)

`check` runs the checks in the order of the source: the rate limit, the distance limit, the geofence on the predicted
position, and the approval policy.  It returns the outcome, or the exception that it raises, together with the rate
limit history that it leaves behind.

The results: a STOP is always allowed and leaves the history alone (`check_stop`); any other command is allowed
exactly when none of the four checks stops it (`decides_allow_iff`), and denied exactly when one of the first three
does (`decides_deny_iff`).
-/

namespace RosMcp

variable {N : Type} [IntCast N] [Add N] [Sub N] [Mul N] [PyMath N] [LT N] [DecidableLT N] [LE N] [DecidableLE N]

/-! ### The single checks -/

/-- `_predicted_move_endpoint` -/
def predictedMoveEndpoint (target : MoveTarget N) (currentPose : Pose2D N) : Except PyException (N × N) :=
  if target.direction.isRotation then .ok (currentPose.x, currentPose.y)
  else
    match target.distanceM with
    | none => .ok (currentPose.x, currentPose.y)
    | some d => projectTranslation target.direction d currentPose.x currentPose.y currentPose.yaw

/-- `_within_geofence` -/
def withinGeofence (xy : N × N) (safety : SafetyConfig N) : Prop :=
  (safety.geofence.minX ≤ xy.1 ∧ xy.1 ≤ safety.geofence.maxX) ∧
    safety.geofence.minY ≤ xy.2 ∧ xy.2 ≤ safety.geofence.maxY

instance (xy : N × N) (safety : SafetyConfig N) : Decidable (withinGeofence xy safety) :=
  inferInstanceAs (Decidable (_ ∧ _))

/-- `_rate_limit_history`: for each session, the times of the commands that got past the limiter. -/
abbrev RateLimitHistory (N : Type) := String → List N

/-- The entries of a session's history that are not older than one second. -/
def rateWindow (times : List N) (now : N) : List N := times.filter fun t => decide (now - ((1 : ℤ) : N) ≤ t)

/-- The session has used up its budget for the last second. -/
def RateLimited (history : RateLimitHistory N) (sessionId : String) (rateLimitRps now : N) : Prop :=
  rateLimitRps ≤ (((rateWindow (history sessionId) now).length : ℤ) : N)

instance (history : RateLimitHistory N) (sessionId : String) (rateLimitRps now : N) :
    Decidable (RateLimited history sessionId rateLimitRps now) :=
  inferInstanceAs (Decidable (_ ≤ _))

/-- `_check_rate_limit` -/
def checkRateLimit (history : RateLimitHistory N) (sessionId : String) (rateLimitRps now : N) :
    Option (ToolError N) × RateLimitHistory N :=
  if RateLimited history sessionId rateLimitRps now then
    (some { code := .permissionDenied
            message := [.text "rate limit exceeded (", .num rateLimitRps, .text " commands/sec)"]
            details := [("session_id", .text sessionId)] },
      Function.update history sessionId (rateWindow (history sessionId) now))
  else
    (none, Function.update history sessionId (rateWindow (history sessionId) now ++ [now]))

/-- `_check_hitl` -/
def checkHitl (safety : SafetyConfig N) (distanceM : Option N) : Option (Message N) :=
  match safety.approvalPolicy, distanceM with
  | .automatic, _ => none
  | .alwaysHuman, _ =>
    some [.text "human approval is required for all motion commands (approval_policy=always_human)"]
  | .policyBased, none => none
  | .policyBased, some d =>
    if safety.requiredAboveDistanceM < d then
      some [.text "this command will move the robot approximately ", .fixed2 d,
        .text "m; the configured limit for automatic approval is ", .num safety.requiredAboveDistanceM, .text "m"]
    else none

/-- What the distance check hands to the later checks: `distance_m` and `predicted_xy`. -/
structure Assessment (N : Type) where
  distanceM : Option N
  predictedXy : Option (N × N)

/-- The distance limit of a MOVE. -/
def assessMove (safety : SafetyConfig N) (target : MoveTarget N) (currentPose : Option (Pose2D N)) :
    Except PyException (Except (ToolError N) (Assessment N)) :=
  let distanceM := if target.direction.isRotation then none else target.distanceM
  match distanceM.filter fun d => decide (safety.maxMoveDistanceM < d) with
  | some d =>
    .ok (.error
      { code := .safetyRejected
        message := [.text "requested move distance ", .num d, .text "m exceeds the configured limit of ",
          .num safety.maxMoveDistanceM, .text "m"]
        details := [("requested_distance_m", .num d), ("max_move_distance_m", .num safety.maxMoveDistanceM)] })
  | none =>
    match currentPose with
    | none => .ok (.ok ⟨distanceM, none⟩)
    | some pose => (predictedMoveEndpoint target pose).map fun xy => .ok ⟨distanceM, some xy⟩

/-- The distance limit of a NAVIGATE. -/
def assessNavigate (safety : SafetyConfig N) (target : NavigateTarget N) (currentPose : Option (Pose2D N)) :
    Except (ToolError N) (Assessment N) :=
  match currentPose with
  | none =>
    .error
      { code := .robotNotReady
        message := [.text "cannot validate navigation distance without a known current pose"] }
  | some pose =>
    let distanceM := euclideanDistance pose.x pose.y target.x target.y
    if safety.maxNavigationDistanceM < distanceM then
      .error
        { code := .safetyRejected
          message := [.text "requested navigation distance ", .fixed2 distanceM,
            .text "m exceeds the configured limit of ", .num safety.maxNavigationDistanceM, .text "m"]
          details := [("requested_distance_m", .num distanceM),
            ("max_navigation_distance_m", .num safety.maxNavigationDistanceM)] }
    else .ok ⟨some distanceM, some (target.x, target.y)⟩

/-- `assert isinstance(command.target, ...)` -/
def assertionError : PyException := ⟨.assertionError, ""⟩

/-- The part of `check` between the rate limit and the geofence. -/
def assess (safety : SafetyConfig N) (command : SemanticCommand N) (currentPose : Option (Pose2D N)) :
    Except PyException (Except (ToolError N) (Assessment N)) :=
  match command.operation, command.target with
  | .move, .move target => assessMove safety target currentPose
  | .move, _ => .error assertionError
  | .navigate, .navigate target => .ok (assessNavigate safety target currentPose)
  | .navigate, _ => .error assertionError
  | _, _ => .ok (.ok ⟨none, none⟩)

/-- `safety.geofence.enabled and predicted_xy is not None and not _within_geofence(...)` -/
def OutsideGeofence (safety : SafetyConfig N) (a : Assessment N) : Prop :=
  safety.geofence.enabled = true ∧ ∃ xy ∈ a.predictedXy, ¬ withinGeofence xy safety

instance (safety : SafetyConfig N) (a : Assessment N) : Decidable (OutsideGeofence safety a) :=
  inferInstanceAs (Decidable (_ ∧ _))

/-- The part of `check` from the geofence on. -/
def conclude (safety : SafetyConfig N) (a : Assessment N) : SafetyOutcome N :=
  if OutsideGeofence safety a then
    { decision := .deny
      error := some
        { code := .safetyRejected
          message := [.text "predicted position lies outside the configured geofence"]
          details := (a.predictedXy.map fun xy =>
            [("predicted_x", Detail.num xy.1), ("predicted_y", Detail.num xy.2)]).getD [] }
      approvalReason := none
      resolvedConstraints := resolveSafetyConstraints safety }
  else
    match checkHitl safety a.distanceM with
    | some reason => ⟨.requireApproval, none, some reason, resolveSafetyConstraints safety⟩
    | none => ⟨.allow, none, none, resolveSafetyConstraints safety⟩

/-! ### The whole check -/

/-- `DefaultSafetyPolicyEngine.check` -/
def check (history : RateLimitHistory N) (safety : SafetyConfig N) (now : N) (command : SemanticCommand N)
    (currentPose : Option (Pose2D N)) : Except PyException (SafetyOutcome N) × RateLimitHistory N :=
  if command.operation = .stop then
    (.ok ⟨.allow, none, none, resolveSafetyConstraints safety⟩, history)
  else
    match checkRateLimit history command.sessionId safety.rateLimitRps now with
    | (some error, history') =>
      (.ok ⟨.deny, some error, none, resolveSafetyConstraints safety⟩, history')
    | (none, history') =>
      (match assess safety command currentPose with
        | .error exc => .error exc
        | .ok (.error error) => .ok ⟨.deny, some error, none, resolveSafetyConstraints safety⟩
        | .ok (.ok a) => .ok (conclude safety a),
        history')

/-- `check` returns an outcome with the given decision. -/
def Decides (d : SafetyDecision) (history : RateLimitHistory N) (safety : SafetyConfig N) (now : N)
    (command : SemanticCommand N) (currentPose : Option (Pose2D N)) : Prop :=
  ∃ o, (check history safety now command currentPose).1 = .ok o ∧ o.decision = d

omit [Add N] [Mul N] [PyMath N] [LT N] [DecidableLT N] in
theorem checkRateLimit_fst (history : RateLimitHistory N) (sessionId : String) (rateLimitRps now : N) :
    (checkRateLimit history sessionId rateLimitRps now).1 = none ↔
      ¬ RateLimited history sessionId rateLimitRps now := by
  unfold checkRateLimit
  split <;> simp_all

omit [IntCast N] [Add N] [Sub N] [Mul N] [PyMath N] in
theorem conclude_decision (safety : SafetyConfig N) (a : Assessment N) :
    (conclude safety a).decision =
      if OutsideGeofence safety a then .deny
      else if (checkHitl safety a.distanceM).isSome then .requireApproval else .allow := by
  unfold conclude
  split
  · rfl
  · cases checkHitl safety a.distanceM <;> rfl

/-- "stop is never itself rejected by policy", and it neither uses nor changes a budget. -/
theorem check_stop (history : RateLimitHistory N) (safety : SafetyConfig N) (now : N)
    {command : SemanticCommand N} (currentPose : Option (Pose2D N)) (h : command.operation = .stop) :
    check history safety now command currentPose =
      (.ok ⟨.allow, none, none, resolveSafetyConstraints safety⟩, history) := by
  unfold check
  rw [if_pos h]

/-- The outcome of a command that is not a STOP. -/
theorem check_fst (history : RateLimitHistory N) (safety : SafetyConfig N) (now : N)
    {command : SemanticCommand N} (currentPose : Option (Pose2D N)) (h : command.operation ≠ .stop) :
    (RateLimited history command.sessionId safety.rateLimitRps now ∧
      ∃ error, (check history safety now command currentPose).1 =
        .ok ⟨.deny, some error, none, resolveSafetyConstraints safety⟩) ∨
    (¬ RateLimited history command.sessionId safety.rateLimitRps now ∧
      (check history safety now command currentPose).1 =
        match assess safety command currentPose with
        | .error exc => .error exc
        | .ok (.error error) => .ok ⟨.deny, some error, none, resolveSafetyConstraints safety⟩
        | .ok (.ok a) => .ok (conclude safety a)) := by
  have hr := checkRateLimit_fst history command.sessionId safety.rateLimitRps now
  unfold check
  rw [if_neg h]
  rcases hc : checkRateLimit history command.sessionId safety.rateLimitRps now with ⟨_ | error, history'⟩
  · right
    rw [hc] at hr
    exact ⟨hr.1 rfl, rfl⟩
  · left
    rw [hc] at hr
    exact ⟨not_not.1 fun hn => by simpa using hr.2 hn, error, rfl⟩

/-- A command is allowed exactly when no check stops it. -/
theorem decides_allow_iff {history : RateLimitHistory N} {safety : SafetyConfig N} {now : N}
    {command : SemanticCommand N} {currentPose : Option (Pose2D N)} (h : command.operation ≠ .stop) :
    Decides .allow history safety now command currentPose ↔
      ¬ RateLimited history command.sessionId safety.rateLimitRps now ∧
        ∃ a, assess safety command currentPose = .ok (.ok a) ∧ ¬ OutsideGeofence safety a ∧
          checkHitl safety a.distanceM = none := by
  unfold Decides
  rcases check_fst history safety now currentPose h with ⟨hr, error, hc⟩ | ⟨hr, hc⟩
  · rw [hc]
    simp [hr]
  · rw [hc]
    rcases assess safety command currentPose with exc | error | a
    · simp
    · simp
    · simp only [Except.ok.injEq, exists_eq_left', conclude_decision, hr, not_false_eq_true, true_and]
      by_cases ho : OutsideGeofence safety a
      · simp [ho]
      · cases hh : checkHitl safety a.distanceM <;> simp [ho]

/-- A command is denied exactly when the rate limit, the distance check or the geofence stops it. -/
theorem decides_deny_iff {history : RateLimitHistory N} {safety : SafetyConfig N} {now : N}
    {command : SemanticCommand N} {currentPose : Option (Pose2D N)} (h : command.operation ≠ .stop) :
    Decides .deny history safety now command currentPose ↔
      RateLimited history command.sessionId safety.rateLimitRps now ∨
        (∃ error, assess safety command currentPose = .ok (.error error)) ∨
        ∃ a, assess safety command currentPose = .ok (.ok a) ∧ OutsideGeofence safety a := by
  unfold Decides
  rcases check_fst history safety now currentPose h with ⟨hr, error, hc⟩ | ⟨hr, hc⟩
  · rw [hc]
    simp [hr]
  · rw [hc]
    rcases assess safety command currentPose with exc | error | a
    · simp [hr]
    · simp [hr]
    · simp only [Except.ok.injEq, exists_eq_left', conclude_decision, hr, false_or]
      by_cases ho : OutsideGeofence safety a
      · simp [ho]
      · cases hh : checkHitl safety a.distanceM <;> simp [ho]

/-- Every denial says why. -/
theorem check_deny_error {history : RateLimitHistory N} {safety : SafetyConfig N} {now : N}
    {command : SemanticCommand N} {currentPose : Option (Pose2D N)} {o : SafetyOutcome N}
    (h : (check history safety now command currentPose).1 = .ok o) (hd : o.decision = .deny) :
    o.error ≠ none := by
  by_cases hs : command.operation = .stop
  · rw [check_stop history safety now currentPose hs, Except.ok.injEq] at h
    subst h
    cases hd
  · rcases check_fst history safety now currentPose hs with ⟨-, error, hc⟩ | ⟨-, hc⟩
    · rw [hc, Except.ok.injEq] at h
      subst h
      simp
    · rw [hc] at h
      rcases ha : assess safety command currentPose with exc | error | a <;>
        simp only [ha, reduceCtorEq, Except.ok.injEq] at h
      · subst h
        simp
      · subst h
        unfold conclude at hd ⊢
        split
        · simp
        · cases hh : checkHitl safety a.distanceM <;> simp_all

end RosMcp
