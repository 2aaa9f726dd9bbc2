import RosMcp.Safety.Geofence

/-!
# Stricter configurations decide more strictly

Every check of the policy engine compares a quantity that does not depend on the limits (the length of the rate
window, the distance, the predicted position) with one limit.  Tightening the limit keeps a check that stops a command
stopping it, and the quantities handed to the later checks stay the same, so the decision can only go down in
DENY < REQUIRE_APPROVAL < ALLOW (`check_monotone`).
-/

namespace RosMcp

/-- DENY < REQUIRE_APPROVAL < ALLOW -/
def SafetyDecision.rank : SafetyDecision → Nat
  | .deny => 0
  | .requireApproval => 1
  | .allow => 2

/-- automatic < policy_based < always_human -/
def ApprovalPolicy.rank : ApprovalPolicy → Nat
  | .automatic => 0
  | .policyBased => 1
  | .alwaysHuman => 2

/-- The rectangle of the first geofence is inside that of the second. -/
structure GeofenceConfig.Inside {N : Type} [LE N] (g g₂ : GeofenceConfig N) : Prop where
  minX : g₂.minX ≤ g.minX
  maxX : g.maxX ≤ g₂.maxX
  minY : g₂.minY ≤ g.minY
  maxY : g.maxY ≤ g₂.maxY

/-- `s` is at least as strict as `s₂`. -/
structure SafetyConfig.AtLeastAsStrict {N : Type} [LE N] (s s₂ : SafetyConfig N) : Prop where
  rateLimitRps : s.rateLimitRps ≤ s₂.rateLimitRps
  maxMoveDistanceM : s.maxMoveDistanceM ≤ s₂.maxMoveDistanceM
  maxNavigationDistanceM : s.maxNavigationDistanceM ≤ s₂.maxNavigationDistanceM
  requiredAboveDistanceM : s.requiredAboveDistanceM ≤ s₂.requiredAboveDistanceM
  approvalPolicy : s₂.approvalPolicy.rank ≤ s.approvalPolicy.rank
  geofence : s₂.geofence.enabled = true → s.geofence.enabled = true ∧ s.geofence.Inside s₂.geofence

section Checks

open PyFloat

variable {s s₂ : SafetyConfig (PyFloat ℝ)} {history : RateLimitHistory (PyFloat ℝ)} {now : PyFloat ℝ}
  {currentPose : Option (Pose2D (PyFloat ℝ))}

private theorem RateLimited.mono (h : s.AtLeastAsStrict s₂) {sessionId : String}
    (hr : RateLimited history sessionId s₂.rateLimitRps now) : RateLimited history sessionId s.rateLimitRps now :=
  PyFloat.le_trans h.rateLimitRps hr

private theorem withinGeofence.mono (h : s.geofence.Inside s₂.geofence) {xy : PyFloat ℝ × PyFloat ℝ}
    (hxy : withinGeofence xy s) : withinGeofence xy s₂ := by
  obtain ⟨⟨hminX, hmaxX⟩, hminY, hmaxY⟩ := hxy
  exact ⟨⟨PyFloat.le_trans h.minX hminX, PyFloat.le_trans hmaxX h.maxX⟩, PyFloat.le_trans h.minY hminY,
    PyFloat.le_trans hmaxY h.maxY⟩

private theorem OutsideGeofence.mono (h : s.AtLeastAsStrict s₂) {a : Assessment (PyFloat ℝ)}
    (ha : OutsideGeofence s₂ a) :
    OutsideGeofence s a := by
  obtain ⟨henabled, xy, hxy, hout⟩ := ha
  obtain ⟨henabled', hinside⟩ := h.geofence henabled
  exact ⟨henabled', xy, hxy, fun hin => hout (hin.mono hinside)⟩

private theorem checkHitl_mono (h : s.AtLeastAsStrict s₂) {distanceM : Option (PyFloat ℝ)}
    (hh : (checkHitl s₂ distanceM).isSome = true) : (checkHitl s distanceM).isSome = true := by
  have hp := h.approvalPolicy
  have hd := h.requiredAboveDistanceM
  unfold checkHitl at hh ⊢
  cases hs₂ : s₂.approvalPolicy with
  | automatic => simp [hs₂] at hh
  | alwaysHuman =>
    have hs : s.approvalPolicy = .alwaysHuman := by
      cases hs : s.approvalPolicy <;> simp [hs, hs₂, ApprovalPolicy.rank] at hp ⊢
    simp [hs]
  | policyBased =>
    cases distanceM with
    | none => simp [hs₂] at hh
    | some d =>
      have habove : s₂.requiredAboveDistanceM < d := by
        by_contra hn
        simp [hs₂, hn] at hh
      cases hs : s.approvalPolicy with
      | automatic => simp [hs, hs₂, ApprovalPolicy.rank] at hp
      | policyBased => simp [PyFloat.lt_of_le_of_lt hd habove]
      | alwaysHuman => simp

/-- The distance limit of a MOVE, and what it hands on. -/
private theorem assessMove_mono (h : s.AtLeastAsStrict s₂) {target : MoveTarget (PyFloat ℝ)}
    {r : Except (ToolError (PyFloat ℝ)) (Assessment (PyFloat ℝ))} (hr : assessMove s₂ target currentPose = .ok r) :
    (∃ error, assessMove s target currentPose = .ok (.error error)) ∨
      assessMove s target currentPose = .ok r ∧ ∃ a, r = .ok a := by
  unfold assessMove at hr ⊢
  dsimp only at hr ⊢
  generalize (if target.direction.isRotation = true then none else target.distanceM) = distanceM at hr ⊢
  cases hover : distanceM.filter (fun d => decide (s.maxMoveDistanceM < d)) with
  | some d => exact .inl ⟨_, rfl⟩
  | none =>
    -- what the stricter limit lets through, the other one does
    have hover₂ : distanceM.filter (fun d => decide (s₂.maxMoveDistanceM < d)) = none := by
      rw [Option.filter_eq_none_iff] at hover ⊢
      intro d hd hlt
      refine hover d hd ?_
      simpa using PyFloat.lt_of_le_of_lt h.maxMoveDistanceM (of_decide_eq_true hlt)
    right
    rw [hover₂] at hr
    refine ⟨hr, ?_⟩
    cases currentPose with
    | none => exact ⟨_, (Except.ok.inj hr).symm⟩
    | some pose =>
      dsimp only at hr
      rcases he : predictedMoveEndpoint target pose with exc | xy
      · rw [he] at hr
        cases hr
      · rw [he] at hr
        exact ⟨_, (Except.ok.inj hr).symm⟩

/-- The distance limit of a NAVIGATE, and what it hands on. -/
private theorem assessNavigate_mono (h : s.AtLeastAsStrict s₂) {target : NavigateTarget (PyFloat ℝ)}
    {r : Except (ToolError (PyFloat ℝ)) (Assessment (PyFloat ℝ))} (hr : assessNavigate s₂ target currentPose = r) :
    (∃ error, assessNavigate s target currentPose = .error error) ∨
      assessNavigate s target currentPose = r ∧ ∃ a, r = .ok a := by
  unfold assessNavigate at hr ⊢
  cases currentPose with
  | none => exact .inl ⟨_, rfl⟩
  | some pose =>
    dsimp only at hr ⊢
    by_cases hd : s.maxNavigationDistanceM < euclideanDistance pose.x pose.y target.x target.y
    · rw [if_pos hd]
      exact .inl ⟨_, rfl⟩
    · have hd₂ : ¬ s₂.maxNavigationDistanceM < euclideanDistance pose.x pose.y target.x target.y :=
        fun hlt => hd (PyFloat.lt_of_le_of_lt h.maxNavigationDistanceM hlt)
      rw [if_neg hd₂] at hr
      rw [if_neg hd]
      exact .inr ⟨hr, _, hr.symm⟩

/-- A stricter configuration denies at the distance check, or hands on the same distance and position. -/
private theorem assess_mono (h : s.AtLeastAsStrict s₂) {command : SemanticCommand (PyFloat ℝ)}
    {r : Except (ToolError (PyFloat ℝ)) (Assessment (PyFloat ℝ))} (hr : assess s₂ command currentPose = .ok r) :
    (∃ error, assess s command currentPose = .ok (.error error)) ∨
      assess s command currentPose = .ok r ∧ ∃ a, r = .ok a := by
  unfold assess at hr ⊢
  split at hr
  · exact assessMove_mono h hr
  · cases hr
  · rcases assessNavigate_mono h (Except.ok.inj hr) with ⟨error, he⟩ | ⟨he, ha⟩
    · exact .inl ⟨error, congrArg _ he⟩
    · exact .inr ⟨congrArg _ he, ha⟩
  · cases hr
  · exact .inr ⟨hr, _, (Except.ok.inj hr).symm⟩

/-- The geofence and the approval policy. -/
private theorem conclude_mono (h : s.AtLeastAsStrict s₂) (a : Assessment (PyFloat ℝ)) :
    (conclude s a).decision.rank ≤ (conclude s₂ a).decision.rank := by
  rw [conclude_decision, conclude_decision]
  by_cases ho : OutsideGeofence s a
  · rw [if_pos ho]
    exact Nat.zero_le _
  · have ho₂ : ¬ OutsideGeofence s₂ a := fun hout => ho (hout.mono h)
    rw [if_neg ho, if_neg ho₂]
    by_cases hh₂ : (checkHitl s₂ a.distanceM).isSome = true
    · rw [if_pos (checkHitl_mono h hh₂), if_pos hh₂]
    · rw [if_neg hh₂]
      split
      · exact Nat.le_succ _
      · exact Nat.le_refl _

end Checks

/-- Whenever the engine decides under `s₂`, it decides under every configuration that is at least as strict, and its
decision is at most the one under `s₂`; with numbers and poses of any kind, infinite and NaN ones included. -/
theorem check_monotone {s s₂ : SafetyConfig (PyFloat ℝ)} (h : s.AtLeastAsStrict s₂)
    (history : RateLimitHistory (PyFloat ℝ)) (now : PyFloat ℝ) (command : SemanticCommand (PyFloat ℝ))
    (currentPose : Option (Pose2D (PyFloat ℝ))) {o₂ : SafetyOutcome (PyFloat ℝ)}
    (ho₂ : (check history s₂ now command currentPose).1 = .ok o₂) :
    ∃ o, (check history s now command currentPose).1 = .ok o ∧ o.decision.rank ≤ o₂.decision.rank := by
  by_cases hstop : command.operation = .stop
  · rw [check_stop _ _ _ _ hstop] at ho₂ ⊢
    cases ho₂
    exact ⟨_, rfl, Nat.le_refl _⟩
  · rcases check_fst history s now currentPose hstop with ⟨-, error, hc⟩ | ⟨hlimit, hc⟩
    · exact ⟨_, hc, Nat.zero_le _⟩
    · -- the budget that `s` grants is granted by `s₂` as well
      have hlimit₂ : ¬ RateLimited history command.sessionId s₂.rateLimitRps now :=
        fun hr => hlimit (RateLimited.mono h hr)
      rcases check_fst history s₂ now currentPose hstop with ⟨hr, -⟩ | ⟨-, hc₂⟩
      · exact absurd hr hlimit₂
      rw [hc]
      rw [hc₂] at ho₂
      cases hassess₂ : assess s₂ command currentPose with
      | error exc =>
        rw [hassess₂] at ho₂
        cases ho₂
      | ok r =>
        rw [hassess₂] at ho₂
        rcases assess_mono h hassess₂ with ⟨error, he⟩ | ⟨he, a, rfl⟩
        · rw [he]
          exact ⟨_, rfl, Nat.zero_le _⟩
        · rw [he]
          cases ho₂
          exact ⟨_, rfl, conclude_mono h a⟩

/-! ### A tightened configuration -/

section Sample

open PyFloat

/-- The fenced configuration with a distance limit of half a metre, which also asks a human for every motion. -/
noncomputable def tightenedSafety : SafetyConfig (PyFloat ℝ) :=
  { fencedSafety with maxMoveDistanceM := fin ((1 / 2 : ℚ) : ℝ), approvalPolicy := .alwaysHuman }

private theorem tightenedSafety_strict : tightenedSafety.AtLeastAsStrict fencedSafety where
  rateLimitRps := by simp [tightenedSafety, fencedSafety, SafetyConfig.defaults]
  maxMoveDistanceM := by
    simp [tightenedSafety, fencedSafety, SafetyConfig.defaults]
    norm_num
  maxNavigationDistanceM := by simp [tightenedSafety, fencedSafety, SafetyConfig.defaults]
  requiredAboveDistanceM := by simp [tightenedSafety, fencedSafety, SafetyConfig.defaults]
  approvalPolicy := by decide
  geofence := fun _ => ⟨rfl, by constructor <;> simp [tightenedSafety, fencedSafety]⟩

/-- Without a pose, the move by one metre is allowed under the fenced configuration. -/
private theorem moveForward_allowed_none :
    Decides .allow (fun _ => []) fencedSafety (fin 0) moveForward none := by
  refine (decides_allow_iff (by decide)).2 ⟨?_, ⟨some (fin 1), none⟩, ?_, ?_, rfl⟩
  · simp [RateLimited, rateWindow, fencedSafety, SafetyConfig.defaults]
    norm_num
  · have hlimit : ¬ fencedSafety.maxMoveDistanceM < fin 1 := by
      simp [fencedSafety, SafetyConfig.defaults]
      norm_num
    simp [assess, assessMove, moveForward, Direction.isRotation, Option.filter, hlimit]
  · rintro ⟨-, xy, hxy, -⟩
    cases hxy

theorem check_monotone_sample :
    ∃ o₂, (check (fun _ => []) fencedSafety (fin 0) moveForward none).1 = .ok o₂ ∧ o₂.decision = .allow ∧
      ∃ o, (check (fun _ => []) tightenedSafety (fin 0) moveForward none).1 = .ok o ∧
        o.decision.rank ≤ o₂.decision.rank := by
  obtain ⟨o₂, ho₂, hallow⟩ := moveForward_allowed_none
  exact ⟨o₂, ho₂, hallow, check_monotone tightenedSafety_strict _ _ _ _ ho₂⟩

end Sample

end RosMcp
