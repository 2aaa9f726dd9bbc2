import RosMcp.Commands.Factory
import RosMcp.Safety.PolicyEngine

/-!
# When the geofence is fail-closed

A translating MOVE or a NAVIGATE is to be allowed under an enabled geofence only when its resulting position is
known, is expressed in `geofence.frame` and lies in the rectangle (`InGeofence`).  The policy engine compares
coordinates only: it reads `geofence.frame` nowhere, and it skips the fence when a MOVE has no current pose.  So the
fence is closed exactly when the position is known in the frame of the fence, or another check stops the command
(`geofence_failClosed_iff`).
-/

namespace RosMcp

variable {N : Type} [IntCast N] [Add N] [Sub N] [Mul N] [PyMath N] [LT N] [DecidableLT N] [LE N] [DecidableLE N]

/-- The commands that change the position of the robot. -/
def Translating (command : SemanticCommand N) : Prop :=
  (∃ t, command.operation = .move ∧ command.target = .move t ∧ t.direction.isRotation = false) ∨
    ∃ t, command.operation = .navigate ∧ command.target = .navigate t

/-- The position that a translating command results in, with the frame it is expressed in; `none` when it is not
known. -/
def resultingPosition (command : SemanticCommand N) (currentPose : Option (Pose2D N)) : Option (String × N × N) :=
  match command.target, currentPose with
  | .move t, some pose => (predictedMoveEndpoint t pose).toOption.map fun xy => (pose.frame, xy)
  | .navigate t, _ => some (command.goalFrame, t.x, t.y)
  | _, _ => none

/-- The distance that a translating command covers, as far as it is known. -/
def travelDistance (command : SemanticCommand N) (currentPose : Option (Pose2D N)) : Option N :=
  match command.target, currentPose with
  | .move t, _ => t.distanceM
  | .navigate t, some pose => some (euclideanDistance pose.x pose.y t.x t.y)
  | _, _ => none

/-- The configured limit on that distance. -/
def distanceLimit (safety : SafetyConfig N) (command : SemanticCommand N) : N :=
  match command.target with
  | .move _ => safety.maxMoveDistanceM
  | _ => safety.maxNavigationDistanceM

def DistanceExceeded (safety : SafetyConfig N) (command : SemanticCommand N) (currentPose : Option (Pose2D N)) :
    Prop :=
  ∃ d ∈ travelDistance command currentPose, distanceLimit safety command < d

/-- The current pose is missing where it is needed: for a NAVIGATE always, for a MOVE when its pose does not
determine an endpoint. -/
def PoseUnusable (command : SemanticCommand N) (currentPose : Option (Pose2D N)) : Prop :=
  (command.operation = .navigate ∧ currentPose = none) ∨
    (currentPose ≠ none ∧ resultingPosition command currentPose = none)

/-- The resulting position is known, is expressed in the frame of the fence and lies in the rectangle. -/
def InGeofence (safety : SafetyConfig N) (command : SemanticCommand N) (currentPose : Option (Pose2D N)) : Prop :=
  ∃ frame xy, resultingPosition command currentPose = some (frame, xy) ∧ frame = safety.geofence.frame ∧
    withinGeofence xy safety

/-- A condition other than the frame of the position stops the command. -/
def StoppedOtherwise (history : RateLimitHistory N) (safety : SafetyConfig N) (now : N)
    (command : SemanticCommand N) (currentPose : Option (Pose2D N)) : Prop :=
  RateLimited history command.sessionId safety.rateLimitRps now ∨
    DistanceExceeded safety command currentPose ∨
    (checkHitl safety (travelDistance command currentPose)).isSome = true ∨
    PoseUnusable command currentPose ∨
    ∃ frame xy, resultingPosition command currentPose = some (frame, xy) ∧ ¬ withinGeofence xy safety

omit [IntCast N] [Add N] [Sub N] [Mul N] [PyMath N] [LT N] [DecidableLT N] [LE N] [DecidableLE N] in
private theorem Translating.ne_stop {command : SemanticCommand N}
    (h : Translating command) : command.operation ≠ .stop := by
  rcases h with ⟨t, ho, -⟩ | ⟨t, ho, -⟩ <;> simp [ho]

omit [LE N] [DecidableLE N] in
/-- The assessment of a translating command: stopped by the limit or by a missing pose, or the distance together
with the position. -/
private theorem assess_of_translating {safety : SafetyConfig N} {command : SemanticCommand N}
    {currentPose : Option (Pose2D N)} (h : Translating command) {a : Assessment N} :
    assess safety command currentPose = .ok (.ok a) ↔
      ¬ DistanceExceeded safety command currentPose ∧ ¬ PoseUnusable command currentPose ∧
        a = ⟨travelDistance command currentPose, (resultingPosition command currentPose).map Prod.snd⟩ := by
  rcases h with ⟨t, ho, ht, hd⟩ | ⟨t, ho, ht⟩
  · have hx : DistanceExceeded safety command currentPose ↔
        (t.distanceM.filter fun d => decide (safety.maxMoveDistanceM < d)) ≠ none := by
      simp [DistanceExceeded, travelDistance, distanceLimit, ht, Option.filter_eq_none_iff]
    have ha : assess safety command currentPose = assessMove safety t currentPose := by
      simp [assess, ho, ht]
    rw [ha, hx]
    unfold assessMove
    simp only [hd, Bool.false_eq_true, if_false]
    rcases hf : t.distanceM.filter fun d => decide (safety.maxMoveDistanceM < d) with _ | d
    · rcases currentPose with _ | pose
      · simp [PoseUnusable, ho, resultingPosition, travelDistance, ht, eq_comm]
      · rcases he : predictedMoveEndpoint t pose with exc | xy
        · simp [PoseUnusable, resultingPosition, ht, he, Except.map, Except.toOption]
        · simp [PoseUnusable, ho, resultingPosition, travelDistance, ht, he, Except.map, Except.toOption, eq_comm]
    · simp
  · have ha : assess safety command currentPose = .ok (assessNavigate safety t currentPose) := by
      simp [assess, ho, ht]
    rw [ha]
    unfold assessNavigate
    rcases currentPose with _ | pose
    · simp [PoseUnusable, ho]
    · by_cases hx : safety.maxNavigationDistanceM < euclideanDistance pose.x pose.y t.x t.y
      · simp [DistanceExceeded, travelDistance, distanceLimit, ht, hx]
      · simp [DistanceExceeded, PoseUnusable, resultingPosition, travelDistance, distanceLimit, ht, hx, eq_comm]

/-- A translating command is allowed exactly when the rate limit, the distance limit, the approval policy and a
missing pose do not stop it and its position, where it is known, lies in the rectangle. -/
theorem decides_allow_of_translating {history : RateLimitHistory N} {safety : SafetyConfig N} {now : N}
    {command : SemanticCommand N} {currentPose : Option (Pose2D N)} (h : Translating command) :
    Decides .allow history safety now command currentPose ↔
      ¬ RateLimited history command.sessionId safety.rateLimitRps now ∧
        ¬ DistanceExceeded safety command currentPose ∧ ¬ PoseUnusable command currentPose ∧
        (safety.geofence.enabled = true →
          ∀ frame xy, resultingPosition command currentPose = some (frame, xy) → withinGeofence xy safety) ∧
        checkHitl safety (travelDistance command currentPose) = none := by
  rw [decides_allow_iff h.ne_stop]
  simp only [assess_of_translating h]
  constructor
  · rintro ⟨hr, a, ⟨hd, hp, rfl⟩, ho, hh⟩
    refine ⟨hr, hd, hp, ?_, hh⟩
    intro he frame xy hxy
    by_contra hw
    exact ho ⟨he, xy, by simp [hxy], hw⟩
  · rintro ⟨hr, hd, hp, hw, hh⟩
    refine ⟨hr, _, ⟨hd, hp, rfl⟩, ?_, hh⟩
    rintro ⟨he, xy, hxy, hn⟩
    obtain ⟨⟨frame, xy'⟩, hpos, rfl⟩ := Option.map_eq_some_iff.1 (Option.mem_def.1 hxy)
    exact hn (hw he frame _ hpos)

/-- The geofence is fail-closed exactly when the position is known in the frame of the fence or the command is
stopped for another reason. -/
theorem geofence_failClosed_iff (history : RateLimitHistory N) (safety : SafetyConfig N) (now : N)
    (command : SemanticCommand N) (currentPose : Option (Pose2D N)) (henabled : safety.geofence.enabled = true)
    (hcommand : Translating command) :
    (Decides .allow history safety now command currentPose → InGeofence safety command currentPose) ↔
      (∃ xy, resultingPosition command currentPose = some (safety.geofence.frame, xy)) ∨
        StoppedOtherwise history safety now command currentPose := by
  rw [decides_allow_of_translating hcommand]
  constructor
  · intro h
    by_contra hn
    rw [not_or] at hn
    obtain ⟨hframe, hstop⟩ := hn
    simp only [StoppedOtherwise, not_or] at hstop
    obtain ⟨hr, hd, hh, hp, hw⟩ := hstop
    have hall : ∀ frame xy, resultingPosition command currentPose = some (frame, xy) → withinGeofence xy safety := by
      intro frame xy hxy
      by_contra hout
      exact hw ⟨frame, xy, hxy, hout⟩
    obtain ⟨frame, xy, hxy, rfl, -⟩ := h ⟨hr, hd, hp, fun _ => hall, by simpa using hh⟩
    exact hframe ⟨xy, hxy⟩
  · rintro (⟨xy, hxy⟩ | hstop) ⟨hr, hd, hp, hw, hh⟩
    · exact ⟨_, xy, hxy, rfl, hw henabled _ xy hxy⟩
    · rcases hstop with h | h | h | h | ⟨frame, xy, hxy, hout⟩
      · exact absurd h hr
      · exact absurd h hd
      · simp [hh] at h
      · exact absurd h hp
      · exact absurd (hw henabled frame xy hxy) hout

/-! ### A fence around the origin -/

section Fence

open PyFloat

/-- The default configuration with a fence of two metres around the origin of the map. -/
noncomputable def fencedSafety : SafetyConfig (PyFloat ℝ) :=
  { SafetyConfig.defaults fun q => fin (q : ℝ) with
    geofence := ⟨true, "map", fin (-2 : ℚ), fin (2 : ℚ), fin (-2 : ℚ), fin (2 : ℚ)⟩ }

/-- The default timeouts. -/
noncomputable def defaultTimeouts : TimeoutConfig (PyFloat ℝ) := TimeoutConfig.defaults fun q => fin (q : ℝ)

/-- `robot.move` forward by one metre. -/
noncomputable def moveForward : SemanticCommand (PyFloat ℝ) where
  commandId := "A"
  sessionId := "session"
  robotId := "robot"
  operation := .move
  commandClass := .motion
  target := .move ⟨.forward, some (fin 1), none⟩
  frame := none
  timeoutS := defaultTimeouts.moveDefaultS
  priority := .normal
  safetyConstraints := some (resolveSafetyConstraints fencedSafety)
  provenance := ⟨"robot.move", [("direction", .str "forward"), ("distance_m", .float (fin 1))], "session"⟩
  confidence := none
  createdAt := fin 0
  expectedResultType := .motion

/-- The factory builds it from the arguments of a call. -/
theorem moveForward_created : create "robot" "A" (fin 0) "robot.move" .move .motion
    [("direction", .str "forward"), ("distance_m", .float (fin 1))] "session" fencedSafety defaultTimeouts =
      .ok moveForward := rfl

/-- A pose at the origin of the given frame. -/
noncomputable def originPose (frame : String) : Pose2D (PyFloat ℝ) := ⟨fin 0, fin 0, fin 0, frame, fin 0⟩

private theorem moveForward_position (frame : String) :
    resultingPosition moveForward (some (originPose frame)) = some (frame, fin 1, fin 0) := by
  simp [resultingPosition, moveForward, originPose, predictedMoveEndpoint, projectTranslation,
    translationLocalDelta, Direction.isRotation, bind, Except.bind, pure, Except.pure, Except.toOption]

private theorem moveForward_translating : Translating moveForward := Or.inl ⟨_, rfl, rfl, rfl⟩

/-- Nothing but the fence stops the move, when its endpoint is not known to lie outside. -/
private theorem moveForward_allowed (currentPose : Option (Pose2D (PyFloat ℝ)))
    (hknown : currentPose ≠ none → resultingPosition moveForward currentPose ≠ none)
    (hin : ∀ frame xy, resultingPosition moveForward currentPose = some (frame, xy) → withinGeofence xy fencedSafety) :
    Decides .allow (fun _ => []) fencedSafety (fin 0) moveForward currentPose := by
  rw [decides_allow_of_translating moveForward_translating]
  refine ⟨?_, ?_, ?_, fun _ => hin, ?_⟩
  · simp [RateLimited, rateWindow, fencedSafety, SafetyConfig.defaults]
    norm_num
  · have hd : travelDistance moveForward currentPose = some (fin 1) := by
      unfold travelDistance moveForward
      rfl
    rintro ⟨d, hd', hlt⟩
    rw [hd] at hd'
    obtain rfl := Option.some.inj hd'
    revert hlt
    simp [distanceLimit, moveForward, fencedSafety, SafetyConfig.defaults]
    norm_num
  · rintro (⟨ho, -⟩ | ⟨hp, hr⟩)
    · cases ho
    · exact hknown hp hr
  · rfl

/-- With a pose at the origin of any frame the move is allowed, since its endpoint has coordinates inside the fence. -/
private theorem moveForward_allowed_origin (frame : String) :
    Decides .allow (fun _ => []) fencedSafety (fin 0) moveForward (some (originPose frame)) := by
  refine moveForward_allowed (some (originPose frame)) (fun _ => by rw [moveForward_position]; simp) ?_
  intro frame' xy h
  rw [moveForward_position] at h
  obtain ⟨rfl, rfl⟩ := Prod.mk.inj (Option.some.inj h)
  simp [withinGeofence, fencedSafety]
  norm_num

/-- A move without a current pose is allowed under the fence, and so is one whose pose is in another frame than the
fence. -/
theorem geofence_open :
    fencedSafety.geofence.enabled = true ∧ Translating moveForward ∧
      (Decides .allow (fun _ => []) fencedSafety (fin 0) moveForward none ∧
        ¬ InGeofence fencedSafety moveForward none) ∧
      Decides .allow (fun _ => []) fencedSafety (fin 0) moveForward (some (originPose "odom")) ∧
        ¬ InGeofence fencedSafety moveForward (some (originPose "odom")) := by
  refine ⟨rfl, moveForward_translating, ⟨?_, ?_⟩, ?_, ?_⟩
  · refine moveForward_allowed none (fun h => absurd rfl h) ?_
    intro frame xy h
    cases h
  · rintro ⟨frame, xy, h, -⟩
    cases h
  · exact moveForward_allowed_origin "odom"
  · rintro ⟨frame, xy, h, hframe, -⟩
    rw [moveForward_position] at h
    obtain ⟨rfl, -⟩ := Prod.mk.inj (Option.some.inj h)
    exact absurd hframe (by simp [fencedSafety])

/-- With a pose in the frame of the fence, the allowed move ends inside it. -/
theorem geofence_closed_sample : InGeofence fencedSafety moveForward (some (originPose "map")) :=
  (geofence_failClosed_iff _ _ _ _ _ rfl moveForward_translating).2
    (Or.inl ⟨(fin 1, fin 0), moveForward_position "map"⟩) (moveForward_allowed_origin "map")

end Fence

end RosMcp
