import RosMcp.Perception.Correlation

/-!
# What `detect_objects` says about the detections

The objects are the detections that pass the label filter, one by one and in their order (`describeDetections_get`).
Each object says what is known of its distance, and `locate` is the only place where a position is made: without
localization in the base frame, with it from the transform, if the lookup has succeeded (`locate_cases`).  Both
placements keep the distance, since the placement in the map is a rotation and a translation.
-/

namespace RosMcp

open PyFloat

/-! ### The filter -/

/-- The label of the detection passes the filter: a filter that is missing or empty lets everything pass. -/
def PassesFilter (labels : Option (List String)) (d : DetectedObject2D) : Prop :=
  ∀ allowed, labels = some allowed → allowed ≠ [] → d.label ∈ allowed

noncomputable instance (labels : Option (List String)) : DecidablePred (PassesFilter labels) := fun _ =>
  Classical.dec _

private theorem filterLabels_eq (labels : Option (List String)) (detected : List DetectedObject2D) :
    filterLabels labels detected = detected.filter fun d => decide (PassesFilter labels d) := by
  have hall (h : ∀ allowed, labels = some allowed → allowed = []) :
      (detected.filter fun d => decide (PassesFilter labels d)) = detected := by
    rw [List.filter_eq_self]
    intro d _
    exact decide_eq_true fun allowed hallowed hne => absurd (h allowed hallowed) hne
  rcases labels with _ | _ | ⟨label, rest⟩
  · exact (hall fun allowed h => by cases h).symm
  · exact (hall fun allowed h => (Option.some.inj h).symm).symm
  · apply List.filter_congr
    intro d _
    rw [Bool.eq_iff_iff, List.contains_iff_mem, decide_eq_true_eq]
    constructor
    · intro hmem allowed h _
      obtain rfl := Option.some.inj h
      exact hmem
    · intro h
      exact h _ rfl (List.cons_ne_nil label rest)

/-! ### The position -/

/-- The lookup has answered with a transform. -/
def LookupSucceeds (lookup : Except PyException (TransformResult (PyFloat ℝ))) : Prop :=
  ∃ tf, lookup = .ok tf ∧ tf.ok = true

/-- The lookup has answered with one of its errors. -/
def LookupFails (lookup : Except PyException (TransformResult (PyFloat ℝ))) : Prop :=
  ∃ tf, lookup = .ok tf ∧ tf.ok = false

/-- The robot's position: the translation of the transform in the map, the origin in the base frame.  The pose in the
map has finite coordinates and a finite heading. -/
def RobotAt (localized : Bool) (lookup : Except PyException (TransformResult (PyFloat ℝ))) (x y : ℝ) : Prop :=
  if localized then
    ∃ tf, lookup = .ok tf ∧ tf.x = some (.fin x) ∧ tf.y = some (.fin y) ∧ ∃ yaw : ℝ, tf.yaw = some (.fin yaw)
  else x = 0 ∧ y = 0

section Locate

variable {adapter : PerceptionAdapter} {localized : Bool}
  {lookup : Except PyException (TransformResult (PyFloat ℝ))} {bearingRad d : ℝ}
  {position : Option (ObjectPosition (PyFloat ℝ))} {positionError : Option String}

/-- The three outcomes of `locate`. -/
theorem locate_cases (h : locate adapter localized lookup (.fin bearingRad) (.fin d) = .ok (position, positionError)) :
    (localized = false ∧ positionError = none ∧
      position = some ⟨.fin (d * Real.cos bearingRad), .fin (d * Real.sin bearingRad), adapter.baseFrame⟩) ∨
    (localized = true ∧ LookupFails lookup ∧ positionError = some "TF_UNAVAILABLE" ∧ position = none) ∨
    (localized = true ∧ positionError = none ∧ ∃ tf x y yaw c s, lookup = .ok tf ∧ tf.ok = true ∧ tf.x = some x ∧
      tf.y = some y ∧ tf.yaw = some yaw ∧ PyMath.cos yaw = .ok c ∧ PyMath.sin yaw = .ok s ∧ position = some
        ⟨x + .fin (d * Real.cos bearingRad) * c - .fin (d * Real.sin bearingRad) * s,
          y + .fin (d * Real.cos bearingRad) * s + .fin (d * Real.sin bearingRad) * c, "map"⟩) := by
  unfold locate at h
  simp only [cos_fin, sin_fin, bind, Except.bind, pure, Except.pure, fin_mul_fin] at h
  cases localized with
  | false =>
    left
    simp only [Bool.false_eq_true, if_false, Except.ok.injEq, Prod.mk.injEq] at h
    exact ⟨rfl, h.2.symm, h.1.symm⟩
  | true =>
    right
    cases lookup with
    | error exc => cases h
    | ok tf =>
      cases hok : tf.ok with
      | false =>
        left
        simp only [hok, if_true, Bool.false_eq_true, if_false, Except.ok.injEq, Prod.mk.injEq] at h
        exact ⟨rfl, ⟨tf, rfl, hok⟩, h.2.symm, h.1.symm⟩
      | true =>
        right
        simp only [hok, if_true] at h
        split at h
        · next x y yaw hx hy hyaw =>
          cases hc : PyMath.cos yaw with
          | error exc =>
            rw [hc] at h
            cases h
          | ok c =>
            cases hs : PyMath.sin yaw with
            | error exc =>
              rw [hc, hs] at h
              cases h
            | ok s =>
              rw [hc, hs] at h
              simp only [Except.ok.injEq, Prod.mk.injEq] at h
              exact ⟨rfl, h.2.symm, tf, x, y, yaw, c, s, rfl, hok, hx, hy, hyaw, hc, hs, h.1.symm⟩
        · cases h

/-- A position keeps the distance from the robot. -/
private theorem locate_distance (hd : 0 ≤ d)
    (h : locate adapter localized lookup (.fin bearingRad) (.fin d) = .ok (position, positionError))
    {p : ObjectPosition (PyFloat ℝ)} (hp : position = some p) :
    p.frame = (if localized then "map" else adapter.baseFrame) ∧
      ∀ x₀ y₀, RobotAt localized lookup x₀ y₀ → euclideanDistance (.fin x₀) (.fin y₀) p.x p.y = .fin d := by
  have hlength := sqrt_polar hd bearingRad
  rcases locate_cases h with ⟨rfl, -, hpos⟩ | ⟨-, -, -, hpos⟩ | ⟨rfl, -, tf, x, y, yaw, c, s, hlookup, -, hx, hy, hyaw,
    hc, hs, hpos⟩
  · obtain rfl := Option.some.inj (hp.symm.trans hpos)
    refine ⟨rfl, ?_⟩
    rintro x₀ y₀ ⟨rfl, rfl⟩
    simpa [euclideanDistance] using hlength
  · rw [hp] at hpos
    cases hpos
  · obtain rfl := Option.some.inj (hp.symm.trans hpos)
    refine ⟨rfl, ?_⟩
    rintro x₀ y₀ ⟨tf', hlookup', hx₀, hy₀, θ, hθ⟩
    obtain rfl := Except.ok.inj (hlookup'.symm.trans hlookup)
    obtain rfl := Option.some.inj (hx.symm.trans hx₀)
    obtain rfl := Option.some.inj (hy.symm.trans hy₀)
    obtain rfl := Option.some.inj (hyaw.symm.trans hθ)
    obtain rfl := Except.ok.inj hc
    obtain rfl := Except.ok.inj hs
    have hrotated := (sqrt_rotate (d * Real.cos bearingRad) (d * Real.sin bearingRad) θ).trans hlength
    simp only [euclideanDistance, fin_mul_fin, fin_add_fin, fin_sub_fin, hypot_fin, PyFloat.fin.injEq]
    rw [add_sub_assoc, add_sub_cancel_left, add_assoc, add_sub_cancel_left]
    exact hrotated

end Locate

/-! ### One detection -/

/-- The object says of the detection what is known of it. -/
structure Described (adapter : PerceptionAdapter) (localized : Bool)
    (lookup : Except PyException (TransformResult (PyFloat ℝ))) (det : DetectedObject2D)
    (object : DetectedObject (PyFloat ℝ)) : Prop where
  label : object.label = det.label
  confidence : object.confidence = det.confidence
  bbox : object.bboxPx = det.bboxPx
  distance : object.distanceM = none ↔ object.distanceSource = .unavailable
  position : object.position ≠ none ↔ object.distanceM ≠ none ∧ (localized = false ∨ LookupSucceeds lookup)
  error : object.positionError = some "TF_UNAVAILABLE" ↔
    object.distanceM ≠ none ∧ localized = true ∧ LookupFails lookup
  away : ∀ p, object.position = some p → p.frame = (if localized then "map" else adapter.baseFrame) ∧
    ∀ x₀ y₀, RobotAt localized lookup x₀ y₀ →
      object.distanceM = some (euclideanDistance (.fin x₀) (.fin y₀) p.x p.y)

/-- The scan of the analysis, if there is one, reports no negative ranges. -/
def FromScan (analysis : Option LaserScanAnalysis) : Prop :=
  ∀ a, analysis = some a → ∃ scan, analyzeLaserScan scan = .ok a ∧ 0 ≤ scan.rangeMin

/-- The distance of an object, with its source. -/
noncomputable def measure (analysis : Option LaserScanAnalysis) (bearingRad toleranceRad : PyFloat ℝ) :
    Option (PyFloat ℝ) × DistanceSource :=
  match analysis with
  | none => (none, .unavailable)
  | some analysis => correlateDistance analysis bearingRad toleranceRad

theorem measure_cases {analysis : Option LaserScanAnalysis} (h : FromScan analysis) (bearingRad : ℝ)
    (toleranceRad : PyFloat ℝ) :
    measure analysis (.fin bearingRad) toleranceRad = (none, .unavailable) ∨
      ∃ d : ℝ, 0 ≤ d ∧ measure analysis (.fin bearingRad) toleranceRad = (some (.fin d), .laserScanCorrelation) := by
  cases analysis with
  | none => exact Or.inl rfl
  | some a =>
    obtain ⟨scan, hscan, hmin⟩ := h a rfl
    have hbearing := (correlateDistance_summary hscan bearingRad toleranceRad).1
    by_cases hnone : correlateDistance a (.fin bearingRad) toleranceRad = (none, .unavailable)
    · exact Or.inl hnone
    · obtain ⟨i, x, δ, hsummary, -, -, hresult, -⟩ := hbearing.closest hnone
      refine Or.inr ⟨x, ?_, hresult⟩
      by_contra hneg
      have hbelow : PyFloat.fin x < .fin 0 := fin_lt_fin.2 (not_le.1 hneg)
      exact hsummary.counts.notBelow (PyFloat.lt_of_lt_of_le hbelow hmin)

section Describe

variable {adapter : PerceptionAdapter} {analysis : Option LaserScanAnalysis} {localized : Bool} {widthPx : ℤ}
  {det : DetectedObject2D} {object : DetectedObject (PyFloat ℝ)}

/-- The bearing of a detection: the centre of its box. -/
noncomputable def bearingOf (adapter : PerceptionAdapter) (widthPx : ℤ) (det : DetectedObject2D) : ℝ :=
  estimateBearingRad ((det.bboxPx.1 + det.bboxPx.2.2.1) / ((2.0 : ℚ) : ℝ)) widthPx adapter.cameraHorizontalFovRad

/-- What a pass of the loop makes of a detection. -/
theorem describeDetection_cases {lookup : Except PyException (TransformResult (PyFloat ℝ))}
    (h : describeDetection adapter analysis localized widthPx lookup det = .ok object) :
    ∃ position positionError, object =
        ⟨det.label, det.confidence,
          (measure analysis (.fin (bearingOf adapter widthPx det)) adapter.bearingToleranceRad).1,
          (measure analysis (.fin (bearingOf adapter widthPx det)) adapter.bearingToleranceRad).2,
          position, positionError, det.bboxPx⟩ ∧
      match (measure analysis (.fin (bearingOf adapter widthPx det)) adapter.bearingToleranceRad).1 with
      | none => position = none ∧ positionError = none
      | some d => locate adapter localized lookup (.fin (bearingOf adapter widthPx det)) d =
          .ok (position, positionError) := by
  unfold describeDetection at h
  cases analysis with
  | none =>
    obtain rfl := Except.ok.inj h
    exact ⟨none, none, rfl, rfl, rfl⟩
  | some a =>
    unfold measure bearingOf
    dsimp only at h ⊢
    generalize correlateDistance a _ adapter.bearingToleranceRad = measured at h ⊢
    rcases measured with ⟨_ | d, distanceSource⟩
    · obtain rfl := Except.ok.inj h
      exact ⟨none, none, rfl, rfl, rfl⟩
    · obtain ⟨⟨position, positionError⟩, hlocate, hobject⟩ := bind_returns_iff.1 h
      obtain rfl := Except.ok.inj hobject
      exact ⟨position, positionError, rfl, hlocate⟩

/-- Without localization no lookup is made, and with one that answers with an error there is no position: the pass
returns. -/
theorem describeDetection_returns (adapter : PerceptionAdapter) {analysis : Option LaserScanAnalysis}
    (hanalysis : FromScan analysis) (widthPx : ℤ) {lookup : Except PyException (TransformResult (PyFloat ℝ))}
    (hlookup : localized = false ∨ LookupFails lookup) (det : DetectedObject2D) :
    ∃ object, describeDetection adapter analysis localized widthPx lookup det = .ok object := by
  have hlocate : ∀ bearingRad d : ℝ, ∃ found,
      locate adapter localized lookup (.fin bearingRad) (.fin d) = .ok found := by
    intro bearingRad d
    unfold locate
    simp only [cos_fin, sin_fin, bind, Except.bind, pure, Except.pure]
    rcases hlookup with rfl | ⟨tf, rfl, hfailed⟩
    · exact ⟨_, rfl⟩
    · cases localized with
      | false => exact ⟨_, rfl⟩
      | true => exact ⟨(none, some "TF_UNAVAILABLE"), by simp [hfailed]⟩
  have hmeasure := measure_cases hanalysis (bearingOf adapter widthPx det) adapter.bearingToleranceRad
  unfold describeDetection
  cases analysis with
  | none => exact ⟨_, rfl⟩
  | some a =>
    unfold measure bearingOf at hmeasure
    dsimp only at hmeasure ⊢
    rcases hmeasure with hm | ⟨d, -, hm⟩
    · rw [hm]
      exact ⟨_, rfl⟩
    · obtain ⟨found, hfound⟩ := hlocate (bearingOf adapter widthPx det) d
      unfold bearingOf at hfound
      rw [hm]
      dsimp only
      rw [hfound]
      exact ⟨_, rfl⟩

private theorem not_lookupFails_of_ok {lookup : Except PyException (TransformResult (PyFloat ℝ))}
    (h : LookupSucceeds lookup) :
    ¬ LookupFails lookup := by
  obtain ⟨tf, hlookup, hok⟩ := h
  rintro ⟨tf', hlookup', hfailed⟩
  obtain rfl := Except.ok.inj (hlookup.symm.trans hlookup')
  rw [hok] at hfailed
  cases hfailed

/-- A pass of the loop describes its detection. -/
private theorem describeDetection_described {lookup : Except PyException (TransformResult (PyFloat ℝ))}
    (hanalysis : FromScan analysis)
    (h : describeDetection adapter analysis localized widthPx lookup det = .ok object) :
    Described adapter localized lookup det object := by
  obtain ⟨position, positionError, rfl, hposition⟩ := describeDetection_cases h
  rcases measure_cases hanalysis (bearingOf adapter widthPx det) adapter.bearingToleranceRad with hm | ⟨d, hd, hm⟩
  · rw [hm] at hposition ⊢
    obtain ⟨rfl, rfl⟩ := hposition
    exact ⟨rfl, rfl, rfl, by simp, by simp, by simp, fun p hp => by cases hp⟩
  · rw [hm] at hposition ⊢
    have hlocate : locate adapter localized lookup (.fin (bearingOf adapter widthPx det)) (.fin d) =
      .ok (position, positionError) := hposition
    constructor
    case label | confidence | bbox => rfl
    case distance => simp
    case position =>
      rcases locate_cases hlocate with ⟨hbase, -, rfl⟩ | ⟨hmap, hfails, -, rfl⟩ | ⟨-, -, tf, _, _, _, _, _, htf, hok, -,
        -, -, -, -, rfl⟩
      · simp [hbase]
      · simp [hmap, mt not_lookupFails_of_ok (not_not.2 hfails)]
      · simp [show LookupSucceeds lookup from ⟨tf, htf, hok⟩]
    case error =>
      rcases locate_cases hlocate with
        ⟨hbase, rfl, -⟩ | ⟨hmap, hfails, rfl, -⟩ | ⟨-, rfl, tf, _, _, _, _, _, htf, hok, -⟩
      · simp [hbase]
      · simp [hmap, hfails]
      · simp [not_lookupFails_of_ok ⟨tf, htf, hok⟩]
    case away =>
      intro p hp
      obtain ⟨hframe, hdistance⟩ := locate_distance hd hlocate hp
      exact ⟨hframe, fun x₀ y₀ hrobot => congrArg some (hdistance x₀ y₀ hrobot).symm⟩

/-- The loop describes the detections one by one, in their order. -/
private theorem describeDetections_get {lookup : Nat → Except PyException (TransformResult (PyFloat ℝ))}
    (hanalysis : FromScan analysis) {dets : List DetectedObject2D} {objects : List (DetectedObject (PyFloat ℝ))} {i : ℕ}
    (h : describeDetections adapter analysis localized widthPx lookup i dets = .ok objects) :
    objects.length = dets.length ∧ ∀ k det object, dets[k]? = some det → objects[k]? = some object →
      Described adapter localized (lookup (i + k)) det object := by
  induction dets generalizing i objects with
  | nil =>
    obtain rfl := Except.ok.inj h
    refine ⟨rfl, ?_⟩
    intro k det object hdet
    cases hdet
  | cons det dets ih =>
    obtain ⟨object, hobject, h⟩ := bind_returns_iff.1 h
    obtain ⟨rest, hrest, h⟩ := bind_returns_iff.1 h
    obtain rfl := Except.ok.inj h
    obtain ⟨hlength, hget⟩ := ih hrest
    refine ⟨congrArg (· + 1) hlength, ?_⟩
    intro k det' object' hdet' hobject'
    cases k with
    | zero =>
      obtain rfl := Option.some.inj hdet'
      obtain rfl := Option.some.inj hobject'
      exact describeDetection_described hanalysis hobject
    | succ k =>
      rw [show i + (k + 1) = i + 1 + k by omega]
      exact hget k det' object' hdet' hobject'

end Describe

/-! ### The whole call -/

/-- The objects of a result of `detect_objects`. -/
def ToolResult.Lists (r : ToolResult (PyFloat ℝ)) (objects : List (DetectedObject (PyFloat ℝ))) : Prop :=
  ∃ stamp detectorPluginId, r.fields = .detectObjects stamp objects detectorPluginId

/-- What the detector has found in the image that the call reads. -/
def Detected (imaging : Imaging) (inputs : DetectInputs) (detected : List DetectedObject2D) : Prop :=
  ∃ imageTopic cachedImage message rawImage,
    resolvedTopic inputs.registry "visual_observation" "image" = some imageTopic ∧
      inputs.image imageTopic = some cachedImage ∧ cachedImage.raw = .ok message ∧
        toRawImage imaging message = .ok rawImage ∧ imaging.detect rawImage = .ok detected

/-- A succeeded call lists what the detector has found and the filter lets pass, nothing else, and describes it. -/
theorem detectObjects_described {adapter : PerceptionAdapter} {imaging : Imaging} {inputs : DetectInputs}
    {labels : Option (List String)} {r : ToolResult (PyFloat ℝ)}
    (hscan : ∀ topic cached scan, inputs.scan topic = some cached → cached.raw = .ok scan → 0 ≤ scan.rangeMin)
    (h : detectObjects adapter imaging inputs labels = .ok r) (hsucceeded : r.status = .succeeded) :
    ∃ detected objects, Detected imaging inputs detected ∧ r.Lists objects ∧
      objects.length = (detected.filter fun d => decide (PassesFilter labels d)).length ∧
      ∀ i det object, (detected.filter fun d => decide (PassesFilter labels d))[i]? = some det →
        objects[i]? = some object →
        Described adapter (registryGet inputs.registryAfter "localization").isSome (inputs.lookup i) det object := by
  unfold detectObjects at h
  split at h
  · obtain rfl := Except.ok.inj h
    cases hsucceeded
  · next imageTopic htopic =>
    split at h
    · obtain rfl := Except.ok.inj h
      cases hsucceeded
    · next cachedImage hcached =>
      obtain ⟨message, hmessage, h⟩ := bind_returns_iff.1 h
      obtain ⟨rawImage, hraw, h⟩ := bind_returns_iff.1 h
      obtain ⟨detected, hdetected, h⟩ := bind_returns_iff.1 h
      obtain ⟨analysis, hanalysis, h⟩ := bind_returns_iff.1 h
      obtain ⟨objects, hobjects, h⟩ := bind_returns_iff.1 h
      obtain rfl := Except.ok.inj h
      have hfrom : FromScan analysis := by
        rintro a rfl
        unfold currentLaserScanAnalysis at hanalysis
        split at hanalysis
        · cases hanalysis
        · next cachedScan htopic' =>
          obtain ⟨topic, -, hcachedScan⟩ := Option.bind_eq_some_iff.1 htopic'
          obtain ⟨scan, hscanRaw, hanalysis⟩ := bind_returns_iff.1 hanalysis
          obtain ⟨a', ha', hanalysis⟩ := bind_returns_iff.1 hanalysis
          obtain rfl := Option.some.inj (Except.ok.inj hanalysis)
          exact ⟨scan, ha', hscan topic cachedScan scan hcachedScan hscanRaw⟩
      obtain ⟨hlength, hget⟩ := describeDetections_get hfrom hobjects
      rw [filterLabels_eq] at hlength hget
      refine ⟨detected, objects,
        ⟨imageTopic, cachedImage, message, rawImage, htopic, hcached, hmessage, hraw, hdetected⟩,
        ⟨_, _, rfl⟩, hlength, ?_⟩
      intro i det object hdet hobject
      have hdescribed := hget i det object hdet hobject
      rwa [Nat.zero_add] at hdescribed

/-- A call succeeds when each of its steps returns. -/
private theorem detectObjects_of_steps {adapter : PerceptionAdapter} {imaging : Imaging} {inputs : DetectInputs}
    {labels : Option (List String)} (imageTopic : String) (cachedImage : CachedSensor ImageMessage)
    (message : ImageMessage) (rawImage : RawImage) (detected : List DetectedObject2D)
    (objects : List (DetectedObject (PyFloat ℝ))) {analysis : Option LaserScanAnalysis}
    (htopic : resolvedTopic inputs.registry "visual_observation" "image" = some imageTopic)
    (hcached : inputs.image imageTopic = some cachedImage) (hmessage : cachedImage.raw = .ok message)
    (hraw : toRawImage imaging message = .ok rawImage) (hdetected : imaging.detect rawImage = .ok detected)
    (hanalysis : currentLaserScanAnalysis inputs = .ok analysis)
    (hobjects : describeDetections adapter analysis (registryGet inputs.registryAfter "localization").isSome
      rawImage.widthPx inputs.lookup 0 (filterLabels labels detected) = .ok objects) :
    ∃ r, detectObjects adapter imaging inputs labels = .ok r ∧ r.status = .succeeded := by
  have hcall : detectObjects adapter imaging inputs labels = .ok
      { status := .succeeded
        commandId := ""
        robotId := adapter.robotId
        durationSec := ((0 : ℤ) : PyFloat ℝ)
        error := none
        fields := .detectObjects (some cachedImage.stamp) objects adapter.detectorPluginId } := by
    unfold detectObjects
    rw [htopic]
    dsimp only
    rw [hcached]
    dsimp only
    rw [hmessage]
    exact bind_returns_iff.2 ⟨message, rfl, bind_returns_iff.2 ⟨rawImage, hraw, bind_returns_iff.2 ⟨detected, hdetected,
      bind_returns_iff.2 ⟨analysis, hanalysis, bind_returns_iff.2 ⟨objects, hobjects, rfl⟩⟩⟩⟩⟩
  exact ⟨_, hcall, rfl⟩

/-- A detection in an image of two by two pixels. -/
def sampleDetection (label : String) (bboxPx : ℤ × ℤ × ℤ × ℤ) : DetectedObject2D := ⟨label, .fin 1, bboxPx⟩

/-- A detector that finds three objects in every image. -/
def sampleImaging : Imaging where
  encodeJpegThumbnail _ _ := .error ⟨.runtimeError, ""⟩
  decodeRgb _ := .error ⟨.runtimeError, ""⟩
  detect _ := .ok [sampleDetection "chair" (0, 0, 2, 2), sampleDetection "table" (0, 0, 1, 1),
    sampleDetection "chair" (0, 1, 1, 2)]

def samplePerceptionAdapter : PerceptionAdapter := ⟨"robot", 1, .fin 1, "base_link", "stub_detector"⟩

/-- A robot with a camera, a laser scanner and a localization whose transform is not known. -/
noncomputable def sampleInputs : DetectInputs where
  registry := [⟨"visual_observation", .confirmed, none, [("image", "/camera")], []⟩]
  image _ := some ⟨.ok (.image (some "camera_link") 2 2 "rgb8" []), .fin 0, .fin 0⟩
  registryAfter := [⟨"range_sensing", .confirmed, none, [("scan", "/scan")], []⟩,
    ⟨"localization", .confirmed, none, [], []⟩]
  scan _ := some ⟨.ok tiedScan, .fin 0, .fin 0⟩
  lookup _ := .ok ⟨false, none, none, none, some .notConnected⟩

theorem detectObjects_sample :
    ∃ r objects, detectObjects samplePerceptionAdapter sampleImaging sampleInputs (some ["chair"]) = .ok r ∧
      r.Lists objects ∧ objects.length = 2 ∧ ∀ object ∈ objects, object.label = "chair" ∧ object.position = none := by
  obtain ⟨analysis, hanalysis⟩ := @analyzeLaserScan_ok tiedScan 0 0 rfl rfl
  have hfrom : FromScan (some analysis) := by
    rintro a ⟨⟩
    exact ⟨tiedScan, hanalysis, fin_le_fin.2 (le_refl 0)⟩
  have hfails : ∀ i, LookupFails (sampleInputs.lookup i) := fun _ => ⟨_, rfl, rfl⟩
  have hpass := fun i => @describeDetection_returns true samplePerceptionAdapter (some analysis) hfrom 2
    (sampleInputs.lookup i) (.inr (hfails i))
  obtain ⟨first, hfirst⟩ := hpass 0 (sampleDetection "chair" (0, 0, 2, 2))
  obtain ⟨second, hsecond⟩ := hpass 1 (sampleDetection "chair" (0, 1, 1, 2))
  have hscan : currentLaserScanAnalysis sampleInputs = .ok (some analysis) := by
    change (do return some (← analyzeLaserScan tiedScan)) = _
    rw [hanalysis]
    rfl
  have hdetections : describeDetections samplePerceptionAdapter (some analysis) true 2 sampleInputs.lookup 0
      [sampleDetection "chair" (0, 0, 2, 2), sampleDetection "chair" (0, 1, 1, 2)] = .ok [first, second] := by
    unfold describeDetections
    refine bind_returns_iff.2 ⟨first, hfirst, bind_returns_iff.2 ⟨[second], ?_, rfl⟩⟩
    unfold describeDetections
    exact bind_returns_iff.2 ⟨second, hsecond, rfl⟩
  have hreturns : ∃ r, detectObjects samplePerceptionAdapter sampleImaging sampleInputs (some ["chair"]) = .ok r ∧
      r.status = .succeeded :=
    detectObjects_of_steps "/camera" _ _ _ _ _ rfl rfl rfl rfl rfl hscan hdetections
  obtain ⟨r, hr, hsucceeded⟩ := hreturns
  have hmin : ∀ topic cached scan, sampleInputs.scan topic = some cached → cached.raw = .ok scan →
      0 ≤ scan.rangeMin := by
    rintro topic cached scan ⟨⟩ ⟨⟩
    exact fin_le_fin.2 (le_refl 0)
  obtain ⟨detected, objects, ⟨_, _, _, _, -, -, -, -, hdetected⟩, hlists, hlength, hdescribed⟩ :=
    detectObjects_described hmin hr hsucceeded
  obtain rfl := Except.ok.inj hdetected
  have hfiltered : filterLabels (some ["chair"]) [sampleDetection "chair" (0, 0, 2, 2),
      sampleDetection "table" (0, 0, 1, 1), sampleDetection "chair" (0, 1, 1, 2)] =
        [sampleDetection "chair" (0, 0, 2, 2), sampleDetection "chair" (0, 1, 1, 2)] := rfl
  rw [filterLabels_eq] at hfiltered
  rw [hfiltered] at hlength hdescribed
  refine ⟨r, objects, hr, hlists, hlength, ?_⟩
  intro object hobject
  obtain ⟨i, hi, rfl⟩ := List.mem_iff_getElem.1 hobject
  have hlt : i < 2 := hi.trans_eq hlength
  obtain ⟨det, hdet, hlabel⟩ : ∃ det, [sampleDetection "chair" (0, 0, 2, 2),
      sampleDetection "chair" (0, 1, 1, 2)][i]? = some det ∧ det.label = "chair" := by
    obtain rfl | rfl : i = 0 ∨ i = 1 := by omega
    · exact ⟨_, rfl, rfl⟩
    · exact ⟨_, rfl, rfl⟩
  have hobjectSays := hdescribed i det objects[i] hdet (List.getElem?_eq_getElem hi)
  refine ⟨hobjectSays.label.trans hlabel, ?_⟩
  by_contra hsome
  rcases (hobjectSays.position.1 hsome).2 with hbase | hlookup
  · cases hbase
  · exact not_lookupFails_of_ok hlookup (hfails i)

end RosMcp
