import RosMcp.Contracts.Results
import RosMcp.Perception.LaserScan
import RosMcp.RobotState

/-!
# Object detection (`perception/detection_geometry.py`, `DefaultPerceptionAdapter.detect_objects`)

`detectObjects` takes the latest image, hands it to the detector, and gives every detection that passes the label
filter a distance from the laser scan and, with a distance, a position.  The decoding of compressed images and the
detector rest on Pillow and numpy; both are parameters, as are the answers of the transform lookups.

Bounding boxes, image widths and the field of view are finite, so bearings are real numbers; what comes from a scan or
from a transform is a Python float.
-/

namespace RosMcp

/-! ### Geometry -/

/-- `estimate_bearing_rad` -/
noncomputable def estimateBearingRad (bboxCenterXPx : ℝ) (imageWidthPx : ℤ) (horizontalFovRad : ℝ) : ℝ :=
  if imageWidthPx ≤ 0 then 0
  else
    let normalized := bboxCenterXPx / imageWidthPx - ((0.5 : ℚ) : ℝ)
    normalized * horizontalFovRad

/-- `_angular_delta`: on a finite difference the two loops are those of `normalize_angle`.  A difference is never
infinite, since the analysis keeps no reading with an infinite angle. -/
noncomputable def angularDelta (a b : PyFloat ℝ) : PyFloat ℝ :=
  match a - b with
  | .fin diff => .fin (addTurns (subTurns diff))
  | diff => diff

theorem angularDelta_fin (a b : ℝ) : angularDelta (.fin a) (.fin b) = .fin (normalizeAngle (a - b)) := by
  unfold angularDelta
  rw [PyFloat.fin_sub_fin]
  rfl

/-- The candidates of `correlate_distance`, in their order. -/
noncomputable def LaserScanAnalysis.candidates (analysis : LaserScanAnalysis) :
    List (Option (RangeReading (PyFloat ℝ))) :=
  [analysis.nearest, analysis.farthest, analysis.sectors .front, analysis.sectors .left, analysis.sectors .right,
    analysis.sectors .rear]

/-- One pass of the loop of `correlate_distance`, over `best` and `best_delta`. -/
noncomputable def correlateStep (bearingRad : PyFloat ℝ) (best : Option (PyFloat ℝ) × PyFloat ℝ)
    (candidate : Option (RangeReading (PyFloat ℝ))) : Option (PyFloat ℝ) × PyFloat ℝ :=
  match candidate with
  | none => best
  | some reading =>
    let delta := (angularDelta reading.angleRad bearingRad).abs
    if delta ≤ best.2 then (some reading.rangeM, delta) else best

/-- `correlate_distance` -/
noncomputable def correlateDistance (analysis : LaserScanAnalysis) (bearingRad toleranceRad : PyFloat ℝ) :
    Option (PyFloat ℝ) × DistanceSource :=
  match (analysis.candidates.foldl (correlateStep bearingRad) (none, toleranceRad)).1 with
  | none => (none, .unavailable)
  | some best => (some best, .laserScanCorrelation)

/-! ### Images -/

/-- A `sensor_msgs/msg/Image` or `CompressedImage` message, as far as it is read; `frameId` is `header.frame_id`. -/
inductive ImageMessage
  | image (frameId : Option String) (width height : ℕ) (encoding : String) (data : List UInt8)
  | compressed (frameId : Option String) (data : List UInt8)

def ImageMessage.frameId : ImageMessage → Option String
  | .image frameId .. => frameId
  | .compressed frameId _ => frameId

/-- `RawImage` -/
structure RawImage where
  widthPx : ℕ
  heightPx : ℕ
  encoding : String
  data : List UInt8
  frameId : String

/-- `DetectedObject2D` -/
structure DetectedObject2D where
  label : String
  confidence : PyFloat ℝ
  bboxPx : ℤ × ℤ × ℤ × ℤ

/-- What `encode_jpeg_thumbnail` returns. -/
structure Thumbnail where
  jpegBytes : List UInt8
  widthPx : ℤ
  heightPx : ℤ
  originalWidthPx : ℤ
  originalHeightPx : ℤ

/-- The functions that rest on Pillow and numpy: `encode_jpeg_thumbnail` with its `max_width_px`, the decoding of a
compressed image to its size and its `rgb8` bytes, and `detect` of the detector plugin. -/
structure Imaging where
  encodeJpegThumbnail : ImageMessage → ℤ → Except PyException Thumbnail
  decodeRgb : List UInt8 → Except PyException (ℕ × ℕ × List UInt8)
  detect : RawImage → Except PyException (List DetectedObject2D)

/-- `_to_raw_image` -/
def toRawImage (imaging : Imaging) : ImageMessage → Except PyException RawImage
  | .compressed frameId data => do
    let (width, height, rgb) ← imaging.decodeRgb data
    return ⟨width, height, "rgb8", rgb, frameId.getD ""⟩
  | .image frameId width height encoding data => .ok ⟨width, height, encoding, data, frameId.getD ""⟩

/-- An entry of the subscription cache, for a reader of messages of the type `α`; a message of another type raises when
it is read. -/
structure CachedSensor (α : Type) where
  raw : Except PyException α
  stamp : PyFloat ℝ
  ageS : PyFloat ℝ

/-! ### `detect_objects` -/

/-- What `__init__` of the perception adapter is given. -/
structure PerceptionAdapter where
  robotId : String
  cameraHorizontalFovRad : ℝ
  bearingToleranceRad : PyFloat ℝ
  baseFrame : String
  detectorPluginId : String

/-- What `detect_objects` reads: the registry and the image when it starts, the registry and the scan when the detector
has answered, and the answers to the transform lookups, by the index of the detection. -/
structure DetectInputs where
  registry : List (CapabilityEntry (PyFloat ℝ))
  image : String → Option (CachedSensor ImageMessage)
  registryAfter : List (CapabilityEntry (PyFloat ℝ))
  scan : String → Option (CachedSensor LaserScan)
  lookup : Nat → Except PyException (TransformResult (PyFloat ℝ))

/-- The topic that a capability has resolved under a key, if it is registered. -/
def resolvedTopic {N : Type} (registry : List (CapabilityEntry N)) (capabilityId key : String) : Option String :=
  (registryGet registry capabilityId).bind fun entry => getKey entry.resolvedTopics key

/-- `_detect_error` -/
noncomputable def detectError (adapter : PerceptionAdapter) (code : ErrorCode) (message : Message (PyFloat ℝ)) :
    ToolResult (PyFloat ℝ) :=
  buildErrorResult .detectObjects "" adapter.robotId ((0 : ℤ) : PyFloat ℝ) { code, message }

/-- `_current_laser_scan_analysis` -/
noncomputable def currentLaserScanAnalysis (inputs : DetectInputs) : Except PyException (Option LaserScanAnalysis) :=
  match (resolvedTopic inputs.registryAfter "range_sensing" "scan").bind inputs.scan with
  | none => .ok none
  | some cached => do return some (← analyzeLaserScan (← cached.raw))

/-- The position of an object at a distance, and `position_error`. -/
noncomputable def locate (adapter : PerceptionAdapter) (localized : Bool)
    (lookup : Except PyException (TransformResult (PyFloat ℝ))) (bearingRad distanceM : PyFloat ℝ) :
    Except PyException (Option (ObjectPosition (PyFloat ℝ)) × Option String) := do
  let xLocal := distanceM * (← PyMath.cos bearingRad)
  let yLocal := distanceM * (← PyMath.sin bearingRad)
  if localized then
    let tfResult ← lookup
    if tfResult.ok then
      match tfResult.x, tfResult.y, tfResult.yaw with
      | some x, some y, some yaw =>
        let cosYaw ← PyMath.cos yaw
        let sinYaw ← PyMath.sin yaw
        return (some ⟨x + xLocal * cosYaw - yLocal * sinYaw, y + xLocal * sinYaw + yLocal * cosYaw, "map"⟩, none)
      | _, _, _ => .error ⟨.assertionError, ""⟩
    else return (none, some "TF_UNAVAILABLE")
  else return (some ⟨xLocal, yLocal, adapter.baseFrame⟩, none)

/-- One pass of the loop over the detections. -/
noncomputable def describeDetection (adapter : PerceptionAdapter) (analysis : Option LaserScanAnalysis)
    (localized : Bool) (widthPx : ℤ) (lookup : Except PyException (TransformResult (PyFloat ℝ)))
    (det : DetectedObject2D) : Except PyException (DetectedObject (PyFloat ℝ)) := do
  let bboxCenterX : ℝ := (det.bboxPx.1 + det.bboxPx.2.2.1) / ((2.0 : ℚ) : ℝ)
  let bearingRad : PyFloat ℝ := .fin (estimateBearingRad bboxCenterX widthPx adapter.cameraHorizontalFovRad)
  let (distanceM, distanceSource) := match analysis with
    | none => (none, .unavailable)
    | some analysis => correlateDistance analysis bearingRad adapter.bearingToleranceRad
  let (position, positionError) ← match distanceM with
    | none => pure (none, none)
    | some distanceM => locate adapter localized lookup bearingRad distanceM
  return ⟨det.label, det.confidence, distanceM, distanceSource, position, positionError, det.bboxPx⟩

/-- The loop over the detections, from the one with the index `i` on. -/
noncomputable def describeDetections (adapter : PerceptionAdapter) (analysis : Option LaserScanAnalysis)
    (localized : Bool) (widthPx : ℤ) (lookup : Nat → Except PyException (TransformResult (PyFloat ℝ))) :
    Nat → List DetectedObject2D → Except PyException (List (DetectedObject (PyFloat ℝ)))
  | _, [] => .ok []
  | i, det :: dets => do
    let object ← describeDetection adapter analysis localized widthPx (lookup i) det
    return object :: (← describeDetections adapter analysis localized widthPx lookup (i + 1) dets)

/-- `if labels: detected = tuple(d for d in detected if d.label in allowed)` -/
def filterLabels (labels : Option (List String)) (detected : List DetectedObject2D) : List DetectedObject2D :=
  match labels with
  | none | some [] => detected
  | some allowed => detected.filter fun d => allowed.contains d.label

/-- `DefaultPerceptionAdapter.detect_objects` -/
noncomputable def detectObjects (adapter : PerceptionAdapter) (imaging : Imaging) (inputs : DetectInputs)
    (labels : Option (List String)) : Except PyException (ToolResult (PyFloat ℝ)) :=
  match resolvedTopic inputs.registry "visual_observation" "image" with
  | none => .ok (detectError adapter .capabilityUnavailable [.text "no camera available"])
  | some imageTopic =>
    match inputs.image imageTopic with
    | none =>
      .ok (detectError adapter .sensorStale [.text "no camera image ever received on ", .text imageTopic])
    | some cachedImage => do
      let rawImage ← toRawImage imaging (← cachedImage.raw)
      let detected := filterLabels labels (← imaging.detect rawImage)
      let analysis ← currentLaserScanAnalysis inputs
      let localized := (registryGet inputs.registryAfter "localization").isSome
      let objects ← describeDetections adapter analysis localized rawImage.widthPx inputs.lookup 0 detected
      return {
        status := .succeeded
        commandId := ""
        robotId := adapter.robotId
        durationSec := ((0 : ℤ) : PyFloat ℝ)
        error := none
        fields := .detectObjects (some cachedImage.stamp) objects adapter.detectorPluginId }

section Outcome

variable {adapter : PerceptionAdapter} {imaging : Imaging} {inputs : DetectInputs} {labels : Option (List String)}
  {r : ToolResult (PyFloat ℝ)}

/-- What `detect_objects` returns is a completed result of its class. -/
theorem detectObjects_completed (h : detectObjects adapter imaging inputs labels = .ok r) :
    r.Completed .detectObjects "" adapter.robotId := by
  unfold detectObjects at h
  split at h
  · obtain rfl := Except.ok.inj h
    exact buildErrorResult_completed _ _ _ _ _
  · split at h
    · obtain rfl := Except.ok.inj h
      exact buildErrorResult_completed _ _ _ _ _
    · obtain ⟨message, -, h⟩ := bind_returns_iff.1 h
      obtain ⟨rawImage, -, h⟩ := bind_returns_iff.1 h
      obtain ⟨detected, -, h⟩ := bind_returns_iff.1 h
      obtain ⟨analysis, -, h⟩ := bind_returns_iff.1 h
      obtain ⟨objects, -, h⟩ := bind_returns_iff.1 h
      obtain rfl := Except.ok.inj h
      exact ⟨rfl, rfl, rfl, Or.inl ⟨rfl, rfl⟩⟩

/-- Without a resolved image topic there is no detection. -/
theorem detectObjects_unavailable (h : detectObjects adapter imaging inputs labels = .ok r)
    (htopic : resolvedTopic inputs.registry "visual_observation" "image" = none) : r.status = .failed := by
  unfold detectObjects at h
  rw [htopic] at h
  obtain rfl := Except.ok.inj h
  rfl

end Outcome

end RosMcp
