import RosMcp.Mcp.JsonDocument
import RosMcp.Mcp.Resolvers

/-!
# Content blocks (`mcp/serialization.py`)

`toolResultToMcpContent` turns a result into its content blocks: one JSON text, and the image of a camera result beside
it.  The result is read as the tree of its dataclasses (`ToolResult.toPy`), which `to_json_safe` takes apart.

The text is a JSON document that mirrors the result exactly when every float of the result is finite
(`content_mirrors_iff`): `json.dumps` has names for the others, which are no JSON.
-/

namespace RosMcp

variable {N : Type}

/-! ### Results as Python values -/

/-- The Python values of which a result is made; tuples are lists. -/
inductive PyValue (N : Type)
  | none
  | bool (b : Bool)
  | int (n : ℤ)
  | float (x : N)
  | str (s : String)
  | enum (value : String)
  | datetime (stamp : N)
  | bytes (bytes : List UInt8)
  | list (items : List (PyValue N))
  | dict (items : List (String × PyValue N))
  | dataclass (fields : List (String × PyValue N))

/-- The texts that the standard library makes: those of f-strings, and `datetime.isoformat`. -/
structure TextFormat (N : Type) where
  message : Message N → String
  isoformat : N → String

def optional {β : Type} (f : β → PyValue N) : Option β → PyValue N
  | none => .none
  | some b => f b

mutual

/-- A decoded JSON value as a Python value. -/
def Json.toPy : Json N → PyValue N
  | .null => .none
  | .bool b => .bool b
  | .int n => .int n
  | .float x => .float x
  | .str s => .str s
  | .arr items => .list (Json.itemsToPy items)
  | .obj fields => .dict (Json.fieldsToPy fields)

def Json.itemsToPy : List (Json N) → List (PyValue N)
  | [] => []
  | value :: rest => value.toPy :: Json.itemsToPy rest

def Json.fieldsToPy : List (String × Json N) → List (String × PyValue N)
  | [] => []
  | (key, value) :: rest => (key, value.toPy) :: Json.fieldsToPy rest

end

def Detail.toPy : Detail N → PyValue N
  | .num x => .float x
  | .text s => .str s
  | .flag b => .bool b
  | .texts items => .list (items.map .str)
  | .arguments fields => .dict (Json.fieldsToPy fields)

def ToolError.toPy (F : TextFormat N) (e : ToolError N) : PyValue N :=
  .dataclass [("code", .enum e.code.value), ("message", .str (F.message e.message)),
    ("details", .dict (e.details.map fun d => (d.1, d.2.toPy)))]

def Pose2D.toPy (pose : Pose2D N) : PyValue N :=
  .dataclass [("x", .float pose.x), ("y", .float pose.y), ("yaw", .float pose.yaw), ("frame", .str pose.frame),
    ("stamp", .datetime pose.stamp)]

def CommandSummary.toPy (c : CommandSummary) : PyValue N :=
  .dataclass [("command_id", .str c.commandId), ("operation", .enum c.operation.value),
    ("execution_state", .enum c.executionState.value)]

def CapabilityEntry.toPy (e : CapabilityEntry N) : PyValue N :=
  .dataclass [("capability_id", .str e.capabilityId), ("confidence", .enum e.confidence.value),
    ("backend_id", optional .str e.backendId),
    ("resolved_topics", .dict (e.resolvedTopics.map fun t => (t.1, .str t.2))),
    ("limits", .dict (e.limits.map fun l => (l.1, .float l.2)))]

def RangeReading.toPy (reading : RangeReading N) : PyValue N :=
  .dataclass [("range_m", .float reading.rangeM), ("angle_rad", .float reading.angleRad),
    ("sector", .str reading.sector.value)]

def ObjectPosition.toPy (position : ObjectPosition N) : PyValue N :=
  .dataclass [("x", .float position.x), ("y", .float position.y), ("frame", .str position.frame)]

def DetectedObject.toPy (o : DetectedObject N) : PyValue N :=
  .dataclass [("label", .str o.label), ("confidence", .float o.confidence),
    ("distance_m", optional .float o.distanceM), ("distance_source", .str o.distanceSource.value),
    ("position", optional ObjectPosition.toPy o.position), ("position_error", optional .str o.positionError),
    ("bbox_px", .list [.int o.bboxPx.1, .int o.bboxPx.2.1, .int o.bboxPx.2.2.1, .int o.bboxPx.2.2.2])]

/-- The fields that the class of a result adds to those of `ToolResult`, in the order of their declaration. -/
def ResultFields.toPy : ResultFields N → List (String × PyValue N)
  | .base => []
  | .robotState pose linearVelocityMps angularVelocityRps isMoving activeCommand =>
    [("pose", optional Pose2D.toPy pose), ("linear_velocity_mps", optional .float linearVelocityMps),
      ("angular_velocity_rps", optional .float angularVelocityRps), ("is_moving", .bool isMoving),
      ("active_command", optional CommandSummary.toPy activeCommand)]
  | .capabilities entries snapshotVersion =>
    [("capabilities", .list (entries.map CapabilityEntry.toPy)), ("snapshot_version", .int snapshotVersion)]
  | .motion distanceTraveledM finalPose stopReason =>
    [("distance_traveled_m", .float distanceTraveledM), ("final_pose", optional Pose2D.toPy finalPose),
      ("stop_reason", optional (fun r => .str (StopReason.value r)) stopReason)]
  | .stop cancelledCommandId finalPose =>
    [("cancelled_command_id", optional .str cancelledCommandId), ("final_pose", optional Pose2D.toPy finalPose)]
  | .navigate finalPose distanceRemainingM failReason =>
    [("final_pose", optional Pose2D.toPy finalPose), ("distance_remaining_m", optional .float distanceRemainingM),
      ("fail_reason", optional (fun r => .str (FailReason.value r)) failReason)]
  | .laserScan stamp frame nearest farthest sectors rawRanges dataAgeS stale invalidBeamCount =>
    [("stamp", optional .datetime stamp), ("frame", optional .str frame),
      ("nearest", optional RangeReading.toPy nearest), ("farthest", optional RangeReading.toPy farthest),
      ("sectors", .dict (sectors.map fun s => (s.1.value, optional RangeReading.toPy s.2))),
      ("raw_ranges", optional (fun rs => .list (rs.map .float)) rawRanges), ("data_age_s", optional .float dataAgeS),
      ("stale", .bool stale), ("invalid_beam_count", .int invalidBeamCount)]
  | .cameraImage stamp frame dataAgeS imageJpegBytes widthPx heightPx originalWidthPx originalHeightPx =>
    [("stamp", optional .datetime stamp), ("frame", optional .str frame), ("data_age_s", optional .float dataAgeS),
      ("image_jpeg_bytes", .bytes imageJpegBytes), ("width_px", .int widthPx), ("height_px", .int heightPx),
      ("original_width_px", .int originalWidthPx), ("original_height_px", .int originalHeightPx)]
  | .detectObjects stamp objects detectorPluginId =>
    [("stamp", optional .datetime stamp), ("objects", .list (objects.map DetectedObject.toPy)),
      ("detector_plugin_id", .str detectorPluginId)]

/-- A result as the value of its dataclass. -/
def ToolResult.toPy (F : TextFormat N) (r : ToolResult N) : PyValue N :=
  .dataclass
    ([("status", .str r.status.value), ("command_id", .str r.commandId), ("robot_id", .str r.robotId),
      ("duration_sec", .float r.durationSec), ("error", optional (ToolError.toPy F) r.error)] ++ r.fields.toPy)

/-! ### `to_json_safe` -/

/-- A character of the base64 alphabet. -/
def b64Char (n : ℕ) : Char :=
  if n < 26 then Char.ofNat (65 + n)
  else if n < 52 then Char.ofNat (71 + n)
  else if n < 62 then Char.ofNat (n - 4)
  else if n = 62 then '+'
  else '/'

/-- `base64.b64encode` -/
def b64encode : List UInt8 → List Char
  | [] => []
  | [a] => [b64Char (a.toNat / 4), b64Char (a.toNat % 4 * 16), '=', '=']
  | [a, b] =>
    [b64Char (a.toNat / 4), b64Char (a.toNat % 4 * 16 + b.toNat / 16), b64Char (b.toNat % 16 * 4), '=']
  | a :: b :: c :: rest =>
    b64Char (a.toNat / 4) :: b64Char (a.toNat % 4 * 16 + b.toNat / 16) ::
      b64Char (b.toNat % 16 * 4 + c.toNat / 64) :: b64Char (c.toNat % 64) :: b64encode rest

mutual

/-- `to_json_safe` -/
def toJsonSafe (F : TextFormat N) : PyValue N → Json N
  | .dataclass fields => .obj (fieldsToJsonSafe F fields)
  | .enum value => .str value
  | .datetime stamp => .str (F.isoformat stamp)
  | .bytes bytes => .str (String.ofList (b64encode bytes))
  | .list items => .arr (itemsToJsonSafe F items)
  | .dict items => .obj (fieldsToJsonSafe F items)
  | .none => .null
  | .bool b => .bool b
  | .int n => .int n
  | .float x => .float x
  | .str s => .str s

def itemsToJsonSafe (F : TextFormat N) : List (PyValue N) → List (Json N)
  | [] => []
  | value :: rest => toJsonSafe F value :: itemsToJsonSafe F rest

def fieldsToJsonSafe (F : TextFormat N) : List (String × PyValue N) → List (String × Json N)
  | [] => []
  | (key, value) :: rest => (key, toJsonSafe F value) :: fieldsToJsonSafe F rest

end

/-! ### `tool_result_to_mcp_content` -/

inductive ContentBlock
  | text (text : String)
  | image (data mimeType : String)

/-- `dataclasses.replace(result, image_jpeg_bytes=b"")` and the image, for a camera result that has succeeded. -/
def ToolResult.splitImage (r : ToolResult N) : ToolResult N × Option (List UInt8) :=
  match r.status, r.fields with
  | .succeeded, .cameraImage stamp frame dataAgeS imageJpegBytes widthPx heightPx originalWidthPx originalHeightPx =>
    ({ r with
        fields := .cameraImage stamp frame dataAgeS [] widthPx heightPx originalWidthPx originalHeightPx },
      some imageJpegBytes)
  | _, _ => (r, none)

variable {α : Type}

/-- `tool_result_to_mcp_content` -/
def toolResultToMcpContent (T : FloatText α) (F : TextFormat (PyFloat α)) (result : ToolResult (PyFloat α)) :
    Except PyException (List ContentBlock) :=
  let (metadata, image) := result.splitImage
  (dumps T (toJsonSafe F (metadata.toPy F))).map fun text =>
    .text text :: (image.map fun bytes => ContentBlock.image (String.ofList (b64encode bytes)) "image/jpeg").toList

/-! ### What a document says of a result -/

mutual

/-- The document mirrors the value: dataclasses and dictionaries are objects with their names, lists are arrays, and
strings, booleans, `None` and finite numbers are themselves. -/
inductive Mirrors (F : TextFormat (PyFloat α)) : PyValue (PyFloat α) → Json α → Prop
  | none : Mirrors F .none .null
  | bool (b : Bool) : Mirrors F (.bool b) (.bool b)
  | int (n : ℤ) : Mirrors F (.int n) (.int n)
  | float (x : α) : Mirrors F (.float (.fin x)) (.float x)
  | str (s : String) : Mirrors F (.str s) (.str s)
  | enum (value : String) : Mirrors F (.enum value) (.str value)
  | datetime (stamp : PyFloat α) : Mirrors F (.datetime stamp) (.str (F.isoformat stamp))
  | bytes (bytes : List UInt8) : Mirrors F (.bytes bytes) (.str (String.ofList (b64encode bytes)))
  | list (items : List (PyValue (PyFloat α))) (ds : List (Json α)) (h : MirrorsItems F items ds) :
      Mirrors F (.list items) (.arr ds)
  | dict (items : List (String × PyValue (PyFloat α))) (ds : List (String × Json α)) (h : MirrorsFields F items ds) :
      Mirrors F (.dict items) (.obj ds)
  | dataclass (fields : List (String × PyValue (PyFloat α))) (ds : List (String × Json α))
      (h : MirrorsFields F fields ds) : Mirrors F (.dataclass fields) (.obj ds)

inductive MirrorsItems (F : TextFormat (PyFloat α)) : List (PyValue (PyFloat α)) → List (Json α) → Prop
  | nil : MirrorsItems F [] []
  | cons (value : PyValue (PyFloat α)) (rest : List (PyValue (PyFloat α))) (d : Json α) (ds : List (Json α))
      (h : Mirrors F value d) (hs : MirrorsItems F rest ds) : MirrorsItems F (value :: rest) (d :: ds)

/-- The same names in the same order, with values that mirror each other. -/
inductive MirrorsFields (F : TextFormat (PyFloat α)) :
    List (String × PyValue (PyFloat α)) → List (String × Json α) → Prop
  | nil : MirrorsFields F [] []
  | cons (name : String) (value : PyValue (PyFloat α)) (rest : List (String × PyValue (PyFloat α))) (d : Json α)
      (ds : List (String × Json α)) (h : Mirrors F value d) (hs : MirrorsFields F rest ds) :
      MirrorsFields F ((name, value) :: rest) ((name, d) :: ds)

end

mutual

/-- The floats of a value. -/
def PyValue.floats : PyValue N → List N
  | .float x => [x]
  | .list items => PyValue.itemsFloats items
  | .dict items => PyValue.fieldsFloats items
  | .dataclass fields => PyValue.fieldsFloats fields
  | _ => []

def PyValue.itemsFloats : List (PyValue N) → List N
  | [] => []
  | value :: rest => value.floats ++ PyValue.itemsFloats rest

def PyValue.fieldsFloats : List (String × PyValue N) → List N
  | [] => []
  | (_, value) :: rest => value.floats ++ PyValue.fieldsFloats rest

end

section Mirrors

variable {T : FloatText α} {F : TextFormat (PyFloat α)}

private theorem bind_map_eq_some {β γ δ : Type} {o : Option β} {p : Option γ} {f : β → γ → δ} {d : δ} :
    (o.bind fun b => p.map (f b)) = some d ↔ ∃ b, o = some b ∧ ∃ c, p = some c ∧ f b c = d := by
  cases o <;> cases p <;> simp

mutual

/-- What is read of a value mirrors it. -/
theorem mirrors_iff (hT : T.RoundTrips) (value : PyValue (PyFloat α)) (d : Json α) :
    Mirrors F value d ↔ (toJsonSafe F value).reread T = some d := by
  cases value with
  | list items =>
    have hitems := mirrorsItems_iff hT items
    simp only [toJsonSafe, Json.reread, Option.map_eq_some_iff, ← hitems]
    constructor
    · rintro ⟨⟩
      exact ⟨_, ‹_›, rfl⟩
    · rintro ⟨ds, hds, rfl⟩
      exact .list items ds hds
  | dict items =>
    have hitems := mirrorsFields_iff hT items
    simp only [toJsonSafe, Json.reread, Option.map_eq_some_iff, ← hitems]
    constructor
    · rintro ⟨⟩
      exact ⟨_, ‹_›, rfl⟩
    · rintro ⟨ds, hds, rfl⟩
      exact .dict items ds hds
  | dataclass fields =>
    have hfields := mirrorsFields_iff hT fields
    simp only [toJsonSafe, Json.reread, Option.map_eq_some_iff, ← hfields]
    constructor
    · rintro ⟨⟩
      exact ⟨_, ‹_›, rfl⟩
    · rintro ⟨ds, hds, rfl⟩
      exact .dataclass fields ds hds
  | float x =>
    cases x with
    | fin x =>
      have hvalue : numberValue T (T.repr x) = .float x := by
        unfold numberValue
        rw [if_neg (by simp [hT.isInt_repr x]), hT.float_repr]
      simp only [toJsonSafe, Json.reread, hvalue, Option.some.injEq]
      constructor
      · rintro ⟨⟩
        rfl
      · rintro rfl
        exact .float x
    | posInf | negInf | nan =>
      constructor
      · rintro ⟨⟩
      · rintro ⟨⟩
  | none | bool b | int n | str s | enum v | datetime stamp | bytes bytes =>
    simp only [toJsonSafe, Json.reread, Option.some.injEq]
    constructor
    · rintro ⟨⟩
      rfl
    · rintro rfl
      constructor

theorem mirrorsItems_iff (hT : T.RoundTrips) (items : List (PyValue (PyFloat α))) (ds : List (Json α)) :
    MirrorsItems F items ds ↔ Json.rereadItems T (itemsToJsonSafe F items) = some ds := by
  cases items with
  | nil =>
    simp only [itemsToJsonSafe, Json.rereadItems, Option.some.injEq]
    constructor
    · rintro ⟨⟩
      rfl
    · rintro rfl
      exact .nil
  | cons value rest =>
    simp only [itemsToJsonSafe, Json.rereadItems, bind_map_eq_some, ← mirrors_iff hT value,
      ← mirrorsItems_iff hT rest]
    constructor
    · rintro ⟨⟩
      exact ⟨_, ‹_›, _, ‹_›, rfl⟩
    · rintro ⟨d, hd, ds', hds, rfl⟩
      exact .cons value rest d ds' hd hds

theorem mirrorsFields_iff (hT : T.RoundTrips) (fields : List (String × PyValue (PyFloat α)))
    (ds : List (String × Json α)) :
    MirrorsFields F fields ds ↔ Json.rereadFields T (fieldsToJsonSafe F fields) = some ds := by
  cases fields with
  | nil =>
    simp only [fieldsToJsonSafe, Json.rereadFields, Option.some.injEq]
    constructor
    · rintro ⟨⟩
      rfl
    · rintro rfl
      exact .nil
  | cons field rest =>
    obtain ⟨name, value⟩ := field
    simp only [fieldsToJsonSafe, Json.rereadFields, bind_map_eq_some, ← mirrors_iff hT value,
      ← mirrorsFields_iff hT rest]
    constructor
    · rintro ⟨⟩
      exact ⟨_, ‹_›, _, ‹_›, rfl⟩
    · rintro ⟨d, hd, ds', hds, rfl⟩
      exact .cons name value rest d ds' hd hds

end

mutual

/-- Something is read of a value exactly when its floats are finite. -/
theorem reread_isSome_iff (value : PyValue (PyFloat α)) :
    (∃ d, (toJsonSafe F value).reread T = some d) ↔ ∀ x ∈ value.floats, x.IsFinite := by
  cases value with
  | list items =>
    rw [PyValue.floats, ← rereadItems_isSome_iff items]
    simp [toJsonSafe, Json.reread]
  | dict items =>
    rw [PyValue.floats, ← rereadFields_isSome_iff items]
    simp [toJsonSafe, Json.reread]
  | dataclass fields =>
    rw [PyValue.floats, ← rereadFields_isSome_iff fields]
    simp [toJsonSafe, Json.reread]
  | float x => cases x <;> simp [toJsonSafe, Json.reread, PyValue.floats]
  | none | bool b | int n | str s | enum v | datetime stamp | bytes bytes =>
    simp [toJsonSafe, Json.reread, PyValue.floats]

theorem rereadItems_isSome_iff (items : List (PyValue (PyFloat α))) :
    (∃ ds, Json.rereadItems T (itemsToJsonSafe F items) = some ds) ↔
      ∀ x ∈ PyValue.itemsFloats items, x.IsFinite := by
  cases items with
  | nil => simp [itemsToJsonSafe, Json.rereadItems, PyValue.itemsFloats]
  | cons value rest =>
    simp only [itemsToJsonSafe, Json.rereadItems, PyValue.itemsFloats, List.forall_mem_append,
      ← reread_isSome_iff value, ← rereadItems_isSome_iff rest, bind_map_eq_some]
    constructor
    · rintro ⟨-, d, hd, ds, hds, -⟩
      exact ⟨⟨d, hd⟩, ds, hds⟩
    · rintro ⟨⟨d, hd⟩, ds, hds⟩
      exact ⟨_, d, hd, ds, hds, rfl⟩

theorem rereadFields_isSome_iff (fields : List (String × PyValue (PyFloat α))) :
    (∃ ds, Json.rereadFields T (fieldsToJsonSafe F fields) = some ds) ↔
      ∀ x ∈ PyValue.fieldsFloats fields, x.IsFinite := by
  cases fields with
  | nil => simp [fieldsToJsonSafe, Json.rereadFields, PyValue.fieldsFloats]
  | cons field rest =>
    obtain ⟨name, value⟩ := field
    simp only [fieldsToJsonSafe, Json.rereadFields, PyValue.fieldsFloats, List.forall_mem_append,
      ← reread_isSome_iff value, ← rereadFields_isSome_iff rest, bind_map_eq_some]
    constructor
    · rintro ⟨-, d, hd, ds, hds, -⟩
      exact ⟨⟨d, hd⟩, ds, hds⟩
    · rintro ⟨⟨d, hd⟩, ds, hds⟩
      exact ⟨_, d, hd, ds, hds, rfl⟩

end

/-! ### The text block -/

/-- An image has no floats. -/
private theorem splitImage_floats (F : TextFormat N) (r : ToolResult N) :
    (r.splitImage.1.toPy F).floats = (r.toPy F).floats := by
  unfold ToolResult.splitImage
  split
  · next hfields => simp [ToolResult.toPy, PyValue.floats, PyValue.fieldsFloats, hfields, ResultFields.toPy]
  · rfl

/-- The text block of a result. -/
private theorem text_mem_content {r : ToolResult (PyFloat α)} {blocks : List ContentBlock}
    (h : toolResultToMcpContent T F r = .ok blocks) (s : String) :
    .text s ∈ blocks ↔ s = String.ofList ((toJsonSafe F (r.splitImage.1.toPy F)).text T) := by
  unfold toolResultToMcpContent dumps at h
  dsimp only at h
  cases hrepr : pyRepr (toJsonSafe F (r.splitImage.1.toPy F)) with
  | error exc =>
    rw [hrepr] at h
    cases h
  | ok repr =>
    rw [hrepr] at h
    obtain rfl := Except.ok.inj h
    cases r.splitImage.2 <;> simp

/-- The only block of a result without an image. -/
private theorem content_of_printable {r : ToolResult (PyFloat α)} (himage : r.splitImage = (r, none))
    (hprint : (toJsonSafe F (r.toPy F)).printable = true) :
    toolResultToMcpContent T F r = .ok [.text (String.ofList ((toJsonSafe F (r.toPy F)).text T))] := by
  have hrepr : pyRepr (toJsonSafe F (r.toPy F)) = .ok (.repr (toJsonSafe F (r.toPy F))) := if_pos hprint
  unfold toolResultToMcpContent dumps
  rw [himage]
  dsimp only
  rw [hrepr]
  rfl

/-- The text of a result is a document that mirrors it exactly when its floats are finite. -/
theorem content_mirrors_iff (hT : T.RoundTrips) {r : ToolResult (PyFloat α)} {blocks : List ContentBlock}
    (h : toolResultToMcpContent T F r = .ok blocks) :
    (∀ s, .text s ∈ blocks → ∃ d, decode T s = some d ∧ Mirrors F (r.splitImage.1.toPy F) d) ↔
      ∀ x ∈ (r.toPy F).floats, x.IsFinite := by
  simp only [text_mem_content h, forall_eq, decode_text, mirrors_iff hT, and_self]
  rw [reread_isSome_iff, splitImage_floats]

/-- The floats of the sample are the integers, written as `n.0`. -/
def sampleFloatText : FloatText ℤ where
  repr n := ⟨decide (n < 0), n.natAbs, some ⟨JsonText.natDigits 0, JsonText.natDigits_ne_nil 0⟩, none⟩
  float t := if t.negative then -t.int else t.int

private theorem sampleFloatText_roundTrips : sampleFloatText.RoundTrips where
  isInt_repr _ := rfl
  float_repr x := by
    simp only [sampleFloatText, decide_eq_true_eq]
    split <;> omega

def sampleTextFormat : TextFormat (PyFloat ℤ) := ⟨fun _ => "no odometry", fun _ => "1970-01-01T00:00:00+00:00"⟩

def sampleResult : ToolResult (PyFloat ℤ) where
  status := .failed
  commandId := "c"
  robotId := "robot"
  durationSec := .fin (-1)
  error := none
  fields := .motion (.fin 2) none none

theorem content_mirrors_sample :
    ∃ blocks, toolResultToMcpContent sampleFloatText sampleTextFormat sampleResult = .ok blocks ∧
      ((∀ s, .text s ∈ blocks → ∃ d, decode sampleFloatText s = some d ∧
          Mirrors sampleTextFormat (sampleResult.splitImage.1.toPy sampleTextFormat) d) ↔
        ∀ x ∈ (sampleResult.toPy sampleTextFormat).floats, x.IsFinite) :=
  ⟨_, rfl, content_mirrors_iff sampleFloatText_roundTrips rfl⟩

/-- A scan with a beam that is not a number. -/
def brokenScan : LaserScan where
  header := none
  ranges := [.nan]
  angleMin := .fin 0
  angleIncrement := .fin 0
  rangeMin := .fin 0
  rangeMax := .fin 1

def brokenInputs : ScanInputs where
  registry := [⟨"range_sensing", .confirmed, none, [("scan", "/scan")], []⟩]
  scan _ := some ⟨.ok brokenScan, .fin 0, .fin 0⟩
  sensorStaleS := .fin 1

private theorem analyzeLaserScan_brokenScan :
    analyzeLaserScan brokenScan = .ok ⟨none, none, none, none, fun _ => none, [.nan], 1⟩ := by
  simp [analyzeLaserScan, brokenScan, analyzeBeams, analyzeBeam, ScanState.initial, PyFloat.isNan, bind, Except.bind,
    pure, Except.pure]

/-- What the tool returns for the scan. -/
def brokenResult : ToolResult (PyFloat ℝ) where
  status := .succeeded
  commandId := ""
  robotId := "robot"
  durationSec := .fin 0
  error := none
  fields := .laserScan (some (.fin 0)) none none none [(.front, none), (.left, none), (.right, none), (.rear, none)]
    (some [.nan]) (some (.fin 0)) false 1

private theorem resolveLaserScan_brokenInputs :
    resolveLaserScan "robot" "" (.fin 0) brokenInputs true = .ok brokenResult := by
  have htopic : resolvedTopic brokenInputs.registry "range_sensing" "scan" = some "/scan" := by decide
  unfold resolveLaserScan
  rw [htopic]
  simp [brokenInputs, bind, Except.bind, pure, Except.pure, analyzeLaserScan_brokenScan, brokenResult,
    LaserScanAnalysis.sectorList]

private theorem brokenResult_printable (F : TextFormat (PyFloat ℝ)) :
    (toJsonSafe F (brokenResult.toPy F)).printable = true := by
  have hone : (Json.int 1 : Json (PyFloat ℝ)).printable = true := printable_int (by decide)
  simpa [brokenResult, ToolResult.toPy, ResultFields.toPy, toJsonSafe, fieldsToJsonSafe, itemsToJsonSafe, optional,
    Json.printable, Json.printableFields, Json.printableItems] using hone

/-- The raw ranges of such a scan are sent as a text that is no document. -/
theorem raw_ranges_not_json :
    ∃ inputs result, resolveLaserScan "robot" "" (.fin 0) inputs true = .ok result ∧
      ∀ (T : FloatText ℝ) (F : TextFormat (PyFloat ℝ)), ∃ text,
        toolResultToMcpContent T F result = .ok [.text text] ∧ decode T text = none := by
  refine ⟨brokenInputs, brokenResult, resolveLaserScan_brokenInputs, fun T F => ?_⟩
  refine ⟨_, content_of_printable rfl (brokenResult_printable F), ?_⟩
  rw [decode_text]
  rfl

end Mirrors

end RosMcp
