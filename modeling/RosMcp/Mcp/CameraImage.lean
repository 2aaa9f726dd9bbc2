import RosMcp.Lib.Rounding
import RosMcp.Mcp.ReadHandlers
import RosMcp.Perception.Decoding

/-!
# Thumbnails (`perception/camera.py`, `mcp/camera_resolver.py`)

`encodeJpegThumbnail` scales an image that is wider than `max_width_px` down to this width.  The width that reaches it
is the smaller one of the width that the client asks for, or else the configured default, and the configured cap.

So `robot.get_camera_image` never returns an image that is wider than the cap, than what was asked for or than the
original, never scales up, and keeps the ratio of the sides up to the rounding of the height (`getCameraImage_size`).
-/

namespace RosMcp

/-! ### The encoder -/

/-- What `encode_jpeg_thumbnail` uses of Pillow beyond the decoding of raw images. -/
structure Jpeg {np : Numpy} (pil : Pillow np) where
  /-- `Image.open(io.BytesIO(data))` -/
  openImage : List UInt8 → Except PyException pil.Image
  /-- `image.resize(size, Image.Resampling.BILINEAR)` -/
  resize : pil.Image → ℤ × ℤ → Except PyException pil.Image
  /-- The bytes that `image.save(buffer, format="JPEG", quality=quality)` writes. -/
  save : pil.Image → ℕ → Except PyException (List UInt8)

/-- A resized image has the size that was asked for, which is positive; other sizes raise a `ValueError`. -/
structure Jpeg.Documented {np : Numpy} {pil : Pillow np} (jpeg : Jpeg pil) : Prop where
  resize : ∀ image width height, 0 < width → 0 < height →
    ∃ resized, jpeg.resize image (width, height) = .ok resized ∧
      ((pil.size resized).1 : ℤ) = width ∧ ((pil.size resized).2 : ℤ) = height
  resize_raises : ∀ image width height, width ≤ 0 ∨ height ≤ 0 →
    jpeg.resize image (width, height) = .error ⟨.valueError, "height and width must be > 0"⟩

section Encoder

variable (np : Numpy) (pil : Pillow np) (jpeg : Jpeg pil) (strRepr : String → String) (fl : ℚ → ℚ)

/-- `to_pil_image`; the step of a raw image is not read. -/
def toPilImage : ImageMessage → Except PyException pil.Image
  | .image frameId width height encoding data =>
    rawImageToPil np pil strRepr ⟨frameId, height, width, encoding, 0, data⟩
  | .compressed _ data => do
    let image ← jpeg.openImage data
    pil.convert image "RGB"

/-- `new_size`; `fl` rounds to a float. -/
def newSize (originalWidth originalHeight : ℕ) (maxWidthPx : ℤ) : ℤ × ℤ :=
  let scale := fl (maxWidthPx / originalWidth)
  (maxWidthPx, max 1 (roundHalfEven (fl (originalHeight * scale))))

/-- The branch of `encode_jpeg_thumbnail` on the width. -/
def scaleDown (original : pil.Image) (maxWidthPx : ℤ) : Except PyException pil.Image :=
  let (originalWidth, originalHeight) := pil.size original
  if maxWidthPx < originalWidth then jpeg.resize original (newSize fl originalWidth originalHeight maxWidthPx)
  else .ok original

/-- `encode_jpeg_thumbnail`, with the quality that the resolver leaves at its default. -/
def encodeJpegThumbnail (rawMsg : ImageMessage) (maxWidthPx : ℤ) : Except PyException Thumbnail := do
  let original ← toPilImage np pil jpeg strRepr rawMsg
  let image ← scaleDown np pil jpeg fl original maxWidthPx
  let bytes ← jpeg.save image 85
  return ⟨bytes, (pil.size image).1, (pil.size image).2, (pil.size original).1, (pil.size original).2⟩

end Encoder

/-! ### The size of a thumbnail -/

/-- An image with both sides positive, and below the bound of their fields in a message. -/
structure SidesInRange (size : ℕ × ℕ) : Prop where
  width : 0 < size.1
  width_le : size.1 ≤ 2 ^ 32
  height : 0 < size.2
  height_le : size.2 ≤ 2 ^ 32

/-- The sides of a thumbnail of at most the width `maxWidthPx`: the ratio is kept up to the rounding of the height, to
at least one pixel. -/
structure FitsWidth (size : ℕ × ℕ) (maxWidthPx widthPx heightPx : ℤ) : Prop where
  width : widthPx = min maxWidthPx size.1
  width_pos : 0 < widthPx
  height_pos : 0 < heightPx
  height_le : heightPx ≤ size.2
  unscaled : (size.1 : ℤ) ≤ maxWidthPx → heightPx = size.2
  ratio : |(heightPx : ℚ) - size.2 * (widthPx / size.1)| ≤ 1 / 2 + 1 / 2 ^ 19 ∨
    heightPx = 1 ∧ size.2 * ((widthPx : ℚ) / size.1) ≤ 1 / 2 + 1 / 2 ^ 19

section Size

variable {np : Numpy} {pil : Pillow np} {jpeg : Jpeg pil} {strRepr : String → String} {fl : ℚ → ℚ}

/-- The error of the rounded product is far below a pixel. -/
private theorem scaled_height_error (hfl : Binary64 fl) {size : ℕ × ℕ} (h : SidesInRange size) {width : ℤ}
    (hpos : 0 < width)
    (hle : width ≤ size.1) :
    |fl (size.2 * fl (width / size.1)) - size.2 * (width / size.1)| ≤ 1 / 2 ^ 19 := by
  have herror := hfl.mul_div_error (k := size.2) (m := width) (n := size.1) (by exact_mod_cast h.height)
    (by exact_mod_cast h.height_le) hpos hle (by exact_mod_cast h.width_le)
  push_cast at herror
  refine herror.trans ?_
  have hheight : (size.2 : ℚ) ≤ 2 ^ 32 := by exact_mod_cast h.height_le
  have hquotient : (width : ℚ) / size.1 ≤ 1 := by
    have hsize : (0 : ℚ) < size.1 := by exact_mod_cast h.width
    rw [div_le_one hsize]
    exact_mod_cast hle
  have hproduct : (size.2 : ℚ) * (width / size.1) ≤ 2 ^ 32 := by
    have hheight0 : (0 : ℚ) ≤ size.2 := Nat.cast_nonneg _
    calc (size.2 : ℚ) * (width / size.1) ≤ size.2 * 1 := mul_le_mul_of_nonneg_left hquotient hheight0
      _ ≤ 2 ^ 32 := by rwa [mul_one]
  have hround : (0 : ℚ) ≤ 2 * unitRoundoff + unitRoundoff ^ 2 := by norm_num [unitRoundoff]
  calc (2 * unitRoundoff + unitRoundoff ^ 2) * ((size.2 : ℚ) * (width / size.1))
      ≤ (2 * unitRoundoff + unitRoundoff ^ 2) * 2 ^ 32 := mul_le_mul_of_nonneg_left hproduct hround
    _ ≤ 1 / 2 ^ 19 := by norm_num [unitRoundoff]

private theorem newSize_fits (hfl : Binary64 fl) {size : ℕ × ℕ} (h : SidesInRange size) {maxWidthPx : ℤ}
    (hpos : 0 < maxWidthPx)
    (hlt : maxWidthPx < size.1) :
    FitsWidth size maxWidthPx (newSize fl size.1 size.2 maxWidthPx).1 (newSize fl size.1 size.2 maxWidthPx).2 := by
  set product := fl (size.2 * fl (maxWidthPx / size.1)) with hproduct
  have hnew : newSize fl size.1 size.2 maxWidthPx = (maxWidthPx, max 1 (roundHalfEven product)) := rfl
  rw [hnew]
  have herror := scaled_height_error hfl h hpos hlt.le
  rw [← hproduct] at herror
  have hround := abs_roundHalfEven_sub_le product
  have hheight : (1 : ℤ) ≤ size.2 := by exact_mod_cast h.height
  refine ⟨(min_eq_left hlt.le).symm, hpos, lt_of_lt_of_le one_pos (le_max_left _ _), ?_, fun hle => ?_, ?_⟩
  · refine max_le hheight (roundHalfEven_le ?_)
    have hle := hfl.mul_div_le (k := size.2) (m := maxWidthPx) (n := size.1) (by exact_mod_cast h.height.le)
      (by exact_mod_cast h.height_le.trans (by norm_num)) hlt.le (by exact_mod_cast h.width)
    push_cast at hle ⊢
    exact hle
  · exact absurd hle (not_le.2 hlt)
  · have hclose : |(roundHalfEven product : ℚ) - size.2 * (maxWidthPx / size.1)| ≤ 1 / 2 + 1 / 2 ^ 19 := by
      calc |(roundHalfEven product : ℚ) - size.2 * (maxWidthPx / size.1)|
          = |(roundHalfEven product - product) + (product - size.2 * (maxWidthPx / size.1))| := by ring_nf
        _ ≤ 1 / 2 + 1 / 2 ^ 19 := (abs_add_le _ _).trans (add_le_add hround herror)
    by_cases hone : 1 ≤ roundHalfEven product
    · left
      show |((max 1 (roundHalfEven product) : ℤ) : ℚ) - _| ≤ _
      rwa [max_eq_right hone]
    · -- the height is rounded to nothing
      right
      refine ⟨max_eq_left (not_le.1 hone).le, ?_⟩
      have hzero : (roundHalfEven product : ℚ) ≤ 0 := by exact_mod_cast Int.lt_add_one_iff.1 (not_le.1 hone)
      have hlow := (abs_le.1 hclose).1
      show (size.2 : ℚ) * (maxWidthPx / size.1) ≤ _
      linarith

/-- What `encode_jpeg_thumbnail` returns fits the width, which is then positive. -/
private theorem encodeJpegThumbnail_fits (hfl : Binary64 fl) (hjpeg : jpeg.Documented) {rawMsg : ImageMessage}
    {maxWidthPx : ℤ}
    {thumbnail : Thumbnail}
    (hsides : ∀ image, toPilImage np pil jpeg strRepr rawMsg = .ok image → SidesInRange (pil.size image))
    (h : encodeJpegThumbnail np pil jpeg strRepr fl rawMsg maxWidthPx = .ok thumbnail) :
    ∃ image, toPilImage np pil jpeg strRepr rawMsg = .ok image ∧
      (thumbnail.originalWidthPx, thumbnail.originalHeightPx) =
        (((pil.size image).1 : ℤ), ((pil.size image).2 : ℤ)) ∧
      FitsWidth (pil.size image) maxWidthPx thumbnail.widthPx thumbnail.heightPx := by
  obtain ⟨original, horiginal, h⟩ := bind_returns_iff.1 h
  have hin := hsides original horiginal
  obtain ⟨image, himage, h⟩ := bind_returns_iff.1 h
  obtain ⟨bytes, -, h⟩ := bind_returns_iff.1 h
  obtain rfl := Except.ok.inj h
  refine ⟨original, horiginal, rfl, ?_⟩
  show FitsWidth (pil.size original) maxWidthPx (pil.size image).1 (pil.size image).2
  simp only [scaleDown] at himage
  split at himage
  · next hlt =>
    by_cases hpos : 0 < maxWidthPx
    · have hfits := newSize_fits hfl hin hpos hlt
      obtain ⟨resized, hresized, hwidth, hheight⟩ :=
        hjpeg.resize original maxWidthPx (newSize fl (pil.size original).1 (pil.size original).2 maxWidthPx).2 hpos
          hfits.height_pos
      have hsame : image = resized := Except.ok.inj (himage.symm.trans hresized)
      rw [hsame, hwidth, hheight]
      exact hfits
    · have hraises := hjpeg.resize_raises original maxWidthPx
        (newSize fl (pil.size original).1 (pil.size original).2 maxWidthPx).2 (Or.inl (not_lt.1 hpos))
      cases himage.symm.trans hraises
  · next hge =>
    obtain rfl : original = image := Except.ok.inj himage
    have hwidth : (0 : ℚ) < (pil.size original).1 := by exact_mod_cast hin.width
    refine ⟨(min_eq_right (not_lt.1 hge)).symm, by exact_mod_cast hin.width, by exact_mod_cast hin.height, le_rfl,
      fun _ => rfl, Or.inl ?_⟩
    push_cast
    rw [div_self hwidth.ne', mul_one, sub_self, abs_zero]
    norm_num

/-- Every image that `robot.get_camera_image` returns is that of the latest message of the camera topic, scaled to the
smaller one of the width that was asked for and the cap. -/
theorem getCameraImage_size (hfl : Binary64 fl) (hjpeg : jpeg.Documented) {wiring : ReadWiring} {inputs : ReadInputs}
    {command : SemanticCommand (PyFloat ℝ)} {r : ToolResult (PyFloat ℝ)}
    (hwiring : wiring.imaging.encodeJpegThumbnail = encodeJpegThumbnail np pil jpeg strRepr fl)
    (hsides : ∀ topic cached message image, inputs.camera.image topic = some cached → cached.raw = .ok message →
      toPilImage np pil jpeg strRepr message = .ok image → SidesInRange (pil.size image))
    (h : handleGetCameraImage wiring inputs command = .ok r) (hsucceeded : r.status = .succeeded) :
    ∃ requested topic cached message image stamp frame age bytes widthPx heightPx,
      requestedMaxWidth command inputs.cameraMaxWidthPxDefault = .ok requested ∧
      resolvedTopic inputs.camera.registry "visual_observation" "image" = some topic ∧
      inputs.camera.image topic = some cached ∧ cached.raw = .ok message ∧
      toPilImage np pil jpeg strRepr message = .ok image ∧
      r.fields = .cameraImage stamp frame age bytes widthPx heightPx (pil.size image).1 (pil.size image).2 ∧
      FitsWidth (pil.size image) (min requested inputs.camera.maxWidthPxCap) widthPx heightPx := by
  obtain ⟨requested, hrequested, h⟩ := bind_returns_iff.1 h
  obtain ⟨result, hresult, h⟩ := bind_returns_iff.1 h
  obtain rfl := Except.ok.inj h
  have hsucceeded : result.status = .succeeded := hsucceeded
  unfold resolveCameraImage at hresult
  dsimp only at hresult
  split at hresult
  · obtain rfl := Except.ok.inj hresult
    cases hsucceeded
  · next topic htopic =>
    split at hresult
    · obtain rfl := Except.ok.inj hresult
      cases hsucceeded
    · next cached hcached =>
      split at hresult
      · split at hresult
        · obtain rfl := Except.ok.inj hresult
          cases hsucceeded
        · cases hresult
      · next message thumbnail hencode =>
        obtain rfl := Except.ok.inj hresult
        rw [hwiring] at hencode
        obtain ⟨raw, hraw, hencode⟩ := bind_returns_iff.1 hencode
        cases hthumbnail :
            encodeJpegThumbnail np pil jpeg strRepr fl raw (min requested inputs.camera.maxWidthPxCap) with
        | error exc =>
          rw [hthumbnail] at hencode
          cases hencode
        | ok t =>
          rw [hthumbnail] at hencode
          obtain ⟨rfl, rfl⟩ : raw = message ∧ t = thumbnail := by simpa using Except.ok.inj hencode
          obtain ⟨image, himage, hsize, hfits⟩ := encodeJpegThumbnail_fits hfl hjpeg
            (fun image => hsides topic cached raw image hcached hraw) hthumbnail
          obtain ⟨hwidth, hheight⟩ := Prod.mk.inj hsize
          refine ⟨requested, topic, cached, raw, image, some cached.stamp, raw.frameId, some cached.ageS, t.jpegBytes,
            t.widthPx, t.heightPx, hrequested, htopic, hcached, hraw, himage, ?_, hfits⟩
          rw [← hwidth, ← hheight]
          rfl

end Size

/-! ### A camera of four by two pixels -/

/-- Pillow that keeps the bands of the pixels it scales, and writes no file. -/
def arrayJpeg : Jpeg arrayPillow where
  openImage _ := .error ⟨.runtimeError, "cannot identify image file"⟩
  resize image size :=
    if size.1 ≤ 0 ∨ size.2 ≤ 0 then .error ⟨.valueError, "height and width must be > 0"⟩
    else .ok ⟨image.1, (size.1.toNat, size.2.toNat), fun p =>
      image.2.2 (p.1 * image.2.1.1 / size.1.toNat, p.2 * image.2.1.2 / size.2.toNat)⟩
  save _ _ := .ok []

private theorem arrayJpeg_documented : arrayJpeg.Documented where
  resize image width height hwidth hheight := by
    have hpos : ¬(width ≤ 0 ∨ height ≤ 0) := by omega
    refine ⟨_, if_neg hpos, ?_, ?_⟩
    · exact Int.toNat_of_nonneg hwidth.le
    · exact Int.toNat_of_nonneg hheight.le
  resize_raises _ _ _ h := if_pos h

section Sample

/-- The frame on the camera topic. -/
def cameraFrame : ImageMessage := .image (some "camera") 4 2 "mono8" [0, 50, 100, 150, 200, 250, 0, 50]

noncomputable def cameraWiring : ReadWiring where
  adapter := ⟨"robot", 1, .fin 1, "base_link", "stub"⟩
  imaging := ⟨encodeJpegThumbnail arrayNumpy arrayPillow arrayJpeg id id, fun _ => .error ⟨.valueError, ""⟩,
    fun _ => .ok []⟩

/-- A registry of one camera, with its frame in the cache and a cap of two pixels. -/
noncomputable def cameraInputs : ReadInputs where
  start := 0
  now := 0
  registry := []
  snapshotVersion := 1
  activeCommand := none
  state := ⟨⟨[], fun _ => none, none, 0⟩, fun _ => none⟩
  scan := ⟨[], fun _ => none, 0⟩
  camera := ⟨[⟨"visual_observation", .confirmed, none, [("image", "/camera/image_raw")], []⟩],
    fun _ => some ⟨.ok cameraFrame, 0, 0⟩, 2⟩
  cameraMaxWidthPxDefault := 640
  detect := ⟨[], fun _ => none, [], fun _ => none, fun _ => .ok ⟨false, none, none, none, none⟩⟩

/-- The command of `robot.get_camera_image` without arguments. -/
noncomputable def cameraCommand : SemanticCommand (PyFloat ℝ) where
  commandId := "C"
  sessionId := "session"
  robotId := "robot"
  operation := .getCameraImage
  commandClass := .read
  target := .none
  frame := none
  timeoutS := readDefaultTimeoutS
  priority := .normal
  safetyConstraints := none
  provenance := ⟨"robot.get_camera_image", [], "session"⟩
  confidence := none
  createdAt := 0
  expectedResultType := .cameraImage

private theorem toPilImage_cameraFrame :
    ∃ image, toPilImage arrayNumpy arrayPillow arrayJpeg id cameraFrame = .ok image ∧ arrayPillow.size image = (4, 2) :=
  ⟨_, rfl, rfl⟩

private theorem resolveCameraImage_encoded (robotId commandId : String) (durationSec : PyFloat ℝ) {imaging : Imaging}
    {inputs : CameraInputs} {maxWidthPx : ℤ} {topic : String} {cached : CachedSensor ImageMessage}
    {message : ImageMessage} {thumbnail : Thumbnail}
    (htopic : resolvedTopic inputs.registry "visual_observation" "image" = some topic)
    (hcached : inputs.image topic = some cached) (hraw : cached.raw = .ok message)
    (hencode : imaging.encodeJpegThumbnail message (min maxWidthPx inputs.maxWidthPxCap) = .ok thumbnail) :
    ∃ r, resolveCameraImage robotId commandId durationSec imaging inputs maxWidthPx = .ok r ∧
      r.status = .succeeded := by
  unfold resolveCameraImage
  simp only [htopic, hcached, hraw, Except.bind, hencode, Except.map]
  exact ⟨_, rfl, rfl⟩

private theorem encode_cameraFrame :
    ∃ thumbnail, encodeJpegThumbnail arrayNumpy arrayPillow arrayJpeg id id cameraFrame 2 = .ok thumbnail := by
  obtain ⟨image, himage, hsize⟩ := toPilImage_cameraFrame
  have hheight : 0 < (newSize id 4 2 2).2 := lt_of_lt_of_le one_pos (le_max_left _ _)
  obtain ⟨resized, hresized, -, -⟩ := arrayJpeg_documented.resize image 2 (newSize id 4 2 2).2 (by decide) hheight
  have hscale : scaleDown arrayNumpy arrayPillow arrayJpeg id image 2 = .ok resized := by
    rw [scaleDown, hsize]
    exact (if_pos (by decide)).trans hresized
  refine ⟨⟨[], (arrayPillow.size resized).1, (arrayPillow.size resized).2, 4, 2⟩, ?_⟩
  unfold encodeJpegThumbnail
  rw [himage]
  show (scaleDown arrayNumpy arrayPillow arrayJpeg id image 2 >>= _) = _
  rw [hscale]
  show Except.ok (Thumbnail.mk _ _ _ ((arrayPillow.size image).1 : ℤ) ((arrayPillow.size image).2 : ℤ)) = _
  rw [hsize]
  rfl

/-- The frame is returned at half its width. -/
theorem getCameraImage_cameraFrame :
    ∃ r stamp frame age bytes heightPx, handleGetCameraImage cameraWiring cameraInputs cameraCommand = .ok r ∧
      r.fields = .cameraImage stamp frame age bytes 2 heightPx 4 2 ∧ FitsWidth (4, 2) 2 2 heightPx := by
  obtain ⟨thumbnail, hthumbnail⟩ := encode_cameraFrame
  obtain ⟨frameImage, hframe, hsize⟩ := toPilImage_cameraFrame
  obtain ⟨r, hr, hsucceeded⟩ : ∃ r, handleGetCameraImage cameraWiring cameraInputs cameraCommand = .ok r ∧
      r.status = .succeeded := by
    obtain ⟨result, hresult, hsucceeded⟩ : ∃ result, resolveCameraImage "robot" "" ((0 : ℤ) : PyFloat ℝ)
        cameraWiring.imaging cameraInputs.camera 640 = .ok result ∧ result.status = .succeeded :=
      resolveCameraImage_encoded "robot" "" ((0 : ℤ) : PyFloat ℝ) rfl rfl rfl hthumbnail
    refine ⟨restamp cameraInputs cameraCommand result, ?_, hsucceeded⟩
    show (resolveCameraImage "robot" "" ((0 : ℤ) : PyFloat ℝ) cameraWiring.imaging cameraInputs.camera 640 >>= _) = _
    rw [hresult]
    rfl
  obtain ⟨requested, topic, cached, message, image, stamp, frame, age, bytes, widthPx, heightPx, hrequested, -, hcached,
    hmessage, himage, hfields, hfits⟩ := getCameraImage_size binary64_id arrayJpeg_documented rfl (by
      rintro topic cached message image hcached hmessage himage
      obtain rfl := Option.some.inj hcached
      obtain rfl := Except.ok.inj hmessage
      obtain rfl := Except.ok.inj (hframe.symm.trans himage)
      rw [hsize]
      constructor <;> norm_num) hr hsucceeded
  obtain rfl := Option.some.inj hcached
  obtain rfl := Except.ok.inj hmessage
  obtain rfl := Except.ok.inj (hframe.symm.trans himage)
  obtain rfl := Except.ok.inj hrequested
  rw [hsize] at hfields hfits
  have hwidth : widthPx = 2 := hfits.width
  subst hwidth
  exact ⟨r, stamp, frame, age, bytes, heightPx, hr, hfields, hfits⟩

end Sample

end RosMcp
