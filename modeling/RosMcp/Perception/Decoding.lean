import RosMcp.Lib.NdArray
import RosMcp.Perception.Detection

/-!
# The decoding of raw images (`perception/camera.py`, `stub_detector.py`)

A `sensor_msgs/msg/Image` holds its rows one after the other, each of `step` bytes: channel `k` of the pixel in row `r`
and column `c` is at `r * step + c * channels + k`.  Two functions read such an image: `rawImageToPil` for the
thumbnail, and `grayscaleArray` for the detector, behind `toRawImage`.  Neither of them reads `step`.

Numpy and Pillow are parameters, `Numpy` and `Pillow`, with what their documentation says of the operations that are
used.
-/

namespace RosMcp

open NdArray (InRange position rowMajor)

/-! ### Messages -/

/-- A `sensor_msgs/msg/Image` message; `step` is the length of a row in bytes. -/
structure SensorImage where
  frameId : Option String
  height : ℕ
  width : ℕ
  encoding : String
  step : ℕ
  data : List UInt8

/-- What `_to_raw_image` reads of an image. -/
def SensorImage.message (msg : SensorImage) : ImageMessage :=
  .image msg.frameId msg.width msg.height msg.encoding msg.data

/-- `_SUPPORTED_ENCODINGS` -/
def supportedEncodings : List String := ["rgb8", "bgr8", "mono8", "rgba8", "bgra8"]

/-- The bytes of a pixel. -/
def channels (encoding : String) : ℕ :=
  if encoding = "mono8" then 1 else if encoding ∈ ["rgba8", "bgra8"] then 4 else 3

/-- The rows hold the pixels of a supported encoding, and the data are the rows. -/
structure SensorImage.WellFormed (msg : SensorImage) : Prop where
  encoding : msg.encoding ∈ supportedEncodings
  height : 0 < msg.height
  width : 0 < msg.width
  step : msg.width * channels msg.encoding ≤ msg.step
  data : msg.data.length = msg.step * msg.height

/-- Channel `k` of the pixel in row `r` and column `c`. -/
def SensorImage.channel (msg : SensorImage) (r c k : ℕ) : Option UInt8 :=
  msg.data[r * msg.step + c * channels msg.encoding + k]?

/-! ### Numpy -/

/-- The mean of some bytes. -/
def byteMean (bytes : List UInt8) : ℚ := (bytes.map fun b => (b.toNat : ℚ)).sum / bytes.length

/-- What the decoding uses of numpy: arrays of `uint8` and of `float32`, their shapes, and their items. -/
structure Numpy where
  U8 : Type
  F32 : Type
  shape : U8 → List ℕ
  item : U8 → List ℕ → Option UInt8
  shapeF32 : F32 → List ℕ
  itemF32 : F32 → List ℕ → Option ℚ
  /-- The nearest `float32`. -/
  float32 : ℚ → ℚ
  /-- `np.frombuffer(data, dtype=np.uint8)` -/
  frombuffer : List UInt8 → Except PyException U8
  /-- `arr.reshape(shape)` -/
  reshape : U8 → List ℕ → Except PyException U8
  /-- `arr[:n]` -/
  head : U8 → ℕ → U8
  /-- `arr[:, :, ::-1]` -/
  reverseChannels : U8 → Except PyException U8
  /-- `arr[:, :, places]` -/
  pickChannels : U8 → List ℕ → Except PyException U8
  /-- `arr[:, :, :n]` -/
  headChannels : U8 → ℕ → Except PyException U8
  /-- `arr.astype(np.float32)` -/
  astypeFloat32 : U8 → F32
  /-- `arr.mean(axis=2)` -/
  meanChannels : F32 → Except PyException F32

/-- The documented behaviour of numpy, on the flat arrays and on the arrays of three dimensions that the decoding makes.
The sum of a few bytes is exact in `float32`. -/
structure Numpy.Documented (np : Numpy) : Prop where
  float32_nat : ∀ n : ℕ, n ≤ 2 ^ 24 → np.float32 n = n
  frombuffer : ∀ data, data ≠ [] → ∃ arr, np.frombuffer data = .ok arr ∧ np.shape arr = [data.length] ∧
    ∀ i < data.length, np.item arr [i] = data[i]?
  reshape : ∀ arr n shape, np.shape arr = [n] → shape.prod = n →
    ∃ arr', np.reshape arr shape = .ok arr' ∧ np.shape arr' = shape ∧
      ∀ index, InRange shape index → np.item arr' index = np.item arr [position (rowMajor shape) index]
  reshape_raises : ∀ arr n shape, np.shape arr = [n] → shape.prod ≠ n →
    ∃ message, np.reshape arr shape = .error ⟨.valueError, message⟩
  head : ∀ arr n m, np.shape arr = [n] →
    np.shape (np.head arr m) = [min m n] ∧ ∀ i < min m n, np.item (np.head arr m) [i] = np.item arr [i]
  reverseChannels : ∀ arr h w n, np.shape arr = [h, w, n] →
    ∃ arr', np.reverseChannels arr = .ok arr' ∧ np.shape arr' = [h, w, n] ∧
      ∀ r < h, ∀ c < w, ∀ k < n, np.item arr' [r, c, k] = np.item arr [r, c, n - 1 - k]
  pickChannels : ∀ arr h w n places, np.shape arr = [h, w, n] → (∀ k ∈ places, k < n) →
    ∃ arr', np.pickChannels arr places = .ok arr' ∧ np.shape arr' = [h, w, places.length] ∧
      ∀ r < h, ∀ c < w, ∀ k < places.length, np.item arr' [r, c, k] = np.item arr [r, c, places.getD k 0]
  headChannels : ∀ arr h w n m, np.shape arr = [h, w, n] →
    ∃ arr', np.headChannels arr m = .ok arr' ∧ np.shape arr' = [h, w, min m n] ∧
      ∀ r < h, ∀ c < w, ∀ k < min m n, np.item arr' [r, c, k] = np.item arr [r, c, k]
  shape_astypeFloat32 : ∀ arr, np.shapeF32 (np.astypeFloat32 arr) = np.shape arr
  item_astypeFloat32 : ∀ arr index,
    np.itemF32 (np.astypeFloat32 arr) index = (np.item arr index).map fun b => (b.toNat : ℚ)
  meanChannels : ∀ arr h w n, np.shape arr = [h, w, n] → 0 < n → n * 255 ≤ 2 ^ 24 →
    ∃ mean, np.meanChannels (np.astypeFloat32 arr) = .ok mean ∧ np.shapeF32 mean = [h, w] ∧
      ∀ r < h, ∀ c < w, ∀ bytes : List UInt8, bytes.length = n →
        (∀ k < n, np.item arr [r, c, k] = bytes[k]?) → np.itemF32 mean [r, c] = some (np.float32 (byteMean bytes))

/-! ### Pillow -/

/-- What the decoding uses of Pillow, with the arrays of `np`; `getpixel` takes a column and a row, and gives the bands
of the pixel. -/
structure Pillow (np : Numpy) where
  Image : Type
  mode : Image → String
  size : Image → ℕ × ℕ
  getpixel : Image → ℕ × ℕ → Option (List UInt8)
  /-- `Image.fromarray(arr, mode=mode)` -/
  fromarray : np.U8 → String → Except PyException Image
  /-- `image.convert(mode)` -/
  convert : Image → String → Except PyException Image

/-- The documented behaviour of Pillow: an image is made of the items of an array, a grey image is converted by taking
its band three times, and an image with an alpha channel by dropping that channel. -/
structure Pillow.Documented {np : Numpy} (pil : Pillow np) : Prop where
  fromarray_gray : ∀ arr h w, np.shape arr = [h, w] → 0 < h → 0 < w →
    ∃ image, pil.fromarray arr "L" = .ok image ∧ pil.mode image = "L" ∧ pil.size image = (w, h) ∧
      ∀ r < h, ∀ c < w, ∀ b, np.item arr [r, c] = some b → pil.getpixel image (c, r) = some [b]
  fromarray_color : ∀ arr h w mode n, (mode, n) ∈ [("RGB", 3), ("RGBA", 4)] → np.shape arr = [h, w, n] → 0 < h →
    0 < w → ∃ image, pil.fromarray arr mode = .ok image ∧ pil.mode image = mode ∧ pil.size image = (w, h) ∧
      ∀ r < h, ∀ c < w, ∀ bands : List UInt8, bands.length = n →
        (∀ k < n, np.item arr [r, c, k] = bands[k]?) → pil.getpixel image (c, r) = some bands
  convert_gray : ∀ image, pil.mode image = "L" →
    ∃ rgb, pil.convert image "RGB" = .ok rgb ∧ pil.size rgb = pil.size image ∧
      ∀ p b, pil.getpixel image p = some [b] → pil.getpixel rgb p = some [b, b, b]
  convert_alpha : ∀ image, pil.mode image = "RGBA" →
    ∃ rgb, pil.convert image "RGB" = .ok rgb ∧ pil.size rgb = pil.size image ∧
      ∀ p r g b a, pil.getpixel image p = some [r, g, b, a] → pil.getpixel rgb p = some [r, g, b]

/-! ### Arrays and images in memory -/

/-- The message of numpy when a shape does not fit. -/
def cannotReshape (size : ℕ) (shape : List ℕ) : String :=
  "cannot reshape array of size " ++ toString size ++ " into shape (" ++ ",".intercalate (shape.map toString) ++ ")"

/-- Numpy with arrays of the library, and without rounding. -/
def arrayNumpy : Numpy where
  U8 := NdArray UInt8
  F32 := NdArray ℚ
  shape a := a.shape
  item a := a.get?
  shapeF32 a := a.shape
  itemF32 a := a.get?
  float32 q := q
  frombuffer data := .ok (NdArray.ofList data)
  reshape a shape := match a.reshape shape with
    | some b => .ok b
    | none => .error ⟨.valueError, cannotReshape a.shape.prod shape⟩
  head a n := a.head n
  reverseChannels a := .ok (a.select 2 (List.range (a.shape.getD 2 0)).reverse)
  pickChannels a places := .ok (a.select 2 places)
  headChannels a n := .ok (a.select 2 (List.range (min n (a.shape.getD 2 0))))
  astypeFloat32 a := a.map fun b => (b.toNat : ℚ)
  meanChannels a := .ok (a.reduce (fun items => items.sum / items.length) 2 (a.shape.getD 2 0))

theorem arrayNumpy_documented : arrayNumpy.Documented where
  float32_nat _ _ := rfl
  frombuffer data _ := ⟨NdArray.ofList data, rfl, rfl, fun i _ => NdArray.get?_ofList data i⟩
  reshape := fun (a : NdArray UInt8) n shape (hflat : a.shape = [n]) hn => by
    obtain ⟨b, hb, hshape, hitem⟩ := NdArray.get?_reshape hflat hn
    exact ⟨b, by simp [arrayNumpy, hb], hshape, hitem⟩
  reshape_raises := fun (a : NdArray UInt8) n shape (hflat : a.shape = [n]) hn => by
    have hnone : a.reshape shape = none := if_neg (by simpa [hflat] using hn)
    refine ⟨cannotReshape a.shape.prod shape, ?_⟩
    simp [arrayNumpy, hnone]
  head := fun (a : NdArray UInt8) n m (hflat : a.shape = [n]) => by
    have hshape : (a.head m).shape = [min m n] := by simp [NdArray.head, hflat]
    refine ⟨hshape, fun i hi => ?_⟩
    show (a.head m).get? [i] = a.get? [i]
    rw [NdArray.get?_eq (by simpa [hshape] using hi),
      NdArray.get?_eq (by simpa [hflat] using hi.trans_le (Nat.min_le_right _ _))]
    rfl
  reverseChannels := fun (a : NdArray UInt8) h w n (hshape : a.shape = [h, w, n]) => by
    refine ⟨_, rfl, by simp [arrayNumpy, NdArray.select, hshape], fun r hr c hc k hk => ?_⟩
    show (a.select 2 _).get? [r, c, k] = a.get? [r, c, n - 1 - k]
    rw [NdArray.get?_select hshape (by simp [hshape]) hr hc (by simpa [hshape] using hk)]
    simp [hshape, hk]
  pickChannels := fun (a : NdArray UInt8) h w n places (hshape : a.shape = [h, w, n]) hplaces =>
    ⟨_, rfl, by simp [arrayNumpy, NdArray.select, hshape],
      fun r hr c hc k hk => NdArray.get?_select hshape hplaces hr hc hk⟩
  headChannels := fun (a : NdArray UInt8) h w n m (hshape : a.shape = [h, w, n]) => by
    refine ⟨_, rfl, by simp [arrayNumpy, NdArray.select, hshape], fun r hr c hc k hk => ?_⟩
    show (a.select 2 _).get? [r, c, k] = a.get? [r, c, k]
    rw [NdArray.get?_select hshape (by simp [hshape]) hr hc (by simpa [hshape] using hk)]
    simp [hshape, Nat.lt_min.1 hk]
  shape_astypeFloat32 _ := rfl
  item_astypeFloat32 _ index := NdArray.get?_map _ index
  meanChannels := fun (a : NdArray UInt8) h w n (hshape : a.shape = [h, w, n]) _ _ => by
    refine ⟨_, rfl, by simp [arrayNumpy, NdArray.reduce, NdArray.map, hshape], fun r hr c hc bytes hlength hbytes => ?_⟩
    let toFloat : UInt8 → ℚ := fun b => (b.toNat : ℚ)
    have hitems : ∀ k < (bytes.map toFloat).length, (a.map toFloat).get? [r, c, k] = (bytes.map toFloat)[k]? := by
      intro k hk
      have hbyte : a.get? [r, c, k] = bytes[k]? := hbytes k (by simpa [hlength] using hk)
      rw [NdArray.get?_map, hbyte, List.getElem?_map]
    have hmapShape : (a.map toFloat).shape = [h, w, (bytes.map toFloat).length] := by
      simpa [NdArray.map, hlength] using hshape
    have hmean := NdArray.get?_reduce (fun items => items.sum / (items.length : ℚ)) hmapShape hr hc hitems
    simpa [arrayNumpy, byteMean, hshape, NdArray.map, hlength] using hmean

/-- Pillow with a mode, a size and the bands of each pixel. -/
def arrayPillow : Pillow arrayNumpy where
  Image := String × (ℕ × ℕ) × (ℕ × ℕ → Option (List UInt8))
  mode image := image.1
  size image := image.2.1
  getpixel image := image.2.2
  fromarray a mode := .ok ⟨mode, (a.shape.getD 1 0, a.shape.getD 0 0), fun p =>
    if mode = "L" then (a.get? [p.2, p.1]).map fun b => [b]
    else (a.reduce id 2 (a.shape.getD 2 0)).get? [p.2, p.1]⟩
  convert image mode := .ok ⟨mode, image.2.1, fun p => (image.2.2 p).map fun
    | [b] => [b, b, b]
    | bands => bands.take 3⟩

theorem arrayPillow_documented : arrayPillow.Documented where
  fromarray_gray := fun (a : NdArray UInt8) h w (hshape : a.shape = [h, w]) _ _ => by
    refine ⟨_, rfl, rfl, by simp [arrayPillow, hshape], fun r _ c _ b hb => ?_⟩
    have hb : a.get? [r, c] = some b := hb
    simp [arrayPillow, hb]
  fromarray_color := fun (a : NdArray UInt8) h w mode n hmode (hshape : a.shape = [h, w, n]) _ _ => by
    have hcolor : mode ≠ "L" := by
      rintro rfl
      simp at hmode
    refine ⟨_, rfl, rfl, by simp [arrayPillow, hshape], fun r hr c hc bands hlength hbands => ?_⟩
    subst hlength
    have hpixel := NdArray.get?_reduce id hshape hr hc hbands
    simpa [arrayPillow, hcolor, hshape] using hpixel
  convert_gray image _ := ⟨_, rfl, rfl, fun p b hb => by
    have hb : image.2.2 p = some [b] := hb
    simp [arrayPillow, hb]⟩
  convert_alpha image _ := ⟨_, rfl, rfl, fun p r g b a hp => by
    have hp : image.2.2 p = some [r, g, b, a] := hp
    simp [arrayPillow, hp]⟩

/-! ### The two decoders -/

section Decoders

variable (np : Numpy) (pil : Pillow np) (strRepr : String → String)

/-- The array that `_raw_image_to_pil` hands to `Image.fromarray`. -/
def rawImageArray (rawMsg : SensorImage) : Except PyException np.U8 := do
  let arr ← np.frombuffer rawMsg.data
  if rawMsg.encoding ∈ ["rgb8", "bgr8"] then
    let arr ← np.reshape arr [rawMsg.height, rawMsg.width, 3]
    if rawMsg.encoding = "bgr8" then np.reverseChannels arr else return arr
  else if rawMsg.encoding = "mono8" then np.reshape arr [rawMsg.height, rawMsg.width]
  else
    let arr ← np.reshape arr [rawMsg.height, rawMsg.width, 4]
    if rawMsg.encoding = "bgra8" then np.pickChannels arr [2, 1, 0, 3] else return arr

/-- `_raw_image_to_pil`; `strRepr` is `repr` on strings. -/
def rawImageToPil (rawMsg : SensorImage) : Except PyException pil.Image := do
  if rawMsg.encoding ∉ supportedEncodings then
    throw ⟨.valueError, "unsupported sensor_msgs/Image encoding: " ++ strRepr rawMsg.encoding⟩
  let arr ← rawImageArray np rawMsg
  if rawMsg.encoding ∈ ["rgb8", "bgr8"] then pil.fromarray arr "RGB"
  else if rawMsg.encoding = "mono8" then pil.convert (← pil.fromarray arr "L") "RGB"
  else pil.convert (← pil.fromarray arr "RGBA") "RGB"

/-- The reshaped array of `_grayscale_array`. -/
def grayscaleChannels (image : RawImage) : Except PyException np.U8 := do
  let arr ← np.frombuffer image.data
  let pixelCount := image.heightPx * image.widthPx
  if image.encoding ∈ ["rgb8", "bgr8", "rgba8", "bgra8"] then
    let channels := if image.encoding ∈ ["rgba8", "bgra8"] then 4 else 3
    np.reshape (np.head arr (pixelCount * channels)) [image.heightPx, image.widthPx, channels]
  else np.reshape (np.head arr pixelCount) [image.heightPx, image.widthPx]

/-- `_grayscale_array` -/
def grayscaleArray (image : RawImage) : Except PyException np.F32 := do
  let arr ← grayscaleChannels np image
  if image.encoding ∈ ["rgb8", "bgr8", "rgba8", "bgra8"] then
    np.meanChannels (np.astypeFloat32 (← np.headChannels arr 3))
  else return np.astypeFloat32 arr

end Decoders

/-! ### Reading by the layout -/

/-- The arrays of the two decoders have one item for each byte of a pixel. -/
def SensorImage.shape (msg : SensorImage) : List ℕ :=
  if msg.encoding = "mono8" then [msg.height, msg.width] else [msg.height, msg.width, channels msg.encoding]

/-- The index of channel `k` of the pixel in row `r` and column `c`. -/
def SensorImage.index (msg : SensorImage) (r c k : ℕ) : List ℕ :=
  if msg.encoding = "mono8" then [r, c] else [r, c, k]

/-- The channel that stands at the place `k` when red comes first. -/
def rgbPlace (encoding : String) (k : ℕ) : ℕ :=
  if encoding = "mono8" then 0 else if encoding ∈ ["bgr8", "bgra8"] ∧ k < 3 then 2 - k else k

section Layout

variable {msg : SensorImage} {r c k : ℕ}

theorem encoding_cases {encoding : String} (h : encoding ∈ supportedEncodings) :
    encoding = "rgb8" ∨ encoding = "bgr8" ∨ encoding = "mono8" ∨ encoding = "rgba8" ∨ encoding = "bgra8" := by
  simpa [supportedEncodings] using h

private theorem channels_pos (encoding : String) : 0 < channels encoding := by
  unfold channels
  split
  · decide
  · split <;> decide

private theorem SensorImage.shape_prod (msg : SensorImage) :
    msg.shape.prod = msg.height * (msg.width * channels msg.encoding) := by
  unfold SensorImage.shape
  by_cases h : msg.encoding = "mono8" <;> simp [h, channels]

theorem SensorImage.inRange_index (hr : r < msg.height) (hc : c < msg.width) (hk : k < channels msg.encoding) :
    InRange msg.shape (msg.index r c k) := by
  unfold SensorImage.shape SensorImage.index
  by_cases h : msg.encoding = "mono8" <;> simp [h, hr, hc, hk]

/-- Without padding, row-major order is the layout of the message. -/
theorem SensorImage.position_index (hk : k < channels msg.encoding) :
    position (rowMajor msg.shape) (msg.index r c k) =
      r * (msg.width * channels msg.encoding) + c * channels msg.encoding + k := by
  unfold SensorImage.shape SensorImage.index
  by_cases h : msg.encoding = "mono8"
  · have hk0 : k = 0 := by simpa [h, channels] using hk
    simp [h, hk0, channels]
  · simp [h, add_assoc]

namespace SensorImage.WellFormed

variable (h : msg.WellFormed)
include h

theorem data_ne_nil : msg.data ≠ [] := by
  have hpixels : 0 < msg.width * channels msg.encoding := Nat.mul_pos h.width (channels_pos _)
  have hlength : 0 < msg.data.length := by
    rw [h.data]
    exact Nat.mul_pos (hpixels.trans_le h.step) h.height
  exact List.ne_nil_of_length_pos hlength

/-- Every channel of every pixel lies in the data. -/
theorem exists_channel (hr : r < msg.height) (hc : c < msg.width) (hk : k < channels msg.encoding) :
    ∃ b, msg.channel r c k = some b := by
  have hrow : position (rowMajor [msg.width, channels msg.encoding]) [c, k] <
      [msg.width, channels msg.encoding].prod :=
    NdArray.position_rowMajor_lt (by simp [hc, hk])
  have hlt := NdArray.position_padded_lt (by simpa using h.step) hr hrow
  have hlength : r * msg.step + c * channels msg.encoding + k < msg.data.length := by
    rw [h.data, Nat.mul_comm msg.step]
    simpa [add_assoc] using hlt
  exact ⟨_, List.getElem?_eq_getElem hlength⟩

/-- The data of an unpadded image are exactly its pixels. -/
theorem shape_prod_eq_iff :
    msg.shape.prod = msg.data.length ↔ msg.step = msg.width * channels msg.encoding := by
  rw [msg.shape_prod, h.data, Nat.mul_comm msg.step, Nat.mul_right_inj h.height.ne']
  exact eq_comm

theorem shape_prod_le : msg.shape.prod ≤ msg.data.length := by
  rw [msg.shape_prod, h.data, Nat.mul_comm msg.step]
  exact Nat.mul_le_mul_left _ h.step

end SensorImage.WellFormed

end Layout

end RosMcp
