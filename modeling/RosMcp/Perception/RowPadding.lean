import RosMcp.Perception.Decoding

/-!
# Raw images with and without row padding

Both decoders reshape the data as if the rows followed each other without a gap.  On an image without padding
(`step = width * channels`) they read every channel where the layout of the message has it, and the detector sees the
mean of the thumbnail's bands (`decodedByLayout_iff`).  On an image with padding the thumbnail raises a `ValueError`
(`rawImageToPil_padded`), and the detector takes the rows from the wrong places (`grayscaleChannels_item`).
-/

namespace RosMcp

open NdArray (InRange position rowMajor)

/-! ### Arrays of the data -/

section Arrays

variable {np : Numpy} (hnp : np.Documented) {data : List UInt8} {shape : List ℕ}
include hnp

/-- The data under a shape that has as many items. -/
private theorem reshape_data (hne : data ≠ []) (hn : shape.prod = data.length) :
    ∃ buffer arr, np.frombuffer data = .ok buffer ∧ np.reshape buffer shape = .ok arr ∧ np.shape arr = shape ∧
      ∀ index, InRange shape index → np.item arr index = data[position (rowMajor shape) index]? := by
  obtain ⟨buffer, hbuffer, hflat, hitems⟩ := hnp.frombuffer data hne
  obtain ⟨arr, harr, hshape, hitem⟩ := hnp.reshape buffer data.length shape hflat hn
  refine ⟨buffer, arr, hbuffer, harr, hshape, fun index hindex => ?_⟩
  have hlt := NdArray.position_rowMajor_lt hindex
  rw [hitem index hindex, hitems _ (hn ▸ hlt)]

private theorem reshape_data_raises (hne : data ≠ []) (hn : shape.prod ≠ data.length) :
    ∃ buffer message, np.frombuffer data = .ok buffer ∧ np.reshape buffer shape = .error ⟨.valueError, message⟩ := by
  obtain ⟨buffer, hbuffer, hflat, -⟩ := hnp.frombuffer data hne
  obtain ⟨message, hmessage⟩ := hnp.reshape_raises buffer data.length shape hflat hn
  exact ⟨buffer, message, hbuffer, hmessage⟩

/-- The beginning of the data under a shape. -/
private theorem reshape_head_data (hne : data ≠ []) (hn : shape.prod ≤ data.length) :
    ∃ buffer arr, np.frombuffer data = .ok buffer ∧ np.reshape (np.head buffer shape.prod) shape = .ok arr ∧
      np.shape arr = shape ∧
      ∀ index, InRange shape index → np.item arr index = data[position (rowMajor shape) index]? := by
  obtain ⟨buffer, hbuffer, hflat, hitems⟩ := hnp.frombuffer data hne
  obtain ⟨hhead, hheadItems⟩ := hnp.head buffer data.length shape.prod hflat
  rw [Nat.min_eq_left hn] at hhead hheadItems
  obtain ⟨arr, harr, hshape, hitem⟩ := hnp.reshape _ _ shape hhead rfl
  refine ⟨buffer, arr, hbuffer, harr, hshape, fun index hindex => ?_⟩
  have hlt := NdArray.position_rowMajor_lt hindex
  rw [hitem index hindex, hheadItems _ hlt, hitems _ (hlt.trans_le hn)]

end Arrays

/-! ### The thumbnail -/

section Thumbnail

variable {np : Numpy} {pil : Pillow np} {strRepr : String → String} {msg : SensorImage}

/-- The channels of the array in the order red, green, blue. -/
def toRgbOrder (np : Numpy) (encoding : String) (arr : np.U8) : Except PyException np.U8 :=
  if encoding = "bgr8" then np.reverseChannels arr
  else if encoding = "bgra8" then np.pickChannels arr [2, 1, 0, 3] else pure arr

/-- The encodings are reshaped alike. -/
theorem rawImageArray_eq (h : msg.encoding ∈ supportedEncodings) : rawImageArray np msg = (do
    let buffer ← np.frombuffer msg.data
    let arr ← np.reshape buffer msg.shape
    toRgbOrder np msg.encoding arr) := by
  unfold rawImageArray toRgbOrder SensorImage.shape
  rcases encoding_cases h with h | h | h | h | h
  all_goals simp [h, channels]

private theorem rawImageToPil_eq (h : msg.encoding ∈ supportedEncodings) : rawImageToPil np pil strRepr msg = (do
    let arr ← rawImageArray np msg
    if channels msg.encoding = 3 then pil.fromarray arr "RGB"
    else do
      let image ← pil.fromarray arr (if channels msg.encoding = 1 then "L" else "RGBA")
      pil.convert image "RGB") := by
  unfold rawImageToPil
  rcases encoding_cases h with h | h | h | h | h
  all_goals simp [h, channels, supportedEncodings]

/-- At its place `k` the array has channel `place k` of every pixel, as the layout of the message has it. -/
def ReadsChannels (np : Numpy) (msg : SensorImage) (arr : np.U8) (place : ℕ → ℕ) : Prop :=
  ∀ r < msg.height, ∀ c < msg.width, ∀ k < channels msg.encoding,
    np.item arr (msg.index r c k) = msg.channel r c (place k)

/-- A thumbnail and the array it is made of have every channel where the layout of the message has it. -/
structure ReadsThumbnail (pil : Pillow np) (msg : SensorImage) (arr : np.U8) (image : pil.Image) : Prop where
  size : pil.size image = (msg.width, msg.height)
  item : ReadsChannels np msg arr (rgbPlace msg.encoding)
  pixel : ∀ r < msg.height, ∀ c < msg.width, ∃ red green blue,
    msg.channel r c (rgbPlace msg.encoding 0) = some red ∧ msg.channel r c (rgbPlace msg.encoding 1) = some green ∧
      msg.channel r c (rgbPlace msg.encoding 2) = some blue ∧ pil.getpixel image (c, r) = some [red, green, blue]

private theorem rgbPlace_lt {encoding : String} {k : ℕ} (hk : k < max 3 (channels encoding)) :
    rgbPlace encoding k < channels encoding := by
  unfold rgbPlace channels at *
  by_cases hmono : encoding = "mono8"
  · simp [hmono]
  · by_cases halpha : encoding ∈ ["rgba8", "bgra8"]
    · simp only [hmono, halpha, if_false, if_true] at *
      split <;> omega
    · simp only [hmono, halpha, if_false] at *
      split <;> omega

/-- The two ways of selecting the channels put them in the same order. -/
private theorem toRgbOrder_item (hnp : np.Documented) {arr : np.U8} (hshape : np.shape arr = msg.shape) :
    ∃ arr', toRgbOrder np msg.encoding arr = .ok arr' ∧ np.shape arr' = msg.shape ∧
      ∀ r < msg.height, ∀ c < msg.width, ∀ k < channels msg.encoding,
        np.item arr' (msg.index r c k) = np.item arr (msg.index r c (rgbPlace msg.encoding k)) := by
  unfold SensorImage.shape SensorImage.index at *
  by_cases hbgr : msg.encoding = "bgr8"
  · simp only [hbgr, channels] at *
    obtain ⟨arr', harr', hshape', hitem⟩ := hnp.reverseChannels arr _ _ _ hshape
    refine ⟨arr', by simpa [toRgbOrder] using harr', hshape', fun r hr c hc k hk => ?_⟩
    have hk3 : k < 3 := hk
    have hplace : rgbPlace "bgr8" k = 3 - 1 - k := by simp [rgbPlace, hk3]
    rw [hplace]
    exact hitem r hr c hc k hk
  by_cases hbgra : msg.encoding = "bgra8"
  · simp only [hbgra, channels] at *
    obtain ⟨arr', harr', hshape', hitem⟩ := hnp.pickChannels arr _ _ _ [2, 1, 0, 3] hshape (by decide)
    refine ⟨arr', by simpa [toRgbOrder] using harr', hshape', fun r hr c hc k hk => ?_⟩
    have hplaces : ∀ k < 4, rgbPlace "bgra8" k = [2, 1, 0, 3].getD k 0 := by decide
    have hk4 : k < 4 := hk
    rw [hplaces k hk4]
    exact hitem r hr c hc k hk
  · refine ⟨arr, by simp [toRgbOrder, hbgr, hbgra, pure, Except.pure], hshape, fun r _ c _ k _ => ?_⟩
    by_cases hmono : msg.encoding = "mono8"
    · simp only [hmono, if_true]
    · simp [rgbPlace, hmono, hbgr, hbgra]

/-- Without padding the array of the thumbnail is read by the layout. -/
private theorem rawImageArray_packed (hnp : np.Documented) (h : msg.WellFormed)
    (hstep : msg.step = msg.width * channels msg.encoding) : ∃ arr, rawImageArray np msg = .ok arr ∧
      np.shape arr = msg.shape ∧ ReadsChannels np msg arr (rgbPlace msg.encoding) := by
  obtain ⟨buffer, arr, hbuffer, harr, hshape, hitem⟩ :=
    reshape_data hnp h.data_ne_nil (h.shape_prod_eq_iff.2 hstep)
  obtain ⟨arr', harr', hshape', hitem'⟩ := toRgbOrder_item hnp hshape
  refine ⟨arr', ?_, hshape', fun r hr c hc k hk => ?_⟩
  · rw [rawImageArray_eq h.encoding, hbuffer]
    show (np.reshape buffer msg.shape >>= _) = _
    rw [harr]
    exact harr'
  · have hplace : rgbPlace msg.encoding k < channels msg.encoding := rgbPlace_lt (by omega)
    rw [hitem' r hr c hc k hk, hitem _ (SensorImage.inRange_index hr hc hplace),
      SensorImage.position_index hplace, ← hstep]
    rfl

/-- Some channels of a pixel. -/
private theorem SensorImage.WellFormed.exists_bytes (h : msg.WellFormed) {r c n : ℕ} {place : ℕ → ℕ}
    (hr : r < msg.height)
    (hc : c < msg.width) (hplace : ∀ k < n, place k < channels msg.encoding) :
    ∃ bytes : List UInt8, bytes.length = n ∧ ∀ k < n, msg.channel r c (place k) = bytes[k]? := by
  refine ⟨(List.range n).map fun k => (msg.channel r c (place k)).getD 0, by simp, fun k hk => ?_⟩
  obtain ⟨b, hb⟩ := h.exists_channel hr hc (hplace k hk)
  simp [hk, hb]

private theorem channels_mono {encoding : String} (h : encoding = "mono8") : channels encoding = 1 := by simp
    [channels, h]

private theorem channels_color {encoding : String} (h : encoding ≠ "mono8") :
    channels encoding = 3 ∨ channels encoding = 4 := by
  unfold channels
  by_cases halpha : encoding ∈ ["rgba8", "bgra8"] <;> simp [h, halpha]

/-- Pillow makes a coloured image of all the channels. -/
private theorem fromarray_bands (hpil : pil.Documented) (h : msg.WellFormed) (hcolor : msg.encoding ≠ "mono8")
    {arr : np.U8}
    {mode : String} (hmode : (mode, channels msg.encoding) ∈ [("RGB", 3), ("RGBA", 4)])
    (hshape : np.shape arr = msg.shape) (hitem : ReadsChannels np msg arr (rgbPlace msg.encoding)) :
    ∃ image, pil.fromarray arr mode = .ok image ∧ pil.mode image = mode ∧ pil.size image = (msg.width, msg.height) ∧
      ∀ r < msg.height, ∀ c < msg.width, ∃ bands : List UInt8, bands.length = channels msg.encoding ∧
        (∀ k < channels msg.encoding, msg.channel r c (rgbPlace msg.encoding k) = bands[k]?) ∧
          pil.getpixel image (c, r) = some bands := by
  have hshape3 : np.shape arr = [msg.height, msg.width, channels msg.encoding] := by
    simpa [SensorImage.shape, hcolor] using hshape
  obtain ⟨image, himage, himageMode, hsize, hpixel⟩ :=
    hpil.fromarray_color arr _ _ mode _ hmode hshape3 h.height h.width
  refine ⟨image, himage, himageMode, hsize, fun r hr c hc => ?_⟩
  have hplace : ∀ k < channels msg.encoding, rgbPlace msg.encoding k < channels msg.encoding :=
    fun k hk => rgbPlace_lt (by omega)
  obtain ⟨bands, hlength, hbands⟩ := h.exists_bytes hr hc hplace
  refine ⟨bands, hlength, hbands, hpixel r hr c hc bands hlength fun k hk => ?_⟩
  have hread := (hitem r hr c hc k hk).trans (hbands k hk)
  simpa only [SensorImage.index, hcolor, if_false] using hread

/-- Pillow makes the thumbnail of the items of the array, and keeps the first three channels. -/
private theorem rawImageToPil_reads (hpil : pil.Documented) (h : msg.WellFormed) {arr : np.U8}
    (harr : rawImageArray np msg = .ok arr) (hshape : np.shape arr = msg.shape)
    (hitem : ReadsChannels np msg arr (rgbPlace msg.encoding)) :
    ∃ image, rawImageToPil np pil strRepr msg = .ok image ∧ ReadsThumbnail pil msg arr image := by
  rw [rawImageToPil_eq h.encoding, harr]
  by_cases hmono : msg.encoding = "mono8"
  · have hn : channels msg.encoding = 1 := channels_mono hmono
    have hgray : np.shape arr = [msg.height, msg.width] := by simpa [SensorImage.shape, hmono] using hshape
    obtain ⟨image, himage, hmode, hsize, hpixel⟩ := hpil.fromarray_gray arr _ _ hgray h.height h.width
    obtain ⟨rgb, hrgb, hsize', hpixel'⟩ := hpil.convert_gray image hmode
    refine ⟨rgb, ?_, hsize'.trans hsize, hitem, fun r hr c hc => ?_⟩
    · show (if channels msg.encoding = 3 then _ else _) = _
      rw [if_neg (by omega), if_pos hn, himage]
      exact hrgb
    · have hplaces : ∀ k, rgbPlace msg.encoding k = rgbPlace msg.encoding 0 := fun k => by simp [rgbPlace, hmono]
      obtain ⟨b, hb⟩ := h.exists_channel hr hc (rgbPlace_lt (by omega) : rgbPlace msg.encoding 0 < _)
      have hread := (hitem r hr c hc 0 (by omega)).trans hb
      simp only [SensorImage.index, hmono, if_true] at hread
      exact ⟨b, b, b, hb, (hplaces 1) ▸ hb, (hplaces 2) ▸ hb, hpixel' _ b (hpixel r hr c hc b hread)⟩
  rcases channels_color hmono with hn | hn
  · obtain ⟨image, himage, -, hsize, hpixel⟩ :=
      @fromarray_bands np pil msg hpil h hmono arr "RGB" (by simp [hn]) hshape hitem
    refine ⟨image, ?_, hsize, hitem, fun r hr c hc => ?_⟩
    · show (if channels msg.encoding = 3 then _ else _) = _
      rw [if_pos hn, himage]
    · obtain ⟨bands, hlength, hbands, hrgb⟩ := hpixel r hr c hc
      obtain ⟨red, green, blue, rfl⟩ := List.length_eq_three.1 (hlength.trans hn)
      exact ⟨red, green, blue, hbands 0 (by omega), hbands 1 (by omega), hbands 2 (by omega), hrgb⟩
  · obtain ⟨image, himage, hmode, hsize, hpixel⟩ :=
      @fromarray_bands np pil msg hpil h hmono arr "RGBA" (by simp [hn]) hshape hitem
    obtain ⟨rgb, hconvert, hsize', hpixel'⟩ := hpil.convert_alpha image hmode
    refine ⟨rgb, ?_, hsize'.trans hsize, hitem, fun r hr c hc => ?_⟩
    · show (if channels msg.encoding = 3 then _ else _) = _
      rw [if_neg (by omega), if_neg (by omega), himage]
      exact hconvert
    · obtain ⟨bands, hlength, hbands, hrgba⟩ := hpixel r hr c hc
      obtain ⟨red, green, blue, alpha, rfl⟩ := List.length_eq_four.1 (hlength.trans hn)
      exact ⟨red, green, blue, hbands 0 (by omega), hbands 1 (by omega), hbands 2 (by omega),
        hpixel' _ red green blue alpha hrgba⟩

end Thumbnail

/-! ### The detector -/

section Detector

variable {np : Numpy} {msg : SensorImage}

/-- What the detector is given of the message. -/
def SensorImage.rawImage (msg : SensorImage) : RawImage :=
  ⟨msg.width, msg.height, msg.encoding, msg.data, msg.frameId.getD ""⟩

private theorem toRawImage_message (imaging : Imaging) (msg : SensorImage) :
    toRawImage imaging msg.message = .ok msg.rawImage := rfl

/-- A grey image and the array it is made of have every channel where the layout of the message has it. -/
structure ReadsGray (msg : SensorImage) (arr : np.U8) (gray : np.F32) : Prop where
  shape : np.shapeF32 gray = [msg.height, msg.width]
  item : ReadsChannels np msg arr id
  mean : ∀ r < msg.height, ∀ c < msg.width, ∃ bytes : List UInt8, bytes.length = min 3 (channels msg.encoding) ∧
    (∀ k < min 3 (channels msg.encoding), msg.channel r c k = bytes[k]?) ∧
      np.itemF32 gray [r, c] = some (np.float32 (byteMean bytes))

private theorem mem_colorEncodings_iff {encoding : String} (h : encoding ∈ supportedEncodings) :
    encoding ∈ ["rgb8", "bgr8", "rgba8", "bgra8"] ↔ encoding ≠ "mono8" := by
  rcases encoding_cases h with rfl | rfl | rfl | rfl | rfl
  all_goals decide

private theorem grayscaleChannels_eq (h : msg.encoding ∈ supportedEncodings) : grayscaleChannels np msg.rawImage = (do
    let buffer ← np.frombuffer msg.data
    np.reshape (np.head buffer msg.shape.prod) msg.shape) := by
  unfold grayscaleChannels SensorImage.rawImage SensorImage.shape
  rcases encoding_cases h with h | h | h | h | h
  all_goals simp [h, channels, mul_assoc]

/-- The detector takes the rows one after the other, whatever `step` is. -/
private theorem grayscaleChannels_item (hnp : np.Documented) (h : msg.WellFormed) :
    ∃ arr, grayscaleChannels np msg.rawImage = .ok arr ∧ np.shape arr = msg.shape ∧
      ∀ r < msg.height, ∀ c < msg.width, ∀ k < channels msg.encoding, np.item arr (msg.index r c k) =
        msg.data[r * (msg.width * channels msg.encoding) + c * channels msg.encoding + k]? := by
  obtain ⟨buffer, arr, hbuffer, harr, hshape, hitem⟩ := reshape_head_data hnp h.data_ne_nil h.shape_prod_le
  refine ⟨arr, ?_, hshape, fun r hr c hc k hk => ?_⟩
  · rw [grayscaleChannels_eq h.encoding, hbuffer]
    exact harr
  · rw [hitem _ (SensorImage.inRange_index hr hc hk), SensorImage.position_index hk]

/-- The mean over the first three channels, or the only channel. -/
private theorem grayscaleArray_mean (hnp : np.Documented) (h : msg.encoding ∈ supportedEncodings) {arr : np.U8}
    (harr : grayscaleChannels np msg.rawImage = .ok arr) (hshape : np.shape arr = msg.shape) :
    ∃ gray, grayscaleArray np msg.rawImage = .ok gray ∧ np.shapeF32 gray = [msg.height, msg.width] ∧
      ∀ r < msg.height, ∀ c < msg.width, ∀ bytes : List UInt8, bytes.length = min 3 (channels msg.encoding) →
        (∀ k < min 3 (channels msg.encoding), np.item arr (msg.index r c k) = bytes[k]?) →
          np.itemF32 gray [r, c] = some (np.float32 (byteMean bytes)) := by
  have hrun : grayscaleArray np msg.rawImage = if msg.encoding ≠ "mono8" then (do
      let arr ← np.headChannels arr 3
      np.meanChannels (np.astypeFloat32 arr)) else .ok (np.astypeFloat32 arr) := by
    unfold grayscaleArray
    rw [harr]
    simp only [← mem_colorEncodings_iff h]
    rfl
  by_cases hmono : msg.encoding = "mono8"
  · have hn : channels msg.encoding = 1 := channels_mono hmono
    refine ⟨np.astypeFloat32 arr, by simp [hrun, hmono], ?_, fun r _ c _ bytes hlength hbytes => ?_⟩
    · rw [hnp.shape_astypeFloat32, hshape]
      simp [SensorImage.shape, hmono]
    · obtain ⟨b, rfl⟩ := List.length_eq_one_iff.1 (hlength.trans (by omega))
      have hread : np.item arr [r, c] = some b := by
        simpa [SensorImage.index, hmono] using hbytes 0 (by omega)
      have hmean : byteMean [b] = b.toNat := by simp [byteMean]
      have hsmall : b.toNat ≤ 2 ^ 24 := (Nat.le_of_lt b.toNat_lt).trans (by decide)
      rw [hnp.item_astypeFloat32, hread, hmean, hnp.float32_nat _ hsmall]
      rfl
  · have hn : min 3 (channels msg.encoding) = 3 := by
      rcases channels_color hmono with h' | h' <;> omega
    have hcolor : np.shape arr = [msg.height, msg.width, channels msg.encoding] := by
      simpa [SensorImage.shape, hmono] using hshape
    obtain ⟨colors, hcolors, hcolorShape, hcolorItem⟩ := hnp.headChannels arr _ _ _ 3 hcolor
    rw [hn] at hcolorShape hcolorItem ⊢
    obtain ⟨gray, hgray, hgrayShape, hgrayItem⟩ :=
      hnp.meanChannels colors _ _ 3 hcolorShape (by decide) (by decide)
    refine ⟨gray, ?_, hgrayShape, fun r hr c hc bytes hlength hbytes => ?_⟩
    · rw [hrun, if_pos hmono, hcolors]
      exact hgray
    · refine hgrayItem r hr c hc bytes hlength fun k hk => ?_
      have hread := hbytes k hk
      simp only [SensorImage.index, hmono, if_false] at hread
      exact (hcolorItem r hr c hc k hk).trans hread

end Detector

/-! ### The two together -/

section Decoded

private theorem byteMean_perm {bytes bytes' : List UInt8}
    (h : bytes.Perm bytes') : byteMean bytes = byteMean bytes' := by
  unfold byteMean
  rw [(h.map _).sum_eq, h.length_eq]

private theorem byteMean_triple (b : UInt8) : byteMean [b, b, b] = byteMean [b] := by
  simp only [byteMean, List.map_cons, List.map_nil, List.sum_cons, List.sum_nil, List.length_cons, List.length_nil]
  push_cast
  ring

variable {np : Numpy} {pil : Pillow np} {strRepr : String → String} {msg : SensorImage}

/-- The detector sees the mean of the bands of the thumbnail: the order of the channels does not matter to it. -/
private theorem samePicture {arr grayArr : np.U8} {image : pil.Image} {gray : np.F32}
    (hread : ReadsThumbnail pil msg arr image)
    (hgray : ReadsGray msg grayArr gray) {r c : ℕ} (hr : r < msg.height) (hc : c < msg.width) :
    ∃ rgb, pil.getpixel image (c, r) = some rgb ∧ np.itemF32 gray [r, c] = some (np.float32 (byteMean rgb)) := by
  obtain ⟨red, green, blue, hred, hgreen, hblue, hpixel⟩ := hread.pixel r hr c hc
  obtain ⟨bytes, hlength, hbytes, hmean⟩ := hgray.mean r hr c hc
  refine ⟨_, hpixel, ?_⟩
  suffices hsame : byteMean bytes = byteMean [red, green, blue] by rw [hmean, hsame]
  by_cases hmono : msg.encoding = "mono8"
  · have hplaces : ∀ k, rgbPlace msg.encoding k = 0 := fun k => by simp [rgbPlace, hmono]
    have hn : channels msg.encoding = 1 := channels_mono hmono
    rw [hplaces] at hred hgreen hblue
    obtain ⟨b, rfl⟩ := List.length_eq_one_iff.1 (hlength.trans (by omega))
    have hb : msg.channel r c 0 = some b := hbytes 0 (by omega)
    obtain rfl : red = b := Option.some.inj (hred.symm.trans hb)
    obtain rfl : green = red := Option.some.inj (hgreen.symm.trans hb)
    obtain rfl : blue = green := Option.some.inj (hblue.symm.trans hb)
    exact (byteMean_triple _).symm
  · have hn : min 3 (channels msg.encoding) = 3 := by
      rcases channels_color hmono with h | h <;> omega
    rw [hn] at hlength hbytes
    obtain ⟨x, y, z, rfl⟩ := List.length_eq_three.1 hlength
    have hx : msg.channel r c 0 = some x := hbytes 0 (by decide)
    have hy : msg.channel r c 1 = some y := hbytes 1 (by decide)
    have hz : msg.channel r c 2 = some z := hbytes 2 (by decide)
    by_cases hbgr : msg.encoding ∈ ["bgr8", "bgra8"]
    · simp only [rgbPlace, hmono, hbgr, if_false] at hred hgreen hblue
      obtain rfl : red = z := Option.some.inj (hred.symm.trans hz)
      obtain rfl : green = y := Option.some.inj (hgreen.symm.trans hy)
      obtain rfl : blue = x := Option.some.inj (hblue.symm.trans hx)
      exact byteMean_perm (List.reverse_perm [red, green, blue])
    · simp only [rgbPlace, hmono, hbgr, if_false, false_and] at hred hgreen hblue
      obtain rfl : red = x := Option.some.inj (hred.symm.trans hx)
      obtain rfl : green = y := Option.some.inj (hgreen.symm.trans hy)
      obtain rfl : blue = z := Option.some.inj (hblue.symm.trans hz)
      rfl

/-- A padded image has more bytes than the array of the thumbnail has items. -/
private theorem rawImageToPil_padded (hnp : np.Documented) (h : msg.WellFormed)
    (hstep : msg.step ≠ msg.width * channels msg.encoding) :
    ∃ message, rawImageToPil np pil strRepr msg = .error ⟨.valueError, message⟩ := by
  have hne : msg.shape.prod ≠ msg.data.length := mt h.shape_prod_eq_iff.1 hstep
  obtain ⟨buffer, message, hbuffer, hraise⟩ := reshape_data_raises hnp h.data_ne_nil hne
  refine ⟨message, ?_⟩
  have harr : rawImageArray np msg = .error ⟨.valueError, message⟩ := by
    rw [rawImageArray_eq h.encoding, hbuffer]
    show (np.reshape buffer msg.shape >>= _) = _
    rw [hraise]
    rfl
  rw [rawImageToPil_eq h.encoding, harr]
  rfl

/-- The thumbnail and the detector decode the message, both read every channel where its layout has it, and both see
the same picture. -/
def DecodedByLayout (pil : Pillow np) (strRepr : String → String) (imaging : Imaging) (msg : SensorImage) : Prop :=
  ∃ arr image raw grayArr gray, rawImageArray np msg = .ok arr ∧ rawImageToPil np pil strRepr msg = .ok image ∧
    toRawImage imaging msg.message = .ok raw ∧ grayscaleChannels np raw = .ok grayArr ∧
      grayscaleArray np raw = .ok gray ∧ ReadsThumbnail pil msg arr image ∧ ReadsGray msg grayArr gray ∧
        ∀ r < msg.height, ∀ c < msg.width, ∃ rgb, pil.getpixel image (c, r) = some rgb ∧
          np.itemF32 gray [r, c] = some (np.float32 (byteMean rgb))

/-- An image is decoded by its layout exactly when its rows are not padded. -/
theorem decodedByLayout_iff (hnp : np.Documented) (hpil : pil.Documented) (imaging : Imaging) (h : msg.WellFormed) :
    DecodedByLayout pil strRepr imaging msg ↔ msg.step = msg.width * channels msg.encoding := by
  constructor
  · rintro ⟨arr, image, raw, grayArr, gray, -, himage, -⟩
    by_contra hstep
    obtain ⟨message, hraise⟩ := @rawImageToPil_padded np pil strRepr msg hnp h hstep
    rw [hraise] at himage
    cases himage
  · intro hstep
    obtain ⟨arr, harr, hshape, hitem⟩ := rawImageArray_packed hnp h hstep
    obtain ⟨image, himage, hread⟩ := rawImageToPil_reads hpil h harr hshape hitem
    obtain ⟨grayArr, hgrayArr, hgrayShape, hgrayItem⟩ := grayscaleChannels_item hnp h
    obtain ⟨gray, hgray, hsize, hmean⟩ := grayscaleArray_mean hnp h.encoding hgrayArr hgrayShape
    have hlayout : ReadsChannels np msg grayArr id := by
      intro r hr c hc k hk
      rw [hgrayItem r hr c hc k hk, ← hstep]
      rfl
    have hreadGray : ReadsGray msg grayArr gray := by
      refine ⟨hsize, hlayout, fun r hr c hc => ?_⟩
      obtain ⟨bytes, hlength, hbytes⟩ :=
        @SensorImage.WellFormed.exists_bytes msg h r c (min 3 (channels msg.encoding)) id hr hc
          fun k hk => hk.trans_le (Nat.min_le_right _ _)
      refine ⟨bytes, hlength, hbytes, hmean r hr c hc bytes hlength fun k hk => ?_⟩
      exact (hlayout r hr c hc k (hk.trans_le (Nat.min_le_right _ _))).trans (hbytes k hk)
    refine ⟨arr, image, msg.rawImage, grayArr, gray, harr, himage, toRawImage_message imaging msg, hgrayArr, hgray, ?_⟩
    exact ⟨hread, hreadGray, fun r hr c hc => samePicture hread hreadGray hr hc⟩

end Decoded

/-- Two rows of two pixels, blue first. -/
def packedImage : SensorImage := ⟨none, 2, 2, "bgr8", 6, [30, 20, 10, 60, 50, 40, 90, 80, 70, 120, 110, 100]⟩

/-- Two rows of three grey pixels, each with a byte of padding. -/
def paddedImage : SensorImage := ⟨none, 2, 3, "mono8", 4, [10, 20, 30, 0, 40, 50, 60, 0]⟩

/-- No compressed images, no thumbnails, and a detector that finds nothing. -/
def rawImaging : Imaging :=
  ⟨fun _ _ => .error ⟨.valueError, ""⟩, fun _ => .error ⟨.valueError, ""⟩, fun _ => .ok []⟩

private theorem packedImage_wellFormed : packedImage.WellFormed := by constructor <;> decide

private theorem paddedImage_wellFormed : paddedImage.WellFormed := by constructor <;> decide

theorem decodedByLayout_packedImage :
    DecodedByLayout arrayPillow (fun s => "'" ++ s ++ "'") rawImaging packedImage :=
  (decodedByLayout_iff arrayNumpy_documented arrayPillow_documented rawImaging packedImage_wellFormed).2 (by decide)

/-- The padded image has a supported encoding, positive sizes and rows that are long enough, and is not decoded by its
layout. -/
theorem not_decodedByLayout_paddedImage : paddedImage.WellFormed ∧
    ¬ DecodedByLayout arrayPillow (fun s => "'" ++ s ++ "'") rawImaging paddedImage := by
  refine ⟨paddedImage_wellFormed, ?_⟩
  rintro ⟨arr, image, raw, grayArr, gray, -, himage, -⟩
  obtain ⟨message, hraise⟩ := @rawImageToPil_padded arrayNumpy arrayPillow (fun s => "'" ++ s ++ "'") paddedImage
    arrayNumpy_documented paddedImage_wellFormed (by decide)
  rw [hraise] at himage
  cases himage

/-- The detector takes a byte of padding for the first pixel of the second row. -/
example : (grayscaleChannels arrayNumpy paddedImage.rawImage).toOption.map (fun arr => arrayNumpy.item arr [1, 0]) =
    some (some 0) ∧ paddedImage.channel 1 0 0 = some 40 := by decide

end RosMcp
