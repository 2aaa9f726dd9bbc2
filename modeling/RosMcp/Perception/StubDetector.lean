import Mathlib.Data.Finset.Max
import Mathlib.Data.Finset.Prod
import RosMcp.Perception.RowPadding

/-!
# The stub detector (`adapters/perception/stub_detector.py`)

`detect` marks the pixels that are darker than the mean by more than the standard deviation, and returns one object with
their bounding box, or none.  Numpy takes the mean and the deviation in `float32`, with sums that depend on the order
in which it adds, so they are parameters (`NumpyReductions`).

The box is tight and lies inside the image, whatever numpy computes, and it contains the darkest pixels
(`detect_spec`).
-/

namespace RosMcp

open Finset

namespace StubDetector

/-- `(x_min, y_min, x_max, y_max)` is the bounding box of the pixels, each of them a row and a column. -/
structure TightBox (pixels : Finset (ℕ × ℕ)) (box : ℤ × ℤ × ℤ × ℤ) : Prop where
  covers : ∀ p ∈ pixels, box.1 ≤ p.2 ∧ (p.2 : ℤ) ≤ box.2.2.1 ∧ box.2.1 ≤ p.1 ∧ (p.1 : ℤ) ≤ box.2.2.2
  left : ∃ p ∈ pixels, (p.2 : ℤ) = box.1
  top : ∃ p ∈ pixels, (p.1 : ℤ) = box.2.1
  right : ∃ p ∈ pixels, (p.2 : ℤ) = box.2.2.1
  bottom : ∃ p ∈ pixels, (p.1 : ℤ) = box.2.2.2

/-! ### The detector -/

/-- What the detector uses of numpy over all pixels: `gray.mean()` and `gray.std()`, which are `float32`. -/
structure NumpyReductions (np : Numpy) where
  mean : np.F32 → ℚ
  std : np.F32 → ℚ

/-- The pixels of an image, by row and column. -/
def pixels (heightPx widthPx : ℕ) : Finset (ℕ × ℕ) := range heightPx ×ˢ range widthPx

/-- A pixel of the grey image. -/
def grayValue (np : Numpy) (gray : np.F32) (p : ℕ × ℕ) : ℚ := (np.itemF32 gray [p.1, p.2]).getD 0

section Source

variable {np : Numpy} (reductions : NumpyReductions np)

/-- `threshold` -/
def threshold (gray : np.F32) : ℚ := np.float32 (reductions.mean gray - reductions.std gray)

/-- `mask` -/
def mask (image : RawImage) (gray : np.F32) : Finset (ℕ × ℕ) :=
  {p ∈ pixels image.heightPx image.widthPx | grayValue np gray p < threshold reductions gray}

/-- `bbox` -/
def bbox (mask : Finset (ℕ × ℕ)) (h : mask.Nonempty) : ℤ × ℤ × ℤ × ℤ :=
  let ys := mask.image Prod.fst
  let xs := mask.image Prod.snd
  (xs.min' (h.image _), ys.min' (h.image _), xs.max' (h.image _), ys.max' (h.image _))

/-- What `detect` returns for a mask. -/
def detected (confidence : PyFloat ℝ) (mask : Finset (ℕ × ℕ)) : List DetectedObject2D :=
  if h : mask.Nonempty then [⟨"object", confidence, bbox mask h⟩] else []

/-- `detect` -/
def detect (confidence : PyFloat ℝ) (image : RawImage) : Except PyException (List DetectedObject2D) :=
  if image.heightPx ≤ 0 ∨ image.widthPx ≤ 0 then .ok []
  else do
    let gray ← grayscaleArray np image
    return detected confidence (mask reductions image gray)

end Source

/-! ### The box -/

private theorem bbox_tight (mask : Finset (ℕ × ℕ)) (h : mask.Nonempty) : TightBox mask (bbox mask h) := by
  have hrow : ∀ y ∈ mask.image Prod.fst, ∃ p ∈ mask, (p.1 : ℤ) = y := by
    intro y hy
    obtain ⟨p, hp, rfl⟩ := mem_image.1 hy
    exact ⟨p, hp, rfl⟩
  have hcolumn : ∀ x ∈ mask.image Prod.snd, ∃ p ∈ mask, (p.2 : ℤ) = x := by
    intro x hx
    obtain ⟨p, hp, rfl⟩ := mem_image.1 hx
    exact ⟨p, hp, rfl⟩
  refine ⟨fun p hp => ?_, hcolumn _ (min'_mem _ _), hrow _ (min'_mem _ _), hcolumn _ (max'_mem _ _),
    hrow _ (max'_mem _ _)⟩
  have hy : p.1 ∈ mask.image Prod.fst := mem_image_of_mem _ hp
  have hx : p.2 ∈ mask.image Prod.snd := mem_image_of_mem _ hp
  exact ⟨Int.ofNat_le.2 (min'_le _ _ hx), Int.ofNat_le.2 (le_max' _ _ hx), Int.ofNat_le.2 (min'_le _ _ hy),
    Int.ofNat_le.2 (le_max' _ _ hy)⟩

/-- There is one bounding box. -/
private theorem TightBox.unique {pixels : Finset (ℕ × ℕ)} {box box' : ℤ × ℤ × ℤ × ℤ} (h : TightBox pixels box)
    (h' : TightBox pixels box') : box = box' := by
  obtain ⟨l, t, r, b⟩ := box
  obtain ⟨l', t', r', b'⟩ := box'
  obtain ⟨hcover, ⟨pl, hpl, hl⟩, ⟨pt, hpt, ht⟩, ⟨pr, hpr, hr⟩, ⟨pb, hpb, hb⟩⟩ := h
  obtain ⟨hcover', ⟨pl', hpl', hl'⟩, ⟨pt', hpt', ht'⟩, ⟨pr', hpr', hr'⟩, ⟨pb', hpb', hb'⟩⟩ := h'
  simp only at hcover hl ht hr hb hcover' hl' ht' hr' hb'
  have hleft : l = l' := by
    have h₁ := (hcover' pl hpl).1
    have h₂ := (hcover pl' hpl').1
    omega
  have htop : t = t' := by
    have h₁ := (hcover' pt hpt).2.2.1
    have h₂ := (hcover pt' hpt').2.2.1
    omega
  have hright : r = r' := by
    have h₁ := (hcover' pr hpr).2.1
    have h₂ := (hcover pr' hpr').2.1
    omega
  have hbottom : b = b' := by
    have h₁ := (hcover' pb hpb).2.2.2
    have h₂ := (hcover pb' hpb').2.2.2
    omega
  rw [hleft, htop, hright, hbottom]

section Detect

variable {np : Numpy} {reductions : NumpyReductions np} {confidence : PyFloat ℝ} {image : RawImage} {gray : np.F32}

private theorem detect_eq (hheight : 0 < image.heightPx) (hwidth : 0 < image.widthPx)
    (hgray : grayscaleArray np image = .ok gray) :
    detect reductions confidence image = .ok (detected confidence (mask reductions image gray)) := by
  unfold detect
  rw [if_neg (by omega), hgray]
  rfl

private theorem mask_subset : mask reductions image gray ⊆ pixels image.heightPx image.widthPx := filter_subset _ _

/-- A pixel that is not lighter than a dark one is dark. -/
private theorem mem_mask_of_le {p q : ℕ × ℕ} (hp : p ∈ mask reductions image gray)
    (hq : q ∈ pixels image.heightPx image.widthPx) (hle : grayValue np gray q ≤ grayValue np gray p) :
    q ∈ mask reductions image gray :=
  mem_filter.2 ⟨hq, hle.trans_lt (mem_filter.1 hp).2⟩

/-- A tight box lies inside the image. -/
private theorem TightBox.inside {dark : Finset (ℕ × ℕ)} {box : ℤ × ℤ × ℤ × ℤ} (h : TightBox dark box)
    {heightPx widthPx : ℕ}
    (hdark : dark ⊆ pixels heightPx widthPx) :
    0 ≤ box.1 ∧ 0 ≤ box.2.1 ∧ box.2.2.1 < widthPx ∧ box.2.2.2 < heightPx := by
  obtain ⟨pl, -, hleft⟩ := h.left
  obtain ⟨pt, -, htop⟩ := h.top
  obtain ⟨pr, hpr, hright⟩ := h.right
  obtain ⟨pb, hpb, hbottom⟩ := h.bottom
  have hcolumn := mem_range.1 (mem_product.1 (hdark hpr)).2
  have hrow := mem_range.1 (mem_product.1 (hdark hpb)).1
  omega

/-- An image with pixels gives no object when no pixel is dark, and else one with their bounding box, which lies inside
the image and has the darkest pixels of the image in it. -/
theorem detect_spec (hheight : 0 < image.heightPx) (hwidth : 0 < image.widthPx)
    (hgray : grayscaleArray np image = .ok gray) :
    ∃ objects, detect reductions confidence image = .ok objects ∧
      (objects = [] ↔ ∀ p ∈ pixels image.heightPx image.widthPx, ¬ grayValue np gray p < threshold reductions gray) ∧
      ∀ o ∈ objects, objects = [o] ∧ o.label = "object" ∧ o.confidence = confidence ∧
        TightBox (mask reductions image gray) o.bboxPx ∧
        (0 ≤ o.bboxPx.1 ∧ 0 ≤ o.bboxPx.2.1 ∧ o.bboxPx.2.2.1 < image.widthPx ∧ o.bboxPx.2.2.2 < image.heightPx) ∧
        ∀ q ∈ pixels image.heightPx image.widthPx,
          (∀ p ∈ pixels image.heightPx image.widthPx, grayValue np gray q ≤ grayValue np gray p) →
            o.bboxPx.1 ≤ q.2 ∧ (q.2 : ℤ) ≤ o.bboxPx.2.2.1 ∧ o.bboxPx.2.1 ≤ q.1 ∧ (q.1 : ℤ) ≤ o.bboxPx.2.2.2 := by
  have hempty : mask reductions image gray = ∅ ↔
      ∀ p ∈ pixels image.heightPx image.widthPx, ¬ grayValue np gray p < threshold reductions gray :=
    filter_eq_empty_iff
  refine ⟨_, detect_eq hheight hwidth hgray, ?_, ?_⟩
  · rw [← hempty]
    unfold detected
    by_cases h : (mask reductions image gray).Nonempty
    · rw [dif_pos h]
      simpa using h.ne_empty
    · rw [dif_neg h]
      simpa using h
  · intro o ho
    unfold detected at ho ⊢
    by_cases h : (mask reductions image gray).Nonempty
    · rw [dif_pos h] at ho ⊢
      obtain rfl := List.mem_singleton.1 ho
      have hbox := bbox_tight (mask reductions image gray) h
      refine ⟨rfl, rfl, rfl, hbox, hbox.inside mask_subset, fun q hq hdarkest => ?_⟩
      obtain ⟨p, hp⟩ := h
      exact hbox.covers q (mem_mask_of_le hp hq (hdarkest p (mask_subset hp)))
    · rw [dif_neg h] at ho
      cases ho

/-- A dark pixel among five. -/
def stripImage : SensorImage := ⟨none, 1, 5, "mono8", 5, [200, 100, 200, 200, 200]⟩

/-- The pixels of a grey image in their order. -/
def grayValues (gray : arrayNumpy.F32) : List ℚ :=
  (List.range (gray.shape.getD 0 0)).flatMap fun r =>
    (List.range (gray.shape.getD 1 0)).map fun c => grayValue arrayNumpy gray (r, c)

/-- The exact mean, and the exact deviation where the variance is a square; `float32` has both for the strip. -/
def exactReductions : NumpyReductions arrayNumpy where
  mean gray := (grayValues gray).sum / (grayValues gray).length
  std gray :=
    let mean := (grayValues gray).sum / (grayValues gray).length
    let variance := ((grayValues gray).map fun v => (v - mean) * (v - mean)).sum / (grayValues gray).length
    variance.num.natAbs.sqrt / variance.den.sqrt

theorem detect_stripImage :
    detect exactReductions (.fin 3) stripImage.rawImage = .ok [⟨"object", .fin 3, (1, 0, 1, 0)⟩] := by
  obtain ⟨gray, hgray⟩ : ∃ gray, grayscaleArray arrayNumpy stripImage.rawImage = .ok gray := ⟨_, rfl⟩
  have hmask : mask exactReductions stripImage.rawImage gray = {(0, 1)} := by
    obtain rfl := Except.ok.inj hgray
    decide +kernel
  obtain ⟨objects, hobjects, hnone, hspec⟩ :
      ∃ objects, detect exactReductions (.fin 3) stripImage.rawImage = .ok objects ∧ _ :=
    detect_spec (by decide) (by decide) hgray
  have hdark : ((0, 1) : ℕ × ℕ) ∈ mask exactReductions stripImage.rawImage gray := by
    rw [hmask]
    exact mem_singleton_self _
  obtain ⟨o, ho⟩ : ∃ o, o ∈ objects := by
    refine List.exists_mem_of_ne_nil _ fun hnil => ?_
    exact hnone.1 hnil _ (mask_subset hdark) (mem_filter.1 hdark).2
  obtain ⟨hone, hlabel, hconfidence, hbox, -⟩ := hspec o ho
  have htight : TightBox {(0, 1)} (1, 0, 1, 0) := by constructor <;> simp
  rw [hmask] at hbox
  rw [hobjects, hone]
  obtain ⟨label, confidence, box⟩ := o
  obtain rfl : label = "object" := hlabel
  obtain rfl : confidence = .fin 3 := hconfidence
  obtain rfl : box = (1, 0, 1, 0) := hbox.unique htight
  rfl

end Detect

end StubDetector

end RosMcp
