import RosMcp.Perception.Placement

/-!
# The sides of camera bearings

`estimate_bearing_rad` gives objects on the left of the image negative bearings, while the laser analysis and the
placement of objects count angles to the left as positive.  So an object beside the middle of the image is placed on the
other side of the robot (`PlacedAt.mirrored`), and the conventions agree on an object exactly when it is in the middle
(`sides_agree_iff`).
-/

namespace RosMcp

open PyFloat Real

/-- The centre of the box, in pixels. -/
noncomputable def DetectedObject2D.centerX (det : DetectedObject2D) : ℝ :=
  (det.bboxPx.1 + det.bboxPx.2.2.1) / ((2.0 : ℚ) : ℝ)

/-- The lateral coordinate of a position in the frame of the robot, positive to the left. -/
def LocalY (localized : Bool) (lookup : Except PyException (TransformResult (PyFloat ℝ)))
    (p : ObjectPosition (PyFloat ℝ)) (y : ℝ) : Prop :=
  if localized then
    ∃ tf, lookup = .ok tf ∧ ∃ x₀ y₀ yaw px py : ℝ, tf.x = some (.fin x₀) ∧ tf.y = some (.fin y₀) ∧
      tf.yaw = some (.fin yaw) ∧ p.x = .fin px ∧ p.y = .fin py ∧ y = (py - y₀) * cos yaw - (px - x₀) * sin yaw
  else p.y = .fin y

/-- `detect_objects` can place the detection at the lateral coordinate `y`, with some scan and some transform. -/
def PlacedAt (horizontalFovRad : ℝ) (widthPx : ℤ) (det : DetectedObject2D) (y : ℝ) : Prop :=
  ∃ (adapter : PerceptionAdapter) (analysis : Option LaserScanAnalysis) (localized : Bool)
    (lookup : Except PyException (TransformResult (PyFloat ℝ))) (object : DetectedObject (PyFloat ℝ))
    (p : ObjectPosition (PyFloat ℝ)),
    adapter.cameraHorizontalFovRad = horizontalFovRad ∧ FromScan analysis ∧
      describeDetection adapter analysis localized widthPx lookup det = .ok object ∧ object.position = some p ∧
        LocalY localized lookup p y

/-- The bearing and the placement of a detection are on the side of the image on which it is. -/
structure SidesAgree (horizontalFovRad : ℝ) (widthPx : ℤ) (det : DetectedObject2D) : Prop where
  leftSector : det.centerX < widthPx / 2 →
    sectorForAngle (.fin (estimateBearingRad det.centerX widthPx horizontalFovRad)) ≠ .ok .right
  leftPlaced : det.centerX < widthPx / 2 → ∀ y, PlacedAt horizontalFovRad widthPx det y → 0 < y
  rightSector : widthPx / 2 < det.centerX →
    sectorForAngle (.fin (estimateBearingRad det.centerX widthPx horizontalFovRad)) ≠ .ok .left
  rightPlaced : widthPx / 2 < det.centerX → ∀ y, PlacedAt horizontalFovRad widthPx det y → y < 0

section Bearing

variable {horizontalFovRad : ℝ} {widthPx : ℤ} {det : DetectedObject2D}

/-- The bearing as a share of the field of view. -/
theorem estimateBearingRad_eq (hw : 0 < widthPx) (c f : ℝ) :
    estimateBearingRad c widthPx f = (c - widthPx / 2) * (f / widthPx) := by
  have hne : (widthPx : ℝ) ≠ 0 := by exact_mod_cast hw.ne'
  unfold estimateBearingRad
  rw [if_neg (not_le.2 hw)]
  have hhalf : ((0.5 : ℚ) : ℝ) = 1 / 2 := by norm_num
  rw [hhalf]
  field_simp

/-- A bearing inside the image has the sign of the offset from the middle, and is less than a quarter turn. -/
private theorem estimateBearingRad_lt (hw : 0 < widthPx) (hfov : horizontalFovRad ∈ Set.Ioo 0 π)
    (hin : det.centerX ∈ Set.Icc 0 (widthPx : ℝ)) :
    |estimateBearingRad det.centerX widthPx horizontalFovRad| < π / 2 := by
  have hw' : (0 : ℝ) < widthPx := by exact_mod_cast hw
  have hoffset : |det.centerX - widthPx / 2| ≤ widthPx / 2 := by
    rw [abs_le]
    constructor <;> linarith [hin.1, hin.2]
  have hscale : 0 < horizontalFovRad / widthPx := div_pos hfov.1 hw'
  rw [estimateBearingRad_eq hw, abs_mul, abs_of_pos hscale]
  calc |det.centerX - widthPx / 2| * (horizontalFovRad / widthPx)
      ≤ widthPx / 2 * (horizontalFovRad / widthPx) := mul_le_mul_of_nonneg_right hoffset hscale.le
    _ = horizontalFovRad / 2 := by field_simp
    _ < π / 2 := by linarith [hfov.2]

private theorem sin_estimateBearingRad_neg (hw : 0 < widthPx) (hfov : horizontalFovRad ∈ Set.Ioo 0 π)
    (hin : det.centerX ∈ Set.Icc 0 (widthPx : ℝ)) (hleft : det.centerX < widthPx / 2) :
    sin (estimateBearingRad det.centerX widthPx horizontalFovRad) < 0 := by
  have hw' : (0 : ℝ) < widthPx := by exact_mod_cast hw
  have hneg : estimateBearingRad det.centerX widthPx horizontalFovRad < 0 := by
    rw [estimateBearingRad_eq hw]
    exact mul_neg_of_neg_of_pos (sub_neg.2 hleft) (div_pos hfov.1 hw')
  have hbound := (abs_lt.1 (estimateBearingRad_lt hw hfov hin)).1
  exact sin_neg_of_neg_of_neg_pi_lt hneg (by linarith [pi_pos])

private theorem sin_estimateBearingRad_pos (hw : 0 < widthPx) (hfov : horizontalFovRad ∈ Set.Ioo 0 π)
    (hin : det.centerX ∈ Set.Icc 0 (widthPx : ℝ)) (hright : widthPx / 2 < det.centerX) :
    0 < sin (estimateBearingRad det.centerX widthPx horizontalFovRad) := by
  have hw' : (0 : ℝ) < widthPx := by exact_mod_cast hw
  have hpos : 0 < estimateBearingRad det.centerX widthPx horizontalFovRad := by
    rw [estimateBearingRad_eq hw]
    exact mul_pos (sub_pos.2 hright) (div_pos hfov.1 hw')
  have hbound := (abs_lt.1 (estimateBearingRad_lt hw hfov hin)).2
  exact sin_pos_of_pos_of_lt_pi hpos (by linarith [pi_pos])

/-- An object is placed at its distance along its bearing. -/
private theorem PlacedAt.eq {y : ℝ} (h : PlacedAt horizontalFovRad widthPx det y) :
    ∃ d : ℝ, 0 ≤ d ∧ y = d * sin (estimateBearingRad det.centerX widthPx horizontalFovRad) := by
  obtain ⟨adapter, analysis, localized, lookup, object, p, rfl, hanalysis, hobject, hp, hy⟩ := h
  obtain ⟨position, positionError, rfl, hposition⟩ := describeDetection_cases hobject
  change position = some p at hp
  rcases measure_cases hanalysis (bearingOf adapter widthPx det) adapter.bearingToleranceRad with hm | ⟨d, hd, hm⟩
  · rw [hm] at hposition
    rw [hposition.1] at hp
    cases hp
  · rw [hm] at hposition
    have hlocate : locate adapter localized lookup (.fin (bearingOf adapter widthPx det)) (.fin d) =
      .ok (position, positionError) := hposition
    refine ⟨d, hd, ?_⟩
    change y = d * sin (bearingOf adapter widthPx det)
    rcases locate_cases hlocate with ⟨rfl, -, hpos⟩ | ⟨-, -, -, hpos⟩ | ⟨rfl, -, tf, x', y', yaw, c, s, hlookup, -, hx,
      hy', hyaw, hc, hs, hpos⟩
    · obtain rfl := Option.some.inj (hp.symm.trans hpos)
      exact (PyFloat.fin.inj hy).symm
    · rw [hp] at hpos
      cases hpos
    · obtain rfl := Option.some.inj (hp.symm.trans hpos)
      obtain ⟨tf', hlookup', x₀, y₀, θ, px, py, hx₀, hy₀, hθ, hpx, hpy, rfl⟩ := hy
      obtain rfl := Except.ok.inj (hlookup'.symm.trans hlookup)
      obtain rfl := Option.some.inj (hx.symm.trans hx₀)
      obtain rfl := Option.some.inj (hy'.symm.trans hy₀)
      obtain rfl := Option.some.inj (hyaw.symm.trans hθ)
      obtain rfl := Except.ok.inj hc
      obtain rfl := Except.ok.inj hs
      simp only [fin_mul_fin, fin_add_fin, fin_sub_fin, PyFloat.fin.injEq] at hpx hpy
      subst hpx hpy
      -- the rotation into the map is undone
      linear_combination (d * sin (bearingOf adapter widthPx det)) * sin_sq_add_cos_sq θ

/-- An object beside the middle of the image is not placed on its own side. -/
private theorem PlacedAt.mirrored (hw : 0 < widthPx) (hfov : horizontalFovRad ∈ Set.Ioo 0 π)
    (hin : det.centerX ∈ Set.Icc 0 (widthPx : ℝ)) {y : ℝ} (h : PlacedAt horizontalFovRad widthPx det y) :
    (det.centerX < widthPx / 2 → y ≤ 0) ∧ (widthPx / 2 < det.centerX → 0 ≤ y) := by
  obtain ⟨d, hd, rfl⟩ := h.eq
  constructor
  · intro hleft
    exact mul_nonpos_of_nonneg_of_nonpos hd (sin_estimateBearingRad_neg hw hfov hin hleft).le
  · intro hright
    exact mul_nonneg hd (sin_estimateBearingRad_pos hw hfov hin hright).le

end Bearing

/-! ### A beam at the bearing -/

/-- A scan of one beam, at the given angle. -/
noncomputable def beamScan (angle : ℝ) : LaserScan where
  header := none
  ranges := [.fin 1]
  angleMin := .fin angle
  angleIncrement := .fin 0
  rangeMin := .fin 0
  rangeMax := .fin 1

private theorem beamScan_beamAngle (angle : ℝ) : (beamScan angle).beamAngle 0 = .fin angle := by
  simp [LaserScan.beamAngle, beamScan]

private theorem beamScan_counts_iff {angle : ℝ} {i : ℕ} {x : ℝ} : (beamScan angle).Counts i x ↔ i = 0 ∧ x = 1 := by
  constructor
  · intro h
    have hrange := h.range
    cases i with
    | zero => exact ⟨rfl, (PyFloat.fin.inj (Option.some.inj hrange)).symm⟩
    | succ i => simp [beamScan] at hrange
  · rintro ⟨rfl, rfl⟩
    exact ⟨rfl, by simp [beamScan], by simp [beamScan]⟩

private theorem beamScan_summary (angle : ℝ) : (beamScan angle).Summary 0 1 := by
  refine Or.inl ⟨beamScan_counts_iff.2 ⟨rfl, rfl⟩, trivial, ?_, ?_⟩
  · intro j y hcounts _
    rw [(beamScan_counts_iff.1 hcounts).2]
  · intro j y _ _ _
    exact Nat.zero_le j

/-- The only beam is found at its own angle. -/
private theorem correlateDistance_beam {angle : ℝ} {analysis : LaserScanAnalysis}
    (h : analyzeLaserScan (beamScan angle) = .ok analysis) :
    correlateDistance analysis (.fin angle) (.fin 0) = (some (.fin 1), .laserScanCorrelation) := by
  have hbearing := (correlateDistance_summary h angle (.fin 0)).1
  have hoffset : (beamScan angle).Offset angle 0 0 := by
    refine ⟨angle, beamScan_beamAngle angle, ?_⟩
    rw [angularDistance, sub_self, representative_of_mem (by linarith [pi_pos]) pi_pos.le, abs_zero]
  have hfound : correlateDistance analysis (.fin angle) (.fin 0) ≠ (none, .unavailable) := fun hmissed =>
    hbearing.unavailable.1 hmissed 0 1 0 (beamScan_summary angle) hoffset (fin_le_fin.2 (le_refl 0))
  obtain ⟨i, x, δ, hsummary, -, -, hresult, -⟩ := hbearing.closest hfound
  rwa [(beamScan_counts_iff.1 hsummary.counts).2] at hresult

/-- Every detection is placed along its bearing by some scan. -/
private theorem placedAt_sin (horizontalFovRad : ℝ) (widthPx : ℤ) (det : DetectedObject2D) :
    PlacedAt horizontalFovRad widthPx det (sin (estimateBearingRad det.centerX widthPx horizontalFovRad)) := by
  generalize hb : estimateBearingRad det.centerX widthPx horizontalFovRad = b
  obtain ⟨analysis, hanalysis⟩ := @analyzeLaserScan_ok (beamScan b) b 0 rfl rfl
  have hfrom : FromScan (some analysis) := by
    rintro a ⟨⟩
    exact ⟨beamScan b, hanalysis, fin_le_fin.2 (le_refl 0)⟩
  let adapter : PerceptionAdapter := ⟨"", horizontalFovRad, .fin 0, "base_link", ""⟩
  have hbearing : bearingOf adapter widthPx det = b := hb
  obtain ⟨object, hobject⟩ := @describeDetection_returns false adapter (some analysis) hfrom widthPx
    (.error ⟨.runtimeError, ""⟩) (.inl rfl) det
  obtain ⟨position, positionError, rfl, hposition⟩ := describeDetection_cases hobject
  have hmeasure : measure (some analysis) (.fin (bearingOf adapter widthPx det)) adapter.bearingToleranceRad =
      (some (.fin 1), .laserScanCorrelation) := by
    rw [hbearing]
    exact correlateDistance_beam hanalysis
  rw [hmeasure] at hposition
  have hlocate : locate adapter false (.error ⟨.runtimeError, ""⟩) (.fin (bearingOf adapter widthPx det)) (.fin 1) =
    .ok (position, positionError) := hposition
  rcases locate_cases hlocate with ⟨-, -, hpos⟩ | ⟨h, -⟩ | ⟨h, -⟩
  · refine ⟨adapter, some analysis, false, _, _, _, rfl, hfrom, hobject, hpos, ?_⟩
    change PyFloat.fin (1 * sin (bearingOf adapter widthPx det)) = .fin (sin b)
    rw [hbearing, one_mul]
  · cases h
  · cases h

/-! ### When the conventions agree -/

/-- The conventions agree on a detection exactly when it is in the middle of the image; beside it, the object is placed
on the other side wherever it is placed. -/
theorem sides_agree_iff {horizontalFovRad : ℝ} {widthPx : ℤ} {det : DetectedObject2D} (hw : 0 < widthPx)
    (hfov : horizontalFovRad ∈ Set.Ioo 0 π) (hin : det.centerX ∈ Set.Icc 0 (widthPx : ℝ)) :
    (SidesAgree horizontalFovRad widthPx det ↔ det.centerX = widthPx / 2) ∧
      ∀ y, PlacedAt horizontalFovRad widthPx det y →
        (det.centerX < widthPx / 2 → y ≤ 0) ∧ (widthPx / 2 < det.centerX → 0 ≤ y) := by
  refine ⟨?_, fun y hy => hy.mirrored hw hfov hin⟩
  constructor
  · intro h
    rcases lt_trichotomy det.centerX (widthPx / 2) with hleft | hmiddle | hright
    · have hneg := sin_estimateBearingRad_neg hw hfov hin hleft
      have hpos := h.leftPlaced hleft _ (placedAt_sin horizontalFovRad widthPx det)
      exact absurd hpos hneg.not_gt
    · exact hmiddle
    · have hpos := sin_estimateBearingRad_pos hw hfov hin hright
      have hneg := h.rightPlaced hright _ (placedAt_sin horizontalFovRad widthPx det)
      exact absurd hneg hpos.not_gt
  · intro hmiddle
    have hnotLeft : ¬ det.centerX < widthPx / 2 := hmiddle.not_lt
    have hnotRight : ¬ widthPx / 2 < det.centerX := hmiddle.not_gt
    exact ⟨fun h => absurd h hnotLeft, fun h => absurd h hnotLeft, fun h => absurd h hnotRight,
      fun h => absurd h hnotRight⟩

theorem sides_agree_middle : SidesAgree 1 640 ⟨"chair", .fin 1, (288, 0, 352, 64)⟩ := by
  have hcenter : (⟨"chair", .fin 1, (288, 0, 352, 64)⟩ : DetectedObject2D).centerX = 320 := by
    norm_num [DetectedObject2D.centerX]
  refine (sides_agree_iff (by decide) ⟨one_pos, by linarith [two_le_pi]⟩ ?_).1.2 ?_
  · rw [hcenter]
    norm_num
  · rw [hcenter]
    norm_num

/-- An object at the left edge of the image, with a field of view of two radians: its bearing is in the right sector. -/
theorem sides_disagree_left : ¬ SidesAgree 2 640 ⟨"chair", .fin 1, (0, 0, 64, 64)⟩ := by
  have hcenter : (⟨"chair", .fin 1, (0, 0, 64, 64)⟩ : DetectedObject2D).centerX = 32 := by
    norm_num [DetectedObject2D.centerX]
  intro h
  have hleft := h.leftSector
  rw [hcenter] at hleft
  have hbearing : estimateBearingRad 32 640 2 = -(9 / 10) := by norm_num [estimateBearingRad]
  apply hleft
  · norm_num
  · rw [hbearing, sectorForAngle_iff]
    change representative (-(9 / 10)) ∈ Sector.right.wedge
    rw [representative_of_mem (by linarith [two_le_pi]) (by linarith [two_le_pi])]
    constructor
    · norm_num [sixths]
      linarith [two_le_pi]
    · norm_num [sixths]
      linarith [pi_le_four]

end RosMcp
