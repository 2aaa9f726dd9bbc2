import RosMcp.Perception.LaserScan

/-!
# Sectors and the nearest beam

A beam falls in the sector whose wedge contains the representative of its angle in `(-π, π]` (`sectorForAngle_iff`); an
angle that is not a number counts as `rear`, the fallback of the loop over the bounds.  The analysis counts a beam when
its range is finite and neither limit of the scan speaks against it, and the nearest reading of a sector is nearer than
a distance exactly when some counted beam of the sector is (`analyzeLaserScan_within`).
-/

namespace RosMcp

open Real

/-! ### The sector of an angle -/

/-- The representative of an angle in `(-π, π]`. -/
noncomputable def representative (a : ℝ) : ℝ := (a : Angle).toReal

/-- `n * pi / 6` -/
noncomputable def sixths (n : ℤ) : ℝ := n * (π / (6 : ℤ))

def Sector.wedge : Sector → Set ℝ
  | .front => Set.Ico (sixths (-1)) (sixths 1)
  | .left => Set.Ico (sixths 1) (sixths 5)
  | .right => Set.Ico (sixths (-5)) (sixths (-1))
  | .rear => {w | w < sixths (-5) ∨ sixths 5 ≤ w}

/-- The angle falls in the sector; an angle that is not a number is no angle of a wedge and counts as `rear`. -/
def FallsIn (sector : Sector) : PyFloat ℝ → Prop
  | .fin a => representative a ∈ sector.wedge
  | .nan => sector = .rear
  | .posInf | .negInf => False

/-- `math.atan2(math.sin(a), math.cos(a))` is the representative of `a`. -/
private theorem realAtan2_sin_cos (a : ℝ) : realAtan2 (sin a) (cos a) = representative a := by
  have hpoint : (⟨cos a, sin a⟩ : ℂ) = Complex.cos a + Complex.sin a * Complex.I := by
    apply Complex.ext <;> simp [← Complex.ofReal_cos, ← Complex.ofReal_sin]
  rw [realAtan2, hpoint, Complex.arg_cos_add_sin_mul_I_eq_toIocMod]
  rfl

/-- The bounds of the table, as sixths of `π`. -/
theorem sectorBoundsRad_eq : sectorBoundsRad =
    [(.front, sixths (-1), sixths 1), (.left, sixths 1, sixths 5), (.right, sixths (-5), sixths (-1))] := by
  have hone : sixths 1 = π / 6 := by norm_num [sixths]
  have hneg : sixths (-1) = -π / 6 := by norm_num [sixths, neg_div]
  have hfive : sixths 5 = 5 * π / 6 := by norm_num [sixths, mul_div_assoc]
  have hnegFive : sixths (-5) = -5 * π / 6 := by norm_num [sixths, mul_div_assoc, neg_div]
  rw [hone, hneg, hfive, hnegFive, sectorBoundsRad]

theorem sixths_strictMono : StrictMono sixths := by
  intro m n h
  have hsixth : 0 < π / (6 : ℤ) := div_pos pi_pos (by norm_num)
  exact mul_lt_mul_of_pos_right (Int.cast_lt.2 h) hsixth

/-- The wedges do not overlap. -/
theorem Sector.wedge_unique {s s' : Sector} {w : ℝ} (h : w ∈ s.wedge) (h' : w ∈ s'.wedge) : s = s' := by
  have hright : sixths (-5) < sixths (-1) := sixths_strictMono (by decide)
  have hfront : sixths (-1) < sixths 1 := sixths_strictMono (by decide)
  have hleft : sixths 1 < sixths 5 := sixths_strictMono (by decide)
  cases s <;> cases s' <;> first | rfl | (simp only [wedge, Set.mem_Ico, Set.mem_ofPred_eq] at h h'; grind)

/-- The bounds of the table are those of the wedges. -/
private theorem wedge_of_mem {b : Sector × ℝ × ℝ} (hb : b ∈ sectorBoundsRad) : b.1.wedge = Set.Ico b.2.1 b.2.2 := by
  simp only [sectorBoundsRad_eq, List.mem_cons, List.not_mem_nil, or_false] at hb
  rcases hb with rfl | rfl | rfl <;> rfl

/-- The sector of an angle whose sine and cosine are known. -/
theorem sectorForAngle_eq {a s c : PyFloat ℝ} (hs : PyMath.sin a = .ok s) (hc : PyMath.cos a = .ok c) :
    sectorForAngle a = .ok (((sectorBoundsRad.find? fun b =>
      decide (PyFloat.fin b.2.1 ≤ PyMath.atan2 s c ∧ PyMath.atan2 s c < .fin b.2.2)).map Prod.fst).getD .rear) := by
  unfold sectorForAngle
  rw [hs, hc]
  simp only [bind, Except.bind, pure, Except.pure]
  cases sectorBoundsRad.find? _ with
  | none => rfl
  | some b => rfl

/-- The loop over the bounds finds the wedge of the representative. -/
theorem sectorForAngle_fin (a : ℝ) : ∃ s, sectorForAngle (.fin a) = .ok s ∧ representative a ∈ s.wedge := by
  have hwrapped : PyMath.atan2 (PyFloat.fin (sin a)) (PyFloat.fin (cos a)) = .fin (representative a) := by
    rw [← realAtan2_sin_cos]
    rfl
  have hsector := @sectorForAngle_eq (.fin a) _ _ rfl rfl
  rw [hwrapped] at hsector
  refine ⟨_, hsector, ?_⟩
  generalize representative a = w
  cases hfind : sectorBoundsRad.find? fun b => decide (PyFloat.fin b.2.1 ≤ .fin w ∧ .fin w < PyFloat.fin b.2.2) with
  | some b =>
    have hin := List.find?_some hfind
    simp only [Option.map_some, Option.getD_some]
    rw [wedge_of_mem (List.mem_of_find?_eq_some hfind)]
    simpa using hin
  | none =>
    have hout : ∀ b ∈ sectorBoundsRad, ¬ (b.2.1 ≤ w ∧ w < b.2.2) := by
      intro b hb
      have := List.find?_eq_none.1 hfind b hb
      simpa using this
    have hfront := hout (.front, sixths (-1), sixths 1) (by simp [sectorBoundsRad_eq])
    have hleft := hout (.left, sixths 1, sixths 5) (by simp [sectorBoundsRad_eq])
    have hright := hout (.right, sixths (-5), sixths (-1)) (by simp [sectorBoundsRad_eq])
    change w < sixths (-5) ∨ sixths 5 ≤ w
    grind

private theorem sectorForAngle_nan : sectorForAngle .nan = .ok .rear := by
  have hnone : (sectorBoundsRad.find? fun b =>
      decide (PyFloat.fin b.2.1 ≤ PyFloat.nan ∧ PyFloat.nan < PyFloat.fin b.2.2)) = none := by
    simp
  rw [@sectorForAngle_eq .nan .nan .nan rfl rfl]
  exact congrArg (fun o => Except.ok ((o.map Prod.fst).getD Sector.rear)) hnone

/-- `_sector_for_angle` gives the sector in which the angle falls. -/
theorem sectorForAngle_iff {a : PyFloat ℝ} {s : Sector} : sectorForAngle a = .ok s ↔ FallsIn s a := by
  cases a with
  | fin a =>
    obtain ⟨s₀, hs₀, hmem⟩ := sectorForAngle_fin a
    rw [hs₀, Except.ok.injEq]
    constructor
    · rintro rfl
      exact hmem
    · intro h
      exact Sector.wedge_unique hmem h
  | nan =>
    rw [sectorForAngle_nan, Except.ok.injEq]
    exact eq_comm
  | posInf | negInf =>
    constructor
    · intro h
      cases h
    · intro h
      cases h

/-! ### The beams that count -/

/-- `angle_min + i * angle_increment` -/
noncomputable def LaserScan.beamAngle (scan : LaserScan) (i : ℕ) : PyFloat ℝ :=
  scan.angleMin + ((i : ℤ) : PyFloat ℝ) * scan.angleIncrement

/-- The beam `i` with the finite range `x` counts for the sector, and is nearer than `d`. -/
structure CountedBeam (scan : LaserScan) (sector : Sector) (d : ℝ) (i : ℕ) (x : ℝ) : Prop where
  notBelow : ¬ .fin x < scan.rangeMin
  notAbove : ¬ scan.rangeMax < .fin x
  near : x < d
  angle : FallsIn sector (scan.beamAngle i)

/-- The nearest reading of the sector is nearer than `d`. -/
def ScanState.Within (st : ScanState) (sector : Sector) (d : ℝ) : Prop :=
  ∃ reading, st.sectorNearest sector = some reading ∧ reading.rangeM < .fin d

/-- The nearer of two readings is nearer than `d` exactly when one of them is. -/
private theorem keep_within {kept : Option (RangeReading (PyFloat ℝ))} {reading : RangeReading (PyFloat ℝ)} {x d : ℝ}
    (hkept : ∀ old, kept = some old → old.rangeM.IsFinite) (hx : reading.rangeM = .fin x) :
    (∃ new, keep (fun old => decide (.fin x < old.rangeM)) kept reading = some new ∧ new.rangeM < .fin d) ↔
      (∃ old, kept = some old ∧ old.rangeM < .fin d) ∨ x < d := by
  cases kept with
  | none => simp [keep, hx]
  | some old =>
    obtain ⟨y, hy⟩ := hkept old rfl
    by_cases hxy : x < y
    · have hyd : y < d → x < d := fun h => hxy.trans h
      simpa [keep, hx, hy, hxy] using hyd
    · have hxd : x < d → y < d := fun h => lt_of_le_of_lt (not_lt.1 hxy) h
      simpa [keep, hy, hxy] using hxd

variable {scan : LaserScan} {st st' : ScanState} {sector : Sector} {d : ℝ}

/-- A pass of the loop adds its beam, if that counts. -/
private theorem analyzeBeam_within {i : ℕ} {r : PyFloat ℝ} (hfin : st.FiniteRanges)
    (h : analyzeBeam scan st i r = .ok st') :
    st'.Within sector d ↔ st.Within sector d ∨ ∃ x, r = .fin x ∧ CountedBeam scan sector d i x := by
  unfold analyzeBeam at h
  dsimp only at h
  split at h
  · next hinvalid =>
    obtain rfl := Except.ok.inj h
    have hnone : ¬ ∃ x, r = .fin x ∧ CountedBeam scan sector d i x := by
      rintro ⟨x, rfl, hx⟩
      rcases hinvalid with hnan | hbelow
      · cases hnan
      · exact hx.notBelow hbelow
    exact (or_iff_left hnone).symm
  · next hvalid =>
    split at h
    · next hbeyond =>
      obtain rfl := Except.ok.inj h
      have hnone : ¬ ∃ x, r = .fin x ∧ CountedBeam scan sector d i x := by
        rintro ⟨x, rfl, hx⟩
        rcases hbeyond with hinf | habove
        · cases hinf
        · exact hx.notAbove habove
      exact (or_iff_left hnone).symm
    · next hreach =>
      push Not at hvalid hreach
      obtain ⟨x, rfl⟩ := PyFloat.isFinite_of_not hvalid.1 hreach.1
      obtain ⟨s₀, hs₀, hst⟩ := bind_returns_iff.1 h
      obtain rfl := Except.ok.inj hst
      have hangle : FallsIn s₀ (scan.beamAngle i) := sectorForAngle_iff.1 hs₀
      by_cases hsec : sector = s₀
      · subst hsec
        have hcounted : (∃ y, PyFloat.fin x = .fin y ∧ CountedBeam scan sector d i y) ↔ x < d := by
          constructor
          · rintro ⟨y, hy, hcount⟩
            obtain rfl := PyFloat.fin.inj hy
            exact hcount.near
          · intro hd
            exact ⟨x, rfl, hvalid.2, hreach.2, hd, hangle⟩
        rw [hcounted]
        simp only [ScanState.Within, Function.update_self]
        exact keep_within (hfin.sectorNearest sector) rfl
      · have hnone : ¬ ∃ y, PyFloat.fin x = .fin y ∧ CountedBeam scan sector d i y := by
          rintro ⟨y, -, hcount⟩
          exact hsec (Except.ok.inj ((sectorForAngle_iff.2 hcount.angle).symm.trans hs₀))
        rw [or_iff_left hnone]
        simp only [ScanState.Within, Function.update_of_ne hsec]

/-- The loop adds the beams that count. -/
private theorem analyzeBeams_within {rs : List (PyFloat ℝ)} {i : ℕ} (hfin : st.FiniteRanges)
    (h : analyzeBeams scan st i rs = .ok st') :
    st'.Within sector d ↔
      st.Within sector d ∨ ∃ k x, rs[k]? = some (.fin x) ∧ CountedBeam scan sector d (i + k) x := by
  induction rs generalizing st i with
  | nil =>
    obtain rfl := Except.ok.inj h
    simp
  | cons r rs ih =>
    obtain ⟨st₁, h₁, h₂⟩ := bind_returns_iff.1 h
    rw [ih (hfin.beam h₁) h₂, analyzeBeam_within hfin h₁, or_assoc]
    refine or_congr_right ?_
    constructor
    · rintro (⟨x, rfl, hx⟩ | ⟨k, x, hk, hx⟩)
      · exact ⟨0, x, rfl, hx⟩
      · refine ⟨k + 1, x, hk, ?_⟩
        rwa [show i + (k + 1) = i + 1 + k by omega]
    · rintro ⟨k, x, hk, hx⟩
      cases k with
      | zero => exact Or.inl ⟨x, Option.some.inj hk, hx⟩
      | succ k =>
        refine Or.inr ⟨k, x, hk, ?_⟩
        rwa [show i + 1 + k = i + (k + 1) by omega]

/-- The nearest reading of a sector is nearer than `d` exactly when a beam that counts for the sector is. -/
theorem analyzeLaserScan_within {analysis : LaserScanAnalysis} (h : analyzeLaserScan scan = .ok analysis) :
    (∃ reading, analysis.sectors sector = some reading ∧ reading.rangeM < .fin d) ↔
      ∃ k x, scan.ranges[k]? = some (.fin x) ∧ CountedBeam scan sector d k x := by
  obtain ⟨st, hst, hanalysis⟩ := bind_returns_iff.1 h
  obtain rfl := Except.ok.inj hanalysis
  have hinit : ¬ ScanState.initial.Within sector d := by simp [ScanState.Within, ScanState.initial]
  have hrun : st.Within sector d ↔ ScanState.initial.Within sector d ∨
      ∃ k x, scan.ranges[k]? = some (.fin x) ∧ CountedBeam scan sector d (0 + k) x :=
    analyzeBeams_within .initial hst
  simp only [or_iff_right hinit, Nat.zero_add] at hrun
  exact hrun

/-! ### When the analysis returns -/

/-- A finite angle of one beam makes the geometry of the scan finite. -/
theorem LaserScan.finite_of_beamAngle {i : ℕ} {a : ℝ} (h : scan.beamAngle i = .fin a) :
    ∃ a₀ b, scan.angleMin = .fin a₀ ∧ scan.angleIncrement = .fin b := by
  obtain ⟨⟨a₀, ha⟩, hproduct⟩ := PyFloat.isFinite_of_add (a := scan.angleMin) ⟨a, h⟩
  obtain ⟨b, hb⟩ := PyFloat.isFinite_of_fin_mul hproduct
  exact ⟨a₀, b, ha, hb⟩

/-- A pass over a beam returns when the geometry of the scan is finite. -/
private theorem analyzeBeam_ok {a b : ℝ} (ha : scan.angleMin = .fin a) (hb : scan.angleIncrement = .fin b)
    (st : ScanState)
    (i : ℕ) (r : PyFloat ℝ) : ∃ st', analyzeBeam scan st i r = .ok st' := by
  unfold analyzeBeam
  dsimp only
  split
  · exact ⟨_, rfl⟩
  · split
    · exact ⟨_, rfl⟩
    · obtain ⟨s, hs, -⟩ := sectorForAngle_fin (a + i * b)
      have hangle : scan.angleMin + ((i : ℤ) : PyFloat ℝ) * scan.angleIncrement = .fin (a + i * b) := by
        rw [ha, hb]
        simp
      rw [hangle, hs]
      exact ⟨_, rfl⟩

/-- A scan with a finite geometry is analysed. -/
theorem analyzeLaserScan_ok {a b : ℝ} (ha : scan.angleMin = .fin a) (hb : scan.angleIncrement = .fin b) :
    ∃ analysis, analyzeLaserScan scan = .ok analysis := by
  have hbeams : ∀ (rs : List (PyFloat ℝ)) (st : ScanState) (i : ℕ), ∃ st', analyzeBeams scan st i rs = .ok st' := by
    intro rs
    induction rs with
    | nil => exact fun st _ => ⟨st, rfl⟩
    | cons r rs ih =>
      intro st i
      obtain ⟨st₁, h₁⟩ := analyzeBeam_ok ha hb st i r
      obtain ⟨st', h'⟩ := ih st₁ (i + 1)
      exact ⟨st', bind_returns_iff.2 ⟨st₁, h₁, h'⟩⟩
  obtain ⟨st, hst⟩ := hbeams scan.ranges .initial 0
  exact ⟨_, bind_returns_iff.2 ⟨st, hst, rfl⟩⟩

end RosMcp
