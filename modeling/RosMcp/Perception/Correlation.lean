import Mathlib.Data.List.Induction
import RosMcp.Perception.Detection
import RosMcp.Perception.ScanSpec

/-!
# Correlating a bearing with a scan

`correlate_distance` does not look at the beams of a scan but at the readings that its analysis has kept: the nearest,
the farthest, and the nearest of each sector.  Over these it is a plain search: the last one among those that are
closest to the bearing, if any is within the tolerance (`Nearest`).  So the distance that it returns is the range of a
beam that counts and is within the tolerance (`correlateDistance_summary`), but a beam that the analysis has not kept is
never found (`correlateDistance_misses`).
-/

namespace RosMcp

open PyFloat

/-! ### Angular distances -/

/-- The distance of two angles up to full turns. -/
noncomputable def angularDistance (a b : ℝ) : ℝ := |representative (a - b)|

private theorem normalizeAngle_eq_representative (a : ℝ) : normalizeAngle a = representative a := by
  rw [normalizeAngle_eq_toIocMod, representative, Real.Angle.toReal_coe]

/-- The deviation of a reading from the bearing, as the loop computes it. -/
noncomputable def deviation (bearingRad : PyFloat ℝ) (reading : RangeReading (PyFloat ℝ)) : PyFloat ℝ :=
  (angularDelta reading.angleRad bearingRad).abs

private theorem deviation_fin {a : ℝ} (b : ℝ) {reading : RangeReading (PyFloat ℝ)} (h : reading.angleRad = .fin a) :
    deviation (.fin b) reading = .fin (angularDistance a b) := by
  rw [deviation, h, angularDelta_fin, normalizeAngle_eq_representative]
  rfl

private theorem deviation_nan (b : ℝ) {reading : RangeReading (PyFloat ℝ)} (h : reading.angleRad = .nan) :
    deviation (.fin b) reading = .nan := by
  rw [deviation, h]
  rfl

/-! ### The search -/

/-- `best` and `best_delta` after the candidates: the best one so far, if one is within the tolerance. -/
structure Nearest (bearingRad toleranceRad : PyFloat ℝ) (candidates : List (Option (RangeReading (PyFloat ℝ))))
    (best : Option (PyFloat ℝ) × PyFloat ℝ) : Prop where
  missed : best.1 = none → best.2 = toleranceRad ∧
    ∀ reading, some reading ∈ candidates → ¬ deviation bearingRad reading ≤ toleranceRad
  found : ∀ d, best.1 = some d → ∃ reading, some reading ∈ candidates ∧ reading.rangeM = d ∧
    best.2 = deviation bearingRad reading ∧ deviation bearingRad reading ≤ toleranceRad ∧
    ∀ other, some other ∈ candidates → ¬ deviation bearingRad other < deviation bearingRad reading

section Search

variable {bearingRad toleranceRad : PyFloat ℝ} {candidates : List (Option (RangeReading (PyFloat ℝ)))}
  {best : Option (PyFloat ℝ) × PyFloat ℝ}

/-- What is not farther than the best so far is within the tolerance, and no candidate is nearer. -/
private theorem Nearest.of_le (h : Nearest bearingRad toleranceRad candidates best) {delta : PyFloat ℝ}
    (hle : delta ≤ best.2) :
    delta ≤ toleranceRad ∧ ∀ reading, some reading ∈ candidates → ¬ deviation bearingRad reading < delta := by
  cases hbest : best.1 with
  | none =>
    obtain ⟨hdelta, hall⟩ := h.missed hbest
    rw [hdelta] at hle
    refine ⟨hle, ?_⟩
    intro reading hreading hlt
    exact hall reading hreading (PyFloat.le_trans (PyFloat.le_of_lt hlt) hle)
  | some d =>
    obtain ⟨nearest, -, -, hdelta, hwithin, hleast⟩ := h.found d hbest
    rw [hdelta] at hle
    refine ⟨PyFloat.le_trans hle hwithin, ?_⟩
    intro reading hreading hlt
    exact hleast reading hreading (PyFloat.lt_of_lt_of_le hlt hle)

private theorem mem_concat_some {reading last : RangeReading (PyFloat ℝ)} :
    some reading ∈ candidates ++ [some last] ↔ some reading ∈ candidates ∨ reading = last := by simp

/-- A reading that is missing leaves the best one alone. -/
private theorem Nearest.skip (h : Nearest bearingRad toleranceRad candidates best) :
    Nearest bearingRad toleranceRad (candidates ++ [none]) best := by
  have hmem : ∀ reading, some reading ∈ candidates ++ [none] ↔ some reading ∈ candidates := by simp
  constructor
  case missed =>
    intro hnone
    obtain ⟨hdelta, hall⟩ := h.missed hnone
    exact ⟨hdelta, fun reading hreading => hall reading ((hmem reading).1 hreading)⟩
  case found =>
    intro d hd
    obtain ⟨reading, hreading, hrange, hdelta, hwithin, hleast⟩ := h.found d hd
    exact ⟨reading, (hmem reading).2 hreading, hrange, hdelta, hwithin,
      fun other hother => hleast other ((hmem other).1 hother)⟩

variable {last : RangeReading (PyFloat ℝ)}

/-- A reading that is not farther becomes the best one. -/
private theorem Nearest.take (h : Nearest bearingRad toleranceRad candidates best)
    (hle : deviation bearingRad last ≤ best.2) :
    Nearest bearingRad toleranceRad (candidates ++ [some last]) (some last.rangeM, deviation bearingRad last) := by
  obtain ⟨hwithin, hleast⟩ := h.of_le hle
  refine ⟨fun hnone => absurd hnone (Option.some_ne_none _), ?_⟩
  intro d hd
  obtain rfl := Option.some.inj hd
  refine ⟨last, mem_concat_some.2 (Or.inr rfl), rfl, rfl, hwithin, ?_⟩
  intro other hother
  rcases mem_concat_some.1 hother with hbefore | rfl
  · exact hleast other hbefore
  · exact fun hlt => not_lt_of_le (PyFloat.le_of_lt hlt) hlt

/-- A reading that is farther leaves the best one alone. -/
private theorem Nearest.keep (h : Nearest bearingRad toleranceRad candidates best)
    (hle : ¬ deviation bearingRad last ≤ best.2) :
    Nearest bearingRad toleranceRad (candidates ++ [some last]) best := by
  constructor
  case missed =>
    intro hnone
    obtain ⟨hdelta, hall⟩ := h.missed hnone
    refine ⟨hdelta, ?_⟩
    intro reading hreading
    rcases mem_concat_some.1 hreading with hbefore | rfl
    · exact hall reading hbefore
    · rwa [hdelta] at hle
  case found =>
    intro d hd
    obtain ⟨reading, hreading, hrange, hdelta, hwithin, hleast⟩ := h.found d hd
    refine ⟨reading, mem_concat_some.2 (Or.inl hreading), hrange, hdelta, hwithin, ?_⟩
    intro other hother
    rcases mem_concat_some.1 hother with hbefore | rfl
    · exact hleast other hbefore
    · rw [hdelta] at hle
      exact fun hlt => hle (PyFloat.le_of_lt hlt)

/-- The last candidate is compared with the best of the earlier ones. -/
theorem Nearest.step (h : Nearest bearingRad toleranceRad candidates best)
    (candidate : Option (RangeReading (PyFloat ℝ))) :
    Nearest bearingRad toleranceRad (candidates ++ [candidate]) (correlateStep bearingRad best candidate) := by
  cases candidate with
  | none => exact h.skip
  | some last =>
    have hstep : correlateStep bearingRad best (some last) =
        if deviation bearingRad last ≤ best.2 then (some last.rangeM, deviation bearingRad last) else best := rfl
    rw [hstep]
    by_cases hle : deviation bearingRad last ≤ best.2
    · rw [if_pos hle]
      exact h.take hle
    · rw [if_neg hle]
      exact h.keep hle

private theorem nearest_foldl (bearingRad toleranceRad : PyFloat ℝ)
    (candidates : List (Option (RangeReading (PyFloat ℝ)))) :
    Nearest bearingRad toleranceRad candidates (candidates.foldl (correlateStep bearingRad) (none, toleranceRad)) := by
  induction candidates using List.reverseRecOn with
  | nil => exact ⟨fun _ => ⟨rfl, fun reading h => by cases h⟩, fun d h => by cases h⟩
  | append_singleton candidates candidate ih =>
    rw [List.foldl_append]
    exact ih.step candidate

end Search

/-! ### The readings that the analysis keeps -/

/-- The analysis keeps the beam `i`: it is the first nearest, the first farthest or the first nearest of a sector. -/
def LaserScan.Summary (scan : LaserScan) (i : ℕ) (x : ℝ) : Prop :=
  First scan.Counts id (fun _ => True) i x ∨ First scan.Counts Neg.neg (fun _ => True) i x ∨
    ∃ s, First scan.Counts id (fun j => FallsIn s (scan.beamAngle j)) i x

theorem LaserScan.Summary.counts {scan : LaserScan} {i : ℕ} {x : ℝ} (h : scan.Summary i x) : scan.Counts i x := by
  rcases h with h | h | ⟨s, h⟩ <;> exact h.valid

section Summary

variable {scan : LaserScan} {analysis : LaserScanAnalysis} {key : ℝ → ℝ} {P : ℕ → Prop} {i : ℕ} {x : ℝ}
  {kept : Option (RangeReading (PyFloat ℝ))}

/-- The first beam of a question is the kept reading. -/
private theorem ScanAnswer.of_first (h : ScanAnswer scan scan.Counts key P kept)
    (hfirst : First scan.Counts key P i x) :
    ∃ reading, kept = some reading ∧ scan.Reads i x reading := by
  cases hkept : kept with
  | none => exact absurd hfirst.holds (h.none_iff.1 hkept i x hfirst.valid)
  | some reading =>
    obtain ⟨j, y, hfirst', hreads⟩ := h.reading reading hkept
    have hkey : key x = key y :=
      le_antisymm (hfirst.least j y hfirst'.valid hfirst'.holds) (hfirst'.least i x hfirst.valid hfirst.holds)
    obtain rfl : i = j :=
      le_antisymm (hfirst.first j y hfirst'.valid hfirst'.holds hkey.symm)
        (hfirst'.first i x hfirst.valid hfirst.holds hkey)
    rw [hfirst.valid.unique hfirst'.valid]
    exact ⟨reading, rfl, hreads⟩

/-- The candidates are the readings of the beams of the summary. -/
theorem candidates_iff (h : ScanSpec scan scan.Counts analysis) (reading : RangeReading (PyFloat ℝ)) :
    some reading ∈ analysis.candidates ↔ ∃ i x, scan.Summary i x ∧ scan.Reads i x reading := by
  constructor
  · intro hmem
    have hcases : analysis.nearest = some reading ∨ analysis.farthest = some reading ∨
        ∃ s, analysis.sectors s = some reading := by
      simp only [LaserScanAnalysis.candidates, List.mem_cons, List.not_mem_nil, or_false] at hmem
      rcases hmem with hmem | hmem | hmem | hmem | hmem | hmem
      · exact Or.inl hmem.symm
      · exact Or.inr (Or.inl hmem.symm)
      all_goals exact Or.inr (Or.inr ⟨_, hmem.symm⟩)
    rcases hcases with hnear | hfar | ⟨s, hs⟩
    · obtain ⟨i, x, hfirst, hreads⟩ := h.nearest.reading reading hnear
      exact ⟨i, x, Or.inl hfirst, hreads⟩
    · obtain ⟨i, x, hfirst, hreads⟩ := h.farthest.reading reading hfar
      exact ⟨i, x, Or.inr (Or.inl hfirst), hreads⟩
    · obtain ⟨i, x, hfirst, hreads⟩ := (h.sectors s).reading reading hs
      exact ⟨i, x, Or.inr (Or.inr ⟨s, hfirst⟩), hreads⟩
  · rintro ⟨i, x, hsummary, hreads⟩
    have hcandidate : ∀ kept, (∃ reading', kept = some reading' ∧ scan.Reads i x reading') →
        kept ∈ analysis.candidates → some reading ∈ analysis.candidates := by
      rintro kept ⟨reading', rfl, hreads'⟩ hmem
      rwa [hreads.unique hreads']
    rcases hsummary with hfirst | hfirst | ⟨s, hfirst⟩
    · exact hcandidate _ (h.nearest.of_first hfirst) (by simp [LaserScanAnalysis.candidates])
    · exact hcandidate _ (h.farthest.of_first hfirst) (by simp [LaserScanAnalysis.candidates])
    · refine hcandidate _ ((h.sectors s).of_first hfirst) ?_
      cases s <;> simp [LaserScanAnalysis.candidates]

end Summary

/-! ### The distance at a bearing -/

/-- The beam `i` is at the angular distance `δ` from the bearing. -/
def LaserScan.Offset (scan : LaserScan) (bearingRad : ℝ) (i : ℕ) (δ : ℝ) : Prop :=
  ∃ a, scan.beamAngle i = .fin a ∧ δ = angularDistance a bearingRad

/-- `result` is the distance at the bearing among the beams `V`: the range of a closest one, if that is within the
tolerance. -/
structure AtBearing (scan : LaserScan) (V : ℕ → ℝ → Prop) (bearingRad : ℝ) (toleranceRad : PyFloat ℝ)
    (result : Option (PyFloat ℝ) × DistanceSource) : Prop where
  unavailable : result = (none, .unavailable) ↔
    ∀ i x δ, V i x → scan.Offset bearingRad i δ → ¬ .fin δ ≤ toleranceRad
  closest : result ≠ (none, .unavailable) → ∃ i x δ, V i x ∧ scan.Offset bearingRad i δ ∧ .fin δ ≤ toleranceRad ∧
    result = (some (.fin x), .laserScanCorrelation) ∧ ∀ j y ε, V j y → scan.Offset bearingRad j ε → δ ≤ ε

/-- A reading within the tolerance is compared by the offset of its beam. -/
private theorem LaserScan.Reads.offset {scan : LaserScan} {i : ℕ} {x : ℝ} {reading : RangeReading (PyFloat ℝ)}
    (h : scan.Reads i x reading) {bearingRad : ℝ} {toleranceRad : PyFloat ℝ}
    (hwithin : deviation (.fin bearingRad) reading ≤ toleranceRad) :
    ∃ δ, scan.Offset bearingRad i δ ∧ deviation (.fin bearingRad) reading = .fin δ := by
  have hsector := h.sector
  have hangle := h.angle
  cases hbeam : scan.beamAngle i with
  | fin a => exact ⟨_, ⟨a, hbeam, rfl⟩, deviation_fin bearingRad (hangle.trans hbeam)⟩
  | nan =>
    rw [deviation_nan bearingRad (hangle.trans hbeam)] at hwithin
    exact absurd hwithin not_nan_le
  | posInf | negInf =>
    rw [hbeam] at hsector
    exact hsector.elim

/-- `correlate_distance` gives the distance at the bearing among the beams that the analysis keeps. -/
theorem correlateDistance_summary {scan : LaserScan} {analysis : LaserScanAnalysis}
    (h : analyzeLaserScan scan = .ok analysis) (bearingRad : ℝ) (toleranceRad : PyFloat ℝ) :
    AtBearing scan scan.Summary bearingRad toleranceRad (correlateDistance analysis (.fin bearingRad) toleranceRad) ∧
      ∀ i x, scan.Summary i x → scan.Counts i x := by
  refine ⟨?_, fun i x hsummary => hsummary.counts⟩
  have hspec := scanSpec_of_returns h
  have hsearch := nearest_foldl (.fin bearingRad) toleranceRad analysis.candidates
  have hreading : ∀ i x δ, scan.Summary i x → scan.Offset bearingRad i δ →
      ∃ reading, some reading ∈ analysis.candidates ∧ deviation (.fin bearingRad) reading = .fin δ := by
    rintro i x δ hsummary ⟨a, ha, rfl⟩
    obtain ⟨s, -, hfalls⟩ := sectorForAngle_fin a
    have hreads : scan.Reads i x ⟨.fin x, .fin a, s⟩ := ⟨rfl, ha.symm, by rwa [ha]⟩
    exact ⟨_, (candidates_iff hspec _).2 ⟨i, x, hsummary, hreads⟩, deviation_fin bearingRad rfl⟩
  unfold correlateDistance
  cases hbest : (analysis.candidates.foldl (correlateStep (.fin bearingRad)) (none, toleranceRad)).1 with
  | none =>
    obtain ⟨-, hall⟩ := hsearch.missed hbest
    refine ⟨iff_of_true rfl ?_, fun hne => absurd rfl hne⟩
    intro i x δ hsummary hoffset hwithin
    obtain ⟨reading, hmem, hdeviation⟩ := hreading i x δ hsummary hoffset
    exact hall reading hmem (hdeviation ▸ hwithin)
  | some d =>
    obtain ⟨reading, hmem, rfl, -, hwithin, hleast⟩ := hsearch.found d hbest
    obtain ⟨i, x, hsummary, hreads⟩ := (candidates_iff hspec reading).1 hmem
    obtain ⟨δ, hoffset, hδ⟩ := hreads.offset hwithin
    rw [hδ] at hwithin
    constructor
    case unavailable => exact iff_of_false (by simp) fun hall => hall i x δ hsummary hoffset hwithin
    case closest =>
      intro _
      refine ⟨i, x, δ, hsummary, hoffset, hwithin, by simp [hreads.range], ?_⟩
      intro j y ε hsummary' hoffset'
      obtain ⟨other, hmem', hε⟩ := hreading j y ε hsummary' hoffset'
      have hnot := hleast other hmem'
      rw [hδ, hε] at hnot
      simpa using hnot

/-! ### A beam that is not kept -/

theorem representative_of_mem {a : ℝ} (h₁ : -Real.pi < a) (h₂ : a ≤ Real.pi) : representative a = a := by
  rw [← normalizeAngle_eq_representative, normalizeAngle_of_mem h₁ h₂]

/-- Three beams ahead, the second of them neither the nearest nor the farthest. -/
noncomputable def fanScan : LaserScan where
  header := none
  ranges := [.fin ((1 : ℤ) : ℝ), .fin ((2 : ℤ) : ℝ), .fin ((3 : ℤ) : ℝ)]
  angleMin := .fin 0
  angleIncrement := .fin ((1 / 8 : ℚ) : ℝ)
  rangeMin := .fin 0
  rangeMax := .fin ((10 : ℤ) : ℝ)

theorem correlateDistance_fan : ∃ analysis, analyzeLaserScan fanScan = .ok analysis ∧
    AtBearing fanScan fanScan.Summary 0 (.fin 1) (correlateDistance analysis (.fin 0) (.fin 1)) := by
  obtain ⟨analysis, hanalysis⟩ := @analyzeLaserScan_ok fanScan 0 ((1 / 8 : ℚ) : ℝ) rfl rfl
  exact ⟨analysis, hanalysis, (correlateDistance_summary hanalysis 0 (.fin 1)).1⟩

private theorem fanScan_beamAngle (i : ℕ) : fanScan.beamAngle i = .fin (i / 8) := by
  simp [LaserScan.beamAngle, fanScan, div_eq_mul_inv]

private theorem fanScan_counts_iff {i : ℕ} {x : ℝ} : fanScan.Counts i x ↔ i < 3 ∧ x = i + 1 := by
  have hrange : fanScan.ranges[i]? = some (.fin x) ↔ i < 3 ∧ x = i + 1 := by
    rcases i with _ | _ | _ | i
    · simp [fanScan, eq_comm]
    · norm_num [fanScan, eq_comm]
    · norm_num [fanScan, eq_comm]
    · simp [fanScan]
  constructor
  · intro h
    exact hrange.1 h.range
  · intro h
    have hle : (i : ℝ) ≤ 2 := by exact_mod_cast Nat.le_of_lt_succ h.1
    have hnonneg : (0 : ℝ) ≤ i := Nat.cast_nonneg i
    refine ⟨hrange.2 h, ?_, ?_⟩
    · simp [fanScan, h.2]
      linarith
    · simp [fanScan, h.2]
      linarith

private theorem fanScan_ahead {i : ℕ} (hi : i < 3) (s : Sector) : FallsIn s (fanScan.beamAngle i) ↔ s = .front := by
  have hπ := Real.two_le_pi
  have hle : (i : ℝ) ≤ 2 := by exact_mod_cast Nat.le_of_lt_succ hi
  have hnonneg : (0 : ℝ) ≤ i := Nat.cast_nonneg i
  have hfront : representative ((i : ℝ) / 8) ∈ Sector.front.wedge := by
    rw [representative_of_mem (by linarith) (by linarith)]
    constructor
    · norm_num [sixths]
      linarith
    · norm_num [sixths]
      linarith
  rw [fanScan_beamAngle]
  constructor
  · intro h
    exact Sector.wedge_unique h hfront
  · rintro rfl
    exact hfront

/-- The analysis keeps nothing of the second beam. -/
private theorem fanScan_not_summary : ¬ fanScan.Summary 1 2 := by
  have hnear : fanScan.Counts 0 1 := fanScan_counts_iff.2 (by norm_num)
  have hfar : fanScan.Counts 2 3 := fanScan_counts_iff.2 (by norm_num)
  rintro (h | h | ⟨s, h⟩)
  · have hle := h.least 0 1 hnear trivial
    norm_num at hle
  · have hle := h.least 2 3 hfar trivial
    norm_num at hle
  · have hs : s = .front := (fanScan_ahead (by decide) s).1 h.holds
    have hle := h.least 0 1 hnear ((fanScan_ahead (by decide) s).2 hs)
    norm_num at hle

/-- The second beam is straight at the bearing, but the analysis has not kept it. -/
theorem correlateDistance_misses : ∃ analysis, analyzeLaserScan fanScan = .ok analysis ∧
    ¬ AtBearing fanScan fanScan.Valid (1 / 8) (.fin 0) (correlateDistance analysis (.fin (1 / 8)) (.fin 0)) := by
  obtain ⟨analysis, hanalysis⟩ := @analyzeLaserScan_ok fanScan 0 ((1 / 8 : ℚ) : ℝ) rfl rfl
  refine ⟨analysis, hanalysis, ?_⟩
  intro hclaim
  have hπ := Real.two_le_pi
  have hmissed : correlateDistance analysis (.fin (1 / 8)) (.fin 0) = (none, .unavailable) := by
    rw [(correlateDistance_summary hanalysis (1 / 8) (.fin 0)).1.unavailable]
    rintro i x δ hsummary ⟨a, ha, rfl⟩ hwithin
    obtain ⟨hi, rfl⟩ := fanScan_counts_iff.1 hsummary.counts
    have hle : (i : ℝ) ≤ 2 := by exact_mod_cast Nat.le_of_lt_succ hi
    have hnonneg : (0 : ℝ) ≤ i := Nat.cast_nonneg i
    -- only the second beam is at the bearing
    rw [fanScan_beamAngle] at ha
    obtain rfl := PyFloat.fin.inj ha
    have hzero : |(i : ℝ) / 8 - 1 / 8| ≤ 0 := by
      rwa [angularDistance, representative_of_mem (by linarith) (by linarith)] at hwithin
    have hone : (i : ℝ) = 1 := by
      have heq := abs_nonpos_iff.1 hzero
      linarith
    obtain rfl : i = 1 := by exact_mod_cast hone
    apply fanScan_not_summary
    norm_num at hsummary
    exact hsummary
  have hbeam : fanScan.Valid 1 2 := by
    rw [← LaserScan.counts_iff_valid (by simp [fanScan]) (by simp [fanScan]), fanScan_counts_iff]
    norm_num
  have hoffset : fanScan.Offset (1 / 8) 1 0 := by
    refine ⟨1 / 8, by simp [fanScan_beamAngle], ?_⟩
    rw [angularDistance, sub_self, representative_of_mem (by linarith) (by linarith), abs_zero]
  exact hclaim.unavailable.1 hmissed 1 2 0 hbeam hoffset (fin_le_fin.2 (le_refl 0))

end RosMcp
