import RosMcp.Lib.PyFloat
import RosMcp.Contracts.Results

/-!
# Laser-scan analysis (`perception/laser_scan.py`)

`analyzeLaserScan` goes over the beams once and keeps the nearest and the farthest reading, the nearest reading of each
sector and the number of invalid beams.  The beams and the geometry of a scan are Python floats; the analysis raises
when the angle of a beam that counts is infinite (`math.sin`).  Every reading that is kept has a finite range
(`analyzeLaserScan_finite`).
-/

namespace RosMcp

/-- `header` of a `LaserScan` message; `stamp` is its `sec` and `nanosec`. -/
structure ScanHeader where
  stamp : Option (ℤ × ℤ)
  frameId : Option String

/-- A `sensor_msgs/msg/LaserScan` message. -/
structure LaserScan where
  header : Option ScanHeader
  ranges : List (PyFloat ℝ)
  angleMin : PyFloat ℝ
  angleIncrement : PyFloat ℝ
  rangeMin : PyFloat ℝ
  rangeMax : PyFloat ℝ

structure LaserScanAnalysis where
  stampSec : Option (PyFloat ℝ)
  frameId : Option String
  nearest : Option (RangeReading (PyFloat ℝ))
  farthest : Option (RangeReading (PyFloat ℝ))
  sectors : Sector → Option (RangeReading (PyFloat ℝ))
  rawRanges : List (PyFloat ℝ)
  invalidBeamCount : Nat

open Real in
/-- `_SECTOR_BOUNDS_RAD` -/
noncomputable def sectorBoundsRad : List (Sector × ℝ × ℝ) :=
  [(.front, -π / 6, π / 6), (.left, π / 6, 5 * π / 6), (.right, -5 * π / 6, -π / 6)]

/-- `_sector_for_angle` -/
noncomputable def sectorForAngle (angleRad : PyFloat ℝ) : Except PyException Sector := do
  let s ← PyMath.sin angleRad
  let c ← PyMath.cos angleRad
  let wrapped := PyMath.atan2 s c
  return match sectorBoundsRad.find? fun b => decide (.fin b.2.1 ≤ wrapped ∧ wrapped < .fin b.2.2) with
    | some b => b.1
    | none => .rear

/-- The variables of the loop over the beams. -/
structure ScanState where
  nearest : Option (RangeReading (PyFloat ℝ))
  farthest : Option (RangeReading (PyFloat ℝ))
  sectorNearest : Sector → Option (RangeReading (PyFloat ℝ))
  invalidCount : Nat

def ScanState.initial : ScanState := ⟨none, none, fun _ => none, 0⟩

/-- `reading` replaces `kept` when there is none yet, or when `better` says so. -/
def keep {α : Type} (better : α → Bool) (kept : Option α) (reading : α) : Option α :=
  match kept with
  | none => some reading
  | some old => if better old then some reading else some old

/-- One pass of the loop, for the beam `r` with the index `i`. -/
noncomputable def analyzeBeam (scan : LaserScan) (st : ScanState) (i : Nat) (r : PyFloat ℝ) :
    Except PyException ScanState :=
  let angle := scan.angleMin + ((i : ℤ) : PyFloat ℝ) * scan.angleIncrement
  if r.isNan ∨ r < scan.rangeMin then .ok { st with invalidCount := st.invalidCount + 1 }
  else if r.isInf ∨ scan.rangeMax < r then .ok st
  else do
    let sector ← sectorForAngle angle
    let reading : RangeReading (PyFloat ℝ) := ⟨r, angle, sector⟩
    return { st with
      nearest := keep (fun old => decide (r < old.rangeM)) st.nearest reading
      farthest := keep (fun old => decide (old.rangeM < r)) st.farthest reading
      sectorNearest := Function.update st.sectorNearest sector
        (keep (fun old => decide (r < old.rangeM)) (st.sectorNearest sector) reading) }

/-- The loop, from the beam with the index `i` on. -/
noncomputable def analyzeBeams (scan : LaserScan) : ScanState → Nat → List (PyFloat ℝ) → Except PyException ScanState
  | st, _, [] => .ok st
  | st, i, r :: rs => do analyzeBeams scan (← analyzeBeam scan st i r) (i + 1) rs

/-- `float(stamp.sec) + float(stamp.nanosec) / 1e9` -/
noncomputable def stampSeconds (stamp : ℤ × ℤ) : PyFloat ℝ := .fin (stamp.1 + stamp.2 / 10 ^ 9)

/-- `analyze_laser_scan` -/
noncomputable def analyzeLaserScan (scan : LaserScan) : Except PyException LaserScanAnalysis := do
  let st ← analyzeBeams scan .initial 0 scan.ranges
  return {
    stampSec := (scan.header.bind ScanHeader.stamp).map stampSeconds
    frameId := scan.header.bind ScanHeader.frameId
    nearest := st.nearest
    farthest := st.farthest
    sectors := st.sectorNearest
    rawRanges := scan.ranges
    invalidBeamCount := st.invalidCount }

/-! ### The readings that are kept -/

/-- Every reading that the loop keeps has a finite range. -/
structure ScanState.FiniteRanges (st : ScanState) : Prop where
  nearest : ∀ reading, st.nearest = some reading → reading.rangeM.IsFinite
  farthest : ∀ reading, st.farthest = some reading → reading.rangeM.IsFinite
  sectorNearest : ∀ sector reading, st.sectorNearest sector = some reading → reading.rangeM.IsFinite

theorem ScanState.FiniteRanges.initial : ScanState.initial.FiniteRanges := by
  constructor <;> simp [ScanState.initial]

private theorem keep_eq_some {α : Type} {better : α → Bool} {kept : Option α} {reading new : α}
    (h : keep better kept reading = some new) : new = reading ∨ kept = some new := by
  unfold keep at h
  split at h
  · exact Or.inl (Option.some.inj h).symm
  · split at h
    · exact Or.inl (Option.some.inj h).symm
    · exact Or.inr h

/-- A kept reading has a finite range when the old one and the new one have. -/
private theorem keep_finite {better : RangeReading (PyFloat ℝ) → Bool} {kept : Option (RangeReading (PyFloat ℝ))}
    {reading : RangeReading (PyFloat ℝ)} (hkept : ∀ old, kept = some old → old.rangeM.IsFinite)
    (hreading : reading.rangeM.IsFinite) (new : RangeReading (PyFloat ℝ)) (h : keep better kept reading = some new) :
    new.rangeM.IsFinite := by
  rcases keep_eq_some h with rfl | hold
  · exact hreading
  · exact hkept new hold

theorem ScanState.FiniteRanges.beam {scan : LaserScan} {st st' : ScanState} {i : Nat} {r : PyFloat ℝ}
    (h : st.FiniteRanges) (hst : analyzeBeam scan st i r = .ok st') : st'.FiniteRanges := by
  unfold analyzeBeam at hst
  dsimp only at hst
  split at hst
  · obtain rfl := Except.ok.inj hst
    exact ⟨h.nearest, h.farthest, h.sectorNearest⟩
  · next hinvalid =>
    split at hst
    · obtain rfl := Except.ok.inj hst
      exact h
    · next hbeyond =>
      have hr : r.IsFinite := PyFloat.isFinite_of_not (fun hn => hinvalid (Or.inl hn)) (fun hi => hbeyond (Or.inl hi))
      cases hs : sectorForAngle (scan.angleMin + ((i : ℤ) : PyFloat ℝ) * scan.angleIncrement) with
      | error exc =>
        rw [hs] at hst
        cases hst
      | ok sector =>
        rw [hs] at hst
        obtain rfl := Except.ok.inj hst
        constructor
        case nearest => exact keep_finite h.nearest hr
        case farthest => exact keep_finite h.farthest hr
        case sectorNearest =>
          intro sector' reading hreading
          dsimp only at hreading
          by_cases hsec : sector' = sector
          · subst hsec
            rw [Function.update_self] at hreading
            exact keep_finite (h.sectorNearest sector') hr reading hreading
          · rw [Function.update_of_ne hsec] at hreading
            exact h.sectorNearest sector' reading hreading

private theorem ScanState.FiniteRanges.beams {scan : LaserScan} {rs : List (PyFloat ℝ)} {st st' : ScanState} {i : Nat}
    (h : st.FiniteRanges) (hst : analyzeBeams scan st i rs = .ok st') : st'.FiniteRanges := by
  induction rs generalizing st i with
  | nil =>
    obtain rfl := Except.ok.inj hst
    exact h
  | cons r rs ih =>
    unfold analyzeBeams at hst
    cases hb : analyzeBeam scan st i r with
    | error exc =>
      rw [hb] at hst
      cases hst
    | ok st₁ =>
      rw [hb] at hst
      exact ih (h.beam hb) hst

/-- The nearest reading of a sector has a finite range. -/
theorem analyzeLaserScan_finite {scan : LaserScan} {analysis : LaserScanAnalysis}
    (h : analyzeLaserScan scan = .ok analysis) {sector : Sector} {reading : RangeReading (PyFloat ℝ)}
    (hreading : analysis.sectors sector = some reading) : reading.rangeM.IsFinite := by
  unfold analyzeLaserScan at h
  cases hst : analyzeBeams scan .initial 0 scan.ranges with
  | error exc =>
    rw [hst] at h
    cases h
  | ok st =>
    rw [hst] at h
    obtain rfl := Except.ok.inj h
    exact (ScanState.FiniteRanges.initial.beams hst).sectorNearest sector reading hreading

end RosMcp
