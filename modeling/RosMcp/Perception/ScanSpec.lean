import RosMcp.Perception.Sectors

/-!
# What the scan analysis says

A beam is valid when its range is finite and within the limits of the scan, and invalid when its range is `nan` or below
the lower limit.  `ScanSpec` states the analysis over these beams, without a loop: the number of invalid beams, and the
first valid beam of smallest or largest range, over the whole scan and over each sector.

The loop keeps one reading for each of these questions.  `ScanAnswer` says that a kept reading answers its question for
the beams seen so far; a pass of the loop extends it by its beam (`ScanAnswer.keep` and `ScanAnswer.skip`), and so the
analysis meets its specification (`analyzeLaserScan_spec`).
-/

namespace RosMcp

open PyFloat

/-! ### The specification -/

/-- The beam `i` is valid, with the range `x`. -/
structure LaserScan.Valid (scan : LaserScan) (i : ℕ) (x : ℝ) : Prop where
  range : scan.ranges[i]? = some (.fin x)
  aboveMin : scan.rangeMin ≤ .fin x
  belowMax : .fin x ≤ scan.rangeMax

/-- The analysis counts the beam `i` with the range `x`: neither limit of the scan speaks against it. -/
structure LaserScan.Counts (scan : LaserScan) (i : ℕ) (x : ℝ) : Prop where
  range : scan.ranges[i]? = some (.fin x)
  notBelow : ¬ .fin x < scan.rangeMin
  notAbove : ¬ scan.rangeMax < .fin x

/-- A range that is an artifact. -/
def LaserScan.Invalid (scan : LaserScan) (r : PyFloat ℝ) : Prop := r = .nan ∨ r < scan.rangeMin

noncomputable instance (scan : LaserScan) : DecidablePred scan.Invalid := fun _ => Classical.dec _

/-- `i` is the first of the beams `V` of `P` for whose range `key` is least. -/
structure First (V : ℕ → ℝ → Prop) (key : ℝ → ℝ) (P : ℕ → Prop) (i : ℕ) (x : ℝ) : Prop where
  valid : V i x
  holds : P i
  least : ∀ j y, V j y → P j → key x ≤ key y
  first : ∀ j y, V j y → P j → key y = key x → i ≤ j

/-- The reading of the beam `i` with the range `x`. -/
structure LaserScan.Reads (scan : LaserScan) (i : ℕ) (x : ℝ) (reading : RangeReading (PyFloat ℝ)) : Prop where
  range : reading.rangeM = .fin x
  angle : reading.angleRad = scan.beamAngle i
  sector : FallsIn reading.sector (scan.beamAngle i)

/-- `kept` is the reading of the first beam of `V` and `P` with the least `key`, and is missing when there is none. -/
structure ScanAnswer (scan : LaserScan) (V : ℕ → ℝ → Prop) (key : ℝ → ℝ) (P : ℕ → Prop)
    (kept : Option (RangeReading (PyFloat ℝ))) : Prop where
  none_iff : kept = none ↔ ∀ i x, V i x → ¬ P i
  reading : ∀ reading, kept = some reading → ∃ i x, First V key P i x ∧ scan.Reads i x reading

/-- What the analysis of a scan says about the beams `V`. -/
structure ScanSpec (scan : LaserScan) (V : ℕ → ℝ → Prop) (analysis : LaserScanAnalysis) : Prop where
  invalid : analysis.invalidBeamCount = scan.ranges.countP fun r => decide (scan.Invalid r)
  nearest : ScanAnswer scan V id (fun _ => True) analysis.nearest
  farthest : ScanAnswer scan V Neg.neg (fun _ => True) analysis.farthest
  sectors : ∀ s, ScanAnswer scan V id (fun i => FallsIn s (scan.beamAngle i)) (analysis.sectors s)

/-- When the limits of the scan are numbers, the beams that count are the valid ones. -/
theorem LaserScan.counts_iff_valid {scan : LaserScan} (hlo : scan.rangeMin ≠ .nan) (hhi : scan.rangeMax ≠ .nan) {i : ℕ}
    {x : ℝ} : scan.Counts i x ↔ scan.Valid i x := by
  have hx : PyFloat.fin x ≠ .nan := by simp
  constructor
  · intro h
    exact ⟨h.range, (not_lt_iff_le hx hlo).1 h.notBelow, (not_lt_iff_le hhi hx).1 h.notAbove⟩
  · intro h
    exact ⟨h.range, not_lt_of_le h.aboveMin, not_lt_of_le h.belowMax⟩

/-! ### Readings -/

/-- The reading that a beam gives is determined by the beam. -/
theorem LaserScan.Reads.unique {scan : LaserScan} {i : ℕ} {x : ℝ} {reading reading' : RangeReading (PyFloat ℝ)}
    (h : scan.Reads i x reading) (h' : scan.Reads i x reading') : reading = reading' := by
  have hsector : reading.sector = reading'.sector := by
    have hs := sectorForAngle_iff.2 h.sector
    rw [sectorForAngle_iff.2 h'.sector, Except.ok.injEq] at hs
    exact hs.symm
  rcases reading with ⟨r, a, s⟩
  rcases reading' with ⟨r', a', s'⟩
  have hrange : r = r' := h.range.trans h'.range.symm
  have hangle : a = a' := h.angle.trans h'.angle.symm
  subst hrange hangle
  exact congrArg (RangeReading.mk r a) hsector

section Loop

variable {scan : LaserScan} {key : ℝ → ℝ} {P Q : ℕ → Prop} {kept : Option (RangeReading (PyFloat ℝ))}

/-- The question matters only on valid beams. -/
private theorem ScanAnswer.congr (h : ScanAnswer scan scan.Counts key P kept)
    (hPQ : ∀ i x, scan.Counts i x → (P i ↔ Q i)) :
    ScanAnswer scan scan.Counts key Q kept := by
  constructor
  case none_iff =>
    rw [h.none_iff]
    refine forall_congr' fun i => forall_congr' fun x => ?_
    constructor
    · intro hP hvalid
      rw [← hPQ i x hvalid]
      exact hP hvalid
    · intro hQ hvalid
      rw [hPQ i x hvalid]
      exact hQ hvalid
  case reading =>
    intro reading hreading
    obtain ⟨i, x, hfirst, hreads⟩ := h.reading reading hreading
    refine ⟨i, x, ⟨hfirst.valid, (hPQ i x hfirst.valid).1 hfirst.holds, ?_, ?_⟩, hreads⟩
    · intro j y hvalid hQ
      exact hfirst.least j y hvalid ((hPQ j y hvalid).2 hQ)
    · intro j y hvalid hQ
      exact hfirst.first j y hvalid ((hPQ j y hvalid).2 hQ)

/-- A beam that is not valid, or not asked for, changes no answer. -/
private theorem ScanAnswer.skip {n : ℕ} (h : ScanAnswer scan scan.Counts key (fun i => i < n ∧ P i) kept)
    (hn : ∀ x, scan.Counts n x → ¬ P n) :
    ScanAnswer scan scan.Counts key (fun i => i < n + 1 ∧ P i) kept := by
  refine h.congr fun i x hvalid => ?_
  rw [Nat.lt_succ_iff_lt_or_eq]
  constructor
  · rintro ⟨hlt, hP⟩
    exact ⟨Or.inl hlt, hP⟩
  · rintro ⟨hlt | rfl, hP⟩
    · exact ⟨hlt, hP⟩
    · exact absurd hP (hn x hvalid)

/-- The range of a beam is determined. -/
theorem LaserScan.Counts.unique {i : ℕ} {x y : ℝ} (hx : scan.Counts i x) (hy : scan.Counts i y) : x = y :=
  PyFloat.fin.inj (Option.some.inj (hx.range.symm.trans hy.range))

/-- A valid beam that is better than all earlier ones becomes the first. -/
private theorem First.newcomer {n : ℕ} {x : ℝ} (hvalid : scan.Counts n x) (hP : P n)
    (hbetter : ∀ j y, scan.Counts j y → j < n ∧ P j → key x < key y) :
    First scan.Counts key (fun i => i < n + 1 ∧ P i) n x := by
  have hleast : ∀ j y, scan.Counts j y → j < n + 1 ∧ P j → key x < key y ∨ j = n := by
    rintro j y hy ⟨hj, hPj⟩
    exact (Nat.lt_succ_iff_lt_or_eq.1 hj).imp_left fun hlt => hbetter j y hy ⟨hlt, hPj⟩
  refine ⟨hvalid, ⟨Nat.lt_succ_self n, hP⟩, ?_, ?_⟩
  · intro j y hy hj
    rcases hleast j y hy hj with hlt | rfl
    · exact hlt.le
    · rw [hvalid.unique hy]
  · intro j y hy hj heq
    rcases hleast j y hy hj with hlt | rfl
    · exact absurd heq hlt.ne'
    · exact le_refl _

/-- The first stays the first when the next valid beam is not better. -/
private theorem First.stays {n i : ℕ} {x y : ℝ} (h : First scan.Counts key (fun i => i < n ∧ P i) i y)
    (hvalid : scan.Counts n x) (hnot : ¬ key x < key y) : First scan.Counts key (fun i => i < n + 1 ∧ P i) i y := by
  have hcases : ∀ j, j < n + 1 ∧ P j → (j < n ∧ P j) ∨ j = n := by
    rintro j ⟨hj, hPj⟩
    exact (Nat.lt_succ_iff_lt_or_eq.1 hj).imp_left fun hlt => ⟨hlt, hPj⟩
  refine ⟨h.valid, ⟨Nat.lt_succ_of_lt h.holds.1, h.holds.2⟩, ?_, ?_⟩
  · intro j z hz hj
    rcases hcases j hj with hbefore | rfl
    · exact h.least j z hz hbefore
    · rw [hz.unique hvalid]
      exact not_lt.1 hnot
  · intro j z hz hj heq
    rcases hcases j hj with hbefore | rfl
    · exact h.first j z hz hbefore heq
    · exact h.holds.1.le

/-- A valid beam that is asked for replaces the answer when it is better. -/
private theorem ScanAnswer.keep {n : ℕ} {x : ℝ} {reading : RangeReading (PyFloat ℝ)}
    {better : RangeReading (PyFloat ℝ) → Bool}
    (h : ScanAnswer scan scan.Counts key (fun i => i < n ∧ P i) kept) (hvalid : scan.Counts n x) (hP : P n)
    (hreads : scan.Reads n x reading)
    (hbetter : ∀ old y, old.rangeM = .fin y → (better old = true ↔ key x < key y)) :
    ScanAnswer scan scan.Counts key (fun i => i < n + 1 ∧ P i) (keep better kept reading) := by
  have hhas : ¬ ∀ i y, scan.Counts i y → ¬ (i < n + 1 ∧ P i) := fun hall => hall n x hvalid ⟨Nat.lt_succ_self n, hP⟩
  unfold RosMcp.keep
  cases kept with
  | none =>
    have hnone := h.none_iff.1 rfl
    have hfirst : First scan.Counts key (fun i => i < n + 1 ∧ P i) n x :=
      .newcomer hvalid hP fun j y hy hj => absurd hj (hnone j y hy)
    refine ⟨iff_of_false (Option.some_ne_none _) hhas, ?_⟩
    intro new hnew
    obtain rfl := Option.some.inj hnew
    exact ⟨n, x, hfirst, hreads⟩
  | some old =>
    obtain ⟨i, y, hfirst, hold⟩ := h.reading old rfl
    have hiff := hbetter old y hold.range
    dsimp only
    by_cases hlt : key x < key y
    · have hbefore : First scan.Counts key (fun i => i < n + 1 ∧ P i) n x :=
        .newcomer hvalid hP fun j z hz hj => hlt.trans_le (hfirst.least j z hz hj)
      rw [if_pos (hiff.2 hlt)]
      refine ⟨iff_of_false (Option.some_ne_none _) hhas, ?_⟩
      intro new hnew
      obtain rfl := Option.some.inj hnew
      exact ⟨n, x, hbefore, hreads⟩
    · rw [if_neg (mt hiff.1 hlt)]
      refine ⟨iff_of_false (Option.some_ne_none _) hhas, ?_⟩
      intro new hnew
      obtain rfl := Option.some.inj hnew
      exact ⟨i, y, hfirst.stays hvalid hlt, hold⟩

end Loop

/-! ### The loop -/

/-- The variables of the loop after the beams below `n`. -/
structure ScanState.Seen (scan : LaserScan) (n : ℕ) (st : ScanState) : Prop where
  nearest : ScanAnswer scan scan.Counts id (fun i => i < n ∧ True) st.nearest
  farthest : ScanAnswer scan scan.Counts Neg.neg (fun i => i < n ∧ True) st.farthest
  sectors : ∀ s, ScanAnswer scan scan.Counts id (fun i => i < n ∧ FallsIn s (scan.beamAngle i)) (st.sectorNearest s)

section Analysis

variable {scan : LaserScan} {st st' : ScanState}

private theorem ScanState.Seen.initial (scan : LaserScan) : ScanState.initial.Seen scan 0 := by
  have hnone : ∀ (key : ℝ → ℝ) (P : ℕ → Prop), ScanAnswer scan scan.Counts key (fun i => i < 0 ∧ P i) none := by
    intro key P
    refine ⟨iff_of_true rfl fun i x _ hi => Nat.not_lt_zero i hi.1, ?_⟩
    intro reading hreading
    cases hreading
  exact ⟨hnone _ _, hnone _ _, fun s => hnone _ _⟩

/-- The branches of the loop tell the beams that count. -/
theorem counts_iff {n : ℕ} {r : PyFloat ℝ} (hr : scan.ranges[n]? = some r) :
    (∃ x, r = .fin x ∧ scan.Counts n x) ↔ ¬ (r.isNan ∨ r < scan.rangeMin) ∧ ¬ (r.isInf ∨ scan.rangeMax < r) := by
  constructor
  · rintro ⟨x, rfl, hcounts⟩
    simp [isNan, isInf, hcounts.notBelow, hcounts.notAbove]
  · rintro ⟨hnotInvalid, hnotBeyond⟩
    obtain ⟨hnan, hbelow⟩ := not_or.1 hnotInvalid
    obtain ⟨hinf, habove⟩ := not_or.1 hnotBeyond
    obtain ⟨x, rfl⟩ := isFinite_of_not hnan hinf
    exact ⟨x, rfl, hr, hbelow, habove⟩

/-- A pass of the loop takes its beam into account. -/
private theorem ScanState.Seen.beam {n : ℕ} {r : PyFloat ℝ} (h : st.Seen scan n) (hr : scan.ranges[n]? = some r)
    (hst : analyzeBeam scan st n r = .ok st') :
    st'.Seen scan (n + 1) := by
  have hiff := counts_iff hr
  have hrange : ∀ x, scan.Counts n x → r = .fin x := fun x hx => Option.some.inj (hr.symm.trans hx.range)
  unfold analyzeBeam at hst
  dsimp only at hst
  by_cases hinvalid : r.isNan ∨ r < scan.rangeMin
  · rw [if_pos hinvalid] at hst
    obtain rfl := Except.ok.inj hst
    have hskip : ∀ x, ¬ scan.Counts n x := fun x hx => (hiff.1 ⟨x, hrange x hx, hx⟩).1 hinvalid
    exact ⟨h.nearest.skip fun x hx => absurd hx (hskip x), h.farthest.skip fun x hx => absurd hx (hskip x),
      fun s => (h.sectors s).skip fun x hx => absurd hx (hskip x)⟩
  · rw [if_neg hinvalid] at hst
    by_cases hbeyond : r.isInf ∨ scan.rangeMax < r
    · rw [if_pos hbeyond] at hst
      obtain rfl := Except.ok.inj hst
      have hskip : ∀ x, ¬ scan.Counts n x := fun x hx => (hiff.1 ⟨x, hrange x hx, hx⟩).2 hbeyond
      exact ⟨h.nearest.skip fun x hx => absurd hx (hskip x), h.farthest.skip fun x hx => absurd hx (hskip x),
        fun s => (h.sectors s).skip fun x hx => absurd hx (hskip x)⟩
    · rw [if_neg hbeyond] at hst
      obtain ⟨x, rfl, hvalid⟩ := hiff.2 ⟨hinvalid, hbeyond⟩
      obtain ⟨sector, hsector, hst⟩ := bind_returns_iff.1 hst
      obtain rfl := Except.ok.inj hst
      have hangle : FallsIn sector (scan.beamAngle n) := sectorForAngle_iff.1 hsector
      have hreads : scan.Reads n x ⟨.fin x, scan.beamAngle n, sector⟩ := ⟨rfl, rfl, hangle⟩
      have hnearer : ∀ (old : RangeReading (PyFloat ℝ)) (y : ℝ), old.rangeM = .fin y →
          (decide (PyFloat.fin x < old.rangeM) = true ↔ id x < id y) := by
        intro old y hold
        rw [hold, decide_eq_true_eq]
        exact fin_lt_fin
      have hfarther : ∀ (old : RangeReading (PyFloat ℝ)) (y : ℝ), old.rangeM = .fin y →
          (decide (old.rangeM < PyFloat.fin x) = true ↔ -x < -y) := by
        intro old y hold
        rw [hold, decide_eq_true_eq, neg_lt_neg_iff]
        exact fin_lt_fin
      constructor
      case nearest => exact h.nearest.keep hvalid trivial hreads hnearer
      case farthest => exact h.farthest.keep hvalid trivial hreads hfarther
      case sectors =>
        intro s
        by_cases hs : s = sector
        · subst hs
          simp only [Function.update_self]
          exact (h.sectors s).keep hvalid hangle hreads hnearer
        · simp only [Function.update_of_ne hs]
          refine (h.sectors s).skip fun _ _ hfalls => hs ?_
          exact Except.ok.inj ((sectorForAngle_iff.2 hfalls).symm.trans hsector)

/-- The loop takes all beams into account. -/
private theorem ScanState.Seen.beams {rs : List (PyFloat ℝ)} {n : ℕ} (h : st.Seen scan n)
    (hrs : scan.ranges.drop n = rs)
    (hst : analyzeBeams scan st n rs = .ok st') : st'.Seen scan (n + rs.length) := by
  induction rs generalizing st n with
  | nil =>
    obtain rfl := Except.ok.inj hst
    exact h
  | cons r rs ih =>
    obtain ⟨st₁, h₁, h₂⟩ := bind_returns_iff.1 hst
    have hr : scan.ranges[n]? = some r := by
      rw [← List.head?_drop, hrs, List.head?_cons]
    have hrest : scan.ranges.drop (n + 1) = rs := by
      rw [← List.tail_drop, hrs, List.tail_cons]
    have hseen := ih (h.beam hr h₁) hrest h₂
    rwa [List.length_cons, ← Nat.add_assoc, Nat.add_right_comm]

/-- The loop counts the invalid beams. -/
private theorem analyzeBeams_invalidCount {rs : List (PyFloat ℝ)} {n : ℕ} (hst : analyzeBeams scan st n rs = .ok st') :
    st'.invalidCount = st.invalidCount + rs.countP fun r => decide (scan.Invalid r) := by
  induction rs generalizing st n with
  | nil =>
    obtain rfl := Except.ok.inj hst
    rfl
  | cons r rs ih =>
    obtain ⟨st₁, h₁, h₂⟩ := bind_returns_iff.1 hst
    have hinvalid : (r.isNan = true ∨ r < scan.rangeMin) ↔ scan.Invalid r := by
      rw [LaserScan.Invalid, isNan_iff]
    have hone : st₁.invalidCount = st.invalidCount + if scan.Invalid r then 1 else 0 := by
      unfold analyzeBeam at h₁
      dsimp only at h₁
      simp only [hinvalid] at h₁
      split at h₁
      · next h =>
        obtain rfl := Except.ok.inj h₁
        rw [if_pos h]
      · next h =>
        rw [if_neg h]
        split at h₁
        · obtain rfl := Except.ok.inj h₁
          rfl
        · obtain ⟨sector, -, h₁⟩ := bind_returns_iff.1 h₁
          obtain rfl := Except.ok.inj h₁
          rfl
    rw [ih h₂, hone, List.countP_cons, Nat.add_assoc, Nat.add_comm (List.countP _ _)]
    simp

/-- The nearest reading is the nearest one of its sector. -/
private theorem ScanSpec.nearest_sector {analysis : LaserScanAnalysis} (h : ScanSpec scan scan.Counts analysis)
    {reading : RangeReading (PyFloat ℝ)} (hreading : analysis.nearest = some reading) :
    analysis.sectors reading.sector = some reading := by
  obtain ⟨i, x, hfirst, hreads⟩ := h.nearest.reading reading hreading
  have hanswers := h.sectors reading.sector
  cases hs : analysis.sectors reading.sector with
  | none => exact absurd hreads.sector (hanswers.none_iff.1 hs i x hfirst.valid)
  | some reading' =>
    obtain ⟨j, y, hfirst', hreads'⟩ := hanswers.reading reading' hs
    -- each of the two beams comes no later than the other
    have hxy : x = y :=
      le_antisymm (hfirst.least j y hfirst'.valid trivial) (hfirst'.least i x hfirst.valid hreads.sector)
    subst hxy
    obtain rfl : i = j :=
      le_antisymm (hfirst.first j x hfirst'.valid trivial rfl) (hfirst'.first i x hfirst.valid hreads.sector rfl)
    rw [hreads'.unique hreads]

/-- What the analysis returns meets the specification. -/
theorem scanSpec_of_returns {analysis : LaserScanAnalysis} (h : analyzeLaserScan scan = .ok analysis) :
    ScanSpec scan scan.Counts analysis := by
  obtain ⟨st, hst, hanalysis⟩ := bind_returns_iff.1 h
  obtain rfl := Except.ok.inj hanalysis
  have hseen := ScanState.Seen.beams (.initial scan) List.drop_zero hst
  rw [Nat.zero_add] at hseen
  have hall : ∀ i x, scan.Counts i x → i < scan.ranges.length := fun i x hvalid =>
    (List.getElem?_eq_some_iff.1 hvalid.range).1
  constructor
  case invalid => exact (analyzeBeams_invalidCount hst).trans (Nat.zero_add _)
  case nearest => exact hseen.nearest.congr fun i x hvalid => and_iff_right (hall i x hvalid)
  case farthest => exact hseen.farthest.congr fun i x hvalid => and_iff_right (hall i x hvalid)
  case sectors => exact fun s => (hseen.sectors s).congr fun i x hvalid => and_iff_right (hall i x hvalid)

/-- The specification speaks of the valid beams when the limits are numbers. -/
private theorem ScanSpec.valid {analysis : LaserScanAnalysis} (h : ScanSpec scan scan.Counts analysis)
    (hlo : scan.rangeMin ≠ .nan) (hhi : scan.rangeMax ≠ .nan) : ScanSpec scan scan.Valid analysis := by
  have hsame : scan.Counts = scan.Valid := by
    funext i x
    exact propext (LaserScan.counts_iff_valid hlo hhi)
  rwa [hsame] at h

/-- The analysis of a scan with finite limits.  It returns when the angles are finite; with other angles it meets the
specification too, where it returns. -/
theorem analyzeLaserScan_spec {lo hi : ℝ} (hlo : scan.rangeMin = .fin lo) (hhi : scan.rangeMax = .fin hi) :
    (scan.angleMin.IsFinite → scan.angleIncrement.IsFinite → ∃ analysis, analyzeLaserScan scan = .ok analysis) ∧
      (∀ analysis, analyzeLaserScan scan = .ok analysis → ScanSpec scan scan.Valid analysis ∧
        ∀ reading, analysis.nearest = some reading → analysis.sectors reading.sector = some reading) ∧
      ∀ angle : ℝ, ∃! s, sectorForAngle (.fin angle) = .ok s := by
  refine ⟨?_, ?_, ?_⟩
  · rintro ⟨a, ha⟩ ⟨b, hb⟩
    exact analyzeLaserScan_ok ha hb
  · intro analysis h
    have hspec := scanSpec_of_returns h
    refine ⟨hspec.valid ?_ ?_, fun reading hreading => hspec.nearest_sector hreading⟩
    · simp [hlo]
    · simp [hhi]
  · intro angle
    obtain ⟨s, hs, -⟩ := sectorForAngle_fin angle
    refine ⟨s, hs, ?_⟩
    intro s' hs'
    exact Except.ok.inj (hs'.symm.trans hs)

end Analysis

/-- A dropped beam, two equally near beams, and a beam without an echo, all straight ahead. -/
def tiedScan : LaserScan where
  header := none
  ranges := [.nan, .fin 1, .fin 1, .posInf]
  angleMin := .fin 0
  angleIncrement := .fin 0
  rangeMin := .fin 0
  rangeMax := .fin 1

theorem analyzeLaserScan_tied :
    ∃ analysis, analyzeLaserScan tiedScan = .ok analysis ∧ ScanSpec tiedScan tiedScan.Valid analysis := by
  have hspec := @analyzeLaserScan_spec tiedScan 0 1 rfl rfl
  obtain ⟨analysis, hanalysis⟩ := hspec.1 (isFinite_fin 0) (isFinite_fin 0)
  exact ⟨analysis, hanalysis, (hspec.2.1 analysis hanalysis).1⟩

end RosMcp
