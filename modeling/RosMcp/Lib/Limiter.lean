import Mathlib.Order.Interval.Set.OrdConnected
import Mathlib.Algebra.Order.Group.Defs

/-!
# Magnitude and slew limiters

`clamp` cuts a value to an interval, and `clampDelta` lets a value move away from the previous one by at most a given
amount.  A slew-limited value lies between the previous and the requested one (`clampDelta_mem_uIcc`), so every
order-connected set that holds both holds it too: a bound on the requests is an invariant of a loop that limits them.
It also stays within the given amount of the previous one (`clampDelta_mem_Icc`), and from a value that is not negative
it gets as far as the request or the limit allow (`le_clampDelta`).
-/

variable {α : Type*} [LinearOrder α]

/-- `value` cut to the interval from `lo` to `hi`. -/
def clamp (value lo hi : α) : α := max lo (min hi value)

theorem clamp_mem (value : α) {lo hi : α} (h : lo ≤ hi) : clamp value lo hi ∈ Set.Icc lo hi :=
  ⟨le_max_left _ _, max_le h (min_le_left _ _)⟩

variable [AddCommGroup α]

/-- `new` kept within `maxDelta` of `prev`; a limit that is not positive holds the previous value. -/
def clampDelta (new prev maxDelta : α) : α :=
  if maxDelta ≤ 0 then prev
  else
    let delta := new - prev
    if maxDelta < delta then prev + maxDelta
    else if delta < -maxDelta then prev - maxDelta
    else new

variable [IsOrderedAddMonoid α]

/-- A slew-limited value lies between the previous and the requested one. -/
theorem clampDelta_mem_uIcc (new prev maxDelta : α) : clampDelta new prev maxDelta ∈ Set.uIcc prev new := by
  unfold clampDelta
  by_cases hd : maxDelta ≤ 0
  · rw [if_pos hd]
    exact Set.left_mem_uIcc
  · rw [if_neg hd]
    have hpos : 0 ≤ maxDelta := (not_le.1 hd).le
    dsimp only
    by_cases hup : maxDelta < new - prev
    · rw [if_pos hup, Set.mem_uIcc]
      refine Or.inl ⟨le_add_of_nonneg_right hpos, ?_⟩
      rw [add_comm]
      exact (lt_sub_iff_add_lt.1 hup).le
    · rw [if_neg hup]
      by_cases hdown : new - prev < -maxDelta
      · rw [if_pos hdown, Set.mem_uIcc]
        refine Or.inr ⟨?_, sub_le_self _ hpos⟩
        have h := (sub_lt_iff_lt_add.1 hdown).le
        rwa [neg_add_eq_sub] at h
      · rw [if_neg hdown]
        exact Set.right_mem_uIcc

/-- What holds of the previous and of the requested value holds of the limited one. -/
theorem clampDelta_mem {s : Set α} [s.OrdConnected] {new prev : α} (maxDelta : α) (hprev : prev ∈ s) (hnew : new ∈ s) :
    clampDelta new prev maxDelta ∈ s :=
  Set.OrdConnected.uIcc_subset ‹_› hprev hnew (clampDelta_mem_uIcc new prev maxDelta)

/-- A slew-limited value stays within the limit of the previous one. -/
theorem clampDelta_mem_Icc (new prev : α) {maxDelta : α} (h : 0 ≤ maxDelta) :
    clampDelta new prev maxDelta ∈ Set.Icc (prev - maxDelta) (prev + maxDelta) := by
  have hlo : prev - maxDelta ≤ prev := sub_le_self _ h
  have hhi : prev ≤ prev + maxDelta := le_add_of_nonneg_right h
  unfold clampDelta
  by_cases hd : maxDelta ≤ 0
  · rw [if_pos hd]
    exact ⟨hlo, hhi⟩
  · rw [if_neg hd]
    dsimp only
    by_cases hup : maxDelta < new - prev
    · rw [if_pos hup]
      exact ⟨hlo.trans hhi, le_refl _⟩
    · rw [if_neg hup]
      by_cases hdown : new - prev < -maxDelta
      · rw [if_pos hdown]
        exact ⟨le_refl _, hlo.trans hhi⟩
      · rw [if_neg hdown]
        constructor
        · have hle := le_sub_iff_add_le.1 (not_lt.1 hdown)
          rwa [neg_add_eq_sub] at hle
        · have hle := sub_le_iff_le_add.1 (not_lt.1 hup)
          rwa [add_comm] at hle

/-- The limiter does not depend on the side of zero. -/
theorem clampDelta_neg (new prev maxDelta : α) :
    clampDelta (-new) (-prev) maxDelta = -clampDelta new prev maxDelta := by
  unfold clampDelta
  by_cases hd : maxDelta ≤ 0
  · rw [if_pos hd, if_pos hd]
  · have hdelta : -new - -prev = -(new - prev) := by rw [neg_sub_neg, neg_sub]
    have hpos : 0 < maxDelta := not_le.1 hd
    rw [if_neg hd, if_neg hd]
    dsimp only
    rw [hdelta]
    by_cases hup : maxDelta < new - prev
    · have hdown : ¬ maxDelta < -(new - prev) := by
        rw [not_lt]
        exact (neg_nonpos.2 (hpos.trans hup).le).trans hpos.le
      rw [if_neg hdown, if_pos (neg_lt_neg hup), if_pos hup, neg_add']
    · by_cases hdown : new - prev < -maxDelta
      · rw [if_pos (lt_neg_of_lt_neg hdown), if_neg hup, if_pos hdown, neg_sub, neg_add_eq_sub]
      · rw [if_neg fun h => hdown (lt_neg_of_lt_neg h), if_neg fun h => hup (neg_lt_neg_iff.1 h), if_neg hup,
          if_neg hdown]

/-- From a value that is not negative, the limiter reaches at least the request or the limit. -/
theorem le_clampDelta {new prev maxDelta c : α} (hprev : 0 ≤ prev) (hnew : c ≤ new) (hdelta : c ≤ maxDelta)
    (hpos : 0 < maxDelta) : c ≤ clampDelta new prev maxDelta := by
  unfold clampDelta
  rw [if_neg (not_le.2 hpos)]
  dsimp only
  by_cases hup : maxDelta < new - prev
  · rw [if_pos hup]
    exact hdelta.trans (le_add_of_nonneg_left hprev)
  · rw [if_neg hup]
    by_cases hdown : new - prev < -maxDelta
    · rw [if_pos hdown]
      have hlt := sub_lt_iff_lt_add.1 hdown
      rw [neg_add_eq_sub] at hlt
      exact hnew.trans hlt.le
    · rw [if_neg hdown]
      exact hnew
