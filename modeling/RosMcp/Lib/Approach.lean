import Mathlib.Algebra.Order.Field.Basic
import Mathlib.Algebra.Order.Floor.Semiring
import Mathlib.Algebra.Order.Group.MinMax
import Mathlib.Tactic.Linarith
import Mathlib.Tactic.Positivity
import Mathlib.Tactic.Ring
import RosMcp.Lib.Limiter

/-!
# A slew-limited proportional approach

A controller approaches a target at the distance `e`: in each tick it requests the speed `kp * e`, cut to `vmax`, and
the speed follows the request by at most `a * dt`.  While it brakes it lags behind the request, and could pass the
target.  It does not when `kp * vmax ≤ 2 * a * (1 - kp * dt)` (`ApproachGains`): in every tick the speed `v` can still
be braked down within the distance, `v ^ 2 ≤ 2 * a * e` (`Approaching.step`).  And the speed is at least `leastApproach`
as long as the distance is above a tolerance, so the distance goes below it, after a number of ticks that `ceil_div_lt`
counts.
-/

variable {K : Type*} [Field K] [LinearOrder K] [IsStrictOrderedRing K]

/-- Gains with which the approach does not overshoot. -/
structure ApproachGains (kp vmax a dt : K) : Prop where
  gain : 0 < kp
  speed : 0 < vmax
  acceleration : 0 < a
  period : 0 < dt
  damped : kp * vmax ≤ 2 * a * (1 - kp * dt)

/-- The speed of a tick, after one with the speed `prev`. -/
def approachSpeed (kp vmax a dt prev e : K) : K := clampDelta (clamp (kp * e) (-vmax) vmax) prev (a * dt)

/-- A speed that can be braked down within the distance `e`. -/
structure Approaching (vmax a e v : K) : Prop where
  nonneg : 0 ≤ v
  le : v ≤ vmax
  brakes : v ^ 2 ≤ 2 * a * e

/-- A speed that every tick outside the tolerance has at least. -/
def leastApproach (kp vmax a dt tol : K) : K := min (min (kp * tol) vmax) (a * dt)

variable {kp vmax a dt e v tol : K}

theorem ApproachGains.leastApproach_pos (hg : ApproachGains kp vmax a dt) (htol : 0 < tol) :
    0 < leastApproach kp vmax a dt tol :=
  lt_min (lt_min (mul_pos hg.gain htol) hg.speed) (mul_pos hg.acceleration hg.period)

/-- The target is not behind. -/
theorem Approaching.distance_nonneg (hg : ApproachGains kp vmax a dt) (h : Approaching vmax a e v) : 0 ≤ e := by
  have ha : 0 < 2 * a := by linarith [hg.acceleration]
  exact nonneg_of_mul_nonneg_right ((sq_nonneg v).trans h.brakes) ha

/-- At rest, before the target. -/
theorem approaching_rest (hg : ApproachGains kp vmax a dt) (he : 0 ≤ e) : Approaching vmax a e 0 where
  nonneg := le_refl 0
  le := hg.speed.le
  brakes := by
    rw [zero_pow two_ne_zero]
    exact mul_nonneg (by linarith [hg.acceleration]) he

/-- A speed within the request can be braked down after the tick. -/
theorem brakes_of_le_request (hg : ApproachGains kp vmax a dt) (hv : 0 ≤ v) (hle : v ≤ vmax) (hrequest : v ≤ kp * e) :
    v ^ 2 ≤ 2 * a * (e - v * dt) := by
  have ha := hg.acceleration
  have hscaled : kp * v ^ 2 ≤ kp * (2 * a * (e - v * dt)) := by
    calc kp * v ^ 2 = v * (kp * v) := by ring
      _ ≤ v * (kp * vmax) := mul_le_mul_of_nonneg_left (mul_le_mul_of_nonneg_left hle hg.gain.le) hv
      _ ≤ v * (2 * a * (1 - kp * dt)) := mul_le_mul_of_nonneg_left hg.damped hv
      _ = 2 * a * (v - kp * v * dt) := by ring
      _ ≤ 2 * a * (kp * e - kp * v * dt) := mul_le_mul_of_nonneg_left (by linarith) (by linarith)
      _ = kp * (2 * a * (e - v * dt)) := by ring
  exact le_of_mul_le_mul_left hscaled hg.gain

/-- So can a speed that was braked down by a full tick. -/
theorem brakes_of_braked (h : v ^ 2 ≤ 2 * a * e) :
    (v - a * dt) ^ 2 ≤ 2 * a * (e - (v - a * dt) * dt) := by
  calc (v - a * dt) ^ 2 = v ^ 2 - 2 * a * ((v - a * dt) * dt) - (a * dt) ^ 2 := by ring
    _ ≤ v ^ 2 - 2 * a * ((v - a * dt) * dt) := sub_le_self _ (sq_nonneg _)
    _ ≤ 2 * a * e - 2 * a * ((v - a * dt) * dt) := sub_le_sub_right h _
    _ = 2 * a * (e - (v - a * dt) * dt) := by ring

/-- The speed of a tick is within the limit, and the target is not passed. -/
theorem Approaching.step (hg : ApproachGains kp vmax a dt) (h : Approaching vmax a e v) :
    Approaching vmax a (e - approachSpeed kp vmax a dt v e * dt) (approachSpeed kp vmax a dt v e) := by
  have hlimit : 0 < a * dt := mul_pos hg.acceleration hg.period
  have hke : 0 ≤ kp * e := mul_nonneg hg.gain.le (h.distance_nonneg hg)
  have hrequest : clamp (kp * e) (-vmax) vmax = min vmax (kp * e) :=
    max_eq_right ((neg_nonpos.2 hg.speed.le).trans (le_min hg.speed.le hke))
  have hmem : approachSpeed kp vmax a dt v e ∈ Set.Icc 0 vmax := by
    refine clampDelta_mem _ ⟨h.nonneg, h.le⟩ ?_
    rw [hrequest]
    exact ⟨le_min hg.speed.le hke, min_le_left _ _⟩
  refine ⟨hmem.1, hmem.2, ?_⟩
  by_cases hlag : clamp (kp * e) (-vmax) vmax - v < -(a * dt)
  · -- the speed lags behind a request that falls faster
    have hbraked : approachSpeed kp vmax a dt v e = v - a * dt := by
      unfold approachSpeed clampDelta
      rw [if_neg (not_le.2 hlimit)]
      dsimp only
      rw [if_neg (not_lt.2 (by linarith)), if_pos hlag]
    rw [hbraked]
    exact brakes_of_braked h.brakes
  · have hwithin : approachSpeed kp vmax a dt v e ≤ clamp (kp * e) (-vmax) vmax := by
      unfold approachSpeed clampDelta
      rw [if_neg (not_le.2 hlimit)]
      dsimp only
      rw [if_neg hlag]
      split
      · linarith
      · exact le_refl _
    refine brakes_of_le_request hg hmem.1 hmem.2 (hwithin.trans ?_)
    rw [hrequest]
    exact min_le_right _ _

/-- Outside the tolerance the speed is at least the least one. -/
theorem Approaching.leastApproach_le (hg : ApproachGains kp vmax a dt) (h : Approaching vmax a e v) (hfar : tol ≤ e) :
    leastApproach kp vmax a dt tol ≤ approachSpeed kp vmax a dt v e := by
  refine le_clampDelta h.nonneg ?_ (min_le_right _ _) (mul_pos hg.acceleration hg.period)
  unfold clamp
  refine le_max_of_le_right ((min_le_left _ _).trans (le_min (min_le_right _ _) ((min_le_left _ _).trans ?_)))
  exact mul_le_mul_of_nonneg_left hfar hg.gain.le

/-- The approach does not depend on the side of the target. -/
theorem approachSpeed_neg (hg : ApproachGains kp vmax a dt) (prev e : K) :
    clampDelta (clamp (kp * -e) (-vmax) vmax) (-prev) (a * dt) = -approachSpeed kp vmax a dt prev e := by
  have hclamp : clamp (kp * -e) (-vmax) vmax = -clamp (kp * e) (-vmax) vmax := by
    have hspeed : -vmax ≤ vmax := by linarith [hg.speed]
    unfold clamp
    rw [mul_neg, ← min_neg_neg, ← max_neg_neg, neg_neg, max_min_distrib_left, max_eq_right hspeed]
  unfold approachSpeed
  rw [hclamp, clampDelta_neg]

/-- A way of at least `c` leaves one `c` less. -/
theorem ceil_div_lt [FloorSemiring K] {x c d : K} (hc : 0 < c) (hd : c ≤ d) (hx : 0 < x) :
    ⌈(x - d) / c⌉₊ < ⌈x / c⌉₊ := by
  have hpos : 0 < ⌈x / c⌉₊ := Nat.ceil_pos.2 (div_pos hx hc)
  have hle : ⌈(x - d) / c⌉₊ ≤ ⌈x / c⌉₊ - 1 := by
    rw [← Nat.ceil_sub_one]
    refine Nat.ceil_mono ?_
    rw [div_sub_one hc.ne']
    exact div_le_div_of_nonneg_right (by linarith) hc.le
  omega
