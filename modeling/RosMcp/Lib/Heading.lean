import Mathlib.Algebra.Quaternion
import Mathlib.Analysis.SpecialFunctions.Complex.Arg

/-!
# Headings of rotations

A unit quaternion turns space by `v ↦ q * v * star q`.  Its heading is where it takes the first axis, seen from above as
a complex number.  A turn about the vertical axis multiplies the heading by a unit number (`heading_turn_mul`), so the
angle of the heading grows by the angle of the turn, up to full turns (`arg_heading_turn_mul`).
-/

open Quaternion

/-- A vector seen from above. -/
def fromAbove (v : ℍ[ℝ]) : ℂ := ⟨v.imI, v.imJ⟩

/-- The first axis. -/
def firstAxis : ℍ[ℝ] := ⟨0, 1, 0, 0⟩

/-- Where a rotation takes the first axis, seen from above. -/
noncomputable def heading (q : ℍ[ℝ]) : ℂ := fromAbove (q * firstAxis * star q)

/-- The turn about the vertical axis by twice the angle. -/
noncomputable def turn (half : ℝ) : ℍ[ℝ] := ⟨Real.cos half, 0, 0, Real.sin half⟩

@[simp] theorem re_firstAxis : firstAxis.re = 0 := rfl
@[simp] theorem imI_firstAxis : firstAxis.imI = 1 := rfl
@[simp] theorem imJ_firstAxis : firstAxis.imJ = 0 := rfl
@[simp] theorem imK_firstAxis : firstAxis.imK = 0 := rfl

@[simp] theorem re_turn (half : ℝ) : (turn half).re = Real.cos half := rfl
@[simp] theorem imI_turn (half : ℝ) : (turn half).imI = 0 := rfl
@[simp] theorem imJ_turn (half : ℝ) : (turn half).imJ = 0 := rfl
@[simp] theorem imK_turn (half : ℝ) : (turn half).imK = Real.sin half := rfl

theorem heading_eq (q : ℍ[ℝ]) :
    heading q = ⟨q.re ^ 2 + q.imI ^ 2 - q.imJ ^ 2 - q.imK ^ 2, 2 * (q.re * q.imK + q.imI * q.imJ)⟩ := by
  apply Complex.ext
  · simp [heading, fromAbove]
    ring
  · simp [heading, fromAbove]
    ring

/-- The heading of a unit quaternion. -/
theorem heading_of_unit {q : ℍ[ℝ]} (hq : normSq q = 1) :
    heading q = ⟨1 - 2 * (q.imJ ^ 2 + q.imK ^ 2), 2 * (q.re * q.imK + q.imI * q.imJ)⟩ := by
  rw [normSq_def'] at hq
  rw [heading_eq]
  congr 1
  linear_combination hq

/-- A quaternion and its negative turn space alike. -/
theorem heading_neg (q : ℍ[ℝ]) : heading (-q) = heading q := by
  simp [heading_eq]

theorem normSq_turn (half : ℝ) : normSq (turn half) = 1 := by
  simp [normSq_def']

/-- A turn about the vertical axis turns what is seen from above by its angle. -/
theorem fromAbove_turn (a : ℝ) (v : ℍ[ℝ]) :
    fromAbove (turn (a / 2) * v * star (turn (a / 2))) = Complex.exp (a * Complex.I) * fromAbove v := by
  have hcos : Real.cos a = Real.cos (a / 2) ^ 2 - Real.sin (a / 2) ^ 2 := by
    rw [← Real.cos_two_mul', mul_div_cancel₀ a two_ne_zero]
  have hsin : Real.sin a = 2 * Real.sin (a / 2) * Real.cos (a / 2) := by
    rw [← Real.sin_two_mul, mul_div_cancel₀ a two_ne_zero]
  apply Complex.ext
  · simp [fromAbove, Complex.exp_ofReal_mul_I_re, Complex.exp_ofReal_mul_I_im, hcos, hsin]
    ring
  · simp [fromAbove, Complex.exp_ofReal_mul_I_re, Complex.exp_ofReal_mul_I_im, hcos, hsin]
    ring

theorem heading_turn_mul (a : ℝ) (q : ℍ[ℝ]) :
    heading (turn (a / 2) * q) = Complex.exp (a * Complex.I) * heading q := by
  have hassoc : turn (a / 2) * q * firstAxis * star (turn (a / 2) * q) =
      turn (a / 2) * (q * firstAxis * star q) * star (turn (a / 2)) := by
    rw [star_mul]
    simp only [mul_assoc]
  rw [heading, hassoc, fromAbove_turn]
  rfl

/-- The angle of the heading grows by the turn. -/
theorem arg_heading_turn_mul {q : ℍ[ℝ]} (hq : heading q ≠ 0) (a : ℝ) :
    (heading (turn (a / 2) * q)).arg = toIocMod Real.two_pi_pos (-Real.pi) (a + (heading q).arg) := by
  have hpolar : heading (turn (a / 2) * q) =
      ‖heading q‖ * (Complex.cos (a + (heading q).arg : ℝ) + Complex.sin (a + (heading q).arg : ℝ) * Complex.I) := by
    rw [heading_turn_mul, ← Complex.exp_mul_I, Complex.ofReal_add, add_mul, Complex.exp_add]
    conv_lhs => rw [← Complex.norm_mul_exp_arg_mul_I (heading q)]
    ring
  rw [hpolar, Complex.arg_mul_cos_add_sin_mul_I_eq_toIocMod (norm_pos_iff.2 hq)]
